import Registrar.Number.Shortest
import Registrar.Proofs.Number.Rounding
/-!
# The fewest digits read back

A decimal `ReadsAs` a number if it has a digit other than zero and lies in the interval around the
number. The search for the fewest digits gives such a decimal (`shortest_readsAs`): whatever a grid
yields has been tested, and the grid of 17 digits always yields one, since its steps are shorter
than the interval. Nothing depends on the leading digit being found exactly, only on its power of
ten not passing the number (`powerLe_leading`).
-/
namespace Registrar.Number.Decimal

open Double (Canonical RoundsTo Narrow lower leastExponent greatestExponent)

/-- The value of a decimal. -/
def toRat (d : Decimal) : ℚ := d.digits * 10 ^ d.exponent

/-- The decimal is not zero and rounds to `m * 2 ^ e`. -/
def ReadsAs (m : Nat) (e : Int) (d : Decimal) : Prop := d.digits ≠ 0 ∧ RoundsTo m e d.toRat

/-! ## Zeros at the end -/

theorem toRat_stripZeros (fuel : Nat) (d : Decimal) : (stripZeros fuel d).toRat = d.toRat := by
  induction fuel generalizing d with
  | zero => rfl
  | succ fuel ih =>
    unfold stripZeros
    split
    · rename_i h
      have hten : 10 * (d.digits / 10) = d.digits := by omega
      have hcast : (d.digits : ℚ) = 10 * ((d.digits / 10 : Nat) : ℚ) := by exact_mod_cast hten.symm
      rw [ih]
      simp only [toRat]
      rw [hcast, zpow_add_one₀ (by norm_num)]
      ring
    · rfl

theorem digits_stripZeros_ne_zero (fuel : Nat) {d : Decimal} (h : d.digits ≠ 0) :
    (stripZeros fuel d).digits ≠ 0 := by
  induction fuel generalizing d with
  | zero => exact h
  | succ fuel ih =>
    unfold stripZeros
    split
    · rename_i hzero
      exact ih (by simp only [ne_eq]; omega)
    · exact h

/-! ## Powers of ten -/

theorem onGrid_value (p : Int) (a : Nat) {b : Nat} (hb : 0 < b) :
    ((onGrid p a b).1 : ℚ) / (onGrid p a b).2 = a / b / 10 ^ p ∧ 0 < (onGrid p a b).2 := by
  have h := Double.inUnits_value (by decide : 0 < 10) a hb p (r := onGrid p a b) rfl
  rwa [Nat.cast_ofNat] at h

theorem powerLe_iff (p : Int) (a : Nat) {b : Nat} (hb : 0 < b) :
    powerLe p a b = true ↔ (10 : ℚ) ^ p ≤ a / b := by
  have hb' : (0 : ℚ) < b := by exact_mod_cast hb
  unfold powerLe
  split
  · rename_i hp
    obtain ⟨n, rfl⟩ : ∃ n : Nat, p = -n := ⟨p.natAbs, by omega⟩
    have hpow : (0 : ℚ) < 10 ^ n := by positivity
    rw [le_div_iff₀ hb', zpow_neg, zpow_natCast, inv_mul_le_iff₀ hpow, mul_comm, decide_eq_true_iff]
    simp only [Int.natAbs_neg, Int.natAbs_natCast, Nat.pow_eq]
    exact_mod_cast Iff.rfl
  · rename_i hp
    obtain ⟨n, rfl⟩ : ∃ n : Nat, p = n := ⟨p.natAbs, by omega⟩
    rw [le_div_iff₀ hb', zpow_natCast, mul_comm, decide_eq_true_iff]
    simp only [Int.natAbs_natCast, Nat.pow_eq]
    exact_mod_cast Iff.rfl

theorem powerLe_leading {a b : Nat} (fuel : Nat) {p : Int} (h : powerLe p a b = true) :
    powerLe (leading a b fuel p) a b = true := by
  induction fuel generalizing p with
  | zero => exact h
  | succ fuel ih =>
    unfold leading
    split
    · rename_i hmore
      exact ih hmore
    · exact h

/-- The estimate of the leading digit's exponent does not pass the number: `2 ^ 10` is a little more
than `10 ^ 3`, and `2 ^ 53` a little less than `10 ^ 16`. -/
theorem ten_zpow_estimate_le {k : Int} (hlow : -1074 ≤ k) (hhigh : k ≤ 1023) :
    (10 : ℚ) ^ (k * 30103 / 100000 - 1) ≤ 2 ^ k := by
  by_cases hk : 0 ≤ k
  · obtain ⟨n, rfl⟩ : ∃ n : Nat, k = n := ⟨k.natAbs, by omega⟩
    by_cases hnegative : (n : Int) * 30103 / 100000 - 1 < 0
    · calc (10 : ℚ) ^ ((n : Int) * 30103 / 100000 - 1) ≤ 10 ^ (0 : Int) :=
            zpow_le_zpow_right₀ (by norm_num) (by omega)
        _ = 2 ^ (0 : Int) := by norm_num
        _ ≤ 2 ^ (n : Int) := zpow_le_zpow_right₀ (by norm_num) (by omega)
    obtain ⟨p, hp⟩ : ∃ p : Nat, (n : Int) * 30103 / 100000 - 1 = p :=
      ⟨_, (Int.toNat_of_nonneg (by omega)).symm⟩
    have hle : 10 * p ≤ 3 * n := by omega
    rw [hp, zpow_natCast, zpow_natCast]
    refine le_of_pow_le_pow_left₀ (by norm_num : 3 ≠ 0) (by positivity) ?_
    calc ((10 : ℚ) ^ p) ^ 3 = (10 ^ 3) ^ p := by rw [← pow_mul, ← pow_mul, mul_comm]
      _ ≤ (2 ^ 10) ^ p := by gcongr; norm_num
      _ = 2 ^ (10 * p) := by rw [pow_mul]
      _ ≤ 2 ^ (3 * n) := pow_le_pow_right₀ (by norm_num) hle
      _ = (2 ^ n) ^ 3 := by rw [← pow_mul, mul_comm]
  · obtain ⟨n, rfl⟩ : ∃ n : Nat, k = -n := ⟨k.natAbs, by omega⟩
    obtain ⟨p, hp⟩ : ∃ p : Nat, -(n : Int) * 30103 / 100000 - 1 = -p :=
      ⟨(-(-(n : Int) * 30103 / 100000 - 1)).toNat, by omega⟩
    have hle : 16 * n ≤ 53 * p := by omega
    rw [hp, zpow_neg, zpow_neg, zpow_natCast, zpow_natCast]
    refine inv_anti₀ (by positivity) ?_
    refine le_of_pow_le_pow_left₀ (by norm_num : 16 ≠ 0) (by positivity) ?_
    calc ((2 : ℚ) ^ n) ^ 16 = 2 ^ (16 * n) := by rw [← pow_mul, mul_comm]
      _ ≤ 2 ^ (53 * p) := pow_le_pow_right₀ (by norm_num) hle
      _ = (2 ^ 53) ^ p := by rw [pow_mul]
      _ ≤ (10 ^ 16) ^ p := by gcongr; norm_num
      _ = (10 ^ p) ^ 16 := by rw [← pow_mul, ← pow_mul, mul_comm]

/-! ## Grids -/

variable {tie : Tie} {m : Nat} {e : Int}

/-- Two ratios compare as the products across. -/
theorem cross_iff {k unit whole x y : Nat} {u v : ℚ} (hunit : (unit : ℚ) = u * whole)
    (hx : (x : ℚ) = v * y) (hwhole : 0 < whole) (hy : 0 < y) :
    (k * unit * y ≤ x * whole ↔ k * u ≤ v) ∧ (x * whole ≤ k * unit * y ↔ v ≤ k * u) := by
  have hpos : (0 : ℚ) < whole * y := by exact_mod_cast Nat.mul_pos hwhole hy
  have hleft : ((k * unit * y : Nat) : ℚ) = k * u * (whole * y) := by
    push_cast
    rw [hunit]
    ring
  have hright : ((x * whole : Nat) : ℚ) = v * (whole * y) := by
    push_cast
    rw [hx]
    ring
  constructor
  · rw [← Nat.cast_le (α := ℚ), hleft, hright]
    exact mul_le_mul_iff_left₀ hpos
  · rw [← Nat.cast_le (α := ℚ), hleft, hright]
    exact mul_le_mul_iff_left₀ hpos

/-- The lower end of the interval in quarters of the last place. -/
theorem lower_quarters (hpos : 0 < m) (e : Int) :
    ((if Narrow m e then 4 * m - 1 else 4 * m - 2 : Nat) : ℚ) * (2 ^ e / 4) =
      lower m e * 2 ^ e := by
  unfold lower
  split
  · rw [Nat.cast_sub (by omega)]
    push_cast
    ring
  · rw [Nat.cast_sub (by omega)]
    push_cast
    ring

theorem inside_iff (hpos : 0 < m) (place : Int) (d : Nat) :
    inside m e place d = true ↔ RoundsTo m e (d * 10 ^ place) := by
  obtain ⟨hunit, hwhole⟩ := Double.ratio_value 1 (e - 2)
  obtain ⟨hgrid, hy⟩ := onGrid_value (-place) d Nat.one_pos
  have hquarter : (2 : ℚ) ^ (e - 2) = 2 ^ e / 4 := by
    rw [zpow_sub₀ (by norm_num)]
    norm_num
  rw [Nat.cast_one, one_mul, hquarter,
    div_eq_iff (by exact_mod_cast hwhole.ne')] at hunit
  rw [Nat.cast_one, div_one, zpow_neg, div_inv_eq_mul,
    div_eq_iff (by exact_mod_cast hy.ne')] at hgrid
  -- the ends of the interval in quarters of the last place
  obtain ⟨low, hlow, hlower⟩ : ∃ low : Nat, (if (m == Nat.pow 2 52 && leastExponent < e) = true
      then 4 * m - 1 else 4 * m - 2) = low ∧ (low : ℚ) * (2 ^ e / 4) = lower m e * 2 ^ e := by
    refine ⟨_, if_congr ?_ rfl rfl, lower_quarters hpos e⟩
    simp [Narrow]
  have hhigher : ((4 * m + 2 : Nat) : ℚ) * (2 ^ e / 4) = (m + 1 / 2) * 2 ^ e := by
    push_cast
    ring
  have hfrom := cross_iff (k := low) hunit hgrid hwhole hy
  have hto := cross_iff (k := 4 * m + 2) hunit hgrid hwhole hy
  rw [hlower] at hfrom
  rw [hhigher] at hto
  unfold inside RoundsTo
  simp only [hlow, beq_iff_eq]
  by_cases heven : m % 2 = 0
  · rw [if_pos heven, if_pos heven, Bool.and_eq_true, decide_eq_true_iff, decide_eq_true_iff,
      hfrom.1, hto.2]
  · have hless := not_congr hfrom.2
    have hmore := not_congr hto.1
    rw [not_le, not_le] at hless hmore
    rw [if_neg heven, if_neg heven, Bool.and_eq_true, decide_eq_true_iff, decide_eq_true_iff,
      hless, hmore]

/-- Whatever a grid yields reads as the number. -/
theorem readsAs_of_withDigits? (hpos : 0 < m) {top : Int} {count : Nat} {d : Decimal}
    (h : withDigits? tie m e top count = some d) : ReadsAs m e d := by
  have htested : ∀ (place : Int) (n : Nat), n ≠ 0 → inside m e place n = true →
      ReadsAs m e ⟨n, place⟩ := fun place n hn hinside => ⟨hn, (inside_iff hpos place n).1 hinside⟩
  unfold withDigits? at h
  simp only [] at h
  split at h
  · rename_i hbelow habove
    rw [Bool.and_eq_true, bne_iff_ne] at hbelow
    cases h
    split
    · exact htested _ _ (Nat.succ_ne_zero _) habove
    · exact htested _ _ hbelow.2 hbelow.1
  · rename_i hbelow _
    rw [Bool.and_eq_true, bne_iff_ne] at hbelow
    cases h
    exact htested _ _ hbelow.2 hbelow.1
  · rename_i habove
    cases h
    exact htested _ _ (Nat.succ_ne_zero _) habove
  · cases h

/-- Values near a number round to it, if near is measured in steps that 17 digits can tell apart. -/
theorem roundsTo_of_near (hm : Canonical m e) {step v : ℚ} (hstep : 0 < step)
    (hfine : 10 ^ 16 * step ≤ m * 2 ^ e) (hfrom : m * 2 ^ e - step / 2 ≤ v)
    (hto : v ≤ m * 2 ^ e + step / 2) : RoundsTo m e v := by
  have hpow : (0 : ℚ) < 2 ^ e := by positivity
  have hlt : (m : ℚ) < 2 ^ 53 := by exact_mod_cast hm.lt
  have hshort : step < 2 ^ e := by
    by_contra hlong
    have : (m : ℚ) * 2 ^ e ≤ 2 ^ 53 * step := by
      gcongr
      exact not_lt.1 hlong
    linarith
  have hlower : lower m e * 2 ^ e < v := by
    unfold lower
    split
    · rename_i hnarrow
      have hm' : (m : ℚ) = 2 ^ 52 := by exact_mod_cast hnarrow.1
      rw [hm'] at hfine hfrom ⊢
      linarith
    · linarith
  have hupper : v < (m + 1 / 2) * 2 ^ e := by linarith
  unfold RoundsTo
  split
  · exact ⟨hlower.le, hupper.le⟩
  · exact ⟨hlower, hupper⟩

/-- A value lies between two neighbours on a grid, of which the lower one comes from a division. -/
theorem neighbours {a b : Nat} (hb : 0 < b) {step v : ℚ} (hstep : 0 < step)
    (hgrid : (a : ℚ) / b = v / step) :
    ((a / b : Nat) : ℚ) * step ≤ v ∧ v < ((a / b : Nat) + 1) * step := by
  have hb' : (0 : ℚ) < b := by exact_mod_cast hb
  rw [← le_div_iff₀ hstep, ← div_lt_iff₀ hstep, ← hgrid, le_div_iff₀ hb', div_lt_iff₀ hb']
  constructor
  · exact_mod_cast Nat.div_mul_le_self a b
  · rw [mul_comm]
    exact_mod_cast Nat.lt_mul_div_succ a hb

/-- The steps of the grid of 17 digits are shorter than the interval, so it yields a decimal. -/
theorem withDigits?_seventeen (hm : Canonical m e) (hpos : 0 < m) {top : Int}
    (htop : (10 : ℚ) ^ top ≤ m * 2 ^ e) : withDigits? tie m e top 17 ≠ none := by
  obtain ⟨hvalue, hden⟩ := Double.ratio_value m e
  obtain ⟨place, hplace⟩ : ∃ place : Int, top - ((17 : Nat) : Int) + 1 = place := ⟨_, rfl⟩
  obtain ⟨hgrid, hb⟩ := onGrid_value place (Double.ratio m e).1 hden
  have hstep : (0 : ℚ) < 10 ^ place := by positivity
  have hfine : 10 ^ 16 * (10 : ℚ) ^ place ≤ m * 2 ^ e := by
    refine le_trans (le_of_eq ?_) htop
    have hsum : top = (16 : Nat) + place := by omega
    rw [hsum, zpow_add₀ (by norm_num), zpow_natCast]
  rw [hvalue] at hgrid
  unfold withDigits?
  simp only [hplace]
  generalize onGrid place (Double.ratio m e).1 (Double.ratio m e).2 = grid at *
  obtain ⟨a, b⟩ := grid
  obtain ⟨hbelow, habove⟩ := neighbours hb hstep hgrid
  generalize a / b = below at *
  have hne : below ≠ 0 := by
    rintro rfl
    push_cast at habove
    linarith
  have hone : inside m e place below = true ∨ inside m e place (below + 1) = true := by
    rw [inside_iff hpos, inside_iff hpos]
    push_cast
    by_cases hnear : (m : ℚ) * 2 ^ e - 10 ^ place / 2 ≤ below * 10 ^ place
    · exact Or.inl (roundsTo_of_near hm hstep hfine hnear (by linarith))
    · exact Or.inr (roundsTo_of_near hm hstep hfine (by linarith) (by linarith))
  split
  · exact Option.some_ne_none _
  · exact Option.some_ne_none _
  · exact Option.some_ne_none _
  · rename_i hfar hfar'
    rw [Bool.and_eq_false_iff, bne_eq_false_iff_eq] at hfar
    rcases hone with h | h
    · rcases hfar with hfar | hfar
      · exact absurd h (by simp [hfar])
      · exact absurd hfar hne
    · exact absurd h (by simp [hfar'])

/-! ## The search -/

/-- A search that gets to the grid of 17 digits finds a decimal. -/
theorem readsAs_search (hm : Canonical m e) (hpos : 0 < m) {top : Int}
    (htop : (10 : ℚ) ^ top ≤ m * 2 ^ e) (fuel : Nat) {count : Nat} (hcount : count ≤ 17)
    (hfuel : 17 < fuel + count) : ReadsAs m e (search tie m e top fuel count) := by
  induction fuel generalizing count with
  | zero => omega
  | succ fuel ih =>
    unfold search
    split
    · rename_i d hd
      exact readsAs_of_withDigits? hpos hd
    · rename_i hnone
      have hless : count ≠ 17 := by
        rintro rfl
        exact withDigits?_seventeen hm hpos htop hnone
      exact ih (by omega) (by omega)

/-- **The shortest decimal** of a number reads as the number. -/
theorem shortest_readsAs (tie : Tie) (hm : Canonical m e) (hpos : 0 < m) :
    ReadsAs m e (shortest tie m e) := by
  obtain ⟨hvalue, hden⟩ := Double.ratio_value m e
  have hlog : m.log2 < 53 := (Nat.log2_lt hpos.ne').2 hm.lt
  have hestimate : powerLe (((m.log2 : Int) + e) * 30103 / 100000 - 1) (Double.ratio m e).1
      (Double.ratio m e).2 = true := by
    rw [powerLe_iff _ _ hden, hvalue]
    have hle := hm.least_le
    have hge := hm.le_greatest
    simp only [leastExponent, greatestExponent] at hle hge
    calc (10 : ℚ) ^ (((m.log2 : Int) + e) * 30103 / 100000 - 1) ≤ 2 ^ ((m.log2 : Int) + e) :=
          ten_zpow_estimate_le (by omega) (by omega)
      _ = 2 ^ m.log2 * 2 ^ e := by rw [zpow_add₀ (by norm_num), zpow_natCast]
      _ ≤ m * 2 ^ e := by
          gcongr
          exact (Double.log2_bounds hpos.ne').1
  have htop := powerLe_leading 4 hestimate
  rw [powerLe_iff _ _ hden, hvalue] at htop
  have hsearch : ReadsAs m e (search tie m e _ 17 1) :=
    readsAs_search hm hpos htop 17 (by omega) (by omega)
  unfold shortest
  rw [if_neg hpos.ne']
  refine ⟨digits_stripZeros_ne_zero 20 hsearch.1, ?_⟩
  rw [toRat_stripZeros]
  exact hsearch.2

end Registrar.Number.Decimal
