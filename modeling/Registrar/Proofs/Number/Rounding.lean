import Mathlib.Algebra.Order.Field.Power
import Mathlib.Tactic.FieldSimp
import Mathlib.Tactic.Linarith
import Mathlib.Tactic.NormNum
import Mathlib.Tactic.Positivity
import Mathlib.Tactic.Ring
import Registrar.Number.Double
import Registrar.Proofs.Number.Digits
/-!
# Which values round to a number

A finite number is `Canonical` if it is written with the least exponent, or with a mantissa of 53
bits. The values that round to it lie around it, up to half a unit of its last place
(`RoundsTo`); below a power of two the next number is nearer, so there it is a quarter of a unit. Of
the two ends of the interval, both belong to it if the mantissa is even, and none if it is odd.

`ofRatio_eq` says that `ofRatio` gives exactly this number for every value in the interval, and
`ofScientific_eq` says it of a decimal.
-/
namespace Registrar.Number.Double

/-- The mantissa and the exponent are those of a finite number. -/
def Canonical (m : Nat) (e : Int) : Prop :=
  (m < 2 ^ 52 ∧ e = leastExponent) ∨
    (2 ^ 52 ≤ m ∧ m < 2 ^ 53 ∧ leastExponent ≤ e ∧ e ≤ greatestExponent)

instance (m : Nat) (e : Int) : Decidable (Canonical m e) := inferInstanceAs (Decidable (_ ∨ _))

/-- The number is a power of two, and the numbers below it are twice as close to each other. -/
def Narrow (m : Nat) (e : Int) : Prop := m = 2 ^ 52 ∧ leastExponent < e

instance (m : Nat) (e : Int) : Decidable (Narrow m e) := inferInstanceAs (Decidable (_ ∧ _))

/-- The lower end of the interval around `m * 2 ^ e`, in units of the last place. -/
def lower (m : Nat) (e : Int) : ℚ := if Narrow m e then m - 1 / 4 else m - 1 / 2

/-- The value lies in the interval around `m * 2 ^ e`. -/
def RoundsTo (m : Nat) (e : Int) (v : ℚ) : Prop :=
  if m % 2 = 0 then lower m e * 2 ^ e ≤ v ∧ v ≤ (m + 1 / 2) * 2 ^ e
  else lower m e * 2 ^ e < v ∧ v < (m + 1 / 2) * 2 ^ e

namespace Canonical

variable {m : Nat} {e : Int}

theorem lt (h : Canonical m e) : m < 2 ^ 53 := by
  rcases h with ⟨h, _⟩ | ⟨_, h, _⟩ <;> omega

theorem least_le (h : Canonical m e) : leastExponent ≤ e := by
  rcases h with ⟨_, h⟩ | ⟨_, _, h, _⟩ <;> omega

theorem le_greatest (h : Canonical m e) : e ≤ greatestExponent := by
  rcases h with ⟨_, rfl⟩ | ⟨_, _, _, h⟩
  · decide
  · exact h

theorem exponent_of_zero (h : Canonical 0 e) : e = leastExponent := by
  rcases h with ⟨_, h⟩ | ⟨h, _⟩
  · exact h
  · omega

end Canonical

theorem half_le_lower (m : Nat) (e : Int) : (m : ℚ) - 1 / 2 ≤ lower m e := by
  unfold lower
  split <;> linarith

/-! ## The nearest whole number -/

/-- The whole number is the nearest to the value, and even if another one is as near. -/
def Nearest (n : Nat) (v : ℚ) : Prop :=
  if n % 2 = 0 then (n : ℚ) - 1 / 2 ≤ v ∧ v ≤ n + 1 / 2 else (n : ℚ) - 1 / 2 < v ∧ v < n + 1 / 2

/-- The two bounds on a quotient, without division. -/
theorem Nearest.bounds {a b n : Nat} (hb : 0 < b) (h : Nearest n (a / b)) :
    (2 * n * b ≤ 2 * a + b ∧ 2 * a ≤ 2 * n * b + b) ∧
      (n % 2 = 1 → 2 * n * b < 2 * a + b ∧ 2 * a < 2 * n * b + b) := by
  have hb' : (0 : ℚ) < b := by exact_mod_cast hb
  constructor
  · have hle : (n : ℚ) - 1 / 2 ≤ a / b ∧ (a : ℚ) / b ≤ n + 1 / 2 := by
      unfold Nearest at h
      split at h
      · exact h
      · exact ⟨h.1.le, h.2.le⟩
    rw [le_div_iff₀ hb', div_le_iff₀ hb'] at hle
    constructor
    · have : (2 * n * b : ℚ) ≤ 2 * a + b := by linarith [hle.1]
      exact_mod_cast this
    · have : (2 * a : ℚ) ≤ 2 * n * b + b := by linarith [hle.2]
      exact_mod_cast this
  · intro hodd
    rw [Nearest, if_neg (by omega), lt_div_iff₀ hb', div_lt_iff₀ hb'] at h
    constructor
    · have : (2 * n * b : ℚ) < 2 * a + b := by linarith [h.1]
      exact_mod_cast this
    · have : (2 * a : ℚ) < 2 * n * b + b := by linarith [h.2]
      exact_mod_cast this

theorem divideToEven_eq {a b n : Nat} (hb : 0 < b) (h : Nearest n (a / b)) :
    divideToEven a b = n := by
  obtain ⟨hbounds, hodd⟩ := h.bounds hb
  have hdivision : b * (a / b) + a % b = a := Nat.div_add_mod a b
  have hrest : a % b < b := Nat.mod_lt a hb
  simp only [divideToEven]
  generalize a / b = q at *
  generalize a % b = r at *
  subst hdivision
  -- the number is the quotient or the one above it
  have hge : q ≤ n := by
    by_contra hlt
    have : (n + 1) * b ≤ q * b := Nat.mul_le_mul_right b (by omega)
    nlinarith
  have hle : n ≤ q + 1 := by
    by_contra hlt
    have : (q + 2) * b ≤ n * b := Nat.mul_le_mul_right b (by omega)
    nlinarith
  obtain rfl | rfl : n = q ∨ n = q + 1 := by omega
  · have hr : 2 * r ≤ b := by nlinarith
    have hr' : n % 2 = 1 → 2 * r < b := fun hn => by nlinarith [(hodd hn).2]
    split
    · rfl
    · split
      · omega
      · split
        · rfl
        · have := hr' (by omega)
          omega
  · have hr : b ≤ 2 * r := by nlinarith
    have hr' : (q + 1) % 2 = 1 → b < 2 * r := fun hn => by nlinarith [(hodd hn).1]
    split
    · omega
    · split
      · rfl
      · split
        · have := hr' (by omega)
          omega
        · rfl

/-! ## Scaling -/

theorem ratio_value (m : Nat) (e : Int) :
    ((ratio m e).1 : ℚ) / (ratio m e).2 = m * 2 ^ e ∧ 0 < (ratio m e).2 := by
  unfold ratio
  split
  · rename_i he
    obtain ⟨n, rfl⟩ : ∃ n : Nat, e = -n := ⟨e.natAbs, by omega⟩
    simp [div_eq_mul_inv]
  · rename_i he
    obtain ⟨n, rfl⟩ : ∃ n : Nat, e = n := ⟨e.natAbs, by omega⟩
    simp

/-- A ratio in units of a power of some base. -/
theorem inUnits_value {base : Nat} (hbase : 0 < base) (a : Nat) {b : Nat} (hb : 0 < b) (q : Int)
    {r : Nat × Nat} (hr : r = if q < 0 then (a * Nat.pow base q.natAbs, b)
      else (a, b * Nat.pow base q.natAbs)) :
    (r.1 : ℚ) / r.2 = a / b / (base : ℚ) ^ q ∧ 0 < r.2 := by
  subst hr
  split
  · rename_i hq
    obtain ⟨n, rfl⟩ : ∃ n : Nat, q = -n := ⟨q.natAbs, by omega⟩
    refine ⟨?_, hb⟩
    simp
    ring
  · rename_i hq
    obtain ⟨n, rfl⟩ : ∃ n : Nat, q = n := ⟨q.natAbs, by omega⟩
    simp [div_div, hb, hbase]

theorem scale_value (num : Nat) {den : Nat} (hden : 0 < den) (q : Int) :
    ((scale num den q).1 : ℚ) / (scale num den q).2 = num / den / 2 ^ q ∧
      0 < (scale num den q).2 := by
  have h := inUnits_value Nat.two_pos num hden q (r := scale num den q) rfl
  rwa [Nat.cast_ofNat] at h

/-- The value has exactly 53 bits before the point, in units of `2 ^ q`. -/
def FitsAt (v : ℚ) (q : Int) : Prop := 2 ^ 52 * 2 ^ q ≤ v ∧ v < 2 ^ 53 * 2 ^ q

theorem exponent_le {v : ℚ} {p q : Int} (hp : 2 ^ 52 * 2 ^ p ≤ v) (hq : v < 2 ^ 53 * 2 ^ q) :
    p ≤ q := by
  have hlt : (2 : ℚ) ^ (52 + p) < 2 ^ (53 + q) := by
    rw [zpow_add₀ (by norm_num), zpow_add₀ (by norm_num)]
    exact hp.trans_lt hq
  have := (zpow_lt_zpow_iff_right₀ (by norm_num : (1 : ℚ) < 2)).1 hlt
  omega

theorem FitsAt.unique {v : ℚ} {p q : Int} (hp : FitsAt v p) (hq : FitsAt v q) : p = q :=
  le_antisymm (exponent_le hp.1 hq.2) (exponent_le hq.1 hp.2)

theorem log2_bounds {n : Nat} (h : n ≠ 0) : (2 : ℚ) ^ n.log2 ≤ n ∧ (n : ℚ) < 2 ^ (n.log2 + 1) := by
  constructor
  · exact_mod_cast Nat.log2_self_le h
  · exact_mod_cast Nat.lt_log2_self (n := n)

/-- The guess from the lengths of numerator and denominator is right or one too high. -/
theorem fitsAt_guess {num den : Nat} (hnum : num ≠ 0) (hden : den ≠ 0) {guess : Int}
    (hguess : guess = (num.log2 : Int) - (den.log2 : Int) - 52) :
    FitsAt (num / den)
      (if (scale num den guess).1 / (scale num den guess).2 < 2 ^ 52 then guess - 1 else guess) := by
  have hden' : (0 : ℚ) < den := by exact_mod_cast Nat.pos_of_ne_zero hden
  have hpow : (0 : ℚ) < 2 ^ guess := by positivity
  obtain ⟨hvalue, hpos⟩ := scale_value num (Nat.pos_of_ne_zero hden) guess
  have hpos' : (0 : ℚ) < (scale num den guess).2 := by exact_mod_cast hpos
  -- two powers of two around the value
  have hlow : 2 ^ 51 * 2 ^ guess < (num : ℚ) / den := by
    rw [lt_div_iff₀ hden']
    calc (2 : ℚ) ^ 51 * 2 ^ guess * den < 2 ^ 51 * 2 ^ guess * 2 ^ (den.log2 + 1) := by
          gcongr
          exact (log2_bounds hden).2
      _ = 2 ^ num.log2 := by
          rw [← zpow_natCast, ← zpow_natCast, ← zpow_natCast, ← zpow_add₀ (by norm_num),
            ← zpow_add₀ (by norm_num)]
          congr 1
          push_cast
          omega
      _ ≤ num := (log2_bounds hnum).1
  have hhigh : (num : ℚ) / den < 2 ^ 53 * 2 ^ guess := by
    rw [div_lt_iff₀ hden']
    calc (num : ℚ) < 2 ^ (num.log2 + 1) := (log2_bounds hnum).2
      _ = 2 ^ 53 * 2 ^ guess * 2 ^ den.log2 := by
          rw [← zpow_natCast, ← zpow_natCast, ← zpow_natCast, ← zpow_add₀ (by norm_num),
            ← zpow_add₀ (by norm_num)]
          congr 1
          push_cast
          omega
      _ ≤ 2 ^ 53 * 2 ^ guess * den := by
          gcongr
          exact (log2_bounds hden).1
  have hquotient : (scale num den guess).1 / (scale num den guess).2 < 2 ^ 52 ↔
      (num : ℚ) / den < 2 ^ 52 * 2 ^ guess := by
    rw [Nat.div_lt_iff_lt_mul hpos, ← div_lt_iff₀ hpow, ← hvalue, div_lt_iff₀ hpos']
    constructor <;> intro h <;> exact_mod_cast h
  by_cases hless : (scale num den guess).1 / (scale num den guess).2 < 2 ^ 52
  · rw [if_pos hless]
    have hhalf : (2 : ℚ) ^ (guess - 1) = 2 ^ guess / 2 := by
      rw [zpow_sub_one₀ (by norm_num)]
      ring
    have := hquotient.1 hless
    constructor <;> rw [hhalf] <;> linarith
  · rw [if_neg hless]
    exact ⟨not_lt.1 fun h => hless (hquotient.2 h), hhigh⟩

/-! ## Ratios -/

/-- What `ofRatio` gives, for a value whose leading bit is known. -/
theorem ofRatio_of_fitsAt (negative : Bool) {num den : Nat} (hnum : num ≠ 0) (hden : den ≠ 0)
    {p : Int} (hp : FitsAt (num / den) p) {q : Int} (hq : q = max leastExponent p) {n : Nat}
    (hn : Nearest n (num / den / 2 ^ q)) :
    ofRatio negative num den =
      if n = 2 ^ 53 then
        if greatestExponent < q + 1 then .infinite negative else .finite negative (2 ^ 52) (q + 1)
      else if greatestExponent < q then .infinite negative else .finite negative n q := by
  obtain ⟨hvalue, hpos⟩ := scale_value num (Nat.pos_of_ne_zero hden) q
  have hmantissa : divideToEven (scale num den q).1 (scale num den q).2 = n :=
    divideToEven_eq hpos (by rwa [hvalue])
  have hexponent := FitsAt.unique (fitsAt_guess hnum hden rfl) hp
  have hcond : ¬(num = 0 ∨ den = 0) := by simp [hnum, hden]
  unfold ofRatio
  rw [if_neg hcond]
  simp only [Nat.pow_eq] at *
  rw [hexponent, ← hq, hmantissa]
  by_cases h : n = 2 ^ 53
  · simp only [if_pos h]
  · simp only [if_neg h]

/-- A value in the interval of a number, in units of its last place. -/
theorem RoundsTo.nearest {m : Nat} {e : Int} {v : ℚ} (h : RoundsTo m e v) :
    Nearest m (v / 2 ^ e) := by
  have hpow : (0 : ℚ) < 2 ^ e := by positivity
  have hlower := half_le_lower m e
  unfold RoundsTo at h
  unfold Nearest
  split at h
  · rename_i heven
    rw [if_pos heven, le_div_iff₀ hpow, div_le_iff₀ hpow]
    exact ⟨(mul_le_mul_of_nonneg_right hlower hpow.le).trans h.1, h.2⟩
  · rename_i hodd
    rw [if_neg hodd, lt_div_iff₀ hpow, div_lt_iff₀ hpow]
    exact ⟨(mul_le_mul_of_nonneg_right hlower hpow.le).trans_lt h.1, h.2⟩

theorem RoundsTo.bounds {m : Nat} {e : Int} {v : ℚ} (h : RoundsTo m e v) :
    lower m e * 2 ^ e ≤ v ∧ v ≤ (m + 1 / 2) * 2 ^ e := by
  unfold RoundsTo at h
  split at h
  · exact h
  · exact ⟨h.1.le, h.2.le⟩

/-- Every value has a leading bit. -/
theorem exists_fitsAt {num den : Nat} (hnum : num ≠ 0) (hden : den ≠ 0) :
    ∃ p, FitsAt (num / den) p := ⟨_, fitsAt_guess hnum hden rfl⟩

/-- A value below a power of two, in its interval, has a smaller exponent, but its mantissa rounds
up. -/
theorem RoundsTo.below {e : Int} {v : ℚ} (he : leastExponent < e) (h : RoundsTo (2 ^ 52) e v)
    (hbelow : v < 2 ^ 52 * 2 ^ e) :
    FitsAt v (e - 1) ∧ Nearest (2 ^ 53) (v / 2 ^ (e - 1)) := by
  have hpow : (0 : ℚ) < 2 ^ e := by positivity
  have hpow' : (0 : ℚ) < 2 ^ (e - 1) := by positivity
  have hquarter : lower (2 ^ 52) e = 2 ^ 52 - 1 / 4 := by
    rw [lower, if_pos ⟨rfl, he⟩]
    norm_num
  have hhalf : (2 : ℚ) ^ (e - 1) = 2 ^ e / 2 := by
    rw [zpow_sub_one₀ (by norm_num)]
    ring
  have hfrom : (2 ^ 52 - 1 / 4) * 2 ^ e ≤ v := hquarter ▸ h.bounds.1
  constructor
  · constructor <;> rw [hhalf] <;> linarith
  · rw [Nearest, if_pos (by norm_num), le_div_iff₀ hpow', div_le_iff₀ hpow', hhalf]
    push_cast
    constructor <;> linarith

/-- **Ratios round to the number in whose interval they lie.** -/
theorem ofRatio_eq (negative : Bool) {num den m : Nat} {e : Int} (hnum : num ≠ 0) (hden : den ≠ 0)
    (hm : Canonical m e) (h : RoundsTo m e (num / den)) :
    ofRatio negative num den = .finite negative m e := by
  have hpow : (0 : ℚ) < 2 ^ e := by positivity
  have hgreatest : ¬greatestExponent < e := not_lt.2 hm.le_greatest
  have hlt : (m : ℚ) + 1 ≤ 2 ^ 53 := by exact_mod_cast hm.lt
  have hne : m ≠ 2 ^ 53 := hm.lt.ne
  have hbelow : (num : ℚ) / den < 2 ^ 53 * 2 ^ e := by
    refine h.bounds.2.trans_lt ?_
    gcongr
    linarith
  obtain ⟨p, hp⟩ := exists_fitsAt hnum hden
  have hple : p ≤ e := exponent_le hp.1 hbelow
  have hdirect : e = max leastExponent p → ofRatio negative num den = .finite negative m e := by
    intro hmax
    rw [ofRatio_of_fitsAt negative hnum hden hp hmax h.nearest, if_neg hne, if_neg hgreatest]
  by_cases hleast : e = leastExponent
  · -- the least exponent is taken whatever the value is
    exact hdirect (by omega)
  have hmore : leastExponent < e := by
    have := hm.least_le
    omega
  have hlong : 2 ^ 52 ≤ m := by
    rcases hm with ⟨_, he⟩ | ⟨hlong, _⟩
    · exact absurd he hleast
    · exact hlong
  by_cases habove : 2 ^ 52 * 2 ^ e ≤ (num : ℚ) / den
  · have hpe : p = e := hp.unique ⟨habove, hbelow⟩
    exact hdirect (by omega)
  · -- only a power of two has values below it that have fewer bits
    have hbound : lower m e < 2 ^ 52 := by
      have := h.bounds.1.trans_lt (not_le.1 habove)
      exact lt_of_mul_lt_mul_right this hpow.le
    have hpowerOfTwo : m = 2 ^ 52 := by
      by_contra hother
      have : (2 : ℚ) ^ 52 + 1 ≤ m := by exact_mod_cast (by omega : 2 ^ 52 + 1 ≤ m)
      have := half_le_lower m e
      linarith
    subst hpowerOfTwo
    obtain ⟨hfits, hnearest⟩ := h.below hmore (not_le.1 habove)
    have hmax : e - 1 = max leastExponent p := by
      have := hp.unique hfits
      omega
    rw [ofRatio_of_fitsAt negative hnum hden hp hmax hnearest, if_pos rfl, Int.sub_add_cancel,
      if_neg hgreatest]

/-! ## Decimals -/

theorem digits_bounds {n : Nat} (h : n ≠ 0) :
    (10 : ℚ) ^ ((digits n).length - 1) ≤ n ∧ (n : ℚ) < 10 ^ (digits n).length := by
  have hlength : 0 < (digits n).length := List.length_pos_of_ne_nil (digits_ne_nil n)
  constructor
  · by_cases hone : (digits n).length = 1
    · rw [hone]
      exact_mod_cast Nat.pos_of_ne_zero h
    · have hmore : ¬n < 10 ^ ((digits n).length - 1) := by
        rw [← length_digits_le_iff (by omega)]
        omega
      exact_mod_cast not_lt.1 hmore
  · exact_mod_cast (length_digits_le_iff hlength).1 le_rfl

theorem greatest_lt : (2 : ℚ) ^ 53 * 2 ^ greatestExponent < 10 ^ (310 : Int) := by
  have hnat : 2 ^ 53 * 2 ^ 971 < 10 ^ 310 := by decide +kernel
  change (2 : ℚ) ^ 53 * 2 ^ ((971 : Nat) : Int) < 10 ^ ((310 : Nat) : Int)
  rw [zpow_natCast, zpow_natCast]
  exact_mod_cast hnat

theorem lt_least : (10 : ℚ) ^ (-330 : Int) < 1 / 2 * 2 ^ leastExponent := by
  have hnat : 2 * 2 ^ 1074 < 10 ^ 330 := by decide +kernel
  change (10 : ℚ) ^ (-((330 : Nat) : Int)) < 1 / 2 * 2 ^ (-((1074 : Nat) : Int))
  rw [zpow_neg, zpow_neg, zpow_natCast, zpow_natCast, one_div, ← mul_inv]
  have hpos : (0 : ℚ) < 2 * 2 ^ 1074 := by positivity
  exact (inv_lt_inv₀ (by positivity) hpos).2 (by exact_mod_cast hnat)

/-- The values that round to a number that is not zero lie between two powers of ten. -/
theorem RoundsTo.magnitude {m : Nat} {e : Int} {v : ℚ} (hm : Canonical m e) (hpos : 0 < m)
    (h : RoundsTo m e v) : (10 : ℚ) ^ (-330 : Int) ≤ v ∧ v < 10 ^ (310 : Int) := by
  have hpow : (0 : ℚ) < 2 ^ e := by positivity
  constructor
  · calc (10 : ℚ) ^ (-330 : Int) ≤ 1 / 2 * 2 ^ leastExponent := lt_least.le
      _ ≤ lower m e * 2 ^ e := by
          have hone : (1 : ℚ) ≤ m := by exact_mod_cast hpos
          have hhalf := half_le_lower m e
          have : (1 : ℚ) / 2 ≤ lower m e := by linarith
          gcongr
          · norm_num
          · exact hm.least_le
      _ ≤ v := h.bounds.1
  · calc v ≤ (m + 1 / 2) * 2 ^ e := h.bounds.2
      _ ≤ 2 ^ 53 * 2 ^ greatestExponent := by
          have hlt : (m : ℚ) + 1 ≤ 2 ^ 53 := by exact_mod_cast hm.lt
          gcongr
          · linarith
          · norm_num
          · exact hm.le_greatest
      _ < 10 ^ (310 : Int) := greatest_lt

/-- The number of digits of a decimal, from a bound on its value. -/
theorem length_le_of_lt {d : Nat} (hd : d ≠ 0) {exponent bound : Int}
    (h : (d : ℚ) * 10 ^ exponent < 10 ^ bound) : ((digits d).length : Int) + exponent ≤ bound := by
  have hlength : 0 < (digits d).length := List.length_pos_of_ne_nil (digits_ne_nil d)
  by_contra hmore
  have : (10 : ℚ) ^ bound ≤ d * 10 ^ exponent := by
    calc (10 : ℚ) ^ bound ≤ 10 ^ (((digits d).length - 1 : Nat) + exponent) :=
          zpow_le_zpow_right₀ (by norm_num) (by omega)
      _ = 10 ^ ((digits d).length - 1) * 10 ^ exponent := by
          rw [zpow_add₀ (by norm_num), zpow_natCast]
      _ ≤ d * 10 ^ exponent := by
          gcongr
          exact (digits_bounds hd).1
  linarith

theorem le_length_of_le {d : Nat} (hd : d ≠ 0) {exponent bound : Int}
    (h : (10 : ℚ) ^ bound ≤ d * 10 ^ exponent) : bound ≤ ((digits d).length : Int) + exponent := by
  by_contra hless
  have : (d : ℚ) * 10 ^ exponent < 10 ^ bound := by
    calc (d : ℚ) * 10 ^ exponent < 10 ^ (digits d).length * 10 ^ exponent := by
          gcongr
          exact (digits_bounds hd).2
      _ = 10 ^ (((digits d).length : Int) + exponent) := by
          rw [zpow_add₀ (by norm_num), zpow_natCast]
      _ ≤ 10 ^ bound := zpow_le_zpow_right₀ (by norm_num) (by omega)
  linarith

/-- **Decimals round to the number in whose interval they lie.** -/
theorem ofScientific_eq (negative : Bool) {d m : Nat} {exponent e : Int} (hd : d ≠ 0)
    (hm : Canonical m e) (hpos : 0 < m) (h : RoundsTo m e (d * 10 ^ exponent)) :
    ofScientific negative d exponent = .finite negative m e := by
  obtain ⟨hlow, hhigh⟩ := h.magnitude hm hpos
  have hnotHigh : ¬310 < ((digits d).length : Int) + exponent := not_lt.2 (length_le_of_lt hd hhigh)
  have hnotLow : ¬((digits d).length : Int) + exponent < -330 := not_lt.2 (le_length_of_le hd hlow)
  unfold ofScientific
  rw [if_neg hd]
  simp only [digits] at hnotHigh hnotLow
  simp only [if_neg hnotHigh, if_neg hnotLow]
  split
  · rename_i hexponent
    obtain ⟨n, rfl⟩ : ∃ n : Nat, exponent = -n := ⟨exponent.natAbs, by omega⟩
    refine ofRatio_eq negative hd (by simp) hm ?_
    simpa [div_eq_mul_inv] using h
  · rename_i hexponent
    obtain ⟨n, rfl⟩ : ∃ n : Nat, exponent = n := ⟨exponent.natAbs, by omega⟩
    refine ofRatio_eq negative (by simp [hd]) (by simp) hm ?_
    simpa using h

end Registrar.Number.Double
