import Registrar.Import.Term
/-!
# The order of terms

Terms are numbered by ten numbers a year, but a year has twelve months. So the numbers of terms keep
the order of the calendar, except where one year runs into the next: the number of a November is that
of the next January, the number of a December is that of the next February, and that of the January
between them comes before it. `calendarOrder_iff` says that there are no other exceptions.
-/
namespace Registrar.Import.Term

/-- One month of the calendar comes before another. -/
def Before (a b : Int × Int) : Prop := a.1 < b.1 ∨ (a.1 = b.1 ∧ a.2 < b.2)

instance (a b : Int × Int) : Decidable (Before a b) :=
  inferInstanceAs (Decidable (a.1 < b.1 ∨ (a.1 = b.1 ∧ a.2 < b.2)))

/-- A November runs into the next January, and a December into the next January and February. -/
def RunsInto (a b : Int × Int) : Prop :=
  b.1 = a.1 + 1 ∧ ((a.2 = 11 ∧ b.2 = 1) ∨ (a.2 = 12 ∧ (b.2 = 1 ∨ b.2 = 2)))

instance (a b : Int × Int) : Decidable (RunsInto a b) :=
  inferInstanceAs (Decidable
    (b.1 = a.1 + 1 ∧ ((a.2 = 11 ∧ b.2 = 1) ∨ (a.2 = 12 ∧ (b.2 = 1 ∨ b.2 = 2)))))

theorem month_of_read? {raw : String} {month : Int × Int} (h : read? raw = some month) :
    1 ≤ month.2 ∧ month.2 ≤ 12 ∧ 1900 ≤ month.1 := by
  simp only [read?, Option.bind_eq_bind, Option.bind_eq_some_iff] at h
  obtain ⟨parts, -, year, -, m, -, h⟩ := h
  split at h
  · rename_i hbounds
    cases h
    exact hbounds
  · cases h

theorem number?_eq_some_iff {raw : String} {n : Int} :
    number? raw = some n ↔
      ∃ month, read? raw = some month ∧ number month.1 month.2 ≤ largest ∧
        n = number month.1 month.2 := by
  simp only [number?, Option.bind_eq_bind, Option.bind_eq_some_iff, Option.ite_none_right_eq_some,
    Option.some.injEq, @eq_comm Int n]

/-- A month runs into later ones only. -/
theorem RunsInto.before {a b : Int × Int} (h : RunsInto a b) : Before a b :=
  Or.inl (by have := h.1; omega)

/-- Numbers are in order where months are, unless one month runs into the other. -/
theorem number_lt_iff {a b : Int × Int} (ha : 1 ≤ a.2 ∧ a.2 ≤ 12) (hb : 1 ≤ b.2 ∧ b.2 ≤ 12)
    (hab : ¬RunsInto a b) (hba : ¬RunsInto b a) :
    number a.1 a.2 < number b.1 b.2 ↔ Before a b := by
  unfold RunsInto at hab hba
  unfold number Before
  omega

theorem number_eq_iff {a b : Int × Int} (ha : 1 ≤ a.2 ∧ a.2 ≤ 12) (hb : 1 ≤ b.2 ∧ b.2 ≤ 12)
    (hab : ¬RunsInto a b) (hba : ¬RunsInto b a) :
    number a.1 a.2 = number b.1 b.2 ↔ a = b := by
  rw [Prod.ext_iff]
  unfold RunsInto at hab hba
  unfold number
  omega

/-- The number of a month is no less than that of a month that it runs into. -/
theorem RunsInto.number_le {a b : Int × Int} (h : RunsInto a b) :
    number b.1 b.2 ≤ number a.1 a.2 := by
  obtain ⟨hyear, hmonth⟩ := h
  unfold number
  omega

/-- **The numbers of two terms** are in the order of the calendar, and equal only for the same month,
exactly if neither term runs into the other. -/
theorem calendarOrder_iff {a b : String} {m n : Int} {s t : Int × Int} (ha : number? a = some m)
    (hb : number? b = some n) (hs : read? a = some s) (ht : read? b = some t) :
    ((m < n ↔ Before s t) ∧ (m = n ↔ s = t)) ↔ ¬RunsInto s t ∧ ¬RunsInto t s := by
  have hm : m = number s.1 s.2 := by
    obtain ⟨month, hmonth, -, rfl⟩ := number?_eq_some_iff.1 ha
    cases hs.symm.trans hmonth
    rfl
  have hn : n = number t.1 t.2 := by
    obtain ⟨month, hmonth, -, rfl⟩ := number?_eq_some_iff.1 hb
    cases ht.symm.trans hmonth
    rfl
  obtain ⟨hs1, hs2, -⟩ := month_of_read? hs
  obtain ⟨ht1, ht2, -⟩ := month_of_read? ht
  subst hm hn
  constructor
  · rintro ⟨hlt, heq⟩
    constructor
    · intro hruns
      have hless := hlt.2 hruns.before
      have := hruns.number_le
      omega
    · intro hruns
      -- the numbers are neither equal nor in the order of the later month
      have hle := hruns.number_le
      have hbefore := hruns.before
      rcases Int.lt_or_eq_of_le hle with hless | hequal
      · rcases hlt.1 hless with hyear | ⟨hyear, -⟩
        · have := hruns.1
          omega
        · have := hruns.1
          omega
      · cases heq.1 hequal
        have := hruns.1
        omega
  · rintro ⟨hst, hts⟩
    exact ⟨number_lt_iff ⟨hs1, hs2⟩ ⟨ht1, ht2⟩ hst hts, number_eq_iff ⟨hs1, hs2⟩ ⟨ht1, ht2⟩ hst hts⟩

theorem calendarOrder_iff_of_october :
    (number? "2018_10" = some 1190 ∧ number? "2019_01" = some 1191) ∧
      (((1190 : Int) < 1191 ↔ Before (2018, 10) (2019, 1)) ∧
        ((1190 : Int) = 1191 ↔ ((2018, 10) : Int × Int) = (2019, 1))) :=
  ⟨by decide +kernel,
    (calendarOrder_iff (a := "2018_10") (b := "2019_01") (by decide +kernel) (by decide +kernel)
      (by decide +kernel) (by decide +kernel)).2 (by decide)⟩

/-- Two terms share a number although one comes before the other. -/
theorem november_and_january_share_a_number :
    read? "2018_11" = some (2018, 11) ∧ read? "2019_01" = some (2019, 1) ∧
      number? "2018_11" = some 1191 ∧ number? "2019_01" = some 1191 ∧
      ¬((1191 : Int) < 1191 ↔ Before (2018, 11) (2019, 1)) ∧
      ¬((1191 : Int) = 1191 ↔ ((2018, 11) : Int × Int) = (2019, 1)) := by
  decide +kernel

end Registrar.Import.Term
