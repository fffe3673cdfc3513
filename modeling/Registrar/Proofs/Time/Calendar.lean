import Registrar.Time.Date
/-!
# The calendar repeats every 400 years

A day belongs to a cycle of 400 years, to a year of the cycle, counted from March, and is a day of
that year; this is its `Place`. The years of a cycle start where `start` says (`start_le`,
`lt_start_succ`), and only a leap year has a 366th day. So year, month and day name a day that exists
(`Place.Valid.civil_exists`), and the day that they name is the one they were taken from
(`Date.ofCivil_civil`).
-/
namespace Registrar.Time

/-- The year that a day of a cycle belongs to. -/
def yearOf (ofCycle : Int) : Int :=
  (ofCycle - ofCycle / 1460 + ofCycle / 36524 - ofCycle / 146096) / 365

/-- The first day of a year of a cycle. -/
def start (ofYear : Int) : Int := 365 * ofYear + ofYear / 4 - ofYear / 100

/-! ## Years -/

theorem yearOf_le_succ {a : Int} (hlow : 0 ≤ a) (hhigh : a < 146096) :
    yearOf a ≤ yearOf (a + 1) := by
  have hleap : (a + 1) / 1460 ≤ a / 1460 + 1 := by omega
  have hcycle : (a + 1) / 146096 - a / 146096 ≤ (a + 1) / 36524 - a / 36524 := by omega
  unfold yearOf
  apply Int.ediv_le_ediv (by omega)
  omega

theorem yearOf_mono {a b : Int} (hlow : 0 ≤ a) (hle : a ≤ b) (hhigh : b ≤ 146096) :
    yearOf a ≤ yearOf b := by
  obtain ⟨n, rfl⟩ : ∃ n : Nat, b = a + n := ⟨(b - a).toNat, by omega⟩
  induction n with
  | zero => simp
  | succ n ih =>
    have hstep := yearOf_le_succ (a := a + n) (by omega) (by omega)
    have := ih (by omega) (by omega)
    rw [Int.natCast_succ, ← Int.add_assoc]
    omega

/-- Every year starts in itself, and the day before belongs to the year before. -/
theorem yearOf_start : ∀ y : Fin 400, yearOf (start y.val) = y.val ∧
    (0 < y.val → yearOf (start y.val - 1) = (y.val : Int) - 1) := by
  decide +kernel

variable {ofCycle : Int}

theorem yearOf_bounds (hlow : 0 ≤ ofCycle) (hhigh : ofCycle ≤ 146096) :
    0 ≤ yearOf ofCycle ∧ yearOf ofCycle ≤ 399 :=
  ⟨yearOf_mono (a := 0) (by omega) hlow hhigh, yearOf_mono (b := 146096) hlow hhigh (by omega)⟩

theorem start_nonneg {y : Int} (h : 0 ≤ y) : 0 ≤ start y := by
  unfold start
  omega

theorem start_le (hlow : 0 ≤ ofCycle) (hhigh : ofCycle ≤ 146096) :
    start (yearOf ofCycle) ≤ ofCycle := by
  obtain ⟨hnonneg, hlast⟩ := yearOf_bounds hlow hhigh
  obtain ⟨y, hy⟩ : ∃ y : Nat, yearOf ofCycle = y := ⟨_, (Int.toNat_of_nonneg hnonneg).symm⟩
  obtain ⟨-, hbefore⟩ := yearOf_start ⟨y, by omega⟩
  rw [hy]
  refine Int.not_lt.1 fun hlt => ?_
  -- the day would come before the last day of the year before
  have hpos : 0 < y := by
    rcases Nat.eq_zero_or_pos y with rfl | hpos
    · exact absurd hlt (Int.not_lt.2 hlow)
    · exact hpos
  have hmono := yearOf_mono (b := start y - 1) hlow (by omega) (by unfold start; omega)
  have hlastDay : yearOf (start y - 1) = (y : Int) - 1 := hbefore (by simpa using hpos)
  omega

theorem lt_start_succ (hlow : 0 ≤ ofCycle) (hhigh : ofCycle ≤ 146096)
    (hyear : yearOf ofCycle < 399) : ofCycle < start (yearOf ofCycle + 1) := by
  obtain ⟨hnonneg, -⟩ := yearOf_bounds hlow hhigh
  obtain ⟨y, hy⟩ : ∃ y : Nat, yearOf ofCycle = y := ⟨_, (Int.toNat_of_nonneg hnonneg).symm⟩
  have hnext : yearOf (start ((y : Int) + 1)) = y + 1 := (yearOf_start ⟨y + 1, by omega⟩).1
  rw [hy]
  refine Int.not_le.1 fun hge => ?_
  have hmono := yearOf_mono (start_nonneg (y := (y : Int) + 1) (by omega)) hge hhigh
  omega

/-! ## Days of a year -/

/-- A day of the calendar, counted in cycles, years from March and days of such a year. -/
structure Place where
  cycle : Int
  ofYear : Int
  dayOfYear : Int

namespace Place

/-- The year has the day. -/
structure Valid (p : Place) : Prop where
  ofYear_nonneg : 0 ≤ p.ofYear
  ofYear_le : p.ofYear ≤ 399
  dayOfYear_nonneg : 0 ≤ p.dayOfYear
  dayOfYear_le : p.dayOfYear ≤ 365
  leap : p.dayOfYear = 365 → isLeapYear (p.ofYear + p.cycle * 400 + 1) = true

/-- The days from the start of the first cycle. -/
def shifted (p : Place) : Int := p.cycle * 146097 + start p.ofYear + p.dayOfYear

/-- The month, counted from March. -/
def month (p : Place) : Int := (5 * p.dayOfYear + 2) / 153

/-- The day of the month. -/
def day (p : Place) : Int := p.dayOfYear - (153 * p.month + 2) / 5 + 1

/-- Year, month and day of the month. -/
def civil (p : Place) : Civil :=
  let month := if p.month < 10 then p.month + 3 else p.month - 9
  ⟨p.ofYear + p.cycle * 400 + (if month ≤ 2 then 1 else 0), month.toNat, p.day.toNat⟩

end Place

/-- The place of a date. -/
def Date.place (d : Date) : Place :=
  let ofCycle := (d.day + epochShift) % 146097
  ⟨(d.day + epochShift) / 146097, yearOf ofCycle, ofCycle - start (yearOf ofCycle)⟩

theorem Date.civil_eq (d : Date) : d.civil = d.place.civil := rfl

theorem Date.shifted_place (d : Date) : d.place.shifted = d.day + epochShift := by
  unfold Place.shifted Date.place
  simp only
  omega

theorem Date.valid_place (d : Date) : d.place.Valid := by
  have hlow : 0 ≤ (d.day + epochShift) % 146097 := by omega
  have hhigh : (d.day + epochShift) % 146097 ≤ 146096 := by omega
  obtain ⟨hnonneg, hle⟩ := yearOf_bounds hlow hhigh
  have hstart := start_le hlow hhigh
  have hnext := lt_start_succ hlow hhigh
  change Place.Valid ⟨(d.day + epochShift) / 146097, yearOf ((d.day + epochShift) % 146097),
    (d.day + epochShift) % 146097 - start (yearOf ((d.day + epochShift) % 146097))⟩
  generalize (d.day + epochShift) % 146097 = ofCycle at *
  generalize (d.day + epochShift) / 146097 = cycle at *
  generalize yearOf ofCycle = y at *
  unfold start at *
  refine ⟨hnonneg, hle, by simp only; omega, ?_, ?_⟩
  · simp only
    omega
  · intro hlast
    have h4 : (y + cycle * 400 + 1) % 4 = (y + 1) % 4 := by omega
    have h100 : (y + cycle * 400 + 1) % 100 = (y + 1) % 100 := by omega
    have h400 : (y + cycle * 400 + 1) % 400 = (y + 1) % 400 := by omega
    simp only [isLeapYear, h4, h100, h400, Bool.and_eq_true, Bool.or_eq_true, beq_iff_eq,
      bne_iff_ne]
    simp only at hlast
    by_cases hcycle : y = 399
    · omega
    · -- the next year would start a day earlier if this were no leap year
      have hlong := hnext (by omega)
      have hfour : (y + 1) / 4 = y / 4 ∨ (y + 1) / 4 = y / 4 + 1 ∧ (y + 1) % 4 = 0 := by omega
      have hcentury : (y + 1) / 100 = y / 100 ∧ (y + 1) % 100 ≠ 0 ∨
          (y + 1) / 100 = y / 100 + 1 := by omega
      omega

/-! ## Months -/

/-- The months from March hold the days of a year as the calendar has it. -/
theorem months : ∀ n : Fin 366, let p : Place := ⟨0, 0, n.val⟩
    0 ≤ p.month ∧ p.month ≤ 11 ∧ 1 ≤ p.day ∧
      (if p.month < 10 then p.day ≤ daysInMonth 1 (p.month + 3).toNat
        else if p.month = 10 then p.day ≤ 31
        else p.day ≤ 29 ∧ ((n.val : Int) < 365 → p.day ≤ 28)) := by
  decide +kernel

namespace Place

variable {p : Place}

/-- The months hold the day, with 29 days in the last one only in the longer years. -/
theorem Valid.months (h : p.Valid) :
    0 ≤ p.month ∧ p.month ≤ 11 ∧ 1 ≤ p.day ∧
      (if p.month < 10 then p.day ≤ daysInMonth 1 (p.month + 3).toNat
        else if p.month = 10 then p.day ≤ 31
        else p.day ≤ 29 ∧ (p.dayOfYear < 365 → p.day ≤ 28)) := by
  obtain ⟨n, hn⟩ : ∃ n : Nat, p.dayOfYear = n := ⟨_, (Int.toNat_of_nonneg h.dayOfYear_nonneg).symm⟩
  have hle := h.dayOfYear_le
  have hmonths := Time.months ⟨n, by omega⟩
  have hmonth : Place.month ⟨0, 0, n⟩ = p.month := by simp only [month, hn]
  have hday : Place.day ⟨0, 0, n⟩ = p.day := by simp only [day, hmonth, hn]
  simp only [hmonth, hday] at hmonths
  rw [hn]
  exact hmonths

theorem Valid.civil_exists (h : p.Valid) :
    1 ≤ p.civil.month ∧ p.civil.month ≤ 12 ∧ 1 ≤ p.civil.day ∧
      p.civil.day ≤ daysInMonth p.civil.year p.civil.month := by
  obtain ⟨hlow, hhigh, hday, hmonths⟩ := h.months
  have hle := h.dayOfYear_le
  have hleap := h.leap
  unfold civil
  by_cases hwinter : p.month < 10
  · rw [if_pos hwinter] at hmonths
    simp only [if_pos hwinter]
    have hlength : ∀ year, daysInMonth year (p.month + 3).toNat =
        daysInMonth 1 (p.month + 3).toNat := by
      intro year
      have : (p.month + 3).toNat ≠ 2 := by omega
      simp [daysInMonth, this]
    rw [hlength]
    omega
  · rw [if_neg hwinter] at hmonths
    simp only [if_neg hwinter]
    by_cases hjanuary : p.month = 10
    · rw [if_pos hjanuary] at hmonths
      simp only [hjanuary]
      refine ⟨by decide, by decide, by omega, ?_⟩
      change p.day.toNat ≤ 31
      omega
    · rw [if_neg hjanuary] at hmonths
      have hfebruary : p.month = 11 := by omega
      simp only [hfebruary]
      refine ⟨by decide, by decide, by omega, ?_⟩
      change p.day.toNat ≤ if isLeapYear (p.ofYear + p.cycle * 400 + 1) then 29 else 28
      by_cases hlast : p.dayOfYear = 365
      · rw [if_pos (hleap hlast)]
        omega
      · have := hmonths.2 (by omega)
        split <;> omega

theorem Valid.ofCivil_civil (h : p.Valid) : (Date.ofCivil p.civil).day = p.shifted - epochShift := by
  obtain ⟨hlow, hhigh, hday, -⟩ := h.months
  have hnonneg := h.ofYear_nonneg
  have hyear := h.ofYear_le
  have hdef : p.day = p.dayOfYear - (153 * p.month + 2) / 5 + 1 := rfl
  have hcycle : (p.ofYear + p.cycle * 400) / 400 = p.cycle := by omega
  have hofYear : (p.ofYear + p.cycle * 400) % 400 = p.ofYear := by omega
  unfold civil Date.ofCivil shifted start
  by_cases hwinter : p.month < 10
  · have hmore : ¬p.month + 3 ≤ 2 := by omega
    have hmore' : ¬(p.month + 3).toNat ≤ 2 := by omega
    have hmore'' : (p.month + 3).toNat > 2 := by omega
    simp only [if_pos hwinter, if_neg hmore, if_neg hmore', if_pos hmore'', Int.add_zero, hcycle,
      hofYear]
    omega
  · have hless : p.month - 9 ≤ 2 := by omega
    have hless' : (p.month - 9).toNat ≤ 2 := by omega
    have hless'' : ¬(p.month - 9).toNat > 2 := by omega
    simp only [if_neg hwinter, if_pos hless, if_pos hless', if_neg hless'', Int.add_sub_cancel,
      hcycle, hofYear]
    omega

/-- Days are in range exactly where their years are. -/
theorem Valid.year_mem (h : p.Valid) (hfirst : Date.first.day + epochShift ≤ p.shifted)
    (hlast : p.shifted ≤ Date.last.day + epochShift) :
    firstYear ≤ p.civil.year ∧ p.civil.year ≤ lastYear := by
  have hfirst' : (-656) * 146097 + start 256 + 306 ≤ p.shifted := hfirst
  have hlast' : p.shifted ≤ 655 * 146097 + start 142 + 305 := hlast
  have hnonneg := h.ofYear_nonneg
  have hyear := h.ofYear_le
  have hdayNonneg := h.dayOfYear_nonneg
  have hdayLe := h.dayOfYear_le
  have hdef : p.month = (5 * p.dayOfYear + 2) / 153 := rfl
  unfold shifted start at hfirst' hlast'
  unfold civil firstYear lastYear
  have hlow : -656 ≤ p.cycle := by omega
  have hhigh : p.cycle ≤ 655 := by omega
  have hlowYear : p.cycle = -656 → 256 ≤ p.ofYear ∧ (p.ofYear = 256 → 306 ≤ p.dayOfYear) := by
    intro hcycle
    rw [hcycle] at hfirst'
    omega
  have hhighYear : p.cycle = 655 → p.ofYear ≤ 142 ∧ (p.ofYear = 142 → p.dayOfYear ≤ 305) := by
    intro hcycle
    rw [hcycle] at hlast'
    omega
  by_cases hwinter : p.month < 10
  · have hmore : ¬p.month + 3 ≤ 2 := by omega
    simp only [if_pos hwinter, if_neg hmore]
    omega
  · have hless : p.month - 9 ≤ 2 := by omega
    simp only [if_neg hwinter, if_pos hless]
    omega

end Place

namespace Date

/-- **The day that year, month and day name** is the one that they were taken from. -/
theorem ofCivil_civil (d : Date) : ofCivil d.civil = d := by
  have h := d.valid_place.ofCivil_civil
  rw [d.shifted_place, Int.add_sub_cancel] at h
  rw [d.civil_eq]
  exact congrArg Date.mk h

theorem ofCivil?_civil {d : Date} (h : d.inRange = true) : ofCivil? d.civil = some d := by
  rw [inRange, Bool.and_eq_true, decide_eq_true_iff, decide_eq_true_iff] at h
  have hvalid := d.valid_place
  have hshifted := d.shifted_place
  obtain ⟨hmonth, hmonth', hday, hday'⟩ := hvalid.civil_exists
  obtain ⟨hyear, hyear'⟩ := hvalid.year_mem (by omega) (by omega)
  unfold ofCivil?
  rw [d.civil_eq, if_pos ⟨hyear, hyear', hmonth, hmonth', hday, hday'⟩, ← d.civil_eq,
    ofCivil_civil]

end Date

end Registrar.Time
