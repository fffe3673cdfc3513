import Registrar.Proofs.Number.Digits
import Registrar.Proofs.Time.Calendar
import Registrar.Time.Reading
/-!
# Dates and instants that are written and read

Every part of a date or an instant is digits of a known number, and the mark after it is no digit, so
each reader takes just the digits of its part (`number_append`). A date in range is read back
(`Date.read?_text`), and so is an instant that a clock can show (`Instant.read_text`).
-/
namespace Registrar.Time

open Number (padded isDigit)
open Reading

namespace Reading

/-! ## Parts -/

theorem trimStart_cons {c : Char} {s : List Char} (h : Text.isBlank c = false) :
    Text.trimStart (c :: s) = c :: s := by
  simp [Text.trimStart, h]

theorem not_isBlank_of_isDigit {c : Char} (h : isDigit c = true) : Text.isBlank c = false := by
  rw [Number.isDigit_eq] at h
  simp only [Char.isDigit, Bool.and_eq_true, decide_eq_true_eq] at h
  have hlow : 48 ≤ c.toNat := h.1
  have hhigh : c.toNat ≤ 57 := h.2
  simp only [Text.isBlank, Bool.or_eq_false_iff, Bool.and_eq_false_iff, beq_eq_false_iff_ne,
    decide_eq_false_iff_not, ne_eq]
  omega

theorem padded_eq_cons (width n : Nat) :
    ∃ c rest, padded width n = c :: rest ∧ isDigit c = true := by
  have hlength : 0 < (padded width n).length := by
    have := List.length_pos_iff.2 (Number.digits_ne_nil n)
    rw [Number.length_padded]
    omega
  obtain ⟨c, rest, hpadded⟩ := List.exists_cons_of_ne_nil (List.length_pos_iff.1 hlength)
  exact ⟨c, rest, hpadded, Number.isDigit_of_mem_padded (hpadded ▸ List.mem_cons_self)⟩

theorem trimStart_padded (width n : Nat) (rest : List Char) :
    Text.trimStart (padded width n ++ rest) = padded width n ++ rest := by
  obtain ⟨c, tail, hpadded, hc⟩ := padded_eq_cons width n
  rw [hpadded, List.cons_append]
  exact trimStart_cons (not_isBlank_of_isDigit hc)

/-- A reader of numbers takes the digits before a character that is none, if it may take as many. -/
theorem number_append {most : Option Nat} {width n : Nat} {rest : List Char}
    (hrest : ∀ c ∈ rest.head?, isDigit c = false)
    (hmost : ∀ limit ∈ most, (padded width n).length ≤ limit) (hn : n ≤ 9223372036854775807) :
    number most (padded width n ++ rest) = .ok ((n : Int), rest) := by
  obtain ⟨c, tail, hpadded, -⟩ := padded_eq_cons width n
  have htake : (padded width n ++ rest).takeWhile isDigit = padded width n := by
    rw [List.takeWhile_append_of_pos fun c => Number.isDigit_of_mem_padded]
    cases rest with
    | nil => simp
    | cons d rest => simp [hrest d rfl]
  have hpaddedValue : Nat.ofDigitChars 10 (padded width n) 0 = n := Number.value_padded width n
  have hvalue : value64 (padded width n) = .ok (n : Int) := by
    have hread : Number.readDigits 9223372036854775807 .tooLarge 0 (padded width n) = _ :=
      Number.readDigits_eq .tooLarge (fun c => Number.isDigit_of_mem_padded) (by omega)
    rw [value64, hread, hpaddedValue]
  unfold number
  cases most with
  | none =>
    simp only [htake, hvalue, List.drop_left]
    rw [hpadded]
    rfl
  | some limit =>
    simp only [htake, List.take_of_length_le (hmost limit rfl), hvalue, List.drop_left]
    rw [hpadded]
    rfl

/-- Numbers of two digits. -/
theorem twoDigits_append {low high : Int} {n : Nat} {rest : List Char}
    (hrest : ∀ c ∈ rest.head?, isDigit c = false) (hlow : low ≤ n) (hhigh : n ≤ high)
    (hn : n < 100) : twoDigits low high (padded 2 n ++ rest) = .ok (n, rest) := by
  have hnumber : number (some 2) (padded 2 n ++ rest) = .ok ((n : Int), rest) := by
    refine number_append hrest ?_ (by omega)
    rintro limit ⟨⟩
    exact le_of_eq (Number.length_padded_of_lt (by omega) hn)
  unfold twoDigits
  simp only [trimStart_padded, hnumber, bind, Except.bind, if_pos (And.intro hlow hhigh),
    Int.toNat_natCast]
  rfl

theorem mark_cons {c : Char} (h : Text.isBlank c = false) (rest : List Char) :
    mark c (c :: rest) = .ok rest := by
  unfold mark
  rw [trimStart_cons h]
  simp

/-- Years as they are written. -/
theorem year_append {y : Int} {rest : List Char} (hrest : ∀ c ∈ rest.head?, isDigit c = false)
    (hlow : firstYear ≤ y) (hhigh : y ≤ lastYear) : year (yearText y ++ rest) = .ok (y, rest) := by
  unfold firstYear lastYear at *
  have hrange : -2147483648 ≤ y ∧ y ≤ 2147483647 := by omega
  have hlong : number none (padded 4 y.natAbs ++ rest) = .ok ((y.natAbs : Int), rest) :=
    number_append hrest (by simp) (by omega)
  unfold yearText year
  by_cases hfour : 0 ≤ y ∧ y ≤ 9999
  · rw [if_pos hfour]
    obtain ⟨c, tail, hpadded, hc⟩ := padded_eq_cons 4 y.natAbs
    have hshort : number (some 4) (padded 4 y.natAbs ++ rest) = .ok ((y.natAbs : Int), rest) := by
      refine number_append hrest ?_ (by omega)
      rintro limit ⟨⟩
      exact le_of_eq (Number.length_padded_of_lt (by omega) (by omega))
    have habs : (y.natAbs : Int) = y := by omega
    rw [trimStart_padded]
    rw [hpadded, List.cons_append] at hshort ⊢
    split
    · rename_i heq
      rw [(List.cons.inj heq).1] at hc
      exact absurd hc (by decide)
    · rename_i heq
      rw [(List.cons.inj heq).1] at hc
      exact absurd hc (by decide)
    · simp only [hshort, habs, bind, Except.bind, if_pos hrange]
      rfl
  · rw [if_neg hfour]
    by_cases hneg : y < 0
    · have habs : -(y.natAbs : Int) = y := by omega
      rw [if_pos hneg, List.cons_append, trimStart_cons (by decide)]
      simp only [hlong, habs, bind, Except.bind, pure, Except.pure, if_pos hrange]
    · have habs : (y.natAbs : Int) = y := by omega
      rw [if_neg hneg, List.cons_append, trimStart_cons (by decide)]
      simp only [hlong, habs, bind, Except.bind, pure, Except.pure, if_pos hrange]

end Reading

/-! ## Dates -/

section

variable {d : Date} (h : d.inRange = true)

include h

theorem civil_bounds : firstYear ≤ d.civil.year ∧ d.civil.year ≤ lastYear ∧
    1 ≤ d.civil.month ∧ d.civil.month ≤ 12 ∧ 1 ≤ d.civil.day ∧ d.civil.day ≤ 31 := by
  have hexists := Date.ofCivil?_civil h
  unfold Date.ofCivil? at hexists
  split at hexists
  · rename_i hcond
    obtain ⟨hyear, hyear', hmonth, hmonth', hday, hday'⟩ := hcond
    have hlength : daysInMonth d.civil.year d.civil.month ≤ 31 := by
      unfold daysInMonth
      split
      · split <;> omega
      · split <;> omega
    exact ⟨hyear, hyear', hmonth, hmonth', hday, by omega⟩
  · cases hexists

/-- The three parts of a date before a text that does not go on with a digit. -/
theorem readParts_text (rest : List Char) (hrest : ∀ c ∈ rest.head?, isDigit c = false) :
    ∃ s₁ s₂ s₃ s₄, year (d.text ++ rest) = .ok (d.civil.year, s₁) ∧ mark '-' s₁ = .ok s₂ ∧
      twoDigits 1 12 s₂ = .ok (d.civil.month, s₃) ∧ mark '-' s₃ = .ok s₄ ∧
      twoDigits 1 31 s₄ = .ok (d.civil.day, rest) := by
  obtain ⟨hyear, hyear', hmonth, hmonth', hday, hday'⟩ := civil_bounds h
  have hhyphen : ∀ s : List Char, ∀ c ∈ ('-' :: s).head?, isDigit c = false := by
    rintro s c ⟨⟩
    decide
  refine ⟨_, _, _, _, ?_, mark_cons (by decide) _,
    twoDigits_append (hhyphen _) (by omega) (by omega) (by omega), mark_cons (by decide) _,
    twoDigits_append hrest (by omega) (by omega) (by omega)⟩
  rw [← year_append (hhyphen _) hyear hyear']
  simp only [Date.text, List.append_assoc, List.cons_append]

/-- **Dates are read back.** -/
theorem Date.read?_text : Date.read? d.text = some d := by
  obtain ⟨s₁, s₂, s₃, s₄, hyear, hmark, hmonth, hmark', hday⟩ :=
    readParts_text h [] (by simp)
  rw [List.append_nil] at hyear
  unfold Date.read?
  simp only [hyear, hmark, hmonth, hmark', hday, bind, Except.bind, pure, Except.pure]
  exact Date.ofCivil?_civil h

end

/-! ## Instants -/

namespace Instant

/-- The instant is one that a clock can show: its day has a date, and its fraction is less than a
second, or less than two in the last second of a minute. -/
structure Valid (t : Instant) : Prop where
  inRange : t.date.inRange = true
  nanos_lt : t.nanos < 2 * nanosPerSecond
  leap : nanosPerSecond ≤ t.nanos → t.seconds % 60 = 59

instance (t : Instant) : Decidable t.Valid :=
  decidable_of_iff (t.date.inRange = true ∧ t.nanos < 2 * nanosPerSecond ∧
      (nanosPerSecond ≤ t.nanos → t.seconds % 60 = 59))
    ⟨fun ⟨h, h', h''⟩ => ⟨h, h', h''⟩, fun h => ⟨h.inRange, h.nanos_lt, h.leap⟩⟩

/-- A fraction of up to nine digits. -/
theorem fraction_padded {width scaled : Nat} {rest : List Char} (hpos : 0 < width)
    (hwidth : width ≤ 9) (hscaled : scaled < Nat.pow 10 width)
    (hrest : ∀ c ∈ rest.head?, isDigit c = false) :
    fraction ('.' :: padded width scaled ++ rest) =
      .ok (scaled * Nat.pow 10 (9 - width), rest) := by
  have hlength : (padded width scaled).length = width := Number.length_padded_of_lt hpos hscaled
  have hbound : scaled ≤ 9223372036854775807 := by
    have hle : Nat.pow 10 width ≤ Nat.pow 10 9 := Nat.pow_le_pow_right (by omega) hwidth
    have : Nat.pow 10 9 = 1000000000 := rfl
    omega
  have hnumber : number (some 9) (padded width scaled ++ rest) = .ok ((scaled : Int), rest) := by
    refine number_append hrest ?_ hbound
    rintro limit ⟨⟩
    omega
  have hdrop : rest.dropWhile isDigit = rest := by
    cases rest with
    | nil => rfl
    | cons c rest => simp [hrest c rfl]
  have hused : (padded width scaled ++ rest).length - rest.length = width := by
    rw [List.length_append]
    omega
  unfold fraction
  simp only [List.cons_append, hnumber, bind, Except.bind, pure, Except.pure, hused, hdrop,
    Int.toNat_natCast]

theorem fraction_append {n : Nat} {rest : List Char} (hn : n < nanosPerSecond)
    (hrest : ∀ c ∈ rest.head?, isDigit c = false) (hpoint : rest.head? ≠ some '.') :
    fraction (fractionText n ++ rest) = .ok (n, rest) := by
  unfold nanosPerSecond at hn
  unfold fractionText
  by_cases hzero : n = 0
  · rw [if_pos hzero, hzero, List.nil_append]
    unfold fraction
    split
    · exact absurd rfl hpoint
    · rfl
  · rw [if_neg hzero]
    by_cases hmillis : n % 1000000 = 0
    · have hvalue : n / 1000000 * Nat.pow 10 (9 - 3) = n := by
        change n / 1000000 * 1000000 = n
        omega
      have hscaled : n / 1000000 < 1000 := by omega
      rw [if_pos hmillis, fraction_padded (by omega) (by omega) hscaled hrest, hvalue]
    · rw [if_neg hmillis]
      by_cases hmicros : n % 1000 = 0
      · have hvalue : n / 1000 * Nat.pow 10 (9 - 6) = n := by
          change n / 1000 * 1000 = n
          omega
        have hscaled : n / 1000 < 1000000 := by omega
        rw [if_pos hmicros, fraction_padded (by omega) (by omega) hscaled hrest, hvalue]
      · have hvalue : n * Nat.pow 10 (9 - 9) = n := Nat.mul_one n
        rw [if_neg hmicros, fraction_padded (by omega) (by omega) hn hrest, hvalue]

/-- A fraction, if there is one, starts with a point. -/
theorem head?_fractionText_append (n : Nat) {rest : List Char}
    (hrest : ∀ c ∈ rest.head?, isDigit c = false) :
    ∀ c ∈ (fractionText n ++ rest).head?, isDigit c = false := by
  have hpoint : ∀ s : List Char, ∀ c ∈ ('.' :: s).head?, isDigit c = false := by
    rintro s c ⟨⟩
    decide
  unfold fractionText
  split
  · exact hrest
  · split
    · exact hpoint _
    · split
      · exact hpoint _
      · exact hpoint _

/-- The parts of a time of day before a text that does not go on with a digit or a point. -/
theorem readTime_text (hour minute : Nat) {second nanos : Nat} (hhour : hour ≤ 23)
    (hminute : minute ≤ 59) (hsecond : second ≤ 60) (hnanos : nanos < nanosPerSecond)
    {rest : List Char}
    (hrest : ∀ c ∈ rest.head?, isDigit c = false) (hpoint : rest.head? ≠ some '.') :
    ∃ s₁ s₂ s₃ s₄ s₅, twoDigits 0 23 (padded 2 hour ++ ':' :: (padded 2 minute ++
        ':' :: (padded 2 second ++ (fractionText nanos ++ rest)))) = .ok (hour, s₁) ∧
      mark ':' s₁ = .ok s₂ ∧ twoDigits 0 59 s₂ = .ok (minute, s₃) ∧ mark ':' s₃ = .ok s₄ ∧
      twoDigits 0 60 s₄ = .ok (second, s₅) ∧ fraction s₅ = .ok (nanos, rest) := by
  have hcolon : ∀ s : List Char, ∀ c ∈ (':' :: s).head?, isDigit c = false := by
    rintro s c ⟨⟩
    decide
  exact ⟨_, _, _, _, _, twoDigits_append (hcolon _) (by omega) (by omega) (by omega),
    mark_cons (by decide) _, twoDigits_append (hcolon _) (by omega) (by omega) (by omega),
    mark_cons (by decide) _,
    twoDigits_append (head?_fractionText_append nanos hrest) (by omega) (by omega) (by omega),
    fraction_append hnanos hrest hpoint⟩

/-- **Instants are read back.** -/
theorem read_text {t : Instant} (h : t.Valid) : read t.text = .ok t := by
  obtain ⟨ofDay, hofDay⟩ : ∃ ofDay : Nat, t.seconds % 86400 = ofDay :=
    ⟨_, (Int.toNat_of_nonneg (by omega)).symm⟩
  have hofDayLt : ofDay < 86400 := by omega
  have hdate : t.date.day = t.seconds / 86400 := rfl
  obtain ⟨second, hsecond⟩ : ∃ second,
      ofDay % 60 + (if nanosPerSecond ≤ t.nanos then 1 else 0) = second := ⟨_, rfl⟩
  obtain ⟨nanos, hnanos⟩ : ∃ nanos,
      (if nanosPerSecond ≤ t.nanos then t.nanos - nanosPerSecond else t.nanos) = nanos := ⟨_, rfl⟩
  have hbound := h.nanos_lt
  have hleap := h.leap
  have hnanosLt : nanos < nanosPerSecond := by
    split at hnanos <;> omega
  have hsecondLe : second ≤ 60 := by
    split at hsecond <;> omega
  have hoffset : ∀ c ∈ "+00:00".toList.head?, isDigit c = false := by
    rintro c ⟨⟩
    decide
  obtain ⟨tail, htail⟩ : ∃ tail, padded 2 (ofDay / 3600) ++ (':' :: (padded 2 (ofDay / 60 % 60) ++
      (':' :: (padded 2 second ++ (fractionText nanos ++ "+00:00".toList))))) = tail := ⟨_, rfl⟩
  obtain ⟨s₁, s₂, s₃, s₄, hyear, hmark, hmonth, hmark', hday⟩ :=
    readParts_text h.inRange ('T' :: tail) (by rintro c ⟨⟩; decide)
  obtain ⟨s₅, s₆, s₇, s₈, s₉, hhour, hcolon, hminute, hcolon', hsecondRead, hfraction⟩ :=
    readTime_text (ofDay / 3600) (ofDay / 60 % 60) (by omega) (by omega) hsecondLe hnanosLt
      hoffset (by decide)
  rw [htail] at hhour
  have htext : t.text = t.date.text ++ 'T' :: tail := by
    unfold text textWith
    simp only [hofDay, Int.toNat_natCast, hsecond, hnanos, ← htail, List.append_assoc,
      List.cons_append]
  have hzone : zone (Text.trimStart "+00:00".toList) = .ok (0, []) := by decide
  have hblank : ¬Text.trimStart [] ≠ [] := by decide
  have hcivil := Date.ofCivil?_civil h.inRange
  unfold read
  simp only [htext, hyear, hmark, hmonth, hmark', hday, hhour, hcolon, hminute, hcolon',
    hsecondRead, hfraction, hzone, hcivil, bind, Except.bind, pure, Except.pure]
  have hlocal : t.date.day * 86400 + ((ofDay / 3600 : Nat) : Int) * 3600 +
      ((ofDay / 60 % 60 : Nat) : Int) * 60 + ((if second = 60 then 59 else second : Nat) : Int) - 0 =
      t.seconds := by
    split at hsecond <;> split <;> omega
  have hfractional : (nanos + if second = 60 then nanosPerSecond else 0) = t.nanos := by
    split at hsecond <;> split at hnanos <;> split <;> omega
  have hmarked : 'T' = 't' ∨ True ∨ 'T' = ' ' := Or.inr (Or.inl trivial)
  have hshift : ¬((0 : Int) ≤ -86400 ∨ (86400 : Int) ≤ 0) := by decide
  rw [if_pos hmarked, if_neg hblank, if_neg hshift, hlocal, hfractional, if_pos h.inRange]

end Instant

end Registrar.Time
