import Mathlib.Tactic.Ring
import Registrar.Number.Scientific
import Registrar.Number.Layout
/-!
# Digits that are written and read

The digits of a number are digits, there is at least one of them, and their value is the number.
So whatever reads digits reads back what was written: a whole number within bounds
(`readWithin_decimal`), and digits with zeros in front (`value_padded`).
-/
namespace Registrar.Number

/-- The value of some digits. -/
abbrev value (s : List Char) : Nat := Nat.ofDigitChars 10 s 0

theorem isDigit_eq (c : Char) : isDigit c = c.isDigit := by
  unfold isDigit digit?
  by_cases h : c.isDigit
  · have hbounds : '0' ≤ c ∧ c ≤ '9' := by
      simpa [Char.isDigit, Char.le_def] using h
    simp [hbounds, h]
  · have hbounds : ¬('0' ≤ c ∧ c ≤ '9') := by
      simpa [Char.isDigit, Char.le_def] using h
    simp [hbounds, h]

theorem digit?_of_isDigit {c : Char} (h : isDigit c) : digit? c = some (c.toNat - '0'.toNat) := by
  unfold isDigit digit? at *
  split at h
  · rename_i hbounds
    rw [if_pos hbounds]
  · cases h

/-! ## Digits of a number -/

theorem isDigit_of_mem_digits {n : Nat} {c : Char} (h : c ∈ digits n) : isDigit c = true := by
  rw [isDigit_eq]
  exact Nat.isDigit_of_mem_toDigits (by omega) (by omega) h

theorem digits_ne_nil (n : Nat) : digits n ≠ [] := Nat.toDigits_ne_nil

theorem value_digits (n : Nat) : value (digits n) = n :=
  Nat.ofDigitChars_toDigits (by omega) (by omega)

/-- A number of at most `width` digits is below the power of ten. -/
theorem length_digits_le_iff {n width : Nat} (h : 0 < width) :
    (digits n).length ≤ width ↔ n < 10 ^ width :=
  Nat.length_toDigits_le_iff (by omega) h

theorem value_replicate_append (count : Nat) (s : List Char) :
    value (List.replicate count '0' ++ s) = value s := by
  simp [value, Nat.ofDigitChars_append, Nat.ofDigitChars_replicate_zero]

theorem value_append_replicate (count : Nat) (s : List Char) :
    value (s ++ List.replicate count '0') = value s * 10 ^ count := by
  simp [value, Nat.ofDigitChars_append, Nat.ofDigitChars_replicate_zero, Nat.mul_comm]

theorem isDigit_of_mem_zeros {count : Nat} {c : Char} (h : c ∈ List.replicate count '0') :
    isDigit c = true := by
  rw [List.eq_of_mem_replicate h]
  decide

theorem isDigit_of_mem_padded {width n : Nat} {c : Char} (h : c ∈ padded width n) :
    isDigit c = true := by
  rcases List.mem_append.1 h with hzero | hdigit
  · exact isDigit_of_mem_zeros hzero
  · exact isDigit_of_mem_digits hdigit

theorem value_padded (width n : Nat) : value (padded width n) = n := by
  rw [padded, value_replicate_append, value_digits]

theorem length_padded (width n : Nat) : (padded width n).length = max width (digits n).length := by
  simp only [padded, List.length_append, List.length_replicate]
  omega

/-- A number below the power of ten has exactly as many digits as it is padded to. -/
theorem length_padded_of_lt {width n : Nat} (hwidth : 0 < width) (h : n < 10 ^ width) :
    (padded width n).length = width := by
  have := (length_digits_le_iff hwidth).2 h
  rw [length_padded]
  omega

/-! ## Reading -/

theorem digitsValue_eq {s : List Char} (h : ∀ c ∈ s, isDigit c = true) :
    Double.digitsValue s = value s := by
  have hfold : ∀ (s : List Char) (n : Nat), (∀ c ∈ s, isDigit c = true) →
      s.foldl (fun n c => n * 10 + (digit? c).getD 0) n = Nat.ofDigitChars 10 s n := by
    intro s
    induction s with
    | nil => intro n _; rfl
    | cons c rest ih =>
      intro n hs
      rw [List.foldl_cons, Nat.ofDigitChars_cons, digit?_of_isDigit (hs c List.mem_cons_self),
        ih _ fun d hd => hs d (List.mem_cons_of_mem _ hd)]
      simp [Nat.mul_comm]
  exact hfold s 0 h

theorem le_ofDigitChars (s : List Char) (n : Nat) : n ≤ Nat.ofDigitChars 10 s n := by
  induction s generalizing n with
  | nil => simp
  | cons c rest ih =>
    rw [Nat.ofDigitChars_cons]
    have := ih (10 * n + (c.toNat - '0'.toNat))
    omega

/-- Digits whose value stays within the limit are read. -/
theorem readDigits_eq {limit : Nat} (beyond : WholeFault) {s : List Char}
    (h : ∀ c ∈ s, isDigit c = true) {n : Nat} (hlimit : Nat.ofDigitChars 10 s n ≤ limit) :
    readDigits limit beyond n s = .ok (Nat.ofDigitChars 10 s n) := by
  induction s generalizing n with
  | nil => rfl
  | cons c rest ih =>
    rw [Nat.ofDigitChars_cons] at hlimit ⊢
    have hnext := le_ofDigitChars rest (10 * n + (c.toNat - '0'.toNat))
    have hcomm : n * 10 + (c.toNat - '0'.toNat) = 10 * n + (c.toNat - '0'.toNat) := by omega
    have hle : ¬limit < 10 * n + (c.toNat - '0'.toNat) := by omega
    simp only [readDigits, digit?_of_isDigit (h c List.mem_cons_self), hcomm, if_neg hle]
    exact ih (fun d hd => h d (List.mem_cons_of_mem _ hd)) hlimit

/-- What is read consists of digits, and their value stays within the limit. -/
theorem of_readDigits {limit : Nat} {beyond : WholeFault} {s : List Char} {n m : Nat}
    (hn : n ≤ limit) (h : readDigits limit beyond n s = .ok m) :
    (∀ c ∈ s, isDigit c = true) ∧ Nat.ofDigitChars 10 s n = m ∧ m ≤ limit := by
  induction s generalizing n with
  | nil =>
    cases h
    exact ⟨List.forall_mem_nil _, Nat.ofDigitChars_nil, hn⟩
  | cons c rest ih =>
    cases hdigit : digit? c with
    | none => simp [readDigits, hdigit] at h
    | some d =>
      have hc : isDigit c = true := by rw [isDigit, hdigit]; rfl
      obtain rfl : c.toNat - '0'.toNat = d := by
        rw [digit?_of_isDigit hc] at hdigit
        exact Option.some.inj hdigit
      simp only [readDigits, hdigit] at h
      split at h
      · cases h
      · rename_i hle
        obtain ⟨hrest, hvalue, hm⟩ := ih (Nat.le_of_not_lt hle) h
        refine ⟨List.forall_mem_cons.2 ⟨hc, hrest⟩, ?_, hm⟩
        rw [Nat.ofDigitChars_cons, Nat.mul_comm, hvalue]

/-- A whole number as it may be written: a plus sign or none, and one or more digits. -/
def IsNumeral (n : Nat) (s : List Char) : Prop :=
  ∃ ds, (s = ds ∨ s = '+' :: ds) ∧ ds ≠ [] ∧ (∀ c ∈ ds, isDigit c = true) ∧ value ds = n

theorem isNumeral_digits (n : Nat) : IsNumeral n (digits n) :=
  ⟨digits n, Or.inl rfl, digits_ne_nil n, fun _ => isDigit_of_mem_digits, value_digits n⟩

theorem readDigits_eq_ok_iff {limit m : Nat} {beyond : WholeFault} {s : List Char} :
    readDigits limit beyond 0 s = .ok m ↔
      (∀ c ∈ s, isDigit c = true) ∧ value s = m ∧ m ≤ limit := by
  constructor
  · exact of_readDigits (Nat.zero_le _)
  · rintro ⟨hall, rfl, hle⟩
    exact readDigits_eq beyond hall hle

section

variable {s : List Char} {i : Int}

/-- The number without a sign that some digits denote. -/
private def readUnsigned (ds : List Char) : Except WholeFault Int :=
  (readDigits (2 ^ 64 - 1) .tooLarge 0 ds).map Int.ofNat

private theorem readUnsigned_eq_ok_iff : readUnsigned s = .ok i ↔
    ∃ n : Nat, i = n ∧ (∀ c ∈ s, isDigit c = true) ∧ value s = n ∧ n < 2 ^ 64 := by
  have hiff : ∀ n : Nat, (∀ c ∈ s, isDigit c = true) ∧ value s = n ∧ n < 2 ^ 64 ↔
      readDigits (2 ^ 64 - 1) .tooLarge 0 s = .ok n := by
    intro n
    rw [readDigits_eq_ok_iff, Nat.le_sub_one_iff_lt (by omega)]
  simp only [hiff, readUnsigned]
  cases readDigits (2 ^ 64 - 1) .tooLarge 0 s with
  | error fault => simp [Except.map]
  | ok n => simp [Except.map, eq_comm]

private theorem readNat64_plus (hne : s ≠ []) : readNat64 ('+' :: s) = readUnsigned s := by
  cases s with
  | nil => exact absurd rfl hne
  | cons c s => cases readDigits (2 ^ 64 - 1) .tooLarge 0 (c :: s) <;>
    simp [readNat64, readWithin, readUnsigned, Except.map, bind, Except.bind, pure, Except.pure]

private theorem readNat64_unsigned {c : Char} (hplus : c ≠ '+') (hminus : c ≠ '-') :
    readNat64 (c :: s) = readUnsigned (c :: s) := by
  cases readDigits (2 ^ 64 - 1) .tooLarge 0 (c :: s) <;>
    simp [readNat64, readWithin, readUnsigned, Except.map, hplus, hminus, bind, Except.bind, pure,
      Except.pure]

/-- **A number without a sign** is read exactly from the numerals of the numbers of 64 bits. -/
theorem readNat64_eq_ok_iff :
    readNat64 s = .ok i ↔ ∃ n : Nat, i = n ∧ IsNumeral n s ∧ n < 2 ^ 64 := by
  constructor
  · intro h
    cases s with
    | nil => simp [readNat64, readWithin] at h
    | cons c s =>
      by_cases hplus : c = '+'
      · subst hplus
        by_cases hne : s = []
        · simp [hne, readNat64, readWithin] at h
        · obtain ⟨n, hi, hall, hvalue, hlt⟩ := readUnsigned_eq_ok_iff.1 (readNat64_plus hne ▸ h)
          exact ⟨n, hi, ⟨s, Or.inr rfl, hne, hall, hvalue⟩, hlt⟩
      by_cases hminus : c = '-'
      · subst hminus
        cases s <;> simp [readNat64, readWithin] at h
      · obtain ⟨n, hi, hall, hvalue, hlt⟩ :=
          readUnsigned_eq_ok_iff.1 (readNat64_unsigned hplus hminus ▸ h)
        exact ⟨n, hi, ⟨c :: s, Or.inl rfl, List.cons_ne_nil c s, hall, hvalue⟩, hlt⟩
  · rintro ⟨n, rfl, ⟨ds, rfl | rfl, hne, hall, hvalue⟩, hlt⟩
    · obtain ⟨c, ds, rfl⟩ := List.exists_cons_of_ne_nil hne
      have hdigit := hall c List.mem_cons_self
      have hplus : c ≠ '+' := by
        rintro rfl
        exact absurd hdigit (by decide)
      have hminus : c ≠ '-' := by
        rintro rfl
        exact absurd hdigit (by decide)
      rw [readNat64_unsigned hplus hminus]
      exact readUnsigned_eq_ok_iff.2 ⟨n, rfl, hall, hvalue, hlt⟩
    · rw [readNat64_plus hne]
      exact readUnsigned_eq_ok_iff.2 ⟨n, rfl, hall, hvalue, hlt⟩

end

/-- **A whole number** is read back, by whoever reads numbers in a range that it lies in. -/
theorem readWithin_decimal {low high n : Int} (hlow : low ≤ n) (hhigh : n ≤ high) :
    readWithin low high (decimal n) = .ok n := by
  obtain ⟨first, rest, hdigits⟩ := List.exists_cons_of_ne_nil (digits_ne_nil n.natAbs)
  have hall : ∀ c ∈ first :: rest, isDigit c = true := fun c hc =>
    isDigit_of_mem_digits (hdigits ▸ hc)
  have hvalue : Nat.ofDigitChars 10 (first :: rest) 0 = n.natAbs := by
    rw [← hdigits]
    exact value_digits _
  unfold decimal
  by_cases hneg : n < 0
  · rw [if_pos hneg, hdigits]
    have hread : readDigits low.natAbs .tooSmall 0 (first :: rest) = _ :=
      readDigits_eq .tooSmall hall (by omega)
    have hbelow : low < 0 := by omega
    simp only [readWithin, if_pos hbelow, hread, hvalue, bind, Except.bind, pure, Except.pure,
      Int.ofNat_eq_natCast]
    congr 1
    omega
  · rw [if_neg hneg, hdigits]
    have hfirst := hall first List.mem_cons_self
    have hplus : first ≠ '+' := by
      rintro rfl
      exact absurd hfirst (by decide)
    have hminus : first ≠ '-' := by
      rintro rfl
      exact absurd hfirst (by decide)
    have hread : readDigits high.toNat .tooLarge 0 (first :: rest) = _ :=
      readDigits_eq .tooLarge hall (by omega)
    unfold readWithin
    split
    case h_6 =>
      simp only [hread, hvalue, bind, Except.bind, pure, Except.pure, Int.ofNat_eq_natCast]
      congr 1
      omega
    -- the other cases are texts without digits or with a sign
    all_goals simp_all

end Registrar.Number
