import Registrar.Number.Layout
import Registrar.Number.Scientific
import Registrar.Proofs.Number.Shortest
/-!
# Numbers that are written plainly and read

The plain layout of a finite number is a numeral, digits with or without a point among them, and a
minus sign before it if the number is negative. Wherever the point stands, the numeral has the value
of the shortest decimal (`place_value`), so reading it gives the number again (`read?_plain`).
-/
namespace Registrar.Number

/-- The digits after a point, with the point if there are any. -/
def pointed : List Char → List Char
  | [] => []
  | part => '.' :: part

/-- Digits, of which some may stand after a point and at least one does not. -/
structure Numeral where
  whole : List Char
  part : List Char
  whole_ne_nil : whole ≠ []
  isDigit : ∀ c ∈ whole ++ part, isDigit c = true

namespace Numeral

def text (n : Numeral) : List Char := n.whole ++ pointed n.part

def toRat (n : Numeral) : ℚ := value (n.whole ++ n.part) * 10 ^ (-(n.part.length : Int))

theorem text_eq_cons (n : Numeral) : ∃ c rest, n.text = c :: rest ∧ Number.isDigit c = true := by
  obtain ⟨c, rest, hwhole⟩ := List.exists_cons_of_ne_nil n.whole_ne_nil
  refine ⟨c, rest ++ pointed n.part, by simp [text, hwhole], n.isDigit c ?_⟩
  simp [hwhole]

theorem isDigit_or_point (n : Numeral) {c : Char} (hc : c ∈ n.text) :
    Number.isDigit c = true ∨ c = '.' := by
  rcases List.mem_append.1 hc with hwhole | hpart
  · exact Or.inl (n.isDigit c (List.mem_append_left _ hwhole))
  · cases hp : n.part with
    | nil =>
      rw [hp] at hpart
      cases hpart
    | cons d part =>
      rw [hp] at hpart
      rcases List.mem_cons.1 hpart with rfl | hpart
      · exact Or.inr rfl
      · exact Or.inl (n.isDigit c (List.mem_append_right _ (hp ▸ hpart)))

end Numeral

namespace Double

/-! ## The point -/

section

variable {digits : List Char} (hne : digits ≠ []) (hdigits : ∀ c ∈ digits, isDigit c = true)
include hne hdigits

/-- The point before the digits, and zeros behind it. -/
theorem exists_numeral_below (count : Nat) :
    ∃ n : Numeral, n.text = '0' :: '.' :: (List.replicate count '0' ++ digits) ∧
      n.toRat = value digits * 10 ^ (-((count + digits.length : Nat) : Int)) := by
  have hpart : List.replicate count '0' ++ digits ≠ [] := by simp [hne]
  refine ⟨⟨['0'], List.replicate count '0' ++ digits, by simp, ?_⟩, ?_, ?_⟩
  · intro c hc
    simp only [List.singleton_append, List.mem_cons, List.mem_append] at hc
    rcases hc with rfl | hc | hc
    · decide
    · exact isDigit_of_mem_zeros hc
    · exact hdigits c hc
  · rw [Numeral.text, pointed]
    · rfl
    · exact hpart
  · have hvalue := value_replicate_append (count + 1) digits
    rw [List.replicate_succ, List.cons_append] at hvalue
    simp only [Numeral.toRat, List.singleton_append, hvalue, List.length_append,
      List.length_replicate]

/-- Zeros behind the digits, and no point. -/
theorem exists_numeral_above (count : Nat) :
    ∃ n : Numeral, n.text = digits ++ List.replicate count '0' ∧
      n.toRat = value digits * 10 ^ (count : Int) := by
  refine ⟨⟨digits ++ List.replicate count '0', [], by simp [hne], ?_⟩, ?_, ?_⟩
  · intro c hc
    rw [List.append_nil, List.mem_append] at hc
    rcases hc with hc | hc
    · exact hdigits c hc
    · exact isDigit_of_mem_zeros hc
  · rw [Numeral.text, pointed, List.append_nil]
  · simp only [Numeral.toRat, List.append_nil, value_append_replicate]
    simp

/-- The point among the digits. -/
theorem exists_numeral_among {count : Nat} (hpos : 0 < count) (hlt : count < digits.length) :
    ∃ n : Numeral, n.text = digits.take count ++ '.' :: digits.drop count ∧
      n.toRat = value digits * 10 ^ (-((digits.length - count : Nat) : Int)) := by
  have hpart : digits.drop count ≠ [] := by
    rw [ne_eq, List.drop_eq_nil_iff]
    omega
  refine ⟨⟨digits.take count, digits.drop count, ?_, ?_⟩, ?_, ?_⟩
  · rw [ne_eq, List.take_eq_nil_iff]
    rintro (hzero | hnil)
    · omega
    · exact hne hnil
  · rwa [List.take_append_drop]
  · rw [Numeral.text, pointed]
    exact hpart
  · simp only [Numeral.toRat, List.take_append_drop, List.length_drop]

/-- Digits with a point are a numeral, which has the value that the point's place says. -/
theorem place_value (exponent : Int) :
    ∃ n : Numeral, n.text = place digits (digits.length + exponent) ∧
      n.toRat = value digits * 10 ^ exponent := by
  have hlength : 0 < digits.length := List.length_pos_of_ne_nil hne
  unfold place
  simp only []
  by_cases hbefore : (digits.length : Int) + exponent ≤ 0
  · obtain ⟨count, hcount⟩ : ∃ count, ((digits.length : Int) + exponent).natAbs = count := ⟨_, rfl⟩
    have hexponent : exponent = -((count + digits.length : Nat) : Int) := by omega
    rw [if_pos hbefore, hcount, hexponent]
    exact exists_numeral_below hne hdigits count
  · rw [if_neg hbefore]
    by_cases hafter : (digits.length : Int) ≤ digits.length + exponent
    · obtain ⟨count, rfl⟩ : ∃ count : Nat, exponent = count := ⟨exponent.natAbs, by omega⟩
      have hcount : ((digits.length : Int) + count - digits.length).toNat = count := by omega
      rw [if_pos hafter, hcount]
      exact exists_numeral_above hne hdigits count
    · obtain ⟨count, hcount⟩ : ∃ count : Nat, (digits.length : Int) + exponent = count :=
        ⟨((digits.length : Int) + exponent).natAbs, by omega⟩
      have hexponent : exponent = -((digits.length - count : Nat) : Int) := by omega
      rw [if_neg hafter, hcount, Int.toNat_natCast, hexponent]
      exact exists_numeral_among hne hdigits (by omega) (by omega)

end

/-! ## Reading -/

theorem spanDigits_append {run rest : List Char} (hrun : ∀ c ∈ run, isDigit c = true)
    (hrest : ∀ c ∈ rest.head?, isDigit c = false) : spanDigits (run ++ rest) = (run, rest) := by
  induction run with
  | nil =>
    cases rest with
    | nil => rfl
    | cons c rest =>
      have hc := hrest c rfl
      simp [spanDigits, hc]
  | cons c run ih =>
    have hc := hrun c List.mem_cons_self
    have hspan := ih fun d hd => hrun d (List.mem_cons_of_mem _ hd)
    simp only [spanDigits, Prod.mk.injEq] at hspan
    simp [spanDigits, hc, hspan]

theorem readUnsigned?_text (negative : Bool) (n : Numeral) :
    readUnsigned? negative n.text =
      some (ofScientific negative (value (n.whole ++ n.part)) (-(n.part.length : Int))) := by
  have hwhole : ∀ c ∈ n.whole, isDigit c = true := fun c hc =>
    n.isDigit c (List.mem_append_left _ hc)
  have hpart : ∀ c ∈ n.part, isDigit c = true := fun c hc =>
    n.isDigit c (List.mem_append_right _ hc)
  have hvalue := digitsValue_eq n.isDigit
  unfold readUnsigned? Numeral.text
  cases h : n.part with
  | nil =>
    rw [h] at hvalue
    have hspan : spanDigits (n.whole ++ []) = _ := spanDigits_append hwhole (by simp)
    rw [List.append_nil] at hspan hvalue
    simp [pointed, hspan, n.whole_ne_nil, readExponent?, hvalue]
  | cons c rest =>
    rw [h] at hvalue hpart
    have hpoint : ∀ d ∈ ('.' :: c :: rest).head?, isDigit d = false := by
      intro d hd
      cases hd
      decide
    have hspan : spanDigits (n.whole ++ '.' :: c :: rest) = _ := spanDigits_append hwhole hpoint
    have hspan' : spanDigits (c :: rest ++ []) = _ := spanDigits_append hpart (by simp)
    rw [List.append_nil] at hspan'
    simp [pointed, hspan, hspan', n.whole_ne_nil, readExponent?, hvalue]

/-- A numeral is no word, and it has no sign. -/
theorem read?_text (negative : Bool) (n : Numeral) :
    read? (signed negative n.text) = readUnsigned? negative n.text := by
  obtain ⟨c, rest, htext, hc⟩ := n.text_eq_cons
  have hlower : c.toLower = c := by
    rw [isDigit_eq] at hc
    unfold Char.toLower
    rw [dif_neg]
    intro hupper
    simp only [Char.isDigit, Bool.and_eq_true, decide_eq_true_eq] at hc
    exact absurd (UInt32.le_trans hupper.1 hc.2) (by decide)
  have hletter : ∀ letter, isDigit letter = false → c ≠ letter := by
    rintro letter hnone rfl
    rw [hc] at hnone
    cases hnone
  have hword : ∀ word : List Char, (∀ first ∈ word.head?, isDigit first = false) →
      (c :: rest).map Char.toLower ≠ word := by
    rintro word hfirst rfl
    rw [List.map_cons, hlower] at hfirst
    exact hletter c (hfirst c rfl) rfl
  have hnan := hword "nan".toList (by rintro d ⟨⟩; decide)
  have hinf := hword "inf".toList (by rintro d ⟨⟩; decide)
  have hinfinity := hword "infinity".toList (by rintro d ⟨⟩; decide)
  have hminus := hletter '-' (by decide)
  have hplus := hletter '+' (by decide)
  rw [htext]
  cases negative with
  | true => simp only [signed, if_true, read?, if_neg hnan, hinf, hinfinity, or_self, if_false]
  | false =>
    unfold signed read?
    simp only [Bool.false_eq_true, if_false]
    split
    · rename_i heq
      exact absurd (List.cons.inj heq).1 hminus
    · rename_i heq
      exact absurd (List.cons.inj heq).1 hplus
    · simp only [if_neg hnan, hinf, hinfinity, or_self, if_false]

/-- The plain layout of a finite number is a numeral after the sign, which reads as the number. -/
theorem plain_finite {m : Nat} {e : Int} (hm : Canonical m e) :
    ∃ n : Numeral, ∀ negative, (finite negative m e).plain = signed negative n.text ∧
      read? (signed negative n.text) = some (finite negative m e) := by
  by_cases hzero : m = 0
  · subst hzero
    have hdigit : ∀ c ∈ ['0'] ++ [], isDigit c = true := by
      intro c hc
      rw [List.append_nil, List.mem_singleton] at hc
      rw [hc]
      decide
    refine ⟨⟨['0'], [], by simp, hdigit⟩, fun negative => ⟨?_, ?_⟩⟩
    · rfl
    · rw [read?_text, readUnsigned?_text, hm.exponent_of_zero]
      rfl
  · have hpos : 0 < m := Nat.pos_of_ne_zero hzero
    obtain ⟨hdigits, hrounds⟩ := Decimal.shortest_readsAs .up hm hpos
    obtain ⟨n, htext, hvalue⟩ := place_value (digits_ne_nil (Decimal.shortest .up m e).digits)
      (fun c => isDigit_of_mem_digits) (Decimal.shortest .up m e).exponent
    rw [value_digits] at hvalue
    refine ⟨n, fun negative => ⟨?_, ?_⟩⟩
    · simp only [plain, if_neg hzero, htext]
    · rw [read?_text, readUnsigned?_text]
      have hne : value (n.whole ++ n.part) ≠ 0 := by
        intro hnone
        have hpow : (10 : ℚ) ^ (Decimal.shortest .up m e).exponent ≠ 0 := by positivity
        rw [Numeral.toRat, hnone, Nat.cast_zero, zero_mul, eq_comm, mul_eq_zero] at hvalue
        rcases hvalue with h | h
        · exact hdigits (by exact_mod_cast h)
        · exact hpow h
      rw [ofScientific_eq negative hne hm hpos]
      rwa [← Numeral.toRat, hvalue]

/-- The number is not-a-number, infinite, or written with a mantissa and an exponent that are those
of a number. -/
def Valid : Double → Prop
  | finite _ m e => Canonical m e
  | _ => True

instance : (x : Double) → Decidable x.Valid
  | finite _ m e => inferInstanceAs (Decidable (Canonical m e))
  | nan | infinite _ => inferInstanceAs (Decidable True)

/-- **Numbers are read back** from the plain layout, whatever they are. -/
theorem read?_plain {x : Double} (h : x.Valid) : read? x.plain = some x := by
  cases x with
  | nan => decide
  | infinite negative => cases negative <;> decide
  | finite negative m e =>
    obtain ⟨n, hn⟩ := plain_finite h
    rw [(hn negative).1, (hn negative).2]

end Double

end Registrar.Number
