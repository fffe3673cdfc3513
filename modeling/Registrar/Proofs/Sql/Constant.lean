import Registrar.Proofs.Sql.BulkText
import Registrar.Proofs.Sql.Insert
/-!
# Literals beside fields

A value goes into a column in two ways: as the literal of an insertion, which the server reads as an
expression and converts to the kind of the column, and as a field of bulk rows, which the server
unescapes and gives to the column as a text. Both ways arrive at the value, except for floating point
numbers that are infinite or none at all: their fields are read, but their literals are bare names,
which stand for columns and not for themselves.

Main statement: `literal_agrees_iff`.
-/
namespace Registrar.Sql

/-! ## What columns take -/

/-- The value that a column keeps of one that it is given: whole numbers get the width of the column,
if they have room in it. -/
def Kind.store? (kind : Kind) (v : Value) : Option Value :=
  match kind, v with
  | .smallint, .bigint n => if -32768 ≤ n ∧ n ≤ 32767 then some (.smallint n) else none
  | .integer, .bigint n =>
    if -2147483648 ≤ n ∧ n ≤ 2147483647 then some (.integer n) else none
  | .bigint, .bigint n =>
    if -9223372036854775808 ≤ n ∧ n ≤ 9223372036854775807 then some (.bigint n) else none
  | kind, v => if v.kind = kind then some v else none

/-- The value that a column keeps of an expression, which must be one literal. -/
def literalValue? (kind : Kind) (s : List Char) : Option Value := do
  let (v, rest) ← readLiteral? (← lexFrom? .between s)
  if rest = [] then kind.store? v else none

/-- The value that a column keeps of a field of bulk rows. -/
def fieldValue? (kind : Kind) (raw : List Char) : Option Value := do
  match ← readField? raw with
  | none => return .null kind
  | some s => kind.read? s

theorem Value.store?_unsized {v : Value} (h : v.Valid) : v.kind.store? v.unsized = some v := by
  cases v with
  | smallint n | integer n | bigint n => exact if_pos h
  | null kind => cases kind <;> rfl
  | _ => rfl

theorem fieldValue?_bulkText {v : Value} (h : v.Valid) :
    fieldValue? v.kind (bulkText v) = some v := by
  rw [fieldValue?, readField?_bulkText h]
  cases hs : v.shown? with
  | none =>
    cases v with
    | null kind => rfl
    | _ => cases hs
  | some s => exact Value.read?_shown h hs

/-- A column keeps what a literal spells. -/
theorem literalValue?_of_spells {s : List Char} {v : Value} (h : Spells readLiteral? s v)
    (kind : Kind) : literalValue? kind s = kind.store? v := by
  obtain ⟨tokens, -, hlex, hread⟩ := h
  have htokens : lexFrom? .between s = some tokens := by
    have hall := hlex [] [] (by simp [Stops]) .nil
    rwa [Lexes, List.append_nil, List.append_nil] at hall
  have hvalue := hread [] (by simp [Ends])
  rw [List.append_nil] at hvalue
  simp only [literalValue?, htokens, hvalue, Option.bind_eq_bind, Option.bind_some, if_true]

/-! ## Constants -/

/-- A constant without a type. -/
inductive IsUntyped : List Char → Prop
  | word {w : List Char} (h : w ∈ ["TRUE".toList, "FALSE".toList, "NULL".toList]) : IsUntyped w
  | number (negative : Bool) (n : Number.Numeral) :
    IsUntyped (Number.Double.signed negative n.text)
  | text (content : List Char) : IsUntyped (quoteText content)

/-- A truth value, a null, a signed decimal number or a text between single quotes, with or without
the name of a type behind two colons. -/
def IsConstant (s : List Char) : Prop :=
  ∃ u, IsUntyped u ∧ (s = u ∨ ∃ kind, s = typed u kind)

/-- The words that are constants, in lower case. -/
def constantWords : List (List Char) := ["true".toList, "false".toList, "null".toList]

/-- A bare word that is no constant, and so the name of something. -/
def IsName (s : List Char) : Prop := isBareWord s = true ∧ s.map Char.toLower ∉ constantWords

instance : DecidablePred IsName := fun _ => inferInstanceAs (Decidable (_ ∧ _))

theorem lexes_cast (kind : Kind) :
    Lexes (':' :: ':' :: kind.typeName.toList) (.cast :: kind.tokens) := by
  have hkind := lexes_typeName kind (s := []) (by simp [Stops]) .nil
  rw [List.append_nil, List.append_nil] at hkind
  exact .cast hkind

theorem IsUntyped.lexes {u : List Char} (h : IsUntyped u) :
    ∃ first tokens, (∀ w, first = .word w → w ∈ constantWords) ∧
      ∀ rest more, Stops rest → Lexes rest more →
        Lexes (u ++ rest) (first :: (tokens ++ more)) := by
  cases h with
  | word hmem =>
    have hall : ∀ w ∈ ["TRUE".toList, "FALSE".toList, "NULL".toList],
        isBareWord w = true ∧ w.map Char.toLower ∈ constantWords := by decide
    obtain ⟨hbare, hconstant⟩ := hall u hmem
    refine ⟨.word (u.map Char.toLower), [], ?_, fun rest more hrest h => .word hbare rfl hrest h⟩
    rintro _ ⟨⟩
    exact hconstant
  | number negative n =>
    obtain ⟨c, w, htext, hc⟩ := n.text_eq_cons
    have hw : ∀ d ∈ w, Number.isDigit d = true ∨ d = '.' := by
      intro d hd
      have hmem : d ∈ n.text := htext ▸ List.mem_cons_of_mem _ hd
      exact n.isDigit_or_point hmem
    rw [htext]
    cases negative with
    | true =>
      refine ⟨.mark '-', [.number (c :: w)], by simp, fun rest more hrest hmore => ?_⟩
      exact (Lexes.number hc hw hrest hmore).2
    | false =>
      refine ⟨.number (c :: w), [], by simp, fun rest more hrest hmore => ?_⟩
      exact (Lexes.number hc hw hrest hmore).1
  | text content =>
    refine ⟨.text (String.ofList content), [], by simp, fun rest more hrest hmore => ?_⟩
    exact Lexes.text (fun hc => (hrest.char hc).2.2.2.2 rfl) hmore

/-- A constant does not start with the name of something. -/
theorem IsConstant.lexes {s : List Char} (h : IsConstant s) :
    ∃ first tokens, lexFrom? .between s = some (first :: tokens) ∧
      ∀ w, first = .word w → w ∈ constantWords := by
  obtain ⟨u, hu, hs⟩ := h
  obtain ⟨first, tokens, hword, hlex⟩ := hu.lexes
  rcases hs with rfl | ⟨kind, rfl⟩
  · refine ⟨first, tokens ++ [], ?_, hword⟩
    have hall := hlex [] [] (by simp [Stops]) .nil
    rwa [Lexes, List.append_nil] at hall
  · exact ⟨first, _, hlex _ _ (stops_colon _) (lexes_cast kind), hword⟩

theorem isUntyped_decimal (n : Int) : IsUntyped (Number.decimal n) := by
  have hdigits : ∀ c ∈ Number.digits n.natAbs ++ [], Number.isDigit c = true := by
    rw [List.append_nil]
    exact fun c hc => Number.isDigit_of_mem_digits hc
  have hnumber := IsUntyped.number (decide (n < 0))
    ⟨Number.digits n.natAbs, [], Number.digits_ne_nil _, hdigits⟩
  simpa [Number.decimal, Number.Double.signed, Number.Numeral.text, Number.pointed] using hnumber

theorem isConstant_literal {v : Value} (h : v.Valid) (hfinite : v.IsFinite) :
    IsConstant (literal v) := by
  cases v with
  | null kind => exact ⟨_, .word (by decide), Or.inr ⟨kind, rfl⟩⟩
  | bool b => cases b <;> exact ⟨_, .word (by decide), Or.inl rfl⟩
  | smallint n | integer n | bigint n => exact ⟨_, isUntyped_decimal n, Or.inl rfl⟩
  | double x =>
    cases x with
    | finite negative m e =>
      obtain ⟨n, hn⟩ := Number.Double.plain_finite h
      refine ⟨_, .number negative n, Or.inr ⟨.double, ?_⟩⟩
      rw [literal, (hn negative).1]
    | _ => cases hfinite
  | text s => exact ⟨_, .text s.toList, Or.inl rfl⟩
  | textArray items => exact ⟨_, .text (arrayText items), Or.inr ⟨.textArray, rfl⟩⟩
  | date d => exact ⟨_, .text d.text, Or.inr ⟨.date, rfl⟩⟩
  | timestamp t => exact ⟨_, .text t.text, Or.inr ⟨.timestamp, rfl⟩⟩

/-! ## Names -/

section

variable {name : List Char} (h : IsName name) (kind : Kind)

include h

theorem lexFrom?_name :
    lexFrom? .between (typed name kind) =
      some (.word (name.map Char.toLower) :: .cast :: kind.tokens) :=
  Lexes.word h.1 rfl (stops_colon _) (lexes_cast kind)

/-- A minus sign before a name is no part of a number. -/
theorem lexFrom?_minus_name : lexFrom? .between (typed ('-' :: name) kind) = none := by
  obtain ⟨hbare, -⟩ := h
  cases name with
  | nil => cases hbare
  | cons c rest =>
    rw [isBareWord, Bool.and_eq_true, decide_eq_true_iff] at hbare
    have hdigit : Number.isDigit c = false := by
      by_contra hdigit
      rw [LexMode.step_digit (Bool.not_eq_false _ ▸ hdigit)] at hbare
      cases hbare.1
    have hminus : LexMode.step .between '-' = some ([.mark '-'], .minus) := rfl
    have hstuck : LexMode.step .minus c = none := by simp [LexMode.step, hdigit]
    simp only [typed, List.cons_append, lexFrom?, hminus, hstuck, Option.bind_eq_bind,
      Option.bind_some, Option.bind_none]

/-- A name is read neither with a minus sign before it nor without one. -/
theorem literalValue?_name (negative : Bool) :
    literalValue? kind (typed (Number.Double.signed negative name) kind) = none := by
  cases negative with
  | true => simp [literalValue?, Number.Double.signed, lexFrom?_minus_name h]
  | false =>
    have hother := h.2
    simp only [constantWords, List.mem_cons, List.not_mem_nil, or_false, not_or] at hother
    have hread : ∀ rest, readLiteral? (.word (name.map Char.toLower) :: rest) = none := by
      intro rest
      simp only [readLiteral?, hother, if_false]
    simp [literalValue?, Number.Double.signed, lexFrom?_name h, hread]

theorem not_isConstant_name (negative : Bool) :
    ¬IsConstant (typed (Number.Double.signed negative name) kind) := by
  intro hconstant
  obtain ⟨first, tokens, hlex, hword⟩ := hconstant.lexes
  cases negative with
  | true =>
    rw [Number.Double.signed, if_pos rfl, lexFrom?_minus_name h] at hlex
    cases hlex
  | false =>
    rw [Number.Double.signed, if_neg Bool.false_ne_true, lexFrom?_name h] at hlex
    cases hlex
    exact h.2 (hword _ rfl)

end

/-- A number that is infinite or none at all is written as a name, with a minus sign before it or
without one. -/
theorem exists_name_of_not_isFinite {v : Value} (h : ¬v.IsFinite) :
    ∃ negative name, IsName name ∧
      literal v = typed (Number.Double.signed negative name) .double ∧ v.kind = .double := by
  cases v with
  | double x =>
    cases x with
    | nan => exact ⟨false, "NaN".toList, by decide, rfl, rfl⟩
    | infinite negative => exact ⟨negative, "inf".toList, by decide, rfl, rfl⟩
    | finite negative m e => exact absurd rfl h
  | _ => exact absurd trivial h

/-! ## Both ways -/

/-- **A literal and a field** of the same value agree, and the literal is a constant, exactly if the
value is no floating point number that is infinite or none at all. The field of such a number is read,
but its literal is a name with a type behind it. -/
theorem literal_agrees_iff {v : Value} (h : v.Valid) :
    fieldValue? v.kind (bulkText v) = some v ∧
      (literalValue? v.kind (literal v) = fieldValue? v.kind (bulkText v) ↔ v.IsFinite) ∧
      (IsConstant (literal v) ↔ v.IsFinite) ∧
      (¬v.IsFinite → ∃ negative name, IsName name ∧
        literal v = typed (Number.Double.signed negative name) .double) := by
  refine ⟨fieldValue?_bulkText h, ⟨fun hagree => ?_, fun hfinite => ?_⟩,
    ⟨fun hconstant => ?_, isConstant_literal h⟩, fun hother => ?_⟩
  · by_contra hother
    obtain ⟨negative, name, hname, hliteral, hkind⟩ := exists_name_of_not_isFinite hother
    rw [fieldValue?_bulkText h, hliteral, hkind, literalValue?_name hname] at hagree
    cases hagree
  · rw [fieldValue?_bulkText h, literalValue?_of_spells (spells_literal h hfinite),
      Value.store?_unsized h]
  · by_contra hother
    obtain ⟨negative, name, hname, hliteral, -⟩ := exists_name_of_not_isFinite hother
    rw [hliteral] at hconstant
    exact not_isConstant_name hname _ _ hconstant
  · obtain ⟨negative, name, hname, hliteral, -⟩ := exists_name_of_not_isFinite hother
    exact ⟨negative, name, hname, hliteral⟩

/-- A text of many marks and a null agree, and a number that is infinite does not. -/
theorem literal_agrees_iff_of_marks :
    let marks := Value.textArray ["it's", "\"\\,\x7b\x7d", "NULL"]
    let endless := Value.double (.infinite true)
    (marks.Valid ∧ marks.IsFinite ∧ IsConstant (literal marks) ∧
      literalValue? .textArray (literal marks) = fieldValue? .textArray (bulkText marks) ∧
      fieldValue? .textArray (bulkText marks) = some marks) ∧
    endless.Valid ∧ ¬endless.IsFinite ∧ fieldValue? .double (bulkText endless) = some endless ∧
      ∃ negative name, IsName name ∧
        literal endless = typed (Number.Double.signed negative name) .double := by
  intro marks endless
  obtain ⟨hfield, hagree, hconstant, -⟩ := literal_agrees_iff (v := marks) trivial
  obtain ⟨hfield', -, -, hname⟩ := literal_agrees_iff (v := endless) trivial
  have hother : ¬endless.IsFinite := by decide
  exact ⟨⟨trivial, trivial, hconstant.2 trivial, hagree.2 trivial, hfield⟩,
    trivial, hother, hfield', hname hother⟩

/-- What is not a number goes into bulk rows, but an insertion of it asks for a column. -/
theorem nan_is_a_bare_name :
    let v := Value.double .nan
    v.Valid ∧ String.ofList (literal v) = "NaN::double precision" ∧
      lexFrom? .between (literal v) = some [.word "nan".toList, .cast, .word "double".toList,
        .word "precision".toList] ∧
      ¬IsConstant (literal v) ∧ literalValue? .double (literal v) = none ∧
      fieldValue? .double (bulkText v) = some v := by
  intro v
  have hname : IsName "NaN".toList := by decide
  exact ⟨trivial, rfl, by decide, not_isConstant_name hname .double false, by decide +kernel,
    fieldValue?_bulkText (v := v) trivial⟩

end Registrar.Sql
