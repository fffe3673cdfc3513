import Registrar.Postgres.Warehouse
import Registrar.Proofs.Failure
import Registrar.Proofs.Sql.Lexer
import Registrar.Proofs.Sql.Value
import Registrar.Proofs.Text.Cut
import Registrar.Sql.Literal
/-!
# Insertions that are written and read

How a server reads a statement that inserts rows. A literal is a truth value, a whole number, a text,
or a null, a number or a text with two colons and a type behind it; a minus sign before a number
counts after its type. No more is read than this, and the statement must end with the rows, or with
one column that is asked for.

Whatever the names and the values are, the statement that is made of them is read as an insertion of
just these values under just these names (`readInsertion?_insertText`), and so is what a warehouse
sends (`readInsertion?_of_insert`).
-/
namespace Registrar.Sql

/-! ## Reading -/

/-- The parts that name a kind. -/
def Kind.tokens : Kind → List Token
  | .double => [.word "double".toList, .word "precision".toList]
  | .textArray => [.word "text".toList, .mark '[', .mark ']']
  | kind => [.word kind.typeName.toList]

/-- All kinds, arrays before the kind of their elements. -/
def Kind.all : List Kind :=
  [.bool, .smallint, .integer, .bigint, .double, .textArray, .text, .date, .timestamp]

/-- The kind that is named first. -/
def readKind? (tokens : List Token) : Option (Kind × List Token) :=
  Kind.all.findSome? fun kind => (kind.tokens.isPrefixOf? tokens).map fun rest => (kind, rest)

/-- The number with the other sign. -/
def Value.negate? : Value → Option Value
  | .smallint n => some (.smallint (-n))
  | .integer n => some (.integer (-n))
  | .bigint n => some (.bigint (-n))
  | .double x => some (.double x.negate)
  | _ => none

/-- The value of a number or a text with a type behind it, or `untyped` without one. -/
def readTyped? (s : List Char) (untyped : Option Value) :
    List Token → Option (Value × List Token)
  | .cast :: rest => do
    let (kind, rest) ← readKind? rest
    return (← kind.read? s, rest)
  | rest => untyped.map fun v => (v, rest)

/-- The value of a number without a type, which must be a whole one. -/
def readWhole? (s : List Char) : Option Value :=
  if s.all Number.isDigit then some (.bigint (Number.value s)) else none

/-- The literal that stands first. -/
def readLiteral? : List Token → Option (Value × List Token)
  | .word w :: rest =>
    if w = "true".toList then some (.bool true, rest)
    else if w = "false".toList then some (.bool false, rest)
    else if w = "null".toList then
      match rest with
      | .cast :: rest => (readKind? rest).map fun (kind, rest) => (.null kind, rest)
      | _ => none
    else none
  | .text s :: rest => readTyped? s.toList (some (.text s)) rest
  | .number s :: rest => readTyped? s (readWhole? s) rest
  | .mark '-' :: .number s :: rest => do
    let (v, rest) ← readTyped? s (readWhole? s) rest
    return (← v.negate?, rest)
  | _ => none

/-- One item or more with commas between them. There are no more items than parts, so the number of
parts is enough for `fuel`. -/
def readList? {α : Type} (read : List Token → Option (α × List Token)) :
    (fuel : Nat) → List Token → Option (List α × List Token)
  | 0, _ => none
  | fuel + 1, tokens => do
    let (a, rest) ← read tokens
    match rest with
    | .mark ',' :: rest =>
      let (others, rest) ← readList? read fuel rest
      return (a :: others, rest)
    | _ => return ([a], rest)

/-- Items up to a closing parenthesis. -/
def readItems? {α : Type} (read : List Token → Option (α × List Token)) (tokens : List Token) :
    Option (List α × List Token) := do
  let (items, rest) ← readList? read tokens.length tokens
  match rest with
  | .mark ')' :: rest => return (items, rest)
  | _ => none

/-- The name that stands first. -/
def readName? : List Token → Option (String × List Token)
  | .name s :: rest => some (s, rest)
  | _ => none

/-- The columns up to the closing parenthesis; there may be none. -/
def readColumns? : List Token → Option (List String × List Token)
  | .mark ')' :: rest => some ([], rest)
  | tokens => readItems? readName? tokens

/-- The row that stands first. -/
def readRow? : List Token → Option (List Value × List Token)
  | .mark '(' :: rest => readItems? readLiteral? rest
  | _ => none

/-- The column that is asked for at the end, if there is one. -/
def readReturning? : List Token → Option (Option (List Char))
  | [] => some none
  | [.word w, .word column] => if w = "returning".toList then some (some column) else none
  | _ => none

/-- A statement that inserts rows. -/
structure Insertion where
  schema : String
  table : String
  columns : List String
  rows : List (List Value)
  /-- The column that is asked for. -/
  returning : Option (List Char)

/-- The insertion that a statement is. -/
def readInsertion? (s : List Char) : Option Insertion := do
  match ← lexFrom? .between s with
  | .word first :: .word second :: .name schema :: .mark '.' :: .name table :: .mark '(' :: rest =>
    let (columns, rest) ← readColumns? rest
    match rest with
    | .word third :: rest =>
      if first = "insert".toList ∧ second = "into".toList ∧ third = "values".toList then
        let (rows, rest) ← readList? readRow? rest.length rest
        return ⟨schema, table, columns, rows, ← readReturning? rest⟩
      else none
    | _ => none
  | _ => none

/-! ## Kinds -/

theorem stops_space (s : List Char) : Stops (' ' :: s) := by
  rintro c ⟨⟩
  decide

theorem stops_colon (s : List Char) : Stops (':' :: s) := by
  rintro c ⟨⟩
  decide

/-- What stands behind a literal: neither a type nor brackets. -/
def Ends (tokens : List Token) : Prop := ∀ token ∈ tokens.head?, token ≠ .cast ∧ token ≠ .mark '['

theorem readKind?_tokens (kind : Kind) {rest : List Token} (h : Ends rest) :
    readKind? (kind.tokens ++ rest) = some (kind, rest) := by
  cases kind with
  | text =>
    cases rest with
    | nil => rfl
    | cons token rest =>
      have hbracket := (h token rfl).2
      simp [readKind?, Kind.all, Kind.tokens, Kind.typeName, List.isPrefixOf?, Ne.symm hbracket]
  | _ => rfl

theorem lexes_typeName (kind : Kind) {s : List Char} {tokens : List Token} (hs : Stops s)
    (h : Lexes s tokens) : Lexes (kind.typeName.toList ++ s) (kind.tokens ++ tokens) := by
  have hbracket : Stops ('[' :: ']' :: s) := by
    rintro c ⟨⟩
    decide
  cases kind with
  | double =>
    exact Lexes.word (w := "double".toList) (by decide) (by decide) (stops_space _)
      (.space (.word (by decide) (by decide) hs h))
  | textArray =>
    exact Lexes.word (w := "text".toList) (by decide) (by decide) hbracket
      (.mark (by decide) (.mark (by decide) h))
  | _ => exact Lexes.word (by decide) (by decide) hs h

/-! ## Literals -/

/-- Where something stands, the server reads it: the text has parts, whatever stands behind it, and
the value is read off them. -/
def Spells {α : Type} (read : List Token → Option (α × List Token)) (s : List Char) (a : α) : Prop :=
  ∃ tokens, tokens ≠ [] ∧
    (∀ rest more, Stops rest → Lexes rest more → Lexes (s ++ rest) (tokens ++ more)) ∧
    ∀ rest, Ends rest → read (tokens ++ rest) = some (a, rest)

namespace Value

/-- The value as a literal gives it, where whole numbers do not say how wide their column is. -/
def unsized : Value → Value
  | smallint n | integer n | bigint n => bigint n
  | v => v

/-- The value is no floating point number that is infinite or none at all. -/
def IsFinite : Value → Prop
  | double x => x.isFinite = true
  | _ => True

instance : (v : Value) → Decidable v.IsFinite
  | double _ => inferInstanceAs (Decidable (_ = true))
  | null _ | bool _ | smallint _ | integer _ | bigint _ | text _ | textArray _ | date _
  | timestamp _ => inferInstanceAs (Decidable True)

end Value

/-- A text before a type is read as a value of the type. -/
theorem readTyped?_cast {s : List Char} {kind : Kind} {v : Value} (hread : kind.read? s = some v)
    (untyped : Option Value) {rest : List Token} (h : Ends rest) :
    readTyped? s untyped (.cast :: (kind.tokens ++ rest)) = some (v, rest) := by
  simp [readTyped?, readKind?_tokens kind h, hread]

theorem readTyped?_of_ends {s : List Char} {v : Value} {rest : List Token} (h : Ends rest) :
    readTyped? s (some v) rest = some (v, rest) := by
  cases rest with
  | nil => rfl
  | cons token rest =>
    have hcast := (h token rfl).1
    cases token with
    | cast => exact absurd rfl hcast
    | _ => rfl

/-- Texts that say their type. -/
theorem spells_typed {s : List Char} {v : Value} (hread : v.kind.read? s = some v) :
    Spells readLiteral? (typed (quoteText s) v.kind) v := by
  refine ⟨.text (String.ofList s) :: .cast :: v.kind.tokens, by simp, ?_, ?_⟩
  · intro rest more hrest h
    rw [typed, quoteText, List.append_assoc, List.cons_append, List.cons_append]
    exact Lexes.text (by simp) (.cast (lexes_typeName v.kind hrest h))
  · intro rest hrest
    simp only [List.cons_append, readLiteral?, String.toList_ofList]
    exact readTyped?_cast hread _ hrest

theorem spells_null (kind : Kind) : Spells readLiteral? (literal (.null kind)) (.null kind) := by
  refine ⟨.word "null".toList :: .cast :: kind.tokens, by simp, ?_, ?_⟩
  · intro rest more hrest h
    rw [literal, typed, List.append_assoc, List.cons_append, List.cons_append]
    exact Lexes.word (by decide) (by decide) (stops_colon _) (.cast (lexes_typeName kind hrest h))
  · intro rest hrest
    have htrue : "null".toList ≠ "true".toList := by decide
    have hfalse : "null".toList ≠ "false".toList := by decide
    simp only [List.cons_append, readLiteral?, if_neg htrue, if_neg hfalse, if_true,
      readKind?_tokens kind hrest, Option.map_some]

theorem spells_bool (b : Bool) : Spells readLiteral? (literal (.bool b)) (.bool b) := by
  cases b with
  | true =>
    refine ⟨[.word "true".toList], by simp, fun rest more hrest h => ?_, fun rest _ => rfl⟩
    exact Lexes.word (w := "TRUE".toList) (by decide) (by decide) hrest h
  | false =>
    refine ⟨[.word "false".toList], by simp, fun rest more hrest h => ?_, fun rest _ => rfl⟩
    exact Lexes.word (w := "FALSE".toList) (by decide) (by decide) hrest h

theorem spells_text (s : String) : Spells readLiteral? (literal (.text s)) (.text s) := by
  refine ⟨[.text s], by simp, ?_, fun rest hrest => readTyped?_of_ends hrest⟩
  intro rest more hrest h
  have hquote : rest.head? ≠ some '\'' := fun hc => (hrest.char hc).2.2.2.2 rfl
  have hlex : Lexes (quoteText s.toList ++ rest) (.text (String.ofList s.toList) :: more) :=
    Lexes.text hquote h
  rwa [String.ofList_toList] at hlex

theorem spells_decimal (n : Int) : Spells readLiteral? (Number.decimal n) (.bigint n) := by
  obtain ⟨c, w, hdigits⟩ := List.exists_cons_of_ne_nil (Number.digits_ne_nil n.natAbs)
  have hall : ∀ d ∈ c :: w, Number.isDigit d = true :=
    fun d hd => Number.isDigit_of_mem_digits (hdigits ▸ hd)
  have hvalue : Number.value (c :: w) = n.natAbs := hdigits ▸ Number.value_digits n.natAbs
  have hwhole : readWhole? (c :: w) = some (.bigint n.natAbs) := by
    rw [readWhole?, if_pos (List.all_eq_true.2 hall), hvalue]
  obtain ⟨hc, hw⟩ := List.forall_mem_cons.1 hall
  unfold Number.decimal
  rw [hdigits]
  by_cases hneg : n < 0
  · rw [if_pos hneg]
    refine ⟨[.mark '-', .number (c :: w)], by simp, ?_, ?_⟩
    · exact fun rest more hrest h => (Lexes.number hc (fun d hd => Or.inl (hw d hd)) hrest h).2
    · intro rest hrest
      have habs : -(n.natAbs : Int) = n := by omega
      simp only [List.cons_append, List.nil_append, readLiteral?, hwhole, readTyped?_of_ends hrest,
        Option.bind_eq_bind, Option.bind_some, Value.negate?, habs]
      rfl
  · rw [if_neg hneg]
    refine ⟨[.number (c :: w)], by simp, ?_, ?_⟩
    · exact fun rest more hrest h => (Lexes.number hc (fun d hd => Or.inl (hw d hd)) hrest h).1
    · intro rest hrest
      have habs : (n.natAbs : Int) = n := by omega
      simp only [List.cons_append, List.nil_append, readLiteral?, hwhole, readTyped?_of_ends hrest,
        habs]

theorem spells_double {m : Nat} {e : Int} (hm : Number.Double.Canonical m e) (negative : Bool) :
    Spells readLiteral? (literal (.double (.finite negative m e)))
      (.double (.finite negative m e)) := by
  obtain ⟨n, hn⟩ := Number.Double.plain_finite hm
  obtain ⟨c, w, htext, hc⟩ := n.text_eq_cons
  have hw : ∀ d ∈ w, Number.isDigit d = true ∨ d = '.' := by
    intro d hd
    have hmem : d ∈ n.text := htext ▸ List.mem_cons_of_mem _ hd
    exact n.isDigit_or_point hmem
  have hread : Kind.double.read? (c :: w) = some (.double (.finite false m e)) := by
    have hpositive := (hn false).2
    simp only [Number.Double.signed, Bool.false_eq_true, if_false, htext] at hpositive
    simp only [Kind.read?, hpositive, Option.map_some]
  have hkind : ∀ rest more, Stops rest → Lexes rest more →
      Lexes (':' :: ':' :: (Kind.double.typeName.toList ++ rest))
        (.cast :: (Kind.double.tokens ++ more)) :=
    fun rest more hrest h => .cast (lexes_typeName .double hrest h)
  rw [literal, typed, (hn negative).1, htext]
  cases negative with
  | true =>
    refine ⟨.mark '-' :: .number (c :: w) :: .cast :: Kind.double.tokens, by simp, ?_, ?_⟩
    · intro rest more hrest h
      rw [Number.Double.signed, if_pos rfl, List.append_assoc]
      exact (Lexes.number hc hw (stops_colon _) (hkind rest more hrest h)).2
    · intro rest hrest
      have htyped := readTyped?_cast hread (readWhole? (c :: w)) hrest
      simp only [List.cons_append, readLiteral?, htyped, Option.bind_eq_bind, Option.bind_some]
      rfl
  | false =>
    refine ⟨.number (c :: w) :: .cast :: Kind.double.tokens, by simp, ?_, ?_⟩
    · intro rest more hrest h
      rw [Number.Double.signed, if_neg (by simp), List.append_assoc]
      exact (Lexes.number hc hw (stops_colon _) (hkind rest more hrest h)).1
    · intro rest hrest
      exact readTyped?_cast hread (readWhole? (c :: w)) hrest

/-- **Literals are read back**, if the value is one that a literal can show. -/
theorem spells_literal {v : Value} (h : v.Valid) (hfinite : v.IsFinite) :
    Spells readLiteral? (literal v) v.unsized := by
  cases v with
  | null kind => exact spells_null kind
  | bool b => exact spells_bool b
  | smallint n | integer n | bigint n => exact spells_decimal n
  | double x =>
    cases x with
    | finite negative m e => exact spells_double h negative
    | _ => cases hfinite
  | text s => exact spells_text s
  | textArray items =>
    exact spells_typed (s := arrayText items) (v := .textArray items) (Value.read?_shown h rfl)
  | date d => exact spells_typed (s := d.text) (v := .date d) (Value.read?_shown h rfl)
  | timestamp t => exact spells_typed (s := t.text) (v := .timestamp t) (Value.read?_shown h rfl)

/-! ## Lists -/

section

variable {α β : Type} {read : List Token → Option (α × List Token)} {text : β → List Char}
  {value : β → α}

/-- Items with commas between them are read up to what does not go on with one. -/
theorem spells_list {items : List β} (hne : items ≠ [])
    (h : ∀ b ∈ items, Spells read (text b) (value b)) :
    ∃ tokens, items.length ≤ tokens.length ∧ tokens ≠ [] ∧
      (∀ rest more, Stops rest → Lexes rest more →
        Lexes (Text.join [',', ' '] (items.map text) ++ rest) (tokens ++ more)) ∧
      ∀ rest fuel, Ends rest → rest.head? ≠ some (.mark ',') → items.length ≤ fuel →
        readList? read fuel (tokens ++ rest) = some (items.map value, rest) := by
  have hends : ∀ rest, Ends (.mark ',' :: rest) := by
    rintro rest token ⟨⟩
    exact ⟨by simp, by simp⟩
  induction items with
  | nil => exact absurd rfl hne
  | cons b items ih =>
    obtain ⟨tokens, hnil, hlex, hread⟩ := h b List.mem_cons_self
    have hlength : 1 ≤ tokens.length := List.length_pos_iff.2 hnil
    cases items with
    | nil =>
      refine ⟨tokens, hlength, hnil, hlex, ?_⟩
      intro rest fuel hrest hcomma hfuel
      obtain ⟨fuel, rfl⟩ : ∃ n, fuel = n + 1 := ⟨fuel - 1, by simp at hfuel; omega⟩
      simp only [readList?, hread rest hrest, Option.bind_eq_bind, Option.bind_some]
      split
      · rename_i heq
        exact absurd rfl hcomma
      · rfl
    | cons next items =>
      obtain ⟨others, hlength', -, hlex', hread'⟩ :=
        ih (List.cons_ne_nil _ _) fun b hb => h b (List.mem_cons_of_mem _ hb)
      refine ⟨tokens ++ .mark ',' :: others, ?_, by simp, ?_, ?_⟩
      · simp only [List.length_append, List.length_cons] at hlength' ⊢
        omega
      · intro rest more hrest hmore
        rw [List.map_cons, List.map_cons, Text.join_cons_cons, ← List.map_cons (f := text),
          List.append_assoc, List.append_assoc, List.append_assoc]
        refine hlex _ _ (fun c hc => ?_) (.mark (by decide) (.space (hlex' rest more hrest hmore)))
        cases hc
        decide
      · intro rest fuel hrest hcomma hfuel
        obtain ⟨fuel, rfl⟩ : ∃ n, fuel = n + 1 := ⟨fuel - 1, by simp at hfuel; omega⟩
        have hothers := hread' rest fuel hrest hcomma (by simp at hfuel ⊢; omega)
        simp only [List.append_assoc, List.cons_append, readList?, hread _ (hends _),
          Option.bind_eq_bind, Option.bind_some, hothers]
        rfl

/-- Items with commas between them are read up to a closing parenthesis. -/
theorem spells_items {items : List β} (hne : items ≠ [])
    (h : ∀ b ∈ items, Spells read (text b) (value b)) :
    ∃ tokens, tokens ≠ [] ∧
      (∀ rest more, Lexes rest more →
        Lexes (Text.join [',', ' '] (items.map text) ++ ')' :: rest)
          (tokens ++ .mark ')' :: more)) ∧
      ∀ rest, readItems? read (tokens ++ .mark ')' :: rest) = some (items.map value, rest) := by
  obtain ⟨tokens, hlength, hnil, hlex, hread⟩ := spells_list hne h
  refine ⟨tokens, hnil, ?_, ?_⟩
  · intro rest more hmore
    refine hlex _ _ (fun c hc => ?_) (.mark (by decide) hmore)
    cases hc
    decide
  · intro rest
    have hlist := hread (.mark ')' :: rest) (tokens ++ .mark ')' :: rest).length
      (by rintro token ⟨⟩; exact ⟨by simp, by simp⟩) (by simp) (by simp; omega)
    simp only [readItems?, hlist, Option.bind_eq_bind, Option.bind_some]
    rfl

end

/-- **Rows are read back.** -/
theorem spells_row {row : List Value} (hne : row ≠ []) (h : ∀ v ∈ row, v.Valid)
    (hfinite : ∀ v ∈ row, v.IsFinite) :
    Spells readRow? (rowText row) (row.map Value.unsized) := by
  obtain ⟨tokens, -, hlex, hread⟩ := spells_items hne fun v hv => spells_literal (h v hv) (hfinite v hv)
  refine ⟨.mark '(' :: (tokens ++ [.mark ')']), by simp, ?_, ?_⟩
  · intro rest more _ hmore
    rw [rowText]
    simp only [List.cons_append, List.append_assoc, List.nil_append]
    exact .mark (by decide) (hlex rest more hmore)
  · intro rest _
    simp only [List.cons_append, List.append_assoc, List.nil_append, readRow?]
    exact hread rest

/-! ## Names -/

namespace Identifier

theorem quote_eq_ok_iff {name quoted : String} :
    quote name = .ok quoted ↔ check name = .ok () ∧
      quoted = String.ofList (Text.enclosed '"' name.toList) := by
  rw [quote, bind_eq_ok_iff]
  constructor
  · rintro ⟨⟨⟩, hcheck, hquoted⟩
    cases hquoted
    exact ⟨hcheck, rfl⟩
  · rintro ⟨hcheck, rfl⟩
    exact ⟨(), hcheck, rfl⟩

/-- The schema and the table that a table's name means: the parts around its first point, or the
whole of it in the schema that is given. -/
def Means (schema name s t : String) : Prop :=
  (name.toList = s.toList ++ '.' :: t.toList ∧ '.' ∉ s.toList) ∨
    ('.' ∉ name.toList ∧ s = schema ∧ t = name)

theorem qualifyTable_eq_ok {schema name table : String} (h : qualifyTable schema name = .ok table) :
    ∃ s t, Means schema name s t ∧ check s = .ok () ∧ check t = .ok () ∧
      table.toList = Text.enclosed '"' s.toList ++ '.' :: Text.enclosed '"' t.toList := by
  have hqualify : ∀ {s t table : String}, qualify s t = .ok table → check s = .ok () ∧
      check t = .ok () ∧
      table.toList = Text.enclosed '"' s.toList ++ '.' :: Text.enclosed '"' t.toList := by
    intro s t table h
    simp only [qualify, bind_eq_ok_iff, quote_eq_ok_iff] at h
    obtain ⟨_, ⟨hs, rfl⟩, _, ⟨ht, rfl⟩, h⟩ := h
    cases h
    exact ⟨hs, ht, by simp⟩
  unfold qualifyTable Text.splitOnce? at h
  cases hcut : Text.cutAt? '.' name.toList with
  | none =>
    rw [hcut] at h
    exact ⟨schema, name, Or.inr ⟨Text.cutAt?_eq_none_iff.1 hcut, rfl, rfl⟩, hqualify h⟩
  | some parts =>
    obtain ⟨before, after⟩ := parts
    rw [hcut] at h
    obtain ⟨hname, hpoint⟩ := Text.eq_of_cutAt? hcut
    exact ⟨String.ofList before, String.ofList after, Or.inl (by simp [hname, hpoint]), hqualify h⟩

theorem quoteColumns_eq_ok {columns : List String} {quoted : String}
    (h : quoteColumns columns = .ok quoted) :
    (∀ column ∈ columns, check column = .ok ()) ∧
      quoted.toList = Text.join [',', ' ']
        (columns.map fun column => Text.enclosed '"' column.toList) := by
  simp only [quoteColumns, bind_eq_ok_iff, mapM_eq_ok_iff] at h
  obtain ⟨names, hnames, h⟩ := h
  cases h
  have heach : ∀ {columns names : List String}, columns.map quote = names.map .ok →
      (∀ column ∈ columns, check column = .ok ()) ∧
        names.map String.toList = columns.map fun column => Text.enclosed '"' column.toList := by
    intro columns
    induction columns with
    | nil =>
      intro names hnames
      simp [List.map_eq_nil_iff.1 hnames.symm]
    | cons column columns ih =>
      intro names hnames
      cases names with
      | nil => cases hnames
      | cons name names =>
        rw [List.map_cons, List.map_cons, List.cons.injEq, quote_eq_ok_iff] at hnames
        obtain ⟨⟨hcheck, rfl⟩, hrest⟩ := hnames
        obtain ⟨hchecks, htexts⟩ := ih hrest
        exact ⟨List.forall_mem_cons.2 ⟨hcheck, hchecks⟩, by simp [htexts]⟩
  obtain ⟨hchecks, htexts⟩ := heach hnames
  refine ⟨hchecks, ?_⟩
  rw [String.toList_intercalate, htexts, Text.join_eq_intercalate]
  rfl

end Identifier

/-- **Names are read back** as they are, if they pass the check. -/
theorem lexes_name {name : String} (hcheck : Identifier.check name = .ok ()) {s : List Char}
    {tokens : List Token} (hs : s.head? ≠ some '"') (h : Lexes s tokens) :
    Lexes (Text.enclosed '"' name.toList ++ s) (.name name :: tokens) := by
  obtain ⟨hne, hnul, hlength⟩ := (Identifier.check_eq_ok_iff name).1 hcheck
  exact Lexes.name hne hnul hlength hs h

theorem spells_name {name : String} (hcheck : Identifier.check name = .ok ()) :
    Spells readName? (Text.enclosed '"' name.toList) name := by
  refine ⟨[.name name], by simp, ?_, fun rest _ => rfl⟩
  intro rest more hrest h
  exact lexes_name hcheck (fun hc => (hrest.char hc).2.2.2.1 rfl) h

/-- Columns are read up to the closing parenthesis. -/
theorem spells_columns {columns : List String} {quoted : String}
    (h : Identifier.quoteColumns columns = .ok quoted) :
    ∃ tokens,
      (∀ rest more, Lexes rest more →
        Lexes (quoted.toList ++ ')' :: rest) (tokens ++ .mark ')' :: more)) ∧
      ∀ rest, readColumns? (tokens ++ .mark ')' :: rest) = some (columns, rest) := by
  obtain ⟨hchecks, htext⟩ := Identifier.quoteColumns_eq_ok h
  rw [htext]
  by_cases hne : columns = []
  · subst hne
    exact ⟨[], fun rest more hmore => .mark (by decide) hmore, fun rest => rfl⟩
  · have hnames : ∀ column ∈ columns,
        Spells readName? (Text.enclosed '"' column.toList) (id column) :=
      fun column hcolumn => spells_name (hchecks column hcolumn)
    obtain ⟨tokens, hnil, hlex, hread⟩ := spells_items hne hnames
    refine ⟨tokens, hlex, fun rest => ?_⟩
    have hitems := hread rest
    rw [List.map_id] at hitems
    cases tokens with
    | nil => exact absurd rfl hnil
    | cons token tokens =>
      unfold readColumns?
      split
      · -- a closing parenthesis is no name
        rename_i heq
        rw [heq] at hitems
        simp [readItems?, readList?, readName?] at hitems
      · exact hitems

/-! ## Statements -/

/-- The words, names and rows of a statement, and what stands behind it. -/
theorem insertText_append (table columns : String) (rows : List (List Value)) (ending : List Char) :
    insertText table columns rows ++ ending = "INSERT".toList ++ ' ' :: ("INTO".toList ++ ' ' ::
      (table.toList ++ ' ' :: '(' :: (columns.toList ++ ')' :: ' ' ::
        ("VALUES".toList ++ ' ' :: (Text.join [',', ' '] (rows.map rowText) ++ ending))))) := by
  -- stated of any texts, since the words are not to be taken apart
  have happend : ∀ a b c t s r : List Char,
      a ++ ' ' :: (b ++ [' ']) ++ t ++ [' ', '('] ++ s ++ ')' :: ' ' :: (c ++ [' ']) ++ r ++ ending =
        a ++ ' ' :: (b ++ ' ' :: (t ++ ' ' :: '(' :: (s ++ ')' :: ' ' :: (c ++ ' ' ::
          (r ++ ending))))) := by
    simp
  exact happend "INSERT".toList "INTO".toList "VALUES".toList table.toList columns.toList _

theorem lexes_returning :
    Lexes " RETURNING id".toList [.word "returning".toList, .word "id".toList] := by
  have hid : Lexes ("id".toList ++ []) [.word "id".toList] :=
    .word (by decide) (by decide) (by simp [Stops]) .nil
  have hreturning : Lexes ("RETURNING".toList ++ ' ' :: ("id".toList ++ []))
      [.word "returning".toList, .word "id".toList] :=
    .word (by decide) (by decide) (stops_space _) (.space hid)
  exact .space hreturning

theorem ends_word {w : List Char} {rest : List Token} : Ends (.word w :: rest) := by
  rintro token ⟨⟩
  exact ⟨by simp, by simp⟩

section

variable {schema name table quoted : String} {columns : List String} {rows : List (List Value)}
  (htable : Identifier.qualifyTable schema name = .ok table)
  (hcolumns : Identifier.quoteColumns columns = .ok quoted) (hrows : rows ≠ [])
  (hne : ∀ row ∈ rows, row ≠ []) (h : ∀ row ∈ rows, ∀ v ∈ row, v.Valid)
  (hfinite : ∀ row ∈ rows, ∀ v ∈ row, v.IsFinite)

include htable hcolumns hrows hne h hfinite

/-- A statement is read up to what stands behind its rows, if that does not go on with a comma. -/
theorem readInsertion?_append :
    ∃ s t, Identifier.Means schema name s t ∧ ∀ ending more returning, Stops ending →
      Lexes ending more → Ends more → more.head? ≠ some (.mark ',') →
      readReturning? more = some returning →
      readInsertion? (insertText table quoted rows ++ ending) =
        some ⟨s, t, columns, rows.map fun row => row.map Value.unsized, returning⟩ := by
  obtain ⟨s, t, hmeans, hs, ht, htext⟩ := Identifier.qualifyTable_eq_ok htable
  obtain ⟨columnTokens, hcolumnLex, hcolumnRead⟩ := spells_columns hcolumns
  obtain ⟨rowTokens, hlength, -, hrowLex, hrowRead⟩ :=
    spells_list hrows fun row hrow => spells_row (hne row hrow) (h row hrow) (hfinite row hrow)
  refine ⟨s, t, hmeans, ?_⟩
  intro ending more returning hstops hending hends hcomma hreturning
  have hlex : Lexes (insertText table quoted rows ++ ending)
      (.word "insert".toList :: .word "into".toList :: .name s :: .mark '.' :: .name t ::
        .mark '(' :: (columnTokens ++ .mark ')' :: .word "values".toList ::
          (rowTokens ++ more))) := by
    rw [insertText_append, htext, List.append_assoc, List.cons_append]
    refine .word (by decide) (by decide) (stops_space _) (.space ?_)
    refine .word (by decide) (by decide) (stops_space _) (.space ?_)
    refine lexes_name hs (by simp) (.mark (by decide) ?_)
    refine lexes_name ht (by simp) (.space (.mark (by decide) ?_))
    refine hcolumnLex _ _ (.space ?_)
    refine .word (by decide) (by decide) (stops_space _) (.space ?_)
    exact hrowLex ending more hstops hending
  have hfuel : rows.length ≤ (rowTokens ++ more).length := by
    rw [List.length_append]
    omega
  unfold readInsertion?
  rw [hlex]
  simp only [Option.bind_eq_bind, Option.bind_some, hcolumnRead,
    hrowRead more _ hends hcomma hfuel, hreturning, and_self, if_true]
  rfl

/-- **Insertions are read back**: the names that the table's name means, the columns, and for every
value of a row the value. Nothing is left over, and nothing else is read but a column that is asked
for. -/
theorem readInsertion?_insertText :
    ∃ s t, Identifier.Means schema name s t ∧
      readInsertion? (insertText table quoted rows) =
        some ⟨s, t, columns, rows.map fun row => row.map Value.unsized, none⟩ ∧
      readInsertion? (insertText table quoted rows ++ " RETURNING id".toList) =
        some ⟨s, t, columns, rows.map fun row => row.map Value.unsized, some "id".toList⟩ := by
  obtain ⟨s, t, hmeans, hread⟩ := readInsertion?_append htable hcolumns hrows hne h hfinite
  refine ⟨s, t, hmeans, ?_, ?_⟩
  · have hplain := hread [] [] none (by simp [Stops]) .nil (by simp [Ends]) (by simp) rfl
    rwa [List.append_nil] at hplain
  · exact hread _ _ _ (stops_space _) lexes_returning ends_word (by simp) rfl

end

/-- Names and values with quotes, backslashes, marks and words of statements in them. -/
theorem readInsertion?_insertText_of_tricky :
    let table := "\"a\"\"b\".\"c.d\""
    let columns := ["x\"", "VALUES ("]
    let rows := [[.text "O'Neil\\'); --", .null .text],
      [.textArray ["it's", "\"\\,\x7b\x7d"], .double (Number.Double.ofInt (-3))]]
    Identifier.qualifyTable "public" "a\"b.c.d" = .ok table ∧
      Identifier.quoteColumns columns = .ok "\"x\"\"\", \"VALUES (\"" ∧
      ∃ s t, Identifier.Means "public" "a\"b.c.d" s t ∧
        readInsertion? (insertText table "\"x\"\"\", \"VALUES (\"" rows) =
          some ⟨s, t, columns, rows.map fun row => row.map Value.unsized, none⟩ ∧
        readInsertion? (insertText table "\"x\"\"\", \"VALUES (\"" rows ++
            " RETURNING id".toList) =
          some ⟨s, t, columns, rows.map fun row => row.map Value.unsized, some "id".toList⟩ := by
  intro table columns rows
  have htable : Identifier.qualifyTable "public" "a\"b.c.d" = .ok table := by decide +kernel
  have hcolumns : Identifier.quoteColumns columns = .ok "\"x\"\"\", \"VALUES (\"" := by
    decide +kernel
  exact ⟨htable, hcolumns, readInsertion?_insertText htable hcolumns (by decide) (by decide)
    (by decide +kernel) (by decide +kernel)⟩

/-! ## What is sent -/

open Postgres

/-- What a warehouse sends to insert rows is read as the insertion of these rows, and asks for the
ids of the rows. -/
theorem readInsertion?_of_insert {σ : Type} (server : Server σ) {schema sql : String} {rows : Rows}
    (hsql : insertStatement schema rows = .ok sql) (hrows : rows.rows ≠ [])
    (hne : ∀ row ∈ rows.rows, row ≠ []) (h : ∀ row ∈ rows.rows, ∀ v ∈ row, v.Valid)
    (hfinite : ∀ row ∈ rows.rows, ∀ v ∈ row, v.IsFinite) :
    ∃ s t, Identifier.Means schema rows.table s t ∧
      readInsertion? sql.toList = some ⟨s, t, rows.columns,
        rows.rows.map fun row => row.map Value.unsized, some "id".toList⟩ ∧
      ∀ tx pool, answer server schema (.insert rows) tx pool =
        exchange server (.ok (.insert sql))
          (fun reply => do idsOf rows.table rows.rows.length (← reply.rows?)) tx pool := by
  have hanswer : ∀ tx pool, answer server schema (.insert rows) tx pool =
      exchange server (.ok (.insert sql))
        (fun reply => do idsOf rows.table rows.rows.length (← reply.rows?)) tx pool := by
    intro tx pool
    simp only [answer, if_neg hrows, hsql]
    rfl
  simp only [insertStatement, bind_eq_ok_iff] at hsql
  obtain ⟨table, htable, quoted, hcolumns, hsql⟩ := hsql
  cases hsql
  obtain ⟨s, t, hmeans, hread⟩ := readInsertion?_append htable hcolumns hrows hne h hfinite
  refine ⟨s, t, hmeans, ?_, hanswer⟩
  rw [String.toList_append, String.toList_ofList]
  exact hread _ _ _ (stops_space _) lexes_returning ends_word (by simp) rfl

end Registrar.Sql
