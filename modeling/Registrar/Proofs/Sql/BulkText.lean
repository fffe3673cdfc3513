import Mathlib.Data.List.TakeWhile
import Registrar.Proofs.Sql.Value
import Registrar.Proofs.Text.Cut
import Registrar.Sql.BulkText
/-!
# Bulk rows that are written and read

How a server reads rows in bulk: a line is a row, up to a line of `\.` that ends the rows early, and
tabs stand between its fields. A field of `\N` is a null. In any other field a letter behind a
backslash stands for a control character, and another character behind a backslash for itself. A text
with a carriage return, or with a character given by its number, is not read at all.

Whatever the rows hold, they are read back line by line and field by field (`readBulk?_flatMap`),
however they are cut for sending (`readBulk?_bulkSends`).
-/
namespace Registrar.Sql

/-! ## Reading -/

/-- What a character behind a backslash stands for. -/
def unescapeChar? (c : Char) : Option Char :=
  if c = 'b' then some '\x08'
  else if c = 'f' then some '\x0c'
  else if c = 'n' then some '\n'
  else if c = 'r' then some '\r'
  else if c = 't' then some '\t'
  else if c = 'v' then some '\x0b'
  else if c = 'x' ∨ ('0' ≤ c ∧ c ≤ '7') then none
  else some c

/-- What the characters of a field stand for. -/
def unescapeBulk? : List Char → Option (List Char)
  | [] => some []
  | c :: rest =>
    if c = '\\' then
      match rest with
      | [] => none
      | d :: rest => do return (← unescapeChar? d) :: (← unescapeBulk? rest)
    else if c = '\r' then none
    else (unescapeBulk? rest).map (c :: ·)

/-- A field, which is nothing for a null. -/
def readField? (raw : List Char) : Option (Option (List Char)) :=
  if raw = ['\\', 'N'] then some none else (unescapeBulk? raw).map some

/-- The fields of a line. -/
def readLine? (line : List Char) : Option (List (Option (List Char))) :=
  (Text.pieces '\t' line).mapM readField?

/-- The fields of all lines, the last of which must have its end. -/
def readBulk? (s : List Char) : Option (List (List (Option (List Char)))) :=
  let all := Text.pieces '\n' s
  if all.getLast? = some [] then
    (all.dropLast.takeWhile fun line => line ≠ ['\\', '.']).mapM readLine?
  else none

/-! ## Characters -/

theorem unescapeBulk?_escapeBulkChar (c : Char) (rest : List Char) :
    unescapeBulk? (escapeBulkChar c ++ rest) = (unescapeBulk? rest).map (c :: ·) := by
  unfold escapeBulkChar
  split
  case h_5 hbackslash htab hline hreturn =>
    have hother : c ≠ '\\' ∧ c ≠ '\r' := ⟨hbackslash, hreturn⟩
    cases rest <;> simp [unescapeBulk?, hother]
  all_goals
    cases h : unescapeBulk? rest <;> simp [unescapeBulk?, unescapeChar?, h]

theorem unescapeBulk?_escapeBulk (s : List Char) : unescapeBulk? (escapeBulk s) = some s := by
  induction s with
  | nil => rfl
  | cons c s ih =>
    rw [escapeBulk, List.flatMap_cons, ← escapeBulk, unescapeBulk?_escapeBulkChar, ih,
      Option.map_some]

/-- Texts do not become a backslash before a character that would stand for itself. -/
theorem escapeBulk_ne {c : Char} (hread : unescapeChar? c = some c) (hplain : escapeBulkChar c = [c])
    (s : List Char) : escapeBulk s ≠ ['\\', c] := by
  intro h
  have hs := unescapeBulk?_escapeBulk s
  rw [h] at hs
  simp only [unescapeBulk?, if_true, hread, Option.bind_eq_bind, Option.bind_some, Option.pure_def,
    Option.some.injEq] at hs
  rw [← hs, escapeBulk, List.flatMap_cons, hplain] at h
  simp at h

theorem notMem_escapeBulk {mark : Char} (hmark : mark = '\t' ∨ mark = '\n') (s : List Char) :
    mark ∉ escapeBulk s := by
  intro hmem
  obtain ⟨c, -, hc⟩ := List.mem_flatMap.1 hmem
  unfold escapeBulkChar at hc
  split at hc
  case h_5 hbackslash htab hline hreturn =>
    rw [List.mem_singleton] at hc
    rcases hmark with rfl | rfl
    · exact htab hc.symm
    · exact hline hc.symm
  all_goals
    rcases hmark with rfl | rfl <;> simp at hc

/-! ## Numbers, dates and instants -/

/-- Digits, signs, marks and letters of numbers, dates and instants. -/
def IsOrdinary (c : Char) : Prop := Number.isDigit c = true ∨ c ∈ "+-.:TNaNinf".toList

instance : DecidablePred IsOrdinary := fun _ => inferInstanceAs (Decidable (_ ∨ _))

theorem escapeBulk_of_isOrdinary {s : List Char} (h : ∀ c ∈ s, IsOrdinary c) :
    escapeBulk s = s := by
  induction s with
  | nil => rfl
  | cons c s ih =>
    obtain ⟨hc, hs⟩ := List.forall_mem_cons.1 h
    have hplain : escapeBulkChar c = [c] := by
      unfold escapeBulkChar
      split
      case h_5 => rfl
      all_goals
        exact absurd hc (by unfold IsOrdinary; decide)
    rw [escapeBulk, List.flatMap_cons, ← escapeBulk, hplain, ih hs, List.singleton_append]

theorem isOrdinary_decimal (n : Int) : ∀ c ∈ Number.decimal n, IsOrdinary c := by
  unfold Number.decimal
  split
  · rw [List.forall_mem_cons]
    exact ⟨Or.inr (by decide), fun c hc => Or.inl (Number.isDigit_of_mem_digits hc)⟩
  · exact fun c hc => Or.inl (Number.isDigit_of_mem_digits hc)

theorem isOrdinary_numeral (n : Number.Numeral) : ∀ c ∈ n.text, IsOrdinary c := by
  intro c hc
  rcases n.isDigit_or_point hc with hdigit | rfl
  · exact Or.inl hdigit
  · exact Or.inr (by decide)

theorem isOrdinary_signed {negative : Bool} {s : List Char} (h : ∀ c ∈ s, IsOrdinary c) :
    ∀ c ∈ Number.Double.signed negative s, IsOrdinary c := by
  unfold Number.Double.signed
  split
  · exact List.forall_mem_cons.2 ⟨Or.inr (by decide), h⟩
  · exact h

theorem isOrdinary_plain {x : Number.Double} (h : x.Valid) : ∀ c ∈ x.plain, IsOrdinary c := by
  cases x with
  | nan => exact Text.forall_mem_of_all (by decide)
  | infinite negative => exact isOrdinary_signed (Text.forall_mem_of_all (by decide))
  | finite negative m e =>
    obtain ⟨n, hn⟩ := Number.Double.plain_finite h
    rw [(hn negative).1]
    exact isOrdinary_signed (isOrdinary_numeral n)

theorem isOrdinary_padded (width n : Nat) : ∀ c ∈ Number.padded width n, IsOrdinary c :=
  fun _ hc => Or.inl (Number.isDigit_of_mem_padded hc)

theorem isOrdinary_date (d : Time.Date) : ∀ c ∈ d.text, IsOrdinary c := by
  have hyear : ∀ c ∈ Time.yearText d.civil.year, IsOrdinary c := by
    unfold Time.yearText
    split
    · exact isOrdinary_padded 4 _
    · refine List.forall_mem_cons.2 ⟨Or.inr ?_, isOrdinary_padded 4 _⟩
      split <;> decide
  have hhyphen : IsOrdinary '-' := Or.inr (by decide)
  unfold Time.Date.text
  simp only [List.forall_mem_append, List.forall_mem_cons]
  exact ⟨⟨hyear, hhyphen, isOrdinary_padded 2 _⟩, hhyphen, isOrdinary_padded 2 _⟩

theorem isOrdinary_instant (t : Time.Instant) : ∀ c ∈ t.text, IsOrdinary c := by
  have hfraction : ∀ nanos, ∀ c ∈ Time.Instant.fractionText nanos, IsOrdinary c := by
    intro nanos
    have hpoint : IsOrdinary '.' := Or.inr (by decide)
    unfold Time.Instant.fractionText
    split
    · simp
    · split
      · exact List.forall_mem_cons.2 ⟨hpoint, isOrdinary_padded 3 _⟩
      · split
        · exact List.forall_mem_cons.2 ⟨hpoint, isOrdinary_padded 6 _⟩
        · exact List.forall_mem_cons.2 ⟨hpoint, isOrdinary_padded 9 _⟩
  have hcolon : IsOrdinary ':' := Or.inr (by decide)
  have hzone : ∀ c ∈ "+00:00".toList, IsOrdinary c := Text.forall_mem_of_all (by decide)
  unfold Time.Instant.text Time.Instant.textWith
  simp only [List.forall_mem_append, List.forall_mem_cons]
  exact ⟨⟨⟨⟨⟨isOrdinary_date _, Or.inr (by decide), isOrdinary_padded 2 _⟩, hcolon,
    isOrdinary_padded 2 _⟩, hcolon, isOrdinary_padded 2 _⟩, hfraction _⟩, hzone⟩

/-! ## Fields -/

/-- A value that is no null is written as its text, with the characters that set fields apart
escaped. -/
theorem bulkText_of_shown {v : Value} (h : v.Valid) {s : List Char} (hs : v.shown? = some s) :
    bulkText v = escapeBulk s := by
  cases v with
  | null kind => cases hs
  | bool b =>
    cases hs
    cases b <;> rfl
  | smallint n | integer n | bigint n =>
    cases hs
    exact (escapeBulk_of_isOrdinary (isOrdinary_decimal n)).symm
  | double x =>
    cases hs
    exact (escapeBulk_of_isOrdinary (isOrdinary_plain h)).symm
  | text s | textArray items =>
    cases hs
    rfl
  | date d =>
    cases hs
    exact (escapeBulk_of_isOrdinary (isOrdinary_date d)).symm
  | timestamp t =>
    cases hs
    exact (escapeBulk_of_isOrdinary (isOrdinary_instant t)).symm

theorem bulkText_of_not_shown {v : Value} (h : v.shown? = none) : bulkText v = ['\\', 'N'] := by
  cases v with
  | null kind => rfl
  | _ => cases h

theorem readField?_bulkText {v : Value} (h : v.Valid) : readField? (bulkText v) = some v.shown? := by
  cases hs : v.shown? with
  | none =>
    rw [bulkText_of_not_shown hs]
    rfl
  | some s =>
    rw [bulkText_of_shown h hs, readField?, if_neg (escapeBulk_ne (by decide) rfl s),
      unescapeBulk?_escapeBulk, Option.map_some]

theorem notMem_bulkText {mark : Char} (hmark : mark = '\t' ∨ mark = '\n') {v : Value}
    (h : v.Valid) : mark ∉ bulkText v := by
  cases hs : v.shown? with
  | none =>
    rw [bulkText_of_not_shown hs]
    rcases hmark with rfl | rfl <;> decide
  | some s =>
    rw [bulkText_of_shown h hs]
    exact notMem_escapeBulk hmark s

/-- No field is the mark that ends the rows. -/
theorem bulkText_ne_end {v : Value} (h : v.Valid) : bulkText v ≠ ['\\', '.'] := by
  cases hs : v.shown? with
  | none =>
    rw [bulkText_of_not_shown hs]
    decide
  | some s =>
    rw [bulkText_of_shown h hs]
    exact escapeBulk_ne (by decide) rfl s

/-! ## Rows -/

theorem mapM_eq_some_map {α β γ : Type} {f : β → Option γ} {text : α → β} {g : α → γ} {items : List α}
    (h : ∀ a ∈ items, f (text a) = some (g a)) : (items.map text).mapM f = some (items.map g) := by
  induction items with
  | nil => rfl
  | cons a items ih =>
    obtain ⟨ha, hitems⟩ := List.forall_mem_cons.1 h
    simp [ha, ih hitems]

section

variable {row : List Value} (hne : row ≠ []) (h : ∀ v ∈ row, v.Valid)

include hne h

theorem pieces_row : Text.pieces '\t' (Text.join ['\t'] (row.map bulkText)) = row.map bulkText := by
  refine Text.pieces_join (by simpa using hne) fun s hs => ?_
  obtain ⟨v, hv, rfl⟩ := List.mem_map.1 hs
  exact notMem_bulkText (Or.inl rfl) (h v hv)

theorem readLine?_row :
    readLine? (Text.join ['\t'] (row.map bulkText)) = some (row.map Value.shown?) := by
  rw [readLine?, pieces_row hne h]
  exact mapM_eq_some_map fun v hv => readField?_bulkText (h v hv)

/-- No row ends the rows early. -/
theorem row_ne_end : Text.join ['\t'] (row.map bulkText) ≠ ['\\', '.'] := by
  intro heq
  have hpieces := pieces_row hne h
  rw [heq] at hpieces
  have hmem : ['\\', '.'] ∈ row.map bulkText := hpieces ▸ List.mem_singleton.2 rfl
  obtain ⟨v, hv, hend⟩ := List.mem_map.1 hmem
  exact bulkText_ne_end (h v hv) hend

end

/-- **Rows are read back** line by line and field by field. -/
theorem readBulk?_flatMap {rows : List (List Value)} (hne : ∀ row ∈ rows, row ≠ [])
    (h : ∀ row ∈ rows, ∀ v ∈ row, v.Valid) :
    readBulk? (rows.flatMap bulkLine) = some (rows.map fun row => row.map Value.shown?) := by
  have hlines : Text.pieces '\n' (rows.flatMap bulkLine) =
      (rows.map fun row => Text.join ['\t'] (row.map bulkText)) ++ [[]] := by
    refine Text.pieces_flatMap fun row hrow => Text.notMem_join (by decide) fun s hs => ?_
    obtain ⟨v, hv, rfl⟩ := List.mem_map.1 hs
    exact notMem_bulkText (Or.inr rfl) (h row hrow v hv)
  have hall : (rows.map fun row => Text.join ['\t'] (row.map bulkText)).takeWhile
      (fun line => line ≠ ['\\', '.']) = rows.map fun row => Text.join ['\t'] (row.map bulkText) := by
    rw [List.takeWhile_eq_self_iff]
    intro line hline
    obtain ⟨row, hrow, rfl⟩ := List.mem_map.1 hline
    exact decide_eq_true (row_ne_end (hne row hrow) (h row hrow))
  unfold readBulk?
  simp only [hlines, List.getLast?_concat, List.dropLast_concat, if_true, hall]
  exact mapM_eq_some_map fun row hrow => readLine?_row (hne row hrow) (h row hrow)

/-- **What is sent** for rows is, put together, read as these rows: a line for each row and a field
for each value, which denotes the value. -/
theorem readBulk?_bulkSends {rows : List (List Value)} (hne : ∀ row ∈ rows, row ≠ [])
    (h : ∀ row ∈ rows, ∀ v ∈ row, v.Valid) :
    ∃ lines, readBulk? (((bulkSends rows).map String.ofList).flatMap String.toList) = some lines ∧
      List.Forall₂ (List.Forall₂ Value.Denotes) lines rows := by
  have hsent : ((bulkSends rows).map String.ofList).flatMap String.toList =
      rows.flatMap bulkLine := by
    rw [← flatten_bulkSends, List.flatMap_map]
    simp [List.flatMap_id']
  refine ⟨rows.map fun row => row.map Value.shown?, by rw [hsent, readBulk?_flatMap hne h], ?_⟩
  rw [List.forall₂_map_left_iff, List.forall₂_same]
  intro row hrow
  rw [List.forall₂_map_left_iff, List.forall₂_same]
  exact fun v hv => Value.denotes_shown (h row hrow v hv)

end Registrar.Sql
