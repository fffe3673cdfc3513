import Registrar.Legacy.Csv
import Registrar.Proofs.Text.Cut
import Registrar.Text.Doubled
/-!
# Files of records, written and read

`FileText text records`: the text is a way of writing the records. Every field is written as it is or
between quotes, every record ends in a line end of either kind, the last one perhaps in none, and
blank lines may stand before, between and after the records. Whatever way was chosen, reading gives
the records back (`read_written`).

A record of one empty field is the exception, since a line with neither a field nor a character is
blank. Reading leaves exactly such records out (`plain_file`).
-/
namespace Registrar.Legacy.Csv

/-! ## Ways of writing -/

/-- The characters that stand in a field only between quotes. -/
def IsSpecial (c : Char) : Prop := c = ',' ∨ c = '"' ∨ c = '\n' ∨ c = '\r'

instance : DecidablePred IsSpecial := fun _ => inferInstanceAs (Decidable (_ ∨ _))

/-- The ways of writing a field: as it is, or between quotes with its own quotes doubled. -/
inductive FieldText : List Char → String → Prop
  | bare {field : String} (h : ∀ c ∈ field.toList, ¬IsSpecial c) : FieldText field.toList field
  | quoted (field : String) : FieldText (Text.enclosed '"' field.toList) field

/-- The ways of writing the fields of a record, with commas between them. -/
inductive RecordText : List Char → List String → Prop
  | last {text : List Char} {field : String} (hfield : FieldText text field) :
      RecordText text [field]
  | more {text rest : List Char} {field : String} {fields : List String}
      (hfield : FieldText text field) (hrest : RecordText rest fields) :
      RecordText (text ++ ',' :: rest) (field :: fields)

/-- What ends a line. -/
inductive LineEnd : List Char → Prop
  | feed : LineEnd ['\n']
  | returnFeed : LineEnd ['\r', '\n']

/-- The ways of writing the records of a file. -/
inductive FileText : List Char → List (List String) → Prop
  | nothing : FileText [] []
  | blank {lineEnd rest : List Char} {records : List (List String)} (hend : LineEnd lineEnd)
      (hrest : FileText rest records) : FileText (lineEnd ++ rest) records
  | unended {text : List Char} {record : List String} (hrecord : RecordText text record) :
      FileText text [record]
  | record {text lineEnd rest : List Char} {record : List String} {records : List (List String)}
      (hrecord : RecordText text record) (hend : LineEnd lineEnd) (hrest : FileText rest records) :
      FileText (text ++ (lineEnd ++ rest)) (record :: records)

/-- A record can always be written with every field between quotes. -/
theorem recordText_quoted {record : List String} (h : record ≠ []) :
    RecordText (Text.join [','] (record.map fun field => Text.enclosed '"' field.toList)) record := by
  induction record with
  | nil => exact absurd rfl h
  | cons field fields ih =>
    cases fields with
    | nil => exact .last (.quoted field)
    | cons next fields =>
      rw [List.map_cons, List.map_cons, Text.join_cons_cons, List.append_assoc]
      exact .more (.quoted field) (ih (List.cons_ne_nil _ _))

theorem exists_fileText {records : List (List String)} (h : ∀ record ∈ records, record ≠ []) :
    ∃ text, FileText text records := by
  induction records with
  | nil => exact ⟨_, .nothing⟩
  | cons record records ih =>
    obtain ⟨rest, hrest⟩ := ih fun other hother => h other (List.mem_cons_of_mem _ hother)
    exact ⟨_, .record (recordText_quoted (h record List.mem_cons_self)) .feed hrest⟩

/-! ## Reading a field -/

variable {line : Nat} {progress : Progress} {text rest : List Char}

theorem plain_cons {c : Char} (h : ¬IsSpecial c) :
    plain line progress (c :: rest) = plain line (progress.push c) rest := by
  simp only [IsSpecial, not_or] at h
  rw [plain.eq_def]
  split <;> simp_all

theorem plain_bare (h : ∀ c ∈ text, ¬IsSpecial c) :
    plain line progress (text ++ rest) =
      plain line { progress with field := text.reverse ++ progress.field } rest := by
  induction text generalizing progress with
  | nil => rfl
  | cons c text ih =>
    rw [List.cons_append, plain_cons (h c List.mem_cons_self),
      ih fun c hc => h c (List.mem_cons_of_mem _ hc)]
    simp [Progress.push]

/-- Between quotes a character that is no quote is read as it is, and a doubled quote as one. -/
theorem inside_cons (line : Nat) (progress : Progress) (c : Char) (rest : List Char) : ∃ line',
    inside line progress ((if c = '"' then ['"', '"'] else [c]) ++ rest) =
      inside line' (progress.push c) rest := by
  by_cases hquote : c = '"'
  · exact ⟨line, by simp [hquote, inside]⟩
  by_cases hfeed : c = '\n'
  · exact ⟨line + 1, by simp [hfeed, inside]⟩
  · refine ⟨line, ?_⟩
    rw [if_neg hquote, List.singleton_append, inside.eq_def]
    split <;> simp_all

/-- A quote behind which no other one stands is the end of what was between quotes. -/
theorem inside_quote (hrest : rest.head? ≠ some '"') :
    inside line progress ('"' :: rest) = plain line progress rest := by
  cases rest with
  | nil => rfl
  | cons c rest =>
    refine inside.eq_3 line progress (c :: rest) ?_
    rintro rest' heq
    exact hrest (by rw [heq]; rfl)

/-- What stands between two quotes is read up to the second one, which no further quote may follow. -/
theorem inside_doubled (line : Nat) (progress : Progress) (text : List Char)
    (hrest : rest.head? ≠ some '"') : ∃ line',
    inside line progress (Text.doubled '"' text ++ '"' :: rest) =
      plain line' { progress with field := text.reverse ++ progress.field } rest := by
  induction text generalizing line progress with
  | nil => exact ⟨line, inside_quote hrest⟩
  | cons c text ih =>
    obtain ⟨line', hc⟩ := inside_cons line progress c (Text.doubled '"' text ++ '"' :: rest)
    obtain ⟨line'', htext⟩ := ih line' (progress.push c)
    refine ⟨line'', ?_⟩
    rw [Text.doubled_cons, List.append_assoc, hc, htext]
    simp [Progress.push]

/-- A field is read whichever way it was written. -/
theorem plain_field (line : Nat) {field : String} (h : FieldText text field) (hnew : progress.field = [])
    (hrest : rest.head? ≠ some '"') : ∃ line',
    plain line progress (text ++ rest) =
      plain line' { progress with field := field.toList.reverse } rest := by
  cases h with
  | bare h => exact ⟨line, by rw [plain_bare h, hnew, List.append_nil]⟩
  | quoted =>
    obtain ⟨line', hinside⟩ := inside_doubled line progress field.toList hrest
    refine ⟨line', ?_⟩
    rw [Text.enclosed, List.append_assoc, List.singleton_append, List.cons_append, plain, if_pos hnew,
      hinside, hnew, List.append_nil]

/-! ## Reading records -/

namespace Progress

/-- The record at hand, if the field at hand is its last one. -/
def fields (progress : Progress) : List String := progress.endField.record.reverse

/-- The record at hand counts unless it is one empty field. -/
theorem endRecord_eq (progress : Progress) : progress.endRecord =
    { records := if progress.fields = [""] then progress.records
        else progress.fields :: progress.records } := by
  obtain ⟨records, record, field⟩ := progress
  by_cases h : record = [] ∧ field = []
  · obtain ⟨rfl, rfl⟩ := h
    rfl
  · have hfields : fields ⟨records, record, field⟩ ≠ [""] := by
      simpa [fields, endField, List.append_eq_singleton_iff] using h
    rw [endRecord, if_neg h, if_neg hfields]
    rfl

end Progress

/-- Whatever it is that ends a line, it ends the record at hand. -/
theorem plain_lineEnd {lineEnd : List Char} (h : LineEnd lineEnd) :
    plain line progress (lineEnd ++ rest) = plain (line + 1) progress.endRecord rest := by
  cases h <;> rfl

theorem LineEnd.head?_ne {lineEnd : List Char} (h : LineEnd lineEnd) :
    (lineEnd ++ rest).head? ≠ some '"' := by
  cases h <;> simp

/-- The fields of a record are read behind those of it that have been read. -/
theorem plain_record (line : Nat) {fields : List String} (h : RecordText text fields)
    (hnew : progress.field = []) (hrest : rest.head? ≠ some '"') : ∃ line' last,
    plain line progress (text ++ rest) = plain line' last rest ∧
      last.records = progress.records ∧ last.fields = progress.record.reverse ++ fields := by
  induction h generalizing line progress with
  | last hfield =>
    obtain ⟨line', hread⟩ := plain_field line hfield hnew hrest
    exact ⟨line', _, hread, rfl, by simp [Progress.fields, Progress.endField]⟩
  | @more text others field fields hfield hothers ih =>
    have hcomma : (',' :: (others ++ rest)).head? ≠ some '"' := by simp
    let next : Progress := { progress with record := field :: progress.record, field := [] }
    obtain ⟨line', hread⟩ := plain_field line hfield hnew hcomma
    obtain ⟨line'', last, hrecord, hrecords, hfields⟩ := ih line' (rfl : next.field = [])
    refine ⟨line'', last, ?_, hrecords, ?_⟩
    · rw [List.append_assoc, List.cons_append, hread, ← hrecord, plain]
      simp [Progress.endField, next]
    · simpa [next] using hfields

/-- A record that has not begun is read as a whole. -/
theorem plain_newRecord (line : Nat) {record : List String} (h : RecordText text record)
    (hrest : rest.head? ≠ some '"') (before : List (List String)) : ∃ line' last,
    plain line { records := before } (text ++ rest) = plain line' last rest ∧
      last.endRecord = { records := if record = [""] then before else record :: before } := by
  have hnew : ({ records := before } : Progress).field = [] := rfl
  obtain ⟨line', last, hread, hrecords, hfields⟩ := plain_record line h hnew hrest
  have hfields : last.fields = record := hfields
  exact ⟨line', last, hread, by rw [Progress.endRecord_eq, hrecords, hfields]⟩

/-- **A file** is read as the records that it was written for, those of one empty field aside. -/
theorem plain_file (line : Nat) {records : List (List String)} (h : FileText text records)
    (before : List (List String)) :
    plain line { records := before } text = .ok (before.reverse ++ records.filter (· ≠ [""])) := by
  induction h generalizing line before with
  | nothing => simp [plain, Progress.endRecord]
  | blank hend _ ih =>
    rw [plain_lineEnd hend]
    exact ih _ before
  | @unended text record hrecord =>
    have hend : ([] : List Char).head? ≠ some '"' := by simp
    obtain ⟨line', last, hread, hlast⟩ := plain_newRecord line hrecord hend before
    rw [List.append_nil] at hread
    rw [hread, plain, hlast]
    by_cases hempty : record = [""] <;> simp [hempty]
  | @record text lineEnd rest record records hrecord hend _ ih =>
    obtain ⟨line', last, hread, hlast⟩ := plain_newRecord line hrecord hend.head?_ne before
    rw [hread, plain_lineEnd hend, hlast, ih]
    by_cases hempty : record = [""] <;> simp [hempty]

/-- **Reading undoes writing**: records, none of which is without fields or one empty field, can be
written, and whichever way they were written, reading gives exactly these records. -/
theorem read_written (name : String) {records : List (List String)}
    (h : ∀ record ∈ records, record ≠ [] ∧ record ≠ [""]) :
    (∃ text, FileText text records) ∧
      ∀ text, FileText text records → read name text = .ok records := by
  refine ⟨exists_fileText fun record hrecord => (h record hrecord).1, fun text htext => ?_⟩
  have hkept : records.filter (· ≠ [""]) = records :=
    List.filter_eq_self.2 fun record hrecord => by simpa using (h record hrecord).2
  have hread := plain_file 1 htext []
  rw [hkept, List.reverse_nil, List.nil_append] at hread
  rw [read, hread]

/-- Two records with quotes next to commas, an empty field of either kind, a line end inside a field
and two blank lines. -/
theorem read_written_of_blankLines :
    let records := [["a \"b\"", "", "x\r\ny"], ["", "z"]]
    let text := "\"a \"\"b\"\"\",,\"x\r\ny\"\r\n\n\r\n\"\",z".toList
    (∀ record ∈ records, record ≠ [] ∧ record ≠ [""]) ∧ FileText text records ∧
      read "prof_mapping.csv" text = .ok records := by
  intro records text
  have hrecords : ∀ record ∈ records, record ≠ [] ∧ record ≠ [""] := by decide
  have hfirst : RecordText (Text.enclosed '"' "a \"b\"".toList ++ ',' :: ("".toList ++ ',' ::
      Text.enclosed '"' "x\r\ny".toList)) ["a \"b\"", "", "x\r\ny"] :=
    .more (.quoted _) (.more (.bare (by simp)) (.last (.quoted _)))
  have hsecond : RecordText (Text.enclosed '"' "".toList ++ ',' :: "z".toList) ["", "z"] :=
    .more (.quoted _) (.last (.bare (by simp [IsSpecial])))
  have htext : FileText text records :=
    .record hfirst .returnFeed (.blank .feed (.blank .returnFeed (.unended hsecond)))
  exact ⟨hrecords, htext, (read_written "prof_mapping.csv" hrecords).2 text htext⟩

end Registrar.Legacy.Csv
