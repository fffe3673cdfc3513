import Registrar.Proofs.Import.Places
/-!
# Sections and their meetings stay together

The rows of the sections come back as ids, batch by batch, and are laid beside the sections again
before the meetings of all of them are written in one go. Still every section has the row at its own
place, and its meetings have the id of that row (`Scheduled`).
-/
namespace Registrar.Import

open Memory (HasCells Row idsAfter numbered)

variable {ids : IdMap} {terms : List (Int × Warehouse.Timeframe)}

/-! ## Terms -/

/-- The dates are those of the last entry of the term; a term without an entry has none. -/
def IsFrame (terms : List (Int × Warehouse.Timeframe)) (term : Int) (frame : Warehouse.Timeframe) :
    Prop :=
  (∃ before after, terms = before ++ (term, frame) :: after ∧ ∀ entry ∈ after, entry.1 ≠ term) ∨
    (∀ entry ∈ terms, entry.1 ≠ term) ∧ frame = ⟨none, none⟩

theorem isFrame_termFrame (terms : List (Int × Warehouse.Timeframe)) (term : Int) :
    IsFrame terms term (termFrame terms term) := by
  unfold termFrame
  cases hfound : terms.reverse.lookup term with
  | none =>
    refine Or.inr ⟨fun entry hentry => ?_, rfl⟩
    have hne := List.lookup_eq_none_iff.1 hfound entry (List.mem_reverse.2 hentry)
    exact Ne.symm (by simpa using hne)
  | some frame =>
    obtain ⟨after, before, hterms, hafter⟩ := List.lookup_eq_some_iff.1 hfound
    refine Or.inl ⟨before.reverse, after.reverse, ?_, fun entry hentry => ?_⟩
    · rw [← List.reverse_reverse terms, hterms]
      simp
    · have hne := hafter entry (List.mem_reverse.1 hentry)
      exact Ne.symm (by simpa using hne)

/-! ## What rows hold -/

/-- What the row of a section holds. -/
structure SectionOf (ids : IdMap) (s : LegacySection) (row : SectionRow) : Prop where
  classNumber : s.classNumber.value? = some row.classNumber
  course : ids.get? .course (.key s.courseId) = some row.course
  term : Term.number? s.termId = some row.term
  name : row.name = s.sectionType ++ " " ++ s.sectionNumber
  copied : row.campus = s.campus ∧ row.enrollmentCapacity = s.enrollmentCapacity ∧
    row.enrollmentTotal = s.enrollmentTotal

theorem sectionOf_row {s : LegacySection} {row : SectionRow} (h : s.row ids = .ok row) :
    SectionOf ids s row := by
  obtain ⟨hclass, hterm, hcourse⟩ := LegacySection.row_eq_ok h
  simp only [LegacySection.row, bind_eq_ok_iff] at h
  obtain ⟨_, -, _, -, _, -, hrow⟩ := h
  cases hrow
  exact ⟨hclass, hcourse, hterm, rfl, rfl, rfl, rfl⟩

/-- What the row of a meeting holds, given the id of its section's row and the term. -/
structure MeetingOf (ids : IdMap) (terms : List (Int × Warehouse.Timeframe)) (sectionId term : Int)
    (m : LegacyMeeting) (row : MeetingRow) : Prop where
  own : row.sectionId = sectionId
  /-- Both dates are the meeting's own, or both are those of the term. -/
  dates : (∃ first last, m.startDate = some first ∧ m.endDate = some last ∧
      row.first = some first.date ∧ row.last = some last.date) ∨
    ((m.startDate = none ∨ m.endDate = none) ∧
      ∃ frame, IsFrame terms term frame ∧ row.first = frame.first ∧ row.last = frame.last)
  location_iff : ∀ location, row.location = some location ↔ ∃ building room,
    m.building = some building ∧ m.room = some room ∧ location = building ++ " " ++ room
  prof_iff : ∀ prof, row.prof = some prof ↔
    ∃ key, m.profId = some key ∧ ids.get? .prof (.key key) = some prof
  copied : row.startSeconds = m.startSeconds ∧ row.endSeconds = m.endSeconds ∧ row.days = m.days ∧
    row.isCancelled = m.isCancelled ∧ row.isClosed = m.isClosed ∧ row.isTba = m.isTba

theorem meetingOf_row (sectionId term : Int) (m : LegacyMeeting) :
    MeetingOf ids terms sectionId term m (m.row ids sectionId (termFrame terms term)) where
  own := rfl
  dates := by
    simp only [LegacyMeeting.row, LegacyMeeting.timeframe]
    cases hfirst : m.startDate with
    | none => exact Or.inr ⟨Or.inl rfl, _, isFrame_termFrame terms term, rfl, rfl⟩
    | some first =>
      cases hlast : m.endDate with
      | none => exact Or.inr ⟨Or.inr rfl, _, isFrame_termFrame terms term, rfl, rfl⟩
      | some last => exact Or.inl ⟨first, last, rfl, rfl, rfl, rfl⟩
  location_iff location := by
    simp only [LegacyMeeting.row, LegacyMeeting.location]
    cases m.building <;> cases m.room <;> simp [eq_comm]
  prof_iff prof := by
    simp only [LegacyMeeting.row, Option.bind_eq_some_iff]
  copied := ⟨rfl, rfl, rfl, rfl, rfl, rfl⟩

/-! ## Tables -/

/-- The row is that of the section, and the map leads there by class number and term. -/
def IsSection (ids ids' : IdMap) (s : LegacySection) (row : Row) : Prop :=
  ∃ record, SectionOf ids s record ∧ HasCells record.cells row ∧
    ids'.LeadsTo .courseSection (.classInTerm record.classNumber record.term) row

/-- The rows are those of the section's meetings, in order, with the id of the section's row. -/
def AreMeetings (ids : IdMap) (terms : List (Int × Warehouse.Timeframe))
    (place : LegacySection × Row) (piece : List Row) : Prop :=
  ∃ id term, place.2.lookup "id" = some (.bigint id) ∧ Term.number? place.1.termId = some term ∧
    List.Forall₂ (fun m row => ∃ record, MeetingOf ids terms id term m record ∧
      HasCells record.cells row) place.1.meetings piece

/-- Every section has a row, and the rows of its meetings come behind those of the sections before. -/
structure Scheduled (ids ids' : IdMap) (terms : List (Int × Warehouse.Timeframe))
    (sections : List LegacySection) (rows meetings : List Row) : Prop where
  own_row : List.Forall₂ (IsSection ids ids') sections rows
  own_meetings : ∃ pieces, meetings = pieces.flatten ∧
    List.Forall₂ (AreMeetings ids terms) (sections.zip rows) pieces

variable {sections : List LegacySection} {records : List SectionRow}

theorem own_sections (hrecords : List.Forall₂ (SectionOf ids) sections records)
    (hfresh : ids.Fresh .courseSection (records.map SectionRow.legacyId)) (lastId : Nat) :
    List.Forall₂
      (IsSection ids (ids.named .courseSection (records.map SectionRow.legacyId) lastId)) sections
      (numbered lastId (sectionLayout.entries records)) := by
  have hrows := Memory.forall₂_hasCells sectionLayout_writes records lastId
  have hleads := IdMap.forall₂_leadsTo sectionLayout_wellShaped hfresh rfl lastId
  exact forall₂_comp hrecords (hrows.mp (fun _ _ hrow hleads => ⟨hrow, hleads⟩) hleads)

/-- The meetings of the sections are cut where their sections end. -/
theorem own_meetings (hrecords : List.Forall₂ (SectionOf ids) sections records) (lastId last : Nat) :
    ∃ pieces, numbered last
        (meetingLayout.entries (meetingsAfter ids terms sections records lastId)) =
          pieces.flatten ∧
      List.Forall₂ (AreMeetings ids terms)
        (sections.zip (numbered lastId (sectionLayout.entries records))) pieces := by
  have hrows := Memory.forall₂_hasCells meetingLayout_writes
    (meetingsAfter ids terms sections records lastId) last
  rw [meetingsAfter, meetingRows, List.flatMap_def] at hrows
  obtain ⟨pieces, hpieces, hstand⟩ := exists_pieces hrows
  have hids := Memory.forall₂_ids sectionLayout_wellShaped records lastId
  have hplaces := forall₂_zip_zip hrecords hids
    (by rw [Memory.length_idsAfter]; exact hrecords.length_eq)
  refine ⟨pieces, hpieces, (forall₂_comp hplaces (List.forall₂_map_left_iff.1 hstand)).imp ?_⟩
  rintro ⟨s, row⟩ piece ⟨⟨⟨s', record⟩, id⟩, ⟨rfl, hof, hid⟩, hpiece⟩
  refine ⟨id, record.term, hid, hof.term, ?_⟩
  exact (List.forall₂_map_left_iff.1 hpiece).imp fun m _ hrow =>
    ⟨_, meetingOf_row id record.term m, hrow⟩

/-! ## The stage -/

/-- **Sections and meetings stay together**: the section at a place has the row at that place, to
which its class number and term lead, and the meetings follow in the order of their sections, each
with the id of its own section's row. -/
theorem sections_scheduled {now : Time.Instant} {sources : Sources} {ids' : IdMap}
    {tx tx' : Memory.Transaction} {report : Report}
    (h : Memory.perform now (importSections sources) ids tx = (.ok report, ids', tx')) :
    ∃ sections rows meetings,
      Legacy.load sources.legacy sectionCollection LegacySection.decoder = .ok sections ∧
      (tx'.work.table "course_section").rows = (tx.work.table "course_section").rows ++ rows ∧
      (tx'.work.table "section_meeting").rows =
        (tx.work.table "section_meeting").rows ++ meetings ∧
      Scheduled ids ids' tx.work.termDates sections rows meetings := by
  obtain ⟨sections, hload, records, hok, -, hfresh, -, -, rfl, rfl⟩ :=
    (yields_importSections now).1 h
  have hrecords : List.Forall₂ (SectionOf ids) sections records :=
    (map_eq_map_iff_forall₂.1 (mapM_eq_ok_iff.1 hok)).imp fun _ _ => sectionOf_row
  refine ⟨sections, _, _, hload, ?_, ?_, own_sections hrecords hfresh
    (tx.work.table "course_section").lastId, own_meetings hrecords _
    (tx.work.table "section_meeting").lastId⟩
  all_goals rw [Memory.table_store_toRows, Memory.table_store_toRows]
  · rw [Memory.Tables.add_of_ne _ (show "course_section" ≠ meetingLayout.table by decide)]
    exact Memory.Tables.rows_add _ _ _
  · exact Memory.Tables.rows_add _ _ _

/-- A lecture with a class in a room and one that is not settled, and a laboratory; the term has
dates. -/
def lectures : Sources where
  legacy := Legacy.Store.ofData
    [(sectionCollection, [
      .object [("course_id", .text "cs135"), ("class_num", .int 4021), ("term_id", .text "2017_09"),
        ("meetings", .array [
          .object [("start_date", .text "2017-09-11T00:00:00Z"),
            ("end_date", .text "2017-09-15T00:00:00Z"), ("prof_id", .text "ada"),
            ("building", .text "MC"), ("room", .text "4045")],
          .object [("start_date", .text "2017-09-18T00:00:00Z"), ("prof_id", .text "bob"),
            ("building", .text "MC")]])],
      .object [("course_id", .text "cs135"), ("class_num", .text "4022"),
        ("term_id", .text "2017_09"), ("meetings", .array [.object []])]])] []
  batchSize := 1
  secret _ := "code"

theorem sections_scheduled_of_lectures :
    let ids : IdMap := ⟨[((.course, .key "cs135"), 7), ((.prof, .key "ada"), 5)], []⟩
    let frame : Warehouse.Timeframe :=
      ⟨some (Time.Date.ofCivil ⟨2017, 9, 7⟩), some (Time.Date.ofCivil ⟨2017, 12, 4⟩)⟩
    let start := Memory.begin { termDates := [(1179, frame)] }
    let performed := Memory.perform ⟨0, 0⟩ (importSections lectures) ids start
    let meetings := (performed.2.2.work.table "section_meeting").rows
    performed.1 = .ok ⟨.sections, [⟨"course_section", 2⟩, ⟨"section_meeting", 3⟩]⟩ ∧
    ((performed.2.2.work.table "course_section").rows.map fun row =>
        (row.lookup "class_number", row.lookup "course_id", row.lookup "term", row.lookup "id")) =
      [(some (.integer 4021), some (.bigint 7), some (.integer 1179), some (.bigint 1)),
        (some (.integer 4022), some (.bigint 7), some (.integer 1179), some (.bigint 2))] ∧
    performed.2.1.get? .courseSection (.classInTerm 4022 1179) = some 2 ∧
    (meetings.map fun row => (row.lookup "section_id", row.lookup "prof_id")) =
      [(some (.bigint 1), some (.bigint 5)), (some (.bigint 1), some (.null .bigint)),
        (some (.bigint 2), some (.null .bigint))] ∧
    (meetings.map fun row => (row.lookup "start_date", row.lookup "end_date")) =
      [(some (.date (.ofCivil ⟨2017, 9, 11⟩)), some (.date (.ofCivil ⟨2017, 9, 15⟩))),
        (some (.date (.ofCivil ⟨2017, 9, 7⟩)), some (.date (.ofCivil ⟨2017, 12, 4⟩))),
        (some (.date (.ofCivil ⟨2017, 9, 7⟩)), some (.date (.ofCivil ⟨2017, 12, 4⟩)))] ∧
    (meetings.map fun row => row.lookup "location") =
      [some (.text "MC 4045"), some (.null .text), some (.null .text)] ∧
    ∃ sections, Scheduled ids performed.2.1 start.work.termDates sections
      (performed.2.2.work.table "course_section").rows meetings := by
  intro ids frame start performed meetings
  have hresult : performed.1 =
      .ok ⟨.sections, [⟨"course_section", 2⟩, ⟨"section_meeting", 3⟩]⟩ := by
    decide +kernel
  have hperform : performed = (.ok ⟨.sections,
      [⟨"course_section", 2⟩, ⟨"section_meeting", 3⟩]⟩, performed.2.1, performed.2.2) := by
    rw [← hresult]
  obtain ⟨sections, rows, own, -, hrows, hmeetings, hscheduled⟩ := sections_scheduled hperform
  have hall : (performed.2.2.work.table "course_section").rows = rows := hrows
  have hallMeetings : meetings = own := hmeetings
  refine ⟨hresult, by decide +kernel, by decide +kernel, by decide +kernel, by decide +kernel,
    by decide +kernel, sections, ?_⟩
  rw [hall, hallMeetings]
  exact hscheduled

end Registrar.Import
