import Mathlib.Data.List.Basic
import Registrar.Proofs.Failure
import Registrar.Proofs.Import.Citations
import Registrar.Proofs.Import.Stages
/-!
# Where records come from

A stage turns documents into records and looks up in the identifier map what a record refers to.
For each of these functions: every record that it gives is `Sourced`, that is, it comes from a
document, and it cites the rows that the map has for what the document names.
-/
namespace Registrar.Import

namespace IdMap

variable {ids : IdMap} {entity : Entity} {id : LegacyId} {row : Int}

theorem require_eq_ok_iff {referrer : String} :
    ids.require entity id referrer = .ok row ↔ ids.get? entity id = some row := by
  unfold require
  cases ids.get? entity id <;> simp

theorem registered_of_get? (h : ids.get? entity id = some row) :
    Citation.Registered ids ⟨entity, id, row⟩ :=
  mem_of_lookup_eq_some h

end IdMap

theorem ClassNumber.require_eq_ok_iff {collection : String} {c : ClassNumber} {n : Int} :
    c.require collection = .ok n ↔ c.value? = some n := by
  unfold ClassNumber.require
  cases c.value? <;> simp

theorem Term.require_eq_ok_iff {collection raw : String} {n : Int} :
    Term.require collection raw = .ok n ↔ Term.number? raw = some n := by
  unfold Term.require
  cases Term.number? raw <;> simp

/-- The record comes from a document and cites what the map has for it. -/
def Sourced {ρ : Type} (ids : IdMap) (cites : ρ → List Citation → Prop) (record : ρ) : Prop :=
  ∃ citations, cites record citations ∧ ∀ c ∈ citations, c.Registered ids

variable {sources : Sources} {ids : IdMap}

theorem registered_profCitation {profId : Option String} :
    ∀ c ∈ profCitation profId (profId.bind fun prof => ids.get? .prof (.key prof)),
      c.Registered ids := by
  cases profId with
  | none => simp [profCitation]
  | some key =>
    simp only [Option.bind_some]
    cases hget : ids.get? .prof (.key key) with
    | none => simp [profCitation]
    | some row => simpa [profCitation] using IdMap.registered_of_get? hget

/-! ## Requisites -/

theorem mem_addPrerequisite {edges : List Prerequisite} {edge other : Prerequisite}
    (h : other ∈ addPrerequisite edges edge) : other ∈ edges ∨ other = edge := by
  unfold addPrerequisite at h
  split at h
  · exact Or.inl h
  · simpa using h

theorem mem_addAntirequisite {edges : List Antirequisite} {edge other : Antirequisite}
    (h : other ∈ addAntirequisite edges edge) : other ∈ edges ∨ other = edge := by
  unfold addAntirequisite at h
  split at h
  · exact Or.inl h
  · simpa using h

theorem mem_foldl {α : Type} {add : List α → α → List α}
    (hadd : ∀ edges edge other, other ∈ add edges edge → other ∈ edges ∨ other = edge)
    {news edges : List α} {edge : α} (h : edge ∈ news.foldl add edges) :
    edge ∈ edges ∨ edge ∈ news := by
  induction news generalizing edges with
  | nil => exact Or.inl h
  | cons new rest ih =>
    rcases ih h with hmem | hmem
    · rcases hadd edges new edge hmem with hmem | rfl
      · exact Or.inl hmem
      · exact Or.inr List.mem_cons_self
    · exact Or.inr (List.mem_cons_of_mem _ hmem)

theorem mem_namedCourses_iff {text : Option String} {row : Int} :
    row ∈ namedCourses ids text ↔ ∃ words, text = some words ∧
      ∃ code ∈ codesAfter 0 words.toList,
        ids.get? .course (.key (Text.lower (String.ofList code))) = some row := by
  cases text with
  | none => simp [namedCourses]
  | some words => simp [namedCourses, courseCodes]

/-- Every edge of both kinds is sourced. -/
structure EdgesSourced (sources : Sources) (ids : IdMap)
    (edges : List Prerequisite × List Antirequisite) : Prop where
  required : ∀ edge ∈ edges.1, Sourced ids (Prerequisite.Cites sources) edge
  excluded : ∀ edge ∈ edges.2, Sourced ids (Antirequisite.Cites sources) edge

theorem sourced_prerequisite {course : LegacyCourse}
    (hdoc : IsDocument sources courseCollection LegacyCourse.decoder course) {id row : Int}
    (hid : ids.get? .course (.key course.id) = some id) {isCorequisite : Bool}
    (hrow : row ∈ namedCourses ids (if isCorequisite then course.coreqs else course.prereqs)) :
    Sourced ids (Prerequisite.Cites sources) ⟨id, row, isCorequisite⟩ := by
  obtain ⟨words, hwords, code, hcode, hget⟩ := mem_namedCourses_iff.1 hrow
  refine ⟨_, ⟨course, hdoc, words, hwords, _, matches_codesAfter _, code, hcode, rfl⟩, ?_⟩
  simpa using ⟨IdMap.registered_of_get? hid, IdMap.registered_of_get? hget⟩

theorem sourced_antirequisite {course : LegacyCourse}
    (hdoc : IsDocument sources courseCollection LegacyCourse.decoder course) {id row : Int}
    (hid : ids.get? .course (.key course.id) = some id)
    (hrow : row ∈ namedCourses ids course.antireqs) :
    Sourced ids (Antirequisite.Cites sources) ⟨id, row⟩ := by
  obtain ⟨words, hwords, code, hcode, hget⟩ := mem_namedCourses_iff.1 hrow
  refine ⟨_, ⟨course, hdoc, words, hwords, _, matches_codesAfter _, code, hcode, rfl⟩, ?_⟩
  simpa using ⟨IdMap.registered_of_get? hid, IdMap.registered_of_get? hget⟩

theorem sourced_requisites {courses : List LegacyCourse}
    (hdocs : ∀ course ∈ courses, IsDocument sources courseCollection LegacyCourse.decoder course)
    {before after : List Prerequisite × List Antirequisite}
    (hbefore : EdgesSourced sources ids before) (h : requisites ids courses before = .ok after) :
    EdgesSourced sources ids after := by
  induction courses generalizing before with
  | nil =>
    cases h
    exact hbefore
  | cons course rest ih =>
    obtain ⟨required, excluded⟩ := before
    rw [requisites, bind_eq_ok_iff] at h
    obtain ⟨id, hid, h⟩ := h
    rw [IdMap.require_eq_ok_iff] at hid
    have hdoc := hdocs course List.mem_cons_self
    refine ih (fun other hother => hdocs other (List.mem_cons_of_mem _ hother)) ⟨?_, ?_⟩ h
    · intro edge hedge
      rcases mem_foldl (fun _ _ _ => mem_addPrerequisite) hedge with hold | hnew
      · exact hbefore.required edge hold
      · rcases List.mem_append.1 hnew with hnew | hnew
        · obtain ⟨row, hrow, rfl⟩ := List.mem_map.1 hnew
          exact sourced_prerequisite hdoc hid (by simpa using hrow)
        · obtain ⟨row, hrow, rfl⟩ := List.mem_map.1 hnew
          exact sourced_prerequisite hdoc hid (by simpa using hrow)
    · intro edge hedge
      rcases mem_foldl (fun _ _ _ => mem_addAntirequisite) hedge with hold | hnew
      · exact hbefore.excluded edge hold
      · obtain ⟨row, hrow, rfl⟩ := List.mem_map.1 hnew
        exact sourced_antirequisite hdoc hid hrow

/-! ## Sections and meetings -/

theorem LegacySection.row_eq_ok {s : LegacySection} {row : SectionRow} (h : s.row ids = .ok row) :
    s.classNumber.value? = some row.classNumber ∧ Term.number? s.termId = some row.term ∧
      ids.get? .course (.key s.courseId) = some row.course := by
  simp only [LegacySection.row, bind_eq_ok_iff, ClassNumber.require_eq_ok_iff,
    Term.require_eq_ok_iff, IdMap.require_eq_ok_iff] at h
  obtain ⟨classNumber, hclass, course, hcourse, term, hterm, hrow⟩ := h
  cases hrow
  exact ⟨hclass, hterm, hcourse⟩

/-- Rows stand where their sections stand. -/
theorem row_of_mem_zip {sections : List LegacySection} {rows : List SectionRow}
    (h : sections.mapM (LegacySection.row ids) = .ok rows) {s : LegacySection} {row : SectionRow}
    (hmem : (s, row) ∈ sections.zip rows) : s.row ids = .ok row := by
  obtain ⟨i, hi⟩ := List.mem_iff_getElem?.1 hmem
  obtain ⟨hs, hrow⟩ := List.getElem?_zip_eq_some.1 hi
  have hmap := congrArg (fun results => results[i]?) (mapM_eq_ok_iff.1 h)
  simpa [hs, hrow] using hmap

theorem sourced_sections {sections : List LegacySection}
    (hdocs : ∀ s ∈ sections, IsDocument sources sectionCollection LegacySection.decoder s)
    {rows : List SectionRow} (h : sections.mapM (LegacySection.row ids) = .ok rows) :
    ∀ row ∈ rows, Sourced ids (SectionRow.Cites sources) row := by
  intro row hrow
  have hmap : .ok row ∈ sections.map (LegacySection.row ids) := by
    rw [mapM_eq_ok_iff.1 h]
    exact List.mem_map_of_mem hrow
  obtain ⟨s, hs, hok⟩ := List.mem_map.1 hmap
  refine ⟨_, ⟨s, hdocs s hs, ⟨ids, hok⟩, rfl⟩, ?_⟩
  simpa using IdMap.registered_of_get? (LegacySection.row_eq_ok hok).2.2

/-- The map that names the rows after `lastId` knows the document of each. -/
theorem registered_named {ρ : Type} {entity : Entity} (name : ρ → LegacyId) {records : List ρ}
    {lastId : Nat} {record : ρ} {row : Int}
    (h : (record, row) ∈ records.zip (Memory.idsAfter lastId records.length)) :
    Citation.Registered (ids.named entity (records.map name) lastId) ⟨entity, name record, row⟩ := by
  refine List.mem_append_right _ (List.mem_map.2 ⟨(name record, row), ?_, rfl⟩)
  rw [List.length_map, List.zip_map_left]
  exact List.mem_map.2 ⟨(record, row), h, rfl⟩

/-- The map that names new rows knows what it knew before. -/
theorem registered_named_of_registered {entity : Entity} {names : List LegacyId} {lastId : Nat}
    {c : Citation} (h : c.Registered ids) : c.Registered (ids.named entity names lastId) :=
  List.mem_append_left _ h

theorem sourced_meetings (terms : List (Int × Warehouse.Timeframe)) {sections : List LegacySection}
    (hdocs : ∀ s ∈ sections, IsDocument sources sectionCollection LegacySection.decoder s)
    {rows : List SectionRow} (h : sections.mapM (LegacySection.row ids) = .ok rows) (lastId : Nat) :
    ∀ meeting ∈ meetingsAfter ids terms sections rows lastId,
      Sourced (ids.named .courseSection (rows.map SectionRow.legacyId) lastId)
        (MeetingRow.Cites sources) meeting := by
  intro meeting hmeeting
  obtain ⟨⟨⟨s, row⟩, id⟩, hplace, hmeeting⟩ := List.mem_flatMap.1 hmeeting
  obtain ⟨m, hm, rfl⟩ := List.mem_map.1 hmeeting
  obtain ⟨i, hi⟩ := List.mem_iff_getElem?.1 hplace
  obtain ⟨hpair, hid⟩ := List.getElem?_zip_eq_some.1 hi
  obtain ⟨hs, hrow⟩ := List.getElem?_zip_eq_some.1 hpair
  obtain ⟨hclass, hterm, -⟩ :=
    LegacySection.row_eq_ok (row_of_mem_zip h (List.mem_of_getElem? hpair))
  have hnew : (row, id) ∈ rows.zip (Memory.idsAfter lastId rows.length) :=
    List.mem_of_getElem? (List.getElem?_zip_eq_some.2 ⟨hrow, hid⟩)
  refine ⟨_, ⟨s, hdocs s (List.mem_of_getElem? hs), m, hm, ⟨ids, _, rfl⟩, row.classNumber, row.term,
    hclass, hterm, rfl⟩, ?_⟩
  intro c hc
  rcases List.mem_cons.1 hc with rfl | hc
  · exact registered_named SectionRow.legacyId hnew
  · exact registered_named_of_registered (registered_profCitation c hc)

/-! ## Users -/

/-- What is made of a user and its row is sourced if it comes from the user and cites the row. -/
theorem sourced_users {ρ : Type} {cites : ρ → List Citation → Prop}
    {make : LegacyUser × Int → Option ρ} {users : List LegacyUser} (lastId : Nat)
    (hmake : ∀ user ∈ users, ∀ id record, make (user, id) = some record →
      cites record [⟨.user, .key user.id, id⟩]) :
    ∀ record ∈ (users.zip (Memory.idsAfter lastId users.length)).filterMap make,
      Sourced (ids.named .user (users.map fun user => .key user.id) lastId) cites record := by
  intro record hrecord
  obtain ⟨⟨user, id⟩, hmem, hmade⟩ := List.mem_filterMap.1 hrecord
  refine ⟨_, hmake user (List.of_mem_zip hmem).1 id record hmade, ?_⟩
  simpa using registered_named (fun user : LegacyUser => .key user.id) hmem

variable {users : List LegacyUser}
  (hdocs : ∀ user ∈ users, IsDocument sources userCollection LegacyUser.decoder user) (lastId : Nat)

include hdocs

theorem sourced_passwords :
    ∀ row ∈ passwordRows (users.zip (Memory.idsAfter lastId users.length)),
      Sourced (ids.named .user (users.map fun user => .key user.id) lastId)
        (PasswordRow.Cites sources) row := by
  refine sourced_users lastId fun user huser id row hrow => ?_
  simp only at hrow
  split at hrow
  · rename_i hash hcredential
    cases hrow
    exact ⟨user, hdocs user huser, hcredential, rfl⟩
  · cases hrow

theorem sourced_accounts :
    ∀ row ∈ facebookRows (users.zip (Memory.idsAfter lastId users.length)),
      Sourced (ids.named .user (users.map fun user => .key user.id) lastId)
        (FacebookRow.Cites sources) row := by
  refine sourced_users lastId fun user huser id row hrow => ?_
  simp only at hrow
  split at hrow
  · rename_i facebookId hcredential
    cases hrow
    exact ⟨user, hdocs user huser, hcredential, rfl⟩
  · cases hrow

omit hdocs

/-! ## Reviews and histories -/

/-- A review that is collected is sourced, and it is made from the document that it is named for. -/
structure ReviewSourced (sources : Sources) (ids : IdMap) (review : String × ReviewRow) : Prop where
  row : Sourced ids (ReviewRow.Cites sources) review.2
  doc : ∃ doc, IsDocument sources userCourseCollection LegacyUserCourse.decoder doc ∧
    doc.id = review.1 ∧ ∃ known course user, review.2 = doc.row known course user

theorem sourced_reviews {docs : List LegacyUserCourse}
    (hdocs : ∀ doc ∈ docs, IsDocument sources userCourseCollection LegacyUserCourse.decoder doc)
    {before after : List (String × ReviewRow)}
    (hbefore : ∀ review ∈ before, ReviewSourced sources ids review)
    (h : collectReviews ids before docs = .ok after) :
    ∀ review ∈ after, ReviewSourced sources ids review := by
  induction docs generalizing before with
  | nil =>
    cases h
    exact hbefore
  | cons doc rest ih =>
    simp only [collectReviews, bind_eq_ok_iff, IdMap.require_eq_ok_iff] at h
    obtain ⟨course, hcourse, user, huser, h⟩ := h
    have hdoc := hdocs doc List.mem_cons_self
    have hrest : ∀ other ∈ rest, IsDocument sources userCourseCollection _ other :=
      fun other hother => hdocs other (List.mem_cons_of_mem _ hother)
    split at h
    · exact ih hrest hbefore h
    · refine ih hrest ?_ h
      intro review hreview
      rcases List.mem_append.1 hreview with hold | hnew
      · exact hbefore review hold
      · obtain rfl := List.mem_singleton.1 hnew
        refine ⟨⟨_, ⟨doc, hdoc, ⟨ids, rfl⟩, rfl⟩, ?_⟩, doc, hdoc, rfl, ids, course, user, rfl⟩
        intro c hc
        rcases List.mem_cons.1 hc with rfl | hc
        · exact IdMap.registered_of_get? hcourse
        rcases List.mem_cons.1 hc with rfl | hc
        · exact IdMap.registered_of_get? huser
        · exact registered_profCitation c hc

/-- Every record of a history is sourced. -/
structure HistorySourced (sources : Sources) (ids : IdMap) (history : History) : Prop where
  upvotes : ∀ row ∈ history.upvotes, Sourced ids (UpvoteRow.Cites sources) row
  shortlist : ∀ row ∈ history.shortlist, Sourced ids (ShortlistRow.Cites sources) row
  taken : ∀ row ∈ history.taken, Sourced ids (TakenRow.Cites sources) row

namespace HistorySourced

variable {doc : LegacyUserCourse} {history : History}

theorem vote (hdoc : IsDocument sources userCourseCollection LegacyUserCourse.decoder doc)
    (h : HistorySourced sources ids history) : HistorySourced sources ids (history.vote ids doc) := by
  unfold History.vote
  split
  · rename_i review hreview
    refine ⟨fun row hrow => ?_, h.shortlist, h.taken⟩
    rcases List.mem_append.1 hrow with hold | hnew
    · exact h.upvotes row hold
    · obtain ⟨hvotes, rfl⟩ := List.mem_replicate.1 hnew
      refine ⟨_, ⟨doc, hdoc, Nat.pos_of_ne_zero hvotes, rfl⟩, ?_⟩
      simpa using IdMap.registered_of_get? hreview
  · exact h

theorem save (hdoc : IsDocument sources userCourseCollection LegacyUserCourse.decoder doc)
    (hterm : doc.termId = Term.shortlist) {course user : Int}
    (hcourse : ids.get? .course (.key doc.courseId) = some course)
    (huser : ids.get? .user (.key doc.userId) = some user)
    (h : HistorySourced sources ids history) :
    HistorySourced sources ids (history.save course user) := by
  unfold History.save
  split
  · exact h
  · refine ⟨h.upvotes, fun row hrow => ?_, h.taken⟩
    rcases List.mem_append.1 hrow with hold | hnew
    · exact h.shortlist row hold
    · obtain rfl := List.mem_singleton.1 hnew
      refine ⟨_, ⟨doc, hdoc, hterm, rfl⟩, ?_⟩
      simpa using ⟨IdMap.registered_of_get? hcourse, IdMap.registered_of_get? huser⟩

theorem take (hdoc : IsDocument sources userCourseCollection LegacyUserCourse.decoder doc)
    (hterm : doc.termId ≠ Term.shortlist) {course user term : Int}
    (hcourse : ids.get? .course (.key doc.courseId) = some course)
    (huser : ids.get? .user (.key doc.userId) = some user)
    (hnumber : Term.number? doc.termId = some term) (h : HistorySourced sources ids history) :
    HistorySourced sources ids (history.take course user term doc.level) := by
  unfold History.take
  split
  · exact h
  · refine ⟨h.upvotes, h.shortlist, fun row hrow => ?_⟩
    rcases List.mem_append.1 hrow with hold | hnew
    · exact h.taken row hold
    · obtain rfl := List.mem_singleton.1 hnew
      refine ⟨_, ⟨doc, hdoc, hterm, hnumber, rfl, rfl⟩, ?_⟩
      simpa using ⟨IdMap.registered_of_get? hcourse, IdMap.registered_of_get? huser⟩

end HistorySourced

theorem sourced_history {docs : List LegacyUserCourse}
    (hdocs : ∀ doc ∈ docs, IsDocument sources userCourseCollection LegacyUserCourse.decoder doc)
    {before after : History} (hbefore : HistorySourced sources ids before)
    (h : collectHistory ids before docs = .ok after) : HistorySourced sources ids after := by
  induction docs generalizing before with
  | nil =>
    cases h
    exact hbefore
  | cons doc rest ih =>
    simp only [collectHistory, bind_eq_ok_iff, IdMap.require_eq_ok_iff] at h
    obtain ⟨course, hcourse, user, huser, h⟩ := h
    have hdoc := hdocs doc List.mem_cons_self
    have hrest : ∀ other ∈ rest, IsDocument sources userCourseCollection _ other :=
      fun other hother => hdocs other (List.mem_cons_of_mem _ hother)
    have hvoted := hbefore.vote hdoc
    split at h
    · rename_i hterm
      exact ih hrest (hvoted.save hdoc hterm hcourse huser) h
    · rename_i hterm
      obtain ⟨term, hnumber, h⟩ := bind_eq_ok_iff.1 h
      rw [Term.require_eq_ok_iff] at hnumber
      exact ih hrest (hvoted.take hdoc hterm hcourse huser hnumber) h

/-! ## Schedules -/

theorem sourced_item {item : LegacyScheduleItem}
    (hdoc : IsDocument sources scheduleCollection LegacyScheduleItem.decoder item)
    {row : ScheduleRow} (h : item.row ids = .ok row) :
    Sourced ids (ScheduleRow.Cites sources) row := by
  simp only [LegacyScheduleItem.row, bind_eq_ok_iff, ClassNumber.require_eq_ok_iff,
    Term.require_eq_ok_iff, IdMap.require_eq_ok_iff] at h
  obtain ⟨user, huser, classNumber, hclass, term, hterm, sectionId, hsection, hrow⟩ := h
  cases hrow
  refine ⟨_, ⟨item, hdoc, classNumber, term, hclass, hterm, rfl⟩, ?_⟩
  simpa using ⟨IdMap.registered_of_get? huser, IdMap.registered_of_get? hsection⟩

theorem sourced_schedule {items : List LegacyScheduleItem}
    (hdocs : ∀ item ∈ items, IsDocument sources scheduleCollection LegacyScheduleItem.decoder item)
    {before after : List ScheduleRow}
    (hbefore : ∀ row ∈ before, Sourced ids (ScheduleRow.Cites sources) row)
    (h : collectSchedule ids before items = .ok after) :
    ∀ row ∈ after, Sourced ids (ScheduleRow.Cites sources) row := by
  induction items generalizing before with
  | nil =>
    cases h
    exact hbefore
  | cons item rest ih =>
    rw [collectSchedule, bind_eq_ok_iff] at h
    obtain ⟨row, hrow, h⟩ := h
    refine ih (fun other hother => hdocs other (List.mem_cons_of_mem _ hother)) ?_ h
    intro other hother
    split at hother
    · exact hbefore other hother
    · rcases List.mem_append.1 hother with hold | hnew
      · exact hbefore other hold
      · obtain rfl := List.mem_singleton.1 hnew
        exact sourced_item (hdocs item List.mem_cons_self) hrow

end Registrar.Import
