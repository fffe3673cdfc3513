import Registrar.Proofs.Import.Checking
/-!
# Stages check everything before they write anything

A stage whose documents refer to others makes the checks of all its documents first. If they pass,
it goes on to its writes, and if not, it fails over the first one that does not (`checks_decide`).
Both are said of the stage as a program, so they hold for every warehouse.
-/
namespace Registrar

open Warehouse (Request)

namespace Program

variable {σ α β : Type} {p : Program σ α}

/-- The program asks for nothing but the dates of the terms before it becomes one with the
property. -/
inductive Reads (P : Program σ α → Prop) : Program σ α → Prop
  | here {p : Program σ α} (h : P p) : Reads P p
  | dates {state : σ} {next : Request.termDates.Reply → Program σ α}
      (h : ∀ reply, Reads P (next reply)) : Reads P (.ask .termDates state next)

/-- The program does nothing but write rows and register them; of itself it fails only over a
document that is registered twice. -/
inductive Writes : Program σ α → Prop
  | done (value : α) (state : σ) : Writes (.done value state)
  | duplicate (kind id : String) (state : σ) : Writes (.fail (.duplicate kind id) state)
  | insert {rows : Sql.Rows} {state : σ} {next : (Request.insert rows).Reply → Program σ α}
      (h : ∀ reply, Writes (next reply)) : Writes (.ask (.insert rows) state next)
  | copy {rows : Sql.Rows} {state : σ} {next : (Request.copy rows).Reply → Program σ α}
      (h : ∀ reply, Writes (next reply)) : Writes (.ask (.copy rows) state next)

theorem Writes.bind {f : α → σ → Program σ β} (h : p.Writes)
    (hf : ∀ value state, (f value state).Writes) : (p.bind f).Writes := by
  induction h with
  | done value state => exact hf value state
  | duplicate kind id state => exact .duplicate kind id state
  | insert h ih => exact .insert ih
  | copy h ih => exact .copy ih

/-- A program that comes to its writes does not fail before them. -/
theorem Reads.eq_duplicate {cause : Failure} {state : σ} (h : p.Reads Writes)
    (hfail : p.Reads (· = .fail cause state)) : ∃ kind id, cause = .duplicate kind id := by
  induction h with
  | here h =>
    cases hfail with
    | here hfail =>
      subst hfail
      cases h
      exact ⟨_, _, rfl⟩
    | dates => cases h
  | dates h ih =>
    cases hfail with
    | here hfail => cases hfail
    | dates hfail => exact ih [] (hfail [])

/-- A program that only reads before it fails leaves a transaction in memory as it was. -/
theorem Reads.hold_eq {cause : Failure} {state : σ} (h : p.Reads (· = .fail cause state))
    (now : Time.Instant) (tx : Memory.Transaction) :
    Memory.hold now p tx = (.error cause, state, tx) := by
  induction h with
  | here h =>
    subst h
    rfl
  | dates h ih => exact ih tx.work.termDates

end Program

namespace Import

open Json (Decoder)
open Memory (Transaction)

/-! ## Tasks that only write -/

section

variable {α β ρ : Type} {layout : Sql.Layout ρ}

/-- The task does nothing but write rows and register them. -/
def Writing (task : Work α) : Prop := ∀ ids, (task ids).Writes

theorem writing_pure (value : α) : Writing (pure value) := fun ids => .done value ids

theorem Writing.bind {task : Work α} {f : α → Work β} (h : Writing task)
    (hf : ∀ value, Writing (f value)) : Writing (task >>= f) := fun ids =>
  (h ids).bind fun value ids => hf value ids

theorem writing_insert (size : Nat) (records : List ρ) (h : layout.WellShaped) :
    Writing (Work.insert size layout records) := by
  have hall : ∀ pieces, Writing (Work.insertAll pieces) := by
    intro pieces
    induction pieces with
    | nil => exact writing_pure []
    | cons rows rest ih =>
      exact fun ids => .insert fun reply => (ih.bind fun more => writing_pure (reply ++ more)) ids
  rw [Work.insert, Sql.Layout.rowsOf_eq h]
  exact hall _

theorem writing_copy (size : Nat) (records : List ρ) (h : layout.WellShaped) :
    Writing (Work.copy size layout records) := by
  have hall : ∀ pieces, Writing (Work.copyAll pieces) := by
    intro pieces
    induction pieces with
    | nil => exact writing_pure 0
    | cons rows rest ih =>
      exact fun ids => .copy fun reply => (ih.bind fun more => writing_pure (reply + more)) ids
  rw [Work.copy, Sql.Layout.rowsOf_eq h]
  exact hall _

theorem writing_registerAll (entity : Entity) (pairs : List (LegacyId × Int)) :
    Writing (Work.registerAll entity pairs) := by
  induction pairs with
  | nil => exact writing_pure ()
  | cons pair rest ih =>
    refine Writing.bind (fun ids => ?_) fun _ => ih
    simp only [Work.register, Task.change, IdMap.put]
    cases ids.get? entity pair.1 with
    | none => exact .done _ _
    | some row => exact .duplicate _ _ ids

end

/-! ## Stages that check first -/

/-- A program makes the checks in order: it comes to its writes if they pass, and if not, it fails
over the first one that does not. -/
structure Guarded {α : Type} (ids : IdMap) (checks : List Check) (program : Program IdMap α) :
    Prop where
  writes : (∀ check ∈ checks, check.Passes ids) → program.Reads Program.Writes
  fails : ∀ passed check, passed ++ [check] <+: checks → (∀ other ∈ passed, other.Passes ids) →
    ¬check.Passes ids → program.Reads (· = .fail check.failure ids)

section

variable {α β : Type} {ids : IdMap} {checks : List Check}

theorem guarded_load {docs : List α} {loaded : Except Failure (List α)} (hload : loaded = .ok docs)
    {f : List α → Work β} (h : Guarded ids checks (f docs ids)) :
    Guarded ids checks ((Task.lift loaded >>= f) ids) := by
  subst hload
  exact h

theorem guarded_dates {f : Request.termDates.Reply → Work β}
    (h : ∀ dates, Guarded ids checks (f dates ids)) :
    Guarded ids checks ((Task.ask .termDates >>= f) ids) where
  writes hpass := .dates fun dates => (h dates).writes hpass
  fails passed check hstarts hpassed hfail :=
    .dates fun dates => (h dates).fails passed check hstarts hpassed hfail

/-- A task that makes the checks and only writes then. -/
theorem guarded_lift {result : Except Failure α} (h : Checked ids checks result) {f : α → Work β}
    (hf : ∀ value, Writing (f value)) : Guarded ids checks ((Task.lift result >>= f) ids) where
  writes hpass := by
    obtain ⟨value, rfl⟩ := h.exists_ok hpass
    exact .here (hf value ids)
  fails passed check hstarts hpassed hfail := by
    rw [h.eq_error hstarts hpassed hfail]
    exact .here rfl

end

section

variable {sources : Sources} (ids : IdMap)

theorem guarded_importRequisites {courses : List LegacyCourse}
    (hload : Legacy.load sources.legacy courseCollection LegacyCourse.decoder = .ok courses) :
    Guarded ids (courses.flatMap LegacyCourse.checks) (importRequisites sources ids) := by
  refine guarded_load hload (guarded_lift (checked_requisites courses ([], [])) ?_)
  rintro ⟨before, against⟩
  exact (writing_copy _ _ prerequisiteLayout_wellShaped).bind fun _ =>
    (writing_copy _ _ antirequisiteLayout_wellShaped).bind fun _ => writing_pure _

theorem guarded_importSections {sections : List LegacySection}
    (hload : Legacy.load sources.legacy sectionCollection LegacySection.decoder = .ok sections) :
    Guarded ids (sections.flatMap LegacySection.checks) (importSections sources ids) := by
  refine guarded_load hload (guarded_dates fun dates => guarded_lift (checked_sections sections) ?_)
  exact fun rows => (writing_insert _ _ sectionLayout_wellShaped).bind fun _ =>
    (writing_registerAll _ _).bind fun _ =>
      (writing_copy _ _ meetingLayout_wellShaped).bind fun _ => writing_pure _

theorem guarded_importReviews {docs : List LegacyUserCourse}
    (hload : Legacy.load sources.legacy userCourseCollection LegacyUserCourse.decoder = .ok docs) :
    Guarded ids (docs.flatMap LegacyUserCourse.reviewChecks) (importReviews sources ids) := by
  refine guarded_load hload (guarded_lift (checked_reviews docs []) ?_)
  exact fun reviews => (writing_insert _ _ reviewLayout_wellShaped).bind fun _ =>
    (writing_registerAll _ _).bind fun _ => writing_pure _

theorem guarded_importHistories {docs : List LegacyUserCourse}
    (hload : Legacy.load sources.legacy userCourseCollection LegacyUserCourse.decoder = .ok docs) :
    Guarded ids (docs.flatMap LegacyUserCourse.historyChecks) (importHistories sources ids) := by
  refine guarded_load hload (guarded_lift (checked_histories docs {}) ?_)
  exact fun history => (writing_copy _ _ upvoteLayout_wellShaped).bind fun _ =>
    (writing_copy _ _ shortlistLayout_wellShaped).bind fun _ =>
      (writing_copy _ _ takenLayout_wellShaped).bind fun _ => writing_pure _

theorem guarded_importSchedules {items : List LegacyScheduleItem}
    (hload : Legacy.load sources.legacy scheduleCollection LegacyScheduleItem.decoder = .ok items) :
    Guarded ids (items.flatMap LegacyScheduleItem.checks) (importSchedules sources ids) := by
  refine guarded_load hload (guarded_lift (checked_schedule items []) ?_)
  exact fun rows => (writing_copy _ _ scheduleLayout_wellShaped).bind fun _ => writing_pure _

end

/-- A stage whose documents refer to others, and what it checks of a document, in order. -/
structure Referring where
  Doc : Type
  kind : StageKind
  collection : String
  decoder : Decoder Doc
  checks : Doc → List Check

/-- Every stage whose documents refer to others. -/
def referring : List Referring := [
  ⟨LegacyCourse, .requisites, courseCollection, LegacyCourse.decoder, LegacyCourse.checks⟩,
  ⟨LegacySection, .sections, sectionCollection, LegacySection.decoder, LegacySection.checks⟩,
  ⟨LegacyUserCourse, .reviews, userCourseCollection, LegacyUserCourse.decoder,
    LegacyUserCourse.reviewChecks⟩,
  ⟨LegacyUserCourse, .histories, userCourseCollection, LegacyUserCourse.decoder,
    LegacyUserCourse.historyChecks⟩,
  ⟨LegacyScheduleItem, .schedules, scheduleCollection, LegacyScheduleItem.decoder,
    LegacyScheduleItem.checks⟩]

namespace Referring

variable (r : Referring) (ids : IdMap) (docs : List r.Doc)

/-- Every check of every document passes. -/
def AllPass : Prop := ∀ doc ∈ docs, ∀ check ∈ r.checks doc, check.Passes ids

/-- Of the first document of which a check does not pass, the first one. -/
def Offends (check : Check) : Prop :=
  ∃ others doc, others ++ [doc] <+: docs ∧ r.AllPass ids others ∧
    ∃ passed, passed ++ [check] <+: r.checks doc ∧ (∀ other ∈ passed, other.Passes ids) ∧
      ¬check.Passes ids

end Referring

theorem guarded_work {r : Referring} (hr : r ∈ referring) {sources : Sources} {docs : List r.Doc}
    (hload : Legacy.load sources.legacy r.collection r.decoder = .ok docs) (ids : IdMap) :
    Guarded ids (docs.flatMap r.checks) (r.kind.work sources ids) := by
  simp only [referring, List.mem_cons, List.not_mem_nil, or_false] at hr
  rcases hr with rfl | rfl | rfl | rfl | rfl
  · exact guarded_importRequisites ids hload
  · exact guarded_importSections ids hload
  · exact guarded_importReviews ids hload
  · exact guarded_importHistories ids hload
  · exact guarded_importSchedules ids hload

theorem exists_offends {r : Referring} {ids : IdMap} {docs : List r.Doc}
    (h : ¬r.AllPass ids docs) : ∃ check, r.Offends ids docs check := by
  simp only [Referring.AllPass, not_forall] at h
  obtain ⟨doc, hdoc, check, hcheck, hfail⟩ := h
  obtain ⟨others, first, hothers, ⟨check, hcheck, hfail⟩, hpass⟩ :=
    exists_first (P := fun doc => ∃ check ∈ r.checks doc, ¬check.Passes ids)
      ⟨doc, hdoc, check, hcheck, hfail⟩
  obtain ⟨passed, check, hstarts, hfail, hpassed⟩ :=
    exists_first (P := fun check : Check => ¬check.Passes ids) ⟨check, hcheck, hfail⟩
  refine ⟨check, others, first, hothers, fun other hother check hcheck => ?_, passed, hstarts,
    fun other hother => not_not.1 (hpassed other hother), hfail⟩
  exact by_contra fun hfail => hpass other hother ⟨check, hcheck, hfail⟩

/-- The checks before the first one that does not pass are those of the documents before. -/
theorem Guarded.fails_of_offends {r : Referring} {ids : IdMap} {docs : List r.Doc} {α : Type}
    {program : Program IdMap α} (h : Guarded ids (docs.flatMap r.checks) program) {check : Check}
    (hoffends : r.Offends ids docs check) : program.Reads (· = .fail check.failure ids) := by
  obtain ⟨others, doc, ⟨rest, rfl⟩, hothers, passed, ⟨later, hchecks⟩, hpassed, hfail⟩ := hoffends
  refine h.fails (others.flatMap r.checks ++ passed) check ?_ ?_ hfail
  · exact ⟨later ++ rest.flatMap r.checks, by simp [← hchecks]⟩
  · intro other hother
    rcases List.mem_append.1 hother with hother | hother
    · obtain ⟨doc, hdoc, hother⟩ := List.mem_flatMap.1 hother
      exact hothers doc hdoc other hother
    · exact hpassed other hother

/-- **Nothing dangling is passed over**: a stage whose documents refer to others comes to its writes
exactly if every check of every document passes. If not, it fails over the first check of the first
document that does not pass, and has written nothing. -/
theorem checks_decide {r : Referring} (hr : r ∈ referring) {sources : Sources} {docs : List r.Doc}
    (hload : Legacy.load sources.legacy r.collection r.decoder = .ok docs) (ids : IdMap) :
    (r.AllPass ids docs ↔ (r.kind.work sources ids).Reads Program.Writes) ∧
      (¬r.AllPass ids docs → ∃ check, r.Offends ids docs check ∧
        (r.kind.work sources ids).Reads (· = .fail check.failure ids) ∧
        ∀ now tx, Memory.perform now (r.kind.work sources) ids tx =
          (.error check.failure, ids, tx)) := by
  have hguarded := guarded_work hr hload ids
  refine ⟨⟨fun hpass => hguarded.writes fun check hcheck => ?_, fun hwrites => ?_⟩, fun hfail => ?_⟩
  · obtain ⟨doc, hdoc, hcheck⟩ := List.mem_flatMap.1 hcheck
    exact hpass doc hdoc check hcheck
  · by_contra hfail
    obtain ⟨check, hoffends⟩ := exists_offends hfail
    obtain ⟨kind, id, hduplicate⟩ := hwrites.eq_duplicate (hguarded.fails_of_offends hoffends)
    cases check <;> cases hduplicate
  · obtain ⟨check, hoffends⟩ := exists_offends hfail
    have hfails := hguarded.fails_of_offends hoffends
    exact ⟨check, hoffends, hfails, fun now tx => hfails.hold_eq now tx⟩

/-- A document of a user and a course, with a comment if it has one. -/
def remark (id user course : String) (comment : Option String) : LegacyUserCourse where
  id := id
  userId := user
  courseId := course
  courseReview := { comment }
  profId := none
  profReview := {}
  termId := "2017_09"
  level := none

/-- A store that holds some remarks. -/
def remarks (docs : List LegacyUserCourse) : Sources where
  legacy := Legacy.Store.ofData [(userCourseCollection, docs.map fun doc =>
    .object [("_id", .text doc.id), ("user_id", .text doc.userId),
      ("course_id", .text doc.courseId),
      ("course_review", .object [("comment", .text (doc.courseReview.comment.getD ""))]),
      ("term_id", .text doc.termId)])] []
  batchSize := 1
  secret _ := "code"

/-- Somebody says something of a course, and somebody whom nobody knows says nothing. -/
def silentStranger : List LegacyUserCourse :=
  [remark "r1" "ada" "cs135" (some "Fun."), remark "r2" "bob" "cs135" (some "")]

theorem checks_decide_of_silentStranger :
    let r : Referring := ⟨LegacyUserCourse, .reviews, userCourseCollection,
      LegacyUserCourse.decoder, LegacyUserCourse.reviewChecks⟩
    let ids : IdMap := ⟨[((.course, .key "cs135"), 1), ((.user, .key "ada"), 1)], []⟩
    r ∈ referring ∧
      Legacy.load (remarks silentStranger).legacy r.collection r.decoder = .ok silentStranger ∧
      ∃ check, r.Offends ids silentStranger check ∧
        check.failure = .unresolved "user" "bob" "review" ∧
        Memory.perform ⟨0, 0⟩ (r.kind.work (remarks silentStranger)) ids (Memory.begin {}) =
          (.error check.failure, ids, Memory.begin {}) := by
  intro r ids
  have hr : r ∈ referring := by simp [referring, r]
  have hload : Legacy.load (remarks silentStranger).legacy r.collection r.decoder =
      .ok silentStranger := rfl
  have hstranger : ¬r.AllPass ids silentStranger := by
    intro hpass
    obtain ⟨row, hrow⟩ := hpass (remark "r2" "bob" "cs135" (some "")) (by simp [silentStranger])
      (.reference .user (.key "bob") "review") (by simp [r, remark, LegacyUserCourse.reviewChecks])
    have hnobody : ids.get? .user (.key "bob") = none := rfl
    cases hnobody.symm.trans hrow
  obtain ⟨check, hoffends, -, hperform⟩ := (checks_decide hr hload ids).2 hstranger
  have hresult : (Memory.perform ⟨0, 0⟩ (r.kind.work (remarks silentStranger)) ids
      (Memory.begin {})).1 = .error (.unresolved "user" "bob" "review") := by
    decide +kernel
  rw [hperform] at hresult
  exact ⟨hr, hload, check, hoffends, Except.error.inj hresult, hperform _ _⟩

end Import

end Registrar
