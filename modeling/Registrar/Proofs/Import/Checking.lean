import Registrar.Proofs.Import.Firsts
/-!
# The checks of documents

What a document refers to must have a row, and its class number and its term must be readable. The
functions that turn documents into records make these checks document by document, whatever comes of
a document in the end, and fail over the first one that does not pass (`Checked`).
-/
namespace Registrar.Import

/-! ## Checks -/

/-- A check: that a document which is referred to has a row, or that a field can be read. -/
inductive Check
  | reference (entity : Entity) (id : LegacyId) (referrer : String)
  | classNumber (collection : String) (number : ClassNumber)
  | term (collection raw : String)

namespace Check

def Passes (ids : IdMap) : Check → Prop
  | reference entity id _ => ∃ row, ids.get? entity id = some row
  | classNumber _ number => ∃ n, number.value? = some n
  | term _ raw => ∃ n, Term.number? raw = some n

/-- What a stage fails with over a check. -/
def failure : Check → Failure
  | reference entity id referrer => .unresolved entity.name id.text referrer
  | classNumber collection number => .legacy collection s!"bad class number {number.shown}"
  | term collection raw => .legacy collection s!"bad term id '{raw}'"

end Check

variable {ids : IdMap} {α β : Type}

/-- A computation makes some checks in order, and fails over the first one that does not pass. -/
inductive Checked (ids : IdMap) : List Check → Except Failure α → Prop
  | done (value : α) : Checked ids [] (.ok value)
  | pass {check : Check} {checks : List Check} {result : Except Failure α}
      (h : check.Passes ids) (rest : Checked ids checks result) :
      Checked ids (check :: checks) result
  | fail {check : Check} {checks : List Check} (h : ¬check.Passes ids) :
      Checked ids (check :: checks) (.error check.failure)

namespace Checked

variable {checks more : List Check} {result : Except Failure α}

theorem bind {f : α → Except Failure β} (h : Checked ids checks result)
    (hf : ∀ value, result = .ok value → Checked ids more (f value)) :
    Checked ids (checks ++ more) (result >>= f) := by
  induction h with
  | done value => exact hf value rfl
  | pass h rest ih => exact .pass h (ih hf)
  | fail h => exact .fail h

theorem exists_ok (h : Checked ids checks result) (hpass : ∀ check ∈ checks, check.Passes ids) :
    ∃ value, result = .ok value := by
  induction h with
  | done value => exact ⟨value, rfl⟩
  | pass h rest ih => exact ih fun check hcheck => hpass check (List.mem_cons_of_mem _ hcheck)
  | fail h => exact absurd (hpass _ List.mem_cons_self) h

/-- A computation that succeeds has passed every check. -/
theorem passes (h : Checked ids checks result) {value : α} (hok : result = .ok value) :
    ∀ check ∈ checks, check.Passes ids := by
  induction h with
  | done => simp
  | pass h rest ih => exact List.forall_mem_cons.2 ⟨h, ih hok⟩
  | fail h => cases hok

theorem eq_error {passed : List Check} {check : Check}
    (h : Checked ids checks result) (hstarts : passed ++ [check] <+: checks)
    (hpassed : ∀ other ∈ passed, other.Passes ids) (hfail : ¬check.Passes ids) :
    result = .error check.failure := by
  induction h generalizing passed with
  | done value => simp at hstarts
  | pass h rest ih =>
    cases passed with
    | nil =>
      obtain ⟨rfl, -⟩ := List.cons_prefix_cons.1 hstarts
      exact absurd h hfail
    | cons other passed =>
      exact ih (List.cons_prefix_cons.1 hstarts).2
        fun check hcheck => hpassed check (List.mem_cons_of_mem _ hcheck)
  | fail h =>
    cases passed with
    | nil =>
      obtain ⟨rfl, -⟩ := List.cons_prefix_cons.1 hstarts
      rfl
    | cons other passed =>
      obtain ⟨rfl, -⟩ := List.cons_prefix_cons.1 hstarts
      exact absurd (hpassed _ List.mem_cons_self) h

theorem reference (entity : Entity) (id : LegacyId) (referrer : String) :
    Checked ids [.reference entity id referrer] (ids.require entity id referrer) := by
  unfold IdMap.require
  cases hget : ids.get? entity id with
  | none => exact .fail (by simp [Check.Passes, hget])
  | some row => exact .pass ⟨row, hget⟩ (.done row)

theorem classNumber (collection : String) (number : ClassNumber) :
    Checked ids [.classNumber collection number] (number.require collection) := by
  unfold ClassNumber.require
  cases hvalue : number.value? with
  | none => exact .fail (by simp [Check.Passes, hvalue])
  | some n => exact .pass ⟨n, hvalue⟩ (.done n)

theorem term (collection raw : String) :
    Checked ids [.term collection raw] (Term.require collection raw) := by
  unfold Term.require
  cases hnumber : Term.number? raw with
  | none => exact .fail (by simp [Check.Passes, hnumber])
  | some n => exact .pass ⟨n, hnumber⟩ (.done n)

/-- Documents one after another. -/
theorem mapM {δ : Type} {checks : δ → List Check} {f : δ → Except Failure β}
    (hf : ∀ doc, Checked ids (checks doc) (f doc)) (docs : List δ) :
    Checked ids (docs.flatMap checks) (docs.mapM f) := by
  induction docs with
  | nil => exact .done []
  | cons doc rest ih =>
    rw [List.mapM_cons, List.flatMap_cons]
    refine (hf doc).bind fun value _ => ?_
    rw [← List.append_nil (rest.flatMap checks)]
    exact ih.bind fun values _ => .done (value :: values)

end Checked

/-! ## The checks of documents -/

namespace LegacyCourse

def checks (course : LegacyCourse) : List Check :=
  [.reference .course (.key course.id) "course_requisite"]

end LegacyCourse

theorem checked_requisites (courses : List LegacyCourse)
    (edges : List Prerequisite × List Antirequisite) :
    Checked ids (courses.flatMap LegacyCourse.checks) (requisites ids courses edges) := by
  induction courses generalizing edges with
  | nil => exact .done edges
  | cons course rest ih =>
    rw [requisites, List.flatMap_cons]
    exact (Checked.reference _ _ _).bind fun id _ => ih _

def LegacySection.checks (s : LegacySection) : List Check :=
  [.classNumber sectionCollection s.classNumber,
    .reference .course (.key s.courseId) "course_section", .term sectionCollection s.termId]

theorem checked_sections (sections : List LegacySection) :
    Checked ids (sections.flatMap LegacySection.checks)
      (sections.mapM (LegacySection.row ids)) := by
  refine Checked.mapM (fun s => ?_) sections
  exact (Checked.classNumber _ _).bind fun _ _ => (Checked.reference _ _ _).bind fun _ _ =>
    (Checked.term _ _).bind fun _ _ => .done _

/-- What is checked of a document before its review is imported, even if it has none. -/
def LegacyUserCourse.reviewChecks (doc : LegacyUserCourse) : List Check :=
  [.reference .course (.key doc.courseId) "review", .reference .user (.key doc.userId) "review"]

theorem checked_reviews (docs : List LegacyUserCourse) (before : List (String × ReviewRow)) :
    Checked ids (docs.flatMap LegacyUserCourse.reviewChecks) (collectReviews ids before docs) := by
  induction docs generalizing before with
  | nil => exact .done before
  | cons doc rest ih =>
    rw [collectReviews, List.flatMap_cons]
    refine (Checked.reference _ _ _).bind fun course _ =>
      (Checked.reference _ _ _).bind fun user _ => ?_
    split
    · exact ih _
    · exact ih _

/-- What is checked of a document before its history is imported; a course that is saved for later
has no term. -/
def LegacyUserCourse.historyChecks (doc : LegacyUserCourse) : List Check :=
  [.reference .course (.key doc.courseId) "user_course",
    .reference .user (.key doc.userId) "user_course"] ++
    if doc.termId = Term.shortlist then [] else [.term userCourseCollection doc.termId]

theorem checked_histories (docs : List LegacyUserCourse) (before : History) :
    Checked ids (docs.flatMap LegacyUserCourse.historyChecks) (collectHistory ids before docs) := by
  induction docs generalizing before with
  | nil => exact .done before
  | cons doc rest ih =>
    rw [collectHistory, List.flatMap_cons, LegacyUserCourse.historyChecks, List.append_assoc]
    refine (Checked.reference _ _ _).bind fun course _ =>
      (Checked.reference _ _ _).bind fun user _ => ?_
    split
    · exact ih _
    · exact (Checked.term _ _).bind fun term _ => ih _

/-- The section of an item is looked up once its class number and its term are known. -/
def LegacyScheduleItem.checks (item : LegacyScheduleItem) : List Check :=
  [.reference .user (.key item.userId) "user_schedule",
    .classNumber scheduleCollection item.classNumber, .term scheduleCollection item.termId] ++
    match item.classNumber.value?, Term.number? item.termId with
    | some n, some term => [.reference .courseSection (.classInTerm n term) "user_schedule"]
    | _, _ => []

theorem checked_schedule (items : List LegacyScheduleItem) (before : List ScheduleRow) :
    Checked ids (items.flatMap LegacyScheduleItem.checks) (collectSchedule ids before items) := by
  have hrow : ∀ item : LegacyScheduleItem, Checked ids item.checks (item.row ids) := by
    intro item
    refine (Checked.reference _ _ _).bind fun user _ => (Checked.classNumber _ _).bind fun n hn =>
      (Checked.term _ _).bind fun term hterm => ?_
    rw [ClassNumber.require_eq_ok_iff.1 hn, Term.require_eq_ok_iff.1 hterm]
    exact (Checked.reference _ _ _).bind fun _ _ => .done _
  induction items generalizing before with
  | nil => exact .done before
  | cons item rest ih =>
    rw [collectSchedule, List.flatMap_cons]
    exact (hrow item).bind fun row _ => ih _

end Registrar.Import
