import Registrar.Import.Run
import Registrar.Proofs.Import.Writing
/-!
# What stages do

For every stage, what it takes to succeed and what it has written and registered then. None of it
depends on the size of the batches. The rows of a table come in the order of the records that were
read, and the id of a row follows from how many rows the table has had, so the rows and the
documents that they are registered for never get out of step.
-/
namespace Registrar.Import

open Memory (Transaction Yields idsAfter)

/-! ## Layouts -/

theorem courseLayout_wellShaped : courseLayout.WellShaped :=
  ⟨by decide, by decide, by decide, fun _ => rfl⟩

theorem prerequisiteLayout_wellShaped : prerequisiteLayout.WellShaped :=
  ⟨by decide, by decide, by decide, fun _ => rfl⟩

theorem antirequisiteLayout_wellShaped : antirequisiteLayout.WellShaped :=
  ⟨by decide, by decide, by decide, fun _ => rfl⟩

theorem renameLayout_wellShaped : Rename.layout.WellShaped :=
  ⟨by decide, by decide, by decide, fun _ => rfl⟩

theorem profLayout_wellShaped : profLayout.WellShaped :=
  ⟨by decide, by decide, by decide, fun _ => rfl⟩

theorem sectionLayout_wellShaped : sectionLayout.WellShaped :=
  ⟨by decide, by decide, by decide, fun _ => rfl⟩

theorem meetingLayout_wellShaped : meetingLayout.WellShaped :=
  ⟨by decide, by decide, by decide, fun _ => rfl⟩

theorem userLayout_wellShaped : userLayout.WellShaped :=
  ⟨by decide, by decide, by decide, fun _ => rfl⟩

theorem passwordLayout_wellShaped : passwordLayout.WellShaped :=
  ⟨by decide, by decide, by decide, fun _ => rfl⟩

theorem facebookLayout_wellShaped : facebookLayout.WellShaped :=
  ⟨by decide, by decide, by decide, fun _ => rfl⟩

theorem reviewLayout_wellShaped : reviewLayout.WellShaped :=
  ⟨by decide, by decide, by decide, fun _ => rfl⟩

theorem upvoteLayout_wellShaped : upvoteLayout.WellShaped :=
  ⟨by decide, by decide, by decide, fun _ => rfl⟩

theorem shortlistLayout_wellShaped : shortlistLayout.WellShaped :=
  ⟨by decide, by decide, by decide, fun _ => rfl⟩

theorem takenLayout_wellShaped : takenLayout.WellShaped :=
  ⟨by decide, by decide, by decide, fun _ => rfl⟩

theorem scheduleLayout_wellShaped : scheduleLayout.WellShaped :=
  ⟨by decide, by decide, by decide, fun _ => rfl⟩

/-! ## Names of new rows -/

namespace IdMap

/-- The map in which documents have the rows after `lastId`, in order. -/
def named (ids : IdMap) (entity : Entity) (names : List LegacyId) (lastId : Nat) : IdMap :=
  ids.registered entity (names.zip (idsAfter lastId names.length))

/-- The map in which a row has claimed the legacy ids of a professor that led nowhere. -/
def claim (row : Int) : List String → IdMap → IdMap
  | [], ids => ids
  | name :: rest, ids =>
    claim row rest (if (ids.get? .prof (.key name)).isNone then
      ids.registered .prof [(.key name, row)] else ids)

/-- The map in which the row of each group has claimed the legacy ids of the group. -/
def claimGroups (groups : List (ProfGroup × Int)) (ids : IdMap) : IdMap :=
  groups.foldl (fun ids (group, row) => ids.claim row group.legacyIds) ids

end IdMap

variable (now : Time.Instant) {sources : Sources} {ids ids' : IdMap} {tx tx' : Transaction}
  {report : Report}

theorem yields_registerAll_zip_bind {α : Type} (entity : Entity) {names : List LegacyId}
    {count : Nat} (hcount : count = names.length) (lastId : Nat) (f : Unit → Work α) (value : α) :
    Yields now (Work.registerAll entity (names.zip (idsAfter lastId count)) >>= f) ids tx value
        ids' tx' ↔
      ids.Fresh entity names ∧
        Yields now (f ()) (ids.named entity names lastId) tx value ids' tx' := by
  subst hcount
  rw [yields_registerAll_bind, List.map_fst_zip (by simp)]
  rfl

theorem perform_claimAll (row : Int) (names : List String) (ids : IdMap) (tx : Transaction) :
    Memory.perform now (claimAll row names) ids tx = (.ok (), ids.claim row names, tx) := by
  induction names generalizing ids with
  | nil => rfl
  | cons name rest ih =>
    have hget : Memory.perform now Task.get ids tx = (.ok ids, ids, tx) := rfl
    simp only [claimAll, Memory.perform_bind, hget, IdMap.claim]
    split
    · rename_i hnone
      have hregister : Memory.perform now (Work.register .prof (.key name) row) ids tx =
          (.ok (), ids.registered .prof [(.key name, row)], tx) :=
        (Memory.yields_change now _ ()).2
          ⟨IdMap.put_eq_ok_iff.2 ⟨Option.isNone_iff_eq_none.1 hnone, rfl⟩, rfl⟩
      rw [Memory.perform_bind, hregister]
      exact ih _
    · exact ih ids

theorem perform_claimGroups (groups : List (ProfGroup × Int)) (ids : IdMap) (tx : Transaction) :
    Memory.perform now (claimGroups groups) ids tx = (.ok (), ids.claimGroups groups, tx) := by
  induction groups generalizing ids with
  | nil => rfl
  | cons group rest ih =>
    simp only [claimGroups, Memory.perform_bind, perform_claimAll, ih]
    rfl

theorem yields_claimGroups_bind {α : Type} (groups : List (ProfGroup × Int)) (f : Unit → Work α)
    (value : α) :
    Yields now (claimGroups groups >>= f) ids tx value ids' tx' ↔
      Yields now (f ()) (ids.claimGroups groups) tx value ids' tx' := by
  simp only [Yields, Memory.perform_bind, perform_claimGroups]

/-! ## Stages -/

theorem yields_importCourses :
    Yields now (importCourses sources) ids tx report ids' tx' ↔ ∃ courses,
      Legacy.load sources.legacy courseCollection LegacyCourse.decoder = .ok courses ∧
      ¬Refused courseLayout courses tx ∧
      ids.Fresh .course (courses.map fun course => .key course.id) ∧
      report = ⟨.courses, [⟨"course", courses.length⟩]⟩ ∧
      ids' = ids.named .course (courses.map fun course => .key course.id)
        (tx.work.table courseLayout.table).lastId ∧
      tx' = tx.store (courseLayout.toRows courses) := by
  simp only [importCourses, Memory.yields_lift_bind, Memory.yields_pure,
    yields_insert_bind now _ _ _ courseLayout_wellShaped, Memory.length_idsAfter,
    yields_registerAll_zip_bind now _ (List.length_map _).symm]

theorem yields_importRequisites :
    Yields now (importRequisites sources) ids tx report ids' tx' ↔ ∃ courses,
      Legacy.load sources.legacy courseCollection LegacyCourse.decoder = .ok courses ∧ ∃ edges,
      requisites ids courses ([], []) = .ok edges ∧
      ¬Refused prerequisiteLayout edges.1 tx ∧
      ¬Refused antirequisiteLayout edges.2 (tx.store (prerequisiteLayout.toRows edges.1)) ∧
      report = ⟨.requisites, [⟨"course_prerequisite", edges.1.length⟩,
        ⟨"course_antirequisite", edges.2.length⟩]⟩ ∧
      ids' = ids ∧
      tx' = (tx.store (prerequisiteLayout.toRows edges.1)).store
        (antirequisiteLayout.toRows edges.2) := by
  simp only [importRequisites, Memory.yields_lift_bind, Memory.yields_get_bind, Memory.yields_pure,
    yields_copy_bind now _ _ _ prerequisiteLayout_wellShaped,
    yields_copy_bind now _ _ _ antirequisiteLayout_wellShaped]

theorem yields_importRenames :
    Yields now (importRenames sources) ids tx report ids' tx' ↔ ∃ records,
      sources.legacy.records renameFile = .ok records ∧ ∃ renames,
      readRenames 0 [] records = .ok renames ∧
      ¬Refused Rename.layout renames tx ∧
      report = ⟨.profRenames, [⟨"prof_rename", renames.length⟩]⟩ ∧
      ids' = { ids with renames } ∧
      tx' = tx.store (Rename.layout.toRows renames) := by
  simp only [importRenames, Memory.yields_lift_bind, Memory.yields_get_bind, Memory.yields_set_bind,
    Memory.yields_pure, yields_copy_bind now _ _ _ renameLayout_wellShaped]

theorem yields_importProfs :
    Yields now (importProfs sources) ids tx report ids' tx' ↔ ∃ profs,
      Legacy.load sources.legacy profCollection LegacyProf.decoder = .ok profs ∧
      ¬Refused profLayout (groupProfs ids profs) tx ∧
      report = ⟨.profs, [⟨"prof", (groupProfs ids profs).length⟩]⟩ ∧
      ids' = ids.claimGroups ((groupProfs ids profs).zip
        (idsAfter (tx.work.table profLayout.table).lastId (groupProfs ids profs).length)) ∧
      tx' = tx.store (profLayout.toRows (groupProfs ids profs)) := by
  simp only [importProfs, Memory.yields_lift_bind, Memory.yields_get_bind, Memory.yields_pure,
    yields_insert_bind now _ _ _ profLayout_wellShaped, yields_claimGroups_bind,
    Memory.length_idsAfter]

/-- The rows of the meetings of some sections whose own rows follow `lastId`. -/
def meetingsAfter (ids : IdMap) (terms : List (Int × Warehouse.Timeframe))
    (sections : List LegacySection) (rows : List SectionRow) (lastId : Nat) : List MeetingRow :=
  meetingRows ids terms ((sections.zip rows).zip (idsAfter lastId rows.length))

theorem yields_importSections :
    Yields now (importSections sources) ids tx report ids' tx' ↔ ∃ sections,
      Legacy.load sources.legacy sectionCollection LegacySection.decoder = .ok sections ∧ ∃ rows,
      sections.mapM (LegacySection.row ids) = .ok rows ∧
      let lastId := (tx.work.table sectionLayout.table).lastId
      let meetings := meetingsAfter ids tx.work.termDates sections rows lastId
      ¬Refused sectionLayout rows tx ∧
      ids.Fresh .courseSection (rows.map SectionRow.legacyId) ∧
      ¬Refused meetingLayout meetings (tx.store (sectionLayout.toRows rows)) ∧
      report = ⟨.sections, [⟨"course_section", rows.length⟩, ⟨"section_meeting", meetings.length⟩]⟩ ∧
      ids' = ids.named .courseSection (rows.map SectionRow.legacyId) lastId ∧
      tx' = (tx.store (sectionLayout.toRows rows)).store (meetingLayout.toRows meetings) := by
  simp only [importSections, Memory.yields_lift_bind]
  refine exists_congr fun sections => and_congr_right fun _ => ?_
  rw [Memory.yields_termDates_bind]
  simp only [Memory.yields_get_bind, Memory.yields_lift_bind, Memory.yields_pure,
    yields_insert_bind now _ _ _ sectionLayout_wellShaped, Memory.length_idsAfter,
    yields_copy_bind now _ _ _ meetingLayout_wellShaped,
    yields_registerAll_zip_bind now _ (List.length_map _).symm]
  rfl

/-- Users with their secrets. -/
def usersWithSecrets (sources : Sources) (users : List LegacyUser) : List (LegacyUser × String) :=
  users.zip ((List.range users.length).map sources.secret)

@[simp] theorem length_usersWithSecrets (sources : Sources) (users : List LegacyUser) :
    (usersWithSecrets sources users).length = users.length := by
  simp [usersWithSecrets]

theorem yields_importUsers :
    Yields now (importUsers sources) ids tx report ids' tx' ↔ ∃ users,
      Legacy.load sources.legacy userCollection LegacyUser.decoder = .ok users ∧
      let lastId := (tx.work.table userLayout.table).lastId
      let known := users.zip (idsAfter lastId users.length)
      let stored := tx.store (userLayout.toRows (usersWithSecrets sources users))
      ¬Refused userLayout (usersWithSecrets sources users) tx ∧
      ids.Fresh .user (users.map fun user => .key user.id) ∧
      ¬Refused passwordLayout (passwordRows known) stored ∧
      ¬Refused facebookLayout (facebookRows known)
        (stored.store (passwordLayout.toRows (passwordRows known))) ∧
      report = ⟨.users, [⟨"user", users.length⟩, ⟨"secret.user_email", (passwordRows known).length⟩,
        ⟨"secret.user_fb", (facebookRows known).length⟩]⟩ ∧
      ids' = ids.named .user (users.map fun user => .key user.id) lastId ∧
      tx' = (stored.store (passwordLayout.toRows (passwordRows known))).store
        (facebookLayout.toRows (facebookRows known)) := by
  have hsecrets : ∀ users : List LegacyUser,
      users.zip ((List.range users.length).map sources.secret) = usersWithSecrets sources users :=
    fun _ => rfl
  simp only [importUsers, Memory.yields_lift_bind, Memory.yields_pure, hsecrets,
    yields_insert_bind now _ _ _ userLayout_wellShaped, length_usersWithSecrets,
    Memory.length_idsAfter, yields_copy_bind now _ _ _ passwordLayout_wellShaped,
    yields_copy_bind now _ _ _ facebookLayout_wellShaped,
    yields_registerAll_zip_bind now _ (List.length_map _).symm]

theorem yields_importReviews :
    Yields now (importReviews sources) ids tx report ids' tx' ↔ ∃ docs,
      Legacy.load sources.legacy userCourseCollection LegacyUserCourse.decoder = .ok docs ∧
      ∃ reviews, collectReviews ids [] docs = .ok reviews ∧
      ¬Refused reviewLayout (reviews.map Prod.snd) tx ∧
      ids.Fresh .review (reviews.map fun review => .key review.1) ∧
      report = ⟨.reviews, [⟨"review", reviews.length⟩]⟩ ∧
      ids' = ids.named .review (reviews.map fun review => .key review.1)
        (tx.work.table reviewLayout.table).lastId ∧
      tx' = tx.store (reviewLayout.toRows (reviews.map Prod.snd)) := by
  simp only [importReviews, Memory.yields_lift_bind, Memory.yields_get_bind, Memory.yields_pure,
    yields_insert_bind now _ _ _ reviewLayout_wellShaped, Memory.length_idsAfter, List.length_map,
    yields_registerAll_zip_bind now _ (List.length_map _).symm]

theorem yields_importHistories :
    Yields now (importHistories sources) ids tx report ids' tx' ↔ ∃ docs,
      Legacy.load sources.legacy userCourseCollection LegacyUserCourse.decoder = .ok docs ∧
      ∃ history, collectHistory ids {} docs = .ok history ∧
      let voted := tx.store (upvoteLayout.toRows history.upvotes)
      let saved := voted.store (shortlistLayout.toRows history.shortlist)
      ¬Refused upvoteLayout history.upvotes tx ∧
      ¬Refused shortlistLayout history.shortlist voted ∧
      ¬Refused takenLayout history.taken saved ∧
      report = ⟨.histories, [⟨"course_review_upvote", history.upvotes.length⟩,
        ⟨"user_shortlist", history.shortlist.length⟩,
        ⟨"user_course_taken", history.taken.length⟩]⟩ ∧
      ids' = ids ∧
      tx' = saved.store (takenLayout.toRows history.taken) := by
  simp only [importHistories, Memory.yields_lift_bind, Memory.yields_get_bind, Memory.yields_pure,
    yields_copy_bind now _ _ _ upvoteLayout_wellShaped,
    yields_copy_bind now _ _ _ shortlistLayout_wellShaped,
    yields_copy_bind now _ _ _ takenLayout_wellShaped]

theorem yields_importSchedules :
    Yields now (importSchedules sources) ids tx report ids' tx' ↔ ∃ items,
      Legacy.load sources.legacy scheduleCollection LegacyScheduleItem.decoder = .ok items ∧
      ∃ rows, collectSchedule ids [] items = .ok rows ∧
      ¬Refused scheduleLayout rows tx ∧
      report = ⟨.schedules, [⟨"user_schedule", rows.length⟩]⟩ ∧
      ids' = ids ∧ tx' = tx.store (scheduleLayout.toRows rows) := by
  simp only [importSchedules, Memory.yields_lift_bind, Memory.yields_get_bind, Memory.yields_pure,
    yields_copy_bind now _ _ _ scheduleLayout_wellShaped]

end Registrar.Import
