import Registrar.Proofs.Import.Stages
import Registrar.Proofs.Memory.Solitude
/-!
# Two runs that agree

Neither the size of the batches nor the secrets that users are given decide anything in an import.
States are `Alike` if they differ at most in the secrets of users, and two tasks `Agree` if from alike
transactions they come to the same result and leave alike ones. What stages are made of agrees with
itself whatever the size of the batches (`agree_insert`, `agree_copy`), and users who are given other
secrets become alike rows (`alike_users`). So every stage agrees with the same stage of another run
(`agree_work`), and whole runs do (`run_alike`).
-/
namespace Registrar.Memory

/-! ## Rows but for secrets -/

/-- A row without the secret of a user. -/
def withoutSecret (row : Row) : Row := row.filter fun cell => cell.1 ≠ "secret_id"

/-- Entries of a table that become the same rows; those of users may have other secrets. -/
structure AlikeEntries (name : String) (entries entries' : List Entry) : Prop where
  length : entries.length = entries'.length
  same : name ≠ Import.userLayout.table → entries = entries'
  rows : ∀ lastId, (numbered lastId entries).map withoutSecret =
    (numbered lastId entries').map withoutSecret

theorem AlikeEntries.refl (name : String) (entries : List Entry) :
    AlikeEntries name entries entries :=
  ⟨rfl, fun _ => rfl, fun _ => rfl⟩

/-- The same tables, but for the secrets of users. -/
structure Tables.Alike (tables tables' : Tables) : Prop where
  same : ∀ name, name ≠ Import.userLayout.table → tables name = tables' name
  lastId : ∀ name, (tables name).lastId = (tables' name).lastId
  rows : ∀ name, (tables name).rows.map withoutSecret = (tables' name).rows.map withoutSecret

namespace Tables.Alike

variable {tables tables' : Tables}

theorem refl (tables : Tables) : tables.Alike tables := ⟨fun _ _ => rfl, fun _ => rfl, fun _ => rfl⟩

theorem add (h : tables.Alike tables') {name : String} {entries entries' : List Entry}
    (hentries : AlikeEntries name entries entries') :
    (tables.add name entries).Alike (tables'.add name entries') where
  same other hother := by
    unfold Tables.add
    split
    · rename_i hsame
      rw [h.same other hother, hentries.same (hsame ▸ hother)]
    · exact h.same other hother
  lastId other := by
    unfold Tables.add
    split
    · simp only [Table.extend, h.lastId other, hentries.length]
    · exact h.lastId other
  rows other := by
    unfold Tables.add
    split
    · simp only [Table.extend, List.map_append, h.rows other, h.lastId other, hentries.rows]
    · exact h.rows other

end Tables.Alike

/-! ## States and transactions -/

/-- The same state, but for the secrets of users. -/
structure State.Alike (state state' : State) : Prop where
  tables : Tables.Alike state.table state'.table
  termDates : state.termDates = state'.termDates
  queues : state.queues = state'.queues
  failing : state.failing = state'.failing

theorem State.Alike.refl (state : State) : state.Alike state := ⟨.refl _, rfl, rfl, rfl⟩

/-- Transactions that see alike states and marked the same rows. -/
structure Transaction.Alike (tx tx' : Transaction) : Prop where
  work : tx.work.Alike tx'.work
  marked : tx.marked = tx'.marked

namespace Transaction.Alike

variable {tx tx' : Transaction}

theorem store (h : tx.Alike tx') {rows rows' : Sql.Rows} (htable : rows.table = rows'.table)
    (hentries : AlikeEntries rows.table rows.entries rows'.entries) :
    (tx.store rows).Alike (tx'.store rows') where
  work := {
    tables := by
      rw [Transaction.table_store, Transaction.table_store, ← htable]
      exact h.work.tables.add hentries
    termDates := by
      unfold Transaction.store
      split <;> split <;> exact h.work.termDates
    queues := by
      unfold Transaction.store
      split <;> split <;> exact h.work.queues
    failing := by
      rw [Transaction.failing_store, Transaction.failing_store, h.work.failing] }
  marked := by
    unfold Transaction.store
    split <;> split <;> exact h.marked

/-- Alike transactions publish alike states. -/
theorem publish (h : tx.Alike tx') {base base' : State} (hbase : base.Alike base')
    (hfollows : Follows base tx) (hfollows' : Follows base' tx') :
    (publish tx base).Alike (publish tx' base') where
  tables := by
    rw [hfollows.table_publish, hfollows'.table_publish]
    exact h.work.tables
  termDates := hbase.termDates
  queues := by
    funext queue
    rw [queues_publish, queues_publish, h.marked, h.work.queues, hbase.queues]
  failing := hbase.failing

end Transaction.Alike

end Registrar.Memory

namespace Registrar.Import

open Memory (State Transaction AlikeEntries perform withoutSecret)

/-! ## Tasks that agree -/

/-- From alike transactions both tasks come to the same result and leave alike ones. -/
def Agree {α : Type} (now now' : Time.Instant) (task task' : Work α) : Prop :=
  ∀ ids tx tx', tx.Alike tx' → ∃ result ids' after after',
    perform now task ids tx = (result, ids', after) ∧
    perform now' task' ids tx' = (result, ids', after') ∧ after.Alike after'

section

variable {now now' : Time.Instant} {α β : Type}

theorem agree_pure (value : α) : Agree now now' (pure value) (pure value) :=
  fun ids tx tx' h => ⟨.ok value, ids, tx, tx', rfl, rfl, h⟩

theorem agree_lift (result : Except Failure α) :
    Agree now now' (Task.lift result) (Task.lift result) := by
  intro ids tx tx' h
  cases result with
  | ok value => exact ⟨.ok value, ids, tx, tx', rfl, rfl, h⟩
  | error cause => exact ⟨.error cause, ids, tx, tx', rfl, rfl, h⟩

theorem agree_get : Agree now now' Task.get Task.get :=
  fun ids tx tx' h => ⟨.ok ids, ids, tx, tx', rfl, rfl, h⟩

theorem agree_set (next : IdMap) : Agree now now' (Task.set next) (Task.set next) :=
  fun _ tx tx' h => ⟨.ok (), next, tx, tx', rfl, rfl, h⟩

theorem agree_termDates :
    Agree now now' (Task.ask .termDates) (Task.ask .termDates) := by
  intro ids tx tx' h
  refine ⟨.ok tx.work.termDates, ids, tx, tx', rfl, ?_, h⟩
  rw [h.work.termDates]
  rfl

theorem Agree.bind {task task' : Work α} {f f' : α → Work β} (h : Agree now now' task task')
    (hf : ∀ value, Agree now now' (f value) (f' value)) :
    Agree now now' (task >>= f) (task' >>= f') := by
  intro ids tx tx' halike
  obtain ⟨result, ids', after, after', hperform, hperform', hafter⟩ := h ids tx tx' halike
  rw [Memory.perform_bind, Memory.perform_bind, hperform, hperform']
  cases result with
  | ok value => exact hf value ids' after after' hafter
  | error cause => exact ⟨.error cause, ids', after, after', rfl, rfl, hafter⟩

theorem agree_register (entity : Entity) (id : LegacyId) (row : Int) :
    Agree now now' (Work.register entity id row) (Work.register entity id row) := by
  intro ids tx tx' h
  have hregister : ∀ (now : Time.Instant) (tx : Transaction),
      perform now (Work.register entity id row) ids tx =
        match IdMap.put entity id row ids with
        | .ok ids' => (.ok (), ids', tx)
        | .error cause => (.error cause, ids, tx) := by
    intro now tx
    simp only [Work.register, perform, Task.change]
    cases IdMap.put entity id row ids <;> rfl
  rw [hregister, hregister]
  cases IdMap.put entity id row ids with
  | ok ids' => exact ⟨.ok (), ids', tx, tx', rfl, rfl, h⟩
  | error cause => exact ⟨.error cause, ids, tx, tx', rfl, rfl, h⟩

theorem agree_registerAll (entity : Entity) (pairs : List (LegacyId × Int)) :
    Agree now now' (Work.registerAll entity pairs) (Work.registerAll entity pairs) := by
  induction pairs with
  | nil => exact agree_pure ()
  | cons pair rest ih => exact (agree_register entity pair.1 pair.2).bind fun _ => ih

theorem agree_claimGroups (groups : List (ProfGroup × Int)) :
    Agree now now' (claimGroups groups) (claimGroups groups) := by
  intro ids tx tx' h
  exact ⟨.ok (), ids.claimGroups groups, tx, tx', perform_claimGroups now groups ids tx,
    perform_claimGroups now' groups ids tx', h⟩

/-! ## Writing -/

variable {ρ : Type} {layout : Sql.Layout ρ} {records records' : List ρ} (size size' : Nat)

theorem refused_iff_of_alike {tx tx' : Transaction} (h : tx.Alike tx')
    (hlength : records.length = records'.length) :
    Refused layout records tx ↔ Refused layout records' tx' := by
  unfold Refused
  rw [h.work.failing, ← List.length_pos_iff, ← List.length_pos_iff, hlength]

/-- **Inserting** does not depend on the size of the batches or on secrets. -/
theorem agree_insert (hshape : layout.WellShaped)
    (h : AlikeEntries layout.table (layout.entries records) (layout.entries records')) :
    Agree now now' (Work.insert size layout records) (Work.insert size' layout records') := by
  have hlength : records.length = records'.length := by
    simpa [Sql.Layout.entries] using h.length
  intro ids tx tx' halike
  rw [perform_insert now ids size records hshape, perform_insert now' ids size' records' hshape]
  by_cases hrefused : Refused layout records tx
  · rw [if_pos hrefused, if_pos ((refused_iff_of_alike halike hlength).1 hrefused)]
    exact ⟨_, ids, tx, tx', rfl, rfl, halike⟩
  · rw [if_neg hrefused, if_neg (mt (refused_iff_of_alike halike hlength).2 hrefused),
      halike.work.tables.lastId, hlength]
    refine ⟨_, ids, _, _, rfl, rfl, halike.store rfl ?_⟩
    rwa [Memory.entries_toRows, Memory.entries_toRows]

/-- **Copying** does not depend on the size of the batches. -/
theorem agree_copy (hshape : layout.WellShaped) (records : List ρ) :
    Agree now now' (Work.copy size layout records) (Work.copy size' layout records) := by
  intro ids tx tx' halike
  rw [perform_copy now ids size records hshape, perform_copy now' ids size' records hshape]
  by_cases hrefused : Refused layout records tx
  · rw [if_pos hrefused, if_pos ((refused_iff_of_alike halike rfl).1 hrefused)]
    exact ⟨_, ids, tx, tx', rfl, rfl, halike⟩
  · rw [if_neg hrefused, if_neg (mt (refused_iff_of_alike halike rfl).2 hrefused)]
    exact ⟨_, ids, _, _, rfl, rfl, halike.store rfl (.refl _ _)⟩

/-! ## Stages -/

/-- A user who is given another secret becomes the same row, but for the secret. -/
theorem withoutSecret_row_user (user : LegacyUser) (secret secret' : String) (id : Nat) :
    withoutSecret (Memory.row userLayout.columns (userLayout.values (user, secret)) id) =
      withoutSecret (Memory.row userLayout.columns (userLayout.values (user, secret')) id) := by
  rfl

theorem alike_users (users : List LegacyUser) {secrets secrets' : List String}
    (h : users.length = secrets.length) (h' : users.length = secrets'.length) :
    AlikeEntries userLayout.table (userLayout.entries (users.zip secrets))
      (userLayout.entries (users.zip secrets')) where
  length := by simp [Sql.Layout.entries, ← h, ← h']
  same hother := absurd rfl hother
  rows lastId := by
    refine List.ext_getElem? fun i => ?_
    simp only [List.getElem?_map, Memory.getElem?_numbered, Sql.Layout.entries]
    by_cases hi : i < users.length
    · simp only [List.zip, List.getElem?_zipWith, List.getElem?_eq_getElem hi,
        List.getElem?_eq_getElem (h ▸ hi), List.getElem?_eq_getElem (h' ▸ hi), Option.map_some]
      exact congrArg some (withoutSecret_row_user _ _ _ _)
    · rw [List.getElem?_eq_none (by simp; omega), List.getElem?_eq_none (by simp; omega)]

variable (legacy : Legacy.Store) (secret secret' : Nat → String)

theorem agree_importCourses :
    Agree now now' (importCourses ⟨legacy, size, secret⟩) (importCourses ⟨legacy, size', secret'⟩) := by
  refine (agree_lift _).bind fun courses => ?_
  refine (agree_insert size size' courseLayout_wellShaped (.refl _ _)).bind fun ids => ?_
  exact (agree_registerAll _ _).bind fun _ => agree_pure _

theorem agree_importRequisites :
    Agree now now' (importRequisites ⟨legacy, size, secret⟩)
      (importRequisites ⟨legacy, size', secret'⟩) := by
  refine (agree_lift _).bind fun courses => agree_get.bind fun ids => ?_
  refine (agree_lift _).bind fun edges => ?_
  refine (agree_copy size size' prerequisiteLayout_wellShaped _).bind fun required => ?_
  exact (agree_copy size size' antirequisiteLayout_wellShaped _).bind fun excluded => agree_pure _

theorem agree_importRenames :
    Agree now now' (importRenames ⟨legacy, size, secret⟩) (importRenames ⟨legacy, size', secret'⟩) := by
  refine (agree_lift _).bind fun records => (agree_lift _).bind fun renames => ?_
  refine (agree_copy size size' renameLayout_wellShaped _).bind fun count => ?_
  exact agree_get.bind fun ids => (agree_set _).bind fun _ => agree_pure _

theorem agree_importProfs :
    Agree now now' (importProfs ⟨legacy, size, secret⟩) (importProfs ⟨legacy, size', secret'⟩) := by
  refine (agree_lift _).bind fun profs => agree_get.bind fun ids => ?_
  refine (agree_insert size size' profLayout_wellShaped (.refl _ _)).bind fun rows => ?_
  exact (agree_claimGroups _).bind fun _ => agree_pure _

theorem agree_importSections :
    Agree now now' (importSections ⟨legacy, size, secret⟩)
      (importSections ⟨legacy, size', secret'⟩) := by
  refine (agree_lift _).bind fun sections => agree_termDates.bind fun terms => ?_
  refine agree_get.bind fun ids => (agree_lift _).bind fun rows => ?_
  refine (agree_insert size size' sectionLayout_wellShaped (.refl _ _)).bind fun sectionIds => ?_
  refine (agree_registerAll _ _).bind fun _ => ?_
  exact (agree_copy size size' meetingLayout_wellShaped _).bind fun count => agree_pure _

theorem agree_importUsers :
    Agree now now' (importUsers ⟨legacy, size, secret⟩) (importUsers ⟨legacy, size', secret'⟩) := by
  refine (agree_lift _).bind fun users => ?_
  refine (agree_insert size size' userLayout_wellShaped
    (alike_users users (by simp) (by simp))).bind fun ids => ?_
  refine (agree_registerAll _ _).bind fun _ => ?_
  refine (agree_copy size size' passwordLayout_wellShaped _).bind fun passwords => ?_
  exact (agree_copy size size' facebookLayout_wellShaped _).bind fun accounts => agree_pure _

theorem agree_importReviews :
    Agree now now' (importReviews ⟨legacy, size, secret⟩) (importReviews ⟨legacy, size', secret'⟩) := by
  refine (agree_lift _).bind fun docs => agree_get.bind fun ids => (agree_lift _).bind fun reviews => ?_
  refine (agree_insert size size' reviewLayout_wellShaped (.refl _ _)).bind fun reviewIds => ?_
  exact (agree_registerAll _ _).bind fun _ => agree_pure _

theorem agree_importHistories :
    Agree now now' (importHistories ⟨legacy, size, secret⟩)
      (importHistories ⟨legacy, size', secret'⟩) := by
  refine (agree_lift _).bind fun docs => agree_get.bind fun ids => (agree_lift _).bind fun history => ?_
  refine (agree_copy size size' upvoteLayout_wellShaped _).bind fun upvotes => ?_
  refine (agree_copy size size' shortlistLayout_wellShaped _).bind fun shortlist => ?_
  exact (agree_copy size size' takenLayout_wellShaped _).bind fun taken => agree_pure _

theorem agree_importSchedules :
    Agree now now' (importSchedules ⟨legacy, size, secret⟩)
      (importSchedules ⟨legacy, size', secret'⟩) := by
  refine (agree_lift _).bind fun items => agree_get.bind fun ids => (agree_lift _).bind fun rows => ?_
  exact (agree_copy size size' scheduleLayout_wellShaped _).bind fun count => agree_pure _

/-- **Every stage** does the same, whatever the size of the batches and the secrets. -/
theorem agree_work (now now' : Time.Instant) (kind : StageKind) :
    Agree now now' (kind.work ⟨legacy, size, secret⟩) (kind.work ⟨legacy, size', secret'⟩) := by
  cases kind with
  | courses => exact agree_importCourses size size' legacy secret secret'
  | requisites => exact agree_importRequisites size size' legacy secret secret'
  | profRenames => exact agree_importRenames size size' legacy secret secret'
  | profs => exact agree_importProfs size size' legacy secret secret'
  | sections => exact agree_importSections size size' legacy secret secret'
  | users => exact agree_importUsers size size' legacy secret secret'
  | reviews => exact agree_importReviews size size' legacy secret secret'
  | histories => exact agree_importHistories size size' legacy secret secret'
  | schedules => exact agree_importSchedules size size' legacy secret secret'

/-! ## Runs -/

/-- Tasks that agree do so in transactions of their own, too. -/
theorem Agree.transact {task task' : Work α} (h : Agree now now' task task')
    (mode : Warehouse.Mode) (ids : IdMap) {w w' : State} (hw : w.Alike w') :
    ∃ result ids' after after',
      (Memory.warehouse now).transact mode task ids w = (result, ids', after) ∧
      (Memory.warehouse now').transact mode task' ids w' = (result, ids', after') ∧
      after.Alike after' := by
  obtain ⟨result, ids', tx, tx', hperform, hperform', halike⟩ :=
    h ids (Memory.begin w) (Memory.begin w') ⟨hw, rfl⟩
  rw [Memory.transact_eq, Memory.transact_eq, hperform, hperform']
  cases result with
  | error cause => exact ⟨.error cause, ids', w, w', rfl, rfl, hw⟩
  | ok value =>
    have hfollows := (Memory.follows_begin w).hold now (task ids)
    have hfollows' := (Memory.follows_begin w').hold now' (task' ids)
    rw [show Memory.hold now (task ids) (Memory.begin w) = _ from hperform] at hfollows
    rw [show Memory.hold now' (task' ids) (Memory.begin w') = _ from hperform'] at hfollows'
    exact ⟨.ok value, ids', _, _, rfl, rfl, halike.publish hw hfollows hfollows'⟩

theorem runFrom_alike (now now' : Time.Instant) (kinds : List StageKind) (ids : IdMap)
    {w w' : State} (hw : w.Alike w') :
    ∃ result after after',
      runFrom (Memory.warehouse now) ids w
        (kinds.map (StageKind.stage ⟨legacy, size, secret⟩)) = (result, after) ∧
      runFrom (Memory.warehouse now') ids w'
        (kinds.map (StageKind.stage ⟨legacy, size', secret'⟩)) = (result, after') ∧
      after.Alike after' := by
  induction kinds generalizing ids w w' with
  | nil => exact ⟨.ok [], w, w', rfl, rfl, hw⟩
  | cons kind rest ih =>
    obtain ⟨result, ids', middle, middle', hstage, hstage', hmiddle⟩ :=
      (agree_work size size' legacy secret secret' now now' kind).transact .readWrite ids hw
    simp only [List.map_cons, runFrom, StageKind.stage, hstage, hstage']
    cases result with
    | error cause => exact ⟨.error cause, middle, middle', rfl, rfl, hmiddle⟩
    | ok report =>
      obtain ⟨result, after, after', hrest, hrest', hafter⟩ := ih ids' hmiddle
      simp only [hrest, hrest']
      cases result with
      | error cause => exact ⟨.error cause, after, after', rfl, rfl, hafter⟩
      | ok reports => exact ⟨.ok (report :: reports), after, after', rfl, rfl, hafter⟩

end

/-- **The size of the batches does not matter**, and neither do secrets and clocks: two runs of the
same stages over the same legacy data and from the same state have the same failure or the same
reports, and leave the same tables with the same ids, but for the secrets of users. -/
theorem run_alike (now now' : Time.Instant) (legacy : Legacy.Store) (size size' : Nat)
    (secret secret' : Nat → String) (kinds : List StageKind) (start : State) :
    let outcome := run (Memory.warehouse now) (kinds.map (StageKind.stage ⟨legacy, size, secret⟩)) start
    let outcome' :=
      run (Memory.warehouse now') (kinds.map (StageKind.stage ⟨legacy, size', secret'⟩)) start
    outcome.1 = outcome'.1 ∧ outcome.1.map rowsWritten = outcome'.1.map rowsWritten ∧
      outcome.2.Alike outcome'.2 := by
  obtain ⟨result, after, after', hrun, hrun', hafter⟩ :=
    runFrom_alike size size' legacy secret secret' now now' kinds {} (.refl start)
  simp only [run, hrun, hrun']
  exact ⟨trivial, trivial, hafter⟩

end Registrar.Import
