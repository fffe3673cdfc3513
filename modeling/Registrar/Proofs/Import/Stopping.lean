import Mathlib.Data.List.Perm.Basic
import Registrar.Proofs.Import.Agreement
import Registrar.Proofs.Warehouse.Embedding
/-!
# Runs that stop

A run either `Passes` all of its stages or stops at the first one that fails, and nothing later is
begun (`passes_or_stops`, `runFrom_of_stop`). Over a warehouse in memory the stage that fails leaves
no trace: a run that stops leaves what the stages before it leave on their own, and its failure is
that of the stage (`stopped_of_run`).
-/
namespace Registrar.Warehouse

variable {ω τ σ α : Type} (warehouse : Warehouse ω τ)

/-- The warehouse that counts the transactions that are begun. -/
def counting : Warehouse (Nat × ω) τ where
  begin mode w :=
    let (tx, after) := warehouse.begin mode w.2
    (tx, w.1 + 1, after)
  answer request tx w :=
    let (reply, tx, after) := warehouse.answer request tx w.2
    (reply, tx, w.1, after)
  commit tx w :=
    let (result, after) := warehouse.commit tx w.2
    (result, w.1, after)
  rollback tx w :=
    let (result, after) := warehouse.rollback tx w.2
    (result, w.1, after)

theorem embeds_counting (n : Nat) :
    Embeds warehouse warehouse.counting (fun w => (n, w)) (fun w => (n + 1, w)) where
  begin _ _ := rfl
  answer _ _ _ := rfl
  commit _ _ := rfl
  rollback _ _ := rfl

/-- Counting changes nothing, and every task is one transaction. -/
theorem transact_counting (mode : Mode) (task : Task σ α) (state : σ) (n : Nat) (w : ω) :
    warehouse.counting.transact mode task state (n, w) =
      let (result, state, after) := warehouse.transact mode task state w
      (result, state, n + 1, after) :=
  (warehouse.embeds_counting n).transact mode task state w

end Registrar.Warehouse

namespace Registrar.Import

open Memory (State perform)

/-! ## Stages that succeed -/

/-- Some stages succeed one after another from a map and a state; they report, and leave a map and a
state. -/
inductive Passes {ω τ : Type} (warehouse : Warehouse ω τ) :
    IdMap → ω → List Stage → List Report → IdMap → ω → Prop
  | nil (ids : IdMap) (w : ω) : Passes warehouse ids w [] [] ids w
  | cons {ids ids' last : IdMap} {w w' after : ω} {stage : Stage} {stages : List Stage}
      {report : Report} {reports : List Report}
      (hstage : warehouse.transact .readWrite stage.work ids w = (.ok report, ids', w'))
      (hrest : Passes warehouse ids' w' stages reports last after) :
      Passes warehouse ids w (stage :: stages) (report :: reports) last after

variable {ω τ : Type} {warehouse : Warehouse ω τ} {ids ids' : IdMap} {w after : ω}
  {stages : List Stage} {reports : List Report}

namespace Passes

/-- What a run does once it has passed some stages. -/
theorem runFrom_append (h : Passes warehouse ids w stages reports ids' after) (rest : List Stage) :
    runFrom warehouse ids w (stages ++ rest) =
      match runFrom warehouse ids' after rest with
      | (.ok more, w) => (.ok (reports ++ more), w)
      | (.error cause, w) => (.error cause, w) := by
  induction h with
  | nil ids w =>
    rcases hrest : runFrom warehouse ids w rest with ⟨cause | more, w⟩ <;> simp [hrest]
  | @cons ids ids' last w w' after stage stages report reports hstage hrest ih =>
    simp only [List.cons_append, runFrom, hstage, ih]
    rcases runFrom warehouse last after rest with ⟨cause | more, w⟩ <;> rfl

theorem runFrom_eq (h : Passes warehouse ids w stages reports ids' after) :
    runFrom warehouse ids w stages = (.ok reports, after) := by
  have hall := h.runFrom_append []
  simpa [runFrom] using hall

/-- Every stage is one transaction. -/
theorem counting (h : Passes warehouse ids w stages reports ids' after) (n : Nat) :
    Passes warehouse.counting ids (n, w) stages reports ids' (n + stages.length, after) := by
  induction h generalizing n with
  | nil ids w => exact .nil ids (n, w)
  | @cons ids ids' last w w' after stage stages report reports hstage hrest ih =>
    have hplace : n + (stage :: stages).length = n + 1 + stages.length := by
      rw [List.length_cons]
      omega
    rw [hplace]
    refine .cons ?_ (ih (n + 1))
    rw [Warehouse.transact_counting, hstage]

end Passes

/-! ## The stage that fails -/

/-- A run passes all stages, or some stage fails where those before it have left off. -/
theorem passes_or_stops (warehouse : Warehouse ω τ) (stages : List Stage) (ids : IdMap) (w : ω) :
    (∃ reports ids' after, Passes warehouse ids w stages reports ids' after) ∨
    ∃ place stage reports ids' middle cause ids'' after, stages[place]? = some stage ∧
      Passes warehouse ids w (stages.take place) reports ids' middle ∧
      warehouse.transact .readWrite stage.work ids' middle = (.error cause, ids'', after) := by
  induction stages generalizing ids w with
  | nil => exact Or.inl ⟨[], ids, w, .nil ids w⟩
  | cons stage rest ih =>
    rcases hstage : warehouse.transact .readWrite stage.work ids w with ⟨cause | report, ids', w'⟩
    · exact Or.inr ⟨0, stage, [], ids, w, cause, ids', w', rfl, .nil ids w, hstage⟩
    · rcases ih ids' w' with ⟨reports, last, after, hrest⟩ |
        ⟨place, failing, reports, last, middle, cause, ids'', after, hplace, hrest, hfail⟩
      · exact Or.inl ⟨report :: reports, last, after, .cons hstage hrest⟩
      · exact Or.inr ⟨place + 1, failing, report :: reports, last, middle, cause, ids'', after,
          hplace, .cons hstage hrest, hfail⟩

/-- A stage that fails ends the run, whatever stages follow. -/
theorem runFrom_of_stop {place : Nat} {stage : Stage} {middle : ω} {cause : Failure} {ids'' : IdMap}
    (hplace : stages[place]? = some stage)
    (hpasses : Passes warehouse ids w (stages.take place) reports ids' middle)
    (hfail : warehouse.transact .readWrite stage.work ids' middle = (.error cause, ids'', after)) :
    runFrom warehouse ids w stages = (.error cause, after) := by
  obtain ⟨hlt, hstage⟩ := List.getElem?_eq_some_iff.1 hplace
  have hsplit : stages = stages.take place ++ stage :: stages.drop (place + 1) := by
    rw [← hstage, ← List.drop_eq_getElem_cons hlt, List.take_append_drop]
  rw [hsplit, hpasses.runFrom_append]
  simp only [runFrom, hfail]

/-! ## Runs over a warehouse in memory -/

/-- The stages before some place of a canonical selection are a canonical selection. -/
theorem selectStages_take (selected : Option (List StageKind)) (place : Nat) :
    selectStages (some ((selectStages selected).take place)) = (selectStages selected).take place := by
  have hnodup : StageKind.all.Nodup := by decide
  have hsub : ((selectStages selected).take place).Sublist StageKind.all := by
    refine (List.take_sublist place _).trans ?_
    cases selected with
    | none => exact .refl _
    | some kinds => exact List.filter_sublist
  rw [selectStages, ← List.Nodup.perm_iff_eq_of_sublist hnodup List.filter_sublist hsub,
    List.perm_ext_iff_of_nodup (hnodup.filter _) (hsub.nodup hnodup)]
  intro kind
  simpa using fun hkind => hsub.subset hkind

/-- The run stopped at a stage: those before it succeed on their own and leave the same state, and
what it did itself failed. -/
structure Stopped (now : Time.Instant) (sources : Sources) (kinds : List StageKind) (start : State)
    (place : Nat) (cause : Failure) (after : State) : Prop where
  /-- What the stage did from the map and the state that those before it left, failed, and this is
  the failure of the run. -/
  own : ∃ kind reports ids, kinds[place]? = some kind ∧
    Passes (Memory.warehouse now) {} start ((kinds.take place).map (StageKind.stage sources)) reports
      ids after ∧
    (perform now (kind.work sources) ids (Memory.begin after)).1 = .error cause
  /-- A run of the stages before succeeds and leaves the same state. -/
  before : ∃ reports, run (Memory.warehouse now) ((kinds.take place).map (StageKind.stage sources))
    start = (.ok reports, after)
  /-- So does such a run at another time and with other secrets, but for the secrets. -/
  again : ∀ now' secret', ∃ reports after', run (Memory.warehouse now')
      ((kinds.take place).map (StageKind.stage { sources with secret := secret' })) start =
        (.ok reports, after') ∧ after.Alike after'
  /-- No transaction was begun after that of the stage. -/
  last : (run (Memory.warehouse now).counting (kinds.map (StageKind.stage sources)) (0, start)).2.1 =
    place + 1

/-- A stage that fails leaves the state as it found it. -/
theorem failed_of_transact {now : Time.Instant} {kind : StageKind} {sources : Sources}
    {ids ids' : IdMap} {w after : State} {cause : Failure}
    (h : (Memory.warehouse now).transact .readWrite (kind.work sources) ids w =
      (.error cause, ids', after)) :
    (perform now (kind.work sources) ids (Memory.begin w)).1 = .error cause ∧ after = w := by
  rw [Memory.transact_eq] at h
  rcases hperform : perform now (kind.work sources) ids (Memory.begin w) with
    ⟨cause' | report, ids'', tx⟩
  · rw [hperform] at h
    cases h
    exact ⟨rfl, rfl⟩
  · rw [hperform] at h
    cases h

theorem exists_stopped (now : Time.Instant) (sources : Sources) (kinds : List StageKind)
    {start after : State} {cause : Failure}
    (h : run (Memory.warehouse now) (kinds.map (StageKind.stage sources)) start =
      (.error cause, after)) :
    ∃ place, Stopped now sources kinds start place cause after := by
  rcases passes_or_stops (Memory.warehouse now) (kinds.map (StageKind.stage sources)) {} start with
    ⟨reports, ids, middle, hpasses⟩ |
    ⟨place, stage, reports, ids, middle, cause', ids', after', hplace, hpasses, hfail⟩
  · cases h.symm.trans hpasses.runFrom_eq
  · cases h.symm.trans (runFrom_of_stop hplace hpasses hfail)
    have hcounted : runFrom (Memory.warehouse now).counting {} (0, start)
        (kinds.map (StageKind.stage sources)) = (.error cause, place + 1, after) := by
      have hlength : ((kinds.map (StageKind.stage sources)).take place).length = place :=
        List.length_take_of_le (Nat.le_of_lt (List.getElem?_eq_some_iff.1 hplace).1)
      have hcounting := hpasses.counting 0
      rw [hlength, Nat.zero_add] at hcounting
      have hstop : (Memory.warehouse now).counting.transact .readWrite stage.work ids
          (place, middle) = (.error cause, ids', place + 1, after) := by
        rw [Warehouse.transact_counting, hfail]
      exact runFrom_of_stop hplace hcounting hstop
    obtain ⟨kind, hkind, rfl⟩ : ∃ kind, kinds[place]? = some kind ∧ kind.stage sources = stage := by
      simpa using hplace
    obtain ⟨hown, rfl⟩ := failed_of_transact hfail
    rw [← List.map_take] at hpasses
    have hbefore := hpasses.runFrom_eq
    refine ⟨place, ⟨kind, reports, ids, hkind, hpasses, hown⟩, ⟨reports, hbefore⟩, ?_,
      congrArg (fun outcome => outcome.2.1) hcounted⟩
    intro now' secret'
    obtain ⟨result, last, last', hrun, hrun', halike⟩ := runFrom_alike sources.batchSize
      sources.batchSize sources.legacy sources.secret secret' now now' (kinds.take place) {}
      (.refl start)
    cases hbefore.symm.trans hrun
    exact ⟨reports, last', hrun', halike⟩

/-- **A run that fails is a shorter run that succeeds**: it stops at one of the selected stages, with
a failure of that stage's own and without beginning a later one, and leaves what a run of the stages
before it leaves, which succeeds. -/
theorem stopped_of_run {now : Time.Instant} {sources : Sources} {selected : Option (List StageKind)}
    {start after : State} {cause : Failure}
    (h : run (Memory.warehouse now) ((selectStages selected).map (StageKind.stage sources)) start =
      (.error cause, after)) :
    ∃ place, Stopped now sources (selectStages selected) start place cause after ∧
      selectStages (some ((selectStages selected).take place)) =
        (selectStages selected).take place := by
  obtain ⟨place, hstopped⟩ := exists_stopped now sources (selectStages selected) h
  exact ⟨place, hstopped, selectStages_take selected place⟩

/-- A user with the account of another site, and a course. -/
def oneAccount : Sources where
  legacy := Legacy.Store.ofData
    [("course", [.object [("_id", .text "cs135")]]),
      ("user", [.object [("_id", .text "ada"), ("fbid", .text "1815")]])] []
  batchSize := 1
  secret _ := "code"

/-- A warehouse that refuses accounts of other sites, after it has taken their users. -/
theorem stopped_of_run_of_oneAccount :
    let start : State := { failing := ["secret.user_fb"] }
    let outcome := run (Memory.warehouse ⟨0, 0⟩)
      ((selectStages (some [.schedules, .users, .courses])).map (StageKind.stage oneAccount)) start
    let kinds := [StageKind.courses, .users, .schedules]
    outcome.1 = .error (.warehouse "write to secret.user_fb rejected") ∧
      (outcome.2.table "course").rows.length = 1 ∧ (outcome.2.table "user").rows = [] ∧
      ∃ place, Stopped ⟨0, 0⟩ oneAccount kinds start place
        (.warehouse "write to secret.user_fb rejected") outcome.2 := by
  intro start outcome kinds
  have hfail : outcome.1 = .error (.warehouse "write to secret.user_fb rejected") := by
    decide +kernel
  obtain ⟨place, hstopped, -⟩ := stopped_of_run (Prod.ext hfail rfl : outcome = (_, outcome.2))
  exact ⟨hfail, by decide +kernel, by decide +kernel, place, hstopped⟩

end Registrar.Import
