import Registrar.Proofs.Import.Checking
import Registrar.Proofs.Import.Stages
import Registrar.Proofs.Postgres.Naming
/-!
# What the stages ask

Whatever a warehouse answers, the requests of the stages are about the tables and columns of their
layouts, and these have valid names. Nothing else that a stage does can fail over the settings, as
long as the legacy store does not (`asks_work`).
-/
namespace Registrar

open Sql.Identifier (Valid)
open Warehouse (Request)

/-! ## Failures that are not over the settings -/

/-- The failure is over the settings. -/
def Failure.isSettings : Failure → Bool
  | .settings _ => true
  | _ => false

/-- The computation does not fail over the settings. -/
def Candid {α : Type} (x : Except Failure α) : Prop :=
  ∀ cause, x = .error cause → cause.isSettings = false

namespace Candid

variable {α β : Type}

theorem ok (value : α) : Candid (.ok value) := nofun

theorem error {cause : Failure} (h : cause.isSettings = false) :
    Candid (.error cause : Except Failure α) := by
  rintro _ ⟨⟩
  exact h

theorem bind {x : Except Failure α} {f : α → Except Failure β} (h : Candid x)
    (hf : ∀ value, Candid (f value)) : Candid (x >>= f) := by
  cases x with
  | error cause => exact error (h cause rfl)
  | ok value => exact hf value

theorem mapM {f : α → Except Failure β} (hf : ∀ item, Candid (f item)) (items : List α) :
    Candid (items.mapM f) := by
  induction items with
  | nil => exact ok []
  | cons item rest ih =>
    rw [List.mapM_cons]
    exact (hf item).bind fun value => ih.bind fun values => ok (value :: values)

end Candid

/-! ## Legacy stores -/

namespace Legacy

/-- What a store cannot give is not missing over the settings. -/
structure Store.Candid (store : Store) : Prop where
  documents : ∀ collection, Registrar.Candid (store.documents collection)
  records : ∀ name, Registrar.Candid (store.records name)

theorem candid_readLines (collection : String) (line : Nat) (texts : List (List Char)) :
    Candid (Store.readLines collection line texts) := by
  induction texts generalizing line with
  | nil => exact .ok []
  | cons text rest ih =>
    simp only [Store.readLines]
    split
    · exact ih _
    · split
      · exact .error rfl
      · exact (ih _).bind fun documents => .ok _

theorem candid_ofDirectory (disk : Disk) (directory : String) :
    (Store.ofDirectory disk directory).Candid := by
  have hfile : ∀ collection file, Candid (Store.readFile disk directory collection file) := by
    intro collection file
    simp only [Store.readFile]
    split
    · exact .ok _
    · exact .error rfl
  refine ⟨fun collection => (hfile _ _).bind fun text => candid_readLines _ _ _,
    fun name => (hfile _ _).bind fun text => ?_⟩
  simp only [Csv.read]
  split
  · exact .ok _
  · exact .error rfl

theorem candid_load {α : Type} {store : Store} (h : store.Candid) (collection : String)
    (decode : Json.Decoder α) : Candid (load store collection decode) := by
  refine (h.documents collection).bind fun documents => ?_
  suffices hfrom : ∀ index, Candid (decodeFrom collection decode index documents) from hfrom 0
  induction documents with
  | nil => exact fun index => .ok []
  | cons document rest ih =>
    intro index
    simp only [decodeFrom]
    split
    · exact .error rfl
    · exact (ih _).bind fun values => .ok _

end Legacy

/-! ## Programs by what they ask -/

section

variable {σ α β : Type} {P : Request → Prop}

/-- Whatever the answers are, every request of the program has the property, and of itself the
program does not fail over the settings. -/
inductive Program.Asks (P : Request → Prop) : Program σ α → Prop
  | done (value : α) (state : σ) : Asks P (.done value state)
  | fail {cause : Failure} (h : cause.isSettings = false) (state : σ) : Asks P (.fail cause state)
  | ask {request : Request} {state : σ} {next : request.Reply → Program σ α} (h : P request)
      (hnext : ∀ reply, Asks P (next reply)) : Asks P (.ask request state next)

theorem Program.Asks.bind {p : Program σ α} {f : α → σ → Program σ β} (h : p.Asks P)
    (hf : ∀ value state, (f value state).Asks P) : (p.bind f).Asks P := by
  induction h with
  | done value state => exact hf value state
  | fail h state => exact .fail h state
  | ask h hnext ih => exact .ask h ih

theorem Program.Asks.mono {Q : Request → Prop} {p : Program σ α} (h : p.Asks P)
    (himp : ∀ request, P request → Q request) : p.Asks Q := by
  induction h with
  | done value state => exact .done value state
  | fail h state => exact .fail h state
  | ask h hnext ih => exact .ask (himp _ h) ih

/-- The task asks for nothing else, in whichever state it begins. -/
def Task.Asks (P : Request → Prop) (task : Task σ α) : Prop := ∀ state, (task state).Asks P

namespace Task.Asks

theorem pure (value : α) : Task.Asks P (Pure.pure value : Task σ α) := fun state =>
  .done value state

theorem bind {task : Task σ α} {f : α → Task σ β} (h : task.Asks P)
    (hf : ∀ value, (f value).Asks P) : (task >>= f).Asks P := fun state =>
  (h state).bind fun value state => hf value state

theorem ask {request : Request} (h : P request) : Task.Asks P (Task.ask request : Task σ _) :=
  fun state => .ask h fun reply => .done reply state

theorem get : Task.Asks P (Task.get : Task σ σ) := fun state => .done state state

theorem set (next : σ) : Task.Asks P (Task.set next : Task σ Unit) := fun _ => .done () next

theorem lift {result : Except Failure α} (h : Candid result) :
    Task.Asks P (Task.lift result : Task σ α) := by
  cases result with
  | error cause => exact fun state => .fail (h cause rfl) state
  | ok value => exact pure value

theorem change {f : σ → Except Failure σ} (h : ∀ state, Candid (f state)) :
    Task.Asks P (Task.change f) := by
  intro state
  have hstate := h state
  unfold Task.change
  cases hf : f state with
  | error cause => exact .fail (hstate cause hf) state
  | ok next => exact .done () next

end Task.Asks

end

namespace Import

/-! ## What stages are made of -/

/-- Every name in the statement of the request is valid, the schema aside. -/
def NamesValid (request : Request) : Prop := ∀ name ∈ request.names, Valid name

instance : DecidablePred NamesValid := fun request =>
  inferInstanceAs (Decidable (∀ name ∈ request.names, Valid name))

section

variable {α ρ : Type} {layout : Sql.Layout ρ} {ids : IdMap}

theorem mem_chunks {size : Nat} {records : List ρ} {rows : Sql.Rows}
    (h : rows ∈ (layout.toRows records).chunks size) :
    rows.table = layout.table ∧ rows.columns = layout.columns := by
  obtain ⟨batch, -, rfl⟩ := List.mem_map.1 h
  exact ⟨rfl, rfl⟩

theorem namesValid_of_mem_chunks (hnames : ∀ name ∈ layout.names, Valid name) {size : Nat}
    {records : List ρ} {rows : Sql.Rows} (h : rows ∈ (layout.toRows records).chunks size) :
    NamesValid (.insert rows) ∧ NamesValid (.copy rows) := by
  obtain ⟨htable, hcolumns⟩ := mem_chunks h
  simp only [NamesValid, Request.names, htable, hcolumns]
  exact ⟨hnames, hnames⟩

theorem asks_insert (hshape : layout.WellShaped) (hnames : ∀ name ∈ layout.names, Valid name)
    (size : Nat) (records : List ρ) :
    Task.Asks NamesValid (Work.insert size layout records) := by
  have hall : ∀ batches, (∀ rows ∈ batches, NamesValid (.insert rows)) →
      Task.Asks NamesValid (Work.insertAll batches) := by
    intro batches
    induction batches with
    | nil => exact fun _ => .pure []
    | cons rows rest ih =>
      exact fun h => (Task.Asks.ask (h rows List.mem_cons_self)).bind fun ids =>
        (ih fun other hother => h other (List.mem_cons_of_mem _ hother)).bind fun more => .pure _
  rw [Work.insert, Sql.Layout.rowsOf_eq hshape]
  exact hall _ fun rows hrows => (namesValid_of_mem_chunks hnames hrows).1

theorem asks_copy (hshape : layout.WellShaped) (hnames : ∀ name ∈ layout.names, Valid name)
    (size : Nat) (records : List ρ) :
    Task.Asks NamesValid (Work.copy size layout records) := by
  have hall : ∀ batches, (∀ rows ∈ batches, NamesValid (.copy rows)) →
      Task.Asks NamesValid (Work.copyAll batches) := by
    intro batches
    induction batches with
    | nil => exact fun _ => .pure 0
    | cons rows rest ih =>
      exact fun h => (Task.Asks.ask (h rows List.mem_cons_self)).bind fun count =>
        (ih fun other hother => h other (List.mem_cons_of_mem _ hother)).bind fun more => .pure _
  rw [Work.copy, Sql.Layout.rowsOf_eq hshape]
  exact hall _ fun rows hrows => (namesValid_of_mem_chunks hnames hrows).2

theorem asks_register (entity : Entity) (id : LegacyId) (row : Int) :
    Task.Asks NamesValid (Work.register entity id row) := by
  refine .change fun ids => ?_
  unfold IdMap.put
  split
  · exact .error rfl
  · exact .ok _

theorem asks_registerAll (entity : Entity) (pairs : List (LegacyId × Int)) :
    Task.Asks NamesValid (Work.registerAll entity pairs) := by
  induction pairs with
  | nil => exact .pure ()
  | cons pair rest ih => exact (asks_register entity pair.1 pair.2).bind fun _ => ih

theorem asks_claimGroups (groups : List (ProfGroup × Int)) :
    Task.Asks NamesValid (claimGroups groups) := by
  have hall : ∀ row names, Task.Asks NamesValid (claimAll row names) := by
    intro row names
    induction names with
    | nil => exact .pure ()
    | cons name rest ih =>
      refine Task.Asks.get.bind fun ids => ?_
      split
      · exact (asks_register _ _ _).bind fun _ => ih
      · exact (Task.Asks.pure ()).bind fun _ => ih
  induction groups with
  | nil => exact .pure ()
  | cons group rest ih => exact (hall group.2 group.1.legacyIds).bind fun _ => ih

/-- No check of a document fails over the settings. -/
theorem Checked.candid {checks : List Check} {result : Except Failure α}
    (h : Checked ids checks result) : Candid result := by
  induction h with
  | done value => exact .ok value
  | pass h rest ih => exact ih
  | @fail check _ h => exact .error (by cases check <;> rfl)

theorem candid_readRenames (index : Nat) (before : List Rename) (records : List (List String)) :
    Candid (readRenames index before records) := by
  induction records generalizing index before with
  | nil => exact .ok before
  | cons record rest ih =>
    simp only [readRenames]
    split
    · exact .error rfl
    · exact ih _ _
    · exact ih _ _

end

/-! ## The stages -/

/-- **A stage asks for nothing but what has valid names**, whatever the documents are and whatever
is answered, and of itself it does not fail over the settings. -/
theorem asks_work (kind : StageKind) {sources : Sources} (h : sources.legacy.Candid) :
    Task.Asks NamesValid (kind.work sources) := by
  have hload : ∀ {δ : Type} (collection : String) (decode : Json.Decoder δ),
      Task.Asks NamesValid
        (Task.lift (Legacy.load sources.legacy collection decode) : Work (List δ)) :=
    fun collection decode => .lift (Legacy.candid_load h collection decode)
  cases kind with
  | courses =>
    exact (hload _ _).bind fun courses =>
      (asks_insert courseLayout_wellShaped (by decide) _ _).bind fun rows =>
        (asks_registerAll _ _).bind fun _ => .pure _
  | requisites =>
    refine (hload _ _).bind fun courses => Task.Asks.get.bind fun ids =>
      (Task.Asks.lift (checked_requisites courses _).candid).bind fun edges => ?_
    exact (asks_copy prerequisiteLayout_wellShaped (by decide) _ _).bind fun _ =>
      (asks_copy antirequisiteLayout_wellShaped (by decide) _ _).bind fun _ => .pure _
  | profRenames =>
    refine (Task.Asks.lift (h.records renameFile)).bind fun records =>
      (Task.Asks.lift (candid_readRenames 0 [] records)).bind fun renames => ?_
    exact (asks_copy renameLayout_wellShaped (by decide) _ _).bind fun _ =>
      Task.Asks.get.bind fun ids => (Task.Asks.set _).bind fun _ => .pure _
  | profs =>
    refine (hload _ _).bind fun profs => Task.Asks.get.bind fun ids => ?_
    exact (asks_insert profLayout_wellShaped (by decide) _ _).bind fun rows =>
      (asks_claimGroups _).bind fun _ => .pure _
  | sections =>
    refine (hload _ _).bind fun sections =>
      (Task.Asks.ask (by decide)).bind fun terms => Task.Asks.get.bind fun ids =>
        (Task.Asks.lift (checked_sections sections).candid).bind fun records => ?_
    exact (asks_insert sectionLayout_wellShaped (by decide) _ _).bind fun rows =>
      (asks_registerAll _ _).bind fun _ =>
        (asks_copy meetingLayout_wellShaped (by decide) _ _).bind fun _ => .pure _
  | users =>
    refine (hload _ _).bind fun users => ?_
    exact (asks_insert userLayout_wellShaped (by decide) _ _).bind fun rows =>
      (asks_registerAll _ _).bind fun _ =>
        (asks_copy passwordLayout_wellShaped (by decide) _ _).bind fun _ =>
          (asks_copy facebookLayout_wellShaped (by decide) _ _).bind fun _ => .pure _
  | reviews =>
    refine (hload _ _).bind fun docs => Task.Asks.get.bind fun ids =>
      (Task.Asks.lift (checked_reviews docs []).candid).bind fun reviews => ?_
    exact (asks_insert reviewLayout_wellShaped (by decide) _ _).bind fun rows =>
      (asks_registerAll _ _).bind fun _ => .pure _
  | histories =>
    refine (hload _ _).bind fun docs => Task.Asks.get.bind fun ids =>
      (Task.Asks.lift (checked_histories docs {}).candid).bind fun history => ?_
    exact (asks_copy upvoteLayout_wellShaped (by decide) _ _).bind fun _ =>
      (asks_copy shortlistLayout_wellShaped (by decide) _ _).bind fun _ =>
        (asks_copy takenLayout_wellShaped (by decide) _ _).bind fun _ => .pure _
  | schedules =>
    refine (hload _ _).bind fun items => Task.Asks.get.bind fun ids =>
      (Task.Asks.lift (checked_schedule items []).candid).bind fun rows => ?_
    exact (asks_copy scheduleLayout_wellShaped (by decide) _ _).bind fun _ => .pure _

end Import

end Registrar
