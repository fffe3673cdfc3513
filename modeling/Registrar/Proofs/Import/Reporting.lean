import Mathlib.Algebra.BigOperators.Ring.Finset
import Registrar.Proofs.Import.Stopping
import Registrar.Proofs.Import.Uniqueness
/-!
# Reports tell what was written

A report is `Counted` if the tables that it lists have grown, one after another, by as many rows as
it says, and no other table has changed. Every stage that succeeds reports so (`accounts_work`), the
stages of a run write to different tables (`nodup_tables_selectStages`), and therefore the reports
put together are counted too. All that is said of a run follows from that, and from the order in
which it passes its stages.

Main statement: `truthful_run`.
-/
namespace Registrar.Import

open Memory (State Table Tables Transaction Yields Entry)

/-! ## Counts -/

/-- The names of the tables that a report lists. -/
def Report.names (report : Report) : List String := report.tables.map TableCount.table

/-- Rows were added to some tables, one table after another, as many as the counts say. -/
inductive Counted : Tables → List TableCount → Tables → Prop
  | nil (tables : Tables) : Counted tables [] tables
  | cons {tables after : Tables} {counts : List TableCount} (name : String) (entries : List Entry)
      (hrest : Counted (tables.add name entries) counts after) :
      Counted tables (⟨name, entries.length⟩ :: counts) after

namespace Counted

variable {tables middle after : Tables} {counts more : List TableCount}

theorem append (h : Counted tables counts middle) (h' : Counted middle more after) :
    Counted tables (counts ++ more) after := by
  induction h with
  | nil => exact h'
  | cons name entries hrest ih => exact .cons name entries (ih h')

/-- A table that is not listed has not changed. -/
theorem untouched (h : Counted tables counts after) {name : String}
    (hname : name ∉ counts.map TableCount.table) : after name = tables name := by
  induction h with
  | nil => rfl
  | cons other entries hrest ih =>
    obtain ⟨hne, hother⟩ := not_or.1 (mt List.mem_cons.2 hname)
    rw [ih hother, Tables.add, if_neg hne]

/-- A table that is listed once has as many rows more as the count says. -/
theorem rows (h : Counted tables counts after) (hnodup : (counts.map TableCount.table).Nodup)
    {count : TableCount} (hmem : count ∈ counts) :
    ∃ new, (after count.table).rows = (tables count.table).rows ++ new ∧
      new.length = count.rows := by
  induction h with
  | nil => cases hmem
  | @cons tables after counts name entries hrest ih =>
    obtain ⟨hnew, hnodup⟩ := List.nodup_cons.1 hnodup
    rcases List.mem_cons.1 hmem with rfl | hmem
    · refine ⟨Memory.numbered (tables name).lastId entries, ?_, Memory.length_numbered _ _⟩
      rw [hrest.untouched hnew, Tables.add, if_pos rfl]
      rfl
    · obtain ⟨new, hrows, hlength⟩ := ih hnodup hmem
      have hne : count.table ≠ name := fun heq => hnew (List.mem_map.2 ⟨count, hmem, heq⟩)
      rw [Tables.add, if_neg hne] at hrows
      exact ⟨new, hrows, hlength⟩

/-- Over any tables that hold all those listed, the rows have become more by the sum of the
counts. -/
theorem sum_rows (h : Counted tables counts after) (names : Finset String)
    (hnames : ∀ count ∈ counts, count.table ∈ names) :
    ∑ name ∈ names, (after name).rows.length =
      ∑ name ∈ names, (tables name).rows.length + (counts.map TableCount.rows).sum := by
  induction h with
  | nil => simp
  | @cons tables after counts name entries hrest ih =>
    have hname : name ∈ names := hnames _ List.mem_cons_self
    have hadd : ∑ other ∈ names, (tables.add name entries other).rows.length =
        ∑ other ∈ names, (tables other).rows.length + entries.length := by
      have hlength : ∀ other, (tables.add name entries other).rows.length =
          (tables other).rows.length + if other = name then entries.length else 0 := by
        intro other
        unfold Tables.add
        split <;> simp [Table.extend]
      simp only [hlength, Finset.sum_add_distrib, Finset.sum_ite_eq', hname, if_true]
    rw [ih fun count hcount => hnames count (List.mem_cons_of_mem _ hcount), hadd, List.map_cons,
      List.sum_cons, Nat.add_assoc]

/-- What a transaction stored is counted by the number of the records. -/
theorem store {ρ : Type} (layout : Sql.Layout ρ) {records : List ρ} {tx : Transaction}
    (hrest : Counted (tx.store (layout.toRows records)).work.table counts after) :
    Counted tx.work.table (⟨layout.table, records.length⟩ :: counts) after := by
  rw [Memory.table_store_toRows] at hrest
  have hcount : (layout.entries records).length = records.length := List.length_map _
  exact hcount ▸ .cons layout.table (layout.entries records) hrest

end Counted

/-! ## Stages -/

section

variable {now : Time.Instant} {sources : Sources} {ids ids' : IdMap} {tx tx' : Transaction}
  {report : Report}

/-- The report of a stage of a kind lists the tables of the kind, and counts what was added. -/
structure Report.Accounts (report : Report) (kind : StageKind) (before after : Tables) : Prop where
  stage : report.stage = kind
  names : report.names = kind.tables
  counted : Counted before report.tables after

/-- **Every stage** that succeeds reports what it has written. -/
theorem accounts_work (kind : StageKind)
    (h : Yields now (kind.work sources) ids tx report ids' tx') :
    report.Accounts kind tx.work.table tx'.work.table := by
  cases kind with
  | courses =>
    obtain ⟨courses, -, -, -, rfl, -, rfl⟩ := (yields_importCourses now).1 h
    exact ⟨rfl, rfl, .store courseLayout (.nil _)⟩
  | requisites =>
    obtain ⟨courses, -, edges, -, -, -, rfl, -, rfl⟩ := (yields_importRequisites now).1 h
    exact ⟨rfl, rfl, .store prerequisiteLayout (.store antirequisiteLayout (.nil _))⟩
  | profRenames =>
    obtain ⟨records, -, renames, -, -, rfl, -, rfl⟩ := (yields_importRenames now).1 h
    exact ⟨rfl, rfl, .store Rename.layout (.nil _)⟩
  | profs =>
    obtain ⟨profs, -, -, rfl, -, rfl⟩ := (yields_importProfs now).1 h
    exact ⟨rfl, rfl, .store profLayout (.nil _)⟩
  | sections =>
    obtain ⟨sections, -, rows, -, -, -, -, rfl, -, rfl⟩ := (yields_importSections now).1 h
    exact ⟨rfl, rfl, .store sectionLayout (.store meetingLayout (.nil _))⟩
  | users =>
    obtain ⟨users, -, -, -, -, -, rfl, -, rfl⟩ := (yields_importUsers now).1 h
    refine ⟨rfl, rfl, ?_⟩
    rw [← length_usersWithSecrets sources users]
    exact .store userLayout (.store passwordLayout (.store facebookLayout (.nil _)))
  | reviews =>
    obtain ⟨docs, -, reviews, -, -, -, rfl, -, rfl⟩ := (yields_importReviews now).1 h
    refine ⟨rfl, rfl, ?_⟩
    have hlength : (reviews.map Prod.snd).length = reviews.length := List.length_map _
    rw [← hlength]
    exact .store reviewLayout (.nil _)
  | histories =>
    obtain ⟨docs, -, history, -, -, -, -, rfl, -, rfl⟩ := (yields_importHistories now).1 h
    exact ⟨rfl, rfl, .store upvoteLayout (.store shortlistLayout (.store takenLayout (.nil _)))⟩
  | schedules =>
    obtain ⟨items, -, rows, -, -, rfl, -, rfl⟩ := (yields_importSchedules now).1 h
    exact ⟨rfl, rfl, .store scheduleLayout (.nil _)⟩

/-- A stage that succeeds in a transaction of its own has written what it reports. -/
theorem accounts_transact (kind : StageKind) {w w' : State}
    (h : (Memory.warehouse now).transact .readWrite (kind.stage sources).work ids w =
      (.ok report, ids', w')) :
    report.Accounts kind w.table w'.table := by
  obtain ⟨tx', hyields, htable⟩ := Memory.yields_of_transact now h
  rw [htable]
  exact accounts_work kind hyields

end

/-! ## Runs -/

section

variable {ω τ : Type} {warehouse : Warehouse ω τ} {ids ids' : IdMap} {w after : ω}
  {stages : List Stage} {reports : List Report}

/-- What leads to some place of a run is a run of its own, and the report at the place is that of
the stage there. -/
theorem Passes.of_getElem? (h : Passes warehouse ids w stages reports ids' after) {place : Nat}
    {report : Report} (hplace : reports[place]? = some report) :
    ∃ stage idsBefore idsNext before next, stages[place]? = some stage ∧
      warehouse.transact .readWrite stage.work idsBefore before = (.ok report, idsNext, next) ∧
      Passes warehouse ids w (stages.take place) (reports.take place) idsBefore before ∧
      Passes warehouse ids w (stages.take (place + 1)) (reports.take (place + 1)) idsNext next := by
  induction h generalizing place with
  | nil => cases hplace
  | @cons ids ids' last w w' after stage stages first reports hstage hrest ih =>
    cases place with
    | zero =>
      cases hplace
      exact ⟨stage, ids, ids', w, w', rfl, hstage, .nil ids w, .cons hstage (.nil ids' w')⟩
    | succ place =>
      obtain ⟨other, idsBefore, idsNext, before, next, hother, htransact, hbefore, hnext⟩ :=
        ih hplace
      exact ⟨other, idsBefore, idsNext, before, next, hother, htransact, .cons hstage hbefore,
        .cons hstage hnext⟩

end

section

variable {now : Time.Instant} {sources : Sources} {ids ids' : IdMap} {w after : State}
  {kinds : List StageKind} {reports : List Report}

/-- What the stages of a run report, put together, is what the run has written. -/
theorem accounts_passes
    (h : Passes (Memory.warehouse now) ids w (kinds.map (StageKind.stage sources)) reports ids'
      after) :
    reports.map Report.stage = kinds ∧
      reports.flatMap Report.names = kinds.flatMap StageKind.tables ∧
      Counted w.table (reports.flatMap Report.tables) after.table := by
  induction kinds generalizing ids w reports with
  | nil =>
    cases h
    exact ⟨rfl, rfl, .nil _⟩
  | cons kind rest ih =>
    cases h with
    | cons hstage hrest =>
      obtain ⟨hkind, hnames, hcounted⟩ := accounts_transact kind hstage
      obtain ⟨hkinds, hallNames, hallCounted⟩ := ih hrest
      exact ⟨by rw [List.map_cons, hkind, hkinds],
        by rw [List.flatMap_cons, List.flatMap_cons, hnames, hallNames],
        hcounted.append hallCounted⟩

theorem Report.rows_eq (report : Report) : report.rows = (report.tables.map TableCount.rows).sum :=
  rfl

theorem rowsWritten_eq (reports : List Report) :
    rowsWritten reports = ((reports.flatMap Report.tables).map TableCount.rows).sum := by
  induction reports with
  | nil => rfl
  | cons report rest ih =>
    rw [List.flatMap_cons, List.map_append, List.sum_append, ← ih, ← Report.rows_eq]
    rfl

theorem map_table_flatMap (reports : List Report) :
    (reports.flatMap Report.tables).map TableCount.table = reports.flatMap Report.names :=
  List.map_flatMap

/-- A run of selected stages reported what it did. -/
structure Truthful (now : Time.Instant) (sources : Sources) (selected : Option (List StageKind))
    (start : State) (reports : List Report) (after : State) : Prop where
  /-- The reports are in canonical order, one a stage. -/
  ordered : (reports.map Report.stage).Sublist StageKind.all
  once : (reports.map Report.stage).Nodup
  /-- There is one for each selected stage, or for every stage if none are selected. -/
  chosen : ∀ kind, kind ∈ reports.map Report.stage ↔ ∀ kinds, selected = some kinds → kind ∈ kinds
  /-- Every stage added as many rows to a table that it lists as it says, and changed no other. What
  a stage did is the difference between two shorter runs: without it, and with it as the last. -/
  counted : ∀ place report, reports[place]? = some report → ∃ before next,
    let stages := (selectStages selected).map (StageKind.stage sources)
    run (Memory.warehouse now) (stages.take place) start = (.ok (reports.take place), before) ∧
    run (Memory.warehouse now) (stages.take (place + 1)) start =
      (.ok (reports.take (place + 1)), next) ∧
    (∀ count ∈ report.tables, ∃ new,
      (next.table count.table).rows = (before.table count.table).rows ++ new ∧
        new.length = count.rows) ∧
    ∀ name ∉ report.names, next.table name = before.table name
  /-- No table is listed twice, in one report or in two. -/
  apart : (reports.flatMap Report.names).Nodup
  /-- A table whose rows have changed is listed. -/
  listed : ∀ name, (after.table name).rows ≠ (start.table name).rows →
    ∃! report, report ∈ reports ∧ name ∈ report.names
  /-- Over any tables with all those that have changed, as many rows were added as the reports say
  together. -/
  total : ∀ names : Finset String,
    (∀ name, (after.table name).rows ≠ (start.table name).rows → name ∈ names) →
    ∑ name ∈ names, (after.table name).rows.length =
      ∑ name ∈ names, (start.table name).rows.length + rowsWritten reports

theorem selectStages_sublist (selected : Option (List StageKind)) :
    (selectStages selected).Sublist StageKind.all := by
  cases selected with
  | none => exact .refl _
  | some kinds => exact List.filter_sublist

theorem mem_selectStages {selected : Option (List StageKind)} {kind : StageKind} :
    kind ∈ selectStages selected ↔ ∀ kinds, selected = some kinds → kind ∈ kinds := by
  have hall : kind ∈ StageKind.all := by cases kind <;> decide
  cases selected with
  | none => simpa [selectStages] using hall
  | some kinds => simp [selectStages, hall]

/-- Among the reports of a run, each of other tables, a listed table has one that lists it. -/
theorem existsUnique_report {name : String} (hnodup : (reports.flatMap Report.names).Nodup)
    (hname : name ∈ reports.flatMap Report.names) :
    ∃! report, report ∈ reports ∧ name ∈ report.names := by
  obtain ⟨report, hreport, hlists⟩ := List.mem_flatMap.1 hname
  refine ⟨report, ⟨hreport, hlists⟩, fun other ⟨hother, hlists'⟩ => ?_⟩
  obtain ⟨-, hpairwise⟩ := List.nodup_flatMap.1 hnodup
  have hsymm : Std.Symm (Function.onFun List.Disjoint Report.names) := ⟨fun _ _ h => h.symm⟩
  by_contra hne
  exact hpairwise.forall hother hreport hne hlists' hlists

/-- Tables that have not changed do not matter for how many rows were added. -/
theorem Counted.sum_rows_of_changed {before after : Tables} {counts : List TableCount}
    (h : Counted before counts after) {names : Finset String}
    (hnames : ∀ name, (after name).rows ≠ (before name).rows → name ∈ names) :
    ∑ name ∈ names, (after name).rows.length =
      ∑ name ∈ names, (before name).rows.length + (counts.map TableCount.rows).sum := by
  let all := names ∪ (counts.map TableCount.table).toFinset
  have hall := h.sum_rows all fun count hcount =>
    Finset.mem_union_right _ (List.mem_toFinset.2 (List.mem_map_of_mem hcount))
  have hsame : ∑ name ∈ all \ names, (after name).rows.length =
      ∑ name ∈ all \ names, (before name).rows.length := by
    refine Finset.sum_congr rfl fun name hname => ?_
    have hrows : (after name).rows = (before name).rows :=
      not_not.1 (mt (hnames name) (Finset.mem_sdiff.1 hname).2)
    rw [hrows]
  have hsub : names ⊆ all := Finset.subset_union_left
  rw [← Finset.sum_sdiff hsub, ← Finset.sum_sdiff hsub, hsame] at hall
  omega

/-- **Reports tell the truth**: of a run that succeeds, whatever the legacy data, the selected
stages, the size of the batches and the state at the start. -/
theorem truthful_run {selected : Option (List StageKind)} {start : State}
    (h : run (Memory.warehouse now) ((selectStages selected).map (StageKind.stage sources)) start =
      (.ok reports, after)) :
    Truthful now sources selected start reports after := by
  obtain ⟨reports', ids, after', hpasses⟩ | hstop :=
    passes_or_stops (Memory.warehouse now) ((selectStages selected).map (StageKind.stage sources))
      {} start
  case inr =>
    obtain ⟨place, stage, reports', ids, middle, cause, ids', after', hplace, hpasses, hfail⟩ :=
      hstop
    cases h.symm.trans (runFrom_of_stop hplace hpasses hfail)
  cases h.symm.trans hpasses.runFrom_eq
  obtain ⟨hkinds, hnames, hcounted⟩ := accounts_passes hpasses
  have hapart : (reports.flatMap Report.names).Nodup :=
    hnames ▸ nodup_tables_selectStages selected
  have hsublist := selectStages_sublist selected
  refine ⟨hkinds ▸ hsublist, hkinds ▸ hsublist.nodup (by decide), fun kind => ?_, ?_, hapart, ?_,
    ?_⟩
  · rw [hkinds, mem_selectStages]
  · intro place report hplace
    obtain ⟨stage, idsBefore, idsNext, before, next, hstage, htransact, hbefore, hnext⟩ :=
      hpasses.of_getElem? hplace
    obtain ⟨kind, -, rfl⟩ : ∃ kind, (selectStages selected)[place]? = some kind ∧
        kind.stage sources = stage := by
      simpa using hstage
    have haccounts := accounts_transact kind htransact
    have hnodup : report.names.Nodup := by
      rw [haccounts.names]
      cases kind <;> decide
    exact ⟨before, next, hbefore.runFrom_eq, hnext.runFrom_eq,
      fun count hcount => haccounts.counted.rows hnodup hcount,
      fun name hname => haccounts.counted.untouched hname⟩
  · intro name hchanged
    refine existsUnique_report hapart ?_
    by_contra hunlisted
    rw [← map_table_flatMap] at hunlisted
    exact hchanged (congrArg Table.rows (hcounted.untouched hunlisted))
  · intro names hchanged
    rw [rowsWritten_eq]
    exact hcounted.sum_rows_of_changed hchanged

end

/-- Stages selected out of order, one of them twice, over a warehouse that holds a course. -/
theorem truthful_run_of_repetitive :
    let start : State := { tables := [("course", ⟨7, [[("code", .text "cs245")]]⟩)] }
    let selected := some [StageKind.users, .requisites, .courses, .users]
    let reports : List Report := [⟨.courses, [⟨"course", 2⟩]⟩,
      ⟨.requisites, [⟨"course_prerequisite", 1⟩, ⟨"course_antirequisite", 0⟩]⟩,
      ⟨.users, [⟨"user", 1⟩, ⟨"secret.user_email", 0⟩, ⟨"secret.user_fb", 1⟩]⟩]
    let outcome := run (Memory.warehouse ⟨0, 0⟩)
      ((selectStages selected).map (StageKind.stage repetitive)) start
    outcome.1 = .ok reports ∧ rowsWritten reports = 5 ∧
      (outcome.2.table "course").rows.length = 3 ∧
      Truthful ⟨0, 0⟩ repetitive selected start reports outcome.2 := by
  intro start selected reports outcome
  have hok : outcome.1 = .ok reports := by decide +kernel
  exact ⟨hok, rfl, by decide +kernel, truthful_run (Prod.ext hok rfl : outcome = (_, outcome.2))⟩

end Registrar.Import
