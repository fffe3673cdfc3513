import Registrar.Proofs.Import.Requests
import Registrar.Proofs.Mail.BuiltIn
import Registrar.Settings.Tasks
import Registrar.Settings.Validation
/-!
# Settings and the names that they give

Of the schema the settings only check that it is not empty. With a valid schema every statement of
an import or a drain can be made, and neither fails over the settings once they are checked
(`NamesAll`). But a schema that is too long for a name or holds a NUL passes the check as well, and
then no statement that names it can be made: a drain fails in the middle of its transaction
(`NamesNothing`).
-/
namespace Registrar

open Sql.Identifier (Valid)
open Import (NamesValid)

/-! ## Warehouses that do not fail over the settings -/

namespace Warehouse

variable {ω τ σ α : Type} {P : Request → Prop} {warehouse : Warehouse ω τ}

/-- The warehouse does not fail over the settings as long as its requests have the property. -/
structure CandidOn (P : Request → Prop) (warehouse : Warehouse ω τ) : Prop where
  begin : ∀ mode w, Candid (warehouse.begin mode w).1
  answer : ∀ request, P request → ∀ tx w, Candid (warehouse.answer request tx w).1
  commit : ∀ tx w, Candid (warehouse.commit tx w).1

namespace CandidOn

variable (h : warehouse.CandidOn P)

include h

theorem converse {program : Program σ α} (hasks : program.Asks P) (tx : τ) (w : ω) :
    Candid (warehouse.converse program tx w).result := by
  induction hasks generalizing tx w with
  | done value state => exact .ok value
  | fail hcause state => exact .error hcause
  | @ask request state next hrequest hnext ih =>
    have hanswer := h.answer request hrequest tx w
    simp only [Warehouse.converse]
    rcases hreply : warehouse.answer request tx w with ⟨cause | reply, tx, w⟩
    · rw [hreply] at hanswer
      exact .error (hanswer cause rfl)
    · exact ih reply tx w

theorem transact {task : Task σ α} (hasks : task.Asks P) (mode : Mode) (state : σ) (w : ω) :
    Candid (warehouse.transact mode task state w).1 := by
  have hbegin := h.begin mode w
  simp only [Warehouse.transact]
  rcases hbegun : warehouse.begin mode w with ⟨cause | tx, w⟩
  · rw [hbegun] at hbegin
    exact .error (hbegin cause rfl)
  · have hconverse := h.converse (hasks state) tx w
    simp only
    rcases houtcome : warehouse.converse (task state) tx w with ⟨cause | value, state, tx, w⟩
    · rw [houtcome] at hconverse
      exact .error (hconverse cause rfl)
    · have hcommit := h.commit tx w
      simp only
      rcases hcommitted : warehouse.commit tx w with ⟨cause | ⟨⟩, w⟩
      · rw [hcommitted] at hcommit
        exact .error (hcommit cause rfl)
      · exact .ok value

theorem runFrom {stages : List Import.Stage} (hstages : ∀ stage ∈ stages, stage.work.Asks P)
    (ids : Import.IdMap) (w : ω) : Candid (Import.runFrom warehouse ids w stages).1 := by
  induction stages generalizing ids w with
  | nil => exact .ok []
  | cons stage rest ih =>
    have htransact := h.transact (hstages stage List.mem_cons_self) .readWrite ids w
    simp only [Import.runFrom]
    rcases hdone : warehouse.transact .readWrite stage.work ids w with ⟨cause | report, ids, w⟩
    · rw [hdone] at htransact
      exact .error (htransact cause rfl)
    · have hrest := ih (fun other hother => hstages other (List.mem_cons_of_mem _ hother)) ids w
      simp only
      rcases hrun : Import.runFrom warehouse ids w rest with ⟨cause | reports, w⟩
      · rw [hrun] at hrest
        exact .error (hrest cause rfl)
      · exact .ok _

end CandidOn

end Warehouse

/-! ## Drains -/

namespace Mail

open Warehouse (CandidOn Request)

theorem Item.candid_message (templates : Templates) (base : String) (item : Item) :
    Candid (item.message templates base) := by
  simp only [message]
  split
  · exact .ok _
  · exact .error rfl

/-- A drain asks for nothing but what has valid names. -/
theorem asks_fill (templates : Templates) (base : String) (queue : Queue) :
    Task.Asks NamesValid (fill templates base queue) := by
  have hall : ∀ items, Task.Asks NamesValid (sendAll templates base items) := by
    intro items
    induction items with
    | nil => exact .pure ()
    | cons item rest ih =>
      exact (Task.Asks.lift (item.candid_message templates base)).bind fun message =>
        (Task.Asks.change fun sent => .ok _).bind fun _ => ih
  have hunseen : NamesValid (.unseen queue) := by cases queue <;> decide
  have hmark : NamesValid (.markSeen queue) := by cases queue <;> decide
  exact (Task.Asks.ask hunseen).bind fun items => (hall items).bind fun _ =>
    (Task.Asks.ask hmark).bind fun marked => .pure _

variable {ω τ μ : Type} {warehouse : Warehouse ω τ}

theorem candid_drainAll (h : warehouse.CandidOn NamesValid) (mailer : Mailer μ)
    (templates : Templates) (base : String) (queues : List Queue) (w : ω) (m : μ) :
    Candid (drainAll warehouse mailer templates base queues w m).1 := by
  have hone : ∀ queue w m, Candid (drain warehouse mailer templates base queue w m).1 := by
    intro queue w m
    have htransact := h.transact (asks_fill templates base queue) .snapshot [] w
    simp only [drain]
    rcases hdone : warehouse.transact .snapshot (fill templates base queue) [] w with
      ⟨cause | ⟨produced, marked⟩, sent, w⟩
    all_goals
      rw [hdone] at htransact
      simp only
      split
      · exact .error rfl
    · exact .error (htransact cause rfl)
    · exact .ok _
  induction queues generalizing w m with
  | nil => exact .ok []
  | cons queue rest ih =>
    have hfirst := hone queue w m
    simp only [drainAll]
    rcases hdone : drain warehouse mailer templates base queue w m with ⟨cause | report, w, m⟩
    · rw [hdone] at hfirst
      exact .error (hfirst cause rfl)
    · have hrest := ih w m
      simp only
      rcases hlater : drainAll warehouse mailer templates base rest w m with ⟨cause | reports, w, m⟩
      · rw [hlater] at hrest
        exact .error (hrest cause rfl)
      · exact .ok _

end Mail

/-! ## Statements on a server -/

namespace Postgres

open Warehouse (CandidOn Mode Request)

variable {σ α : Type}

theorem Reply.candid_rows (reply : Reply) : Candid reply.rows? := by
  cases reply with
  | failed fault => exact .error rfl
  | _ => exact .ok _

theorem Reply.candid_count (reply : Reply) : Candid reply.count? := by
  cases reply with
  | failed fault => exact .error rfl
  | _ => exact .ok _

theorem Reply.candid_done (reply : Reply) : Candid reply.done? := by
  cases reply with
  | failed fault => exact .error rfl
  | _ => exact .ok _

theorem candid_idsOf (table : String) (count : Nat) (rows : List (List Cell)) :
    Candid (idsOf table count rows) := by
  refine (Candid.mapM (fun row => ?_) rows).bind fun ids => ?_
  · unfold idOf
    split
    · split
      · exact .ok _
      · exact .error rfl
    · exact .ok _
    · exact .error rfl
  · split
    · exact .ok _
    · exact .error rfl

theorem candid_wholeAt (row : List Cell) (column : Nat) : Candid (wholeAt row column) := by
  unfold wholeAt
  split
  · exact .ok _
  · exact .error rfl

theorem candid_textAt (row : List Cell) (column : Nat) : Candid (textAt row column) := by
  unfold textAt
  split
  · exact .ok _
  · exact .error rfl

theorem candid_textsAt (row : List Cell) (column : Nat) : Candid (textsAt row column) := by
  unfold textsAt
  split
  · split
    · exact .ok _
    · exact .error rfl
  · exact .error rfl

theorem candid_dateAt (row : List Cell) (column : Nat) : Candid (dateAt? row column) := by
  unfold dateAt?
  split
  · exact .ok _
  · exact .ok _
  · exact .error rfl

theorem candid_termsOf (rows : List (List Cell)) : Candid (termsOf rows) := by
  refine (Candid.mapM (fun row => ?_) rows).bind fun terms => .ok _
  exact (candid_wholeAt row 0).bind fun term => (candid_dateAt row 1).bind fun first =>
    (candid_dateAt row 2).bind fun last => .ok _

theorem candid_itemOf (queue : Mail.Queue) (row : List Cell) : Candid (itemOf queue row) := by
  cases queue with
  | passwordReset =>
    exact (candid_wholeAt row 0).bind fun _ => (candid_textAt row 1).bind fun _ =>
      (candid_textAt row 2).bind fun _ => (candid_textAt row 3).bind fun _ => .ok _
  | sectionSubscribed =>
    exact (candid_wholeAt row 0).bind fun _ => (candid_wholeAt row 1).bind fun _ =>
      (candid_textAt row 2).bind fun _ => (candid_textAt row 3).bind fun _ =>
        (candid_textAt row 4).bind fun _ => .ok _
  | sectionVacated =>
    exact (candid_wholeAt row 0).bind fun _ => (candid_textAt row 1).bind fun _ =>
      (candid_textAt row 2).bind fun _ => (candid_textAt row 3).bind fun _ =>
        (candid_textsAt row 4).bind fun _ => .ok _

theorem candid_exchange {server : Server σ} {statement : Except Failure Statement}
    {read : Reply → Except Failure α} (hmade : Candid statement)
    (hread : ∀ reply, Candid (read reply)) (tx : Transaction) (pool : Pool σ) :
    Candid (exchange server statement read tx pool).1 := by
  cases statement with
  | error cause => exact .error (hmade cause rfl)
  | ok statement => exact hread _

/-- **With a valid schema** no request with valid names fails over the settings. -/
theorem candidOn_warehouse (server : Server σ) {schema : String} (hschema : Valid schema) :
    (warehouse server schema).CandidOn NamesValid where
  begin mode pool := by
    simp only [warehouse, begin]
    split
    · exact .error rfl
    · split
      · exact .ok _
      · rename_i reply _ _ _ hcause
        exact .error (Reply.candid_done _ _ hcause)
  answer request hrequest tx pool := by
    obtain ⟨sql, hsql⟩ :=
      (demands_statementOf schema request).exists_ok_iff.2 ⟨hrequest, fun _ => hschema⟩
    have hmade : ∀ statement : String → Statement,
        Candid (do return statement (← statementOf schema request)) := by
      rw [hsql]
      exact fun statement => .ok _
    cases request with
    | insert rows =>
      simp only [warehouse, answer]
      split
      · exact .ok _
      · exact candid_exchange (hmade _)
          (fun reply => reply.candid_rows.bind fun rows => candid_idsOf _ _ _) tx pool
    | copy rows =>
      simp only [warehouse, answer]
      split
      · exact .ok _
      · exact candid_exchange (hmade _) Reply.candid_count tx pool
    | termDates =>
      exact candid_exchange (hmade _)
        (fun reply => reply.candid_rows.bind fun rows => candid_termsOf rows) tx pool
    | unseen queue =>
      exact candid_exchange (hmade _)
        (fun reply => reply.candid_rows.bind fun rows => .mapM (candid_itemOf queue) rows) tx pool
    | markSeen queue => exact candid_exchange (hmade _) Reply.candid_count tx pool
  commit tx pool := by
    simp only [warehouse, finish]
    split
    · exact .ok _
    · rename_i hcause
      exact .error (Reply.candid_done _ _ hcause)

/-- **Without a valid schema** a drain that begins its transaction fails over the settings. -/
theorem drain_of_not_valid {μ : Type} (server : Server σ) {schema : String}
    (hschema : ¬Valid schema) (mailer : Mail.Mailer μ) (templates : Mail.Templates) (base : String)
    (queue : Mail.Queue) {pool opened : Pool σ} {tx : Transaction}
    (hbegin : begin server .snapshot pool = (.ok tx, opened)) (m : μ) :
    ∃ message, (Mail.drain (warehouse server schema) mailer templates base queue pool m).1 =
      .error (.settings message) := by
  obtain ⟨message, hmessage⟩ :=
    (demands_statementOf schema (.unseen queue)).exists_error fun h => hschema (h.2 rfl)
  have hbegin' : (warehouse server schema).begin .snapshot pool = (.ok tx, opened) := hbegin
  have hstatement : queueStatement schema queue = .error (.settings message) := hmessage
  have hanswer : (warehouse server schema).answer (.unseen queue) tx opened =
      (.error (.settings message), tx, opened) := by
    simp only [warehouse, answer, hstatement]
    rfl
  -- The first request of a drain already names the schema, so nothing else of it matters.
  obtain ⟨next, hfill⟩ : ∃ next, Mail.fill templates base queue [] =
      .ask (.unseen queue) [] next := ⟨_, rfl⟩
  refine ⟨message, ?_⟩
  simp only [Mail.drain, Warehouse.transact, hbegin', hfill, Warehouse.converse, hanswer,
    Mail.envelopes, Mail.consume]

end Postgres

/-! ## Checked settings -/

namespace Settings

open Postgres (Pool Server Transaction begin statementOf warehouse)
open Warehouse (Request)

/-- Every statement of an import or a drain can be made, and neither fails over the settings. -/
structure NamesAll (settings : Settings) : Prop where
  stages : ∀ (kind : Import.StageKind) (sources : Import.Sources), sources.legacy.Candid →
    (kind.work sources).Asks fun request =>
      ∃ sql, statementOf settings.target.schema request = .ok sql
  queues : ∀ templates base queue, (Mail.fill templates base queue).Asks fun request =>
    ∃ sql, statementOf settings.target.schema request = .ok sql
  run : ∀ {σ : Type} (server : Server σ) disk secret pool,
    Candid (Import.run (warehouse server settings.target.schema)
      (settings.stages (Legacy.Store.ofDirectory disk settings.dumpPath) secret) pool).1
  drain : ∀ {σ μ : Type} (server : Server σ) (mailer : Mail.Mailer μ) pool m,
    Candid (settings.drain (warehouse server settings.target.schema) mailer pool m).1

/-- No statement that names the schema can be made, and a drain that begins its transaction fails
over the settings. -/
structure NamesNothing (settings : Settings) : Prop where
  statements : ∀ request : Request, request.needsSchema = true →
    ∃ message, statementOf settings.target.schema request = .error (.settings message)
  drain : ∀ {σ μ : Type} (server : Server σ) (mailer : Mail.Mailer μ) {pool opened : Pool σ}
    {tx : Transaction} m, begin server .snapshot pool = (.ok tx, opened) →
    ∃ message, (settings.drain (warehouse server settings.target.schema) mailer pool m).1 =
      .error (.settings message)

variable {settings : Settings}

theorem drain_eq {ω τ μ : Type} {templates : Mail.Templates}
    (h : Mail.Templates.builtIn = .ok templates) (warehouse : Warehouse ω τ)
    (mailer : Mail.Mailer μ) (w : ω) (m : μ) :
    settings.drain warehouse mailer w m =
      Mail.drainAll warehouse mailer templates settings.drains.courseUrlBase
        settings.drains.queues w m := by
  -- As an equation of functions: one between applied terms makes the kernel evaluate the templates.
  have hdrain : @Settings.drain = @Settings.drain := rfl
  conv at hdrain => rhs; delta Settings.drain
  rw [hdrain]
  generalize Mail.Templates.builtIn = builtIn at h ⊢
  subst h
  rfl

theorem namesAll_of_valid (h : Valid settings.target.schema) : settings.NamesAll where
  stages kind sources hlegacy ids := (Import.asks_work kind hlegacy ids).mono fun request hnames =>
    (Postgres.demands_statementOf _ request).exists_ok_iff.2 ⟨hnames, fun _ => h⟩
  queues templates base queue sent := (Mail.asks_fill templates base queue sent).mono
    fun request hnames =>
      (Postgres.demands_statementOf _ request).exists_ok_iff.2 ⟨hnames, fun _ => h⟩
  run server disk secret pool := by
    refine (Postgres.candidOn_warehouse server h).runFrom (fun stage hstage => ?_) {} pool
    obtain ⟨kind, -, rfl⟩ := List.mem_map.1 hstage
    exact Import.asks_work kind (Legacy.candid_ofDirectory disk settings.dumpPath)
  drain server mailer pool m := by
    obtain ⟨templates, htemplates, -⟩ := Mail.exists_builtIn
    rw [drain_eq htemplates]
    exact Mail.candid_drainAll (Postgres.candidOn_warehouse server h) mailer templates _ _ pool m

theorem namesNothing_of_not_valid (h : ¬Valid settings.target.schema)
    (hqueues : settings.drains.queues ≠ []) : settings.NamesNothing where
  statements request hneeds :=
    (Postgres.demands_statementOf _ request).exists_error fun hstated => h (hstated.2 hneeds)
  drain server mailer pool opened tx m hbegin := by
    obtain ⟨templates, htemplates, -⟩ := Mail.exists_builtIn
    obtain ⟨queue, rest, hcons⟩ := List.exists_cons_of_ne_nil hqueues
    obtain ⟨message, hmessage⟩ := Postgres.drain_of_not_valid server h mailer templates
      settings.drains.courseUrlBase queue hbegin m
    refine ⟨message, ?_⟩
    rw [drain_eq htemplates, hcons, Mail.drainAll]
    rcases hdrain : Mail.drain (warehouse server settings.target.schema) mailer templates
      settings.drains.courseUrlBase queue pool m with ⟨cause | report, pool', m'⟩
    all_goals
      rw [hdrain] at hmessage
    · obtain rfl := Except.error.inj hmessage
      rfl
    · cases hmessage

theorem demand_bind_eq_ok_iff {α : Type} {condition : Bool} {message : String}
    {f : Unit → Except Failure α} {value : α} :
    (demand condition message >>= f) = .ok value ↔ condition = true ∧ f () = .ok value := by
  cases condition <;> simp [demand, bind, Except.bind]

/-- What a check of the settings says of the schema and the queues. -/
theorem of_check (h : settings.check = .ok ()) :
    settings.target.schema ≠ "" ∧ settings.drains.queues ≠ [] := by
  obtain ⟨-, h⟩ := demand_bind_eq_ok_iff.1 h
  obtain ⟨⟨⟩, htarget, h⟩ := bind_eq_ok_iff.1 h
  obtain ⟨⟨⟩, -, hdrains⟩ := bind_eq_ok_iff.1 h
  simp only [checkTarget, checkDrains, demand_bind_eq_ok_iff, decide_eq_true_eq] at htarget hdrains
  exact ⟨htarget.2.2.2.1, hdrains.2.1⟩

/-- **The names that checked settings give.** They name everything if their schema is short enough
and holds no NUL, and if not, they name nothing: the check does not look. -/
theorem named_of_check (hcheck : settings.check = .ok ()) :
    (('\x00' ∉ settings.target.schema.toList ∧
        Text.utf8Length settings.target.schema.toList ≤ Sql.Identifier.longest) →
      settings.NamesAll) ∧
    (¬('\x00' ∉ settings.target.schema.toList ∧
        Text.utf8Length settings.target.schema.toList ≤ Sql.Identifier.longest) →
      settings.NamesNothing) := by
  obtain ⟨hnonempty, hqueues⟩ := of_check hcheck
  refine ⟨fun h => namesAll_of_valid ⟨hnonempty, h.1, h.2⟩, fun h => ?_⟩
  exact namesNothing_of_not_valid (fun hvalid => h ⟨hvalid.withoutNul, hvalid.short⟩) hqueues

/-- Settings that name nothing but a schema. -/
def ofSchema (schema : String) : Settings where
  dumpPath := "/var/dump"
  target := { host := "localhost", database := "flow", user := "flow", schema }

theorem named_of_check_of_schemas :
    ((ofSchema "public").check = .ok () ∧ (ofSchema "public").NamesAll) ∧
    ∃ schema, (ofSchema schema).check = .ok () ∧ (ofSchema schema).NamesNothing := by
  have hpublic : (ofSchema "public").check = .ok () := by decide +kernel
  have hnul : (ofSchema "flow\x00").check = .ok () := by decide +kernel
  exact ⟨⟨hpublic, (named_of_check hpublic).1 (by decide)⟩,
    "flow\x00", hnul, (named_of_check hnul).2 (by decide)⟩

/-- A schema of 64 bytes passes the check, but no table can be named with it and no queue read. -/
theorem long_schema_passes :
    let settings := ofSchema (String.ofList (List.replicate 64 'a'))
    settings.check = .ok () ∧
    Sql.Identifier.qualifyTable settings.target.schema "course" = .error (.settings
      ("SECURITY: Identifier exceeds maximum length of 63 bytes (got 64 bytes): " ++
        Text.quoted settings.target.schema)) ∧
    ¬∀ settings : Settings, settings.check = .ok () →
      ∀ queue, ∃ sql, statementOf settings.target.schema (.unseen queue) = .ok sql := by
  intro settings
  have hcheck : settings.check = .ok () := by decide +kernel
  have hlong : ¬Valid settings.target.schema := by decide +kernel
  refine ⟨hcheck, by decide +kernel, fun h => hlong ?_⟩
  have hstated := (Postgres.demands_statementOf settings.target.schema
    (.unseen .passwordReset)).exists_ok_iff.1 (h settings hcheck .passwordReset)
  exact hstated.2 rfl

end Settings

end Registrar
