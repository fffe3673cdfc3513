import Registrar.Import.Run
import Registrar.Postgres.Warehouse
import Registrar.Proofs.Failure
import Registrar.Proofs.Warehouse.Embedding
/-!
# What a server is sent

A server can be made to note whatever it is sent and what it replied (`Server.recording`). Nothing
else changes, neither for a pool of its connections nor for a warehouse over them
(`mirrors_recording`), and so an import goes as it does without (`run_recording`).
-/
namespace Registrar

/-! ## Warehouses that behave alike -/

namespace Warehouse

variable {ω ω' τ σ α : Type}

/-- A warehouse does what another one does, if one looks at its states through `view`. -/
structure Mirrors (view : ω' → ω) (warehouse' : Warehouse ω' τ) (warehouse : Warehouse ω τ) :
    Prop where
  begin : ∀ mode w, warehouse.begin mode (view w) =
    ((warehouse'.begin mode w).1, view (warehouse'.begin mode w).2)
  answer : ∀ request tx w, warehouse.answer request tx (view w) =
    ((warehouse'.answer request tx w).1, (warehouse'.answer request tx w).2.1,
      view (warehouse'.answer request tx w).2.2)
  commit : ∀ tx w, warehouse.commit tx (view w) =
    ((warehouse'.commit tx w).1, view (warehouse'.commit tx w).2)
  rollback : ∀ tx w, warehouse.rollback tx (view w) =
    ((warehouse'.rollback tx w).1, view (warehouse'.rollback tx w).2)

namespace Mirrors

variable {view : ω' → ω} {warehouse' : Warehouse ω' τ} {warehouse : Warehouse ω τ}

theorem embeds (h : Mirrors view warehouse' warehouse) : Embeds warehouse' warehouse view view where
  begin := h.begin
  answer := h.answer
  commit := h.commit
  rollback := h.rollback

theorem runFrom (h : Mirrors view warehouse' warehouse) (stages : List Import.Stage)
    (ids : Import.IdMap) (w : ω') :
    Import.runFrom warehouse ids (view w) stages =
      let (result, after) := Import.runFrom warehouse' ids w stages
      (result, view after) := by
  induction stages generalizing ids w with
  | nil => rfl
  | cons stage rest ih =>
    simp only [Import.runFrom, h.embeds.transact]
    rcases warehouse'.transact .readWrite stage.work ids w with ⟨cause | report, ids, w⟩
    · rfl
    · simp only [ih]
      rcases Import.runFrom warehouse' ids w rest with ⟨cause | reports, w⟩ <;> rfl

end Mirrors

end Warehouse

namespace Postgres

open Warehouse (Mode Request Mirrors)

variable {σ : Type}

/-! ## Recording -/

/-- A statement that was sent over a connection, and the reply. -/
structure Entry where
  connection : Nat
  statement : Statement
  reply : Reply
  deriving DecidableEq, Repr

/-- The server that notes what it is sent. -/
def Server.recording (server : Server σ) : Server (σ × List Entry) where
  connect n s := ((server.connect n s.1).1, (server.connect n s.1).2, s.2)
  reuse idle s := server.reuse idle s.1
  send n statement s := ((server.send n statement s.1).1, (server.send n statement s.1).2,
    s.2 ++ [⟨n, statement, (server.send n statement s.1).1⟩])

/-- A server that replies what it was told to, one reply after another. -/
def Server.scripted : Server (List Reply) where
  connect _ script := (.ok (), script)
  send _ _ script := (script.head?.getD .done, script.tail)

namespace Pool

/-- What was sent over the connections of a pool. -/
def log (pool : Pool (σ × List Entry)) : List Entry := pool.server.2

/-- A pool without what was noted of it. -/
def unrecorded (pool : Pool (σ × List Entry)) : Pool σ := { pool with server := pool.server.1 }

variable (server : Server σ) (pool : Pool (σ × List Entry))

theorem take_unrecorded : pool.unrecorded.take server =
    ((pool.take server.recording).1, (pool.take server.recording).2.unrecorded) := by
  unfold take
  have hreuse : server.recording.reuse pool.idle pool.server =
      server.reuse pool.unrecorded.idle pool.unrecorded.server := rfl
  rw [hreuse]
  cases server.reuse pool.unrecorded.idle pool.unrecorded.server with
  | some connection => rfl
  | none =>
    have hconnect : server.recording.connect pool.opened pool.server =
        ((server.connect pool.opened pool.server.1).1,
          (server.connect pool.opened pool.server.1).2, pool.server.2) := rfl
    simp only [hconnect, unrecorded]
    rcases server.connect pool.opened pool.server.1 with ⟨cause | ⟨⟩, s⟩ <;> rfl

theorem send_unrecorded (connection : Nat) (statement : Statement) :
    pool.unrecorded.send server connection statement =
      ((pool.send server.recording connection statement).1,
        (pool.send server.recording connection statement).2.unrecorded) := by
  unfold send
  split <;> rfl

/-- A statement without a NUL is sent, and is noted with its reply. -/
theorem send_recording {statement : Statement} (hnul : '\x00' ∉ statement.sql.toList)
    (connection : Nat) :
    ∃ reply s, pool.send server.recording connection statement =
      (reply, { pool with server := (s, pool.log ++ [⟨connection, statement, reply⟩]) }) :=
  ⟨_, _, if_neg (mt List.contains_iff_mem.1 hnul)⟩

end Pool

/-! ## Requests -/

def Reply.isFailed : Reply → Bool
  | .failed _ => true
  | _ => false

/-- What begins and ends transactions. -/
def controlTexts : List String :=
  [beginText .readWrite, beginText .snapshot, commitText, rollbackText]

/-- A statement that a request may lead to: nothing that begins or ends a transaction. -/
def Statement.IsWork (statement : Statement) : Prop :=
  (∀ sql, statement ≠ .control sql) ∧ statement.sql ∉ controlTexts

theorem notMem_controlTexts {sql : String} (word : String)
    (hword : ∀ text ∈ controlTexts, ¬word.toList <+: text.toList)
    (h : word.toList <+: sql.toList) : sql ∉ controlTexts :=
  fun hmem => hword sql hmem h

section

variable {schema sql : String}

theorem notMem_of_insertStatement {rows : Sql.Rows} (h : insertStatement schema rows = .ok sql) :
    sql ∉ controlTexts := by
  simp only [insertStatement, bind_eq_ok_iff] at h
  obtain ⟨table, -, columns, -, h⟩ := h
  obtain rfl := Except.ok.inj h
  refine notMem_controlTexts "INSERT INTO " (by decide) ?_
  simp only [String.toList_append, String.toList_ofList]
  unfold Sql.insertText
  simp only [List.append_assoc]
  exact List.prefix_append _ _

theorem notMem_of_bulkStatement {rows : Sql.Rows} (h : bulkStatement schema rows = .ok sql) :
    sql ∉ controlTexts := by
  simp only [bulkStatement, bind_eq_ok_iff] at h
  obtain ⟨table, -, columns, -, h⟩ := h
  obtain rfl := Except.ok.inj h
  refine notMem_controlTexts "COPY " (by decide) ?_
  simp only [String.toList_append, List.append_assoc]
  exact List.prefix_append _ _

theorem notMem_of_termStatement (h : termStatement schema = .ok sql) : sql ∉ controlTexts := by
  simp only [termStatement, bind_eq_ok_iff] at h
  obtain ⟨table, -, h⟩ := h
  obtain rfl := Except.ok.inj h
  refine notMem_controlTexts "SELECT" (by decide) ?_
  simp only [String.toList_append]
  exact List.IsPrefix.trans (by decide) (List.prefix_append _ _)

theorem notMem_of_queueStatement {queue : Mail.Queue} (h : queueStatement schema queue = .ok sql) :
    sql ∉ controlTexts := by
  simp only [queueStatement, bind_eq_ok_iff] at h
  obtain ⟨user, -, course, -, courseSection, -, h⟩ := h
  obtain rfl := Except.ok.inj h
  refine notMem_controlTexts "\n" (by decide) ?_
  cases queue <;> simp only [String.toList_append, List.append_assoc] <;>
    exact List.IsPrefix.trans (by decide +kernel) (List.prefix_append _ _)

theorem notMem_of_markStatement {queue : Mail.Queue} (h : markStatement queue = .ok sql) :
    sql ∉ controlTexts := by
  simp only [markStatement, bind_eq_ok_iff] at h
  obtain ⟨table, -, h⟩ := h
  obtain rfl := Except.ok.inj h
  refine notMem_controlTexts "UPDATE " (by decide) ?_
  simp only [String.toList_append, List.append_assoc]
  exact List.prefix_append _ _

/-- A statement of a kind of its own whose text is none of those. -/
theorem isWork_of_text {text : Except Failure String} {statement : String → Statement}
    (hsql : ∀ sql, (statement sql).sql = sql) (hkind : ∀ sql other, statement sql ≠ .control other)
    (htext : ∀ {sql}, text = .ok sql → sql ∉ controlTexts) {sent : Statement}
    (h : (do return statement (← text)) = .ok sent) : sent.IsWork := by
  obtain ⟨sql, hmade, hsent⟩ := bind_eq_ok_iff.1 h
  cases hsent
  refine ⟨hkind sql, ?_⟩
  rw [hsql]
  exact htext hmade

end

/-- A request is answered without a statement, or it is one exchange with the server, whichever
server that is: nothing that begins or ends a transaction is sent, and a failed reply is a
failure. -/
theorem answer_cases (schema : String) (request : Request) :
    (∃ value, ∀ {σ : Type} (server : Server σ) tx pool,
      answer server schema request tx pool = (.ok value, tx, pool)) ∨
    ∃ statement read, (∀ {σ : Type} (server : Server σ) tx pool,
        answer server schema request tx pool = exchange server statement read tx pool) ∧
      (∀ sent, statement = .ok sent → sent.IsWork) ∧
      ∀ fault, read (.failed fault) = .error (.server fault) := by
  cases request with
  | insert rows =>
    by_cases hrows : rows.rows = []
    · exact Or.inl ⟨[], fun server tx pool => by simp only [answer, if_pos hrows]⟩
    · refine Or.inr ⟨_, _, fun server tx pool => by simp only [answer, if_neg hrows]; rfl, ?_,
        fun fault => rfl⟩
      exact fun sent =>
        isWork_of_text (fun _ => rfl) (fun _ _ h => by cases h) notMem_of_insertStatement
  | copy rows =>
    by_cases hrows : rows.rows = []
    · exact Or.inl ⟨0, fun server tx pool => by simp only [answer, if_pos hrows]⟩
    · refine Or.inr ⟨_, _, fun server tx pool => by simp only [answer, if_neg hrows]; rfl, ?_,
        fun fault => rfl⟩
      exact fun sent =>
        isWork_of_text (fun _ => rfl) (fun _ _ h => by cases h) notMem_of_bulkStatement
  | termDates =>
    refine Or.inr ⟨_, _, fun server tx pool => by rw [answer], fun sent => ?_, fun fault => rfl⟩
    exact isWork_of_text (fun _ => rfl) (fun _ _ h => by cases h) notMem_of_termStatement
  | unseen queue =>
    refine Or.inr ⟨_, _, fun server tx pool => by rw [answer], fun sent => ?_, fun fault => rfl⟩
    exact isWork_of_text (fun _ => rfl) (fun _ _ h => by cases h) notMem_of_queueStatement
  | markSeen queue =>
    refine Or.inr ⟨_, _, fun server tx pool => by rw [answer], fun sent => ?_, fun fault => rfl⟩
    exact isWork_of_text (fun _ => rfl) (fun _ _ h => by cases h) notMem_of_markStatement

theorem exchange_unrecorded {α : Type} (server : Server σ) (statement : Except Failure Statement)
    (read : Reply → Except Failure α) (tx : Transaction) (pool : Pool (σ × List Entry)) :
    exchange server statement read tx pool.unrecorded =
      ((exchange server.recording statement read tx pool).1,
        (exchange server.recording statement read tx pool).2.1,
        (exchange server.recording statement read tx pool).2.2.unrecorded) := by
  cases statement with
  | error cause => rfl
  | ok statement => simp only [exchange, Pool.send_unrecorded]

theorem finish_unrecorded (server : Server σ) (sql : String) (tx : Transaction)
    (pool : Pool (σ × List Entry)) :
    finish server sql tx pool.unrecorded =
      ((finish server.recording sql tx pool).1,
        (finish server.recording sql tx pool).2.unrecorded) := by
  simp only [finish, Pool.send_unrecorded]
  rcases pool.send server.recording tx.connection (.control sql) with ⟨reply, pool⟩
  rcases reply.done? with cause | ⟨⟩ <;> rfl

theorem mirrors_recording (server : Server σ) (schema : String) :
    Mirrors Pool.unrecorded (warehouse server.recording schema) (warehouse server schema) where
  begin mode pool := by
    simp only [warehouse, begin, Pool.take_unrecorded]
    rcases pool.take server.recording with ⟨cause | connection, pool⟩
    · rfl
    · simp only [Pool.send_unrecorded]
      rcases pool.send server.recording connection (.control (beginText mode)) with ⟨reply, pool⟩
      rcases reply.done? with cause | ⟨⟩ <;> rfl
  answer request tx pool := by
    rcases answer_cases schema request with ⟨value, hanswer⟩ | ⟨statement, read, hanswer, -⟩
    · simp only [warehouse, hanswer]
    · simp only [warehouse, hanswer]
      exact exchange_unrecorded server statement read tx pool
  commit tx pool := finish_unrecorded server commitText tx pool
  rollback tx pool := finish_unrecorded server rollbackText tx pool

/-- **Recording changes nothing**: an import succeeds or fails as it does without, and leaves the
same pool. -/
theorem run_recording (server : Server σ) (schema : String) (stages : List Import.Stage)
    (pool : Pool (σ × List Entry)) :
    Import.run (warehouse server schema) stages pool.unrecorded =
      let (result, after) := Import.run (warehouse server.recording schema) stages pool
      (result, after.unrecorded) :=
  (mirrors_recording server schema).runFrom stages {} pool

end Postgres

end Registrar
