import Mathlib.Data.List.Nodup
import Registrar.Proofs.Import.Stopping
import Registrar.Proofs.Postgres.Recording
/-!
# Transactions on a server

What a server is sent for one transaction is a `Session`: nothing if there is no connection, what
begins a transaction, then what the task itself sends, and then what ends the transaction, which is
a commit if the task succeeded and else a rollback (`transact_recording`). A connection on which the
end of a transaction failed does not come back to the pool, so a `Tidy` pool never lends it again.
An import is one session after another, up to the first that fails (`disciplined_run`).
-/
namespace Registrar.Postgres

open Warehouse (Mode Request)

variable {σ ρ α : Type}

/-! ## What is sent in a transaction -/

namespace Pool

/-- The pool has the same connections as before, and more was sent over them. -/
structure Adds (pool : Pool (σ × List Entry)) (body : List Entry) (after : Pool (σ × List Entry)) :
    Prop where
  idle : after.idle = pool.idle
  opened : after.opened = pool.opened
  log : after.log = pool.log ++ body

theorem Adds.refl (pool : Pool (σ × List Entry)) : pool.Adds [] pool :=
  ⟨rfl, rfl, (List.append_nil _).symm⟩

theorem Adds.trans {pool middle after : Pool (σ × List Entry)} {body more : List Entry}
    (h : pool.Adds body middle) (h' : middle.Adds more after) : pool.Adds (body ++ more) after :=
  ⟨h'.idle.trans h.idle, h'.opened.trans h.opened, by rw [h'.log, h.log, List.append_assoc]⟩

/-- A statement is sent, or it has failed before. -/
theorem send_cases (server : Server σ) (connection : Nat) (statement : Statement)
    (pool : Pool (σ × List Entry)) :
    (∃ fault, pool.send server.recording connection statement = (.failed fault, pool)) ∨
    ∃ reply after, pool.send server.recording connection statement = (reply, after) ∧
      pool.Adds [⟨connection, statement, reply⟩] after := by
  unfold send
  split
  · exact Or.inl ⟨_, rfl⟩
  · exact Or.inr ⟨_, _, rfl, rfl, rfl, rfl⟩

/-- What begins or ends a transaction is always sent. -/
theorem send_control (server : Server σ) (connection : Nat) {sql : String}
    (hsql : sql ∈ controlTexts) (pool : Pool (σ × List Entry)) :
    ∃ reply after, pool.send server.recording connection (.control sql) = (reply, after) ∧
      pool.Adds [⟨connection, .control sql, reply⟩] after := by
  have hnul : ∀ text ∈ controlTexts, '\x00' ∉ (Statement.control text).sql.toList := by decide
  obtain ⟨reply, s, hsend⟩ := pool.send_recording server (hnul sql hsql) connection
  exact ⟨reply, _, hsend, rfl, rfl, rfl⟩

end Pool

/-- Statements of a task were sent over a connection. -/
def Within (connection : Nat) (body : List Entry) : Prop :=
  ∀ entry ∈ body, entry.connection = connection ∧ entry.statement.IsWork

/-- The server did not refuse any of some statements. -/
def Clean (body : List Entry) : Prop := ∀ entry ∈ body, entry.reply.isFailed = false

theorem exchange_recording (server : Server σ) {statement : Except Failure Statement}
    {read : Reply → Except Failure α} (hwork : ∀ sent, statement = .ok sent → sent.IsWork)
    (hread : ∀ fault, read (.failed fault) = .error (.server fault)) (tx : Transaction)
    (pool : Pool (σ × List Entry)) :
    ∃ result after body, exchange server.recording statement read tx pool = (result, tx, after) ∧
      pool.Adds body after ∧ Within tx.connection body ∧
      ∀ value, result = .ok value → Clean body := by
  cases statement with
  | error cause => exact ⟨_, pool, [], rfl, .refl pool, List.forall_mem_nil _, nofun⟩
  | ok sent =>
    rcases pool.send_cases server tx.connection sent with ⟨fault, hsend⟩ |
      ⟨reply, after, hsend, hadds⟩
    · refine ⟨read (.failed fault), pool, [], ?_, .refl pool, List.forall_mem_nil _, ?_⟩
      · simp only [exchange, hsend]
      · exact fun _ _ => List.forall_mem_nil _
    · refine ⟨read reply, after, _, ?_, hadds, ?_, ?_⟩
      · simp only [exchange, hsend]
      · exact List.forall_mem_singleton.2 ⟨rfl, hwork sent rfl⟩
      · intro value hvalue
        refine List.forall_mem_singleton.2 ?_
        cases reply with
        | failed fault =>
          rw [hread] at hvalue
          cases hvalue
        | _ => rfl

theorem answer_recording (server : Server σ) (schema : String) (request : Request)
    (tx : Transaction) (pool : Pool (σ × List Entry)) :
    ∃ result after body, answer server.recording schema request tx pool = (result, tx, after) ∧
      pool.Adds body after ∧ Within tx.connection body ∧
      ∀ value, result = .ok value → Clean body := by
  rcases answer_cases schema request with ⟨value, hanswer⟩ |
    ⟨statement, read, hanswer, hwork, hread⟩
  · exact ⟨.ok value, pool, [], hanswer _ _ _, .refl pool, List.forall_mem_nil _,
      fun _ _ => List.forall_mem_nil _⟩
  · rw [hanswer]
    exact exchange_recording server hwork hread tx pool

/-- What a conversation sends stays within its transaction, and none of it has failed if the
conversation succeeds. -/
theorem converse_recording (server : Server σ) (schema : String) (program : Program ρ α)
    (tx : Transaction) (pool : Pool (σ × List Entry)) :
    let outcome := (warehouse server.recording schema).converse program tx pool
    outcome.transaction = tx ∧ ∃ body, pool.Adds body outcome.warehouse ∧
      Within tx.connection body ∧ ∀ value, outcome.result = .ok value → Clean body := by
  induction program generalizing pool with
  | done value state =>
    exact ⟨rfl, [], .refl pool, List.forall_mem_nil _, fun _ _ => List.forall_mem_nil _⟩
  | fail cause state =>
    exact ⟨rfl, [], .refl pool, List.forall_mem_nil _, fun _ _ => List.forall_mem_nil _⟩
  | ask request state next ih =>
    obtain ⟨result, after, body, hanswer, hadds, hwithin, hclean⟩ :=
      answer_recording server schema request tx pool
    have hanswer' : (warehouse server.recording schema).answer request tx pool =
        (result, tx, after) := hanswer
    simp only [Warehouse.converse, hanswer']
    cases result with
    | error cause => exact ⟨rfl, body, hadds, hwithin, fun value hvalue => by cases hvalue⟩
    | ok reply =>
      obtain ⟨htx, more, hmore, hwithin', hclean'⟩ := ih reply after
      refine ⟨htx, body ++ more, hadds.trans hmore, ?_, fun value hvalue => ?_⟩
      · exact List.forall_mem_append.2 ⟨hwithin, hwithin'⟩
      · exact List.forall_mem_append.2 ⟨hclean reply rfl, hclean' value hvalue⟩

/-! ## Pools that do not lend what is broken -/

/-- The end of a transaction failed, so nobody knows whether the transaction is over. -/
def Entry.Breaks (entry : Entry) : Prop :=
  entry.statement ∈ [.control commitText, .control rollbackText] ∧ entry.reply.isFailed = true

namespace Pool

/-- A connection of the pool is open, and no end of a transaction has failed on it. -/
structure Whole (pool : Pool (σ × List Entry)) (connection : Nat) : Prop where
  opened : connection < pool.opened
  whole : ∀ entry ∈ pool.log, entry.Breaks → entry.connection ≠ connection

/-- Nothing was sent over a connection after the end of a transaction had failed on it, and nothing
will be, because the pool does not have it. -/
structure Tidy (pool : Pool (σ × List Entry)) : Prop where
  nodup : pool.idle.Nodup
  idle : ∀ connection ∈ pool.idle, pool.Whole connection
  opened : ∀ entry ∈ pool.log, entry.connection < pool.opened
  retired : pool.log.Pairwise fun entry later => entry.Breaks → later.connection ≠ entry.connection

/-- A connection of a tidy pool is in use. -/
structure Lent (pool : Pool (σ × List Entry)) (connection : Nat) : Prop extends Tidy pool where
  whole : pool.Whole connection
  busy : connection ∉ pool.idle

theorem tidy_new (s : σ) : Tidy { server := (s, []) } :=
  ⟨List.nodup_nil, List.forall_mem_nil _, List.forall_mem_nil _, .nil⟩

section

variable {pool after : Pool (σ × List Entry)} {connection : Nat} {body : List Entry}

theorem Whole.mono (h : pool.Whole connection) (hopened : pool.opened ≤ after.opened)
    (hlog : after.log = pool.log) : after.Whole connection :=
  ⟨Nat.lt_of_lt_of_le h.opened hopened, hlog ▸ h.whole⟩

/-- What a tidy pool lends is whole, and if it lends nothing, it stays tidy. -/
theorem Tidy.take (h : pool.Tidy) (server : Server σ) :
    (∃ cause after, pool.take server.recording = (.error cause, after) ∧
      after.log = pool.log ∧ after.Tidy) ∨
    ∃ connection after, pool.take server.recording = (.ok connection, after) ∧
      after.log = pool.log ∧ after.Lent connection := by
  unfold Pool.take
  cases server.recording.reuse pool.idle pool.server with
  | some lent =>
    obtain ⟨connection, hmem⟩ := lent
    refine Or.inr ⟨connection, _, rfl, rfl, ⟨h.nodup.erase _, ?_, h.opened, h.retired⟩, ?_,
      h.nodup.not_mem_erase⟩
    · intro other hother
      exact (h.idle other (List.mem_of_mem_erase hother)).mono (Nat.le_refl _) rfl
    · exact (h.idle connection hmem).mono (Nat.le_refl _) rfl
  | none =>
    rcases hconnect : server.recording.connect pool.opened pool.server with ⟨cause | ⟨⟩, s, entries⟩
    · obtain rfl : entries = pool.log := (congrArg (fun outcome => outcome.2.2) hconnect).symm
      refine Or.inl ⟨_, _, rfl, rfl, h.nodup, ?_, h.opened, h.retired⟩
      exact fun other hother => (h.idle other hother).mono (Nat.le_refl _) rfl
    · obtain rfl : entries = pool.log := (congrArg (fun outcome => outcome.2.2) hconnect).symm
      -- no entry and no idle connection has a number that was not given yet
      refine Or.inr ⟨pool.opened, _, rfl, rfl, ⟨h.nodup, ?_, ?_, h.retired⟩, ⟨?_, ?_⟩, ?_⟩
      · exact fun other hother => (h.idle other hother).mono (Nat.le_succ _) rfl
      · exact fun entry hentry => Nat.lt_succ_of_lt (h.opened entry hentry)
      · exact Nat.lt_succ_self _
      · exact fun entry hentry _ => Nat.ne_of_lt (h.opened entry hentry)
      · exact fun hmem => Nat.lt_irrefl _ (h.idle _ hmem).opened

section

variable (h : pool.Lent connection) (hadds : pool.Adds body after)
  (hconnection : ∀ entry ∈ body, entry.connection = connection)

include h hadds hconnection

/-- Whatever is sent over the connection in use, the pool stays tidy as long as it does not get the
connection back and nothing is sent after the end of a transaction has failed. -/
theorem Lent.tidy_adds (hlast : body.Pairwise fun entry _ => ¬entry.Breaks) : after.Tidy := by
  refine ⟨hadds.idle ▸ h.nodup, ?_, ?_, ?_⟩
  · intro other hother
    rw [hadds.idle] at hother
    have hne : connection ≠ other := fun heq => h.busy (heq ▸ hother)
    obtain ⟨hopened, hwhole⟩ := h.idle other hother
    refine ⟨hadds.opened ▸ hopened, ?_⟩
    rw [hadds.log]
    exact List.forall_mem_append.2 ⟨hwhole, fun entry hentry _ => hconnection entry hentry ▸ hne⟩
  · rw [hadds.log, hadds.opened]
    exact List.forall_mem_append.2
      ⟨h.opened, fun entry hentry => hconnection entry hentry ▸ h.whole.opened⟩
  · rw [hadds.log, List.pairwise_append]
    refine ⟨h.retired, hlast.imp fun hbreaks hbroken => absurd hbroken hbreaks, ?_⟩
    intro entry hentry later hlater hbreaks
    rw [hconnection later hlater]
    exact (h.whole.whole entry hentry hbreaks).symm

/-- The connection in use stays whole until the end of a transaction fails on it. -/
theorem Lent.adds (hbody : ∀ entry ∈ body, ¬entry.Breaks) : after.Lent connection := by
  have hpairwise : body.Pairwise fun entry _ => ¬entry.Breaks :=
    List.pairwise_of_forall_mem_list fun entry hentry _ _ => hbody entry hentry
  refine ⟨h.tidy_adds hadds hconnection hpairwise, ⟨hadds.opened ▸ h.whole.opened, ?_⟩,
    hadds.idle ▸ h.busy⟩
  rw [hadds.log]
  exact List.forall_mem_append.2
    ⟨h.whole.whole, fun entry hentry hbreaks => absurd hbreaks (hbody entry hentry)⟩

end

theorem Lent.giveBack (h : pool.Lent connection) : (pool.giveBack connection).Tidy := by
  have hnodup : (pool.idle ++ [connection]).Nodup :=
    List.nodup_append.2 ⟨h.nodup, List.nodup_singleton _, fun other hother last hlast heq =>
      h.busy (List.mem_singleton.1 hlast ▸ heq ▸ hother)⟩
  refine ⟨hnodup, ?_, h.opened, h.retired⟩
  refine List.forall_mem_append.2 ⟨fun other hother => ?_, ?_⟩
  · exact (h.idle other hother).mono (Nat.le_refl _) rfl
  · exact List.forall_mem_singleton.2 (h.whole.mono (Nat.le_refl _) rfl)

end

end Pool

/-! ## Sessions -/

/-- What happened in a transaction on a server. -/
inductive Session (α : Type)
  /-- There was no connection. -/
  | refused (cause : Failure)
  /-- The transaction could not begin. -/
  | unbegun (connection : Nat) (fault : ServerFault)
  /-- The task failed, and a rollback was tried. -/
  | rolledBack (connection : Nat) (begun : Reply) (body : List Entry) (cause : Failure)
      (reply : Reply)
  /-- The task succeeded, and a commit was tried. -/
  | committed (connection : Nat) (begun : Reply) (body : List Entry) (value : α) (reply : Reply)

namespace Session

/-- What was sent, with the replies. -/
def entries (mode : Mode) : Session α → List Entry
  | refused _ => []
  | unbegun connection fault => [⟨connection, .control (beginText mode), .failed fault⟩]
  | rolledBack connection begun body _ reply =>
    ⟨connection, .control (beginText mode), begun⟩ :: body ++
      [⟨connection, .control rollbackText, reply⟩]
  | committed connection begun body _ reply =>
    ⟨connection, .control (beginText mode), begun⟩ :: body ++
      [⟨connection, .control commitText, reply⟩]

/-- What the transaction resulted in: the failure of the task, if it failed, whatever became of the
rollback. -/
def result : Session α → Except Failure α
  | refused cause => .error cause
  | unbegun _ fault => .error (.server fault)
  | rolledBack _ _ _ cause _ => .error cause
  | committed _ _ _ value reply => do
    reply.done?
    return value

/-- After a transaction was begun over a connection, a task sent a body there, and nothing that
begins or ends a transaction, and came to a result. -/
def Sends (server : Server σ) (schema : String) (mode : Mode) (task : Task ρ α) (state : ρ)
    (pool : Pool (σ × List Entry)) (connection : Nat) (body : List Entry)
    (result : Except Failure α) : Prop :=
  Within connection body ∧ ∃ opened,
    begin server.recording mode pool = (.ok ⟨connection⟩, opened) ∧
    let outcome := (warehouse server.recording schema).converse (task state) ⟨connection⟩ opened
    outcome.result = result ∧ outcome.warehouse.log = opened.log ++ body

/-- The session is that of a task that starts in a state, over a pool. -/
inductive Of (server : Server σ) (schema : String) (mode : Mode) (task : Task ρ α) (state : ρ)
    (pool : Pool (σ × List Entry)) : Session α → Prop
  | refused {cause : Failure} (hcause : (begin server.recording mode pool).1 = .error cause) :
      Of server schema mode task state pool (.refused cause)
  | unbegun {connection : Nat} {fault : ServerFault}
      (hfault : (begin server.recording mode pool).1 = .error (.server fault)) :
      Of server schema mode task state pool (.unbegun connection fault)
  | rolledBack {connection : Nat} {begun reply : Reply} {body : List Entry} {cause : Failure}
      (hbegun : begun.isFailed = false)
      (hbody : Sends server schema mode task state pool connection body (.error cause)) :
      Of server schema mode task state pool (.rolledBack connection begun body cause reply)
  | committed {connection : Nat} {begun reply : Reply} {body : List Entry} {value : α}
      (hbegun : begun.isFailed = false) (hclean : Clean body)
      (hbody : Sends server schema mode task state pool connection body (.ok value)) :
      Of server schema mode task state pool (.committed connection begun body value reply)

end Session

theorem Reply.done?_eq {reply : Reply} (h : reply.isFailed = false) : reply.done? = .ok () := by
  cases reply with
  | failed fault => cases h
  | _ => rfl

theorem beginText_mem (mode : Mode) : beginText mode ∈ controlTexts := by
  cases mode <;> decide

theorem not_breaks_begin (mode : Mode) (connection : Nat) (reply : Reply) :
    ¬Entry.Breaks ⟨connection, .control (beginText mode), reply⟩ := by
  rintro ⟨hmem, -⟩
  revert hmem
  cases mode <;> simp [beginText, commitText, rollbackText]

theorem Statement.IsWork.not_breaks {entry : Entry} (h : entry.statement.IsWork) :
    ¬entry.Breaks := by
  rintro ⟨hmem, -⟩
  rcases List.mem_cons.1 hmem with hcommit | hmem
  · exact h.1 _ hcommit
  · exact h.1 _ (List.mem_singleton.1 hmem)

section

variable {pool : Pool (σ × List Entry)}

theorem begin_recording (server : Server σ) (mode : Mode) (h : pool.Tidy) :
    (∃ cause after, begin server.recording mode pool = (.error cause, after) ∧
      after.log = pool.log ∧ after.Tidy) ∨
    (∃ connection fault after, begin server.recording mode pool = (.error (.server fault), after) ∧
      after.log = pool.log ++ [⟨connection, .control (beginText mode), .failed fault⟩] ∧
      after.Tidy) ∨
    ∃ connection begun after, begin server.recording mode pool = (.ok ⟨connection⟩, after) ∧
      begun.isFailed = false ∧
      after.log = pool.log ++ [⟨connection, .control (beginText mode), begun⟩] ∧
      after.Lent connection := by
  rcases h.take server with ⟨cause, taken, htake, hlog, htidy⟩ |
    ⟨connection, taken, htake, hlog, hlent⟩
  · refine Or.inl ⟨.pool cause "opening transaction", taken, ?_, hlog, htidy⟩
    simp only [begin, htake]
  obtain ⟨begun, after, hsend, hadds⟩ := taken.send_control server connection (beginText_mem mode)
  have hlent' : after.Lent connection :=
    hlent.adds hadds (List.forall_mem_singleton.2 rfl)
      (List.forall_mem_singleton.2 (not_breaks_begin mode connection begun))
  have hlog' : after.log = pool.log ++ [⟨connection, .control (beginText mode), begun⟩] := by
    rw [hadds.log, hlog]
  cases hfailed : begun.isFailed with
  | true =>
    cases begun with
    | failed fault =>
      refine Or.inr (Or.inl ⟨connection, fault, after.giveBack connection, ?_, hlog',
        hlent'.giveBack⟩)
      simp only [begin, htake, hsend]
      rfl
    | _ => cases hfailed
  | false =>
    refine Or.inr (Or.inr ⟨connection, begun, after, ?_, hfailed, hlog', hlent'⟩)
    simp only [begin, htake, hsend, Reply.done?_eq hfailed]

theorem finish_recording (server : Server σ) (sql : String) (hsql : sql ∈ controlTexts)
    {tx : Transaction} (h : pool.Lent tx.connection) :
    ∃ reply after, finish server.recording sql tx pool = (reply.done?, after) ∧
      after.log = pool.log ++ [⟨tx.connection, .control sql, reply⟩] ∧ after.Tidy := by
  obtain ⟨reply, sent, hsend, hadds⟩ := pool.send_control server tx.connection hsql
  cases hfailed : reply.isFailed with
  | true =>
    refine ⟨reply, sent, ?_, hadds.log, ?_⟩
    · cases reply with
      | failed fault =>
        simp only [finish, hsend]
        rfl
      | _ => cases hfailed
    · exact h.tidy_adds hadds (List.forall_mem_singleton.2 rfl) (List.pairwise_singleton _ _)
  | false =>
    have hlent : sent.Lent tx.connection :=
      h.adds hadds (List.forall_mem_singleton.2 rfl) (List.forall_mem_singleton.2 fun hbreaks => by
        rw [hbreaks.2] at hfailed
        cases hfailed)
    refine ⟨reply, sent.giveBack tx.connection, ?_, hadds.log, hlent.giveBack⟩
    simp only [finish, hsend, Reply.done?_eq hfailed]

/-- **A transaction** over a tidy pool is one session of its task, and leaves the pool tidy. -/
theorem transact_recording (server : Server σ) (schema : String) (mode : Mode) (task : Task ρ α)
    (state : ρ) (h : pool.Tidy) :
    ∃ session state' after,
      (warehouse server.recording schema).transact mode task state pool =
        (Session.result session, state', after) ∧
      session.Of server schema mode task state pool ∧ after.log = pool.log ++ session.entries mode ∧
      after.Tidy := by
  have hbegin : (warehouse server.recording schema).begin = begin server.recording := rfl
  rcases begin_recording server mode h with ⟨cause, after, hrefused, hlog, htidy⟩ |
    ⟨connection, fault, after, hfailed, hlog, htidy⟩ |
    ⟨connection, begun, opened, hbegun, hok, hlog, hlent⟩
  · refine ⟨.refused cause, state, after, ?_, .refused (by rw [hrefused]), ?_, htidy⟩
    · simp only [Warehouse.transact, hbegin, hrefused]
      rfl
    · rw [hlog, Session.entries, List.append_nil]
  · refine ⟨.unbegun connection fault, state, after, ?_, .unbegun (by rw [hfailed]), hlog, htidy⟩
    simp only [Warehouse.transact, hbegin, hfailed]
    rfl
  obtain ⟨htx, body, hadds, hwithin, hclean⟩ :=
    converse_recording server schema (task state) ⟨connection⟩ opened
  have hlent' := hlent.adds hadds (fun entry hentry => (hwithin entry hentry).1)
    fun entry hentry => (hwithin entry hentry).2.not_breaks
  have hcommit : (warehouse server.recording schema).commit = finish server.recording commitText :=
    rfl
  have hrollback : (warehouse server.recording schema).rollback =
      finish server.recording rollbackText := rfl
  simp only [Warehouse.transact, hbegin, hbegun]
  rcases houtcome : (warehouse server.recording schema).converse (task state) ⟨connection⟩ opened
    with ⟨cause | value, state', tx, talked⟩
  all_goals
    rw [houtcome] at htx hadds hclean hlent'
    subst htx
  · obtain ⟨reply, after, hfinish, hend, htidy⟩ :=
      finish_recording server rollbackText (by decide) hlent'
    have hsends : Session.Sends server schema mode task state pool connection body (.error cause) :=
      ⟨hwithin, opened, hbegun, by rw [houtcome], by rw [houtcome, hadds.log]⟩
    refine ⟨.rolledBack connection begun body cause reply, state', after, ?_,
      .rolledBack hok hsends, ?_, htidy⟩
    · simp only [hrollback, hfinish]
      rfl
    · rw [hend, hadds.log, hlog, Session.entries]
      simp
  · obtain ⟨reply, after, hfinish, hend, htidy⟩ :=
      finish_recording server commitText (by decide) hlent'
    have hsends : Session.Sends server schema mode task state pool connection body (.ok value) :=
      ⟨hwithin, opened, hbegun, by rw [houtcome], by rw [houtcome, hadds.log]⟩
    refine ⟨.committed connection begun body value reply, state', after, ?_,
      .committed hok (hclean value rfl) hsends, ?_, htidy⟩
    · simp only [hcommit, hfinish, Session.result]
      rcases reply.done? with cause | ⟨⟩ <;> rfl
    · rw [hend, hadds.log, hlog, Session.entries]
      simp

end

/-- A new pool, whose first connection was tested, is tidy. -/
theorem tidy_connect (server : Server σ) (s : σ) {pool : Pool (σ × List Entry)}
    {s' : σ × List Entry} (h : connect server.recording (s, []) = (.ok pool, s')) : pool.Tidy := by
  unfold connect at h
  rcases (Pool.tidy_new s).take server with ⟨cause, taken, htake, -, -⟩ |
    ⟨connection, taken, htake, -, hlent⟩
  · rw [htake] at h
    cases h
  rcases taken.send_cases server connection (.control testText) with ⟨fault, hsend⟩ |
    ⟨reply, after, hsend, hadds⟩
  · simp only [htake, hsend] at h
    cases h
  · simp only [htake, hsend] at h
    have htest : ¬Entry.Breaks ⟨connection, .control testText, reply⟩ := by
      rintro ⟨hmem, -⟩
      revert hmem
      simp [testText, commitText, rollbackText]
    have hlent' := hlent.adds hadds (List.forall_mem_singleton.2 rfl)
      (List.forall_mem_singleton.2 htest)
    cases hdone : reply.done? with
    | error cause =>
      rw [hdone] at h
      cases h
    | ok =>
      rw [hdone] at h
      cases h
      exact hlent'.giveBack

/-! ## Imports -/

open Import (IdMap Passes Report Stage run runFrom)

/-- What an import does over a pool of connections, session by session. -/
structure Disciplined (server : Server σ) (schema : String) (stages : List Stage) (ids : IdMap)
    (pool : Pool (σ × List Entry)) (result : Except Failure (List Report))
    (after : Pool (σ × List Entry)) (sessions : List (Session Report)) : Prop where
  /-- What was sent is what was sent in the sessions. -/
  sent : after.log = pool.log ++ sessions.flatMap (Session.entries .readWrite)
  /-- The sessions are those of the first stages, each where those before have left off. -/
  own : ∀ place session, sessions[place]? = some session →
    ∃ stage reports ids' before, stages[place]? = some stage ∧
      Passes (warehouse server.recording schema) ids pool (stages.take place) reports ids' before ∧
      session.Of server schema .readWrite stage.work ids' before
  /-- After a failure there is no further session. -/
  stops : ∀ session ∈ sessions.dropLast, ∃ report, session.result = .ok report
  /-- Without a failure, no stage is left out. -/
  complete : ∀ reports, result = .ok reports → sessions.length = stages.length
  /-- The result is the first failure, or else the reports. -/
  outcome : result = sessions.mapM Session.result
  /-- Nothing was sent, or can be, over a connection on which the end of a transaction failed. -/
  tidy : after.Tidy

section

variable {server : Server σ} {schema : String} {stage : Stage} {rest : List Stage}
  {ids ids' : IdMap} {pool middle after : Pool (σ × List Entry)} {session : Session Report}

theorem exists_first (hof : session.Of server schema .readWrite stage.work ids pool) :
    ∃ first reports ids' before, (stage :: rest)[0]? = some first ∧
      Passes (warehouse server.recording schema) ids pool ((stage :: rest).take 0) reports ids'
        before ∧
      session.Of server schema .readWrite first.work ids' before :=
  ⟨stage, [], ids, pool, rfl, .nil ids pool, hof⟩

/-- An import that fails in its first session. -/
theorem disciplined_of_stop {cause : Failure} (hresult : session.result = .error cause)
    (hof : session.Of server schema .readWrite stage.work ids pool)
    (hlog : after.log = pool.log ++ session.entries .readWrite) (htidy : after.Tidy) :
    Disciplined server schema (stage :: rest) ids pool (.error cause) after [session] where
  sent := by rw [hlog, List.flatMap_singleton]
  own place other hplace := by
    cases place with
    | zero =>
      cases hplace
      exact exists_first hof
    | succ place => simp at hplace
  stops := List.forall_mem_nil _
  complete reports hok := by cases hok
  outcome := by
    rw [List.mapM_cons, hresult]
    rfl
  tidy := htidy

/-- An import that goes on after its first session. -/
theorem disciplined_of_cons {report : Report} {result : Except Failure (List Report)}
    {sessions : List (Session Report)} (hresult : session.result = .ok report)
    (htransact : (warehouse server.recording schema).transact .readWrite stage.work ids pool =
      (.ok report, ids', middle))
    (hof : session.Of server schema .readWrite stage.work ids pool)
    (hlog : middle.log = pool.log ++ session.entries .readWrite)
    (hrest : Disciplined server schema rest ids' middle result after sessions) :
    Disciplined server schema (stage :: rest) ids pool (result.map (report :: ·)) after
      (session :: sessions) where
  sent := by rw [hrest.sent, hlog, List.flatMap_cons, List.append_assoc]
  own place other hplace := by
    cases place with
    | zero =>
      cases hplace
      exact exists_first hof
    | succ place =>
      obtain ⟨later, reports, ids'', before, hlater, hpasses, hof'⟩ := hrest.own place other hplace
      exact ⟨later, report :: reports, ids'', before, hlater, .cons htransact hpasses, hof'⟩
  stops := by
    cases sessions with
    | nil => exact List.forall_mem_nil _
    | cons next more => exact List.forall_mem_cons.2 ⟨⟨report, hresult⟩, hrest.stops⟩
  complete reports hok := by
    cases result with
    | error cause => cases hok
    | ok others => exact congrArg Nat.succ (hrest.complete others rfl)
  outcome := by
    rw [List.mapM_cons, hresult, ← hrest.outcome]
    cases result <;> rfl
  tidy := hrest.tidy

end

theorem disciplined_runFrom (server : Server σ) (schema : String) (stages : List Stage)
    (ids : IdMap) {pool : Pool (σ × List Entry)} (h : pool.Tidy) :
    let outcome := runFrom (warehouse server.recording schema) ids pool stages
    ∃ sessions, Disciplined server schema stages ids pool outcome.1 outcome.2 sessions := by
  induction stages generalizing ids pool with
  | nil =>
    refine ⟨[], (List.append_nil _).symm, ?_, List.forall_mem_nil _, fun _ _ => rfl, rfl, h⟩
    intro place session hplace
    simp at hplace
  | cons stage rest ih =>
    obtain ⟨session, ids', after, htransact, hof, hlog, htidy⟩ :=
      transact_recording server schema .readWrite stage.work ids h
    cases hresult : session.result with
    | error cause =>
      rw [hresult] at htransact
      simp only [runFrom, htransact]
      exact ⟨[session], disciplined_of_stop hresult hof hlog htidy⟩
    | ok report =>
      rw [hresult] at htransact
      obtain ⟨sessions, hrest⟩ := ih ids' htidy
      have hcons := disciplined_of_cons hresult htransact hof hlog hrest
      simp only [runFrom, htransact]
      rcases hrun : runFrom (warehouse server.recording schema) ids' after rest with
        ⟨cause | reports, last⟩
      all_goals
        rw [hrun] at hcons
        exact ⟨session :: sessions, hcons⟩

/-- **An import over a server** keeps its transactions apart, whatever the stages do and the server
replies, and whichever idle connections are used again. -/
theorem disciplined_run (server : Server σ) (schema : String) (stages : List Stage)
    {pool : Pool (σ × List Entry)} (h : pool.Tidy) :
    let (result, after) := run (warehouse server.recording schema) stages pool
    run (warehouse server schema) stages pool.unrecorded = (result, after.unrecorded) ∧
      ∃ sessions, Disciplined server schema stages {} pool result after sessions :=
  ⟨run_recording server schema stages pool, disciplined_runFrom server schema stages {} h⟩

/-- A server that returns no ids of what it inserts, and cannot roll back. -/
def Server.stubborn : Server Unit where
  connect _ s := (.ok (), s)
  send _ statement s :=
    match statement with
    | .insert _ => (.rows [], s)
    | .control sql => (if sql = rollbackText then .failed (.connection "lost") else .done, s)
    | _ => (.done, s)

/-- One professor and nothing else. -/
def oneProf : Import.Sources where
  legacy := Legacy.Store.ofData [("professor", [.object [("_id", .text "ada")]])] []
  batchSize := 1
  secret _ := "code"

/-- One stage is committed, the next one fails, and so does the rollback; a third is not begun. -/
theorem disciplined_run_of_stubborn :
    let pool : Pool (Unit × List Entry) := { server := ((), []) }
    let stages := (Import.selectStages (some [.users, .profs, .requisites])).map
      (Import.StageKind.stage oneProf)
    let outcome := run (warehouse Server.stubborn.recording "public") stages pool
    pool.Tidy ∧
      (outcome.1 = .error (.warehouse "prof: inserted 1 rows but got 0 ids") ∧
        outcome.2.idle = [] ∧
        (outcome.2.log.map fun entry => (entry.connection, entry.statement.sql, entry.reply)) =
          [(0, "BEGIN", .done), (0, "COMMIT", .done), (0, "BEGIN", .done),
            (0, "INSERT INTO \"public\".\"prof\" (\"name\", \"code\") VALUES ('', 'ada') " ++
              "RETURNING id", .rows []),
            (0, "ROLLBACK", .failed (.connection "lost"))]) ∧
      ∃ sessions,
        Disciplined Server.stubborn "public" stages {} pool outcome.1 outcome.2 sessions := by
  intro pool stages outcome
  exact ⟨Pool.tidy_new (), by decide +kernel,
    (disciplined_run Server.stubborn "public" stages (Pool.tidy_new ())).2⟩

end Registrar.Postgres
