import Registrar.Proofs.Import.Places
import Registrar.Proofs.Postgres.Naming
import Registrar.Proofs.Postgres.Recording
/-!
# One id for each inserted row

Records are inserted batch by batch, and nothing is known of what the server replies. A batch is
granted only by a reply with one id for each of its rows (`Reply.Grants`); any other reply ends the
task before the next batch (`Transcript`). So a task that succeeds has an id for every record, the
one that was returned at the place of the record in its own batch (`Inserted`), and a surplus in one
batch never makes up for what another one lacks.
-/
namespace Registrar

/-! ## Places in batches -/

/-- Of pieces that are as long as the batches of some items, the place of an item tells the piece
and the place in it. -/
theorem Sql.getElem?_flatten_of_chunk {α β : Type} {size : Nat} {items : List α}
    {pieces : List (List β)}
    (h : List.Forall₂ (fun batch piece => piece.length = batch.length) (chunk size items) pieces)
    {i : Nat} (hi : i < items.length) :
    pieces.flatten[i]? = pieces[i / max size 1]?.bind fun piece => piece[i % max size 1]? := by
  fun_induction chunk size items generalizing pieces i with
  | case1 => simp at hi
  | case2 item rest ih =>
    cases h with
    | @cons _ piece _ pieces hlength hrest =>
      simp only [List.length_cons, List.length_take] at hlength hi
      rw [List.flatten_cons]
      by_cases hfirst : i < max size 1
      · rw [List.getElem?_append_left (by omega), Nat.div_eq_of_lt hfirst, Nat.mod_eq_of_lt hfirst]
        rfl
      · -- An item stands behind the first piece, so that piece is full and the places shift by it.
        have hfull : piece.length = max size 1 := by omega
        have hlater := @ih pieces hrest (i - max size 1) (by rw [List.length_drop]; omega)
        have hdiv : i / max size 1 = (i - max size 1) / max size 1 + 1 :=
          Nat.div_eq_sub_div (by omega) (by omega)
        have hmod : i % max size 1 = (i - max size 1) % max size 1 :=
          Nat.mod_eq_sub_mod (by omega)
        rw [List.getElem?_append_right (by omega), hfull, hlater, hdiv, hmod,
          List.getElem?_cons_succ]

/-! ## Conversations one after another -/

theorem Warehouse.converse_bind {ω τ σ α β : Type} (warehouse : Warehouse ω τ)
    (program : Program σ α) (f : α → σ → Program σ β) (tx : τ) (w : ω) :
    warehouse.converse (program.bind f) tx w =
      let outcome := warehouse.converse program tx w
      match outcome.result with
      | .ok value =>
        warehouse.converse (f value outcome.state) outcome.transaction outcome.warehouse
      | .error cause => ⟨.error cause, outcome.state, outcome.transaction, outcome.warehouse⟩ := by
  induction program generalizing tx w with
  | done value state => rfl
  | fail cause state => rfl
  | ask request state next ih =>
    simp only [Program.bind, converse]
    rcases warehouse.answer request tx w with ⟨_ | reply, tx, w⟩
    · rfl
    · exact ih reply tx w

namespace Postgres

open Import (IdMap Work)
open Sql (Layout Rows)
open Sql.Identifier (Valid)

/-! ## Replies -/

/-- The cell holds a whole number of 64 bits, or a text that is one. -/
def Cell.Shows (cell : Cell) (id : Int) : Prop :=
  cell = .whole id ∨ ∃ raw, cell = .text raw ∧ Number.readInt64 raw.toList = .ok id

/-- The first cell of the row shows the id. -/
def ShowsId (row : List Cell) (id : Int) : Prop := ∃ cell, row.head? = some cell ∧ cell.Shows id

namespace Reply

/-- The rows of a reply. -/
def returned : Reply → List (List Cell)
  | .rows returned => returned
  | _ => []

/-- The reply has so many rows, and their first cells show the ids. -/
structure Grants (reply : Reply) (count : Nat) (ids : List Int) : Prop where
  succeeded : reply.isFailed = false
  ids : List.Forall₂ ShowsId reply.returned ids
  count : reply.returned.length = count

/-- The server refused, or some row shows no id, or there are more or fewer rows. -/
def Faulty (reply : Reply) (count : Nat) : Prop :=
  reply.isFailed = true ∨ (∃ row ∈ reply.returned, ∀ id, ¬ShowsId row id) ∨
    reply.returned.length ≠ count

theorem exists_grants_iff {reply : Reply} {count : Nat} :
    (∃ ids, reply.Grants count ids) ↔ ¬reply.Faulty count := by
  constructor
  · rintro ⟨ids, hsucceeded, hids, hcount⟩ (hfailed | ⟨row, hrow, hnone⟩ | hne)
    · exact absurd (hsucceeded.symm.trans hfailed) (by decide)
    · obtain ⟨id, -, hid⟩ := exists_of_forall₂ hids hrow
      exact hnone id hid
    · exact hne hcount
  · intro hsound
    simp only [Faulty, not_or, not_exists, not_and, not_forall, not_not, Bool.not_eq_true] at hsound
    obtain ⟨hsucceeded, hshown, hcount⟩ := hsound
    choose! id hid using hshown
    exact ⟨reply.returned.map id, hsucceeded,
      List.forall₂_map_right_iff.2 (List.forall₂_same.2 hid), hcount⟩

end Reply

theorem idOf_eq_ok_iff {table : String} {row : List Cell} {id : Int} :
    idOf table row = .ok id ↔ ShowsId row id := by
  unfold idOf ShowsId Cell.Shows
  cases row.head? with
  | none => simp
  | some cell =>
    cases cell with
    | text raw => cases hread : Number.readInt64 raw.toList <;> simp [hread]
    | _ => simp

theorem Reply.rows?_eq_ok_iff {reply : Reply} {rows : List (List Cell)} :
    reply.rows? = .ok rows ↔ reply.isFailed = false ∧ rows = reply.returned := by
  cases reply <;> simp [rows?, isFailed, returned, eq_comm]

theorem idsOf_eq_ok_iff {table : String} {count : Nat} {rows : List (List Cell)} {ids : List Int} :
    idsOf table count rows = .ok ids ↔ List.Forall₂ ShowsId rows ids ∧ rows.length = count := by
  have hread : ∀ read, rows.mapM (idOf table) = .ok read ↔ List.Forall₂ ShowsId rows read := by
    intro read
    rw [mapM_eq_ok_iff, map_eq_map_iff_forall₂]
    simp only [idOf_eq_ok_iff]
  simp only [idsOf, bind_eq_ok_iff, hread]
  constructor
  · rintro ⟨read, hshown, hok⟩
    split at hok
    · rename_i hcount
      cases hok
      exact ⟨hshown, hshown.length_eq.trans hcount⟩
    · cases hok
  · rintro ⟨hshown, hcount⟩
    exact ⟨ids, hshown, if_pos (hshown.length_eq.symm.trans hcount)⟩

/-- What is read of a reply are the ids that it grants. -/
theorem readIds_eq_ok_iff {table : String} {count : Nat} {reply : Reply} {ids : List Int} :
    (do idsOf table count (← reply.rows?)) = .ok ids ↔ reply.Grants count ids := by
  simp only [bind_eq_ok_iff, Reply.rows?_eq_ok_iff, idsOf_eq_ok_iff]
  constructor
  · rintro ⟨rows, ⟨hsucceeded, rfl⟩, hshown, hcount⟩
    exact ⟨hsucceeded, hshown, hcount⟩
  · rintro ⟨hsucceeded, hshown, hcount⟩
    exact ⟨_, ⟨hsucceeded, rfl⟩, hshown, hcount⟩

/-! ## One batch -/

/-- The statement of a batch of rows can be made and sent. -/
def Sendable (schema : String) (rows : Rows) : Prop :=
  ∃ sql, insertStatement schema rows = .ok sql ∧ '\x00' ∉ sql.toList

/-- The statement of a batch of rows was sent over a connection. -/
structure Entry.Inserts (schema : String) (connection : Nat) (rows : Rows) (entry : Entry) :
    Prop where
  connection : entry.connection = connection
  statement : ∃ sql, insertStatement schema rows = .ok sql ∧ entry.statement = .insert sql

/-- What is sent for a batch of rows, and what comes of it. -/
inductive Batch (schema : String) (connection : Nat) (rows : Rows) :
    List Entry → Except Failure (List Int) → Prop
  | unsent (h : ¬Sendable schema rows) (cause : Failure) :
      Batch schema connection rows [] (.error cause)
  | refused {entry : Entry} (h : entry.Inserts schema connection rows)
      (hfaulty : entry.reply.Faulty rows.rows.length) (cause : Failure) :
      Batch schema connection rows [entry] (.error cause)
  | granted {entry : Entry} (h : entry.Inserts schema connection rows) {ids : List Int}
      (hgrants : entry.reply.Grants rows.rows.length ids) :
      Batch schema connection rows [entry] (.ok ids)

variable {σ : Type}

theorem answer_insert (server : Server σ) (schema : String) {rows : Rows} (hrows : rows.rows ≠ [])
    (tx : Transaction) (pool : Pool (σ × List Entry)) :
    ∃ result after sent, answer server.recording schema (.insert rows) tx pool =
        (result, tx, after) ∧
      after.log = pool.log ++ sent ∧ Batch schema tx.connection rows sent result := by
  simp only [answer, if_neg hrows]
  cases hmade : insertStatement schema rows with
  | error cause =>
    refine ⟨_, pool, [], rfl, (List.append_nil _).symm, .unsent ?_ _⟩
    rintro ⟨sql, hsql, -⟩
    cases hmade.symm.trans hsql
  | ok sql =>
    have hexchange : ∀ read : Reply → Except Failure (List Int),
        exchange server.recording (do return .insert (← .ok sql)) read tx pool =
          (read (pool.send server.recording tx.connection (.insert sql)).1, tx,
            (pool.send server.recording tx.connection (.insert sql)).2) := fun _ => rfl
    rw [hexchange]
    by_cases hnul : '\x00' ∈ sql.toList
    · have hunsent : ¬Sendable schema rows := by
        rintro ⟨sql', hsql, hsafe⟩
        cases hmade.symm.trans hsql
        exact hsafe hnul
      have hsend : pool.send server.recording tx.connection (.insert sql) =
          (.failed (.connection "error encoding message to server"), pool) :=
        if_pos (List.contains_iff_mem.2 hnul)
      rw [hsend]
      exact ⟨_, pool, [], rfl, (List.append_nil _).symm, .unsent hunsent _⟩
    · have hsafe : '\x00' ∉ (Statement.insert sql).sql.toList := hnul
      obtain ⟨reply, s, hsend⟩ := pool.send_recording server hsafe tx.connection
      rw [hsend]
      have hinserts : Entry.Inserts schema tx.connection rows
          ⟨tx.connection, .insert sql, reply⟩ := ⟨rfl, sql, hmade, rfl⟩
      refine ⟨_, _, _, rfl, rfl, ?_⟩
      cases hread : (do idsOf rows.table rows.rows.length (← reply.rows?)) with
      | ok ids => exact .granted hinserts (readIds_eq_ok_iff.1 hread)
      | error cause =>
        refine .refused hinserts (Classical.not_not.1 fun hsound => ?_) cause
        obtain ⟨ids, hgrants⟩ := Reply.exists_grants_iff.2 hsound
        cases hread.symm.trans (readIds_eq_ok_iff.2 hgrants)

/-! ## Batch after batch -/

/-- What is sent for batches one after another, and what comes of it: the first one that fails is
the last one. -/
inductive Transcript (schema : String) (connection : Nat) :
    List Rows → List Entry → Except Failure (List Int) → Prop
  | done : Transcript schema connection [] [] (.ok [])
  | stop {rows : Rows} {rest : List Rows} {sent : List Entry} {cause : Failure}
      (h : Batch schema connection rows sent (.error cause)) :
      Transcript schema connection (rows :: rest) sent (.error cause)
  | step {rows : Rows} {rest : List Rows} {entry : Entry} {ids : List Int} {more : List Entry}
      {result : Except Failure (List Int)} (h : entry.Inserts schema connection rows)
      (hgrants : entry.reply.Grants rows.rows.length ids)
      (hrest : Transcript schema connection rest more result) :
      Transcript schema connection (rows :: rest) (entry :: more) (result.map (ids ++ ·))

theorem converse_insertAll (server : Server σ) (schema : String) (batches : List Rows)
    (hbatches : ∀ rows ∈ batches, rows.rows ≠ []) (ids : IdMap) (tx : Transaction)
    (pool : Pool (σ × List Entry)) :
    let outcome := (warehouse server.recording schema).converse (Work.insertAll batches ids) tx pool
    outcome.state = ids ∧ outcome.transaction = tx ∧ ∃ sent,
      outcome.warehouse.log = pool.log ++ sent ∧
      Transcript schema tx.connection batches sent outcome.result := by
  induction batches generalizing pool with
  | nil => exact ⟨rfl, rfl, [], (List.append_nil _).symm, .done⟩
  | cons rows rest ih =>
    have hall : Work.insertAll (rows :: rest) ids = .ask (.insert rows) ids fun new =>
        (Work.insertAll rest ids).bind fun more state => .done (new ++ more) state := rfl
    obtain ⟨result, after, sent, hanswer, hlog, hbatch⟩ :=
      answer_insert server schema (hbatches rows List.mem_cons_self) tx pool
    have hanswer' : (warehouse server.recording schema).answer (.insert rows) tx pool =
        (result, tx, after) := hanswer
    simp only [hall, Warehouse.converse, hanswer']
    cases hbatch with
    | unsent h cause => exact ⟨rfl, rfl, [], hlog, .stop (.unsent h cause)⟩
    | refused h hfaulty cause => exact ⟨rfl, rfl, _, hlog, .stop (.refused h hfaulty cause)⟩
    | @granted entry h new hgrants =>
      obtain ⟨hstate, htx, more, hmore, hrest⟩ :=
        ih (fun rows hrows => hbatches rows (List.mem_cons_of_mem _ hrows)) after
      rw [hlog, List.append_assoc] at hmore
      simp only [Warehouse.converse_bind]
      rcases houtcome : (warehouse server.recording schema).converse (Work.insertAll rest ids) tx
        after with ⟨cause | ids', state, tx', last⟩
      all_goals
        rw [houtcome] at hstate htx hmore hrest
        exact ⟨hstate, htx, entry :: more, hmore, .step h hgrants hrest⟩

/-- The batch at a place has failed: its statement was not sent, or it was the last one that was,
and the reply grants nothing. -/
def FailsAt (schema : String) (sent : List Entry) (place : Nat) (rows : Rows) : Prop :=
  (sent.length = place ∧ ¬Sendable schema rows) ∨
    ∃ entry, sent.length = place + 1 ∧ sent[place]? = some entry ∧
      entry.reply.Faulty rows.rows.length

namespace Transcript

variable {schema : String} {connection : Nat} {batches : List Rows} {sent : List Entry}
  {result : Except Failure (List Int)}

/-- What is sent are statements of the first batches, in order. -/
theorem inserts (h : Transcript schema connection batches sent result) {place : Nat} {entry : Entry}
    (hentry : sent[place]? = some entry) :
    ∃ rows, batches[place]? = some rows ∧ entry.Inserts schema connection rows := by
  induction h generalizing place with
  | done => simp at hentry
  | stop h =>
    cases h with
    | unsent => simp at hentry
    | refused h =>
      cases place with
      | zero =>
        cases hentry
        exact ⟨_, rfl, h⟩
      | succ place => simp at hentry
  | step h hgrants hrest ih =>
    cases place with
    | zero =>
      cases hentry
      exact ⟨_, rfl, h⟩
    | succ place => exact ih hentry

/-- A transcript that ends well has a statement for every batch, with a reply that grants it. -/
theorem granted (h : Transcript schema connection batches sent result) {ids : List Int}
    (hok : result = .ok ids) :
    ∃ granted : List (Entry × List Int), sent = granted.map Prod.fst ∧
      ids = (granted.map Prod.snd).flatten ∧
      List.Forall₂ (fun rows grant => grant.1.reply.Grants rows.rows.length grant.2)
        batches granted := by
  induction h generalizing ids with
  | done =>
    cases hok
    exact ⟨[], rfl, rfl, .nil⟩
  | stop h => cases hok
  | @step rows rest entry new more result h hgrants hrest ih =>
    cases result with
    | error cause => cases hok
    | ok later =>
      cases hok
      obtain ⟨granted, hsent, hids, hall⟩ := ih rfl
      exact ⟨(entry, new) :: granted, by rw [hsent]; rfl, by rw [hids]; rfl, .cons hgrants hall⟩

theorem failsAt (h : Transcript schema connection batches sent result) {cause : Failure}
    (hfail : result = .error cause) :
    ∃ place rows, batches[place]? = some rows ∧ FailsAt schema sent place rows := by
  induction h generalizing cause with
  | done => cases hfail
  | stop h =>
    cases h with
    | unsent h => exact ⟨0, _, rfl, Or.inl ⟨rfl, h⟩⟩
    | refused h hfaulty => exact ⟨0, _, rfl, Or.inr ⟨_, rfl, rfl, hfaulty⟩⟩
  | @step rows rest entry new more result h hgrants hrest ih =>
    cases result with
    | ok later => cases hfail
    | error cause =>
      obtain ⟨place, rows, hrows, hfails⟩ := ih rfl
      refine ⟨place + 1, rows, hrows, hfails.imp (fun ⟨hplace, h⟩ => ⟨by simp [hplace], h⟩) ?_⟩
      rintro ⟨entry, hplace, hentry, hfaulty⟩
      exact ⟨entry, by simp [hplace], hentry, hfaulty⟩

/-- A transcript ends with a failure exactly if some batch has failed. -/
theorem error_iff (h : Transcript schema connection batches sent result) :
    (∃ cause, result = .error cause) ↔
      ∃ place rows, batches[place]? = some rows ∧ FailsAt schema sent place rows := by
  refine ⟨fun ⟨cause, hfail⟩ => h.failsAt hfail, ?_⟩
  rintro ⟨place, rows, hrows, hfails⟩
  cases hresult : result with
  | error cause => exact ⟨cause, rfl⟩
  | ok ids =>
    -- Success has granted the batch at that place, which is against both ways of failing there.
    exfalso
    obtain ⟨granted, rfl, -, hall⟩ := h.granted hresult
    obtain ⟨grant, hgrant, hgrants⟩ := exists_getElem?_of_forall₂ hall hrows
    rcases hfails with ⟨hlength, -⟩ | ⟨entry, -, hentry, hfaulty⟩
    · have hplace := (List.getElem?_eq_some_iff.1 hgrant).1
      rw [List.length_map] at hlength
      omega
    · rw [List.getElem?_map, hgrant] at hentry
      cases hentry
      exact Reply.exists_grants_iff.1 ⟨_, hgrants⟩ hfaulty

end Transcript

/-! ## Records -/

variable {ρ : Type} {layout : Layout ρ} {records : List ρ}

/-- What becomes of records that are inserted over a connection: what was sent, and the result. -/
structure Inserted (schema : String) (connection size : Nat) (layout : Layout ρ)
    (records : List ρ) (sent : List Entry) (result : Except Failure (List Int)) : Prop where
  /-- Statements of the first batches were sent, in order. -/
  statements : ∀ (place : Nat) (entry : Entry), sent[place]? = some entry →
    ∃ rows, ((layout.toRows records).chunks size)[place]? = some rows ∧
      entry.Inserts schema connection rows
  /-- If there are ids, there is one for each record. -/
  complete : ∀ ids, result = .ok ids → ids.length = records.length ∧
    sent.length = ((layout.toRows records).chunks size).length
  /-- The id of a record is the one in the row of the reply at its place in its batch. -/
  own : ∀ ids, result = .ok ids → ∀ (i : Nat) (record : ρ), records[i]? = some record →
    ∃ rows entry row id, ((layout.toRows records).chunks size)[i / max size 1]? = some rows ∧
      rows.rows[i % max size 1]? = some (layout.values record) ∧
      sent[i / max size 1]? = some entry ∧
      entry.reply.returned[i % max size 1]? = some row ∧ ShowsId row id ∧ ids[i]? = some id
  fails_iff : (∃ cause, result = .error cause) ↔
    ∃ place rows, ((layout.toRows records).chunks size)[place]? = some rows ∧
      FailsAt schema sent place rows

section

variable {size : Nat} {granted : List (Entry × List Int)}
  (hall : List.Forall₂ (fun rows grant => grant.1.reply.Grants rows.rows.length grant.2)
    ((layout.toRows records).chunks size) granted)

include hall

/-- Every batch has as many ids as rows. -/
theorem lengths_granted :
    List.Forall₂ (fun batch piece => piece.length = batch.length)
      (Sql.chunk size (records.map layout.values)) (granted.map Prod.snd) := by
  refine List.forall₂_map_right_iff.2 ((List.forall₂_map_left_iff.1 hall).imp ?_)
  exact fun batch grant h => h.ids.length_eq.symm.trans h.count

theorem length_granted : (granted.map Prod.snd).flatten.length = records.length := by
  have hlengths : (granted.map Prod.snd).map List.length =
      (Sql.chunk size (records.map layout.values)).map List.length :=
    map_eq_map_iff_forall₂.2 (lengths_granted hall).flip
  rw [List.length_flatten, hlengths, ← List.length_flatten, Sql.flatten_chunk, List.length_map]

/-- Where every batch is granted, a record has the id at its place. -/
theorem own_id {i : Nat} {record : ρ} (hrecord : records[i]? = some record) :
    ∃ rows entry row id, ((layout.toRows records).chunks size)[i / max size 1]? = some rows ∧
      rows.rows[i % max size 1]? = some (layout.values record) ∧
      (granted.map Prod.fst)[i / max size 1]? = some entry ∧
      entry.reply.returned[i % max size 1]? = some row ∧ ShowsId row id ∧
      ((granted.map Prod.snd).flatten)[i]? = some id := by
  have hi : i < (records.map layout.values).length := by
    rw [List.length_map]
    exact (List.getElem?_eq_some_iff.1 hrecord).1
  have hlengths := lengths_granted hall
  have hplace : (records.map layout.values)[i]? =
      (Sql.chunk size (records.map layout.values))[i / max size 1]?.bind
        fun batch => batch[i % max size 1]? := by
    conv_lhs => rw [← Sql.flatten_chunk size (records.map layout.values)]
    exact Sql.getElem?_flatten_of_chunk (List.forall₂_same.2 fun _ _ => rfl) hi
  rw [List.getElem?_map, hrecord, Option.map_some, eq_comm, Option.bind_eq_some_iff] at hplace
  obtain ⟨batch, hbatch, hvalues⟩ := hplace
  have hrows : ((layout.toRows records).chunks size)[i / max size 1]? =
      some { layout.toRows records with rows := batch } := by
    rw [Rows.chunks, List.getElem?_map]
    exact congrArg _ hbatch
  obtain ⟨⟨entry, new⟩, hgrant, hgrants⟩ := exists_getElem?_of_forall₂ hall hrows
  have hrow : i % max size 1 < entry.reply.returned.length :=
    hgrants.count ▸ (List.getElem?_eq_some_iff.1 hvalues).1
  obtain ⟨id, hid, hshows⟩ :=
    exists_getElem?_of_forall₂ hgrants.ids (List.getElem?_eq_getElem hrow)
  refine ⟨_, entry, _, id, hrows, hvalues, ?_, List.getElem?_eq_getElem hrow, hshows, ?_⟩
  · rw [List.getElem?_map, hgrant]
    rfl
  · rw [Sql.getElem?_flatten_of_chunk hlengths hi, List.getElem?_map, hgrant]
    exact hid

end

theorem Transcript.inserted {schema : String} {connection size : Nat} {sent : List Entry}
    {result : Except Failure (List Int)}
    (h : Transcript schema connection ((layout.toRows records).chunks size) sent result) :
    Inserted schema connection size layout records sent result where
  statements _ _ hentry := h.inserts hentry
  complete ids hok := by
    obtain ⟨granted, rfl, rfl, hall⟩ := h.granted hok
    exact ⟨length_granted hall, by rw [List.length_map, hall.length_eq]⟩
  own ids hok i record hrecord := by
    obtain ⟨granted, rfl, rfl, hall⟩ := h.granted hok
    exact own_id hall hrecord
  fails_iff := h.error_iff

/-- Where all names are valid, only a NUL keeps a statement from being sent. -/
theorem exists_insertStatement {schema : String} {size : Nat} (hschema : Valid schema)
    (hnames : ∀ name ∈ layout.names, Valid name) {rows : Rows}
    (hrows : rows ∈ (layout.toRows records).chunks size) :
    ∃ sql, insertStatement schema rows = .ok sql := by
  obtain ⟨batch, -, rfl⟩ := List.mem_map.1 hrows
  exact (demands_statementOf schema (.insert _)).exists_ok_iff.2 ⟨hnames, fun _ => hschema⟩

/-- **Every inserted row gets exactly one id.** Whatever the server replies, inserting records fails
over the first batch whose statement cannot be sent or whose reply is not one id for each row, and
sends nothing after it; if it does not fail, each record has the id that came back at its own
place. What is noted of the statements changes nothing, and where all names are valid, every
statement can be made. -/
theorem insert_gets_own_ids (server : Server σ) (schema : String) (size : Nat)
    (hcomplete : layout.Complete records) (ids : IdMap) (tx : Transaction)
    (pool : Pool (σ × List Entry)) :
    let task := Work.insert size layout records
    let outcome := (warehouse server.recording schema).converse (task ids) tx pool
    ((warehouse server schema).converse (task ids) tx pool.unrecorded).result = outcome.result ∧
    (∃ sent, outcome.warehouse.log = pool.log ++ sent ∧
      Inserted schema tx.connection size layout records sent outcome.result) ∧
    (Valid schema → (∀ name ∈ layout.names, Valid name) →
      ∀ rows ∈ (layout.toRows records).chunks size,
        ∃ sql, insertStatement schema rows = .ok sql) := by
  intro task outcome
  have htask : task ids = Work.insertAll ((layout.toRows records).chunks size) ids := by
    simp only [task, Work.insert, hcomplete.rowsOf_eq]
    rfl
  have hbatches : ∀ rows ∈ (layout.toRows records).chunks size, rows.rows ≠ [] := by
    intro rows hrows
    obtain ⟨batch, hbatch, rfl⟩ := List.mem_map.1 hrows
    exact Sql.ne_nil_of_mem_chunk hbatch
  refine ⟨?_, ?_, fun hschema hnames rows => exists_insertStatement hschema hnames⟩
  · rw [(mirrors_recording server schema).embeds.converse]
  · obtain ⟨-, -, sent, hlog, htranscript⟩ :=
      converse_insertAll server schema _ hbatches ids tx pool
    rw [← htask] at hlog htranscript
    exact ⟨sent, hlog, htranscript.inserted⟩

/-- Three saved courses are inserted in two batches. A surplus in the first reply is a failure, even
if the second one lacks as much. -/
theorem insert_gets_own_ids_of_script :
    let saved : List Import.ShortlistRow := [⟨1, 10⟩, ⟨2, 10⟩, ⟨3, 10⟩]
    let outcome (script : List Reply) :=
      (warehouse Server.scripted.recording "public").converse
        (Work.insert 2 Import.shortlistLayout saved {}) ⟨0⟩ { server := (script, []) }
    Import.shortlistLayout.Complete saved ∧
    (∃ sent, (outcome [.rows [[.text "7"], [.text "8"]], .rows [[.text "9"]]]).warehouse.log =
        sent ∧
      Inserted "public" 0 2 Import.shortlistLayout saved sent (.ok [7, 8, 9])) ∧
    ∃ sent, (outcome [.rows [[.text "7"], [.text "8"], [.text "9"]], .rows []]).warehouse.log =
        sent ∧ sent.length = 1 ∧
      Inserted "public" 0 2 Import.shortlistLayout saved sent
        (.error (.warehouse "user_shortlist: inserted 2 rows but got 3 ids")) := by
  intro saved outcome
  have hcomplete := Import.shortlistLayout_wellShaped.complete saved
  have hinserted := fun script : List Reply =>
    (insert_gets_own_ids Server.scripted "public" 2 hcomplete {} ⟨0⟩
      { server := (script, []) }).2.1
  obtain ⟨sent, hlog, htrue⟩ := hinserted [.rows [[.text "7"], [.text "8"]], .rows [[.text "9"]]]
  obtain ⟨short, hshort, hfalse⟩ :=
    hinserted [.rows [[.text "7"], [.text "8"], [.text "9"]], .rows []]
  have hids : (outcome [.rows [[.text "7"], [.text "8"]], .rows [[.text "9"]]]).result =
      .ok [7, 8, 9] := by
    decide +kernel
  have hsurplus : (outcome [.rows [[.text "7"], [.text "8"], [.text "9"]], .rows []]).result =
      .error (.warehouse "user_shortlist: inserted 2 rows but got 3 ids") := by
    decide +kernel
  have hone : (outcome [.rows [[.text "7"], [.text "8"], [.text "9"]],
      .rows []]).warehouse.log.length = 1 := by
    decide +kernel
  rw [hids] at htrue
  rw [hsurplus] at hfalse
  exact ⟨hcomplete, ⟨sent, hlog, htrue⟩, short, hshort,
    (congrArg List.length hshort).symm.trans hone, hfalse⟩

end Postgres

end Registrar
