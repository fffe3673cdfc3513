import Mathlib.Data.List.Basic
import Registrar.Proofs.Memory.Session
/-!
# Transactions one among another

Any number of transactions may be open at once (`World`), and their requests and ends may come in
any order (`Event`). The invariant that carries every statement is `World.Sound`: each shared table
is the numbering of what the committed sessions added, in the order of their commits, and each
session began when some of these commits had been made. A commit compares last ids only; that it
loses nothing is because tables that are prefixes of one another and have the same last id are the
same (`Sound.base_eq`).

Main statement: `serializable_run`.
-/
namespace Registrar.Memory

open Warehouse (Request)

/-- Transactions over one shared state. -/
structure World where
  shared : State
  /-- Every transaction that began, in the order of their beginnings. -/
  sessions : List Session := []
  /-- The sessions whose commits succeeded, in the order of their commits. -/
  committed : List Nat := []

/-- What can happen; a session is named by its place among the beginnings. -/
inductive Event
  | begin
  | ask (session : Nat) (now : Time.Instant) (request : Request)
  | commit (session : Nat)
  | rollback (session : Nat)
  | drop (session : Nat)
  /-- Somebody adds a row to a queue. -/
  | enqueue (queue : Mail.Queue) (row : QueueRow)

namespace World

/-- The session of that number, if it has not ended. -/
def current? (world : World) (i : Nat) : Option Session :=
  world.sessions[i]?.filter Session.isOpen

def update (world : World) (i : Nat) (session : Session) : World :=
  { world with sessions := world.sessions.set i session }

/-- What happens to the world; nothing happens to a session that has ended. -/
def step (world : World) : Event → World
  | .begin => { world with sessions := world.sessions ++ [Session.start world.shared] }
  | .ask i now request =>
    match world.current? i with
    | some session => world.update i (session.ask now request)
    | none => world
  | .commit i =>
    match world.current? i with
    | some session =>
      match commit session.tx world.shared with
      | (.ok (), shared) =>
        { world.update i session.close with shared, committed := world.committed ++ [i] }
      | (.error _, shared) => { world.update i session.close with shared }
    | none => world
  | .rollback i =>
    match world.current? i with
    | some session =>
      { world.update i session.close with shared := (rollback session.tx world.shared).2 }
    | none => world
  | .drop i =>
    match world.current? i with
    | some session => world.update i session.close
    | none => world
  | .enqueue queue row => { world with shared := world.shared.enqueue queue row }

/-- What happens to the world in the course of some events. -/
def run (world : World) (events : List Event) : World := events.foldl step world

theorem run_append (world : World) (before after : List Event) :
    world.run (before ++ after) = (world.run before).run after := by
  simp [run, List.foldl_append]

theorem current?_eq_some_iff {world : World} {i : Nat} {session : Session} :
    world.current? i = some session ↔ world.sessions[i]? = some session ∧ session.isOpen = true := by
  simp only [current?, Option.filter_eq_some_iff]

/-- What the session of some number added to a table. -/
def entriesOf (world : World) (name : String) (i : Nat) : List Entry :=
  (world.sessions[i]?.map (Session.entries name)).getD []

theorem entriesOf_eq {world : World} {i : Nat} {session : Session}
    (h : world.sessions[i]? = some session) (name : String) :
    world.entriesOf name i = session.entries name := by
  simp [entriesOf, h]

/-- What the committed sessions added to a table, in the order of their commits. -/
def history (world : World) (name : String) : List Entry :=
  world.committed.flatMap (world.entriesOf name)

/-! ## The invariant -/

/-- The shared tables number what was committed, and every session began with what was committed
by then. -/
structure Sound (world : World) : Prop where
  closed : ∀ i ∈ world.committed, ∃ session,
    world.sessions[i]? = some session ∧ session.isOpen = false
  once : world.committed.Nodup
  tables : ∀ name, world.shared.table name = ({} : Table).extend (world.history name)
  replayed : ∀ session ∈ world.sessions, session.Replayed
  bases : ∀ session ∈ world.sessions, ∃ earlier, earlier <+: world.committed ∧
    ∀ name, session.base.table name = ({} : Table).extend (earlier.flatMap (world.entriesOf name))
  /-- A session found the tables that it wrote as the commits before its own had left them. -/
  found : ∀ before i after, world.committed = before ++ i :: after → ∀ session,
    world.sessions[i]? = some session → ∀ name ∈ session.tx.written.map Prod.fst,
      session.base.table name = ({} : Table).extend (before.flatMap (world.entriesOf name))

theorem sound_start (start : State) (hempty : ∀ name, start.table name = {}) :
    Sound { shared := start } where
  closed := by simp
  once := List.nodup_nil
  tables := by simp [history, hempty]
  replayed := by simp
  bases := by simp
  found := by simp

/-- Sessions that have ended are in `next` as they are in `world`. -/
def KeepsEnded (world next : World) : Prop :=
  ∀ (i : Nat) (session : Session), world.sessions[i]? = some session → session.isOpen = false →
    next.sessions[i]? = some session

namespace Sound

variable {world next : World}

/-- What committed sessions added does not change when only other sessions do. -/
theorem entriesOf_frame (h : world.Sound) (hclosed : world.KeepsEnded next)
    {i : Nat} (hi : i ∈ world.committed) (name : String) :
    next.entriesOf name i = world.entriesOf name i := by
  obtain ⟨session, hsession, hopen⟩ := h.closed i hi
  rw [entriesOf_eq hsession, entriesOf_eq (hclosed i session hsession hopen)]

/-- A step that publishes nothing and leaves the ended sessions alone keeps the invariant. -/
theorem frame (h : world.Sound) (hcommitted : next.committed = world.committed)
    (htables : ∀ name, next.shared.table name = world.shared.table name)
    (hclosed : world.KeepsEnded next)
    (hsessions : ∀ session ∈ next.sessions, session.Replayed ∧
      (session.base = world.shared ∨ ∃ old ∈ world.sessions, session.base = old.base)) :
    next.Sound := by
  have hframe : ∀ (part : List Nat) (name : String), (∀ i ∈ part, i ∈ world.committed) →
      part.flatMap (next.entriesOf name) = part.flatMap (world.entriesOf name) := by
    intro part name hpart
    exact List.flatMap_congr fun i hi => h.entriesOf_frame hclosed (hpart i hi) name
  refine ⟨?_, hcommitted ▸ h.once, ?_, fun session hs => (hsessions session hs).1, ?_, ?_⟩
  · intro i hi
    obtain ⟨session, hsession, hopen⟩ := h.closed i (hcommitted ▸ hi)
    exact ⟨session, hclosed i session hsession hopen, hopen⟩
  · intro name
    rw [htables, h.tables, history, history, hcommitted, hframe _ name fun i hi => hi]
  · intro session hs
    rcases (hsessions session hs).2 with hbase | ⟨old, hold, hbase⟩
    · refine ⟨world.committed, hcommitted ▸ List.prefix_rfl, fun name => ?_⟩
      rw [hbase, h.tables, history, hframe _ name fun i hi => hi]
    · obtain ⟨earlier, hearlier, htable⟩ := h.bases old hold
      refine ⟨earlier, hcommitted ▸ hearlier, fun name => ?_⟩
      rw [hbase, htable, hframe _ name fun i hi => hearlier.subset hi]
  · intro before i after hsplit session hsession name hname
    rw [hcommitted] at hsplit
    have hi : i ∈ world.committed := by simp [hsplit]
    obtain ⟨old, hold, hopen⟩ := h.closed i hi
    have hsame := hclosed i old hold hopen
    rw [hsession, Option.some.injEq] at hsame
    subst hsame
    rw [hframe before name fun j hj => by simp [hsplit, hj]]
    exact h.found before i after hsplit session hold name hname

/-- Replacing an open session by what it becomes keeps the invariant. -/
theorem update (h : world.Sound) {i : Nat} {session after : Session}
    (hcurrent : world.current? i = some session) (hbase : after.base = session.base)
    (hreplayed : after.Replayed) : (world.update i after).Sound := by
  obtain ⟨hsession, hopen⟩ := current?_eq_some_iff.1 hcurrent
  refine h.frame rfl (fun _ => rfl) ?_ ?_
  · intro j other hother hclosed
    have hne : i ≠ j := by
      rintro rfl
      simp_all
    simp [World.update, List.getElem?_set_ne hne, hother]
  · intro other hother
    rcases List.mem_or_eq_of_mem_set hother with hmem | rfl
    · exact ⟨h.replayed other hmem, Or.inr ⟨other, hmem, rfl⟩⟩
    · exact ⟨hreplayed, Or.inr ⟨session, List.mem_of_getElem? hsession, hbase⟩⟩

/-- **First committer wins**: if the last ids of the tables that a session wrote are still those at
its begin, so are the tables. -/
theorem base_eq (h : world.Sound) {session : Session} (hs : session ∈ world.sessions)
    (hunwritten : Unwritten session.tx world.shared) {name : String}
    (hname : name ∈ session.tx.written.map Prod.fst) :
    session.base.table name = world.shared.table name := by
  obtain ⟨entry, hentry, rfl⟩ := List.mem_map.1 hname
  have hlast := hunwritten entry hentry
  rw [(h.replayed session hs).follows.written entry hentry] at hlast
  obtain ⟨earlier, ⟨later, hlater⟩, htable⟩ := h.bases session hs
  rw [htable] at hlast ⊢
  rw [h.tables, history, ← hlater, List.flatMap_append] at hlast ⊢
  have hnil : later.flatMap (world.entriesOf entry.1) = [] := by
    simp only [Table.extend, List.length_append] at hlast
    exact List.length_eq_zero_iff.1 (by omega)
  rw [hnil, List.append_nil]

/-- Publishing an ended session that nobody overtook keeps the invariant. -/
theorem publish (h : world.Sound) {i : Nat} {session : Session}
    (hsession : world.sessions[i]? = some session) (hended : session.isOpen = false)
    (hnew : i ∉ world.committed) (hunwritten : Unwritten session.tx world.shared) :
    Sound { world with
      shared := Memory.publish session.tx world.shared, committed := world.committed ++ [i] } := by
  have hmem := List.mem_of_getElem? hsession
  have hreplayed := h.replayed session hmem
  refine ⟨?_, ?_, ?_, h.replayed, ?_, ?_⟩
  · intro j hj
    rcases List.mem_append.1 hj with hj | hj
    · exact h.closed j hj
    · exact ⟨session, by simp_all, hended⟩
  · exact List.nodup_append.2 ⟨h.once, by simp, by simp; rintro j hj rfl; exact hnew hj⟩
  · intro name
    have hhistory : ∀ shared, World.history ⟨shared, world.sessions, world.committed ++ [i]⟩ name =
        world.history name ++ session.entries name := by
      intro shared
      have hentries : World.entriesOf ⟨shared, world.sessions, world.committed ++ [i]⟩ name i =
          session.entries name := entriesOf_eq hsession name
      simp only [history, List.flatMap_append, List.flatMap_cons, List.flatMap_nil, List.append_nil,
        hentries]
      rfl
    rw [hhistory, ← Table.extend_extend, ← h.tables, table_publish]
    split
    · rename_i hname
      rw [hreplayed.table, h.base_eq hmem hunwritten hname]
    · rename_i hname
      rw [hreplayed.entries_eq_nil hname, Table.extend_nil]
  · intro other hother
    obtain ⟨earlier, hearlier, htable⟩ := h.bases other hother
    exact ⟨earlier, hearlier.trans (List.prefix_append _ _), htable⟩
  · intro before j after hsplit other hother name hname
    rcases List.eq_nil_or_concat after with rfl | ⟨init, last, rfl⟩
    · -- the session that has just been published
      obtain ⟨rfl, hij⟩ := List.append_inj' hsplit rfl
      obtain rfl : i = j := by simpa using hij
      obtain rfl : session = other := by simpa [hsession] using hother
      rw [h.base_eq hmem hunwritten hname, h.tables]
      rfl
    · rw [List.concat_eq_append, ← List.cons_append, ← List.append_assoc] at hsplit
      obtain ⟨hsplit, -⟩ := List.append_inj' hsplit rfl
      exact h.found before j init hsplit other hother name hname

/-- Whatever happens keeps the invariant. -/
theorem step (h : world.Sound) (event : Event) : (world.step event).Sound := by
  cases event with
  | begin =>
    refine h.frame rfl (fun _ => rfl) ?_ ?_
    · intro i session hsession _
      have hlt := (List.getElem?_eq_some_iff.1 hsession).1
      simp [World.step, List.getElem?_append_left hlt, hsession]
    · intro session hmem
      rcases List.mem_append.1 hmem with hmem | hmem
      · exact ⟨h.replayed session hmem, Or.inr ⟨session, hmem, rfl⟩⟩
      · obtain rfl := List.mem_singleton.1 hmem
        exact ⟨Session.replayed_start _, Or.inl rfl⟩
  | ask i now request =>
    simp only [World.step]
    split
    · rename_i session hcurrent
      have hreplayed := h.replayed session
        (List.mem_of_getElem? (current?_eq_some_iff.1 hcurrent).1)
      exact h.update hcurrent rfl (hreplayed.ask now request)
    · exact h
  | commit i =>
    simp only [World.step]
    split
    · rename_i session hcurrent
      obtain ⟨hsession, hopen⟩ := current?_eq_some_iff.1 hcurrent
      have hreplayed := h.replayed session (List.mem_of_getElem? hsession)
      have hended := h.update hcurrent (session.base_close) hreplayed.close
      rcases commit_cases session.tx world.shared with ⟨cause, hcommit, -⟩ | ⟨hcommit, hfree, -⟩
      · rw [hcommit]
        exact hended
      · rw [hcommit]
        have hlt := (List.getElem?_eq_some_iff.1 hsession).1
        have hset : (world.update i session.close).sessions[i]? = some session.close := by
          simp [World.update, List.getElem?_set_self hlt]
        have hnew : i ∉ world.committed := by
          intro hi
          obtain ⟨other, hother, hclosed⟩ := h.closed i hi
          simp_all
        have hpublished := hended.publish hset rfl hnew hfree
        exact hpublished
    · exact h
  | rollback i =>
    simp only [World.step]
    split
    · rename_i session hcurrent
      have hreplayed := h.replayed session
        (List.mem_of_getElem? (current?_eq_some_iff.1 hcurrent).1)
      exact h.update hcurrent (session.base_close) hreplayed.close
    · exact h
  | drop i =>
    simp only [World.step]
    split
    · rename_i session hcurrent
      have hreplayed := h.replayed session
        (List.mem_of_getElem? (current?_eq_some_iff.1 hcurrent).1)
      exact h.update hcurrent (session.base_close) hreplayed.close
    · exact h
  | enqueue queue row =>
    exact h.frame rfl (fun _ => rfl) (fun _ _ hsession _ => hsession)
      fun session hmem => ⟨h.replayed session hmem, Or.inr ⟨session, hmem, rfl⟩⟩

theorem run (h : world.Sound) (events : List Event) : (world.run events).Sound := by
  induction events generalizing world with
  | nil => exact h
  | cons event rest ih => exact ih (h.step event)

end Sound

/-! ## What sessions keep -/

theorem step_sessions (world : World) (event : Event) :
    (world.step event).sessions = world.sessions ∨
    (world.step event).sessions = world.sessions ++ [Session.start world.shared] ∨
    ∃ i session after, world.current? i = some session ∧
      (world.step event).sessions = world.sessions.set i after ∧
      (after = session.close ∨ ∃ now request, event = .ask i now request ∧
        after = session.ask now request) := by
  cases event with
  | begin => exact Or.inr (Or.inl rfl)
  | enqueue queue row => exact Or.inl rfl
  | ask i now request =>
    simp only [step]
    split
    · rename_i session hcurrent
      exact Or.inr (Or.inr ⟨i, session, _, hcurrent, rfl, Or.inr ⟨now, request, rfl, rfl⟩⟩)
    · exact Or.inl rfl
  | commit i =>
    simp only [step]
    split
    · rename_i session hcurrent
      refine Or.inr (Or.inr ⟨i, session, session.close, hcurrent, ?_, Or.inl rfl⟩)
      split <;> rfl
    · exact Or.inl rfl
  | rollback i =>
    simp only [step]
    split
    · rename_i session hcurrent
      exact Or.inr (Or.inr ⟨i, session, session.close, hcurrent, rfl, Or.inl rfl⟩)
    · exact Or.inl rfl
  | drop i =>
    simp only [step]
    split
    · rename_i session hcurrent
      exact Or.inr (Or.inr ⟨i, session, session.close, hcurrent, rfl, Or.inl rfl⟩)
    · exact Or.inl rfl

/-- A session keeps its number and the state of its begin. -/
theorem base_step {world : World} {i : Nat} {session : Session}
    (h : world.sessions[i]? = some session) (event : Event) :
    ∃ after, (world.step event).sessions[i]? = some after ∧ after.base = session.base := by
  have hlt := (List.getElem?_eq_some_iff.1 h).1
  rcases world.step_sessions event with hsame | hmore | ⟨j, old, new, hold, hset, hnew⟩
  · exact ⟨session, by rw [hsame, h], rfl⟩
  · exact ⟨session, by rw [hmore, List.getElem?_append_left hlt, h], rfl⟩
  · by_cases hij : j = i
    · subst hij
      obtain rfl : old = session := by
        have := (current?_eq_some_iff.1 hold).1
        simpa [h, eq_comm] using this
      refine ⟨new, by rw [hset, List.getElem?_set_self hlt], ?_⟩
      rcases hnew with rfl | ⟨now, request, -, rfl⟩ <;> rfl
    · exact ⟨session, by rw [hset, List.getElem?_set_ne hij, h], rfl⟩

theorem base_run {world : World} {i : Nat} {session : Session}
    (h : world.sessions[i]? = some session) (events : List Event) :
    ∃ after, (world.run events).sessions[i]? = some after ∧ after.base = session.base := by
  induction events generalizing world session with
  | nil => exact ⟨session, h, rfl⟩
  | cons event rest ih =>
    obtain ⟨after, hafter, hbase⟩ := base_step h event
    obtain ⟨last, hlast, hsame⟩ := ih hafter
    exact ⟨last, hlast, hsame.trans hbase⟩

end World

/-! ## Ids -/

namespace World

/-- The columns that a request names. -/
def columnsOf : Request → List String
  | .insert rows => rows.columns
  | .copy rows => rows.columns
  | _ => []

/-- No session was asked to write a column of ids. -/
def LeavesIds (world : World) : Prop :=
  ∀ session ∈ world.sessions, ∀ exchange ∈ session.exchanges, "id" ∉ columnsOf exchange.request

theorem LeavesIds.step {world : World} (h : world.LeavesIds) {event : Event}
    (hevent : ∀ i now request, event = .ask i now request → "id" ∉ columnsOf request) :
    (world.step event).LeavesIds := by
  unfold LeavesIds
  rcases world.step_sessions event with hsame | hmore | ⟨i, old, new, hold, hset, hnew⟩
  · rw [hsame]
    exact h
  · rw [hmore]
    intro session hmem
    rcases List.mem_append.1 hmem with hmem | hmem
    · exact h session hmem
    · obtain rfl := List.mem_singleton.1 hmem
      simp [Session.start]
  · rw [hset]
    have hmemOld := List.mem_of_getElem? (current?_eq_some_iff.1 hold).1
    intro session hmem
    rcases List.mem_or_eq_of_mem_set hmem with hmem | rfl
    · exact h session hmem
    · rcases hnew with rfl | ⟨now, request, hask, rfl⟩
      · exact h old hmemOld
      · intro exchange hexchange
        rcases List.mem_append.1 hexchange with hexchange | hexchange
        · exact h old hmemOld exchange hexchange
        · obtain rfl := List.mem_singleton.1 hexchange
          exact hevent i now request hask

theorem LeavesIds.run {world : World} (h : world.LeavesIds) {events : List Event}
    (hevents : ∀ i now request, .ask i now request ∈ events → "id" ∉ columnsOf request) :
    (world.run events).LeavesIds := by
  induction events generalizing world with
  | nil => exact h
  | cons event rest ih =>
    refine ih (h.step ?_) fun i now request hmem => hevents i now request (List.mem_cons_of_mem _ hmem)
    rintro i now request rfl
    exact hevents i now request List.mem_cons_self

theorem columns_of_mem_added {name : String} {request : Request}
    {reply : Except Failure request.Reply} {entry : Entry} (h : entry ∈ added name request reply) :
    entry.1 = columnsOf request := by
  cases request with
  | insert rows =>
    cases reply with
    | error cause => simp [added] at h
    | ok ids =>
      simp only [added] at h
      split at h
      · obtain ⟨values, -, rfl⟩ := List.mem_map.1 h
        rfl
      · simp at h
  | copy rows =>
    cases reply with
    | error cause => simp [added] at h
    | ok count =>
      simp only [added] at h
      split at h
      · obtain ⟨values, -, rfl⟩ := List.mem_map.1 h
        rfl
      · simp at h
  | _ => simp [added] at h

/-- Nothing that was committed names a column of ids. -/
theorem LeavesIds.history {world : World} (h : world.LeavesIds) {name : String} {entry : Entry}
    (hentry : entry ∈ world.history name) : "id" ∉ entry.1 := by
  obtain ⟨i, -, hi⟩ := List.mem_flatMap.1 hentry
  cases hsession : world.sessions[i]? with
  | none => simp [entriesOf, hsession] at hi
  | some session =>
    rw [entriesOf_eq hsession] at hi
    obtain ⟨exchange, hexchange, hadded⟩ := List.mem_flatMap.1 hi
    rw [columns_of_mem_added hadded]
    exact h session (List.mem_of_getElem? hsession) exchange hexchange

/-! ## Serializability -/

/-- Whether an event changes the shared state: a commit that succeeds does, and a new row of a
queue. -/
def Publishes (world : World) : Event → Prop
  | .commit i => ∃ session, world.current? i = some session ∧
      (commit session.tx world.shared).1 = .ok ()
  | .enqueue _ _ => True
  | _ => False

/-- Any other event, such as a commit that fails, changes nothing that is shared. -/
theorem step_of_not_publishes {world : World} {event : Event} (h : ¬world.Publishes event) :
    (world.step event).shared = world.shared ∧ (world.step event).committed = world.committed := by
  cases event with
  | begin => exact ⟨rfl, rfl⟩
  | ask i now request =>
    simp only [step]
    split <;> exact ⟨rfl, rfl⟩
  | commit i =>
    simp only [step]
    split
    · rename_i session hcurrent
      rcases commit_cases session.tx world.shared with ⟨cause, hcommit, -⟩ | ⟨hcommit, -, -⟩
      · rw [hcommit]
        exact ⟨rfl, rfl⟩
      · exact absurd ⟨session, hcurrent, congrArg Prod.fst hcommit⟩ h
    · exact ⟨rfl, rfl⟩
  | rollback i =>
    simp only [step]
    split <;> exact ⟨rfl, rfl⟩
  | drop i =>
    simp only [step]
    split <;> exact ⟨rfl, rfl⟩
  | enqueue queue row => exact absurd trivial h

/-- Where the ids of an insertion of a committed session stand, and the rows with these ids. -/
theorem Sound.told {world : World} (h : world.Sound) {before after : List Nat} {i : Nat}
    (hsplit : world.committed = before ++ i :: after) {session : Session}
    (hsession : world.sessions[i]? = some session) {earlier later : List Exchange}
    {now : Time.Instant} {rows : Sql.Rows} {ids : List Int}
    (hmid : session.exchanges = earlier ++ ⟨now, .insert rows, .ok ids⟩ :: later) :
    let first := (before.flatMap (world.entriesOf rows.table)).length
      + (earlier.flatMap (Exchange.added rows.table)).length
    ids = idsAfter first rows.rows.length ∧
      ∀ k values, rows.rows[k]? = some values →
        (world.shared.table rows.table).rows[first + k]? =
          some (row rows.columns values (first + k + 1)) := by
  intro first
  have hreplayed := h.replayed session (List.mem_of_getElem? hsession)
  have hentries : session.entries rows.table =
      earlier.flatMap (Exchange.added rows.table) ++ (rows.entries ++
        later.flatMap (Exchange.added rows.table)) := by
    rw [Session.entries, hmid, List.flatMap_append, List.flatMap_cons]
    simp [Exchange.added, added]
  constructor
  · by_cases hname : rows.table ∈ session.tx.written.map Prod.fst
    · rw [hreplayed.ids_eq hmid, h.found before i after hsplit session hsession _ hname]
      simp [first, Table.extend]
    · -- a table that the session did not write got no rows, so there are no ids
      have hnil := hreplayed.entries_eq_nil hname
      rw [hentries] at hnil
      have hrows : rows.rows = [] := by
        simpa [Sql.Rows.entries] using (List.append_eq_nil_iff.1 (List.append_eq_nil_iff.1 hnil).2).1
      rw [hreplayed.ids_eq hmid, hrows]
      rfl
  · intro k values hvalues
    have hentry : rows.entries[k]? = some (rows.columns, values) := by
      simp [Sql.Rows.entries, hvalues]
    have hlt := (List.getElem?_eq_some_iff.1 hentry).1
    have hhistory : (world.history rows.table)[first + k]? = some (rows.columns, values) := by
      rw [history, hsplit, List.flatMap_append, List.flatMap_cons, entriesOf_eq hsession, hentries,
        List.getElem?_append_right (by omega), List.append_assoc,
        List.getElem?_append_right (by omega), List.append_assoc,
        List.getElem?_append_left (by omega), ← hentry]
      congr 1
      omega
    rw [h.tables]
    simp only [Table.extend, List.nil_append, getElem?_numbered, hhistory]
    simp

/-- The world after some events, none of whose transactions began before them. -/
def after (start : State) (events : List Event) : World := run { shared := start } events

end World

/-- A history leaves behind what its committed transactions would have left one after another. -/
structure Serializable (start : State) (events : List Event) : Prop where
  /-- A table holds what was added by the sessions that committed, in the order of their commits,
  with ids that count the rows; nobody else left a row or used up an id. -/
  rows : let world := World.after start events
    ∀ name, (world.shared.table name).rows = numbered 0 (world.history name) ∧
      (world.shared.table name).lastId = (world.shared.table name).rows.length
  /-- Row `k`, counted from one, has the id `k`. -/
  ids : ∀ (name : String) (k : Nat) (stored : Row),
    ((World.after start events).shared.table name).rows[k]? = some stored →
      stored.lookup "id" = some (.bigint ((k + 1 : Nat) : Int))
  /-- A session that committed was told the ids that its rows have in the table: they follow the
  rows of earlier commits and its own earlier ones. -/
  told : let world := World.after start events
    ∀ before i after, world.committed = before ++ i :: after →
    ∀ session, world.sessions[i]? = some session →
    ∀ earlier now rows ids later,
      session.exchanges = earlier ++ ⟨now, .insert rows, .ok ids⟩ :: later →
      let first := (before.flatMap (world.entriesOf rows.table)).length
        + (earlier.flatMap (Exchange.added rows.table)).length
      ids = idsAfter first rows.rows.length ∧
        ∀ k values, rows.rows[k]? = some values →
          (world.shared.table rows.table).rows[first + k]? =
            some (row rows.columns values (first + k + 1))
  /-- A session commits at most once, and has ended then. -/
  once : let world := World.after start events
    world.committed.Nodup ∧ ∀ i ∈ world.committed, ∃ session,
      world.sessions[i]? = some session ∧ session.isOpen = false
  /-- Only commits that succeed, and new rows of queues, change what is shared. -/
  quiet : ∀ before event later, events = before ++ event :: later →
    ¬(World.after start before).Publishes event →
      (World.after start (before ++ [event])).shared = (World.after start before).shared ∧
      (World.after start (before ++ [event])).committed = (World.after start before).committed
  /-- A session begins with what is shared at that time. -/
  begun : ∀ before later, events = before ++ .begin :: later →
    ∃ session, (World.after start events).sessions[(World.after start before).sessions.length]? =
      some session ∧ session.base = (World.after start before).shared
  /-- Its answers are those of a transaction that is alone with that state and the same requests. -/
  alone : ∀ session ∈ (World.after start events).sessions, session.Replayed

/-- **Serializability**: whatever the order in which transactions begin, write, read and end over
a warehouse without rows, the outcome is that of the committed ones in the order of their commits,
and every row has the id that its writer was told. -/
theorem serializable_run (start : State) (hempty : ∀ name, start.table name = {})
    (events : List Event)
    (hids : ∀ i now request, .ask i now request ∈ events → "id" ∉ World.columnsOf request) :
    Serializable start events := by
  have hstart := World.sound_start start hempty
  have hsound : (World.after start events).Sound := hstart.run events
  have hnone : World.LeavesIds { shared := start } := by simp [World.LeavesIds]
  have hleaves : (World.after start events).LeavesIds := hnone.run hids
  have hrows : ∀ name, ((World.after start events).shared.table name).rows =
      numbered 0 ((World.after start events).history name) := by
    intro name
    rw [hsound.tables]
    simp [Table.extend]
  refine ⟨fun name => ⟨hrows name, ?_⟩, ?_, ?_, ⟨hsound.once, hsound.closed⟩, ?_, ?_,
    hsound.replayed⟩
  · rw [hrows, hsound.tables]
    simp [Table.extend]
  · intro name k stored hstored
    rw [hrows, getElem?_numbered] at hstored
    obtain ⟨entry, hentry, rfl⟩ := Option.map_eq_some_iff.1 hstored
    have hnoId := hleaves.history (List.mem_of_getElem? hentry)
    rw [lookup_id_row hnoId, Nat.zero_add]
  · intro world before i later hsplit session hsession earlier now rows ids rest hmid
    exact hsound.told hsplit hsession hmid
  · intro before event later _ hquiet
    have hstep : World.after start (before ++ [event]) = (World.after start before).step event :=
      World.run_append _ _ _
    rw [hstep]
    exact World.step_of_not_publishes hquiet
  · rintro before later rfl
    have hbegin : ((World.after start before).step .begin).sessions[
        (World.after start before).sessions.length]? =
          some (Session.start (World.after start before).shared) := by
      simp [World.step]
    obtain ⟨session, hsession, hbase⟩ := World.base_run hbegin later
    refine ⟨session, ?_, hbase⟩
    rw [← hsession, World.after, World.run_append]
    rfl

/-- Two transactions write one table at once, and a third one begins in between. -/
theorem serializable_run_of_rivals :
    let write (n : Int) : Request := .insert ⟨"course", ["code"], [[.integer n]]⟩
    let events : List Event := [.begin, .begin, .ask 0 ⟨0, 0⟩ (write 1), .ask 1 ⟨0, 0⟩ (write 2),
      .commit 0, .begin, .commit 1, .ask 2 ⟨0, 0⟩ (write 3), .commit 2]
    (∀ name, ({} : State).table name = {}) ∧
    (∀ i now request, .ask i now request ∈ events → "id" ∉ World.columnsOf request) ∧
    Serializable {} events := by
  intro write events
  have hempty : ∀ name, ({} : State).table name = {} := fun _ => rfl
  have hids : ∀ i now request, .ask i now request ∈ events →
      "id" ∉ World.columnsOf request := by
    intro i now request hmem
    simp only [events, List.mem_cons, Event.ask.injEq, reduceCtorEq, List.not_mem_nil, or_false,
      false_or] at hmem
    rcases hmem with ⟨-, -, rfl⟩ | ⟨-, -, rfl⟩ | ⟨-, -, rfl⟩ <;> decide
  exact ⟨hempty, hids, serializable_run {} hempty events hids⟩

end Registrar.Memory
