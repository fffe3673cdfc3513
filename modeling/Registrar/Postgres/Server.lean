import Registrar.Failure
import Registrar.Mail.Queue
import Registrar.Time.Date
/-!
# Servers

A server is reached over connections, each of which has a number, and answers one statement at a
time. Nothing is known of what it answers.
-/
namespace Registrar.Postgres

/-- A value in a row that a server returns. -/
inductive Cell
  | null
  | whole (n : Int)
  | text (s : String)
  | texts (items : List (Option String))
  | date (d : Time.Date)
  deriving DecidableEq, Repr

/-- What is sent over a connection. -/
inductive Statement
  /-- A statement without an answer of its own: the start or the end of a transaction, a test. -/
  | control (sql : String)
  /-- Rows are inserted, and the server returns a row of texts for each. -/
  | insert (sql : String)
  /-- Rows are written in bulk, by what is sent after the statement. -/
  | bulk (sql : String) (sends : List String)
  /-- Rows are selected. -/
  | select (sql : String)
  /-- Rows are changed. -/
  | update (sql : String)
  deriving DecidableEq, Repr

/-- The text of a statement. -/
def Statement.sql : Statement → String
  | control sql | insert sql | bulk sql _ | select sql | update sql => sql

/-- What a server answers. -/
inductive Reply
  | done
  | rows (rows : List (List Cell))
  | count (n : Nat)
  | failed (fault : ServerFault)
  deriving DecidableEq, Repr

/-- A server with states of type `σ`. -/
structure Server (σ : Type) where
  /-- Opens the connection of a number, or says why it cannot. -/
  connect : Nat → σ → Except String Unit × σ
  /-- Which of some idle connections is used next: one that is still open, if there is one. They are
  given in the order in which they became idle; unless the server closes any, it is the first. -/
  reuse : (idle : List Nat) → σ → Option { connection // connection ∈ idle } :=
    fun idle _ => idle.attach.head?
  /-- Answers a statement. -/
  send : Nat → Statement → σ → Reply × σ

/-- The place where no server listens. -/
def Server.absent : Server Unit where
  connect _ s := (.error "error connecting to server", s)
  send _ _ s := (.failed (.connection "connection closed"), s)

end Registrar.Postgres
