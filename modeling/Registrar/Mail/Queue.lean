/-!
# Queues

Three queues hold what users are to be told. A row of a queue carries everything that its message
needs.
-/
namespace Registrar.Mail

/-- The queues (`queue::QueueSource`). -/
inductive Queue
  | passwordReset
  | sectionSubscribed
  | sectionVacated
  deriving DecidableEq, Repr, Inhabited

namespace Queue

/-- Every queue, in the order in which they are drained by default. -/
def all : List Queue := [passwordReset, sectionSubscribed, sectionVacated]

/-- The table of the queue (`QueueSource::table`). -/
def name : Queue → String
  | passwordReset => "password_reset"
  | sectionSubscribed => "section_subscribed"
  | sectionVacated => "section_vacated"

/-- The queue of a table (`QueueSource::parse`). -/
def ofName? (name : String) : Option Queue := all.find? fun queue => queue.name = name

theorem ofName?_name (queue : Queue) : ofName? queue.name = some queue := by
  cases queue <;> decide

theorem mem_all (queue : Queue) : queue ∈ all := by
  cases queue <;> decide

end Queue

/-- A user asked for a new password (`queue::ResetItem`). -/
structure Reset where
  userId : Int
  email : String
  userName : String
  secretKey : String
  deriving DecidableEq, Repr

/-- A user wants to be told of free seats in a section of a course (`queue::SubscribedItem`). -/
structure Subscribed where
  id : Int
  userId : Int
  email : String
  userName : String
  courseCode : String
  deriving DecidableEq, Repr

/-- Sections of a course that a user asked about have free seats (`queue::VacatedItem`). -/
structure Vacated where
  id : Int
  email : String
  userName : String
  courseCode : String
  sectionNames : List String
  deriving DecidableEq, Repr

/-- What a row of a queue tells a user (`queue::QueueItem`). -/
inductive Item
  | reset (item : Reset)
  | subscribed (item : Subscribed)
  | vacated (item : Vacated)
  deriving DecidableEq, Repr

namespace Item

/-- The queue that holds such items (`QueueItem::source`). -/
def queue : Item → Queue
  | reset _ => .passwordReset
  | subscribed _ => .sectionSubscribed
  | vacated _ => .sectionVacated

/-- The address of the user (`QueueItem::recipient`). -/
def recipient : Item → String
  | reset item => item.email
  | subscribed item => item.email
  | vacated item => item.email

end Item

end Registrar.Mail
