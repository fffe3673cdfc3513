/-!
# Failures

Everything that can end an import or a drain, with its text and with the exit code of the process
that it ends. No failure is mended where it arises: the first one ends the work and is reported
once, as a `Diagnostic`.
-/
namespace Registrar

/-- An error that a database server reports. -/
structure ServerError where
  code : String
  message : String
  detail : Option String
  /-- The context line of the server. -/
  context : Option String
  /-- Where in the statement the error lies. -/
  position : Option String
  deriving DecidableEq, Repr

/-- A failure of a statement: the server's report, or what the connection itself says. -/
inductive ServerFault
  | reported (error : ServerError)
  | connection (message : String)
  deriving DecidableEq, Repr

/-- A failure of an import or a drain (`error::MigrateError`). -/
inductive Failure
  /-- A record does not fill the columns of its table. -/
  | shape (table message : String)
  /-- A legacy document refers to one that was not imported. -/
  | unresolved (kind legacyId referrer : String)
  /-- A legacy document of one kind was registered twice. -/
  | duplicate (kind legacyId : String)
  /-- A statement failed. -/
  | server (fault : ServerFault)
  /-- The warehouse refused. -/
  | warehouse (message : String)
  /-- Legacy data could not be read or decoded. -/
  | legacy (collection message : String)
  /-- No connection was to be had. -/
  | pool (message context : String)
  /-- A template could not be read or filled in. -/
  | render (template message : String)
  /-- The settings are not usable. -/
  | settings (message : String)
  /-- The messages had nobody to take them. -/
  | channel (message : String)
  /-- Whoever delivers the messages of a queue died over one of them. -/
  | delivery (queue : String)
  | file (message : String)
  /-- The settings are not a document of their form. -/
  | yaml
  | json (message : String)
  deriving DecidableEq, Repr

namespace Failure

def serverText : ServerFault → String
  | .reported _ => "db error"
  | .connection message => message

/-- The text of a failure (`Display` of `MigrateError`). -/
def message : Failure → String
  | shape table message => s!"Shape mismatch for {table}: {message}"
  | unresolved kind legacyId referrer =>
    s!"Unresolved {kind} reference '{legacyId}' (referenced by {referrer})"
  | duplicate kind legacyId => s!"Duplicate {kind} identifier '{legacyId}'"
  | server fault => s!"Target database error: {serverText fault}"
  | warehouse message => s!"Warehouse error: {message}"
  | legacy collection message => s!"Legacy store error in {collection}: {message}"
  | pool message context => s!"Pool error: {message}\n  Context: {context}"
  | render template message => s!"Render error in template {template}: {message}"
  | settings message => s!"Configuration error: {message}"
  | channel message => s!"Channel closed: {message}"
  | delivery queue => s!"Channel closed: {queue} consumer task failed"
  | file message => s!"IO error: {message}"
  | yaml => "YAML error"
  | json message => s!"JSON error: {message}"

/-- The exit code of a process that the failure ends: two for settings, three for legacy data, four
for the warehouse, one for everything else (`MigrateError::exit_code`). -/
def exitCode : Failure → Nat
  | settings _ | yaml => 2
  | unresolved .. | duplicate .. | legacy .. => 3
  | server _ | warehouse _ | pool .. => 4
  | shape .. | render .. | channel _ | delivery _ | file _ | json _ => 1

theorem exitCode_pos (f : Failure) : 0 < f.exitCode := by cases f <;> simp [exitCode]

end Failure

/-- What a report shows of a failure (`report::Diagnostic`). -/
structure Diagnostic where
  message : String
  detail : Option String
  location : Option String
  code : Option String
  deriving DecidableEq, Repr

/-- A server's error shows its own message (`Diagnostic::from_error`); every other failure shows its
text alone. -/
def Failure.diagnostic : Failure → Diagnostic
  | .server (.reported e) =>
    ⟨e.message, e.detail, e.context <|> e.position, some e.code⟩
  | f => ⟨f.message, none, none, none⟩

end Registrar
