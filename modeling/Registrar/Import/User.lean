import Registrar.Import.Stage
import Registrar.Text.Blank
/-!
# Users and how they sign in

Every user is imported, since reviews and schedules refer to them. A user signs in either with
another site's account or with a password; one with neither has no credential.
-/
namespace Registrar.Import

open Json (Decoder Schema)

/-- A user of the legacy store (`user::LegacyUser`). -/
structure LegacyUser where
  id : String
  firstName : String
  lastName : String
  programName : Option String
  email : Option String
  password : Option String
  facebookId : Option String
  deriving Repr

def LegacyUser.decoder : Decoder LegacyUser :=
  Schema.decoder "LegacyUser" <| LegacyUser.mk <$> Schema.required "_id" Decoder.text
    <*> Schema.withDefault "first_name" Decoder.text ""
    <*> Schema.withDefault "last_name" Decoder.text ""
    <*> Schema.optional "program_name" Decoder.text
    <*> Schema.optional "email" Decoder.text
    <*> Schema.optional "password" Decoder.text
    <*> Schema.optional "fbid" Decoder.text

/-- The collection of users (`user::COLLECTION`). -/
def userCollection : String := "user"

/-! ## Programs of study -/

/-- The most bytes of a program's name (`user::MAX_PROGRAM_LENGTH`); a longer one is a pasted
transcript. -/
def longestProgram : Nat := 256

/-- Names that are known to be wrong, and what they stand for (`user::PROGRAM_FIXES`); nothing where
they are no names. -/
def programFixes : List (String × Option String) := [
  ("Level:", none),
  ("Graduate unofficial transcript", none),
  ("Will Be Determined At Graduation Time", none),
  ("ComputerScience", some "Computer Science"),
  ("ComputerScience/BusinessOption", some "Computer Science/Business Option"),
  ("ScienceandBusiness/EarthSciences", some "Science and Business/Earth Sciences"),
  ("GeographyandEnvironmentalManagement", some "Geography and Environmental Management"),
  ("(DoubleDegree)BusinessAdministration(WLU)andMathematics(UW)",
    some "(Double Degree) Business Administration (WLU) and Mathematics (UW)"),
  ("ity of Waterloo 200 University Ave. West Waterloo Ontario Canada N2L3G1", none),
  ("graduate Unofficial Transcript, Level: 1A, PostBaccalaureateDiplomainAccounting", none)]

/-- The name of a program without what follows its first comma, unless it is known to be wrong
(`user::clean_program`). -/
def cleanProgram (raw : String) : Option String :=
  let program := Text.trimmed raw
  if longestProgram < Text.utf8Length program.toList then none
  else
    match programFixes.lookup program with
    | some fixed => fixed
    | none =>
      match Text.splitOnce? ',' program with
      | some (head, _) => some head
      | none => some program

/-! ## Credentials -/

/-- How a user signs in (`user::Credential`). -/
inductive Credential
  | password (hash : String)
  | facebook (id : String)
  deriving DecidableEq, Repr

/-- The bytes of a hashed password (`user::PASSWORD_HASH_LENGTH`). -/
def hashLength : Nat := 60

/-- The credential of a user: the account of the other site if there is one, else a password that
has the length of a hash, if there is an address with it (`user::credential`). -/
def LegacyUser.credential? (user : LegacyUser) : Option Credential :=
  match user.facebookId with
  | some id => some (.facebook id)
  | none =>
    match user.email, user.password with
    | some _, some hash =>
      if Text.utf8Length hash.toList = hashLength then some (.password hash) else none
    | _, _ => none

/-- Whence a user joined, as the row of the user says. -/
def LegacyUser.joinSource (user : LegacyUser) : String :=
  match user.credential? with
  | some (.facebook _) => "facebook"
  | _ => "email"

/-! ## Rows -/

/-- Users as rows, each with a secret of its own (`user::UserRow`). -/
def userLayout : Sql.Layout (LegacyUser × String) where
  table := "user"
  columns := ["secret_id", "first_name", "last_name", "program", "email", "join_source"]
  values := fun (user, secret) =>
    [.text secret, .text (Text.trimmed user.firstName), .text (Text.trimmed user.lastName),
      .ofOption .text .text (user.programName.bind cleanProgram),
      .ofOption .text .text user.email, .text user.joinSource]

/-- The password of a user (`user::EmailCredentialRow`). -/
structure PasswordRow where
  user : Int
  hash : String
  deriving DecidableEq, Repr

/-- The account of a user at another site (`user::FacebookCredentialRow`). -/
structure FacebookRow where
  user : Int
  facebookId : String
  deriving DecidableEq, Repr

def passwordLayout : Sql.Layout PasswordRow where
  table := "secret.user_email"
  columns := ["user_id", "password_hash"]
  values row := [.bigint row.user, .text row.hash]

def facebookLayout : Sql.Layout FacebookRow where
  table := "secret.user_fb"
  columns := ["user_id", "fb_id"]
  values row := [.bigint row.user, .text row.facebookId]

/-- The password rows of some users, each with the id of its row. -/
def passwordRows (users : List (LegacyUser × Int)) : List PasswordRow :=
  users.filterMap fun (user, id) =>
    match user.credential? with
    | some (.password hash) => some ⟨id, hash⟩
    | _ => none

/-- The account rows of some users, each with the id of its row. -/
def facebookRows (users : List (LegacyUser × Int)) : List FacebookRow :=
  users.filterMap fun (user, id) =>
    match user.credential? with
    | some (.facebook facebookId) => some ⟨id, facebookId⟩
    | _ => none

/-- Imports the users and their credentials (`UserStage::run`). -/
def importUsers (sources : Sources) : Work Report := do
  let users ← Task.lift (Legacy.load sources.legacy userCollection LegacyUser.decoder)
  let secrets := (List.range users.length).map sources.secret
  let ids ← Work.insert sources.batchSize userLayout (users.zip secrets)
  Work.registerAll .user ((users.map fun user => .key user.id).zip ids)
  let passwords ← Work.copy sources.batchSize passwordLayout (passwordRows (users.zip ids))
  let accounts ← Work.copy sources.batchSize facebookLayout (facebookRows (users.zip ids))
  return ⟨.users,
    [⟨"user", ids.length⟩, ⟨"secret.user_email", passwords⟩, ⟨"secret.user_fb", accounts⟩]⟩

end Registrar.Import
