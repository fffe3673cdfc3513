import Registrar.Text.Cut
import Registrar.Text.Utf8
/-!
# Files

A tree of files and directories, addressed by paths, and the ways in which reading a file can
fail. A path leads from the directory at hand through every directory it names.
-/
namespace Registrar.Legacy

/-- What stands at a path. -/
inductive Entry
  | directory
  | file (bytes : List Nat)
  deriving DecidableEq, Repr

/-- Why a file cannot be read. -/
inductive FileFault
  | notFound
  | notADirectory
  | isADirectory
  | nameTooLong
  | nulInPath
  | notUtf8
  | other (message : String)
  deriving DecidableEq, Repr

def FileFault.message : FileFault → String
  | .notFound => "No such file or directory (os error 2)"
  | .notADirectory => "Not a directory (os error 20)"
  | .isADirectory => "Is a directory (os error 21)"
  | .nameTooLong => "File name too long (os error 36)"
  | .nulInPath => "file name contained an unexpected NUL byte"
  | .notUtf8 => "stream did not contain valid UTF-8"
  | .other message => message

/-- Reads the bytes of the file at a path. -/
abbrev Disk := String → Except FileFault (List Nat)

/-- The entries of a directory tree, each at the names that lead to it. -/
abbrev Tree := List (List String × Entry)

namespace Tree

/-- The names that make up a path; empty names and the name of the directory itself lead
nowhere. -/
def names (path : String) : List String :=
  ((Text.pieces '/' path.toList).map String.ofList).filter fun name => name ≠ "" ∧ name ≠ "."

/-- What stands at some names. A directory stands wherever an entry lies below it. -/
def entry? (tree : Tree) (at_ : List String) : Option Entry :=
  match tree.lookup at_ with
  | some entry => some entry
  | none =>
    if at_ = [] ∨ tree.any fun (names, _) => at_.isPrefixOf names then some .directory else none

/-- Follows names from the directory at `here`, which is kept in reverse. -/
def follow (tree : Tree) (here : List String) : List String → Except FileFault (List String)
  | [] => .ok here.reverse
  | name :: rest =>
    match tree.entry? here.reverse with
    | none => .error .notFound
    | some (.file _) => .error .notADirectory
    | some .directory =>
      if 255 < Text.utf8Length name.toList then .error .nameTooLong
      else if name = ".." then follow tree here.tail rest
      else follow tree (name :: here) rest

/-- The disk that holds the tree. A path with a slash or a dot at its end must lead to a
directory. -/
def disk (tree : Tree) : Disk := fun path => do
  if path.toList.contains '\x00' then .error .nulInPath
  if path = "" then .error .notFound
  let there ← tree.follow [] (names path)
  match tree.entry? there with
  | none => .error .notFound
  | some .directory => .error .isADirectory
  | some (.file bytes) =>
    let last := (Text.pieces '/' path.toList).getLast?
    if last = some [] ∨ last = some ['.'] then .error .notADirectory else .ok bytes

end Tree

/-- The text of the file at a path. -/
def Disk.text (disk : Disk) (path : String) : Except FileFault (List Char) := do
  match Text.decodeUtf8? (← disk path) with
  | some text => return text
  | none => .error .notUtf8

/-- The path of a file in a directory. -/
def joinPath (directory file : String) : String :=
  if file.toList.head? = some '/' ∨ directory = "" then file
  else if directory.toList.getLast? = some '/' then directory ++ file
  else directory ++ "/" ++ file

end Registrar.Legacy
