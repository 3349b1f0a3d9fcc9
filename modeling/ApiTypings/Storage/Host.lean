import ApiTypings.Storage.Path
import ApiTypings.Web.Reply

/-!
# Storage

What the program asks of its surroundings: files, folders and the network. The
operations are those of a system; what is built on them here is the same for
every system.
-/

namespace ApiTypings
namespace Storage

/-- What stands at a path. -/
inductive Kind
  | file
  | folder
  deriving DecidableEq, Repr

/-- A refusal of the system for reasons of its own, by its number and its wording. -/
structure Refusal where
  number : Nat
  wording : String
  deriving DecidableEq, Repr

/-- Why an operation on a path fails. -/
inductive Fault
  | missing
  | alreadyThere
  | notFolder
  | isFolder
  | nameTooLong
  | refused (refusal : Refusal)
  /-- A null character stands in the path, so that the system is not even asked. -/
  | nullCharacter
  /-- Half of a surrogate pair stands in the path, so that the system is not even asked. -/
  | halfCharacter
  deriving DecidableEq, Repr

/-- The number by which the system tells a fault. -/
def Fault.number? : Fault → Option Nat
  | .missing => some 2
  | .alreadyThere => some 17
  | .notFolder => some 20
  | .isFolder => some 21
  | .nameTooLong => some 36
  | .refused refusal => some refusal.number
  | .nullCharacter => none
  | .halfCharacter => none

/-- The wording of a fault. -/
def Fault.wording : Fault → String
  | .missing => "No such file or directory"
  | .alreadyThere => "File exists"
  | .notFolder => "Not a directory"
  | .isFolder => "Is a directory"
  | .nameTooLong => "File name too long"
  | .refused refusal => refusal.wording
  | .nullCharacter => "embedded null byte"
  | .halfCharacter => "surrogates not allowed"

/-- Whether a fault says that something on the way to a path is missing. -/
def Fault.isMissing (fault : Fault) : Bool :=
  fault.number? == some 2

/-- The numbers of the faults that mean that there is nothing at a path: something is
missing on the way, is no folder, is closed, or is a link to itself. -/
def absenceNumbers : List Nat := [2, 9, 20, 40]

/-- Whether a fault means that there is nothing at a path. -/
def Fault.isAbsence (fault : Fault) : Bool :=
  fault.number?.all absenceNumbers.contains

/-- A fault and the path at which it occurred, if it did at one. -/
structure SystemError where
  fault : Fault
  path : Option Path
  deriving DecidableEq, Repr

/-- The report of an error. -/
def SystemError.message (error : SystemError) : String :=
  match error.fault.number?, error.path with
  | some number, some path =>
      "[Errno " ++ toString number ++ "] " ++ error.fault.wording ++ ": " ++
        Text.singleQuoted path.text
  | some number, none => "[Errno " ++ toString number ++ "] " ++ error.fault.wording
  | none, path =>
      if error.fault = .halfCharacter then (path.map Path.halfReport).getD ""
      else error.fault.wording

/-- Why a text cannot be written to a remote place: what the system on the other side
says, or something that breaks the program off. -/
inductive RemoteError
  | system (place cause : String)
  | other (reason : String)
  deriving DecidableEq, Repr

/-- The operations of a system. -/
class Host (m : Type → Type) where
  /-- The folder that relative paths start from, unless it was taken away. -/
  workingFolder : m (Option Path)
  /-- What stands at a path, if anything does. Faults that do not mean that there is
  nothing are errors. -/
  kindAt : Path → m (Except SystemError (Option Kind))
  /-- The content of a file. -/
  readFile : Path → m (Except SystemError (List UInt8))
  /-- Replace the content of a file, or create it. -/
  writeFile : Path → List UInt8 → m (Except SystemError Unit)
  /-- Create a folder in a folder. -/
  createFolder : Path → m (Except SystemError Unit)
  /-- Ask a server; the error is the report of the network. -/
  fetch : Web.Address → m (Except String Web.Reply)
  /-- Get ready to write to a remote place; the error says why it is not known. -/
  openRemote : String → m (Except String Unit)
  /-- Write a text to a remote place, and tell where it went. -/
  writeRemote : String → String → m (Except RemoteError String)

variable {m : Type → Type} [Monad m] [Host m]

/-- Create a folder unless it is there. -/
def ensureFolder (path : Path) : m (Except SystemError Unit) := do
  match ← Host.createFolder path with
  | .ok () => return .ok ()
  | .error error =>
      if error.fault.isMissing then return .error error
      else
        match ← Host.kindAt path with
        | .ok (some .folder) => return .ok ()
        | _ => return .error error

/-- Create the folder of the first `count` parts of a path, and the folders that
lead to it, unless they are there. -/
def ensureFolders (path : Path) : Nat → m (Except SystemError Unit)
  | 0 => ensureFolder ⟨path.root, []⟩
  | count + 1 => do
      match ← ensureFolder ⟨path.root, path.parts.take (count + 1)⟩ with
      | .ok () => return .ok ()
      | .error error =>
          if error.fault.isMissing then
            match ← ensureFolders path count with
            | .ok () => ensureFolder ⟨path.root, path.parts.take (count + 1)⟩
            | .error error => return .error error
          else return .error error

/-- Write a file, creating its folder if need be. -/
def writeInFolder (path : Path) (bytes : List UInt8) : m (Except SystemError Unit) := do
  match ← ensureFolders path.parent path.parent.parts.length with
  | .ok () => Host.writeFile path bytes
  | .error error => return .error error

end Storage
end ApiTypings
