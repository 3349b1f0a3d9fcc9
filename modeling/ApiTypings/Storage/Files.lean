import ApiTypings.Storage.Host
import ApiTypings.Value

/-!
# A tree of files

A system as a value: files and folders by location, a working folder, and the
answers of servers. A location is the list of names from the root. What the system
refuses and what becomes of remote outputs does not change while a program runs.
-/

namespace ApiTypings
namespace Storage

/-- The names that lead from the root to a file or folder. -/
abbrev Location := List String

/-- A file with its content, or a folder. -/
inductive Entry
  | file (bytes : List UInt8)
  | folder
  deriving DecidableEq, Repr

/-- The kind of an entry. -/
def Entry.kind : Entry → Kind
  | .file _ => .file
  | .folder => .folder

/-- What a program may want to do at a location. -/
inductive Right
  | search
  | read
  | write
  deriving DecidableEq, Repr

/-- What files are surrounded by. -/
class Surroundings where
  /-- Why the system does not let something be done at a location, if so. -/
  refusal? : Location → Right → Option Refusal
  /-- Why a remote place is not known, if so. -/
  opened : String → Except String Unit
  /-- Where a text goes that is written to a remote place, or why it goes nowhere. -/
  stored : String → String → Except RemoteError String

/-- Surroundings in which nothing is refused and no remote place is known. -/
instance : Surroundings where
  refusal? _ _ := none
  opened _ := .error "Unsupported filesystem"
  stored _ _ := .error (.other "Unsupported filesystem")

/-- A tree of files. -/
structure Files where
  entries : List (Location × Entry)
  working : Location
  replies : List (Web.Address × Except String Web.Reply) := []

namespace Files

/-- What stands at a location. The root is a folder. -/
def entryAt (files : Files) (location : Location) : Option Entry :=
  if location.isEmpty then some .folder else files.entries.lookup location

/-- Put an entry at a location. -/
def put (files : Files) (location : Location) (entry : Entry) : Files :=
  { files with entries := Entries.put files.entries location entry }

/-- Take the entry at a location away. -/
def erase (files : Files) (location : Location) : Files :=
  { files with entries := files.entries.filter fun entry => entry.1 != location }

section Refusals

variable [Surroundings]

/-- Let something be done at a location unless the system refuses it. -/
def permit (location : Location) (right : Right) : Except Fault Unit :=
  match Surroundings.refusal? location right with
  | some refusal => .error (.refused refusal)
  | none => .ok ()

/-- Walk from a location along the parts of a path. All but the last place must
be folders that may be searched, and a name is looked up only if it is not too long. -/
def walk (files : Files) (here : Location) : List String → Except Fault Location
  | [] => .ok here
  | part :: rest =>
      match files.entryAt here with
      | some .folder => do
          permit here .search
          if Path.nameLimit < Path.byteSize part then .error .nameTooLong
          else files.walk (if part == ".." then here.dropLast else here ++ [part]) rest
      | some (.file _) => .error .notFolder
      | none => .error .missing

/-- The location that a path denotes. -/
def locate (files : Files) (path : Path) : Except Fault Location :=
  if path.hasHalf then .error .halfCharacter
  else if path.hasNull then .error .nullCharacter
  else if Path.lengthLimit ≤ Path.byteSize path.text then .error .nameTooLong
  else files.walk (if path.isAbsolute then [] else files.working) path.parts

/-- Blame a path for a fault. -/
def blaming {α : Type} (path : Path) (outcome : Except Fault α) : Except SystemError α :=
  outcome.mapError fun fault => ⟨fault, path⟩

/-- What stands at a path. -/
def kindAt (files : Files) (path : Path) : Except SystemError (Option Kind) :=
  match files.locate path with
  | .ok location => .ok ((files.entryAt location).map Entry.kind)
  | .error fault => if fault.isAbsence then .ok none else .error ⟨fault, path⟩

/-- The content of a file. -/
def contentAt (files : Files) (path : Path) : Except SystemError (List UInt8) :=
  blaming path do
    let location ← files.locate path
    match files.entryAt location with
    | none => .error .missing
    | some entry =>
        permit location .read
        match entry with
        | .file bytes => .ok bytes
        | .folder => .error .isFolder

/-- Replace the content of a file, or create it in its folder. -/
def writeFile (files : Files) (path : Path) (bytes : List UInt8) : Except SystemError Files :=
  blaming path do
    let location ← files.locate path
    match files.entryAt location with
    | some .folder => .error .isFolder
    | some (.file _) =>
        permit location .write
        return files.put location (.file bytes)
    | none =>
        permit location.dropLast .write
        return files.put location (.file bytes)

/-- Create a folder in a folder. -/
def createFolder (files : Files) (path : Path) : Except SystemError Files :=
  blaming path do
    let location ← files.locate path
    match files.entryAt location with
    | some _ => .error .alreadyThere
    | none =>
        permit location.dropLast .write
        return files.put location .folder

end Refusals

/-- The working folder as a path, unless it was taken away. -/
def workingPath? (files : Files) : Option Path :=
  if files.entryAt files.working = some .folder then some ⟨"/", files.working⟩ else none

end Files

/-- Change the files if the operation succeeds. -/
def commit (operation : Files → Except SystemError Files) :
    StateM Files (Except SystemError Unit) := do
  match operation (← get) with
  | .ok files =>
      set files
      return .ok ()
  | .error error => return .error error

instance [Surroundings] : Host (StateM Files) where
  workingFolder := return (← get).workingPath?
  kindAt path := return (← get).kindAt path
  readFile path := return (← get).contentAt path
  writeFile path bytes := commit (·.writeFile path bytes)
  createFolder path := commit (·.createFolder path)
  fetch address := return ((← get).replies.lookup address).getD (.error "No route to host")
  openRemote place := return Surroundings.opened place
  writeRemote place text := return Surroundings.stored place text

end Storage
end ApiTypings
