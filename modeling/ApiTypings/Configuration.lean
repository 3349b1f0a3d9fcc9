import ApiTypings.Configuration.Lookup
import ApiTypings.Job
import ApiTypings.Toml.Reader

/-!
# Configuration

The jobs of a configuration file. The environment and files of variables fill in
what the file does not say.
-/

namespace ApiTypings

open Document Storage

/-- A configuration. -/
structure Configuration where
  documents : List Job
  verbose : Bool := true
  deriving DecidableEq, Repr

/-- The configuration of an object in normal form. -/
def Configuration.ofEntries (entries : List (String × Value)) : Configuration :=
  { documents := (itemsAt entries "documents").map Job.ofValue
    verbose := (entries.lookup "verbose").isNone || flagAt entries "verbose" }

/-- Add the fields that are missing. -/
def fillIn (fields entries : List (String × Value)) : List (String × Value) :=
  entries ++ fields.filter fun field => (entries.lookup field.1).isNone

/-- A configuration file has errors. -/
def invalid (path : String) (count : Nat) : Failure :=
  .configuration (.invalid count) (some path)

/-- The configuration of the entries of a file. What it does not say is looked for
in the environment and then in the given files of variables. -/
def configure
    (environment : Environment)
    (files : List (List (String × Option String)))
    (path : String)
    (lookup : Lookup)
    (entries : List (String × Value)) :
    Except Failure Configuration :=
  let further := lookup.variablesOf files
  match lookup.fieldsOf environment, lookup.fieldsOf further with
  | some first, some second =>
      let given := fillIn first (lookup.namedFields entries)
      let filled := fillIn (second ++ lookup.unknownFields further) given
      match normalize (.model .configuration) (.mapping filled) with
      | .ok normal => .ok (.ofEntries (normal.mapping?.getD []))
      | .error issues => .error (invalid path issues.length)
  | _, _ => .error (invalid path 1)

/-- The failure to read a configuration as text. -/
def readFailure (path : String) : ReadError → Failure
  | .system error => .configuration (.unreadable error.message) (some path)
  | .bytes error => .undecodable error

/-- The failure to read a text as a configuration. -/
def syntaxFailure (path : String) : SyntaxError → Failure
  | .impossible reason => .impossible reason
  | error => .configuration (.unreadable error.message) (some path)

variable {m : Type → Type} [Monad m] [Host m]

/-- The variables of those of the given files that are there. -/
def readVariables (environment : Environment) (path : String) :
    List String → m (Except Failure (List (List (String × Option String))))
  | [] => return .ok []
  | file :: rest => do
      match ← Host.kindAt (.ofText file) with
      | .error error => return .error (.system error)
      | .ok (some .file) =>
          match ← readText (.ofText file) with
          | .error (.system error) => return .error (.system error)
          | .error (.bytes _) => return .error (invalid path 1)
          | .ok text =>
              return (← readVariables environment path rest).map
                (Variables.ofText environment text :: ·)
      | .ok _ => readVariables environment path rest

/-- The configuration of a value that was read from a file. -/
def checkConfiguration (environment : Environment) (path : String) :
    Value → m (Except Failure Configuration)
  | .mapping entries => do
      match Lookup.ofEntries entries with
      | .error problem => return .error (.shape problem)
      | .ok lookup =>
          match ← readVariables environment path lookup.files with
          | .error failure => return .error failure
          | .ok files => return configure environment files path lookup entries
  | .keyed _ => return .error (.shape .namelessFields)
  | _ => return .error (invalid path 1)

/-- The configuration in a file, in JSON or YAML. -/
def loadConfiguration (environment : Environment) (path : Path) :
    m (Except Failure Configuration) := do
  match ← readText path with
  | .error error => return .error (readFailure path.text error)
  | .ok text =>
      let format : Format := if path.hasSuffix [".json"] then .json else .yaml
      match format.read text with
      | .error error => return .error (syntaxFailure path.text error)
      | .ok value =>
          if value.isMapping then checkConfiguration environment path.text value
          else return .error (.configuration .notMapping (some path.text))

/-- The names of configuration files, in the order in which they are tried. -/
def configurationNames : List String := ["open-api.yaml", "open-api.yml", "open-api.json"]

/-- The first of the given names that exists in a folder. -/
def firstPresent (folder : Path) : List String → m (Except SystemError (Option Path))
  | [] => return .ok none
  | name :: rest => do
      let path := folder.join (.ofText name)
      match ← Host.kindAt path with
      | .error error => return .error error
      | .ok (some _) => return .ok (some path)
      | .ok none => firstPresent folder rest

/-- The name of the program's table in a project file. -/
def tableName : String := "open-api"

/-- The table of the program in a project file. A text or a list in which the
name of the table occurs is taken for one, but has no fields. -/
def projectTable (value : Value) : Except ShapeProblem (Option Value) :=
  match value.get? "tool" with
  | none => .ok none
  | some (.mapping tables) => .ok (tables.lookup tableName)
  | some (.text content) =>
      if Text.hasPart tableName.toList content.toList then .error .fieldOfText else .ok none
  | some (.list items) =>
      if items.any fun item => item.text? == some tableName then .error .fieldOfList
      else .ok none
  | some other => .error (.noContainer other.kind)

/-- The configuration in the project file, if there is one. -/
def loadProject (environment : Environment) (path : Path) :
    m (Except Failure Configuration) := do
  let nothing : Except Failure Configuration := .error (.configuration .nothingFound none)
  match ← Host.kindAt path with
  | .error error => return .error (.system error)
  | .ok none => return nothing
  | .ok (some _) =>
      match ← readText path with
      | .error error => return .error (readFailure path.text error)
      | .ok text =>
          match Toml.read text with
          | .error (.longInteger digits) =>
              return .error (.impossible (Decimal.limitMessage (some digits)))
          | .error .malformed =>
              return .error
                (.configuration (.unreadable "malformed TOML document") (some path.text))
          | .ok value =>
              match projectTable value with
              | .error problem => return .error (.shape problem)
              | .ok (some table) => checkConfiguration environment path.text table
              | .ok none => return nothing

/-- The configuration: that of the given file, or else that of the first
configuration file in the working folder, or else that of the project. -/
def findConfiguration (environment : Environment) (given : Option String) :
    m (Except Failure Configuration) := do
  match nonEmpty given with
  | some text =>
      let path := Path.ofText text
      match ← Host.kindAt path with
      | .error error => return .error (.system error)
      | .ok (some _) => loadConfiguration environment path
      | .ok none => return .error (.configuration .fileNotFound (some text))
  | none =>
      match ← Host.workingFolder with
      | none => return .error (.system ⟨.missing, none⟩)
      | some folder =>
          match ← firstPresent folder configurationNames with
          | .error error => return .error (.system error)
          | .ok (some path) => loadConfiguration environment path
          | .ok none => loadProject environment (folder.join (.ofText "pyproject.toml"))

end ApiTypings
