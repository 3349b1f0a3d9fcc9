import ApiTypings.Configuration
import ApiTypings.Proofs.Outcome
import ApiTypings.Proofs.Storage.Recording

/-!
# Failures that escape from a configuration

A configuration that cannot be found, read or used is mostly a failure that says so. Other
failures are exactly these: a working folder that was taken away, paths that the system does
not tell about, files that are not in UTF-8, texts at which a parser breaks down, values of
the wrong shape where they are not validated, and files of variables that are not read.
-/

namespace ApiTypings

open Storage

/-- An outcome is a failure that does not say that a configuration is at fault. -/
def Escapes {α : Type} (outcome : Except Failure α) (failure : Failure) : Prop :=
  outcome = .error failure ∧ ∀ problem path, failure ≠ .configuration problem path

/-- Past items that are passed, a list holds one that is looked for. -/
inductive Meets {α : Type} (Passed Found : α → Prop) : List α → Prop
  | here {item : α} {rest : List α} (found : Found item) : Meets Passed Found (item :: rest)
  | there
      {item : α}
      {rest : List α}
      (passed : Passed item)
      (meets : Meets Passed Found rest) :
      Meets Passed Found (item :: rest)

theorem Meets.exists_found
    {α : Type}
    {Passed Found : α → Prop}
    {list : List α}
    (meets : Meets Passed Found list) :
    ∃ item ∈ list, Found item := by
  induction meets with
  | here found => exact ⟨_, List.mem_cons_self, found⟩
  | there _ _ hypothesis =>
      obtain ⟨item, listed, found⟩ := hypothesis
      exact ⟨item, List.mem_cons_of_mem _ listed, found⟩

namespace Escapes

variable {α : Type} {failure : Failure}

end Escapes

section Failures

variable {failure : Failure} (environment : Environment) (path : String)

end Failures

variable [Surroundings]

namespace Storage
namespace Files

variable {files : Files} {path : Path}

/-- The text of a file. -/
def textAt (files : Files) (path : Path) : Except ReadError (List Char) :=
  match files.contentAt path with
  | .error error => .error (.system error)
  | .ok bytes =>
      match Text.decode bytes with
      | .error error => .error (.bytes error)
      | .ok text => .ok (plainLines (Text.marked text))

end Files
end Storage

variable {files : Files} {failure : Failure} (environment : Environment) (path : String)

/-! ## Values -/

/-- A file of variables is passed over or read. -/
def Passes (files : Files) (path : Path) : Prop :=
  ∃ found, files.kindAt path = .ok found ∧
    (found = some .file → ∃ text, files.textAt path = .ok text)

/-- The system does not tell about a file of variables, or does not let it be read. -/
def Stops (files : Files) (error : SystemError) (path : Path) : Prop :=
  files.kindAt path = .error error ∨
    files.kindAt path = .ok (some .file) ∧ files.textAt path = .error (.system error)

/-- What escapes from the value of a configuration: the fields have names that are no texts,
the settings have the wrong shape, or the system stops at a file of variables. -/
inductive ValueEscape (files : Files) : Value → Failure → Prop
  | nameless {entries : List (Key × Value)} :
      ValueEscape files (.keyed entries) (.shape .namelessFields)
  | settings
      {entries : List (String × Value)}
      {problem : ShapeProblem}
      (unusable : Lookup.ofEntries entries = .error problem) :
      ValueEscape files (.mapping entries) (.shape problem)
  | variableFile
      {entries : List (String × Value)}
      {lookup : Lookup}
      {error : SystemError}
      (usable : Lookup.ofEntries entries = .ok lookup)
      (stopped : Meets (fun name => Passes files (.ofText name))
        (fun name => Stops files error (.ofText name)) lookup.files) :
      ValueEscape files (.mapping entries) (.system error)

/-- What escapes from a configuration file: the system does not tell about its path, it is
not in UTF-8, the parser breaks down, or its value is at fault. -/
@[mk_iff]
inductive FileEscape (files : Files) (path : Path) : Failure → Prop
  | path {error : SystemError} (stopped : files.kindAt path = .error error) :
      FileEscape files path (.system error)
  | bytes {error : Text.DecodeError} (undecoded : files.textAt path = .error (.bytes error)) :
      FileEscape files path (.undecodable error)
  | parser
      {text : List Char}
      {reason : String}
      (content : files.textAt path = .ok text)
      (breaks : (if path.hasSuffix [".json"] then Format.json else .yaml).read text =
        .error (.impossible reason)) :
      FileEscape files path (.impossible reason)
  | value
      {text : List Char}
      {value : Value}
      {failure : Failure}
      (content : files.textAt path = .ok text)
      (read : (if path.hasSuffix [".json"] then Format.json else .yaml).read text = .ok value)
      (mapping : value.isMapping = true)
      (escape : ValueEscape files value failure) :
      FileEscape files path failure

/-- What escapes from the project file. -/
@[mk_iff]
inductive ProjectEscape (files : Files) (path : Path) : Failure → Prop
  | path {error : SystemError} (stopped : files.kindAt path = .error error) :
      ProjectEscape files path (.system error)
  | bytes {error : Text.DecodeError} (undecoded : files.textAt path = .error (.bytes error)) :
      ProjectEscape files path (.undecodable error)
  | parser
      {text : List Char}
      {digits : Nat}
      (content : files.textAt path = .ok text)
      (breaks : Toml.read text = .error (.longInteger digits)) :
      ProjectEscape files path (.impossible (Decimal.limitMessage (some digits)))
  | table
      {text : List Char}
      {value : Value}
      {problem : ShapeProblem}
      (content : files.textAt path = .ok text)
      (read : Toml.read text = .ok value)
      (noTable : projectTable value = .error problem) :
      ProjectEscape files path (.shape problem)
  | value
      {text : List Char}
      {value table : Value}
      {failure : Failure}
      (content : files.textAt path = .ok text)
      (read : Toml.read text = .ok value)
      (hasTable : projectTable value = .ok (some table))
      (escape : ValueEscape files table failure) :
      ProjectEscape files path failure

section Loading

variable {place : Path}

end Loading

/-! ## Configurations -/

/-- The files of a folder in which a configuration is looked for, in order, the project file
apart. -/
def candidates (folder : Path) : List Path :=
  configurationNames.map fun name => folder.join (.ofText name)

/-- What escapes from the configuration that is taken: that of the file that is given, or else
that of the first candidate that is there, or else that of the project file. -/
@[mk_iff]
inductive ConfigurationEscape (files : Files) (given : Option String) (failure : Failure) : Prop
  | given
      {text : String}
      (named : nonEmpty given = some text)
      (escape : FileEscape files (.ofText text) failure)
  | folder
      (free : nonEmpty given = none)
      (lost : files.workingPath? = none)
      (missing : failure = .system ⟨.missing, none⟩)
  | file
      {folder : Path}
      (free : nonEmpty given = none)
      (there : files.workingPath? = some folder)
      (taken : Meets (fun path => files.kindAt path = .ok none)
        (fun path => FileEscape files path failure) (candidates folder))
  | project
      {folder : Path}
      (free : nonEmpty given = none)
      (there : files.workingPath? = some folder)
      (absent : ∀ path ∈ candidates folder, files.kindAt path = .ok none)
      (escape : ProjectEscape files (folder.join (.ofText "pyproject.toml")) failure)

/-- What escapes is not told to the user. -/
theorem ValueEscape.isReported {value : Value} (escape : ValueEscape files value failure) :
    failure.isReported = false := by
  cases escape <;> rfl

theorem FileEscape.isReported {place : Path} (escape : FileEscape files place failure) :
    failure.isReported = false := by
  cases escape with
  | value _ _ _ escape => exact escape.isReported
  | _ => rfl

theorem ProjectEscape.isReported {place : Path} (escape : ProjectEscape files place failure) :
    failure.isReported = false := by
  cases escape with
  | value _ _ _ escape => exact escape.isReported
  | _ => rfl

theorem ConfigurationEscape.isReported
    {given : Option String}
    (escape : ConfigurationEscape files given failure) :
    failure.isReported = false := by
  cases escape with
  | given _ escape => exact escape.isReported
  | folder _ _ missing =>
      rw [missing]
      rfl
  | file _ _ taken =>
      obtain ⟨_, _, escape⟩ := taken.exists_found
      exact escape.isReported
  | project _ _ _ escape => exact escape.isReported

end ApiTypings
