import ApiTypings.Document.Issue
import ApiTypings.Storage.Host
import ApiTypings.Text.Utf8
import ApiTypings.Typing.Traced
import ApiTypings.ValueText

/-!
# Failures

Why a run fails, and how the failure is told.
-/

namespace ApiTypings

open Component

/-- A text that is there only if it is not empty. -/
def nonEmpty (text : Option String) : Option String :=
  text.filter (· != "")

/-- A text after a given start, or nothing. -/
def suffixed (start : String) (text : Option String) : String :=
  (text.map (start ++ ·)).getD ""

/-- A message with further details is shown as a list that starts with it. -/
def detailedMessage (message : String) (details : List Value) : String :=
  if details.isEmpty then message
  else Value.bracketed "(" (Value.shownItems (.text message :: details)) ")"

/-- A document could not be read. -/
def loadMessage (source : String) (cause : Option String) : String :=
  "Failed to load schema from '" ++ source ++ "'" ++ suffixed ": " cause

/-- A document is no API description. -/
def validationMessage (source : String) (errors : List String) : String :=
  "Schema validation failed for '" ++ source ++ "'" ++
    if errors.isEmpty then "" else ": " ++ "; ".intercalate errors

/-- A reference cannot be used. -/
def referenceMessage (reference : String) (reason location : Option String) : String :=
  "Failed to resolve reference '" ++ reference ++ "'" ++ suffixed " in " (nonEmpty location) ++
    suffixed ": " (nonEmpty reason)

/-- Options or configuration are invalid. -/
def configurationMessage (message : String) (path field : Option String) : String :=
  message ++ suffixed " in '" ((nonEmpty path).map (· ++ "'")) ++
    suffixed " (field: " ((nonEmpty field).map (· ++ ")"))

/-- The text could not be written. -/
def outputMessage (path : String) (cause : Option String) : String :=
  "Failed to write output to '" ++ path ++ "'" ++ suffixed ": " cause

/-- What is wrong with options or configuration. -/
inductive ConfigurationProblem
  | invalidOptions (count : Nat)
  | unreadable (cause : String)
  | notMapping
  | invalid (count : Nat)
  | fileNotFound
  | nothingFound
  deriving DecidableEq, Repr

/-- The wording of a problem. -/
def ConfigurationProblem.message : ConfigurationProblem → String
  | .invalidOptions count => "Invalid generator options: " ++ toString count ++ " error(s)"
  | .unreadable cause => "Could not read configuration: " ++ cause
  | .notMapping => "Configuration must be a mapping"
  | .invalid count => "Invalid configuration: " ++ toString count ++ " error(s)"
  | .fileNotFound => "Configuration file not found"
  | .nothingFound => "No configuration found"

/-- Why a value cannot be used as a table of named fields. -/
inductive ShapeProblem
  /-- Fields have names that are no texts. -/
  | namelessFields
  /-- A value of the given kind holds nothing that could be looked up. -/
  | noContainer (kind : String)
  /-- A value of the given kind has no length. -/
  | noLength (kind : String)
  /-- A value of the given kind has no items. -/
  | noSequence (kind : String)
  /-- A value of the given kind is no path. -/
  | noPath (kind : String)
  /-- A text is asked for a field. -/
  | fieldOfText
  /-- A list is asked for a field. -/
  | fieldOfList
  deriving DecidableEq, Repr

/-- The wording of a problem. -/
def ShapeProblem.message : ShapeProblem → String
  | .namelessFields => "keywords must be strings"
  | .noContainer kind => "argument of type '" ++ kind ++ "' is not iterable"
  | .noLength kind => "object of type '" ++ kind ++ "' has no len()"
  | .noSequence kind => "'" ++ kind ++ "' object is not iterable"
  | .noPath kind => "expected str, bytes or os.PathLike object, not " ++ kind
  | .fieldOfText => "string indices must be integers, not 'str'"
  | .fieldOfList => "list indices must be integers or slices, not str"

/-- Why a run fails. -/
inductive Failure
  | load (source : String) (cause : String)
  | validation (source : String) (errors : List String)
  | reference (error : ReferenceError)
  | configuration (problem : ConfigurationProblem) (path : Option String)
  | output (path : String) (cause : String)
  | undecodable (error : Text.DecodeError)
  | unwritable (error : Json.WriteError)
  | overlong (length : Int)
  | impossible (reason : String)
  | shape (problem : ShapeProblem)
  | system (error : Storage.SystemError)
  deriving DecidableEq, Repr

/-- How a failure is told. -/
def Failure.message : Failure → String
  | .load source cause => loadMessage source (some cause)
  | .validation source errors => validationMessage source errors
  | .reference error =>
      referenceMessage error.reference (some error.problem.message) error.location
  | .configuration problem path => configurationMessage problem.message path none
  | .output path cause => outputMessage path (some cause)
  | .undecodable error => error.message
  | .unwritable error => error.message
  | .overlong length => Decimal.overlongMessage length
  | .impossible reason => reason
  | .shape problem => problem.message
  | .system error => error.message

/-- The failure of an interrupted computation. -/
def Failure.ofInterruption : Typing.Interruption → Failure
  | .reference error => .reference error
  | .unwritable error => .unwritable error
  | .overlong length => .overlong length

/-- Whether a failure is told to the user; the others break a run off. -/
def Failure.isReported : Failure → Bool
  | .undecodable _ => false
  | .unwritable _ => false
  | .overlong _ => false
  | .impossible _ => false
  | .shape _ => false
  | .system _ => false
  | _ => true

end ApiTypings
