import ApiTypings.Decimal.Limit
import ApiTypings.Document.Model

/-!
# Issues

What is wrong with a value, and where in the document it stands. A check that
fails reports every issue, not only the first. An integer that is too long to be
written as a text makes the report as a whole impossible.
-/

namespace ApiTypings
namespace Document

/-- What is wrong with a value. -/
inductive Fault
  | missing
  | unexpected
  | notText
  | notFlag
  | unreadableFlag
  | notInteger
  | fractionalInteger
  | unreadableInteger
  | oversizedInteger
  | infiniteInteger
  | notNumber
  | unreadableNumber
  | notList
  | notMapping
  | strayKey
  | longInteger
  | notModel (model : Model)
  deriving DecidableEq, Repr

/-- The wording of a fault. -/
def Fault.message : Fault → String
  | .missing => "Field required"
  | .unexpected => "Extra inputs are not permitted"
  | .notText => "Input should be a valid string"
  | .notFlag => "Input should be a valid boolean"
  | .unreadableFlag => "Input should be a valid boolean, unable to interpret input"
  | .notInteger => "Input should be a valid integer"
  | .fractionalInteger =>
      "Input should be a valid integer, got a number with a fractional part"
  | .unreadableInteger =>
      "Input should be a valid integer, unable to parse string as an integer"
  | .oversizedInteger =>
      "Unable to parse input string as an integer, exceeded maximum size"
  | .infiniteInteger => "Input should be a finite number"
  | .notNumber => "Input should be a valid number"
  | .unreadableNumber =>
      "Input should be a valid number, unable to parse string as a number"
  | .notList => "Input should be a valid list"
  | .notMapping => "Input should be a valid dictionary"
  | .strayKey => "Keys should be strings"
  | .longInteger => Decimal.limitMessage none
  | .notModel model =>
      "Input should be a valid dictionary or instance of " ++ model.name

/-- A fault and the place of the value, outermost part first. -/
structure Issue where
  place : List String
  fault : Fault
  deriving DecidableEq, Repr

/-- An issue as a line of a report. -/
def Issue.message (issue : Issue) : String :=
  ".".intercalate issue.place ++ ": " ++ issue.fault.message

/-- The result of a check: a value, or all issues in order. -/
abbrev Checked (α : Type) := Except (List Issue) α

namespace Checked

variable {α β : Type}

/-- A single issue at the place of the value itself. -/
def fail (fault : Fault) : Checked α :=
  .error [⟨[], fault⟩]

/-- The issues of a check. -/
def issues : Checked α → List Issue
  | .ok _ => []
  | .error issues => issues

/-- A check of a part of the value. -/
def under (part : String) (checked : Checked α) : Checked α :=
  checked.mapError (·.map fun issue => { issue with place := part :: issue.place })

/-- Both checks succeed, or the issues of both are reported. -/
def both (first : Checked α) (second : Checked β) : Checked (α × β) :=
  match first, second with
  | .ok a, .ok b => .ok (a, b)
  | first, second => .error (first.issues ++ second.issues)

/-- Put the result of a check in front of the results of others. -/
def cons (first : Checked α) (rest : Checked (List α)) : Checked (List α) :=
  (both first rest).map fun pair => pair.1 :: pair.2

end Checked

end Document
end ApiTypings
