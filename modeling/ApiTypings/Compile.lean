import ApiTypings.Document.Normalize
import ApiTypings.Failure
import ApiTypings.Typing.Declarations

/-!
# Compiling a document

From the value of a document and the value of its options to the text of a
module.
-/

namespace ApiTypings

open Document Typing

/-- The normal form of a document that was read from a source. -/
def validateDocument (source : String) (value : Value) : Except Failure Value :=
  if value.isMapping then
    match normalize (.model .document) value with
    | .ok document => .ok document
    | .error issues =>
        if issues.any fun issue => issue.fault = .longInteger then
          .error (.unwritable .longInteger)
        else .error (.validation source (issues.map Issue.message))
  else .error (.validation source ["Document root must be a mapping"])

/-- The options of a value; `null` stands for no options. -/
def readOptions (value : Value) : Except Failure Options :=
  match value with
  | .null => .ok {}
  | _ =>
      match normalize (.model .options) value with
      | .ok options => .ok (.ofValue options)
      | .error issues => .error (.configuration (.invalidOptions issues.length) none)

/-- The text of the module of a document. -/
def compile (source : String) (document options : Value) : List Event × Except Failure String :=
  match validateDocument source document, readOptions options with
  | .error failure, _ => ([], .error failure)
  | .ok _, .error failure => ([], .error failure)
  | .ok valid, .ok chosen =>
      let traced := generateFrom (.ofValue valid) chosen
      (traced.events, traced.result.mapError .ofInterruption)

end ApiTypings
