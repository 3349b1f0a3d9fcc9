import ApiTypings.Document.Schema

/-!
# Emission options

How declarations are written. Every option is a switch that is off unless it is
given, but for the banner.
-/

namespace ApiTypings

/-- The emission options. -/
structure Options where
  /-- Sort declarations by name. -/
  alphabetize : Bool := false
  /-- Write members as read-only. -/
  immutable : Bool := false
  /-- Declare types rather than interfaces. -/
  exportType : Bool := false
  /-- A default of `null` does not make a schema nullable. -/
  defaultNonNullable : Bool := false
  /-- Objects that say nothing about further keys admit them. -/
  additionalProperties : Bool := false
  /-- Path parameters that are strings become template literals. -/
  pathParamsAsTypes : Bool := false
  /-- Arrays of fixed length become tuples. -/
  supportArrayLength : Bool := false
  /-- Write the banner. -/
  header : Bool := true
  /-- Write descriptions as comments. -/
  includeDescriptions : Bool := false
  /-- Write examples as comments. -/
  includeExamples : Bool := false
  deriving DecidableEq, Repr

namespace Options

open Document

/-- The options of an object in normal form. -/
def ofEntries (entries : List (String × Value)) : Options :=
  { alphabetize := flagAt entries "alphabetize"
    immutable := flagAt entries "immutable"
    exportType := flagAt entries "exportType"
    defaultNonNullable := flagAt entries "defaultNonNullable"
    additionalProperties := flagAt entries "additionalProperties"
    pathParamsAsTypes := flagAt entries "pathParamsAsTypes"
    supportArrayLength := flagAt entries "supportArrayLength"
    header := (entries.lookup "header").isNone || flagAt entries "header"
    includeDescriptions := flagAt entries "includeDescriptions"
    includeExamples := flagAt entries "includeExamples" }

/-- The options of a value in normal form. -/
def ofValue (value : Value) : Options :=
  ofEntries (value.mapping?.getD [])

end Options

end ApiTypings
