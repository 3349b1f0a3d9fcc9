import ApiTypings.Configuration.Variables
import ApiTypings.Failure
import ApiTypings.Json.Reader
import ApiTypings.Text.Lower

/-!
# Lookup of fields

The fields of a configuration may be given by variables, and a configuration file
may say how these are found.
-/

namespace ApiTypings

/-- Names and values of variables. -/
abbrev Environment := List (String × String)

/-- The fields of a configuration. -/
def fieldNames : List String := ["documents", "verbose"]

/-- How fields are found, in a file and in the environment. -/
structure Lookup where
  /-- What the names of variables start with. -/
  start : String := "OPEN_API_"
  /-- Whether the case of names matters. -/
  caseSensitive : Bool := false
  /-- Whether variables with an empty value count as missing. -/
  ignoreEmpty : Bool := false
  /-- The value of a variable that stands for null. -/
  nullText : Option String := none
  /-- The files of further variables. -/
  files : List String := []
  /-- Whether the settings can be used at all. -/
  isUsable : Bool := true
  deriving DecidableEq, Repr

namespace Lookup

/-- The settings that a file may hold besides the fields. -/
def settingNames : List String := [
  "_case_sensitive", "_nested_model_default_partial_update", "_env_prefix", "_env_file",
  "_env_file_encoding", "_env_ignore_empty", "_env_nested_delimiter", "_env_nested_max_split",
  "_env_parse_none_str", "_env_parse_enums", "_cli_prog_name", "_cli_parse_args",
  "_cli_settings_source", "_cli_parse_none_str", "_cli_hide_none_type", "_cli_avoid_json",
  "_cli_enforce_required", "_cli_use_class_docs_for_groups", "_cli_exit_on_error",
  "_cli_prefix", "_cli_flag_prefix_char", "_cli_implicit_flags", "_cli_ignore_unknown_args",
  "_cli_kebab_case", "_cli_shortcuts", "_secrets_dir"]

/-- The start of the names of variables that a setting gives. One that is a list or
a table has a length, but cannot be used. -/
def startOf : Option Value → Except ShapeProblem (Option String)
  | none | some .null => .ok (some "OPEN_API_")
  | some (.text start) => .ok (some start)
  | some (.list _) | some (.mapping _) | some (.keyed _) => .ok none
  | some value => .error (.noLength value.kind)

/-- The files that a setting names, one or several. -/
def filesOf : Option Value → Except ShapeProblem (List String)
  | none | some .null => .ok []
  | some (.text file) => .ok [file]
  | some (.list files) =>
      files.mapM fun
        | .text file => .ok file
        | other => .error (.noPath other.kind)
  | some (.mapping entries) => .ok (Entries.keys entries)
  | some value => .error (.noSequence value.kind)

/-- Whether a setting can stand for the arguments of a command. -/
def isArguments : Option Value → Bool
  | none | some .null | some (.bool _) | some (.list _) => true
  | some (.int number) => number = 0
  | some (.float number) => number == 0.0
  | _ => false

/-- The lookup that the settings of a file ask for. Only those of variables have
an effect. -/
def ofEntries (entries : List (String × Value)) : Except ShapeProblem Lookup := do
  let isSet (name : String) := ((entries.lookup name).getD .null).isTruthy
  let start ← startOf (entries.lookup "_env_prefix")
  return {
    start := start.getD ""
    caseSensitive := isSet "_case_sensitive"
    ignoreEmpty := isSet "_env_ignore_empty"
    nullText := (entries.lookup "_env_parse_none_str").bind Value.text?
    files := ← filesOf (entries.lookup "_env_file")
    isUsable := start.isSome && isArguments (entries.lookup "_cli_parse_args") }

/-- A name as it is compared. -/
def spelled (lookup : Lookup) (name : String) : String :=
  if lookup.caseSensitive then name else String.ofList (Text.lowerCase name.toList)

/-- The text of the variable for a field. -/
def text? (lookup : Lookup) (environment : Environment) (field : String) : Option String :=
  let name := lookup.spelled (lookup.start ++ field)
  let matching := environment.filter fun entry =>
    lookup.spelled entry.1 == name && !(lookup.ignoreEmpty && entry.2 == "")
  matching.getLast?.map Prod.snd

/-- The field that a text of the environment gives, read by the given function.
Nothing is returned if it cannot be read. -/
def fieldFrom
    (lookup : Lookup)
    (environment : Environment)
    (read : String → Option (List Value))
    (field : String) :
    Option (List (String × Value)) :=
  match lookup.text? environment field with
  | none => some []
  | some text =>
      if lookup.nullText == some text then some [(field, .null)]
      else (read text).map fun values => values.map fun value => (field, value)

/-- The documents that a text lists. -/
def documentsOf (text : String) : Option (List Value) :=
  match Json.read text.toList with
  | .ok .null => some []
  | .ok value => some [value]
  | .error _ => none

/-- The fields that the environment gives; nothing if one cannot be read. -/
def fieldsOf (lookup : Lookup) (environment : Environment) : Option (List (String × Value)) := do
  guard lookup.isUsable
  let documents ← lookup.fieldFrom environment documentsOf "documents"
  let verbose ← lookup.fieldFrom environment (fun text => some [.text text]) "verbose"
  return documents ++ verbose

/-- The variables of some files, under the names by which they are compared. -/
def variablesOf (lookup : Lookup) (files : List (List (String × Option String))) :
    Environment :=
  let given := files.flatten.filter fun entry => !(lookup.ignoreEmpty && entry.2 == some "")
  let named := Entries.ofPairs (given.map fun entry => (lookup.spelled entry.1, entry.2))
  named.filterMap fun entry => entry.2.map fun value => (entry.1, value)

/-- The variables of files that are for no field. They count as unknown fields,
unless they are empty or have the name of a field. -/
def unknownFields (lookup : Lookup) (given : Environment) : List (String × Value) :=
  let isKnown (name : String) :=
    fieldNames.contains name ||
      name == lookup.spelled (lookup.start ++ "verbose") ||
      name.startsWith (lookup.spelled (lookup.start ++ "documents"))
  (given.filter fun entry => entry.2 != "" && !isKnown entry.1).map fun entry =>
    (entry.1, .text entry.2)

/-- The fields of a file under their names. A field may be given in another case,
which then counts more than the name itself. -/
def namedFields (lookup : Lookup) (entries : List (String × Value)) : List (String × Value) :=
  let given := entries.filter fun entry => !settingNames.contains entry.1
  if lookup.caseSensitive then given
  else
    let (exact, others) := given.partition fun entry => fieldNames.contains entry.1
    let named := others.map fun entry =>
      if fieldNames.contains (lookup.spelled entry.1) then (lookup.spelled entry.1, entry.2)
      else entry
    Entries.ofPairs (exact ++ named)

end Lookup

end ApiTypings
