import ApiTypings.Options
import ApiTypings.Text.Blank

/-!
# Arguments

The commands of the program and their options. Options and the input may stand in
any order; of an option that is given twice the last one counts.
-/

namespace ApiTypings
namespace CommandLine

/-- What is to be generated, and how. -/
structure Request where
  source : Option String := none
  output : Option String := none
  options : Options := {}
  silent : Bool := false
  configuration : Option String := none
  help : Bool := false
  deriving DecidableEq, Repr

/-- The commands. -/
inductive Command
  | help
  | version
  | generate (request : Request)
  deriving DecidableEq, Repr

/-- Change the emission options of a request. -/
def Request.change (change : Options → Options) (request : Request) : Request :=
  { request with options := change request.options }

/-- The options that take no value. -/
def flag? : String → Option (Request → Request)
  | "--alphabetize" => some (.change fun options => { options with alphabetize := true })
  | "--immutable" => some (.change fun options => { options with immutable := true })
  | "--export-type" => some (.change fun options => { options with exportType := true })
  | "--default-non-nullable" =>
      some (.change fun options => { options with defaultNonNullable := true })
  | "--additional-properties" =>
      some (.change fun options => { options with additionalProperties := true })
  | "--path-params-as-types" =>
      some (.change fun options => { options with pathParamsAsTypes := true })
  | "--support-array-length" =>
      some (.change fun options => { options with supportArrayLength := true })
  | "--header" => some (.change fun options => { options with header := true })
  | "--no-header" => some (.change fun options => { options with header := false })
  | "--include-descriptions" =>
      some (.change fun options => { options with includeDescriptions := true })
  | "--include-examples" =>
      some (.change fun options => { options with includeExamples := true })
  | "--silent" => some fun request => { request with silent := true }
  | "--help" => some fun request => { request with help := true }
  | _ => none

/-- The options that take a value. -/
def setting? : String → Option (String → Request → Request)
  | "--output" => some fun value request => { request with output := some value }
  | "-o" => some fun value request => { request with output := some value }
  | "--config" => some fun value request => { request with configuration := some value }
  | "-c" => some fun value request => { request with configuration := some value }
  | _ => none

/-- A text before and after its first equals sign. -/
def splitEquals (text : String) : String × Option String :=
  let chars := text.toList
  match chars.dropWhile (· != '=') with
  | _ :: value => (String.ofList (chars.takeWhile (· != '=')), some (String.ofList value))
  | [] => (text, none)

/-- What an argument is. -/
inductive Argument
  /-- An argument that is no option. -/
  | input
  /-- What ends the options. -/
  | separator
  /-- An option that needs nothing more. -/
  | complete (change : Request → Request)
  /-- An option whose value is the next argument. -/
  | incomplete (change : String → Request → Request)
  /-- No option that is known. -/
  | unknown

/-- The argument of a text. -/
def Argument.ofText (text : String) : Argument :=
  match text.toList with
  | ['-', '-'] => .separator
  | '-' :: '-' :: _ =>
      let (name, value) := splitEquals text
      match flag? name, setting? name, value with
      | some change, _, none => .complete change
      | none, some change, some given => .complete (change given)
      | none, some change, none => .incomplete change
      | _, _, _ => .unknown
  | '-' :: letter :: rest =>
      match setting? (String.ofList ['-', letter]) with
      | some change =>
          if rest.isEmpty then .incomplete change else .complete (change (String.ofList rest))
      | none => .unknown
  | _ => .input

/-- Read arguments into a request; the inputs are collected in order. Nothing is
returned for arguments that make no sense. -/
def readArguments (request : Request) (inputs : List String) :
    List String → Option (Request × List String)
  | [] => some (request, inputs)
  | [text] =>
      match Argument.ofText text with
      | .input => some (request, inputs ++ [text])
      | .separator => some (request, inputs)
      | .complete change => some (change request, inputs)
      | .incomplete _ => none
      | .unknown => none
  | text :: next :: rest =>
      match Argument.ofText text with
      | .input => readArguments request (inputs ++ [text]) (next :: rest)
      | .separator => some (request, inputs ++ next :: rest)
      | .complete change => readArguments (change request) inputs (next :: rest)
      | .incomplete change => readArguments (change next request) inputs rest
      | .unknown => none

/-- The request of the arguments of `generate`, which takes one input at most. -/
def generateCommand (arguments : List String) : Option Command := do
  let (request, inputs) ← readArguments {} [] arguments
  if request.help then return .help
  match inputs with
  | [] => return .generate request
  | [source] => return .generate { request with source := some source }
  | _ => none

/-- The command of the arguments of `version`, which takes none. -/
def versionCommand : List String → Option Command
  | [] => some .version
  | ["--"] => some .version
  | "--help" :: _ => some .help
  | _ => none

/-- The command of a name and its arguments. -/
def namedCommand : List String → Option Command
  | "generate" :: arguments => generateCommand arguments
  | "version" :: arguments => versionCommand arguments
  | _ => none

/-- The command of the arguments of the program. -/
def Command.ofArguments : List String → Option Command
  | "--help" :: _ => some .help
  | "--" :: arguments => namedCommand arguments
  | arguments => namedCommand arguments

end CommandLine
end ApiTypings
