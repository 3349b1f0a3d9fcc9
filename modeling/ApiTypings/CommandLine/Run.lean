import ApiTypings.CommandLine.Arguments
import ApiTypings.CommandLine.Markup
import ApiTypings.Configuration

/-!
# Running commands

Jobs are done in order until one fails. What was written before a failure stays.
-/

namespace ApiTypings
namespace CommandLine

open Storage

/-- What breaks a run off. -/
inductive Breakdown
  | failure (cause : Failure)
  | markup (error : MarkupError)
  deriving DecidableEq, Repr

/-- The wording of a breakdown. -/
def Breakdown.message : Breakdown → String
  | .failure cause => cause.message
  | .markup error => error.message

/-- What a run leaves: its exit code, what it printed, and what broke it off. -/
structure Outcome where
  code : Nat
  output : String := ""
  errors : String := ""
  breakdown : Option Breakdown := none
  deriving DecidableEq, Repr

/-- The version of the program. -/
def versionText : String := "ts-open-api version: 0.1.0\n"

/-- How the program is called. -/
def usageText : String :=
  "Usage: open-api generate [OPTIONS] [INPUT]\n       open-api version\n"

/-- A line of a message. -/
def line (markup : String) : Except MarkupError String :=
  (shown markup).map (· ++ "\n")

/-- The line that tells of a failure. -/
def report (failure : Failure) : Except MarkupError String :=
  line ("[red]Error:[/red] " ++ escaped failure.message)

/-- The outcome of a run that breaks off after some output. -/
def brokenOff (output : String) (breakdown : Breakdown) : Outcome :=
  { code := 1, output, breakdown := some breakdown }

/-- The outcome of a failure after some output. Halves of surrogate pairs are spelled
out among the errors. -/
def failureOutcome (output : String) (failure : Failure) : Outcome :=
  if failure.isReported then
    match report failure with
    | .ok errors => { code := 1, output, errors := Text.withoutHalves errors }
    | .error error => brokenOff output (.markup error)
  else brokenOff output (.failure failure)

/-- What is said about halves of surrogate pairs in a line. -/
def encodingHint : String :=
  "\n*** You may need to add PYTHONIOENCODING=utf-8 to your environment ***"

/-- The line that tells of a job that is done. -/
def announcement (path source : String) : Except Breakdown String := do
  let told ← (line ("[green]Generated[/green] " ++ path ++ " [dim]from " ++ source ++
    "[/dim]")).mapError .markup
  (Text.plain? told).mapError fun halves => .failure (.impossible (halves.message ++ encodingHint))

variable {m : Type → Type} [Monad m] [Host m]

/-- Do jobs in order, given what was printed before. -/
def runJobs (silent : Bool) (printed : String) : List Job → m Outcome
  | [] => return { code := 0, output := printed }
  | job :: rest => do
      match ← job.run with
      | .error failure => return failureOutcome printed failure
      | .ok path =>
          if silent then runJobs silent printed rest
          else
            match announcement path job.source with
            | .ok told => runJobs silent (printed ++ told) rest
            | .error breakdown => return brokenOff printed breakdown

/-- Print the text of a document, without escape sequences of terminals. -/
def printText (source : String) (options : Options) : m Outcome := do
  let job : Job := { source := source, options := options }
  match ← job.text with
  | .ok text =>
      match Text.plain? (String.ofList (withoutSequences text.toList)) with
      | .ok output => return { code := 0, output }
      | .error halves => return brokenOff "" (.failure (.impossible halves.message))
  | .error failure => return failureOutcome "" failure

/-- Run a request: one document, or those of the configuration. -/
def runRequest (environment : Environment) (request : Request) : m Outcome := do
  match request.source, request.output with
  | some source, none => printText source request.options
  | some source, some output => runJobs request.silent "" [⟨source, output, request.options⟩]
  | none, _ =>
      match ← findConfiguration environment request.configuration with
      | .error failure => return failureOutcome "" failure
      | .ok configuration => runJobs request.silent "" configuration.documents

/-- Run the program. -/
def run (environment : Environment) (arguments : List String) : m Outcome :=
  match Command.ofArguments arguments with
  | none => return { code := 2, errors := usageText }
  | some .help => return { code := 0, output := usageText }
  | some .version => return { code := 0, output := versionText }
  | some (.generate request) => runRequest environment request

end CommandLine
end ApiTypings
