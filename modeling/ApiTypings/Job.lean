import ApiTypings.Source

/-!
# Jobs

A job turns the document of a source into the declarations of a file. A session
of a job keeps the document that it has loaded.
-/

namespace ApiTypings

open Document Storage

/-- A document to be compiled. -/
structure Job where
  source : String
  output : String := "./api-types.ts"
  options : Options := {}
  deriving DecidableEq, Repr

/-- The job of an object in normal form. -/
def Job.ofEntries (entries : List (String × Value)) : Job :=
  { source := (textAt entries "source").getD ""
    output := (textAt entries "output").getD "./api-types.ts"
    options := .ofValue ((entries.lookup "options").getD .null) }

/-- The job of a value in normal form. -/
def Job.ofValue (value : Value) : Job :=
  Job.ofEntries (value.mapping?.getD [])

/-- The text of the module of a document in normal form. -/
def Job.render (job : Job) (document : Value) : Except Failure String :=
  (Typing.generateFrom (.ofValue document) job.options).result.mapError .ofInterruption

variable {m : Type → Type} [Monad m] [Host m]

/-- The failure to write to a path. What the system is not even asked breaks a run off. -/
def outputFailure (path : Path) (error : SystemError) : Failure :=
  if error.fault.number?.isSome then .output path.text error.message
  else .impossible error.message

/-- What is written to a file for a text. The file is emptied before the text turns out to
hold what cannot be written. -/
def fileBytes (text : String) : List UInt8 :=
  match Text.plain? text with
  | .ok plain => plain.toUTF8.toList
  | .error _ => []

/-- Write a text to a file, and tell where it went. -/
def emitFile (path : Path) (text : String) : m (Except Failure String) := do
  match ← writeInFolder path (fileBytes text) with
  | .error error => return .error (outputFailure path error)
  | .ok () =>
      match Text.plain? text with
      | .ok _ => return .ok path.text
      | .error halves => return .error (.impossible halves.message)

/-- Write a text to a remote place, and tell where it went. -/
def emitRemote (place text : String) : m (Except Failure String) := do
  match ← Host.writeRemote place text with
  | .ok told => return .ok told
  | .error (.system path cause) => return .error (.output path cause)
  | .error (.other reason) => return .error (.impossible reason)

/-- Write a text to an output, and tell where it went. -/
def emit (output text : String) : m (Except Failure String) :=
  if isRemote output.toList then emitRemote output text else emitFile (.ofText output) text

/-- Get ready to write to an output. A remote place may not be known. -/
def openOutput (output : String) : m (Except Failure Unit) :=
  if isRemote output.toList then do
    return (← Host.openRemote output).mapError .impossible
  else return .ok ()

/-- The text of a job, given the folder that relative sources start from. -/
def Job.textFrom (job : Job) (folder : Path) : m (Except Failure String) := do
  return (← loadFrom folder job.source).bind job.render

/-- The text of a job. -/
def Job.text (job : Job) : m (Except Failure String) := do
  match ← baseFolder none with
  | .ok folder => job.textFrom folder
  | .error failure => return .error failure

/-- Get ready to do a job: the folder that its source starts from, if its output can be
used. -/
def Job.prepare (job : Job) : m (Except Failure Path) := do
  match ← baseFolder none with
  | .ok folder => return (← openOutput job.output).map fun _ => folder
  | .error failure => return .error failure

/-- Do a job that was prepared. -/
def Job.runFrom (job : Job) (folder : Path) : m (Except Failure String) := do
  match ← job.textFrom folder with
  | .ok text => emit job.output text
  | .error failure => return .error failure

/-- Do a job, and tell where the text went. -/
def Job.run (job : Job) : m (Except Failure String) := do
  match ← job.prepare with
  | .ok folder => job.runFrom folder
  | .error failure => return .error failure

/-- A job with the document that was loaded for it. -/
structure Session where
  job : Job
  document : Option Value := none

namespace Session

/-- Load the document anew. A failure leaves the session as it is. -/
def load (session : Session) : m (Except Failure Value × Session) := do
  match ← loadDocument none session.job.source with
  | .ok document => return (.ok document, { session with document := some document })
  | .error failure => return (.error failure, session)

/-- The text of the job; the document is loaded if there is none. -/
def render (session : Session) : m (Except Failure String × Session) := do
  match session.document with
  | some document => return (session.job.render document, session)
  | none =>
      let (loaded, next) ← session.load
      return (loaded.bind session.job.render, next)

end Session

end ApiTypings
