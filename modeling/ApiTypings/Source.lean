import ApiTypings.Compile
import ApiTypings.Json.Reader
import ApiTypings.Storage.Host
import ApiTypings.Text.Utf8
import ApiTypings.Yaml.Reader

/-!
# Sources

Documents in files and on servers, in JSON or YAML. What cannot be read or is no
API description is a failure that names the source.
-/

namespace ApiTypings

open Storage

/-- A text with line feeds for all line breaks. -/
def plainLines : List Char → List Char
  | [] => []
  | '\r' :: '\n' :: rest => '\n' :: plainLines rest
  | '\r' :: rest => '\n' :: plainLines rest
  | c :: rest => c :: plainLines rest

/-- The notations of documents. -/
inductive Format
  | json
  | yaml
  deriving DecidableEq, Repr

/-- The suffixes of YAML files. -/
def yamlSuffixes : List String := [".yaml", ".yml"]

/-- Why a text cannot be read. -/
inductive SyntaxError
  | json (message : String)
  | yaml
  | impossible (reason : String)
  deriving DecidableEq, Repr

/-- The wording of an error. -/
def SyntaxError.message : SyntaxError → String
  | .json message => message
  | .yaml => "malformed YAML document"
  | .impossible reason => reason

/-- The value of a text. -/
def Format.read (format : Format) (text : List Char) : Except SyntaxError Value :=
  match format with
  | .json => (Json.read text).mapError fun fault =>
      match fault.problem with
      | .longInteger _ => .impossible fault.problem.message
      | _ => .json (fault.describe text)
  | .yaml => (Yaml.read text).mapError fun
      | .malformed => .yaml
      | .impossible reason => .impossible reason

variable {m : Type → Type} [Monad m] [Host m]

/-- Why a file cannot be read as text. -/
inductive ReadError
  | system (error : SystemError)
  | bytes (error : Text.DecodeError)
  deriving DecidableEq, Repr

/-- The wording of an error. -/
def ReadError.message : ReadError → String
  | .system error => error.message
  | .bytes error => error.message

/-- The text of a file. -/
def readText (path : Path) : m (Except ReadError (List Char)) := do
  match ← Host.readFile path with
  | .error error => return .error (.system error)
  | .ok bytes =>
      match Text.decode bytes with
      | .error error => return .error (.bytes error)
      | .ok text => return .ok (plainLines (Text.marked text))

/-- The value in a file. Relative sources start from the base. -/
def loadFile (base : Path) (source : String) : m (Except Failure Value) := do
  let path := base.join (.ofText source)
  match ← Host.kindAt path with
  | .error error => return .error (.load source error.message)
  | .ok none => return .error (.load source ("File not found: " ++ path.text))
  | .ok (some _) =>
      match ← readText path with
      | .error error => return .error (.load source error.message)
      | .ok text =>
          let format : Format := if path.hasSuffix yamlSuffixes then .yaml else .json
          return (format.read text).mapError fun error => .load source error.message

/-- The value in the answer of a server; an error is told as its wording. -/
def readReply (source : String) (address : Web.Address) (reply : Web.Reply) :
    Except String Value :=
  match reply.problem? address with
  | some problem => .error problem
  | none => do
      let declared := Text.hasPart "yaml".toList (reply.contentType.getD "").toList
      let named := yamlSuffixes.any fun suffix => Text.endsWith suffix.toList source.toList
      let format : Format := if declared || named then .yaml else .json
      (format.read (Text.marked (← reply.text))).mapError SyntaxError.message

/-- The address that a source spells; an error is told as its wording. -/
def addressOf (source : String) : Except String Web.Address := do
  let plain ← (Text.plain? source).mapError Text.EncodeError.message
  (Web.Address.ofText plain).mapError Web.AddressError.message

/-- The value on a server. -/
def loadAddress (source : String) : m (Except Failure Value) := do
  match addressOf source with
  | .error report => return .error (.load source report)
  | .ok address =>
      match ← Host.fetch address with
      | .error report => return .error (.load source report)
      | .ok reply => return (readReply source address reply).mapError (.load source)

/-- The folder that relative sources start from: the given one, or else the
working folder, which may be missing. -/
def baseFolder (base : Option String) : m (Except Failure Path) :=
  match nonEmpty base with
  | some text => return .ok (.ofText text)
  | none => do
      match ← Host.workingFolder with
      | some folder => return .ok folder
      | none => return .error (.system ⟨.missing, none⟩)

/-- The document of a source, in normal form, given the folder that relative sources
start from. -/
def loadFrom (folder : Path) (source : String) : m (Except Failure Value) := do
  let loaded ←
    if Web.isWebAddress source.toList then loadAddress source else loadFile folder source
  return loaded.bind (validateDocument source)

/-- The document of a source, in normal form. The folder is asked for even if the source
is not looked for in it. -/
def loadDocument (base : Option String) (source : String) : m (Except Failure Value) := do
  match ← baseFolder base with
  | .ok folder => loadFrom folder source
  | .error failure => return .error failure

end ApiTypings
