import ApiTypings.CommandLine.Run

/-!
# The program

The system that the program runs on, and its entry point.
-/

namespace ApiTypings

open Storage

/-- The fault of an error of the system. -/
def faultOf : IO.Error → Fault
  | .alreadyExists .. => .alreadyThere
  | .inappropriateType .. => .notFolder
  | .invalidArgument .. => .nameTooLong
  | .permissionDenied _ number wording => .refused ⟨number.toNat, wording⟩
  | .hardwareFault number wording => .refused ⟨number.toNat, wording⟩
  | _ => .missing

/-- Do an operation at a path, and tell how it fails. -/
def attempt {α : Type} (path : Path) (operation : IO α) : IO (Except SystemError α) := do
  if path.hasHalf then return .error ⟨.halfCharacter, path⟩
  if path.hasNull then return .error ⟨.nullCharacter, path⟩
  try
    return .ok (← operation)
  catch error =>
    return .error ⟨faultOf error, path⟩

instance : Host IO where
  workingFolder := do
    try
      return some (.ofText (← IO.currentDir).toString)
    catch _ =>
      return none
  kindAt path := do
    let place := (← IO.currentDir) / path.text
    match ← attempt path place.metadata with
    | .ok data => return .ok (some (if data.type == .dir then .folder else .file))
    | .error error => return if error.fault.isAbsence then .ok none else .error error
  readFile path := do
    let place := (← IO.currentDir) / path.text
    if ← place.isDir then return .error ⟨.isFolder, path⟩
    else attempt path (return (← IO.FS.readBinFile place).toList)
  writeFile path bytes := do
    let place := (← IO.currentDir) / path.text
    if ← place.isDir then return .error ⟨.isFolder, path⟩
    else attempt path (IO.FS.writeBinFile place ⟨bytes.toArray⟩)
  createFolder path := do
    attempt path (IO.FS.createDir ((← IO.currentDir) / path.text))
  fetch _ := return .error "Network is unreachable"
  openRemote _ := return .error "Unsupported filesystem"
  writeRemote _ _ := return .error (.other "Unsupported filesystem")

/-- The names of the variables of the program. -/
def variableNames : List String := ["OPEN_API_DOCUMENTS", "OPEN_API_VERBOSE"]

/-- The variables of the program that are set. -/
def currentEnvironment : IO Environment :=
  variableNames.filterMapM fun name => do return (← IO.getEnv name).map fun value => (name, value)

end ApiTypings

/-- Run the program on its arguments. -/
def main (arguments : List String) : IO UInt32 := do
  let outcome ← ApiTypings.CommandLine.run (← ApiTypings.currentEnvironment) arguments
  IO.print outcome.output
  IO.eprint outcome.errors
  if let some breakdown := outcome.breakdown then
    IO.eprintln breakdown.message
  return outcome.code.toUInt32
