import ApiTypings.Component.Catalog
import ApiTypings.Json.Writer
import ApiTypings.TypeScript.Declaration

/-!
# Traced computations

A computation that reports events as it goes and may be interrupted. What was
reported before that is kept.
-/

namespace ApiTypings
namespace Typing

open Component TypeScript

/-- What is reported on the way. -/
inductive Event
  | indexed (components declarations : Nat)
  | withoutOperations (path : String)
  | skippedParameter (name location : String)
  | approximatedNegation (location : Option String)
  | emitted (kind : DeclarationKind) (name : String)
  | generated (declarations : Nat) (paths : Bool)
  deriving DecidableEq, Repr

/-- The wording of an event. -/
def Event.message : Event → String
  | .indexed components declarations =>
      "Indexed " ++ toString components ++ " component(s), " ++ toString declarations ++
        " schema declaration(s)"
  | .withoutOperations path => "Path " ++ path ++ " defines no operations"
  | .skippedParameter name location =>
      "Skipping parameter " ++ name ++ " in unknown location " ++ location
  | .approximatedNegation location =>
      "Approximating \"not\" schema in " ++ location.getD "None" ++ " as unknown"
  | .emitted kind name => "Emitted " ++ kind.word ++ " " ++ name
  | .generated declarations paths =>
      "Generated " ++ toString declarations ++ " declaration(s)" ++
        if paths then " and the paths declaration" else ""

/-- Why a type cannot be given. -/
inductive Interruption
  | reference (error : ReferenceError)
  | unwritable (error : Json.WriteError)
  /-- No list has as many items. -/
  | overlong (length : Int)
  deriving DecidableEq, Repr

/-- The events of a computation, and its result. -/
structure Traced (α : Type) where
  events : List Event := []
  result : Except Interruption α

namespace Traced

variable {α β : Type}

/-- A computation that has its result and reports nothing. -/
def done (value : α) : Traced α := ⟨[], .ok value⟩

/-- A computation that fails at a reference. -/
def fail (error : ReferenceError) : Traced α := ⟨[], .error (.reference error)⟩

/-- Report an event. -/
def report (event : Event) : Traced Unit := ⟨[event], .ok ()⟩

/-- What a reference leads to, as a computation that reports nothing. -/
def ofReferred (result : Except ReferenceError α) : Traced α :=
  ⟨[], result.mapError .reference⟩

/-- What is written, as a computation that reports nothing. -/
def ofWritten (result : Except Json.WriteError α) : Traced α :=
  ⟨[], result.mapError .unwritable⟩

/-- One computation after the other. -/
def andThen (first : Traced α) (second : α → Traced β) : Traced β :=
  match first.result with
  | .error error => ⟨first.events, .error error⟩
  | .ok value => ⟨first.events ++ (second value).events, (second value).result⟩

instance : Monad Traced where
  pure := done
  bind := andThen

/-- Run computations in order. -/
def sequence : List (Traced α) → Traced (List α)
  | [] => done []
  | first :: rest =>
      first.andThen fun value => (sequence rest).andThen fun values => done (value :: values)

end Traced

end Typing
end ApiTypings
