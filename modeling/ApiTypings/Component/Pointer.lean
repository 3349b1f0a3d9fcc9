import ApiTypings.Text.Blank
import ApiTypings.Text.Percent

/-!
# Component pointers

A pointer names a component by its section and its name. References may spell a
pointer in several ways; `Pointer.text` is its canonical spelling, and equal
pointers are equal values.
-/

namespace ApiTypings
namespace Component

/-- The sections whose components can be referred to. -/
inductive Section
  | schemas
  | responses
  | parameters
  | requestBodies
  deriving DecidableEq, Repr

/-- All sections in order. -/
def Section.all : List Section :=
  [.schemas, .responses, .parameters, .requestBodies]

/-- The key of a section. -/
def Section.key : Section → String
  | .schemas => "schemas"
  | .responses => "responses"
  | .parameters => "parameters"
  | .requestBodies => "requestBodies"

/-- The section with a key. -/
def Section.ofKey? (key : String) : Option Section :=
  Section.all.find? fun candidate => candidate.key == key

/-- The section and the name of a component. -/
structure Pointer where
  ofSection : Section
  name : String
  deriving DecidableEq, Repr

/-- What every pointer to a component starts with. -/
def pointerStart : String := "#/components/"

/-- A name as a segment of a pointer: `~` and `/` are escaped. -/
def encodeSegment : List Char → List Char
  | [] => []
  | '~' :: rest => '~' :: '0' :: encodeSegment rest
  | '/' :: rest => '~' :: '1' :: encodeSegment rest
  | c :: rest => c :: encodeSegment rest

/-- A segment holds no slash. -/
theorem not_mem_encodeSegment (name : List Char) : '/' ∉ encodeSegment name := by
  fun_induction encodeSegment name with
  | case1 => simp
  | case2 rest hypothesis => simp [hypothesis]
  | case3 rest hypothesis => simp [hypothesis]
  | case4 c rest noTilde noSlash hypothesis =>
      simp only [List.mem_cons, not_or]
      exact ⟨Ne.symm noSlash, hypothesis⟩

theorem encodeSegment_ne_nil {name : List Char} (filled : name ≠ []) : encodeSegment name ≠ [] := by
  fun_cases encodeSegment name with
  | case1 => contradiction
  | _ => simp

/-- Replace every occurrence of `~` with the given digit by a character. -/
def unescapeTilde (digit char : Char) : List Char → List Char
  | '~' :: d :: rest =>
      if d = digit then char :: unescapeTilde digit char rest
      else '~' :: unescapeTilde digit char (d :: rest)
  | c :: rest => c :: unescapeTilde digit char rest
  | [] => []

theorem unescapeTilde_ne_nil (digit char : Char) {text : List Char} (filled : text ≠ []) :
    unescapeTilde digit char text ≠ [] := by
  fun_cases unescapeTilde digit char text with
  | case4 => contradiction
  | _ => simp

/-- The name of a segment: percent escapes are decoded first, then `~1`, then
`~0`. -/
def decodeSegment (segment : List Char) : List Char :=
  unescapeTilde '0' '~' (unescapeTilde '1' '/' (Text.percentDecode segment))

/-- The pointer text of a name in a section. -/
def pointerText (sectionKey name : String) : String :=
  pointerStart ++ sectionKey ++ "/" ++ String.ofList (encodeSegment name.toList)

/-- The canonical spelling of a pointer. -/
def Pointer.text (pointer : Pointer) : String :=
  pointerText pointer.ofSection.key pointer.name

/-- The pointer that the canonical spelling of a pointer spells: escapes that are
left in its name are decoded as well. -/
def Pointer.decoded (pointer : Pointer) : Pointer :=
  { pointer with
    name := String.ofList (decodeSegment (encodeSegment pointer.name.toList)) }

/-- Why a text is no pointer to a component. -/
inductive PointerProblem
  | webAddress
  | otherFile
  | otherPart
  | malformed
  | unknownSection (key : String)
  deriving DecidableEq, Repr

/-- The wording of a problem. -/
def PointerProblem.message : PointerProblem → String
  | .webAddress => "External URL references are not supported"
  | .otherFile => "References to other files are not supported"
  | .otherPart => "Only #/components/... references are supported"
  | .malformed => "Expected #/components/\x7bsection\x7d/\x7bname\x7d"
  | .unknownSection key => "Unsupported component section '" ++ key ++ "'"

/-- The problem of a text that does not start like a pointer. -/
def strangerProblem (text : List Char) : PointerProblem :=
  if Text.startsWith "http://".toList text || Text.startsWith "https://".toList text then
    .webAddress
  else if !Text.startsWith ['#'] text then .otherFile
  else .otherPart

/-- The pointer that a text spells. -/
def Pointer.parse (text : String) : Except PointerProblem Pointer :=
  let chars := text.toList
  if Text.startsWith pointerStart.toList chars then
    match Text.splitAt '/' (chars.drop pointerStart.length) with
    | [key, segment] =>
        if segment.isEmpty then .error .malformed
        else
          match Section.ofKey? (String.ofList key) with
          | some found => .ok ⟨found, String.ofList (decodeSegment segment)⟩
          | none => .error (.unknownSection (String.ofList key))
    | _ => .error .malformed
  else .error (strangerProblem chars)

/-- The pointer whose canonical spelling a text is. -/
def Pointer.ofCanonical? (text : String) : Option Pointer :=
  Section.all.findSome? fun candidate =>
    let start := (pointerText candidate.key "").toList
    if Text.startsWith start text.toList then
      let segment := text.toList.drop start.length
      let name := unescapeTilde '0' '~' (unescapeTilde '1' '/' segment)
      if encodeSegment name == segment then some ⟨candidate, String.ofList name⟩ else none
    else none

end Component
end ApiTypings
