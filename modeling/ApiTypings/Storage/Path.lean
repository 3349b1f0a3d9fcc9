import ApiTypings.Text.Blank
import ApiTypings.Text.Half

/-!
# Paths

Paths of files in normal form: a root and parts, without empty parts and parts
that are a single point. A text that starts with a protocol is no path; it names a
place on another system.
-/

namespace ApiTypings
namespace Storage

/-- A path. Its root is empty if it is relative. -/
structure Path where
  root : String
  parts : List String
  deriving DecidableEq, Repr

namespace Path

/-- The root of a text: two slashes are kept apart from one or more than two. -/
def rootOf : List Char → String
  | '/' :: '/' :: '/' :: _ => "/"
  | '/' :: '/' :: _ => "//"
  | '/' :: _ => "/"
  | _ => ""

/-- The path that a text denotes. -/
def ofText (text : String) : Path :=
  let parts := (Text.splitAt '/' text.toList).map String.ofList
  ⟨rootOf text.toList, parts.filter fun part => part != "" && part != "."⟩

/-- The text of a path. -/
def text (path : Path) : String :=
  if path.root == "" && path.parts.isEmpty then "."
  else path.root ++ "/".intercalate path.parts

/-- Whether a null character stands in a path. No system takes such a path. -/
def hasNull (path : Path) : Bool :=
  path.parts.any fun part => part.toList.contains '\x00'

/-- Whether half of a surrogate pair stands for a byte that is part of no character. -/
def isStrayByte (code : Nat) : Bool :=
  0xDC80 ≤ code && code ≤ 0xDCFF

/-- Whether a half that stands for no byte stands in a path. No system takes such a
path. -/
def hasHalf (path : Path) : Bool :=
  path.parts.any fun part =>
    (Text.codes part.toList).any fun code => Text.isHalf code && !isStrayByte code

/-- The report of the halves in a path. -/
def halfReport (path : Path) : String :=
  ((Text.firstHalves? isStrayByte 0 (Text.codes path.text.toList)).map
    Text.EncodeError.message).getD ""

/-- The number of bytes of a text as a system takes it. -/
def byteSize (text : String) : Nat :=
  (Text.codes text.toList).foldr
    (fun code size => (if Text.isHalf code then 1 else (Char.ofNat code).utf8Size) + size) 0

/-- The largest number of bytes of a name. -/
def nameLimit : Nat := 255

/-- The number of bytes that a path must not reach. -/
def lengthLimit : Nat := 4096

/-- Whether a path starts at the root. -/
def isAbsolute (path : Path) : Bool :=
  path.root != ""

/-- A path as seen from another one. -/
def join (base path : Path) : Path :=
  if path.isAbsolute then path else ⟨base.root, base.parts ++ path.parts⟩

/-- The folder of a path. -/
def parent (path : Path) : Path :=
  ⟨path.root, path.parts.dropLast⟩

/-- The last part from its last point on, unless that is its first or its last
character. -/
def suffix (path : Path) : String :=
  let name := (path.parts.getLast?.getD "").toList
  let ending := (name.reverse.takeWhile (· != '.')).reverse
  if name.contains '.' && !ending.isEmpty && ending.length + 1 < name.length then
    String.ofList ('.' :: ending)
  else ""

/-- Whether a path has one of the given suffixes, in any case. -/
def hasSuffix (suffixes : List String) (path : Path) : Bool :=
  suffixes.contains (String.ofList (Text.lowerAscii path.suffix.toList))

end Path

/-- Whether a character may stand in the name of a protocol behind its first one. -/
def isProtocolChar (c : Char) : Bool :=
  c.isAlphanum || c == '+'

/-- Whether a text names a place on another system: it starts with a protocol of two or
more characters, a colon and a slash, or it is data of its own. -/
def isRemote (text : List Char) : Bool :=
  let name := text.takeWhile isProtocolChar
  match text.drop name.length with
  | ':' :: '/' :: _ => 2 ≤ name.length && name.head?.any Char.isAlpha
  | ':' :: rest => name == "data".toList && rest.contains ','
  | _ => false

end Storage
end ApiTypings
