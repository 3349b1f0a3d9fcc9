import ApiTypings.CommandLine.Cells
import ApiTypings.CommandLine.Emoji
import ApiTypings.CommandLine.Style

/-!
# Markup

Messages may hold tags in brackets, which style what stands between them and are
not shown. A closing tag must close a tag that is open; a backslash before a
bracket shows the bracket.
-/

namespace ApiTypings
namespace CommandLine

/-- Whether the text of a tag may start with a character. -/
def startsTag (c : Char) : Bool :=
  ('a' ≤ c && c ≤ 'z') || c == '#' || c == '/' || c == '@'

/-- The text of the tag after an opening bracket, and what follows the closing
one. -/
def tag? (text : List Char) : Option (List Char × List Char) :=
  let content := text.takeWhile fun c => c != '[' && c != ']'
  match text.drop content.length with
  | ']' :: rest => if content.head?.any startsTag then some (content, rest) else none
  | _ => none

/-- A tag takes at least one character. -/
theorem length_lt_of_tag?
    {text content rest : List Char}
    (found : tag? text = some (content, rest)) :
    rest.length < text.length := by
  simp only [tag?] at found
  split at found
  · rename_i tail same
    split at found
    · simp only [Option.some.injEq, Prod.mk.injEq] at found
      have total := congrArg List.length same
      simp only [List.length_drop, List.length_cons, found.2] at total
      omega
    · simp at found
  · simp at found

/-- A part of a message. -/
inductive Piece
  | plain (text : List Char)
  | tag (position : Nat) (content : List Char)
  deriving DecidableEq, Repr

/-- The piece with a text, unless that is empty. -/
def plainPiece (text : List Char) : List Piece :=
  if text.isEmpty then [] else [.plain text]

/-- The pieces of a message from a position on; `pending` is the reversed text
since the last piece. Of the backslashes before a tag one half is shown, and the
tag itself if their number is odd. -/
def piecesFrom (position : Nat) (pending text : List Char) : List Piece :=
  match text with
  | [] => plainPiece pending.reverse
  | '[' :: inner =>
      match found : tag? inner with
      | some (content, after) =>
          have _shorter := length_lt_of_tag? found
          let slashes := (pending.takeWhile (· == '\\')).length
          let tag :=
            if slashes % 2 = 1 then .plain ('[' :: content ++ [']']) else .tag position content
          plainPiece (pending.drop slashes).reverse ++
            plainPiece (List.replicate (slashes / 2) '\\') ++
            tag :: piecesFrom (position + content.length + 2) [] after
      | none => piecesFrom (position + 1) ('[' :: pending) inner
  | c :: rest => piecesFrom (position + 1) (c :: pending) rest
termination_by text.length

/-- Why a message cannot be shown. -/
inductive MarkupError
  /-- A tag closes a style that is not open. -/
  | unmatched (content : List Char) (position : Nat)
  /-- A tag closes the last style, but none is open. -/
  | nothingOpen (position : Nat)
  /-- A tag names a colour with a number missing. -/
  | missingNumber
  deriving DecidableEq, Repr

/-- The wording of an error. -/
def MarkupError.message : MarkupError → String
  | .unmatched content position =>
      "closing tag '[" ++ String.ofList content ++ "]' at position " ++ toString position ++
        " doesn't match any open tag"
  | .nothingOpen position =>
      "closing tag '[/]' at position " ++ toString position ++ " has nothing to close"
  | .missingNumber => "invalid literal for int() with base 10: ''"

/-- The styles that are open after a tag, the latest first. -/
def applyTag (opened : List String) (position : Nat) (content : List Char) :
    Except MarkupError (List String) :=
  match content.takeWhile (· != '=') with
  | '/' :: closing =>
      let given := Text.trim closing
      if given.isEmpty then
        match opened with
        | _ :: rest => .ok rest
        | [] => .error (.nothingOpen position)
      else
        match styleName? given with
        | none => .error .missingNumber
        | some style =>
            if opened.contains style then .ok (opened.erase style)
            else .error (.unmatched content position)
  | name =>
      match styleName? name with
      | none => .error .missingNumber
      | some style => .ok (style :: opened)

/-- A text with a bracket for each bracket after a backslash. -/
def withoutEscapes : List Char → List Char
  | '\\' :: '[' :: rest => '[' :: withoutEscapes rest
  | c :: rest => c :: withoutEscapes rest
  | [] => []

/-- What is shown of a text without tags. -/
def shownText (text : List Char) : List Char :=
  (withEmoji (withoutEscapes text)).filter fun c => !isHiddenControl c

/-- What pieces show. -/
def shownPieces (opened : List String) : List Piece → Except MarkupError (List Char)
  | [] => .ok []
  | .plain text :: rest => (shownPieces opened rest).map (shownText text ++ ·)
  | .tag position content :: rest => do
      shownPieces (← applyTag opened position content) rest

/-- What a message shows on a terminal. -/
def shown (markup : String) : Except MarkupError String :=
  (shownPieces [] (piecesFrom 0 [] markup.toList)).map fun text =>
    String.ofList (withoutTabs 0 text)

/-- Put a backslash before each tag of a text and double those before it, `slashes`
being the number of backslashes before the text. -/
def escapedFrom (slashes : Nat) (text : List Char) : List Char :=
  match text with
  | [] => List.replicate slashes '\\'
  | '\\' :: rest => escapedFrom (slashes + 1) rest
  | '[' :: inner =>
      match found : tag? inner with
      | some (content, after) =>
          have _shorter := length_lt_of_tag? found
          List.replicate (2 * slashes + 1) '\\' ++
            '[' :: content ++ ']' :: escapedFrom 0 after
      | none => List.replicate slashes '\\' ++ '[' :: escapedFrom 0 inner
  | c :: rest => List.replicate slashes '\\' ++ c :: escapedFrom 0 rest
termination_by text.length

/-- Markup for a text without tags of its own. A single backslash at the end is
doubled. -/
def escaped (text : String) : String :=
  let chars := escapedFrom 0 text.toList
  let ending := chars.reverse.take 2
  String.ofList
    (if ending.head? == some '\\' && ending != ['\\', '\\'] then chars ++ ['\\'] else chars)

end CommandLine
end ApiTypings
