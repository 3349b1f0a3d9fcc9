import ApiTypings.Text.Blank
import ApiTypings.Text.Percent
import ApiTypings.Web.Letter
import ApiTypings.Web.Punycode

/-!
# Host names

Names of hosts in all scripts and their forms in ASCII. A name consists of labels;
a label that is not in ASCII is written in Punycode after `xn--`.
-/

namespace ApiTypings
namespace Web

open Text (inRanges)

/-- Whether the letters around a place would join if nothing stood between them;
`before` is the reversed text before it. -/
def wouldJoin (before after : List Char) : Bool :=
  ((before.dropWhile isMark).head?.any joinsBoth) &&
    ((after.dropWhile isMark).head?.any fun c => joinsBefore c || joinsBoth c)

/-- Whether a character that is not allowed everywhere is allowed at its place:
joiners after a virama or between letters that join, a middle dot between two `l`,
a Greek sign before a Greek letter, a Hebrew one after a Hebrew letter, the dot
between kana with a kana or Han character, and digits without digits of the
other Arabic kind. -/
def isAllowedAt (label before : List Char) (c : Char) (after : List Char) : Bool :=
  let code := c.toNat
  if code = 0x200C then before.head?.any isVirama || wouldJoin before after
  else if code = 0x200D then before.head?.any isVirama
  else if code = 0xB7 then before.head? == some 'l' && after.head? == some 'l'
  else if code = 0x375 then after.head?.any isGreek
  else if code = 0x5F3 ∨ code = 0x5F4 then before.head?.any isHebrew
  else if code = 0x30FB then label.any isKanaOrHan
  else if 0x660 ≤ code ∧ code ≤ 0x669 then
    !label.any fun other => inRanges [(0x6F0, 0x6F9)] other.toNat
  else if 0x6F0 ≤ code ∧ code ≤ 0x6F9 then
    !label.any fun other => inRanges [(0x660, 0x669)] other.toNat
  else false

/-- Whether every character is allowed at its place; `before` is the reversed text
before them. -/
def areAllowed (label before : List Char) : List Char → Bool
  | [] => true
  | c :: rest =>
      (isLetter c || isAllowedAt label before c rest) && areAllowed label (c :: before) rest

/-- Whether marks stand in the order of their classes and none of them forms
another letter with the letter it belongs to. `letter` is the last letter, and
`last` the class of the mark before, or zero after a letter. A mark is kept from
its letter by another one of its class. -/
def isNormal (letter : Option Char) (last : Nat) : List Char → Bool
  | [] => true
  | c :: rest =>
      let joined := letter.any fun other => formLetter other c
      match Text.markClass c with
      | 0 => !(last = 0 && joined) && isNormal (some c) 0 rest
      | order => last ≤ order && !(last < order && joined) && isNormal letter order rest

/-- Whether the direction of a label is clear. If any of it is written from right
to left, it starts with such a letter and holds none of the other direction, it
ends with a letter or a digit, and its digits are of one kind. -/
def isDirected (label : List Char) : Bool :=
  let body := label.filter fun c => !isNonspacing c
  let turns := body.any fun c => isRightToLeft c || isArabicDigit c
  let isNumber (c : Char) := isArabicDigit c || isPlainDigit c
  !turns ||
    (label.head?.any isRightToLeft &&
      body.all (fun c => isRightToLeft c || isNumber c || isNeutral c) &&
      body.getLast?.any (fun c => isRightToLeft c || isNumber c) &&
      !(body.any isArabicDigit && body.any isPlainDigit))

/-- Whether hyphens stand where they are allowed: not at the ends, and not at the
third and fourth place. -/
def hyphensSound (label : List Char) : Bool :=
  label.head? != some '-' && label.getLast? != some '-' && (label.drop 2).take 2 != ['-', '-']

/-- Whether a text is a label. -/
def isLabel (label : List Char) : Bool :=
  !label.isEmpty && hyphensSound label && !label.head?.any isMark && isNormal none 0 label &&
    areAllowed label [] label && isDirected label

/-- What the ASCII form of a label starts with if it is not the label itself. -/
def encodedStart : List Char := "xn--".toList

/-- The largest length of a label. -/
def labelLimit : Nat := 63

/-- The ASCII form of a label. -/
def labelForm? (label : List Char) : Option (List Char) :=
  let form :=
    if label.all Text.isAscii then
      if Text.startsWith encodedStart label then
        let encoded := label.drop encodedStart.length
        let decoded := if encoded.getLast? == some '-' then none else Punycode.decode encoded
        if decoded.any isLabel then some label else none
      else if isLabel label then some label
      else none
    else if isLabel label then some (encodedStart ++ Punycode.encode label)
    else none
  form.filter fun text => text.length ≤ labelLimit

/-- The full stops of all scripts, which end a label. -/
def isFullStop (c : Char) : Bool :=
  c == '.' || c == '。' || c == '．' || c == '｡'

/-- The largest length of a name. -/
def nameLimit : Nat := 253

/-- The ASCII form of a name in lower case. A full stop at its end is kept. -/
def nameForm? (name : List Char) : Option (List Char) := do
  let labels := Text.splitAt '.' (name.map fun c => if isFullStop c then '.' else c)
  let ended := labels.getLast? == some []
  let forms ← (if ended then labels.dropLast else labels).mapM labelForm?
  let text := ['.'].intercalate forms
  if nameLimit < text.length then none
  else return if ended then text ++ ['.'] else text

end Web
end ApiTypings
