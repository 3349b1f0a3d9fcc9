import ApiTypings.CommandLine.EmojiTable
import ApiTypings.Text.Blank
import ApiTypings.Text.Lower

/-!
# Emoji

Names between colons stand for emoji. A name may end with a tone of skin, and a
code with the form in which its emoji is shown. Codes that are not known stay as
they are.
-/

namespace ApiTypings
namespace CommandLine

/-- The emoji with a name in a table. -/
def emojiIn? (table : List (String × String)) (name : List Char) : Option (List Char) :=
  (table.find? fun entry => (Text.splitAt ' ' entry.2.toList).contains name).map fun entry =>
    entry.1.toList

/-- The tones of skin, by the end of the names that have them. -/
def tones : List (String × Char) := [
  ("_light_skin_tone", '🏻'), ("_medium-light_skin_tone", '🏼'), ("_medium_skin_tone", '🏽'),
  ("_medium-dark_skin_tone", '🏾'), ("_dark_skin_tone", '🏿')]

/-- An emoji in a tone, which stands after its first character and replaces the
sign for a coloured form. -/
def tinted (tone : Char) : List Char → List Char
  | [] => []
  | first :: '\ufe0f' :: rest => first :: tone :: rest
  | first :: rest => first :: tone :: rest

/-- The emoji with a name that ends with a tone. -/
def tintedEmoji? (name : List Char) : Option (List Char) :=
  tones.findSome? fun (ending, tone) =>
    if Text.endsWith ending.toList name then
      (emojiIn? tintableEmoji (name.take (name.length - ending.length))).map (tinted tone)
    else none

/-- The emoji with a name. -/
def emoji? (name : List Char) : Option (List Char) :=
  (emojiIn? tintableEmoji name).or ((emojiIn? plainEmoji name).or (tintedEmoji? name))

/-- The forms of emoji, by the end of the codes that ask for them. -/
def forms : List (String × Char) := [("-emoji", '\ufe0f'), ("-text", '\ufe0e')]

/-- The name in a code, and the sign of the form that it asks for. -/
def splitForm (code : List Char) : List Char × List Char :=
  (forms.findSome? fun (ending, sign) =>
    if Text.endsWith ending.toList code then
      some (code.take (code.length - ending.length), [sign])
    else none).getD (code, [])

/-- What is shown for a code. -/
def codeText (code : List Char) : List Char :=
  let (name, sign) := splitForm code
  match emoji? (Text.lowerCase name) with
  | some emoji => emoji ++ sign
  | none => ':' :: code ++ [':']

/-- The text of parts that colons separate, with a colon before the first one. A
part without blanks that a colon follows is a code. -/
def joinCodes : List (List Char) → List Char
  | [] => []
  | [last] => ':' :: last
  | code :: next :: rest =>
      if code.any Text.isBlank then ':' :: code ++ joinCodes (next :: rest)
      else codeText code ++ next ++ joinCodes rest

/-- A text with emoji for their codes. -/
def withEmoji (text : List Char) : List Char :=
  match Text.splitAt ':' text with
  | [] => []
  | first :: rest => first ++ joinCodes rest

end CommandLine
end ApiTypings
