import ApiTypings.Text.Blank
import ApiTypings.Text.Digit
import ApiTypings.Text.Hex
import ApiTypings.Text.Lower
import ApiTypings.Value

/-!
# Styles

Tags of messages name styles: effects, a colour, a background and a link. A
style has many names, of which one is the normal one, so that `b` and `bold` name
the same style.
-/

namespace ApiTypings
namespace CommandLine

/-- The effects of styles in their order, each with all its names. -/
def effects : List (String × List String) := [
  ("bold", ["bold", "b"]), ("dim", ["dim", "d"]), ("italic", ["italic", "i"]),
  ("underline", ["underline", "u"]), ("blink", ["blink"]), ("blink2", ["blink2"]),
  ("reverse", ["reverse", "r"]), ("conceal", ["conceal", "c"]), ("strike", ["strike", "s"]),
  ("underline2", ["underline2", "uu"]), ("frame", ["frame"]), ("encircle", ["encircle"]),
  ("overline", ["overline", "o"])]

/-- The effect with a name. -/
def effect? (name : String) : Option String :=
  (effects.find? fun entry => entry.2.contains name).map Prod.fst

/-- The names of colours. -/
def colorNames : List String := [
  "default",
  "black", "red", "green", "yellow", "blue", "magenta", "cyan", "white", "bright_black",
  "bright_red", "bright_green", "bright_yellow", "bright_blue", "bright_magenta", "bright_cyan",
  "bright_white", "grey0", "gray0", "navy_blue", "dark_blue", "blue3", "blue1", "dark_green",
  "deep_sky_blue4", "dodger_blue3", "dodger_blue2", "green4", "spring_green4", "turquoise4",
  "deep_sky_blue3", "dodger_blue1", "green3", "spring_green3", "dark_cyan", "light_sea_green",
  "deep_sky_blue2", "deep_sky_blue1", "spring_green2", "cyan3", "dark_turquoise", "turquoise2",
  "green1", "spring_green1", "medium_spring_green", "cyan2", "cyan1", "dark_red", "deep_pink4",
  "purple4", "purple3", "blue_violet", "orange4", "grey37", "gray37", "medium_purple4",
  "slate_blue3", "royal_blue1", "chartreuse4", "dark_sea_green4", "pale_turquoise4",
  "steel_blue", "steel_blue3", "cornflower_blue", "chartreuse3", "cadet_blue", "sky_blue3",
  "steel_blue1", "pale_green3", "sea_green3", "aquamarine3", "medium_turquoise", "chartreuse2",
  "sea_green2", "sea_green1", "aquamarine1", "dark_slate_gray2", "dark_magenta", "dark_violet",
  "purple", "light_pink4", "plum4", "medium_purple3", "slate_blue1", "yellow4", "wheat4",
  "grey53", "gray53", "light_slate_grey", "light_slate_gray", "medium_purple",
  "light_slate_blue", "dark_olive_green3", "dark_sea_green", "light_sky_blue3", "sky_blue2",
  "dark_sea_green3", "dark_slate_gray3", "sky_blue1", "chartreuse1", "light_green",
  "pale_green1", "dark_slate_gray1", "red3", "medium_violet_red", "magenta3", "dark_orange3",
  "indian_red", "hot_pink3", "medium_orchid3", "medium_orchid", "medium_purple2",
  "dark_goldenrod", "light_salmon3", "rosy_brown", "grey63", "gray63", "medium_purple1",
  "gold3", "dark_khaki", "navajo_white3", "grey69", "gray69", "light_steel_blue3",
  "light_steel_blue", "yellow3", "dark_sea_green2", "light_cyan3", "light_sky_blue1",
  "green_yellow", "dark_olive_green2", "dark_sea_green1", "pale_turquoise1", "deep_pink3",
  "magenta2", "hot_pink2", "orchid", "medium_orchid1", "orange3", "light_pink3", "pink3",
  "plum3", "violet", "light_goldenrod3", "tan", "misty_rose3", "thistle3", "plum2", "khaki3",
  "light_goldenrod2", "light_yellow3", "grey84", "gray84", "light_steel_blue1", "yellow2",
  "dark_olive_green1", "honeydew2", "light_cyan1", "red1", "deep_pink2", "deep_pink1",
  "magenta1", "orange_red1", "indian_red1", "hot_pink", "dark_orange", "salmon1", "light_coral",
  "pale_violet_red1", "orchid2", "orchid1", "orange1", "sandy_brown", "light_salmon1",
  "light_pink1", "pink1", "plum1", "gold1", "navajo_white1", "misty_rose1", "thistle1",
  "yellow1", "light_goldenrod1", "khaki1", "wheat1", "cornsilk1", "grey100", "gray100", "grey3",
  "gray3", "grey7", "gray7", "grey11", "gray11", "grey15", "gray15", "grey19", "gray19",
  "grey23", "gray23", "grey27", "gray27", "grey30", "gray30", "grey35", "gray35", "grey39",
  "gray39", "grey42", "gray42", "grey46", "gray46", "grey50", "gray50", "grey54", "gray54",
  "grey58", "gray58", "grey62", "gray62", "grey66", "gray66", "grey70", "gray70", "grey74",
  "gray74", "grey78", "gray78", "grey82", "gray82", "grey85", "gray85", "grey89", "gray89",
  "grey93", "gray93"]

/-- What stands between parentheses after a word. -/
def argument? (word text : List Char) : Option (List Char) :=
  let start := word ++ ['(']
  if start.isPrefixOf text && text.getLast? == some ')' then
    some (text.drop start.length).dropLast
  else none

/-- Whether a text is a number from 0 to 255, in the digits of any script. -/
def isChannel (text : List Char) : Bool :=
  match text.mapM Text.decimalValue? with
  | some digits =>
      !digits.isEmpty && digits.foldl (fun number digit => 10 * number + digit) 0 ≤ 255
  | none => false

/-- Why words name no style. -/
inductive StyleError
  | unknown
  /-- A number of a colour is missing. -/
  | missingNumber
  deriving DecidableEq, Repr

/-- The three channels of a colour in a text: digits and commas. -/
def channels (text : List Char) : Except StyleError Unit :=
  let parts := Text.splitAt ',' text
  if parts.length != 3 || !parts.flatten.all fun c => (Text.decimalValue? c).isSome then
    .error .unknown
  else if parts.any List.isEmpty then .error .missingNumber
  else if parts.all isChannel then .ok ()
  else .error .unknown

/-- Check that a word in lower case is a colour: a name, six hexadecimal digits
after `#`, a number of the palette, or three channels. -/
def color (word : List Char) : Except StyleError (List Char) :=
  let isPlain :=
    colorNames.contains (String.ofList word) ||
      (word.head? == some '#' && word.length == 7 && (word.drop 1).all Text.isHexDigit) ||
      ((argument? "color".toList word).any fun text =>
        text.length ≤ 3 && text.all Char.isDigit && isChannel text)
  if isPlain then .ok word
  else
    match argument? "rgb".toList word with
    | some text => (channels text).map fun _ => word
    | none => .error .unknown

/-- A style. -/
structure Style where
  effects : List (String × Bool) := []
  color : Option (List Char) := none
  background : Option (List Char) := none
  link : Option (List Char) := none

namespace Style

/-- Turn an effect on or off. -/
def set (style : Style) (effect : String) (value : Bool) : Style :=
  { style with effects := Entries.put style.effects effect value }

/-- The style of words. -/
def ofWords (style : Style) : List (List Char) → Except StyleError Style
  | [] => .ok style
  | [given] => withWord style given
  | given :: next :: rest =>
      match String.ofList (Text.lowerCase given) with
      | "on" => do
          let ground ← CommandLine.color (Text.lowerCase next)
          ofWords { style with background := some ground } rest
      | "not" =>
          match effect? (String.ofList next) with
          | some effect => ofWords (style.set effect false) rest
          | none => .error .unknown
      | "link" => ofWords { style with link := some next } rest
      | _ => do ofWords (← withWord style given) (next :: rest)
where
  /-- The style with one more word that needs no other. -/
  withWord (style : Style) (given : List Char) : Except StyleError Style :=
    let word := Text.lowerCase given
    match effect? (String.ofList word) with
    | some effect => .ok (style.set effect true)
    | none => (CommandLine.color word).map fun color => { style with color := some color }

/-- The words of the normal name of a style. -/
def words (style : Style) : List String :=
  let shown := CommandLine.effects.filterMap fun entry =>
    (style.effects.lookup entry.1).map fun value =>
      if value then entry.1 else "not " ++ entry.1
  let textOf (part : Option (List Char)) := (part.map String.ofList).toList
  shown ++ textOf style.color ++ (textOf style.background).map ("on " ++ ·) ++
    (textOf style.link).map ("link " ++ ·)

/-- The normal name of a style. -/
def name (style : Style) : String :=
  if style.words.isEmpty then "none" else " ".intercalate style.words

end Style

/-- The words of a text. -/
def wordsOf (text : List Char) : List (List Char) :=
  let marked := text.map fun c => if Text.isBlank c then ' ' else c
  (Text.splitAt ' ' marked).filter fun word => !word.isEmpty

/-- The normal form of the name of a style; nothing if a number of a colour is
missing. What names no style is kept in lower case. -/
def styleName? (text : List Char) : Option String :=
  if Text.trim text == "none".toList then some "none"
  else
    match Style.ofWords {} (wordsOf text) with
    | .ok style => some style.name
    | .error .unknown => some (String.ofList (Text.lowerCase (Text.trim text)))
    | .error .missingNumber => none

end CommandLine
end ApiTypings
