import ApiTypings.Text.Blank
import ApiTypings.Text.Hex

/-!
# Numeric hosts

Hosts that are internet addresses: four octets, or groups of hexadecimal digits
in the sixth and later versions of the protocol.
-/

namespace ApiTypings
namespace Web

/-- The text before the first occurrence of a character, and the text after it
if there is one. -/
def cut (separator : Char) (text : List Char) : List Char × Option (List Char) :=
  match text.dropWhile (· != separator) with
  | [] => (text, none)
  | _ :: rest => (text.takeWhile (· != separator), some rest)

/-- A number from 0 to 255 without leading zeros. -/
def isOctet (text : List Char) : Bool :=
  !text.isEmpty && text.length ≤ 3 && text.all Char.isDigit &&
    (text.length == 1 || text.head? != some '0') &&
    text.foldl (fun total c => total * 10 + (c.toNat - '0'.toNat)) 0 ≤ 255

/-- Four octets. -/
def isDotted (text : List Char) : Bool :=
  let parts := Text.splitAt '.' text
  parts.length == 4 && parts.all isOctet

/-- One to four hexadecimal digits. -/
def isHextet (text : List Char) : Bool :=
  !text.isEmpty && text.length ≤ 4 &&
    text.all Text.isHexDigit

/-- The groups of an address between colons, four octets at its end counting as
two groups. -/
def groups? (text : List Char) : Option (List (List Char)) :=
  let parts := Text.splitAt ':' text
  let last := parts.getLast?.getD []
  if last.contains '.' then
    if isDotted last then some (parts.dropLast ++ [['0'], ['0']]) else none
  else some parts

/-- Whether groups form an address: eight of them, or fewer with one empty
group inside that stands for the missing ones. An empty group at an end is
allowed next to that one only. -/
def areGroups (groups : List (List Char)) : Bool :=
  let count := groups.length
  let inner := groups.drop 1 |>.dropLast
  let gaps := inner.countP List.isEmpty
  let leads := (groups.head?.getD []).isEmpty
  let trails := (groups.getLast?.getD []).isEmpty
  let filled := groups.filter fun group => !group.isEmpty
  let sound := filled.all isHextet
  if count < 3 || 9 < count then false
  else if gaps == 0 then count == 8 && !leads && !trails && sound
  else if gaps == 1 then
    let second := ((groups.drop 1).head?.getD []).isEmpty
    let beforeLast := (groups.dropLast.getLast?.getD []).isEmpty
    (!leads || second) && (!trails || beforeLast) && filled.length < 8 && sound
  else false

/-- An address of the sixth version, with or without a zone. -/
def isVersionSix (text : List Char) : Bool :=
  let (address, zone) := cut '%' text
  let zoneSound :=
    match zone with
    | none => true
    | some name => !name.isEmpty && !name.contains '%'
  if address.contains '/' then false
  else
    zoneSound &&
      match groups? address with
      | some groups => areGroups groups
      | none => false

/-- An address of a later version: `v`, its number in hexadecimal, a point and
at least one character. -/
def isLaterVersion (text : List Char) : Bool :=
  match text with
  | 'v' :: rest =>
      !(rest.takeWhile Text.isHexDigit).isEmpty &&
        match rest.dropWhile Text.isHexDigit with
        | '.' :: c :: more => (c :: more).all (· != '\n')
        | _ => false
  | _ => false

end Web
end ApiTypings
