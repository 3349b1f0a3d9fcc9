import ApiTypings.Decimal.Limit
import ApiTypings.Text.Digit
import ApiTypings.Text.Percent
import ApiTypings.Text.SingleQuoted
import ApiTypings.Web.HostName
import ApiTypings.Web.Recognition

/-!
# Addresses in normal form

An address as it is sent to a server: its scheme and its host are in lower case,
the usual port is left out, steps to a parent are taken, and characters that have
no place in an address are escaped.
-/

namespace ApiTypings
namespace Web

/-- The parts of an address. An address without scheme or host is relative. -/
structure Address where
  scheme : List Char
  user : List Char
  host : List Char
  port : Option Int
  path : List Char
  query : Option (List Char)
  fragment : Option (List Char)
  deriving DecidableEq, Repr

/-- Why a text is no address. -/
inductive AddressError
  | tooLong
  | control (character : Char) (position : Nat)
  | host (text : List Char)
  | versionFour (text : List Char)
  | versionSix (text : List Char)
  | port (text : List Char)
  deriving DecidableEq, Repr

/-- The wording of an error. -/
def AddressError.message : AddressError → String
  | .tooLong => "URL too long"
  | .control character position =>
      "Invalid non-printable ASCII character in URL, " ++
        Text.singleQuoted (String.singleton character) ++ " at position " ++
        toString position ++ "."
  | .host text => "Invalid IDNA hostname: " ++ Text.singleQuoted (String.ofList text)
  | .versionFour text => "Invalid IPv4 address: " ++ Text.singleQuoted (String.ofList text)
  | .versionSix text => "Invalid IPv6 address: " ++ Text.singleQuoted (String.ofList text)
  | .port text => "Invalid port: " ++ Text.singleQuoted (String.ofList text)

/-- The largest length of an address. -/
def lengthLimit : Nat := 65536

/-- Whether a character is a printable one of ASCII. -/
def isPrintable (c : Char) : Bool :=
  0x20 ≤ c.toNat && c.toNat < 0x7F

/-- The characters that are safe everywhere. -/
def isUnreserved (c : Char) : Bool :=
  c.isAlphanum || c == '-' || c == '.' || c == '_' || c == '~'

/-- Whether a character is safe where the given ones are not. -/
def isSafeBut (excluded : String) (c : Char) : Bool :=
  isPrintable c && !excluded.toList.contains c

/-- The characters that are safe in a path. -/
def isSafeInPath : Char → Bool := isSafeBut " \"#<>?`\x7b\x7d"

/-- The characters that are safe in a query. -/
def isSafeInQuery : Char → Bool := isSafeBut " \"#<>"

/-- The characters that are safe in a fragment. -/
def isSafeInFragment : Char → Bool := isSafeBut " \"<>`"

/-- The characters that are safe in a user name. -/
def isSafeInUser : Char → Bool := isSafeBut " \"#<>?`\x7b\x7d/;=@[\\]^|"

/-- The characters that are safe in a host. -/
def isSafeInHost (c : Char) : Bool :=
  isUnreserved c || "!$&'()*+,;=\"`\x7b\x7d%|\\".toList.contains c

/-- Whether a text has digits at both ends and around as many single characters
as counted. -/
def looksNumeric : Nat → List Char → Bool
  | _, [] => false
  | 0, c :: rest => c.isDigit && (rest.isEmpty || looksNumeric 0 rest)
  | _ + 1, [_] => false
  | count + 1, c :: next :: rest =>
      c.isDigit && (looksNumeric (count + 1) (next :: rest) || looksNumeric count rest)

/-- The normal form of a host. What looks like four numbers must be four octets. -/
def hostForm (text : List Char) : Except AddressError (List Char) :=
  if text.isEmpty then .ok []
  else if looksNumeric 3 text then
    if isDotted text then .ok text else .error (.versionFour text)
  else if text.head? == some '[' && text.getLast? == some ']' then
    let inner := (text.drop 1).dropLast
    if isVersionSix inner then .ok inner else .error (.versionSix text)
  else if text.all Text.isAscii then
    .ok (Text.percentEncode isSafeInHost (Text.lowerAscii text))
  else
    match nameForm? (Text.lowerCase text) with
    | some form => .ok form
    | none => .error (.host text)

/-- The number of a port: decimal digits of any script, between which single
underscores are allowed, with blanks around them and a sign. -/
def portNumber? (text : List Char) : Option Int := do
  let (negative, digits) :=
    match Text.trim text with
    | '-' :: rest => (true, rest)
    | '+' :: rest => (false, rest)
    | rest => (false, rest)
  let runs := Text.splitAt '_' digits
  guard (runs.all (!·.isEmpty) && runs.flatten.length ≤ Decimal.digitLimit)
  let values ← runs.flatten.mapM Text.decimalValue?
  let number : Int := (values.foldl (fun number digit => 10 * number + digit) 0 : Nat)
  return if negative then -number else number

/-- The usual port of a scheme. -/
def usualPort? (scheme : List Char) : Option Int :=
  if scheme == "http".toList then some 80
  else if scheme == "https".toList then some 443
  else none

/-- The port of an address unless it is the usual one. -/
def portOf (scheme text : List Char) : Except AddressError (Option Int) :=
  if text.isEmpty then .ok none
  else
    match portNumber? text with
    | none => .error (.port text)
    | some number => .ok (if usualPort? scheme == some number then none else some number)

/-- The host and the port after it. A host in brackets ends with the last closing
one. -/
def splitPort (text : List Char) : List Char × List Char :=
  let host :=
    if text.head? == some '[' && text.contains ']' then
      text.take (text.length - (afterLast ']' text).length)
    else text.takeWhile (· != ':')
  match text.drop host.length with
  | ':' :: port => (host, port)
  | port => (host, port)

/-- The parts of a path without steps to itself and with steps to the parent
taken; `kept` is reversed. -/
def walkFrom (kept : List (List Char)) : List (List Char) → List (List Char)
  | [] => kept.reverse
  | ['.'] :: rest => walkFrom kept rest
  | ['.', '.'] :: rest => walkFrom (if kept == [[]] then kept else kept.drop 1) rest
  | part :: rest => walkFrom (part :: kept) rest

/-- A path without steps. -/
def walked (path : List Char) : List Char :=
  ['/'].intercalate (walkFrom [] (Text.splitAt '/' path))

/-- The user and the rest of a host part. -/
def splitUser (authority : List Char) : List Char × List Char :=
  let rest := afterLast '@' authority
  (authority.take (authority.length - rest.length - 1), rest)

/-- The scheme as it is written, the host part and what follows them. -/
def splitStart (text : List Char) : List Char × List Char × List Char :=
  let (scheme, rest) :=
    match scheme? text with
    | some (name, rest) => (text.take name.length, rest)
    | none => ([], text)
  match authority? rest with
  | some authority => (scheme, authority, rest.drop (authority.length + 2))
  | none => (scheme, [], rest)

/-- The address of a text that holds no control characters. -/
def Address.ofPrintable (text : List Char) : Except AddressError Address := do
  let (scheme, authority, rest) := splitStart text
  let (beforeFragment, fragment) := cut '#' rest
  let (path, query) := cut '?' beforeFragment
  let (user, place) := splitUser authority
  let (hostText, portText) := splitPort place
  let host ← hostForm hostText
  let port ← portOf scheme portText
  let isPlaced := !scheme.isEmpty || !host.isEmpty || !user.isEmpty || port.isSome
  return {
    scheme := Text.lowerAscii scheme
    user := Text.percentEncode isSafeInUser user
    host, port
    path := Text.percentEncode isSafeInPath (if isPlaced then walked path else path)
    query := query.map (Text.percentEncode isSafeInQuery)
    fragment := fragment.map (Text.percentEncode isSafeInFragment) }

/-- The address that a text denotes. -/
def Address.ofText (text : String) : Except AddressError Address :=
  let chars := text.toList
  if lengthLimit < chars.length then .error .tooLong
  else
    match chars.find? fun c => Text.isAscii c && !isPrintable c with
    | some c => .error (.control c (chars.takeWhile (· != c)).length)
    | none => Address.ofPrintable chars

namespace Address

/-- Whether an address does not say on its own which server it is of. -/
def isRelative (address : Address) : Bool :=
  address.scheme.isEmpty || address.host.isEmpty

/-- A part with the mark that it starts with, if it is there. -/
def marked (mark : Char) (part : Option (List Char)) : List Char :=
  match part with
  | some content => mark :: content
  | none => []

/-- The user, the host and the port of an address. -/
def place (address : Address) : List Char :=
  (if address.user.isEmpty then [] else address.user ++ ['@']) ++
    (if address.host.contains ':' then '[' :: address.host ++ [']'] else address.host) ++
    marked ':' (address.port.map fun number => (toString number).toList)

/-- The text of an address. -/
def text (address : Address) : String :=
  String.ofList
    ((if address.scheme.isEmpty then [] else address.scheme ++ [':']) ++
      (if address.place.isEmpty then [] else '/' :: '/' :: address.place) ++
      address.path ++ marked '?' address.query ++ marked '#' address.fragment)

/-- The path and the query of an address as seen from the root. -/
def target (address : Address) : String :=
  String.ofList ('/' :: (address.path ++ marked '?' address.query).dropWhile (· == '/'))

end Address

end Web
end ApiTypings
