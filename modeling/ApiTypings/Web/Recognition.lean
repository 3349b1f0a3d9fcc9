import ApiTypings.Web.Literal

/-!
# Recognition of web addresses

Which texts are addresses of the web: those with the scheme `http` or `https`
and a host part. A host in brackets must be an address of the sixth internet
protocol version or of a later one.
-/

namespace ApiTypings
namespace Web

/-- The characters that a scheme may hold. -/
def isSchemeChar (c : Char) : Bool :=
  c.isAlphanum || c == '+' || c == '-' || c == '.'

/-- A text without leading control characters and blanks, and without tabs and
line breaks anywhere. -/
def cleaned (text : List Char) : List Char :=
  (text.dropWhile fun c => c.toNat ≤ 0x20).filter fun c =>
    c != '\t' && c != '\n' && c != '\r'

/-- The scheme in lower case, and what follows its colon. -/
def scheme? (text : List Char) : Option (List Char × List Char) :=
  match cut ':' text with
  | (name, some rest) =>
      match name with
      | first :: _ =>
          if first.isAlpha && name.all isSchemeChar then some (Text.lowerAscii name, rest)
          else none
      | [] => none
  | (_, none) => none

/-- The host part after two slashes. -/
def authority? : List Char → Option (List Char)
  | '/' :: '/' :: rest => some (rest.takeWhile fun c => c != '/' && c != '?' && c != '#')
  | _ => none

/-- Characters outside ASCII that read as a delimiter of addresses. -/
def disguisedDelimiters : List Nat :=
  [0x2047, 0x2048, 0x2049, 0x2100, 0x2101, 0x2105, 0x2106, 0x2A74, 0xFE13, 0xFE16, 0xFE55,
    0xFE56, 0xFE5F, 0xFE6B, 0xFF03, 0xFF0F, 0xFF1A, 0xFF1F, 0xFF20]

/-- The text after the last occurrence of a character, or the whole text. -/
def afterLast (separator : Char) (text : List Char) : List Char :=
  (text.reverse.takeWhile (· != separator)).reverse

/-- Whether a host may stand in brackets. -/
def isBracketable (host : List Char) : Bool :=
  if host.head? == some 'v' then isLaterVersion host else isVersionSix host

/-- Whether the brackets of a host part are in order. With brackets anywhere in
it, what follows the last `@` must be an address, in brackets with nothing before
them and only a port after them, or without any. -/
def bracketsSound (authority : List Char) : Bool :=
  match authority.contains '[', authority.contains ']' with
  | false, false => true
  | true, true =>
      let place := afterLast '@' authority
      match cut '[' place with
      | (before, some bracketed) =>
          let (host, port) := cut ']' bracketed
          let port := port.getD []
          before.isEmpty && (port.isEmpty || port.head? == some ':') && isBracketable host
      | (_, none) => isBracketable (cut ':' place).1
  | _, _ => false

/-- Whether a text is an address of the web. -/
def isWebAddress (text : List Char) : Bool :=
  match scheme? (cleaned text) with
  | none => false
  | some (scheme, rest) =>
      (scheme == "http".toList || scheme == "https".toList) &&
        match authority? rest with
        | none => false
        | some authority =>
            !authority.isEmpty && bracketsSound authority &&
              authority.all fun c => !disguisedDelimiters.contains c.toNat

end Web
end ApiTypings
