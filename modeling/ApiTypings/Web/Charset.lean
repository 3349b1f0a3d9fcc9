import ApiTypings.Text.Blank
import ApiTypings.Text.Percent
import ApiTypings.Web.CharsetTable

/-!
# Character sets

How the bytes of an answer are read as text. The content type of the answer may
name the character set; without a name that is known it is UTF-8. Bytes that stand
for nothing become replacement characters.
-/

namespace ApiTypings
namespace Web

/-- The order of the bytes of a unit. -/
inductive ByteOrder
  | little
  | big
  deriving DecidableEq, Repr

/-- The number that bytes form. -/
def ByteOrder.number (order : ByteOrder) (bytes : List UInt8) : Nat :=
  let ordered :=
    match order with
    | .little => bytes.reverse
    | .big => bytes
  ordered.foldl (fun total byte => total * 256 + byte.toNat) 0

/-- A character set. -/
inductive Charset
  | utf8
  /-- UTF-8 without the mark at its start. -/
  | utf8Marked
  /-- Units of two bytes; without an order they must start with a mark. -/
  | utf16 (order : Option ByteOrder)
  /-- Units of four bytes; without an order they must start with a mark. -/
  | utf32 (order : Option ByteOrder)
  | ascii
  /-- One byte for a character, the last ones standing for the given characters. -/
  | table (last : String)
  /-- A set that cannot be used for the text of an answer, and why. -/
  | refused (reason : String)
  deriving DecidableEq, Repr

/-- The character of a code point. -/
def characterOf (code : Nat) : Char :=
  if code.isValidChar then Char.ofNat code else '�'

/-- The characters of units of two bytes. A pair of surrogates stands for one
character. -/
def decodePairs (order : ByteOrder) : List UInt8 → List Char
  | a :: b :: c :: d :: rest =>
      let high := order.number [a, b]
      let low := order.number [c, d]
      if 0xD800 ≤ high ∧ high < 0xDC00 ∧ 0xDC00 ≤ low ∧ low < 0xE000 then
        characterOf (0x10000 + (high - 0xD800) * 0x400 + (low - 0xDC00)) ::
          decodePairs order rest
      else characterOf high :: decodePairs order (c :: d :: rest)
  | a :: b :: rest => characterOf (order.number [a, b]) :: decodePairs order rest
  | [_] => ['�']
  | [] => []

/-- The characters of units of four bytes. -/
def decodeQuads (order : ByteOrder) : List UInt8 → List Char
  | a :: b :: c :: d :: rest =>
      characterOf (order.number [a, b, c, d]) :: decodeQuads order rest
  | [] => []
  | _ => ['�']

/-- The order of bytes that a mark at their start tells, and what follows it.
Bytes that are too few for a mark have no order. -/
def splitMark (name : String) (width : Nat) (bytes : List UInt8) :
    Except String (Option ByteOrder × List UInt8) :=
  let mark := bytes.take width
  if bytes.length < width then .ok (none, bytes)
  else if ByteOrder.little.number mark = 0xFEFF then .ok (some .little, bytes.drop width)
  else if ByteOrder.big.number mark = 0xFEFF then .ok (some .big, bytes.drop width)
  else .error (name ++ " stream does not start with BOM")

namespace Charset

/-- The character of a byte in a table. -/
def tableCharacter (last : String) (byte : UInt8) : Char :=
  let characters := last.toList
  let code := byte.toNat
  if code < 256 - characters.length then Char.ofNat code
  else (characters[code - (256 - characters.length)]?).getD '�'

/-- The text of bytes. Units without a mark of their order are an error, as are sets
that cannot be used. -/
def decode (charset : Charset) (bytes : List UInt8) : Except String (List Char) :=
  match charset with
  | .utf8 => .ok (Text.decodeLossy bytes)
  | .utf8Marked =>
      let text := Text.decodeLossy bytes
      .ok (if text.head? == some '\ufeff' then text.drop 1 else text)
  | .utf16 (some order) => .ok (decodePairs order bytes)
  | .utf16 none =>
      (splitMark "UTF-16" 2 bytes).map fun (order, rest) =>
        decodePairs (order.getD .little) rest
  | .utf32 (some order) => .ok (decodeQuads order bytes)
  | .utf32 none =>
      (splitMark "UTF-32" 4 bytes).map fun (order, rest) =>
        decodeQuads (order.getD .little) rest
  | .ascii => .ok (bytes.map fun byte => if byte < 0x80 then Char.ofNat byte.toNat else '�')
  | .table last => .ok (bytes.map (tableCharacter last))
  | .refused reason => .error reason

/-- The sets of Unicode and of ASCII by their names. -/
def plainSets : List (List String × Charset) := [
  (["u8", "utf", "utf8", "utf8_ucs2", "utf8_ucs4", "cp65001", "utf_8"], .utf8),
  (["utf_8_sig"], .utf8Marked),
  (["u16", "utf16", "utf_16"], .utf16 none),
  (["unicodelittleunmarked", "utf_16le", "utf_16_le"], .utf16 (some .little)),
  (["unicodebigunmarked", "utf_16be", "utf_16_be"], .utf16 (some .big)),
  (["u32", "utf32", "utf_32"], .utf32 none),
  (["utf_32le", "utf_32_le"], .utf32 (some .little)),
  (["utf_32be", "utf_32_be"], .utf32 (some .big)),
  (["646", "ansi_x3.4_1968", "ansi_x3_4_1968", "ansi_x3.4_1986", "cp367", "csascii", "ibm367",
    "iso646_us", "iso_646.irv_1991", "iso_ir_6", "us", "us_ascii", "ascii"], .ascii),
  (["8859", "cp819", "csisolatin1", "ibm819", "iso8859", "iso8859_1", "iso_8859_1",
    "iso_8859_1_1987", "iso_ir_100", "l1", "latin", "latin1", "latin_1", "charmap"], .table ""),
  (["undefined"], .refused "undefined encoding"),
  (["idna"], .refused "Unsupported error handling replace"),
  (["base64", "base64_codec", "base_64", "bz2", "bz2_codec", "hex", "hex_codec", "quopri",
    "quopri_codec", "quoted_printable", "quotedprintable", "uu", "uu_codec", "zip", "zlib",
    "zlib_codec"], .refused "")]

/-- The sets by their names. -/
def sets : List (List String × Charset) :=
  plainSets ++ charsetTables.map fun entry => (entry.1, .table entry.2)

/-- Letters, digits and points in lower case, with an underscore for what stands
between them. -/
def plainName (name : List Char) : String :=
  let words := Text.splitAt '_' ((Text.lowerAscii name).map fun c =>
    if c.isAlphanum || c == '.' then c else '_')
  "_".intercalate ((words.filter fun word => !word.isEmpty).map String.ofList)

/-- The set of a name. -/
def ofName? (name : List Char) : Option Charset :=
  (sets.find? fun entry => entry.1.contains (plainName name)).map Prod.snd

end Charset

/-- Whether a quote is open after a text, quotes after a backslash not counting. -/
def isQuoteOpen (text : List Char) : Bool :=
  let quotes := text.count '"'
  let escapedOnes := (text.zip (text.drop 1)).count ('\\', '"')
  (quotes - escapedOnes) % 2 == 1

/-- The parts of a content type between semicolons outside quotes; `current` is
the reversed start of the part that is being read. -/
def parametersFrom (current : List Char) : List Char → List (List Char)
  | [] => [current.reverse]
  | ';' :: rest =>
      if !current.isEmpty && isQuoteOpen current.reverse then
        parametersFrom (';' :: current) rest
      else current.reverse :: parametersFrom [] rest
  | c :: rest => parametersFrom (c :: current) rest

/-- A value without the quotes or angle brackets around it. -/
def unquoted (value : List Char) : List Char :=
  let inner := (value.drop 1).dropLast
  if value.length < 2 then value
  else if value.head? == some '"' && value.getLast? == some '"' then unescaped inner
  else if value.head? == some '<' && value.getLast? == some '>' then inner
  else value
where
  /-- A text in which backslashes before a quote or a backslash are dropped. -/
  unescaped : List Char → List Char
    | '\\' :: '\\' :: rest => '\\' :: unescaped rest
    | '\\' :: '"' :: rest => '"' :: unescaped rest
    | c :: rest => c :: unescaped rest
    | [] => []

/-- The name of the character set in a content type. -/
def charsetName? (contentType : String) : Option (List Char) :=
  (parametersFrom [] contentType.toList).findSome? fun part =>
    let name := part.takeWhile (· != '=')
    let value := part.drop (name.length + 1)
    if Text.lowerAscii (Text.trim name) == "charset".toList then
      some (unquoted (Text.trim value))
    else none

/-- The character set of an answer with a content type. -/
def charsetOf (contentType : Option String) : Charset :=
  ((contentType.bind charsetName?).bind Charset.ofName?).getD .utf8

end Web
end ApiTypings
