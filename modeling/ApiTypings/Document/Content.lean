import ApiTypings.Document.Operation
import ApiTypings.Text.Blank

/-!
# Content types

The representation of a body that its type is taken from: the first one in JSON,
or else the first one.
-/

namespace ApiTypings
namespace Document

/-- A content type without its parameters, in lower case. -/
def essence (contentType : String) : List Char :=
  Text.lowerAscii (Text.trim (contentType.toList.takeWhile (· != ';')))

/-- Whether a content type is JSON. -/
def isJson (contentType : String) : Bool :=
  let name := essence contentType
  name == "application/json".toList || name == "text/json".toList ||
    Text.endsWith "+json".toList name

/-- What is stored for the primary content type. -/
def primary? {α : Type} (content : List (String × α)) : Option α :=
  ((content.find? fun entry => isJson entry.1).or content.head?).map Prod.snd

end Document
end ApiTypings
