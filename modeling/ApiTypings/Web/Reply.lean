import ApiTypings.Web.Address
import ApiTypings.Web.Charset

/-!
# Answers of servers

An answer whose status is not a success is an error, which is told with the
reason of the status and the address.
-/

namespace ApiTypings
namespace Web

/-- The answer of a server. -/
structure Reply where
  status : Nat
  contentType : Option String
  body : List UInt8
  deriving DecidableEq, Repr

/-- The reasons of statuses. -/
def reasons : List (Nat × String) := [
  (100, "Continue"), (101, "Switching Protocols"), (102, "Processing"), (103, "Early Hints"),
  (200, "OK"), (201, "Created"), (202, "Accepted"),
  (203, "Non-Authoritative Information"), (204, "No Content"), (205, "Reset Content"),
  (206, "Partial Content"), (207, "Multi-Status"), (208, "Already Reported"), (226, "IM Used"),
  (300, "Multiple Choices"), (301, "Moved Permanently"), (302, "Found"), (303, "See Other"),
  (304, "Not Modified"), (305, "Use Proxy"), (307, "Temporary Redirect"),
  (308, "Permanent Redirect"),
  (400, "Bad Request"), (401, "Unauthorized"), (402, "Payment Required"), (403, "Forbidden"),
  (404, "Not Found"), (405, "Method Not Allowed"), (406, "Not Acceptable"),
  (407, "Proxy Authentication Required"), (408, "Request Timeout"), (409, "Conflict"),
  (410, "Gone"), (411, "Length Required"), (412, "Precondition Failed"),
  (413, "Request Entity Too Large"), (414, "Request-URI Too Long"),
  (415, "Unsupported Media Type"), (416, "Requested Range Not Satisfiable"),
  (417, "Expectation Failed"), (418, "I'm a teapot"), (421, "Misdirected Request"),
  (422, "Unprocessable Entity"), (423, "Locked"), (424, "Failed Dependency"),
  (425, "Too Early"), (426, "Upgrade Required"), (428, "Precondition Required"),
  (429, "Too Many Requests"), (431, "Request Header Fields Too Large"),
  (451, "Unavailable For Legal Reasons"),
  (500, "Internal Server Error"), (501, "Not Implemented"), (502, "Bad Gateway"),
  (503, "Service Unavailable"), (504, "Gateway Timeout"), (505, "HTTP Version Not Supported"),
  (506, "Variant Also Negotiates"), (507, "Insufficient Storage"), (508, "Loop Detected"),
  (510, "Not Extended"), (511, "Network Authentication Required")]

/-- What kind of answer a status is. -/
def statusClass (status : Nat) : String :=
  match status / 100 with
  | 1 => "Informational response"
  | 3 => "Redirect response"
  | 4 => "Client error"
  | 5 => "Server error"
  | _ => "Invalid status code"

namespace Reply

/-- What is wrong with an answer, if its status is not a success. An address that
is relative cannot be told apart from a scheme that is not known. -/
def problem? (address : Address) (reply : Reply) : Option String :=
  if address.isRelative then some ("unknown url type: " ++ Text.singleQuoted address.target)
  else if 200 ≤ reply.status ∧ reply.status < 300 then none
  else
    let status := toString reply.status
    let reason := (reasons.lookup reply.status).getD ""
    some (statusClass reply.status ++ " '" ++ status ++ " " ++ reason ++ "' for url '" ++
      address.text ++ "'\nFor more information check: " ++
      "https://developer.mozilla.org/en-US/docs/Web/HTTP/Status/" ++ status)

/-- The text of an answer. -/
def text (reply : Reply) : Except String (List Char) :=
  (charsetOf reply.contentType).decode reply.body

end Reply

end Web
end ApiTypings
