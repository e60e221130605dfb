/-
# Requests and responses

A request asks for a URL and may carry headers; a response has a status, a reason phrase, headers with
names in small letters, and a body.
-/

import ScriptImport.Dict
import ScriptImport.Url.Basic

namespace ScriptImport

/-- A request for what is at a URL. -/
structure Request where
  url : Url
  headers : List (String × String)

/-- A text with the letters A to Z made small. -/
def lowerAscii (s : String) : String := s.map Char.toLower

/-- The value of the first header with a name, in whichever case. -/
def headerValue? (headers : List (String × String)) (name : String) : Option String :=
  (headers.find? fun h => lowerAscii h.1 = lowerAscii name).map (·.2)

/-- The answer to a request. -/
structure Response where
  status : Nat
  reason : String
  headers : Dict String
  body : String

namespace Response

/-- The reason phrases of the registered statuses. -/
def reasons : List (Nat × String) :=
  [(100, "Continue"), (101, "Switching Protocols"), (102, "Processing"), (103, "Early Hints"),
   (200, "OK"), (201, "Created"), (202, "Accepted"), (203, "Non Authoritative Information"),
   (204, "No Content"), (205, "Reset Content"), (206, "Partial Content"), (207, "Multi-Status"),
   (208, "Already Reported"), (226, "IM Used"),
   (300, "Multiple Choices"), (301, "Moved Permanently"), (302, "Found"), (303, "See Other"),
   (304, "Not Modified"), (305, "Use Proxy"), (307, "Temporary Redirect"),
   (308, "Permanent Redirect"),
   (400, "Bad Request"), (401, "Unauthorized"), (402, "Payment Required"), (403, "Forbidden"),
   (404, "Not Found"), (405, "Method Not Allowed"), (406, "Not Acceptable"),
   (407, "Proxy Authentication Required"), (408, "Request Timeout"), (409, "Conflict"),
   (410, "Gone"), (411, "Length Required"), (412, "Precondition Failed"),
   (413, "Payload Too Large"), (414, "URI Too Long"), (415, "Unsupported Media Type"),
   (416, "Range Not Satisfiable"), (417, "Expectation Failed"), (418, "I'm a teapot"),
   (421, "Misdirected Request"), (422, "Unprocessable Entity"), (423, "Locked"),
   (424, "Failed Dependency"), (425, "Too Early"), (426, "Upgrade Required"),
   (428, "Precondition Required"), (429, "Too Many Requests"),
   (431, "Request Header Fields Too Large"), (451, "Unavailable For Legal Reasons"),
   (500, "Internal Server Error"), (501, "Not Implemented"), (502, "Bad Gateway"),
   (503, "Service Unavailable"), (504, "Gateway Timeout"), (505, "HTTP Version Not Supported"),
   (506, "Variant Also Negotiates"), (507, "Insufficient Storage"), (508, "Loop Detected"),
   (510, "Not Extended"), (511, "Network Authentication Required")]

/-- The usual reason phrase of a status, empty if it has none. -/
def usualReason (status : Nat) : String := (reasons.lookup status).getD ""

/-- A response without headers and with the usual reason phrase. -/
def plain (status : Nat) (body : String) : Response := ⟨status, usualReason status, [], body⟩

/-- Adds a header, in place of the one with its name. -/
def withHeader (r : Response) (name value : String) : Response :=
  { r with headers := Dict.insert r.headers (lowerAscii name) value }

/-- Whether a response brings what was asked for. -/
def isSuccess (r : Response) : Bool := 200 ≤ r.status && r.status < 300

/-- Whether a response says that nothing has changed. -/
def isUnchanged (r : Response) : Bool := r.status = 304

end Response
end ScriptImport
