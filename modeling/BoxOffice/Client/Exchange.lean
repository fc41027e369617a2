import BoxOffice.Client.Target
import BoxOffice.Json.Reader
import BoxOffice.Json.Decode

/-! One request to another server and its reply. -/

namespace BoxOffice.Client

structure Outgoing where
  method : String
  target : String
  /-- The token that is shown, if any. -/
  bearer : Option String
  body : Option Json

namespace Outgoing

def get (behindHost : String) (bearer : Option String) : Outgoing :=
  ⟨"GET", Client.target behindHost, bearer, none⟩

def post (behindHost : String) (bearer : Option String) (body : Json) : Outgoing :=
  ⟨"POST", Client.target behindHost, bearer, some body⟩

/-- The header that shows the token. Blanks at its end do not arrive. -/
def authorization? (o : Outgoing) : Option String :=
  o.bearer.map fun token =>
    let written := ("Bearer " ++ token).toList
    String.ofList (written.reverse.dropWhile fun c => c = ' ' || c = '\t').reverse

def contentType? (o : Outgoing) : Option String := o.body.map fun _ => "application/json"

end Outgoing

structure Reply where
  status : Nat
  body : Bytes

namespace Reply

def isSuccess (r : Reply) : Bool := 200 ≤ r.status && r.status < 300

def isServerError (r : Reply) : Bool := 500 ≤ r.status && r.status < 600

/-- What arrives of the body; with some statuses nothing is taken for one. -/
def content (r : Reply) : Bytes := if r.status = 204 ∨ r.status = 304 then [] else r.body

/-- The body as a value. -/
def value? {α : Type} (decode : Json → Json.Decoded α) (r : Reply) : Option α :=
  (Json.parse r.content).bind fun j => (decode j).toOption

/-- The most bytes that an excerpt has. -/
def excerptLimit : Nat := 512

/-- The body as a text. -/
def text (r : Reply) : String := String.ofList (Text.decodeLossy r.content)

/-- The beginning of a text, for messages. -/
def excerptOf (body : String) : Option String := Text.cut excerptLimit body

/-- The beginning of the body. There always is one. -/
def excerpt (r : Reply) : String := (excerptOf r.text).getD r.text

/-- Why a body is not taken. -/
def undecodable : String := "error decoding response body"

/-- The standard phrases. -/
def phrases : List (Nat × String) := [
  (100, "Continue"), (101, "Switching Protocols"), (102, "Processing"), (103, "Early Hints"),
  (200, "OK"), (201, "Created"), (202, "Accepted"), (203, "Non Authoritative Information"),
  (204, "No Content"), (205, "Reset Content"), (206, "Partial Content"), (207, "Multi-Status"),
  (208, "Already Reported"), (226, "IM Used"), (300, "Multiple Choices"),
  (301, "Moved Permanently"), (302, "Found"), (303, "See Other"), (304, "Not Modified"),
  (305, "Use Proxy"), (307, "Temporary Redirect"), (308, "Permanent Redirect"),
  (400, "Bad Request"), (401, "Unauthorized"), (402, "Payment Required"), (403, "Forbidden"),
  (404, "Not Found"), (405, "Method Not Allowed"), (406, "Not Acceptable"),
  (407, "Proxy Authentication Required"), (408, "Request Timeout"), (409, "Conflict"),
  (410, "Gone"), (411, "Length Required"), (412, "Precondition Failed"),
  (413, "Payload Too Large"), (414, "URI Too Long"), (415, "Unsupported Media Type"),
  (416, "Range Not Satisfiable"), (417, "Expectation Failed"), (418, "I'm a teapot"),
  (421, "Misdirected Request"), (422, "Unprocessable Entity"), (423, "Locked"),
  (424, "Failed Dependency"), (425, "Too Early"), (426, "Upgrade Required"),
  (428, "Precondition Required"), (429, "Too Many Requests"),
  (431, "Request Header Fields Too Large"), (451, "Unavailable For Legal Reasons"),
  (500, "Internal Server Error"), (501, "Not Implemented"), (502, "Bad Gateway"),
  (503, "Service Unavailable"), (504, "Gateway Timeout"), (505, "HTTP Version Not Supported"),
  (506, "Variant Also Negotiates"), (507, "Insufficient Storage"), (508, "Loop Detected"),
  (510, "Not Extended"), (511, "Network Authentication Required")]

/-- The status with its phrase. -/
def statusText (r : Reply) : String :=
  r.status.repr ++ " " ++ (phrases.lookup r.status).getD "<unknown status code>"

end Reply

end BoxOffice.Client
