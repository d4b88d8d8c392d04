import SchemaSheets.Text.Blank
import SchemaSheets.Value.Basic

/-!
# Requests and replies

What is sent to a schema server and what comes back.  A network is any function
from requests to replies; it also replies with the failures of the transport.
A request tells how many were sent before it, so that a server need not answer
the same way twice.  How octets travel and which coding their content has is
the transport's matter: a response holds the content with its codings undone,
or the failure to get at it.
-/

namespace SchemaSheets.Http

inductive Method where
  | post
  | get
  deriving DecidableEq, Repr

def Method.name : Method → String
  | post => "POST"
  | get => "GET"

/-- A request; one that carries the introspection query has it in its body. -/
structure Request where
  method : Method
  url : String
  carriesQuery : Bool
  /-- the number of requests that were sent before it in the same exchange -/
  turn : Nat := 0
  deriving DecidableEq, Repr

def Request.contentType : String := "application/json"

/-- The body of a response: octets, or what is known to be the JSON text of a value. -/
inductive Body where
  | octets (octets : List UInt8)
  | document (value : Value)
  deriving Repr

def phrases : List (Int × String) :=
  [(100, "Continue"), (101, "Switching Protocols"), (102, "Processing"), (103, "Early Hints"),
   (200, "OK"), (201, "Created"), (202, "Accepted"), (203, "Non-Authoritative Information"),
   (204, "No Content"), (205, "Reset Content"), (206, "Partial Content"), (207, "Multi-Status"),
   (208, "Already Reported"), (226, "IM Used"),
   (300, "Multiple Choices"), (301, "Moved Permanently"), (302, "Found"), (303, "See Other"),
   (304, "Not Modified"), (305, "Use Proxy"), (307, "Temporary Redirect"),
   (308, "Permanent Redirect"),
   (400, "Bad Request"), (401, "Unauthorized"), (402, "Payment Required"), (403, "Forbidden"),
   (404, "Not Found"), (405, "Method Not Allowed"), (406, "Not Acceptable"),
   (407, "Proxy Authentication Required"), (408, "Request Timeout"), (409, "Conflict"),
   (410, "Gone"), (411, "Length Required"), (412, "Precondition Failed"),
   (413, "Request Entity Too Large"), (414, "Request-URI Too Long"),
   (415, "Unsupported Media Type"), (416, "Requested Range Not Satisfiable"),
   (417, "Expectation Failed"), (418, "I'm a teapot"), (421, "Misdirected Request"),
   (422, "Unprocessable Entity"), (423, "Locked"), (424, "Failed Dependency"), (425, "Too Early"),
   (426, "Upgrade Required"), (428, "Precondition Required"), (429, "Too Many Requests"),
   (431, "Request Header Fields Too Large"), (451, "Unavailable For Legal Reasons"),
   (500, "Internal Server Error"), (501, "Not Implemented"), (502, "Bad Gateway"),
   (503, "Service Unavailable"), (504, "Gateway Timeout"), (505, "HTTP Version Not Supported"),
   (506, "Variant Also Negotiates"), (507, "Insufficient Storage"), (508, "Loop Detected"),
   (510, "Not Extended"), (511, "Network Authentication Required")]

/-- The phrase of a status, empty for one that is not standard. -/
def phraseOf (status : Int) : String := (phrases.lookup status).getD ""

/-- What a server answers.  One that gives no reason for the status gives the standard phrase. -/
structure Response where
  status : Int := 200
  reason : String := phraseOf status
  headers : List (String × String) := []
  body : Body := .octets []
  /-- the failure of the transport, by name and message, if it cannot get at the content -/
  fault? : Option (String × String) := none
  deriving Repr

/-- What comes back: a response, or a failure of the transport with its name and message. -/
inductive Reply where
  | response (r : Response)
  | failed (name message : String)
  deriving Repr

abbrev Network := Request → Reply

def Network.unreachable : Network := fun _ => .failed "ConnectError" "All connection attempts failed"

def headerKey (name : String) : String :=
  name.map fun c => if 'A' ≤ c && c ≤ 'Z' then Char.ofNat (c.toNat + 32) else c

def Response.header? (r : Response) (name : String) : Option String :=
  (r.headers.find? fun (n, _) => headerKey n == headerKey name).map (·.2)

def Response.isSuccess (r : Response) : Bool := 200 ≤ r.status && r.status ≤ 299

end SchemaSheets.Http
