import SchemaSheets.Json.Reader
import SchemaSheets.Session
import SchemaSheets.Text.Wide
import SchemaSheets.Url.Canonical
import SchemaSheets.Url.Join

/-!
# Fetching schemas

A schema is fetched by posting the introspection query.  Redirects are followed
up to a limit; most of them turn the request into one that carries no query.
The reply is then classified: a transport failure, a status other than success,
a body that is no JSON object, errors without data, or a document.
-/

namespace SchemaSheets.Http

open Url (Canonical)

def maxRedirects : Nat := 20

def redirectStatuses : List Int := [301, 302, 303, 307, 308]

/-- The place that a response redirects to, as it is written there. -/
def Response.location? (r : Response) : Option String :=
  if redirectStatuses.contains r.status then r.header? "location" else none

def methodAfter (status : Int) (m : Method) : Method :=
  if status == 303 || status == 302 || status == 301 then .get else m

/-- The failures of a transport that stand for a failed fetch. -/
def fetchFailures : List String :=
  ["HTTPError", "RequestError", "TransportError", "TimeoutException", "ConnectTimeout",
   "ReadTimeout", "WriteTimeout", "PoolTimeout", "NetworkError", "ConnectError", "ReadError",
   "WriteError", "CloseError", "ProtocolError", "LocalProtocolError", "RemoteProtocolError",
   "ProxyError", "UnsupportedProtocol", "DecodingError", "TooManyRedirects", "HTTPStatusError"]

def failedFetch (url statusText : String) : Failure := .fetch ⟨url, statusText, none⟩

def transportFailure (url name message : String) : Failure :=
  if fetchFailures.contains name then failedFetch url (if message == "" then name else message)
  else .transport name message

/-- A URL with a scheme but no host gets the host of the URL of the request. -/
def hosted (base target : Canonical) : Except Failure Canonical :=
  if target.scheme.isEmpty || !target.host.isEmpty then .ok target
  else if target.path.isEmpty || target.path.head? == some '/' then
    .ok { target with host := base.host }
  else .error (.badUrl Url.Fault.pathWithoutSlash.message)

def resolved (base target : Canonical) : Except Failure Canonical :=
  if target.isAbsolute then .ok target
  else
    match Url.join base.text target.text with
    | some joined => (Canonical.ofText joined).mapError fun fault => .badUrl fault.message
    | none => .error (.transport "ValueError" "Invalid IPv6 URL")

/-- A URL keeps the fragment of the URL of the request unless it has one of its own. -/
def carrying (base target : Canonical) : Canonical :=
  let carried := base.fragment.filter (!·.isEmpty)
  if target.fragment.all (·.isEmpty) && carried.isSome then { target with fragment := carried }
  else target

/-- The target of a redirect: relative to the URL of the request, and with its fragment unless it
has one of its own. -/
def redirectTarget (url : String) (base : Canonical) (location : String) :
    Except Failure Canonical := do
  let target ← (Canonical.ofText location.toList).mapError fun fault =>
    failedFetch url ("Invalid URL in location header: " ++ fault.message ++ ".")
  return carrying base (← resolved base (← hosted base target))

def exchangeText (request : Request) (r : Response) : String :=
  "HTTP Request: " ++ request.method.name ++ " " ++ request.url ++ " \"HTTP/1.1 " ++
    Decimal.intText r.status ++ " " ++ r.reason ++ "\""

/-- Where an exchange stands: the request that it comes to. -/
structure Hop where
  method : Method
  carriesQuery : Bool
  target : Canonical
  turn : Nat := 0
  deriving DecidableEq, Repr

namespace Hop

def first (target : Canonical) : Hop := ⟨.post, true, target.forRequest, 0⟩

def request (h : Hop) : Request := ⟨h.method, String.ofList h.target.text, h.carriesQuery, h.turn⟩

def after (h : Hop) (status : Int) (target : Canonical) : Hop :=
  ⟨methodAfter status h.method, h.carriesQuery && methodAfter status h.method == h.method, target,
    h.turn + 1⟩

def next? (url : String) (h : Hop) (r : Response) : Except Failure (Option Hop) :=
  match r.location? with
  | none => .ok none
  | some location => (redirectTarget url h.target location).map fun target =>
      some (h.after r.status target)

/-- What a reply leads to: the response that ends the exchange, or the next hop.  The content of a
response is read once it is known where it leads. -/
def receive (url : String) (h : Hop) : Reply → Run (Response ⊕ Hop)
  | .failed name message => throw (transportFailure url name message)
  | .response r => do
    if h.target.scheme.isEmpty then throw (.transport "ValueError" "unknown url type")
    Run.inform .requests (exchangeText h.request r)
    let next? ← h.next? url r
    if let some (name, message) := r.fault? then throw (transportFailure url name message)
    match next? with
    | none => return .inl r
    | some next => return .inr next

def exchange (network : Network) (url : String) (h : Hop) : Run (Response ⊕ Hop) := do
  modify (·.requested h.request)
  h.receive url (network h.request)

end Hop

def tooManyRedirects (url : String) : Failure :=
  failedFetch url "Exceeded maximum allowed redirects."

/-- Sends the request of a hop and follows redirects, at most so many of them. -/
def send (network : Network) (url : String) : Nat → Hop → Run Response
  | 0, h => do
    match ← h.exchange network url with
    | .inl r => return r
    | .inr _ => throw (tooManyRedirects url)
  | left + 1, h => do
    match ← h.exchange network url with
    | .inl r => return r
    | .inr next => send network url left next

def Body.value? [Capacity] : Body → Except Misuse (Option Value)
  | .document v => .ok (some v)
  | .octets data =>
    match Text.decodeAny data with
    | none => .ok none
    | some codes =>
      match Json.readCodes codes with
      | .ok v => .ok (some v)
      | .error .tooDeep => .error .tooDeep
      | .error _ => .ok none

def errorText : Value → String
  | .map entries => Display.plain ((Entries.get? entries "message").getD (.map entries))
  | v => Display.plain v

def checkDocument (origin : String) (v : Value) : Except Malformed Value :=
  match v with
  | .map entries =>
    if (Entries.get entries "__schema").isMap then .ok v else .error (.withoutSchema origin)
  | _ => .error (.withoutSchema origin)

def documentOf [Capacity] (url : String) (body : Body) : Except Failure Value := do
  match ← body.value? with
  | none => throw (.malformed (.notJson url))
  | some (.map entries) =>
    match Entries.get entries "data", Entries.get entries "errors" with
    | .null, .list (e :: es) => throw (.malformed (.refused url ((e :: es).map errorText)))
    | data, _ => checkDocument url data
  | some _ => throw (.malformed (.notAnObject url))

def settle [Capacity] (url : String) (r : Response) : Except Failure Value :=
  if r.isSuccess then documentOf url r.body else .error (.fetch ⟨url, r.reason, some r.status⟩)

def fetch [Capacity] (network : Network) (url : String) : Run Value := do
  match Canonical.ofText url.toList with
  | .error fault => throw (.badUrl fault.message)
  | .ok target => settle url (← send network url maxRedirects (.first target))

end SchemaSheets.Http
