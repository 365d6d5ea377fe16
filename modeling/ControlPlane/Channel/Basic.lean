import ControlPlane.Fault
import ControlPlane.Http
import ControlPlane.Json.Basic
import ControlPlane.Json.Reader
import ControlPlane.Settings
import ControlPlane.Text.Printable
import ControlPlane.Url.Parse
/-!
A channel to a peer: its base address, the timeout of an attempt, and the policy for retries. A call
names a method, a path below the base, query pairs and a body; the channel makes one request of it,
and every attempt sends that same request. The peer at the other end has a name in messages, the
headers that authenticate a request to it, if any, and its own way to unwrap the body of a
successful response.
-/
namespace ControlPlane

structure PageInfo where
  page : UInt32 := 0
  perPage : UInt32 := 0
  totalPages : UInt32 := 0
  count : UInt32 := 0
  totalCount : UInt32 := 0
deriving DecidableEq

/-- The content of a response: a result, unless it was null or absent, and the place of a page. -/
structure Content where
  result : Option Json := none
  info : Option PageInfo := none

structure Peer where
  name : String
  authorization : List Http.Header
  unwrap : List UInt8 → Except Fault Content

structure Channel where
  peer : Peer
  base : Url
  timeout : Duration
  policy : Retry.Policy

/-- A call over a channel. `retryUnsafe` permits that a request which changes something is sent more
than once. -/
structure Call where
  method : String := "GET"
  path : String
  query : List (String × String) := []
  body : Option (List UInt8) := none
  retryUnsafe : Bool := false

def readBase (address : String) : Except Fault Url :=
  let text := Text.dropEndWhile (· = '/') (Text.trim address.toList)
  if text.isEmpty then .error (.config "base URL must not be empty")
  else
    match Url.parse text with
    | .ok url => .ok url
    | .error e =>
      .error (.config
        ("invalid base URL " ++ Text.quoted (String.ofList text) ++ ": " ++ e.message))

/-- A body to send, or the reason why it has no JSON text. -/
abbrev Body := Except String Json

def encodeBody (body : Body) : Except Fault (List UInt8) :=
  match body with
  | .ok v => .ok v.bytes
  | .error reason => .error (.encode ("marshal request body: " ++ reason))

namespace Channel

def make (peer : Peer) (address : String) (settings : Settings) : Except Fault Channel :=
  (readBase address).map fun base =>
    { peer, base, timeout := settings.timeout, policy := settings.policy.filled }

def url (channel : Channel) (path : String) (query : List (String × String)) : Url :=
  channel.base.join path.toList (query.map fun p => (p.1.toList, p.2.toList))

def contentType : Http.Header := ⟨"content-type", Text.utf8 "application/json".toList, false⟩

theorem withHeader_contentType {header : Http.Header} (other : header.name ≠ "content-type") :
    Http.withHeader [header] contentType = [header, contentType] := by
  simp [Http.withHeader, contentType, other]

def request (channel : Channel) (call : Call) : Http.Request :=
  { method := call.method
    url := channel.url call.path call.query
    headers := Http.withHeader channel.peer.authorization contentType
    body := call.body
    timeout := channel.timeout }

def decode {α : Type} (channel : Channel) (reader : Json.Reader α) (result : Json) :
    Except Fault α :=
  (Json.readValue reader result).mapError fun misfit =>
    .decode ("decode " ++ channel.peer.name ++ " result: " ++ misfit.message)

end Channel

end ControlPlane
