import ControlPlane.Channel.Pages
import ControlPlane.Cloudflare.Envelope
/-!
The client of the control plane. It authenticates with a bearer token and unwraps envelopes. Zones
are listed page by page, and the id of a zone is looked up by its name.
-/
namespace ControlPlane.Cloudflare

def publicAddress : String := "https://api.cloudflare.com/client/v4"

def tokenVariable : String := "CLOUDFLARE_API_TOKEN"

structure Zone where
  id : String
  name : String
deriving DecidableEq

def zoneRecord : Json.Record Zone :=
  { name := "Zone"
    start := ⟨"", ""⟩
    fields :=
      [.of "id" .string (fun id z => { z with id }) true,
        .of "name" .string (fun name z => { z with name }) true] }

def peer (token : String) : Except Fault Peer :=
  let token := Text.trimmed token
  if token.isEmpty then .error (.config "cloudflare API token must be provided")
  else
    match Http.headerValue? ("Bearer " ++ token) with
    | some value => .ok ⟨peerName, [⟨"authorization", value, true⟩], unwrap⟩
    | none => .error (.config "cloudflare API token contains invalid characters")

structure Client where
  channel : Channel

namespace Client

variable {σ α : Type}

def connect (address token : String) (settings : Settings) : Except Fault Client := do
  let peer ← peer token
  let channel ← Channel.make peer address settings
  return ⟨channel⟩

def connectPublic (token : String) (settings : Settings) : Except Fault Client :=
  connect publicAddress token settings

def fromVariables (lookup : String → Option String) : Except Fault Client :=
  let token := (lookup tokenVariable).getD ""
  if Text.blank token then .error (.config (tokenVariable ++ " is required"))
  else connectPublic token (Settings.read "CLOUDFLARE" lookup)

/-- Makes a request and reads the result of its answer. The body is written before anything is
sent. -/
def request (client : Client) (wire : Wire σ) (reader : Json.Reader α) (method endpoint : String)
    (query : List (String × String)) (body : Option Body) (retryUnsafe : Bool) (s : σ) :
    Exchange σ (Option α) :=
  match body.mapM encodeBody with
  | .error fault => .done (.error fault) s
  | .ok body =>
    client.channel.result wire reader { method, path := endpoint, query, body, retryUnsafe } s

def get (client : Client) (wire : Wire σ) (reader : Json.Reader α) (endpoint : String)
    (query : List (String × String)) (retryUnsafe : Bool) (s : σ) : Exchange σ (Option α) :=
  client.channel.result wire reader { path := endpoint, query, retryUnsafe } s

def list (client : Client) (wire : Wire σ) (reader : Json.Reader α) (endpoint : String)
    (query : List (String × String)) (retryUnsafe : Bool) (s : σ) : Exchange σ (List α) :=
  client.channel.pages wire reader endpoint query retryUnsafe s

def zones (client : Client) (wire : Wire σ) (s : σ) : Exchange σ (List Zone) :=
  client.list wire zoneRecord.read "/zones" [] false s

/-- The id of the first zone in the answer to a look-up by name. -/
def zoneId (client : Client) (wire : Wire σ) (name : String) (s : σ) : Exchange σ String :=
  let name := Text.trimmed name
  if name.isEmpty then .done (.error (.validation "zone name must not be empty")) s
  else
    (client.get wire (Json.Reader.list zoneRecord.read) "/zones" [("name", name)] false s).bind
      fun zones s =>
        match (zones.getD []).head? with
        | some zone => .done (.ok zone.id) s
        | none => .done (.error (.notFound "cloudflare zone" name)) s

end Client

end ControlPlane.Cloudflare
