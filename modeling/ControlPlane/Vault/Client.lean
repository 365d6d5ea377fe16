import ControlPlane.Channel.Send
/-!
The client of the secret store. A secret is a set of named fields that stands at a path of a mount;
the store keeps versions of it, and the latest one is read. Blanks and slashes around a mount or a
path do not count.
-/
namespace ControlPlane.Vault

abbrev Secret := List (String × Json)

def peerName : String := "vault"

def addressVariable : String := "VAULT_ADDR"

def tokenVariable : String := "VAULT_TOKEN"

def isBlankByte (b : UInt8) : Bool := b = 9 || b = 10 || b = 12 || b = 13 || b = 32

/-- Unwraps the body of a response of the 200 class: the whole value is the result. A blank body has
none. -/
def unwrap (body : List UInt8) : Except Fault Content :=
  if body.all isBlankByte then .ok {}
  else
    match Json.readText Json.Reader.any body with
    | .error misfit => .error (.decode ("decode vault response: " ++ misfit.message))
    | .ok .null => .ok {}
    | .ok v => .ok { result := some v }

def peer (token : List UInt8) : Peer :=
  ⟨peerName, [⟨"x-vault-token", token, true⟩], unwrap⟩

def dataRecord : Json.Record (Option Secret) :=
  { name := "ReadData"
    start := none
    fields := [.of "data" (.optional .members) fun secret _ => secret] }

def answerRecord : Json.Record (Option Secret) :=
  { name := "ReadResponse"
    start := none
    fields := [.of "data" (.optional dataRecord.read) fun data _ => data.join] }

def clean (s : String) : List Char := Text.stripWhile (· = '/') (Text.trim s.toList)

def secretPath (mount path : String) : Except Fault String :=
  let mount := clean mount
  let path := clean path
  if mount.isEmpty then .error (.validation "secrets engine must not be empty")
  else if path.isEmpty then .error (.validation "secret path must not be empty")
  else .ok (String.ofList ("/v1/".toList ++ mount ++ "/data/".toList ++ path))

structure Client where
  channel : Channel

namespace Client

variable {σ : Type}

def connect (address token : String) (settings : Settings) : Except Fault Client :=
  let token := Text.trimmed token
  if Text.blank address then .error (.config (addressVariable ++ " is required"))
  else if token.isEmpty then .error (.config (tokenVariable ++ " is required"))
  else
    match Http.headerValue? token with
    | none => .error (.config (tokenVariable ++ " contains invalid characters"))
    | some value => (Channel.make (peer value) address settings).map Client.mk

def fromVariables (lookup : String → Option String) : Except Fault Client :=
  connect ((lookup addressVariable).getD "") ((lookup tokenVariable).getD "")
    (Settings.read "VAULT" lookup)

/-- Writes a secret. The body is written before anything is sent, and the answer's body does not
matter. -/
def write (client : Client) (wire : Wire σ) (mount path : String) (fields : Body)
    (retryUnsafe : Bool) (s : σ) : Exchange σ Unit :=
  let prepared := do
    let path ← secretPath mount path
    let body ← encodeBody (fields.map fun v => .object [("data", v)])
    return (path, body)
  match prepared with
  | .error fault => .done (.error fault) s
  | .ok (path, body) =>
    (client.channel.send wire { method := "POST", path, body := some body, retryUnsafe }
      s).bind fun _ s => .done (.ok ()) s

/-- A path that holds no secret is not found, rather than an unexpected status. -/
def missing (name : String) (fault : Fault) : Fault :=
  if fault.statusCode = some 404 then .notFound "vault secret" name else fault

def read (client : Client) (wire : Wire σ) (mount path : String) (retryUnsafe : Bool) (s : σ) :
    Exchange σ Secret :=
  match secretPath mount path with
  | .error fault => .done (.error fault) s
  | .ok endpoint =>
    let name := String.ofList (clean path)
    (client.channel.result wire answerRecord.read { path := endpoint, retryUnsafe } s).mapOutcome
      fun outcome =>
        match outcome with
        | .error fault => .error (missing name fault)
        | .ok answer =>
          match answer.join with
          | some secret => .ok secret
          | none =>
            .error (.decode ("vault response missing secret data at path: " ++ name))

end Client

end ControlPlane.Vault
