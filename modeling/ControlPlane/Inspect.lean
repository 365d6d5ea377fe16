import ControlPlane.Cloudflare.Client
import ControlPlane.Credentials
import ControlPlane.Vault.Client
/-!
Descriptions of clients, policies, credentials and faults for the eye of a maintainer. A record is
described by its name and its fields, with two dots where fields are left out. What is secret is
never part of a description: a description shows where a token or a key is, not what it is.
-/
namespace ControlPlane.Inspect

/-- A record with its fields; `more` says that others are left out. -/
def record (name : String) (fields : List (String × String)) (more : Bool) : String :=
  let shown := fields.map (fun f => f.1 ++ ": " ++ f.2) ++ (if more then [".."] else [])
  name ++ " \x7b " ++ ", ".intercalate shown ++ " \x7d"

def redacted : String := Text.quoted "<redacted>"

def optional : Option String → String
  | none => "None"
  | some s => "Some(" ++ s ++ ")"

def bool (b : Bool) : String := if b then "true" else "false"

/-- Whole units and a fraction of `width` digits, without the zeros at its end. -/
def fraction (whole part width : Nat) : String :=
  let digits := Nat.toDigits 10 part
  let padded := List.replicate (width - digits.length) '0' ++ digits
  let shown := Text.dropEndWhile (· = '0') padded
  toString whole ++ (if shown.isEmpty then "" else "." ++ String.ofList shown)

def duration (d : Duration) : String :=
  let n := d.nanos
  if 1000000000 ≤ n then fraction (n / 1000000000) (n % 1000000000) 9 ++ "s"
  else if 1000000 ≤ n then fraction (n / 1000000) (n % 1000000) 6 ++ "ms"
  else if 1000 ≤ n then fraction (n / 1000) (n % 1000) 3 ++ "µs"
  else toString n ++ "ns"

def time (nanos : Int) : String :=
  record "SystemTime"
    [("tv_sec", toString (Int.fdiv nanos 1000000000)),
      ("tv_nsec", toString (Int.fmod nanos 1000000000))] false

def policy (p : Retry.Policy) : String :=
  record "RetryPolicy"
    [("max_retries", optional (p.retries.map fun n => toString n.toNat)),
      ("base_delay", duration p.base), ("max_delay", duration p.cap), ("jitter", bool p.jitter)]
    false

def retries (p : Retry.Policy) : String := record "Retrier" [("policy", policy p)] true

def channel (c : Channel) : String :=
  record "Pipeline"
    [("provider", Text.quoted c.peer.name),
      ("base_url", Text.quoted (String.ofList c.base.text)), ("timeout", duration c.timeout),
      ("retrier", retries c.policy)] true

def controlPlaneAccess : String := record "CloudflareApi" [("authorization", redacted)] false

def controlPlane (c : Cloudflare.Client) : String :=
  record "CloudflareClient" [("pipeline", channel c.channel)] false

def applications (c : Cloudflare.Client) : String :=
  record "AccessService" [("client", controlPlane c)] false

def secretStoreAccess : String := record "VaultApi" [("token", redacted)] false

def secretStore (c : Vault.Client) : String :=
  record "VaultClient" [("pipeline", channel c.channel)] false

def issuer (f : Credentials.Issuer) : String :=
  record "CredentialFactory" [("region", Text.quoted f.region), ("retrier", retries f.policy)] true

def credentials (c : Credentials.Temporary) : String :=
  record "TemporaryCredentials"
    [("access_key_id", Text.quoted c.accessKeyId), ("secret_access_key", redacted),
      ("session_token", redacted), ("expiration", optional (c.expiration.map time))] false

def apiError (e : ApiError) : String :=
  record "ApiErrorItem" [("code", toString e.code), ("message", Text.quoted e.message)] false

def fault : Fault → String
  | .config text => "Config(" ++ Text.quoted text ++ ")"
  | .validation text => "Validation(" ++ Text.quoted text ++ ")"
  | .region name => "InvalidRegion(" ++ Text.quoted name ++ ")"
  | .transport provider source =>
    record "Transport" [("provider", Text.quoted provider), ("source", Text.quoted source)] false
  | .status provider code body =>
    record "Status"
      [("provider", Text.quoted provider), ("status", toString code), ("body", Text.quoted body)]
      false
  | .api provider errors =>
    record "Api"
      [("provider", Text.quoted provider), ("message", Text.quoted (ApiError.describe errors)),
        ("errors", "[" ++ ", ".intercalate (errors.map apiError) ++ "]")] false
  | .notFound resource name =>
    record "NotFound" [("resource", Text.quoted resource), ("name", Text.quoted name)] false
  | .cancelled => "Cancelled"
  | .encode text => "Encode(" ++ Text.quoted text ++ ")"
  | .decode text => "Decode(" ++ Text.quoted text ++ ")"

end ControlPlane.Inspect
