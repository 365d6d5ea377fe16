import ControlPlane.Fault
import ControlPlane.Retry
import ControlPlane.Text.Basic
/-!
Credentials of a cloud account. A backend answers for them; the issuer checks the region against a
fixed list, repeats questions whose faults are transient, and refuses answers that are blank where
they must not be.
-/
namespace ControlPlane.Credentials

def regions : List String :=
  ["us-east-1", "us-east-2", "us-west-2", "ca-central-1", "eu-west-1", "eu-west-2", "eu-central-1",
    "eu-north-1", "ap-southeast-1", "ap-southeast-2"]

def checkRegion (region : String) : Except Fault Unit :=
  if regions.contains region then .ok () else .error (.region region)

structure RoleRequest where
  role : String
  session : String
  duration : Option Duration := none
deriving DecidableEq

def RoleRequest.lasting (request : RoleRequest) (duration : Duration) : RoleRequest :=
  { request with duration := if duration.isZero then none else some duration }

def RoleRequest.check (request : RoleRequest) : Except Fault Unit :=
  if Text.blank request.role then .error (.validation "role ARN must not be empty")
  else if Text.blank request.session then .error (.validation "role session name must not be empty")
  else .ok ()

/-- Credentials that expire, at a time in nanoseconds since 1970. -/
structure Temporary where
  accessKeyId : String
  secretAccessKey : String
  sessionToken : String
  expiration : Option Int := none
deriving DecidableEq

def Temporary.isEmpty (c : Temporary) : Bool :=
  Text.blank c.accessKeyId || Text.blank c.secretAccessKey

inductive Question where
  | accountId
  | assumeRole (request : RoleRequest)
deriving DecidableEq

structure Backend (σ : Type) where
  account : Service σ Question (Except Fault String)
  role : Service σ Question (Except Fault Temporary)

/-- The front of a backend: a region that may be used and the policy for repeated questions. -/
structure Issuer where
  region : String
  policy : Retry.Policy

def defaultPolicy : Retry.Policy := { retries := some 4, jitter := true }

def Issuer.make (region : String) : Except Fault Issuer :=
  (checkRegion region).map fun _ => ⟨region, defaultPolicy.filled⟩

def Issuer.withPolicy (f : Issuer) (policy : Retry.Policy) : Issuer :=
  { f with policy := policy.filled }

abbrev Inquiry (σ α : Type) := Run σ Question Fault α

namespace Issuer

variable {σ : Type}

def accountId (f : Issuer) (env : Environment σ) (backend : Backend σ) (s : σ) : Inquiry σ String :=
  (Retry.run env .cancelled backend.account (fun _ => .accountId) Fault.mayPass f.policy
    s).mapOutcome fun outcome =>
      outcome.bind fun account =>
        let account := Text.trimmed account
        if account.isEmpty then .error (.decode "get caller identity returned empty account ID")
        else .ok account

def assumeRole (f : Issuer) (env : Environment σ) (backend : Backend σ) (request : RoleRequest)
    (s : σ) : Inquiry σ Temporary :=
  match request.check with
  | .error fault => .done (.error fault) s
  | .ok () =>
    (Retry.run env .cancelled backend.role (fun _ => .assumeRole request) Fault.mayPass f.policy
      s).mapOutcome fun outcome =>
        outcome.bind fun credentials =>
          if credentials.isEmpty then .error (.decode "assume role returned empty credentials")
          else .ok credentials

end Issuer

end ControlPlane.Credentials
