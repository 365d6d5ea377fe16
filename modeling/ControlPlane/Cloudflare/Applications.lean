import ControlPlane.Cloudflare.Client
import ControlPlane.Cloudflare.Owner
/-!
Protected applications and what belongs to them: identity providers, applications, and the policies
that admit to them. Every one of these resources has an owner, and its path begins with the owner's.
Creating one is sent once, unless the caller permits more.
-/
namespace ControlPlane.Cloudflare.Client

variable {σ α : Type}

/-- Makes a request for resources of an owner. Owner and endpoint are checked before the body is
written. -/
def ownedRequest (client : Client) (wire : Wire σ) (reader : Json.Reader α) (owner : Owner)
    (method endpoint : String) (query : List (String × String)) (body : Option Body)
    (retryUnsafe : Bool) (s : σ) : Exchange σ (Option α) :=
  match owner.path with
  | .error fault => .done (.error fault) s
  | .ok path =>
    let endpoint := (Text.trim endpoint.toList).dropWhile (· = '/')
    if endpoint.isEmpty then .done (.error (.validation "access endpoint must not be empty")) s
    else
      client.request wire reader method ("/" ++ path ++ "/" ++ String.ofList endpoint) query body
        retryUnsafe s

def create (client : Client) (wire : Wire σ) (reader : Json.Reader α) (owner : Owner)
    (endpoint : String) (body : Body) (retryUnsafe : Bool) (s : σ) : Exchange σ (Option α) :=
  client.ownedRequest wire reader owner "POST" endpoint [] (some body) retryUnsafe s

def createIdentityProvider (client : Client) (wire : Wire σ) (reader : Json.Reader α)
    (account : String) (body : Body) (retryUnsafe : Bool) (s : σ) : Exchange σ (Option α) :=
  client.create wire reader (.account account) "/access/identity_providers" body retryUnsafe s

def createApplication (client : Client) (wire : Wire σ) (reader : Json.Reader α) (owner : Owner)
    (body : Body) (retryUnsafe : Bool) (s : σ) : Exchange σ (Option α) :=
  client.create wire reader owner "/access/apps" body retryUnsafe s

def createSharedPolicy (client : Client) (wire : Wire σ) (reader : Json.Reader α)
    (account : String) (body : Body) (retryUnsafe : Bool) (s : σ) : Exchange σ (Option α) :=
  client.create wire reader (.account account) "/access/policies" body retryUnsafe s

def createApplicationPolicy (client : Client) (wire : Wire σ) (reader : Json.Reader α)
    (owner : Owner) (application : String) (body : Body) (retryUnsafe : Bool) (s : σ) :
    Exchange σ (Option α) :=
  let id := Text.trim application.toList
  if id.isEmpty then .done (.error (.validation "app ID must not be empty")) s
  else
    client.create wire reader owner
      ("/access/apps/" ++ String.ofList (Url.escapeSegment id) ++ "/policies") body retryUnsafe s

end ControlPlane.Cloudflare.Client
