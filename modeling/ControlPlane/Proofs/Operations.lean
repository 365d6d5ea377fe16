import ControlPlane.Cloudflare.Applications
import ControlPlane.Vault.Client
/-!
The operations of the clients as values, so that a statement about all of them is one statement.
-/
namespace ControlPlane

namespace Cloudflare

/-- What a client of the control plane can be asked to do. The type is that of the answer. -/
inductive Operation : Type → Type 1 where
  | request {α : Type} (reader : Json.Reader α) (method endpoint : String)
      (query : List (String × String)) (body : Option Body) (retryUnsafe : Bool) :
      Operation (Option α)
  | get {α : Type} (reader : Json.Reader α) (endpoint : String) (query : List (String × String))
      (retryUnsafe : Bool) : Operation (Option α)
  | list {α : Type} (reader : Json.Reader α) (endpoint : String) (query : List (String × String))
      (retryUnsafe : Bool) : Operation (List α)
  | zones : Operation (List Zone)
  | zoneId (name : String) : Operation String
  | ownedRequest {α : Type} (reader : Json.Reader α) (owner : Owner) (method endpoint : String)
      (query : List (String × String)) (body : Option Body) (retryUnsafe : Bool) :
      Operation (Option α)
  | createIdentityProvider {α : Type} (reader : Json.Reader α) (account : String) (body : Body)
      (retryUnsafe : Bool) : Operation (Option α)
  | createApplication {α : Type} (reader : Json.Reader α) (owner : Owner) (body : Body)
      (retryUnsafe : Bool) : Operation (Option α)
  | createSharedPolicy {α : Type} (reader : Json.Reader α) (account : String) (body : Body)
      (retryUnsafe : Bool) : Operation (Option α)
  | createApplicationPolicy {α : Type} (reader : Json.Reader α) (owner : Owner)
      (application : String) (body : Body) (retryUnsafe : Bool) : Operation (Option α)

def Client.perform {σ : Type} (client : Client) {α : Type} (operation : Operation α)
    (wire : Wire σ) (s : σ) : Exchange σ α :=
  match operation with
  | .request reader method endpoint query body retryUnsafe =>
    client.request wire reader method endpoint query body retryUnsafe s
  | .get reader endpoint query retryUnsafe => client.get wire reader endpoint query retryUnsafe s
  | .list reader endpoint query retryUnsafe => client.list wire reader endpoint query retryUnsafe s
  | .zones => client.zones wire s
  | .zoneId name => client.zoneId wire name s
  | .ownedRequest reader owner method endpoint query body retryUnsafe =>
    client.ownedRequest wire reader owner method endpoint query body retryUnsafe s
  | .createIdentityProvider reader account body retryUnsafe =>
    client.createIdentityProvider wire reader account body retryUnsafe s
  | .createApplication reader owner body retryUnsafe =>
    client.createApplication wire reader owner body retryUnsafe s
  | .createSharedPolicy reader account body retryUnsafe =>
    client.createSharedPolicy wire reader account body retryUnsafe s
  | .createApplicationPolicy reader owner application body retryUnsafe =>
    client.createApplicationPolicy wire reader owner application body retryUnsafe s

end Cloudflare

namespace Vault

inductive Operation : Type → Type 1 where
  | read (mount path : String) (retryUnsafe : Bool) : Operation Secret
  | write (mount path : String) (fields : Body) (retryUnsafe : Bool) : Operation Unit

def Client.perform {σ : Type} (client : Client) {α : Type} (operation : Operation α)
    (wire : Wire σ) (s : σ) : Exchange σ α :=
  match operation with
  | .read mount path retryUnsafe => client.read wire mount path retryUnsafe s
  | .write mount path fields retryUnsafe => client.write wire mount path fields retryUnsafe s

end Vault

end ControlPlane
