import ControlPlane.Fault
import ControlPlane.Text.Basic
import ControlPlane.Text.Printable
import ControlPlane.Url.Path
/-!
Owners of resources: an account or a zone and its id. The path of an owner is its kind and its id;
the id is escaped, so that it stays one segment whatever characters it holds.
-/
namespace ControlPlane.Cloudflare

inductive OwnerKind where
  | account
  | zone
deriving DecidableEq

def OwnerKind.text : OwnerKind → String
  | .account => "accounts"
  | .zone => "zones"

def OwnerKind.parse (s : String) : Except Fault OwnerKind :=
  let kind := Text.trimmed s
  if kind = "accounts" then .ok .account
  else if kind = "zones" then .ok .zone
  else .error (.validation ("unsupported scope kind: " ++ Text.quoted kind))

structure Owner where
  kind : OwnerKind
  id : String
deriving DecidableEq

namespace Owner

def make (kind : OwnerKind) (id : String) : Owner := ⟨kind, Text.trimmed id⟩

def account (id : String) : Owner := make .account id

def zone (id : String) : Owner := make .zone id

def parse (kind id : String) : Except Fault Owner :=
  (OwnerKind.parse kind).map fun kind => make kind id

def path (owner : Owner) : Except Fault String :=
  let id := Text.trim owner.id.toList
  if id.isEmpty then
    .error (.validation ("scope ID must not be empty for " ++ Text.quoted owner.kind.text))
  else .ok (owner.kind.text ++ "/" ++ String.ofList (Url.escapeSegment id))

end Owner

end ControlPlane.Cloudflare
