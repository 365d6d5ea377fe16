import ControlPlane.Text.Basic
import ControlPlane.Url.Host
import ControlPlane.Url.Path
import ControlPlane.Url.Percent
/-!
Addresses with a path: a scheme, an authority where there is one, a path of segments, and an
optional query and fragment. Parts are kept as they are written, percent-encoded; the text of an
address is put together from them. An address without authority whose path begins with an empty
segment when it is read is written with `/.` before the path, so that the path is not taken for an
authority, and keeps that mark when another path takes the place of its own.
-/
namespace ControlPlane

namespace Url

structure Authority where
  user : List Char := []
  password : Option (List Char) := none
  host : Host
  port : Option Nat := none
deriving DecidableEq

def Authority.credentials (a : Authority) : List Char :=
  match a.user, a.password with
  | [], none => []
  | user, none => user ++ ['@']
  | user, some password => user ++ ':' :: password ++ ['@']

def Authority.text (a : Authority) : List Char :=
  a.credentials ++ a.host.text
    ++ (match a.port with
      | none => []
      | some port => ':' :: Nat.toDigits 10 port)

/-- How the parts of an address are read: a web scheme, the scheme of files, or any other one. -/
inductive Kind where
  | web
  | file
  | other
deriving DecidableEq

def kindOf (scheme : List Char) : Kind :=
  if ["http", "https", "ws", "wss", "ftp"].any (·.toList = scheme) then .web
  else if "file".toList = scheme then .file
  else .other

def Kind.special : Kind → Bool
  | .other => false
  | _ => true

def defaultPort? (scheme : List Char) : Option Nat :=
  if scheme = "http".toList || scheme = "ws".toList then some 80
  else if scheme = "https".toList || scheme = "wss".toList then some 443
  else if scheme = "ftp".toList then some 21
  else none

end Url

/-- An address with a path; `shielded` says that `/.` is written before the path. -/
structure Url where
  scheme : List Char
  authority : Option Url.Authority
  shielded : Bool := false
  path : List Url.Segment
  query : Option (List Char) := none
  fragment : Option (List Char) := none
deriving DecidableEq

namespace Url

def kind (u : Url) : Kind := kindOf u.scheme

def front (u : Url) : List Char :=
  match u.authority with
  | some a => u.scheme ++ ':' :: '/' :: '/' :: a.text
  | none => u.scheme ++ ':' :: if u.shielded then ['/', '.'] else []

def marked (mark : Char) : Option (List Char) → List Char
  | none => []
  | some text => mark :: text

def text (u : Url) : List Char :=
  u.front ++ pathText u.path ++ marked '?' u.query ++ marked '#' u.fragment

def pathOf (kind : Kind) (s : List Char) : List Segment :=
  match kind with
  | .file => (readFilePath s).1
  | kind => readPath kind.special s

def withPath (u : Url) (s : List Char) : Url :=
  { u with path := pathOf u.kind s }

def withPairs (u : Url) (pairs : List (List Char × List Char)) : Url :=
  if pairs.isEmpty then u
  else { u with query := some (appendPairs (u.query.getD []) pairs) }

/-- Path text of a base joined with a path: exactly one slash stands between them. -/
def joinedPath (base path : List Char) : List Char :=
  Text.dropEndWhile (· = '/') base ++ '/' :: path.dropWhile (· = '/')

def join (base : Url) (path : List Char) (pairs : List (List Char × List Char)) : Url :=
  (base.withPath (joinedPath (pathText base.path) path)).withPairs pairs

end Url

end ControlPlane
