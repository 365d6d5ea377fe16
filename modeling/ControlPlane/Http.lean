import ControlPlane.Duration
import ControlPlane.HttpDate
import ControlPlane.Text.Basic
import ControlPlane.Text.Utf8
import ControlPlane.Url.Basic
/-!
Requests and responses of HTTP, as far as clients build and look at them. A header value is a run of
bytes without controls other than the tab. A response may ask for a wait: a whole number of seconds
or a date. A number that is not positive and a date in the past ask for no wait at all; any other
text asks for nothing.
-/
namespace ControlPlane.RetryAfter

def waitUntil (second : Nat) (now : Int) : Duration :=
  Duration.ofNanos (second * 1000000000 - now).toNat

def parse? (value : List Char) (now : Int) : Option Duration :=
  let s := Text.trim value
  match Text.int64? s with
  | some n => some (Duration.ofSeconds n.toNat)
  | none => (HttpDate.parse? s).map fun second => waitUntil second now

end ControlPlane.RetryAfter

namespace ControlPlane.Http

/-- A header. A sensitive one must not be shown. -/
structure Header where
  name : String
  value : List UInt8
  sensitive : Bool := false
deriving DecidableEq

/-- The headers with one more put in place of all of its name. -/
def withHeader (headers : List Header) (header : Header) : List Header :=
  headers.filter (fun other => other.name ≠ header.name) ++ [header]

def isValueByte (b : UInt8) : Bool := b = 9 || (32 ≤ b.toNat && b.toNat ≠ 127)

def headerValue? (s : String) : Option (List UInt8) :=
  (some (Text.utf8 s.toList)).filter fun bytes => bytes.all isValueByte

def isVisibleByte (b : UInt8) : Bool := b = 9 || (32 ≤ b.toNat && b.toNat < 127)

def visibleText? (value : List UInt8) : Option (List Char) :=
  if value.all isVisibleByte then some (value.map fun b => Char.ofNat b.toNat) else none

/-- A request; `timeout` bounds a single attempt to answer it. -/
structure Request where
  method : String
  url : Url
  headers : List Header
  body : Option (List UInt8)
  timeout : Duration
deriving DecidableEq

/-- A response whose body has been read to its end. Header names are in small letters. -/
structure Response where
  status : Nat := 200
  headers : List Header := []
  body : List UInt8 := []
deriving DecidableEq

def isSafeMethod (method : String) : Bool :=
  method = "GET" || method = "HEAD" || method = "OPTIONS" || method = "TRACE"

namespace Response

def isSuccess (r : Response) : Bool := 200 ≤ r.status && r.status < 300

def text (r : Response) : String := String.ofList (Text.lenient r.body)

def header? (r : Response) (name : String) : Option Header :=
  r.headers.find? fun h => h.name = name

def retryAfter (r : Response) (now : Int) : Option Duration :=
  ((r.header? "retry-after").bind fun h => visibleText? h.value).bind fun text =>
    RetryAfter.parse? text now

end Response

end ControlPlane.Http
