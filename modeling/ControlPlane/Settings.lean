import ControlPlane.Double.Decimal
import ControlPlane.Retry
import ControlPlane.Text.Basic
/-!
Settings of a client, in milliseconds, and how they are read from named texts such as environment
variables. A text that is missing, blank or not in the wanted form leaves the default; no text makes
the reading fail.
-/
namespace ControlPlane

/-- Timeout and retry settings of a client; durations are in milliseconds. -/
structure Settings where
  timeoutMillis : UInt64 := 30000
  retries : UInt32 := 3
  baseMillis : UInt64 := 1000
  capMillis : UInt64 := 30000
  jitter : Bool := true
deriving DecidableEq

namespace Settings

def clamp64 (n : Nat) : UInt64 := UInt64.ofNat (min n (UInt64.size - 1))

/-- Milliseconds of a text in seconds: the double nearest to a thousand times the number, rounded
half up. Negative numbers, infinities and texts that write no number are refused. -/
def secondsToMillis (s : List Char) : Option UInt64 :=
  match Double.parse? s with
  | some (.finite negative units) =>
    if negative && units != 0 then none
    else some (clamp64 (Double.roundHalfUp (Double.mul units (Double.ofNat 1000)) Double.one))
  | _ => none

/-- Retries of a text: a negative number counts as zero, one beyond 32 bits as the largest. -/
def retriesOf (s : List Char) : Option UInt32 :=
  (Text.int64? s).map fun n => UInt32.ofNat (min n.toNat (UInt32.size - 1))

inductive Variable where
  | timeout
  | retries
  | base
  | cap

def Variable.suffix : Variable → String
  | .timeout => "TIMEOUT_SECONDS"
  | .retries => "MAX_RETRIES"
  | .base => "RETRY_BASE_DELAY_SECONDS"
  | .cap => "RETRY_MAX_DELAY_SECONDS"

def Variable.name (head : String) (v : Variable) : String := head ++ "_HTTP_" ++ v.suffix

def «variables» : List Variable := [.timeout, .retries, .base, .cap]

def text (head : String) (lookup : String → Option String) (v : Variable) : Option (List Char) :=
  ((lookup (v.name head)).map fun t => Text.trim t.toList).filter fun t => !t.isEmpty

def read (head : String) (lookup : String → Option String) : Settings :=
  let defaults : Settings := {}
  let millis (v : Variable) (fallback : UInt64) : UInt64 :=
    ((text head lookup v).bind secondsToMillis).getD fallback
  { timeoutMillis := millis .timeout defaults.timeoutMillis
    retries := ((text head lookup .retries).bind retriesOf).getD defaults.retries
    baseMillis := millis .base defaults.baseMillis
    capMillis := millis .cap defaults.capMillis
    jitter := defaults.jitter }

def timeout (s : Settings) : Duration :=
  Duration.ofMillis (if s.timeoutMillis = 0 then 30000 else s.timeoutMillis.toNat)

def policy (s : Settings) : Retry.Policy :=
  { retries := some s.retries
    base := Duration.ofMillis s.baseMillis.toNat
    cap := Duration.ofMillis s.capMillis.toNat
    jitter := s.jitter }

end Settings

end ControlPlane
