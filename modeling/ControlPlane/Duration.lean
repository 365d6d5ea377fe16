import ControlPlane.Double.Basic
/-!
Durations: whole nanoseconds from zero to 2 ^ 64 seconds less one nanosecond. Sums saturate at the
longest duration; a product that would pass it is refused.
-/
namespace ControlPlane

structure Duration where
  nanos : Nat
  nanos_lt : nanos < 0x10000000000000000 * 1000000000
deriving DecidableEq

namespace Duration

def maxNanos : Nat := 0x10000000000000000 * 1000000000 - 1

def ofNanos (n : Nat) : Duration :=
  ⟨min n maxNanos, by unfold maxNanos; omega⟩

def ofSeconds (n : Nat) : Duration := ofNanos (n * 1000000000)

def ofMillis (n : Nat) : Duration := ofNanos (n * 1000000)

def zero : Duration := ⟨0, by decide⟩

def max : Duration := ofNanos maxNanos

def isZero (d : Duration) : Bool := d.nanos == 0

def orElse (d fallback : Duration) : Duration :=
  if d.isZero then fallback else d

def shorter (a b : Duration) : Duration :=
  if a.nanos ≤ b.nanos then a else b

def addSaturating (a b : Duration) : Duration := ofNanos (a.nanos + b.nanos)

def times? (d : Duration) (k : Nat) : Option Duration :=
  if h : d.nanos * k < 0x10000000000000000 * 1000000000 then some ⟨d.nanos * k, h⟩ else none

/-- The duration in seconds as a double magnitude: the whole seconds and the rest are rounded
apart, and their sum once more. -/
def secondsUnits (d : Duration) : Nat :=
  Double.add (Double.ofNat (d.nanos / 1000000000))
    (Double.div (Double.ofNat (d.nanos % 1000000000)) (Double.ofNat 1000000000))

/-- The duration times a double magnitude, to the nearest nanosecond, a tie to the even one. -/
def scale (d : Duration) (factor : Nat) : Duration :=
  ofNanos (Double.roundHalfEven (Double.mul factor d.secondsUnits * 1000000000) Double.one)

def millisCeil (d : Duration) : Nat := (d.nanos + 999999) / 1000000

end Duration

end ControlPlane
