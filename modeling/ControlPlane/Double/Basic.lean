/-!
Doubles (IEEE 754 binary64) as exact numbers. A finite double is a sign and a count of units of
2 ^ -1074, the smallest positive double, so that every operation is one of natural numbers followed
by one rounding. Rounding goes to the nearest double and a tie to the even significand.
-/
namespace ControlPlane

/-- A double: not a number, an infinity, or a sign with a whole count of units of 2 ^ -1074. -/
inductive Double where
  | nan
  | infinite (negative : Bool)
  | finite (negative : Bool) (units : Nat)
deriving DecidableEq

namespace Double

def one : Nat := Nat.pow 2 1074

def limit : Nat := Nat.pow 2 2098

/-- The whole number nearest to `num / den`; a tie goes to the even one. -/
def roundHalfEven (num den : Nat) : Nat :=
  let q := num / den
  let r := 2 * (num % den)
  if r < den then q
  else if den < r then q + 1
  else q + q % 2

def roundHalfUp (num den : Nat) : Nat :=
  (2 * num + den) / (2 * den)

/-- Distance, in units, between neighbouring doubles around a value whose whole part is `q` units. -/
def spacing (q : Nat) : Nat :=
  if q < Nat.pow 2 53 then 1 else Nat.pow 2 (q.log2 - 52)

/-- The value of `num / den` units, rounded to a count of units that a double can hold. -/
def round (num den : Nat) : Nat :=
  let s := spacing (num / den)
  roundHalfEven num (den * s) * s

def ofNat (n : Nat) : Nat := round (n * one) 1

def add (a b : Nat) : Nat := round (a + b) 1

def mul (a b : Nat) : Nat := round (a * b) one

def div (a b : Nat) : Nat := round (a * one) b

def ofUnits (negative : Bool) (units : Nat) : Double :=
  if units < limit then .finite negative units else .infinite negative

/-- Units of a magnitude written as `digits * 10 ^ exponent`, correctly rounded. The two outer cases
only keep the numbers small: what lies beyond them rounds to an infinity or to zero anyway. -/
def ofScientific (digits : Nat) (exponent : Int) : Nat :=
  let top : Int := (Nat.toDigits 10 digits).length + exponent
  if digits = 0 then 0
  else if 400 < top then limit
  else if top < -400 then 0
  else if 0 ≤ exponent then round (digits * Nat.pow 10 exponent.toNat * one) 1
  else round (digits * one) (Nat.pow 10 (-exponent).toNat)

end Double

end ControlPlane
