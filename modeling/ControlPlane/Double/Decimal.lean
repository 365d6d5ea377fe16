import ControlPlane.Double.Basic
import ControlPlane.Text.Basic
/-!
Doubles and decimal text, exactly. Read is the double nearest to the number written: the text is an
optional sign, digits with at most one point and at least one digit, and an optional exponent; or
one of the words for infinity and for not-a-number, in any case of letters. Written are the shortest
digits that read back. A decimal number reads back as the double if it lies in the interval of the
numbers that round to it; the ends belong to it where the significand is even. The grids of one
digit, two digits, and so on are searched in turn: the first grid with a number in the interval
gives the digits. Of two such numbers the nearer one is taken, of equally near ones the one with an
even last digit.
-/
namespace ControlPlane.Double

structure Scientific where
  digits : Nat
  exponent : Int

def exponentPart : List Char → Option Int
  | [] => some 0
  | c :: rest => if c = 'e' || c = 'E' then Text.integer? rest else none

def scientific? (s : List Char) : Option Scientific :=
  let (whole, rest) := Text.digitRun s
  let (part, rest) := match rest with
    | '.' :: rest => Text.digitRun rest
    | rest => ([], rest)
  if whole.isEmpty && part.isEmpty then none
  else (exponentPart rest).map fun e => ⟨Text.digitsValue (whole ++ part), e - part.length⟩

def lower (c : Char) : Char := c.toLower

def unsigned? (negative : Bool) (s : List Char) : Option Double :=
  let word := s.map lower
  if word = "inf".toList || word = "infinity".toList then some (.infinite negative)
  else if word = "nan".toList then some .nan
  else (scientific? s).map fun d => ofUnits negative (ofScientific d.digits d.exponent)

def parse? : List Char → Option Double
  | '-' :: rest => unsigned? true rest
  | '+' :: rest => unsigned? false rest
  | s => unsigned? false s

/-- The numbers that round to a magnitude, in quarters of a unit: from `low` to `high`, with the ends
if `closed`. -/
structure Interval where
  low : Nat
  high : Nat
  closed : Bool

/-- The interval of a positive magnitude. Below a power of two the neighbours are closer. -/
def interval (units : Nat) : Interval :=
  let s := spacing units
  let below := if units = Nat.pow 2 units.log2 && 1 < s then s else 2 * s
  ⟨4 * units - below, 4 * units + 2 * s, units / s % 2 = 0⟩

/-- The number `digits * 10 ^ exponent` in quarters of a unit, as a fraction. -/
def quarters (d : Scientific) : Nat × Nat :=
  if 0 ≤ d.exponent then (4 * d.digits * Nat.pow 10 d.exponent.toNat * one, 1)
  else (4 * d.digits * one, Nat.pow 10 (-d.exponent).toNat)

def Interval.holds (i : Interval) (d : Scientific) : Bool :=
  let (num, den) := quarters d
  if i.closed then i.low * den ≤ num && num ≤ i.high * den
  else i.low * den < num && num < i.high * den

def wholeDigits (units : Nat) : Int :=
  Int.ofNat (Nat.toDigits 10 (units * Nat.pow 10 400 / one)).length - 400

def neighbours (units : Nat) (exponent : Int) : Scientific × Scientific :=
  let below :=
    if 0 ≤ exponent then units / (one * Nat.pow 10 exponent.toNat)
    else units * Nat.pow 10 (-exponent).toNat / one
  (⟨below, exponent⟩, ⟨below + 1, exponent⟩)

def distance (units : Nat) (d : Scientific) : Nat :=
  let (num, den) := quarters d
  (num - 4 * units * den) + (4 * units * den - num)

def onGrid (units : Nat) (exponent : Int) : Option Scientific :=
  let (below, above) := neighbours units exponent
  let i := interval units
  match i.holds below, i.holds above with
  | true, false => some below
  | false, true => some above
  | false, false => none
  | true, true =>
    let b := distance units below
    let a := distance units above
    if b < a then some below
    else if a < b then some above
    else if below.digits % 2 = 0 then some below else some above

def stripZeros : Nat → Scientific → Scientific
  | 0, d => d
  | fuel + 1, d =>
    if d.digits % 10 = 0 && d.digits ≠ 0 then stripZeros fuel ⟨d.digits / 10, d.exponent + 1⟩ else d

/-- The fewest decimal digits that read back as a positive magnitude. Seventeen always do. -/
def shortest (units : Nat) : Scientific :=
  let top := wholeDigits units
  let found := (List.range 17).findSome? fun n => onGrid units (top - Int.ofNat (n + 1))
  stripZeros 20 (found.getD ⟨0, 0⟩)

end ControlPlane.Double
