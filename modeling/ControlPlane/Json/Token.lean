import ControlPlane.Json.Basic
import ControlPlane.Text.Basic
import ControlPlane.Text.Utf8
/-!
The tokens of a JSON text, and what its numerals mean. A numeral without fraction and exponent is an
integer if it fits 64 bits; a zero with a minus is a double. For every other numeral the digits are
gathered into a whole number of 64 bits as long as they fit; digits of the whole part that do not
fit still count for the exponent, digits of the fraction that do not fit are dropped. The number
gathered is rounded to a double and then multiplied or divided, with one more rounding, by a power
of ten. A numeral beyond the doubles, and a string whose form is right but whose content is none (a
lone surrogate, bytes that are no characters), are tokens without content: what skips them does not
mind, what reads them refuses them. After the first place where no token stands there is one broken
token and nothing more.
-/
namespace ControlPlane.Json

structure Numeral where
  negative : Bool
  whole : List Nat
  fraction : Option (List Nat)
  exponent : Option Int

def digitsNumber (digits : List Nat) : Nat := digits.foldl (fun n d => n * 10 + d) 0

/-- A number gathered from digits, and how many digits were dropped or taken. -/
structure Gathered where
  digits : Nat := 0
  count : Nat := 0

/-- Gathers the digits of a whole part; from the first one that does not fit on, digits are counted
and dropped. -/
def gatherWhole (g : Gathered) : List Nat → Gathered
  | [] => g
  | d :: rest =>
    if g.count = 0 && g.digits * 10 + d < UInt64.size then gatherWhole ⟨g.digits * 10 + d, 0⟩ rest
    else ⟨g.digits, g.count + (rest.length + 1)⟩

/-- Gathers and counts the digits of a fraction up to the first one that does not fit. -/
def gatherFraction (g : Gathered) : List Nat → Gathered
  | [] => g
  | d :: rest =>
    if g.digits * 10 + d < UInt64.size then gatherFraction ⟨g.digits * 10 + d, g.count + 1⟩ rest else g

def tenTo (n : Nat) : Nat := Double.ofNat (Nat.pow 10 n)

def largestPower : Nat := 308

/-- A magnitude divided by a power of ten, in steps of at most `largestPower`; three steps leave
nothing of the largest number of 64 bits. -/
def divideByTenTo : (steps : Nat) → (units power : Nat) → Nat
  | 0, _, _ => 0
  | steps + 1, units, power =>
    if largestPower < power then
      divideByTenTo steps (Double.div units (tenTo largestPower)) (power - largestPower)
    else Double.div units (tenTo power)

def scaleByTen (digits : Nat) (exponent : Int) : Option Nat :=
  if digits = 0 then some 0
  else if exponent < 0 then some (divideByTenTo 4 (Double.ofNat digits) (-exponent).toNat)
  else if largestPower < exponent.toNat then none
  else
    let units := Double.mul (Double.ofNat digits) (tenTo exponent.toNat)
    if units < Double.limit then some units else none

def Numeral.double? (n : Numeral) : Option Number :=
  let whole := gatherWhole {} n.whole
  let all := gatherFraction ⟨whole.digits, 0⟩ (n.fraction.getD [])
  (scaleByTen all.digits (n.exponent.getD 0 + whole.count - all.count)).map
    (.double n.negative)

def Numeral.number? (n : Numeral) : Option Number :=
  let value := digitsNumber n.whole
  if n.fraction.isSome || n.exponent.isSome then n.double?
  else if n.negative then
    if 0 < value && value ≤ 0x8000000000000000 then some (.integer (-value)) else n.double?
  else if value < UInt64.size then some (.integer value)
  else n.double?

inductive Token where
  | openArray
  | closeArray
  | openObject
  | closeObject
  | comma
  | colon
  | null
  | bool (b : Bool)
  | number (n : Option Number)
  | string (s : Option String)
  | broken
deriving DecidableEq

/-- A piece of a string: a character, a unit of sixteen bits, or bytes that are no character. -/
inductive Piece where
  | char (c : Char)
  | unit (n : Nat)
  | gap

def hexDigit? (c : Char) : Option Nat :=
  if '0' ≤ c && c ≤ '9' then some (c.toNat - '0'.toNat)
  else if 'a' ≤ c && c ≤ 'f' then some (c.toNat - 'a'.toNat + 10)
  else if 'A' ≤ c && c ≤ 'F' then some (c.toNat - 'A'.toNat + 10)
  else none

def unit? (digits : List Char) : Option Nat :=
  digits.foldlM (fun n c => (hexDigit? c).map fun d => n * 16 + d) 0

def escaped? : Char → Option Char
  | '"' => some '"'
  | '\\' => some '\\'
  | '/' => some '/'
  | 'b' => some '\x08'
  | 'f' => some '\x0c'
  | 'n' => some '\n'
  | 'r' => some '\r'
  | 't' => some '\t'
  | _ => none

def pieces : List (Option Char) → Option (List Piece × List (Option Char))
  | [] => none
  | none :: rest => (pieces rest).map fun p => (.gap :: p.1, p.2)
  | some '"' :: rest => some ([], rest)
  | some '\\' :: some 'u' :: some a :: some b :: some c :: some d :: rest =>
    (unit? [a, b, c, d]).bind fun n => (pieces rest).map fun p => (.unit n :: p.1, p.2)
  | some '\\' :: some e :: rest =>
    (escaped? e).bind fun c => (pieces rest).map fun p => (.char c :: p.1, p.2)
  | some c :: rest =>
    if c = '\\' || c.toNat < 0x20 then none
    else (pieces rest).map fun p => (.char c :: p.1, p.2)

def isHigh (n : Nat) : Bool := 0xD800 ≤ n && n < 0xDC00

def isLow (n : Nat) : Bool := 0xDC00 ≤ n && n < 0xE000

def joinPieces : List Piece → Option (List Char)
  | [] => some []
  | .char c :: rest => (joinPieces rest).map (c :: ·)
  | .gap :: _ => none
  | .unit h :: .unit l :: rest =>
    if isHigh h && isLow l then
      (joinPieces rest).map (Char.ofNat (0x10000 + (h - 0xD800) * 0x400 + (l - 0xDC00)) :: ·)
    else if isHigh h || isLow h then none
    else (joinPieces (.unit l :: rest)).map (Char.ofNat h :: ·)
  | .unit n :: rest =>
    if isHigh n || isLow n then none else (joinPieces rest).map (Char.ofNat n :: ·)

def digitRun : List (Option Char) → List Nat × List (Option Char)
  | some c :: rest =>
    match Text.digit? c with
    | some d => (d :: (digitRun rest).1, (digitRun rest).2)
    | none => ([], some c :: rest)
  | s => ([], s)

def wholePart (s : List (Option Char)) : Option (List Nat × List (Option Char)) :=
  match digitRun s with
  | ([], _) => none
  | (0 :: _ :: _, _) => none
  | run => some run

def fractionPart : List (Option Char) → Option (Option (List Nat) × List (Option Char))
  | some '.' :: rest =>
    match digitRun rest with
    | ([], _) => none
    | (digits, rest) => some (some digits, rest)
  | s => some (none, s)

def exponentPart (s : List (Option Char)) : Option (Option Int × List (Option Char)) :=
  let signed (negative : Bool) (rest : List (Option Char)) :=
    match digitRun rest with
    | ([], _) => none
    | (digits, rest) =>
      let n := Int.ofNat (digitsNumber digits)
      some (some (if negative then -n else n), rest)
  match s with
  | some c :: rest =>
    if c = 'e' || c = 'E' then
      match rest with
      | some '+' :: rest => signed false rest
      | some '-' :: rest => signed true rest
      | rest => signed false rest
    else some (none, some c :: rest)
  | s => some (none, s)

def numeral? (s : List (Option Char)) : Option (Numeral × List (Option Char)) := do
  let (negative, s) := match s with
    | some '-' :: rest => (true, rest)
    | s => (false, s)
  let (whole, s) ← wholePart s
  let (fraction, s) ← fractionPart s
  let (exponent, s) ← exponentPart s
  return (⟨negative, whole, fraction, exponent⟩, s)

def isSpace (c : Char) : Bool := c = ' ' || c = '\t' || c = '\n' || c = '\r'

def token? : List (Option Char) → Option (Token × List (Option Char))
  | some '[' :: rest => some (.openArray, rest)
  | some ']' :: rest => some (.closeArray, rest)
  | some '\x7b' :: rest => some (.openObject, rest)
  | some '\x7d' :: rest => some (.closeObject, rest)
  | some ',' :: rest => some (.comma, rest)
  | some ':' :: rest => some (.colon, rest)
  | some 'n' :: some 'u' :: some 'l' :: some 'l' :: rest => some (.null, rest)
  | some 't' :: some 'r' :: some 'u' :: some 'e' :: rest => some (.bool true, rest)
  | some 'f' :: some 'a' :: some 'l' :: some 's' :: some 'e' :: rest => some (.bool false, rest)
  | some '"' :: rest =>
    (pieces rest).map fun p => (.string ((joinPieces p.1).map String.ofList), p.2)
  | s => (numeral? s).map fun p => (.number p.1.number?, p.2)

/-- The tokens of a text; `fuel` is at least its length. -/
def tokensWith : (fuel : Nat) → List (Option Char) → List Token
  | 0, _ => []
  | _ + 1, [] => []
  | fuel + 1, some c :: rest =>
    if isSpace c then tokensWith fuel rest
    else
      match token? (some c :: rest) with
      | some (token, rest) => token :: tokensWith fuel rest
      | none => [.broken]
  | _ + 1, none :: _ => [.broken]

def tokens (bytes : List UInt8) : List Token :=
  let text := Text.characters bytes
  tokensWith text.length text

end ControlPlane.Json
