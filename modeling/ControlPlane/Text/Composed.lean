import ControlPlane.Text.CombiningClass
import ControlPlane.Text.Composite
/-!
The composed form of a text, which is the same for all texts that are read alike. The text is opened
into bases and marks, marks between two bases are put in the order of their classes, and then every
base closes with the marks that are free to reach it. Korean syllables open and close by arithmetic.
-/
namespace ControlPlane.Text

def opened (n : Nat) : List Nat :=
  match covering? (fun e => (e.1, e.1)) composites n with
  | some (_, base, mark) => [base, mark]
  | none =>
    match covering? (fun e => (e.1, e.1)) looseComposites n with
    | some (_, base, mark) => [base, mark]
    | none =>
      match covering? (fun e => (e.1, e.2.1)) aliases n with
      | some (first, _, target) => [target + (n - first)]
      | none => [n]

/-- Letters of a Korean syllable: the first consonants, the vowels, and the last consonants, of which
one is none. -/
def syllable (n : Nat) : List Nat :=
  let place := n - 0xAC00
  let last := place % 28
  [0x1100 + place / 588, 0x1161 + place % 588 / 28] ++ if last = 0 then [] else [0x11A7 + last]

/-- The points that a point opens into at last. No point opens in more than three steps. -/
def decomposed (n : Nat) : List Nat :=
  if n < 0x80 then [n]
  else if 0xAC00 ≤ n && n ≤ 0xD7A3 then syllable n
  else ((opened n).flatMap opened).flatMap opened

/-- The points with the marks after each base in the order of their classes; marks of one class keep
theirs. A base has the lowest class, so it stays in front. -/
def inClassOrder (s : List Nat) : List Nat :=
  (s.splitBy fun _ n => combiningClass n ≠ 0).flatMap fun part =>
    part.mergeSort fun m n => combiningClass m ≤ combiningClass n

/-- The point that two points close to. No composite has a mark below U+0300. -/
def closed? (a b : Nat) : Option Nat :=
  if b < 0x300 then none
  else if 0x1100 ≤ a && a < 0x1113 && 0x1161 ≤ b && b < 0x1176 then
    some (0xAC00 + (a - 0x1100) * 588 + (b - 0x1161) * 28)
  else if 0xAC00 ≤ a && a ≤ 0xD7A3 && (a - 0xAC00) % 28 = 0 && 0x11A7 < b && b < 0x11C3 then
    some (a + (b - 0x11A7))
  else (composites.find? fun e => e.2.1 = a && e.2.2 = b).map fun e => e.1

/-- Where a composition stands: what is written, backwards, the last base, and the marks since, also
backwards. -/
structure Composing where
  written : List Nat := []
  base : Option Nat := none
  marks : List Nat := []

def Composing.flushed (c : Composing) : List Nat := c.marks ++ c.base.toList ++ c.written

/-- A mark of the same or a higher class stands between the base and a point of class `k`. -/
def Composing.blocks (c : Composing) (k : Nat) : Bool :=
  c.marks.head?.any fun m => k ≤ combiningClass m

def Composing.take (c : Composing) (n : Nat) : Composing :=
  let k := combiningClass n
  match (if c.blocks k then none else c.base.bind (closed? · n)) with
  | some composite => { c with base := some composite }
  | none =>
    if k = 0 then { written := c.flushed, base := some n }
    else { c with marks := n :: c.marks }

def composedPoints (s : List Nat) : List Nat :=
  (s.foldl Composing.take {}).flushed.reverse

def composed (s : List Char) : List Char :=
  if s.all (·.toNat < 0x80) then s
  else (composedPoints (inClassOrder ((s.map Char.toNat).flatMap decomposed))).map Char.ofNat

end ControlPlane.Text
