/-!
Punycode: a text of any characters as ASCII letters, digits and hyphens. The ASCII characters come
first, then a hyphen, then for every other character, in rising order, how far the insertion point
and the code point move on from the one before. Distances are written in base 36 with digit
thresholds that adapt to the distances seen so far.
-/
namespace ControlPlane.Url.Punycode

def digit (d : Nat) : Char :=
  if d < 26 then Char.ofNat ('a'.toNat + d) else Char.ofNat ('0'.toNat + (d - 26))

def value? (c : Char) : Option Nat :=
  if 'a' ≤ c && c ≤ 'z' then some (c.toNat - 'a'.toNat)
  else if 'A' ≤ c && c ≤ 'Z' then some (c.toNat - 'A'.toNat)
  else if '0' ≤ c && c ≤ '9' then some (c.toNat - '0'.toNat + 26)
  else none

/-- The threshold of digit number `k`, counted from zero, under a bias. -/
def threshold (k bias : Nat) : Nat :=
  min 26 (max 1 (36 * (k + 1) - bias))

theorem one_le_threshold (k bias : Nat) : 1 ≤ threshold k bias := by unfold threshold; omega

theorem threshold_le_last (k bias : Nat) : threshold k bias ≤ 26 := by unfold threshold; omega

def settle (k delta : Nat) : Nat :=
  if 455 < delta then settle (k + 36) (delta / 35) else k + 36 * delta / (delta + 38)
termination_by delta
decreasing_by omega

def adapt (delta count : Nat) (first : Bool) : Nat :=
  let delta := if first then delta / 700 else delta / 2
  settle 0 (delta + delta / count)

def digits (bias k q : Nat) : List Char :=
  let t := threshold k bias
  if q < t then [digit q]
  else digit (t + (q - t) % (36 - t)) :: digits bias (k + 1) ((q - t) / (36 - t))
termination_by q
decreasing_by
  have h := one_le_threshold k bias
  have h' := threshold_le_last k bias
  have : (q - threshold k bias) / (36 - threshold k bias) ≤ q - threshold k bias :=
    Nat.div_le_self _ _
  omega

/-- Where an encoding stands: what is written, the code point reached, the distance due, the
characters placed and the bias. -/
structure Writing where
  text : List Char
  point : Nat
  delta : Nat
  placed : Nat
  bias : Nat
  first : Bool

def Writing.pass (m : Nat) (w : Writing) (c : Char) : Writing :=
  if c.toNat < m then { w with delta := w.delta + 1 }
  else if c.toNat = m then
    { w with
      text := w.text ++ digits w.bias 0 w.delta
      delta := 0
      placed := w.placed + 1
      bias := adapt w.delta (w.placed + 1) w.first
      first := false }
  else w

def Writing.place (s : List Char) (w : Writing) (m : Nat) : Writing :=
  let w := s.foldl (Writing.pass m)
    { w with delta := w.delta + (m - w.point) * (w.placed + 1), point := m }
  { w with delta := w.delta + 1, point := m + 1 }

def pointsBeyond (s : List Char) : List Nat :=
  ((s.map Char.toNat).filter (128 ≤ ·)).mergeSort.eraseReps

def encode (s : List Char) : List Char :=
  let basic := s.filter (·.toNat < 128)
  let start := if basic.isEmpty then [] else basic ++ ['-']
  ((pointsBeyond s).foldl (Writing.place s) ⟨start, 128, 0, basic.length, 72, true⟩).text

/-- Where a decoding stands: the characters placed, the code point, the insertion point, the bias,
and the distance being read with its weight and digit number. -/
structure Reading where
  text : List Char
  point : Nat
  index : Nat
  bias : Nat
  delta : Nat
  weight : Nat
  digit : Nat
  first : Bool

def Reading.insert (r : Reading) : Option Reading :=
  let count := r.text.length + 1
  let point := r.point + (r.index + r.delta) / count
  let index := (r.index + r.delta) % count
  if h : point.isValidChar then
    some ⟨r.text.take index ++ Char.ofNatAux point h :: r.text.drop index, point, index + 1,
      adapt r.delta count r.first, 0, 1, 0, false⟩
  else none

/-- Distances and weights stay below this number; a text that goes beyond it writes nothing. -/
def ceiling : Nat := UInt32.size

def Reading.step (r : Reading) (c : Char) : Option Reading :=
  (value? c).bind fun d =>
    let t := threshold r.digit r.bias
    let r := { r with delta := r.delta + d * r.weight }
    if ceiling ≤ r.index + r.delta then none
    else if d < t then r.insert
    else if ceiling ≤ r.weight * (36 - t) then none
    else some { r with weight := r.weight * (36 - t), digit := r.digit + 1 }

/-- The text before the last hyphen, and the text after it. A hyphen that begins the text counts as
part of what comes after. -/
def atLastHyphen (s : List Char) : List Char × List Char :=
  let (tail, front) := s.reverse.span (· ≠ '-')
  match front.reverse.dropLast with
  | [] => ([], s)
  | basic => (basic, tail.reverse)

def decode? (s : List Char) : Option (List Char) :=
  let (basic, rest) := atLastHyphen s
  if basic.all (·.toNat < 128) then
    ((rest.foldlM Reading.step ⟨basic, 128, 0, 72, 0, 1, 0, true⟩).filter (·.digit = 0)).map
      Reading.text
  else none

end ControlPlane.Url.Punycode
