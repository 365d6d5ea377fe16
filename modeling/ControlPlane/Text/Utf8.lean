/-!
UTF-8 between characters and bytes. Reading is one machine over the bytes: it yields a character
for each well-formed sequence and a gap for each ill-formed part, a part being the longest start of
a sequence that some character has. The lenient reading writes U+FFFD for a gap, the strict one
refuses. An ASCII byte never belongs to a gap, so delimiters stay visible in broken text.
-/
namespace ControlPlane.Text

def utf8 (s : List Char) : List UInt8 := s.flatMap String.utf8EncodeChar

/-- A sequence begun: bytes still owed, the range of the next one, and the bits so far. -/
structure Partial where
  owed : Nat
  low : Nat
  high : Nat
  bits : Nat

inductive Lead where
  | whole (c : Char)
  | begun (p : Partial)
  | broken

def lead (b : Nat) : Lead :=
  if b < 0x80 then .whole (Char.ofNat b)
  else if b < 0xC2 then .broken
  else if b < 0xE0 then .begun ⟨1, 0x80, 0xBF, b - 0xC0⟩
  else if b = 0xE0 then .begun ⟨2, 0xA0, 0xBF, 0⟩
  else if b = 0xED then .begun ⟨2, 0x80, 0x9F, 0xD⟩
  else if b < 0xF0 then .begun ⟨2, 0x80, 0xBF, b - 0xE0⟩
  else if b = 0xF0 then .begun ⟨3, 0x90, 0xBF, 0⟩
  else if b < 0xF4 then .begun ⟨3, 0x80, 0xBF, b - 0xF0⟩
  else if b = 0xF4 then .begun ⟨3, 0x80, 0x8F, 4⟩
  else .broken

def fromLead (b : Nat) (next : Option Partial → List (Option Char)) : List (Option Char) :=
  match lead b with
  | .whole c => some c :: next none
  | .begun p => next (some p)
  | .broken => none :: next none

/-- The characters of the bytes, after a sequence begun; an ill-formed part gives `none`. -/
def readFrom : Option Partial → List UInt8 → List (Option Char)
  | none, [] => []
  | some _, [] => [none]
  | none, b :: rest => fromLead b.toNat fun q => readFrom q rest
  | some p, b :: rest =>
    if p.low ≤ b.toNat && b.toNat ≤ p.high then
      let bits := p.bits * 64 + (b.toNat - 0x80)
      if p.owed = 1 then some (Char.ofNat bits) :: readFrom none rest
      else readFrom (some ⟨p.owed - 1, 0x80, 0xBF, bits⟩) rest
    else none :: fromLead b.toNat fun q => readFrom q rest

def characters (bytes : List UInt8) : List (Option Char) := readFrom none bytes

def lenient (bytes : List UInt8) : List Char :=
  (characters bytes).map fun c => c.getD (Char.ofNat 0xFFFD)

def strict (bytes : List UInt8) : Option (List Char) :=
  (characters bytes).mapM id

end ControlPlane.Text
