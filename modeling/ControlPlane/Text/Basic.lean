/-!
Texts as lists of characters: the blanks at their ends, their parts between separators, and the
whole numbers that decimal digits write. Properties of characters are kept in tables of code points.
-/
namespace ControlPlane.Text

/-- A character of the Unicode property White_Space. -/
def isBlank (c : Char) : Bool :=
  let n := c.toNat
  (9 ≤ n && n ≤ 13) || n == 0x20 || n == 0x85 || n == 0xA0 || n == 0x1680
    || (0x2000 ≤ n && n ≤ 0x200A) || n == 0x2028 || n == 0x2029 || n == 0x202F
    || n == 0x205F || n == 0x3000

def dropEndWhile {α : Type} (p : α → Bool) (s : List α) : List α :=
  (s.reverse.dropWhile p).reverse

def stripWhile (p : Char → Bool) (s : List Char) : List Char :=
  dropEndWhile p (s.dropWhile p)

def trim (s : List Char) : List Char :=
  stripWhile isBlank s

def trimmed (s : String) : String :=
  String.ofList (trim s.toList)

def blank (s : String) : Bool :=
  s.toList.all isBlank

def splitOn (sep : Char → Bool) : List Char → List (List Char)
  | [] => [[]]
  | c :: rest =>
    if sep c then [] :: splitOn sep rest
    else match splitOn sep rest with
      | part :: parts => (c :: part) :: parts
      | [] => [[c]]

def joinWith (sep : List Char) : List (List Char) → List Char
  | [] => []
  | [part] => part
  | part :: parts => part ++ sep ++ joinWith sep parts

def digit? (c : Char) : Option Nat :=
  if '0' ≤ c && c ≤ '9' then some (c.toNat - '0'.toNat) else none

def digitsFrom (value : Nat) : List Char → Option Nat
  | [] => some value
  | c :: rest => (digit? c).bind fun d => digitsFrom (value * 10 + d) rest

def digitRun (s : List Char) : List Char × List Char :=
  s.span fun c => (digit? c).isSome

def digitsValue (s : List Char) : Nat := (digitsFrom 0 s).getD 0

def natural? : List Char → Option Nat
  | [] => none
  | c :: rest => digitsFrom 0 (c :: rest)

def integer? : List Char → Option Int
  | '+' :: rest => (natural? rest).map Int.ofNat
  | '-' :: rest => (natural? rest).map fun n => -Int.ofNat n
  | s => (natural? s).map Int.ofNat

def int64? (s : List Char) : Option Int :=
  (integer? s).filter fun n => -0x8000000000000000 ≤ n && n < 0x8000000000000000

/-- A number of 32 bits without sign; a minus is refused even before zero. -/
def uint32? (s : List Char) : Option UInt32 :=
  let body := match s with
    | '+' :: rest => natural? rest
    | s => natural? s
  body.bind fun n => if n < UInt32.size then some (UInt32.ofNat n) else none

/-- The entry that covers `n` between two places of a table; `run` gives the ends of an entry. -/
def coveringIn? {α : Type} (run : α → Nat × Nat) (table : Array α) (n lo hi : Nat)
    (bound : hi ≤ table.size) : Option α :=
  if h : lo < hi then
    let mid := lo + (hi - lo) / 2
    have inside : mid < table.size := by omega
    let entry := table[mid]
    if n < (run entry).1 then coveringIn? run table n lo mid (by omega)
    else if (run entry).2 < n then coveringIn? run table n (mid + 1) hi bound
    else some entry
  else none
termination_by hi - lo

def covering? {α : Type} (run : α → Nat × Nat) (table : Array α) (n : Nat) : Option α :=
  coveringIn? run table n 0 table.size (Nat.le_refl _)

def inRanges (table : Array (Nat × Nat)) (n : Nat) : Bool := (covering? id table n).isSome

def valueOf? {α : Type} (table : Array (Nat × Nat × α)) (n : Nat) : Option α :=
  (covering? (fun e => (e.1, e.2.1)) table n).map fun e => e.2.2

end ControlPlane.Text
