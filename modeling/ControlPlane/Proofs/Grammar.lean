import ControlPlane.Json.Outline
import ControlPlane.Json.Basic
/-!
The grammar of JSON texts, stated apart from the reader. A text writes an outline; blanks may stand
between any two tokens, a string may escape any of its characters, and an escape need not be one of
a character. An outline means a value; its members may stand in any order, each name once.
-/
namespace ControlPlane.Json

def Blanks (s : List Char) : Prop := ∀ c ∈ s, c ∈ [' ', '\t', '\n', '\r']

structure DigitsText (digits : List Nat) (s : List Char) : Prop where
  some_ : digits ≠ []
  small : ∀ d ∈ digits, d < 10
  text : s = digits.map Nat.digitChar

structure WholeText (digits : List Nat) (s : List Char) : Prop extends DigitsText digits s where
  lone : digits.head? = some 0 → digits = [0]

inductive FractionText : Option (List Nat) → List Char → Prop where
  | absent : FractionText none []
  | present {digits : List Nat} {s : List Char} (written : DigitsText digits s) :
      FractionText (some digits) ('.' :: s)

inductive ExponentText : Option Int → List Char → Prop where
  | absent : ExponentText none []
  | unsigned {letter : Char} {digits : List Nat} {s : List Char} (named : letter ∈ ['e', 'E'])
      (written : DigitsText digits s) :
      ExponentText (some (digitsNumber digits)) (letter :: s)
  | plus {letter : Char} {digits : List Nat} {s : List Char} (named : letter ∈ ['e', 'E'])
      (written : DigitsText digits s) :
      ExponentText (some (digitsNumber digits)) (letter :: '+' :: s)
  | minus {letter : Char} {digits : List Nat} {s : List Char} (named : letter ∈ ['e', 'E'])
      (written : DigitsText digits s) :
      ExponentText (some (-digitsNumber digits)) (letter :: '-' :: s)

inductive NumeralText : Numeral → List Char → Prop where
  | mk {negative : Bool} {whole : List Nat} {fraction : Option (List Nat)} {exponent : Option Int}
      {w f e : List Char} (front : WholeText whole w) (back : FractionText fraction f)
      (power : ExponentText exponent e) :
      NumeralText ⟨negative, whole, fraction, exponent⟩
        ((if negative then ['-'] else []) ++ (w ++ (f ++ e)))

def escapes : List (Char × Char) :=
  [('"', '"'), ('\\', '\\'), ('/', '/'), ('b', '\x08'), ('f', '\x0c'), ('n', '\n'), ('r', '\r'),
    ('t', '\t')]

def HexDigit (d : Nat) (c : Char) : Prop :=
  d < 16 ∧ (c = Nat.digitChar d ∨ c = (Nat.digitChar d).toUpper)

inductive UnitText : Nat → List Char → Prop where
  | mk {a b c d : Nat} {w x y z : Char} (first : HexDigit a w) (second : HexDigit b x)
      (third : HexDigit c y) (fourth : HexDigit d z) :
      UnitText (((a * 16 + b) * 16 + c) * 16 + d) [w, x, y, z]

inductive PieceText : Piece → List Char → Prop where
  | plain {c : Char} (quote : c ≠ '"') (slash : c ≠ '\\') (control : 0x20 ≤ c.toNat) :
      PieceText (.char c) [c]
  | short {letter c : Char} (named : (letter, c) ∈ escapes) : PieceText (.char c) ['\\', letter]
  | unit {n : Nat} {s : List Char} (digits : UnitText n s) :
      PieceText (.unit n) ('\\' :: 'u' :: s)

inductive PiecesText : List Piece → List Char → Prop where
  | nil : PiecesText [] []
  | cons {p : Piece} {rest : List Piece} {s t : List Char} (first : PieceText p s)
      (others : PiecesText rest t) : PiecesText (p :: rest) (s ++ t)

/-- The pieces that stand for one character: the character, its unit, or a pair of units. -/
inductive Stands : List Piece → Char → Prop where
  | char (c : Char) : Stands [.char c] c
  | unit {c : Char} (single : c.toNat < 0x10000) : Stands [.unit c.toNat] c
  | pair {c : Char} {high low : Nat} (first : 0xD800 ≤ high ∧ high < 0xDC00)
      (second : 0xDC00 ≤ low ∧ low < 0xE000)
      (both : c.toNat = 0x10000 + (high - 0xD800) * 0x400 + (low - 0xDC00)) :
      Stands [.unit high, .unit low] c

inductive Content : List Piece → List Char → Prop where
  | nil : Content [] []
  | cons {ps rest : List Piece} {c : Char} {s : List Char} (first : Stands ps c)
      (others : Content rest s) : Content (ps ++ rest) (c :: s)

inductive StringText : Option String → List Char → Prop where
  | text {ps : List Piece} {s content : List Char} (written : PiecesText ps s)
      (stands : Content ps content) :
      StringText (some (String.ofList content)) ('"' :: (s ++ ['"']))
  | empty {ps : List Piece} {s : List Char} (written : PiecesText ps s)
      (none_ : ∀ content, ¬ Content ps content) : StringText none ('"' :: (s ++ ['"']))

mutual

inductive Writes : Outline → List Char → Prop where
  | null : Writes .null "null".toList
  | true_ : Writes (.bool true) "true".toList
  | false_ : Writes (.bool false) "false".toList
  | integer {n : Int} (least : -0x8000000000000000 ≤ n) (most : n < 0x10000000000000000) :
      Writes (.number (some (.integer n))) (integerText n)
  | numeral {n : Numeral} {s : List Char} (written : NumeralText n s) : Writes (.number n.number?) s
  | string {content : Option String} {s : List Char} (written : StringText content s) :
      Writes (.string content) s
  | noItems {s : List Char} (blanks : Blanks s) : Writes (.array [] true) ('[' :: (s ++ [']']))
  | items {items : List Outline} {s : List Char} (written : WritesItems items s) :
      Writes (.array items true) ('[' :: (s ++ [']']))
  | noMembers {s : List Char} (blanks : Blanks s) :
      Writes (.object [] true) ('\x7b' :: (s ++ ['\x7d']))
  | members {members : List (Option String × Outline)} {s : List Char}
      (written : WritesMembers members s) :
      Writes (.object members true) ('\x7b' :: (s ++ ['\x7d']))

inductive Padded : Outline → List Char → Prop where
  | mk {o : Outline} {before s after : List Char} (left : Blanks before) (written : Writes o s)
      (right : Blanks after) : Padded o (before ++ (s ++ after))

inductive WritesItems : List Outline → List Char → Prop where
  | one {o : Outline} {s : List Char} (written : Padded o s) : WritesItems [o] s
  | more {o : Outline} {rest : List Outline} {s t : List Char} (written : Padded o s)
      (others : WritesItems rest t) : WritesItems (o :: rest) (s ++ ',' :: t)

inductive WritesMember : Option String × Outline → List Char → Prop where
  | mk {name : Option String} {o : Outline} {before k after s : List Char} (left : Blanks before)
      (named : StringText name k) (right : Blanks after) (written : Padded o s) :
      WritesMember (name, o) (before ++ (k ++ (after ++ ':' :: s)))

inductive WritesMembers : List (Option String × Outline) → List Char → Prop where
  | one {member : Option String × Outline} {s : List Char} (written : WritesMember member s) :
      WritesMembers [member] s
  | more {member : Option String × Outline} {rest : List (Option String × Outline)}
      {s t : List Char} (written : WritesMember member s) (others : WritesMembers rest t) :
      WritesMembers (member :: rest) (s ++ ',' :: t)

end

mutual

/-- An outline means a value. The members of an object may stand in any order. -/
inductive Means : Outline → Json → Prop where
  | null : Means .null .null
  | bool (b : Bool) : Means (.bool b) (.bool b)
  | number (n : Number) : Means (.number (some n)) (.number n)
  | string (s : String) : Means (.string (some s)) (.string s)
  | array {items : List Outline} {values : List Json} (each : MeansItems items values) :
      Means (.array items true) (.array values)
  | object {members : List (Option String × Outline)} {found sorted : List (String × Json)}
      (each : MeansMembers members found) (order : found.Perm sorted) :
      Means (.object members true) (.object sorted)

inductive MeansItems : List Outline → List Json → Prop where
  | nil : MeansItems [] []
  | cons {o : Outline} {v : Json} {rest : List Outline} {values : List Json} (first : Means o v)
      (others : MeansItems rest values) : MeansItems (o :: rest) (v :: values)

inductive MeansMembers : List (Option String × Outline) → List (String × Json) → Prop where
  | nil : MeansMembers [] []
  | cons {o : Outline} {v : Json} {rest : List (Option String × Outline)}
      {values : List (String × Json)} (name : String) (first : Means o v)
      (others : MeansMembers rest values) :
      MeansMembers ((some name, o) :: rest) ((name, v) :: values)

end

end ControlPlane.Json
