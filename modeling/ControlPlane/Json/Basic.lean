import ControlPlane.Double.Basic
import ControlPlane.Double.Decimal
import ControlPlane.Text.Utf8
/-!
JSON values and their text. An integer of 64 bits, with or without sign, stays an integer; every
other number is a double. The members of an object stand in the order of their names, each name
once; of two members with one name the later one stays. The text has no blanks, and in strings an
escape only for the quote, the backslash and the controls. A double is written with its shortest
digits, positionally where its first digit stands for 10 ^ -5 up to 10 ^ 15, otherwise with an
exponent; a point or an exponent always shows that it is a double.
-/
namespace ControlPlane

inductive Json.Number where
  | integer (n : Int)
  | double (negative : Bool) (units : Nat)
deriving DecidableEq

inductive Json where
  | null
  | bool (b : Bool)
  | number (n : Json.Number)
  | string (s : String)
  | array (items : List Json)
  | object (members : List (String × Json))

namespace Json

/-- Members in the order of their names, with one more put in its place or in place of its namesake. -/
def insertMember (name : String) (value : Json) :
    List (String × Json) → List (String × Json)
  | [] => [(name, value)]
  | (k, v) :: rest =>
    if name = k then (name, value) :: rest
    else if name < k then (name, value) :: (k, v) :: rest
    else (k, v) :: insertMember name value rest

def sortMembers (members : List (String × Json)) : List (String × Json) :=
  members.foldl (fun sorted m => insertMember m.1 m.2 sorted) []

def ofMembers (members : List (String × Json)) : Json := .object (sortMembers members)

end Json

end ControlPlane

namespace ControlPlane.Json

def natText (n : Nat) : List Char := Nat.toDigits 10 n

def integerText (n : Int) : List Char :=
  if n < 0 then '-' :: natText n.natAbs else natText n.natAbs

def isPositional (exponent : Int) : Bool := -5 ≤ exponent && exponent ≤ 15

def positional (digits : List Char) (whole : Int) : List Char :=
  if whole ≤ 0 then '0' :: '.' :: List.replicate (-whole).toNat '0' ++ digits
  else
    let front := digits.take whole.toNat
    let back := digits.drop whole.toNat
    front ++ List.replicate (whole.toNat - front.length) '0' ++ '.'
      :: (if back.isEmpty then ['0'] else back)

def scientific (digits : List Char) (exponent : Int) : List Char :=
  digits.take 1 ++ (if digits.length ≤ 1 then [] else '.' :: digits.drop 1)
    ++ 'e' :: (if exponent < 0 then '-' else '+') :: natText exponent.natAbs

def magnitudeText (units : Nat) : List Char :=
  if units = 0 then ['0', '.', '0']
  else
    let d := Double.shortest units
    let digits := natText d.digits
    let whole := digits.length + d.exponent
    if isPositional (whole - 1) then positional digits whole else scientific digits (whole - 1)

def Number.text : Number → List Char
  | .integer n => integerText n
  | .double negative units => (if negative then ['-'] else []) ++ magnitudeText units

def smallHexDigit (n : Nat) : Char :=
  if n < 10 then Char.ofNat ('0'.toNat + n) else Char.ofNat ('a'.toNat + (n - 10))

def stringChar (c : Char) : List Char :=
  if c = '"' then ['\\', '"']
  else if c = '\\' then ['\\', '\\']
  else if c = '\x08' then ['\\', 'b']
  else if c = '\x0c' then ['\\', 'f']
  else if c = '\n' then ['\\', 'n']
  else if c = '\r' then ['\\', 'r']
  else if c = '\t' then ['\\', 't']
  else if c.toNat < 0x20 then
    ['\\', 'u', '0', '0', smallHexDigit (c.toNat / 16), smallHexDigit (c.toNat % 16)]
  else [c]

def stringText (s : String) : List Char := '"' :: s.toList.flatMap stringChar ++ ['"']

mutual

def text : Json → List Char
  | .null => "null".toList
  | .bool true => "true".toList
  | .bool false => "false".toList
  | .number n => n.text
  | .string s => stringText s
  | .array items => '[' :: itemsText items ++ [']']
  | .object members => '\x7b' :: membersText members ++ ['\x7d']

def itemsText : List Json → List Char
  | [] => []
  | [v] => text v
  | v :: rest => text v ++ ',' :: itemsText rest

def membersText : List (String × Json) → List Char
  | [] => []
  | [(k, v)] => stringText k ++ ':' :: text v
  | (k, v) :: rest => stringText k ++ ':' :: text v ++ ',' :: membersText rest

end

def bytes (v : Json) : List UInt8 := Text.utf8 v.text

end ControlPlane.Json
