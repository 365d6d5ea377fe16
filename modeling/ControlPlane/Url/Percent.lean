import ControlPlane.Text.Basic
import ControlPlane.Text.Utf8
/-!
Percent-encoding and form pairs. A character outside the set of a component is written as it is; one
in the set becomes `%XX` for each of its bytes, in capitals. Control characters and all that is not
ASCII are in every set. Decoding works on bytes and leaves a percent sign that two hexadecimal
digits do not follow. Form pairs are the `name=value` text of a query: letters, digits and `*-._`
stay, a space becomes a plus sign, and ampersands join the pairs.
-/
namespace ControlPlane.Url

def hexDigit (n : Nat) : Char :=
  if n < 10 then Char.ofNat ('0'.toNat + n) else Char.ofNat ('A'.toNat + (n - 10))

def hexValue? (n : Nat) : Option Nat :=
  if 0x30 ≤ n && n ≤ 0x39 then some (n - 0x30)
  else if 0x41 ≤ n && n ≤ 0x46 then some (n - 0x41 + 10)
  else if 0x61 ≤ n && n ≤ 0x66 then some (n - 0x61 + 10)
  else none

def escapeByte (b : UInt8) : List Char :=
  ['%', hexDigit (b.toNat / 16), hexDigit (b.toNat % 16)]

def escapeChar (set : Char → Bool) (c : Char) : List Char :=
  if set c then (String.utf8EncodeChar c).flatMap escapeByte else [c]

def escape (set : Char → Bool) (s : List Char) : List Char := s.flatMap (escapeChar set)

def unescapeBytes : List UInt8 → List UInt8
  | 0x25 :: a :: b :: rest =>
    match hexValue? a.toNat, hexValue? b.toNat with
    | some x, some y => UInt8.ofNat (16 * x + y) :: unescapeBytes rest
    | _, _ => 0x25 :: unescapeBytes (a :: b :: rest)
  | b :: rest => b :: unescapeBytes rest
  | [] => []

def controlSet (c : Char) : Bool := c.toNat < 0x20 || 0x7F ≤ c.toNat

def fragmentSet (c : Char) : Bool :=
  controlSet c || c = ' ' || c = '"' || c = '<' || c = '>' || c = '\x60'

def pathSet (c : Char) : Bool :=
  fragmentSet c || c = '#' || c = '?' || c = '\x7b' || c = '\x7d'

/-- Characters encoded in a text that has to stay one segment of a path. -/
def segmentSet (c : Char) : Bool :=
  pathSet c || c = '/' || c = '%' || c = '\\'

def userSet (c : Char) : Bool :=
  pathSet c || c = '/' || c = ':' || c = ';' || c = '=' || c = '@' || c = '[' || c = '\\'
    || c = ']' || c = '^' || c = '|'

/-- Characters encoded in a query; the web schemes also encode the apostrophe. -/
def querySet (special : Bool) (c : Char) : Bool :=
  controlSet c || c = ' ' || c = '"' || c = '#' || c = '<' || c = '>' || (special && c = '\'')

def formPlain (c : Char) : Bool :=
  ('a' ≤ c && c ≤ 'z') || ('A' ≤ c && c ≤ 'Z') || ('0' ≤ c && c ≤ '9')
    || c = '*' || c = '-' || c = '.' || c = '_'

def formChar (c : Char) : List Char :=
  if c = ' ' then ['+'] else escapeChar (fun c => !formPlain c) c

def formText (s : List Char) : List Char := s.flatMap formChar

def formPair (p : List Char × List Char) : List Char :=
  formText p.1 ++ '=' :: formText p.2

def appendPairs (text : List Char) (pairs : List (List Char × List Char)) : List Char :=
  pairs.foldl (fun text p => (if text.isEmpty then [] else text ++ ['&']) ++ formPair p) text

def formUntext (s : List Char) : List Char :=
  Text.lenient (unescapeBytes (Text.utf8 (s.map fun c => if c = '+' then ' ' else c)))

def formUnpair (s : List Char) : List Char × List Char :=
  let (name, rest) := s.span (· ≠ '=')
  (formUntext name, formUntext (rest.drop 1))

def queryPairs (query : List Char) : List (List Char × List Char) :=
  ((Text.splitOn (· = '&') query).filter fun part => !part.isEmpty).map formUnpair

end ControlPlane.Url
