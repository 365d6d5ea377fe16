import ControlPlane.Text.Basic
import ControlPlane.Url.Domain
import ControlPlane.Url.Percent
/-!
Hosts. In the web schemes a host is a name in ASCII form or an address; elsewhere it is an address
in brackets or any text without delimiters, kept as it is written. An address of four bytes is
written as one to four numbers, each decimal, octal after a leading zero or hexadecimal after `0x`;
the last number fills all bytes that are left, and a host whose last part is a number has to be such
an address. Among eight pieces of sixteen bits a double colon stands for one or more zero pieces,
once, and the last two may be written as four decimal bytes; writing uses lower-case digits without
leading zeros and shortens the longest run of at least two zero pieces, the first of equal ones.
-/
namespace ControlPlane.Url

def digitIn? (base : Nat) (c : Char) : Option Nat :=
  (hexValue? c.toNat).filter (· < base)

def numberIn? (base : Nat) (s : List Char) : Option Nat :=
  s.foldlM (fun n c => (digitIn? base c).map fun d => n * base + d) 0

def ipv4Number? : List Char → Option Nat
  | [] => none
  | '0' :: 'x' :: rest => numberIn? 16 rest
  | '0' :: 'X' :: rest => numberIn? 16 rest
  | '0' :: c :: rest => numberIn? 8 (c :: rest)
  | s => numberIn? 10 s

def hostParts (host : List Char) : List (List Char) :=
  let parts := Text.splitOn (· = '.') host
  if parts.getLast? = some [] then parts.dropLast else parts

def endsInNumber (host : List Char) : Bool :=
  match (hostParts host).getLast? with
  | some last =>
    !last.isEmpty
      && (last.all (fun c => (digitIn? 10 c).isSome) || (ipv4Number? last).isSome)
  | none => false

/-- The value of numbers: each but the last is one byte, the last fills the bytes left. -/
def ipv4Value? (numbers : List Nat) : Option Nat :=
  match numbers.getLast? with
  | none => none
  | some last =>
    let front := numbers.dropLast
    if 3 < front.length || front.any (255 < ·) || Nat.pow 256 (4 - front.length) ≤ last then none
    else some (front.zipIdx.foldl (fun value n => value + n.1 * Nat.pow 256 (3 - n.2)) last)

def ipv4? (host : List Char) : Option Nat :=
  ((hostParts host).mapM ipv4Number?).bind ipv4Value?

def ipv4Text (n : Nat) : List Char :=
  let byte (k : Nat) : List Char := Nat.toDigits 10 (n / Nat.pow 256 k % 256)
  byte 3 ++ '.' :: byte 2 ++ '.' :: byte 1 ++ '.' :: byte 0

def ipv6Piece? (s : List Char) : Option Nat :=
  if s.isEmpty || 4 < s.length then none else numberIn? 16 s

def plainByte? : List Char → Option Nat
  | [] => none
  | ['0'] => some 0
  | '0' :: _ :: _ => none
  | s => if 3 < s.length then none else (numberIn? 10 s).filter (· < 256)

def byteQuad? (s : List Char) : Option (List Nat) :=
  match (Text.splitOn (· = '.') s).mapM plainByte? with
  | some [a, b, c, d] => some [a * 256 + b, c * 256 + d]
  | _ => none

/-- Pieces between single colons; `tail` says that the last one may be four decimal bytes. -/
def ipv6Pieces? (tail : Bool) (s : List Char) : Option (List Nat) :=
  if s.isEmpty then some []
  else
    let parts := Text.splitOn (· = ':') s
    match parts.getLast? with
    | some last =>
      if tail && last.contains '.' then
        (parts.dropLast.mapM ipv6Piece?).bind fun front => (byteQuad? last).map (front ++ ·)
      else parts.mapM ipv6Piece?
    | none => none

def atDoubleColon : List Char → Option (List Char × List Char)
  | [] => none
  | ':' :: ':' :: rest => some ([], rest)
  | c :: rest => (atDoubleColon rest).map fun p => (c :: p.1, p.2)

def ipv6? (s : List Char) : Option (List Nat) :=
  match atDoubleColon s with
  | none => (ipv6Pieces? true s).filter (·.length = 8)
  | some (left, right) =>
    match ipv6Pieces? false left, ipv6Pieces? true right with
    | some l, some r =>
      if l.length + r.length < 8 then some (l ++ List.replicate (8 - l.length - r.length) 0 ++ r)
      else none
    | _, _ => none

def zeroRun (pieces : List Nat) : Nat := (pieces.takeWhile (· = 0)).length

def longestRun : Nat → List Nat → Nat × Nat
  | _, [] => (0, 0)
  | at_, p :: rest =>
    let here := zeroRun (p :: rest)
    let later := longestRun (at_ + 1) rest
    if later.2 ≤ here then (at_, here) else later

def ipv6PieceText (n : Nat) : List Char := Nat.toDigits 16 n

def colonText (pieces : List Nat) : List Char :=
  Text.joinWith [':'] (pieces.map ipv6PieceText)

def ipv6Text (pieces : List Nat) : List Char :=
  let run := longestRun 0 pieces
  if run.2 < 2 then colonText pieces
  else colonText (pieces.take run.1) ++ [':', ':'] ++ colonText (pieces.drop (run.1 + run.2))

inductive ParseError where
  | relative
  | emptyHost
  | port
  | ipv4
  | ipv6
  | domain
  | hostCharacter
  | notHierarchical
deriving DecidableEq

def ParseError.message : ParseError → String
  | .relative => "relative URL without a base"
  | .emptyHost => "empty host"
  | .port => "invalid port number"
  | .ipv4 => "invalid IPv4 address"
  | .ipv6 => "invalid IPv6 address"
  | .domain => "invalid international domain name"
  | .hostCharacter => "invalid domain character"
  | .notHierarchical => "not a hierarchical URL"

inductive Host where
  | named (text : List Char)
  | ipv4 (address : Nat)
  | ipv6 (pieces : List Nat)
deriving DecidableEq

def Host.text : Host → List Char
  | .named text => text
  | .ipv4 address => ipv4Text address
  | .ipv6 pieces => '[' :: ipv6Text pieces ++ [']']

def Host.bracketed (s : List Char) : Except ParseError Host :=
  if s.getLast? = some ']' then
    match ipv6? s.dropLast with
    | some pieces => .ok (.ipv6 pieces)
    | none => .error .ipv6
  else .error .ipv6

/-- The host of a web scheme: percent-encoding is undone, the name put in ASCII form, and a name that
ends in a number read as an address. -/
def Host.web (s : List Char) : Except ParseError Host :=
  match s with
  | '[' :: rest => Host.bracketed rest
  | s =>
    match (Text.strict (unescapeBytes (Text.utf8 s))).bind domainAscii? with
    | none => .error .domain
    | some name =>
      if name.isEmpty then .error .emptyHost
      else if endsInNumber name then
        match ipv4? name with
        | some address => .ok (.ipv4 address)
        | none => .error .ipv4
      else .ok (.named name)

def plainHostForbidden (c : Char) : Bool :=
  c.toNat = 0 || c = '\t' || c = '\n' || c = '\r' || " #/:<>?@[\\]^|".toList.contains c

def Host.plain (s : List Char) : Except ParseError Host :=
  match s with
  | '[' :: rest => Host.bracketed rest
  | s =>
    if s.any plainHostForbidden then .error .hostCharacter
    else .ok (.named (escape controlSet s))

end ControlPlane.Url
