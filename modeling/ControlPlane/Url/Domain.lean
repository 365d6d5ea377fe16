import ControlPlane.Text.Basic
import ControlPlane.Text.Composed
import ControlPlane.Text.Mark
import ControlPlane.Url.Direction
import ControlPlane.Url.Folding.Letters
import ControlPlane.Url.Folding.Refused
import ControlPlane.Url.Folding.Words
import ControlPlane.Url.Joining
import ControlPlane.Url.Punycode
/-!
Host names in ASCII form. A name is folded, so that names which are read alike are written alike:
capital letters become small ones, other forms of a letter the plain one, some characters are left
out, and what is left is composed. Then it is cut at full stops into labels. A label beyond ASCII
begins with no mark, holds joiners only where they fit, has at most 1000 characters, and is written
in Punycode after `xn--`; a label that is given so is read only if it writes a folded one.
Delimiters, blanks, control characters and labels that could be read in two directions are refused.
-/
namespace ControlPlane.Url

def letter? (n : Nat) : Option Nat :=
  (Text.covering? (fun e => (e.1, e.2.1)) Folding.letters n).bind fun (first, _, step, target) =>
    if (n - first) % step = 0 then some (target + (n - first)) else none

def word? (n : Nat) : Option (List Nat) :=
  (Text.covering? (fun e => (e.1, e.1)) Folding.words n).map fun e => e.2

def foldChar? (c : Char) : Option (List Char) :=
  let n := c.toNat
  if n < 0x80 then some [c.toLower]
  else if Text.inRanges Folding.refused n then none
  else if Text.inRanges Folding.leftOut n then some []
  else some ((((letter? n).map fun m => [m]).or (word? n)).getD [n] |>.map Char.ofNat)

def fold? (name : List Char) : Option (List Char) :=
  (name.mapM foldChar?).map fun parts => Text.composed parts.flatten

def encodedMark : List Char := ['x', 'n', '-', '-']

def afterMark? : List Char → Option (List Char)
  | 'x' :: 'n' :: '-' :: '-' :: rest => some rest
  | _ => none

def labelStands (label : List Char) : Bool :=
  !label.head?.any Text.isMark && joinersFit [] label && label.length ≤ 1000

/-- The label that a text after `xn--` writes. The empty text, texts that end in a hyphen, and texts of
more than 2000 characters write none. -/
def decodedLabel? (rest : List Char) : Option (List Char) :=
  if rest.length ≤ 2000 && rest.getLast?.any (· ≠ '-') then
    (Punycode.decode? rest).filter fun label =>
      fold? label = some label && labelStands label
  else none

def plainLabel? (label : List Char) : Option (List Char) :=
  match afterMark? label with
  | some rest => decodedLabel? rest
  | none => if label.all (·.toNat < 0x80) || labelStands label then some label else none

def labelAscii (label : List Char) : List Char :=
  if label.all (·.toNat < 0x80) then label else encodedMark ++ Punycode.encode label

def hostForbidden (c : Char) : Bool :=
  c.toNat ≤ 0x20 || c.toNat = 0x7F || "%#/:<>?@[\\]^|".toList.contains c

def labels? (folded : List Char) : Option (List (List Char)) :=
  if folded.any hostForbidden then none
  else ((Text.splitOn (· = '.') folded).mapM plainLabel?).filter readableLabels

def domainAscii? (name : List Char) : Option (List Char) :=
  ((fold? name).bind labels?).map fun labels => Text.joinWith ['.'] (labels.map labelAscii)

end ControlPlane.Url
