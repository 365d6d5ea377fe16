import ControlPlane.Text.Basic
import ControlPlane.Url.Percent
/-!
Paths as lists of segments. A path text is split at slashes, in the web schemes at backslashes too;
dot segments, also in their `%2e` spellings, are resolved while the segments are read; every other
segment is percent-encoded and an existing `%XX` stays. Nothing of a text can climb above the root.
A segment that is a drive letter is not removed by a double dot, in any scheme.

Paths of files are read as other paths are, with three rules on top. A drive letter at the start is
written with a colon if a slash follows it; as the whole path it is kept as it is. Characters that
addresses ignore end a drive letter: what follows them is a segment of its own, which is kept as it
is even where it is a dot segment. At last the empty segments at the start are dropped.
-/
namespace ControlPlane.Url

abbrev Segment := List Char

/-- Tab, line feed and carriage return, which addresses ignore wherever they stand. -/
def ignored (c : Char) : Bool := c = '\t' || c = '\n' || c = '\r'

def visible (s : List Char) : List Char := s.filter fun c => !ignored c

/-- The number of dots if the text is written in dots only, each as `.` or `%2e`. -/
def dotCount : List Char → Option Nat
  | [] => some 0
  | '.' :: rest => (dotCount rest).map (· + 1)
  | '%' :: '2' :: 'e' :: rest => (dotCount rest).map (· + 1)
  | '%' :: '2' :: 'E' :: rest => (dotCount rest).map (· + 1)
  | _ => none

def isSingleDot (s : List Char) : Bool := dotCount s = some 1

def isDoubleDot (s : List Char) : Bool := dotCount s = some 2

def isDriveLetter : List Char → Bool
  | [c, d] => c.isAlpha && (d = ':' || d = '|')
  | _ => false

/-- A segment that a double dot does not remove: a drive letter, alone or before a backslash. -/
def staysInPlace : Segment → Bool
  | c :: d :: rest => isDriveLetter [c, d] && rest.head?.all (· = '\\')
  | _ => false

def parent (path : List Segment) : List Segment :=
  match path.getLast? with
  | some last => if staysInPlace last then path else path.dropLast
  | none => []

/-- Reads raw segments after those read already. A dot segment at the end leaves an empty one. -/
def resolve (path : List Segment) : List (List Char) → List Segment
  | [] => path
  | [last] =>
    if isDoubleDot last then parent path ++ [[]]
    else if isSingleDot last then path ++ [[]]
    else path ++ [escape pathSet last]
  | raw :: rest =>
    if isDoubleDot raw then resolve (parent path) rest
    else if isSingleDot raw then resolve path rest
    else resolve (path ++ [escape pathSet raw]) rest

def rawSegments (special : Bool) (s : List Char) : List (List Char) :=
  Text.splitOn (fun c => c = '/' || (special && c = '\\')) s

def afterSlash (special : Bool) : List Char → List Char
  | '/' :: rest => rest
  | '\\' :: rest => if special then rest else '\\' :: rest
  | s => s

/-- The segments of a path text. In the web schemes a path is never empty; elsewhere the empty text
is the empty path. -/
def readPath (special : Bool) (s : List Char) : List Segment :=
  let s := visible s
  if s.isEmpty && !special then [] else resolve [] (rawSegments special (afterSlash special s))

def pathText (path : List Segment) : List Char := path.flatMap ('/' :: ·)

/-- One segment that reads back as the text, or nothing for a dot segment. Characters that addresses
ignore are left out before the text is judged. -/
def escapeSegment (s : List Char) : List Char :=
  let s := visible s
  if s = ['.'] || s = ['.', '.'] then [] else escape segmentSet s

def afterVisible : Nat → List Char → List Char
  | 0, s => s
  | _ + 1, [] => []
  | n + 1, c :: rest => if ignored c then afterVisible (n + 1) rest else afterVisible n rest

/-- A drive letter that an ignored character divides from the rest of its segment, and that rest. -/
def dividedDrive? (raw : List Char) : Option (Segment × List Char) :=
  match visible raw with
  | [_] | [] => none
  | [_, _] => none
  | c :: d :: rest =>
    if c.isAlpha && d = ':' && (afterVisible 2 raw).head?.any ignored then some ([c, d], rest)
    else none

/-- Reads raw segments after those read already. The second part of the answer says that a drive
letter has been read as the first segment. -/
def resolveFile (path : List Segment) (drive : Bool) : List (List Char) → List Segment × Bool
  | [] => (path, drive)
  | raw :: rest =>
    let s := visible raw
    let ending := if rest.isEmpty then [[]] else []
    match (if path.isEmpty then dividedDrive? raw else none) with
    | some (letter, s) => resolveFile [letter, escape pathSet s] drive rest
    | none =>
      if isDoubleDot s then resolveFile (parent path ++ ending) drive rest
      else if isSingleDot s then resolveFile (path ++ ending) drive rest
      else if path.isEmpty && isDriveLetter s then
        resolveFile [if rest.isEmpty then s else s.take 1 ++ [':']] true rest
      else resolveFile (path ++ [escape pathSet s]) drive rest

def rooted (path : List Segment) : List Segment :=
  match path.dropWhile List.isEmpty with
  | [] => [[]]
  | path => path

def readFilePath (s : List Char) : List Segment × Bool :=
  let parts := rawSegments true s
  let (path, drive) := resolveFile [] false
    (match parts with
      | first :: second :: rest =>
        if (visible first).isEmpty then second :: rest else first :: second :: rest
      | parts => parts)
  (rooted path, drive)

end ControlPlane.Url
