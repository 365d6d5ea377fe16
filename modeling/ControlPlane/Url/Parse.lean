import ControlPlane.Text.Basic
import ControlPlane.Url.Basic
/-!
Reading an address. Controls and spaces at the ends, and tabs and line ends anywhere, are left out;
only the path of a file is read with its tabs and line ends. Then come the scheme up to a colon, the
authority where the scheme or two slashes announce one, the path, the query after a question mark
and the fragment after a number sign. An address whose scheme is followed by anything but a slash is
refused here, unless the scheme is one of the web or that of files: it has no path that could be
joined to.
-/
namespace ControlPlane.Url

def edgeBlank (c : Char) : Bool := c.toNat ≤ 0x20

def schemeChar (c : Char) : Bool := c.isAlphanum || c = '+' || c = '-' || c = '.'

def readScheme (s : List Char) : Option (List Char × List Char) :=
  let (scheme, rest) := s.span schemeChar
  match scheme, rest with
  | c :: _, ':' :: rest => if c.isAlpha then some (scheme.map Char.toLower, rest) else none
  | _, _ => none

def endsAuthority (special : Bool) (c : Char) : Bool :=
  c = '/' || c = '?' || c = '#' || (special && c = '\\')

def atLastAt (s : List Char) : Option (List Char × List Char) :=
  let (tail, front) := s.reverse.span (· ≠ '@')
  match front with
  | [] => none
  | _ :: front => some (front.reverse, tail.reverse)

def readUser (s : List Char) : List Char × Option (List Char) :=
  let (user, rest) := s.span (· ≠ ':')
  let password := rest.drop 1
  (escape userSet user, if password.isEmpty then none else some (escape userSet password))

def readHost (bracketed : Bool) : List Char → List Char × List Char
  | [] => ([], [])
  | c :: rest =>
    if c = ':' && !bracketed then ([], c :: rest)
    else
      let (host, rest) := readHost (if c = '[' then true else if c = ']' then false else bracketed) rest
      (c :: host, rest)

/-- The port after a host, where it is written and not the scheme's own, and the text after it. Where
a backslash does not end an authority it still ends a port. -/
def readPort (scheme : List Char) : List Char → Except ParseError (Option Nat × List Char)
  | ':' :: s =>
    let (digits, rest) := Text.digitRun s
    let port := Text.digitsValue digits
    if 65535 < port || (!rest.isEmpty && rest.head? ≠ some '\\') then .error .port
    else if digits.isEmpty || defaultPort? scheme = some port then .ok (none, rest)
    else .ok (some port, rest)
  | s => .ok (none, s)

def readWebAuthority (scheme s : List Char) : Except ParseError Authority := do
  let (userInfo, place) := (atLastAt s).getD ([], s)
  let (user, password) := readUser userInfo
  let (hostText, rest) := readHost false place
  if hostText.isEmpty then .error .emptyHost
  else
    let host ← Host.web hostText
    let (port, _) ← readPort scheme rest
    .ok ⟨user, password, host, port⟩

/-- The authority of a scheme outside the web, which may be empty as a whole, and the text after it;
`more` says that the authority does not end the address. -/
def readPlainAuthority (scheme s : List Char) (more : Bool) :
    Except ParseError (Authority × List Char) := do
  let (userInfo, place) := (atLastAt s).getD ([], s)
  let (user, password) := readUser userInfo
  let (hostText, rest) := readHost false place
  let host ← Host.plain hostText
  let named := !user.isEmpty || password.isSome || !rest.isEmpty || (s = ['@'] && more)
  if hostText.isEmpty && named then .error .emptyHost
  else
    let (port, rest) ← readPort scheme rest
    .ok (⟨user, password, host, port⟩, rest)

def readFileHost (s : List Char) : Except ParseError Host := do
  if s.isEmpty then .ok (.named [])
  else
    let host ← Host.web s
    .ok (if host = .named "localhost".toList then .named [] else host)

def readTail (special : Bool) (s : List Char) : Option (List Char) × Option (List Char) :=
  let (query, rest) := s.span (· ≠ '#')
  (match query with
    | [] => none
    | _ :: query => some (escape (querySet special) query),
   match rest with
    | [] => none
    | _ :: fragment => some (escape fragmentSet fragment))

def looksLikeAuthority : List Segment → Bool
  | [] :: _ :: _ => true
  | _ => false

def withRest (scheme : List Char) (authority : Option Authority) (rest : List Char) : Url :=
  let kind := kindOf scheme
  let (path, tail) := rest.span fun c => c ≠ '?' && c ≠ '#'
  let (query, fragment) := readTail kind.special tail
  let path := pathOf kind path
  { scheme, authority, shielded := authority.isNone && looksLikeAuthority path, path, query, fragment }

/-- The address of a file, with path, query and fragment read from the rest of the text. A drive
letter at the start of the path takes the place of the host. -/
def fileWithRest (scheme : List Char) (host : Host) (rest : List Char) : Url :=
  let (text, tail) := rest.span fun c => c ≠ '?' && c ≠ '#'
  let (query, fragment) := readTail true (visible tail)
  let (path, drive) := readFilePath text
  { scheme, authority := some { host := if drive then .named [] else host }, path, query, fragment }

/-- Reads what follows the colon of the scheme of files. The text is raw: it has the characters that
addresses ignore. -/
def readFile (scheme raw : List Char) : Except ParseError Url := do
  match visible raw with
  | a :: b :: s =>
    if (a = '/' || a = '\\') && (b = '/' || b = '\\') then
      let authority := s.takeWhile (!endsAuthority true ·)
      if isDriveLetter authority then .ok (fileWithRest scheme (.named []) (afterVisible 2 raw))
      else
        let host ← readFileHost authority
        .ok (fileWithRest scheme host (afterVisible (2 + authority.length) raw))
    else .ok (fileWithRest scheme (.named []) raw)
  | _ => .ok (fileWithRest scheme (.named []) raw)

def readAfterScheme (scheme s : List Char) : Except ParseError Url := do
  match kindOf scheme with
  | .other =>
    match s with
    | '/' :: '/' :: s =>
      let (authority, rest) := s.span (!endsAuthority false ·)
      let (authority, left) ← readPlainAuthority scheme authority (!rest.isEmpty)
      .ok (withRest scheme (some authority) (left ++ rest))
    | '/' :: s => .ok (withRest scheme none ('/' :: s))
    | _ => .error .notHierarchical
  | _ =>
    let (authority, rest) := (s.dropWhile fun c => c = '/' || c = '\\').span (!endsAuthority true ·)
    let authority ← readWebAuthority scheme authority
    .ok (withRest scheme (some authority) rest)

def parse (s : List Char) : Except ParseError Url :=
  let raw := Text.stripWhile edgeBlank s
  match readScheme (visible raw) with
  | none => .error .relative
  | some (scheme, rest) =>
    if kindOf scheme = .file then readFile scheme (afterVisible (scheme.length + 1) raw)
    else readAfterScheme scheme rest

end ControlPlane.Url
