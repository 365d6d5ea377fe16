import ControlPlane.Json.Token
/-!
The outline of a JSON text: how its tokens nest, up to the first token that does not belong. What
stands before that place can still be read in order, so a reader finds the fault exactly when it
comes to it. A container says whether its end was found.
-/
namespace ControlPlane.Json

/-- The outline of a value. `fault` stands where a value should begin and none does. -/
inductive Outline where
  | null
  | bool (b : Bool)
  | number (n : Option Number)
  | string (s : Option String)
  | array (items : List Outline) (closed : Bool)
  | object (members : List (Option String × Outline)) (closed : Bool)
  | fault

namespace Outline

mutual

/-- The outline of the value that begins the tokens, and the tokens after it; `none` after a
fault. -/
def value : (fuel : Nat) → List Token → Outline × Option (List Token)
  | _ + 1, .null :: rest => (.null, some rest)
  | _ + 1, .bool b :: rest => (.bool b, some rest)
  | _ + 1, .number n :: rest => (.number n, some rest)
  | _ + 1, .string s :: rest => (.string s, some rest)
  | _ + 1, .openArray :: .closeArray :: rest => (.array [] true, some rest)
  | fuel + 1, .openArray :: rest =>
    let (found, rest) := items fuel rest
    (.array found rest.isSome, rest)
  | _ + 1, .openObject :: .closeObject :: rest => (.object [] true, some rest)
  | fuel + 1, .openObject :: rest =>
    let (found, rest) := members fuel rest
    (.object found rest.isSome, rest)
  | _, _ => (.fault, none)

def items : (fuel : Nat) → List Token → List Outline × Option (List Token)
  | fuel + 1, tokens =>
    match value fuel tokens with
    | (v, some (.comma :: rest)) =>
      let (found, rest) := items fuel rest
      (v :: found, rest)
    | (v, some (.closeArray :: rest)) => ([v], some rest)
    | (v, _) => ([v], none)
  | 0, _ => ([], none)

def members : (fuel : Nat) → List Token → List (Option String × Outline) × Option (List Token)
  | fuel + 1, .string name :: .colon :: rest =>
    match value fuel rest with
    | (v, some (.comma :: rest)) =>
      let (found, rest) := members fuel rest
      ((name, v) :: found, rest)
    | (v, some (.closeObject :: rest)) => ([(name, v)], some rest)
    | (v, _) => ([(name, v)], none)
  | _ + 1, .string name :: _ => ([(name, .fault)], none)
  | _, _ => ([], none)

end

/-- The outline of a text, and whether the text ends with it. -/
def ofTokens (tokens : List Token) : Outline × Bool :=
  let (outline, rest) := value (2 * tokens.length + 2) tokens
  (outline, match rest with
    | some [] => true
    | _ => false)

mutual

def sound : Outline → Bool
  | .array items closed => closed && soundItems items
  | .object members closed => closed && soundMembers members
  | .fault => false
  | _ => true

def soundItems : List Outline → Bool
  | [] => true
  | o :: rest => sound o && soundItems rest

def soundMembers : List (Option String × Outline) → Bool
  | [] => true
  | (_, o) :: rest => sound o && soundMembers rest

end

mutual

def depth : Outline → Nat
  | .array items _ => depthItems items + 1
  | .object members _ => depthMembers members + 1
  | _ => 0

def depthItems : List Outline → Nat
  | [] => 0
  | o :: rest => max (depth o) (depthItems rest)

def depthMembers : List (Option String × Outline) → Nat
  | [] => 0
  | (_, o) :: rest => max (depth o) (depthMembers rest)

end

mutual

/-- The value of an outline, if it has content everywhere and at most `room` containers within each
other. -/
def json? (room : Nat) : Outline → Option Json
  | .null => some .null
  | .bool b => some (.bool b)
  | .number n => n.map .number
  | .string s => s.map .string
  | .array items closed =>
    match room with
    | 0 => none
    | room + 1 => if closed then (jsonItems? room items).map .array else none
  | .object members closed =>
    match room with
    | 0 => none
    | room + 1 => if closed then (jsonMembers? room members).map ofMembers else none
  | .fault => none

def jsonItems? (room : Nat) : List Outline → Option (List Json)
  | [] => some []
  | o :: rest => (json? room o).bind fun v => (jsonItems? room rest).map (v :: ·)

def jsonMembers? (room : Nat) : List (Option String × Outline) → Option (List (String × Json))
  | [] => some []
  | (name, o) :: rest =>
    name.bind fun k => (json? room o).bind fun v => (jsonMembers? room rest).map ((k, v) :: ·)

end

mutual

def ofJson : Json → Outline
  | .null => .null
  | .bool b => .bool b
  | .number n => .number (some n)
  | .string s => .string (some s)
  | .array items => .array (ofItems items) true
  | .object members => .object (ofMemberList members) true

def ofItems : List Json → List Outline
  | [] => []
  | v :: rest => ofJson v :: ofItems rest

def ofMemberList : List (String × Json) → List (Option String × Outline)
  | [] => []
  | (k, v) :: rest => (some k, ofJson v) :: ofMemberList rest

end

end Outline

end ControlPlane.Json
