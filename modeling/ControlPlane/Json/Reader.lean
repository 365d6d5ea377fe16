import ControlPlane.Json.Basic
import ControlPlane.Json.Outline
import ControlPlane.Text.Printable
/-!
Typed reading of JSON. A reader looks at an outline in order and answers with what it has read or
with the first thing that does not fit. The outline is either that of a text, where a fault may
stand and containers may nest only so deep, or that of a value already read.
-/
namespace ControlPlane.Json

inductive Found where
  | null
  | bool (b : Bool)
  | number (n : Number)
  | string (s : String)
  | map
  | sequence

def Found.text : Found → String
  | .null => "null"
  | .bool b => "boolean `" ++ String.ofList (Json.bool b).text ++ "`"
  | .number (.integer n) => "integer `" ++ String.ofList (integerText n) ++ "`"
  | .number (.double negative units) =>
    "floating point `" ++ String.ofList (Number.double negative units).text ++ "`"
  | .string s => "string " ++ Text.quoted s
  | .map => "map"
  | .sequence => "sequence"

/-- Why an outline does not read as what is expected. A reader may have a message of its own. -/
inductive Misfit where
  | malformed
  | kind (found : Found) (expected : String)
  | range (n : Int) (expected : String)
  | missing (field : String)
  | repeated (field : String)
  | tooFew (count : Nat) (expected : String)
  | tooMany (count : Nat)
  | own (message : String)

def Misfit.message : Misfit → String
  | .malformed => "malformed text"
  | .kind found expected => "invalid type: " ++ found.text ++ ", expected " ++ expected
  | .range n expected =>
    "invalid value: integer `" ++ String.ofList (integerText n) ++ "`, expected " ++ expected
  | .missing field => "missing field `" ++ field ++ "`"
  | .repeated field => "duplicate field `" ++ field ++ "`"
  | .tooFew count expected =>
    "invalid length " ++ String.ofList (natText count) ++ ", expected " ++ expected
  | .tooMany count =>
    "invalid length " ++ String.ofList (natText count) ++ ", expected fewer elements in array"
  | .own message => message

/-- Where an outline comes from: a text in which `room` more containers may nest, or a value. -/
inductive Source where
  | text (room : Nat)
  | value

def Source.enter : Source → Option Source
  | .text 0 => none
  | .text (room + 1) => some (.text room)
  | .value => some .value

def Source.room : Source → Outline → Nat
  | .text room, _ => room
  | .value, o => o.depth

abbrev Reader (α : Type) := Source → Outline → Except Misfit α

def Outline.found : Outline → Option Found
  | .null => some .null
  | .bool b => some (.bool b)
  | .number n => n.map .number
  | .string s => s.map .string
  | .array _ _ => some .sequence
  | .object _ _ => some .map
  | .fault => none

def Outline.misfit (o : Outline) (expected : String) : Misfit :=
  match o.found with
  | some found => .kind found expected
  | none => .malformed

namespace Reader

def any : Reader Json := fun source o =>
  match o.json? (source.room o) with
  | some v => .ok v
  | none => .error .malformed

def bool : Reader Bool
  | _, .bool b => .ok b
  | _, o => .error (o.misfit "a boolean")

def string : Reader String
  | _, .string (some s) => .ok s
  | _, o => .error (o.misfit "a string")

def int64 : Reader Int
  | _, .number (some (.integer n)) =>
    if -0x8000000000000000 ≤ n && n < 0x8000000000000000 then .ok n else .error (.range n "i64")
  | _, o => .error (o.misfit "i64")

def uint32 : Reader UInt32
  | _, .number (some (.integer n)) =>
    if 0 ≤ n && n < 0x100000000 then .ok (UInt32.ofNat n.toNat) else .error (.range n "u32")
  | _, o => .error (o.misfit "u32")

def optional {α : Type} (reader : Reader α) : Reader (Option α)
  | _, .null => .ok none
  | source, o => (reader source o).map some

def list {α : Type} (reader : Reader α) : Reader (List α)
  | source, .array items closed =>
    match source.enter with
    | none => .error .malformed
    | some inner => do
      let read ← items.mapM (reader inner)
      if closed then .ok read else .error .malformed
  | _, o => .error (o.misfit "a sequence")

def members : Reader (List (String × Json))
  | source, .object members closed =>
    match (Outline.object members closed).json? (source.room (.object members closed)) with
    | some (.object members) => .ok members
    | _ => .error .malformed
  | _, o => .error (o.misfit "a map")

end Reader

/-- A field of a record: how it is read into a record, and whether it has to be there. -/
structure Field (α : Type) where
  name : String
  required : Bool := false
  read : Source → Outline → Except Misfit (α → α)

def Field.of {α β : Type} (name : String) (reader : Reader β) (set : β → α → α)
    (required : Bool := false) : Field α :=
  { name, required, read := fun source o => (reader source o).map set }

/-- A record: its name in messages, what it holds before a field is read, and its fields. It is
written as an object, or as an array of its fields in their order. -/
structure Record (α : Type) where
  name : String
  start : α
  fields : List (Field α)

namespace Record

variable {α : Type}

def kind (r : Record α) : String := "struct " ++ r.name

def length (r : Record α) : String :=
  r.kind ++ " with " ++ String.ofList (natText r.fields.length)
    ++ (if r.fields.length = 1 then " element" else " elements")

/-- Reads the members of an object in their order, after those named in `seen`. A member that is no
field is skipped. -/
def readMembers (r : Record α) (source : Source) :
    List (Option String × Outline) → (seen : List String) → α → Except Misfit (List String × α)
  | [], seen, a => .ok (seen, a)
  | (none, _) :: _, _, _ => .error .malformed
  | (some name, o) :: rest, seen, a =>
    match r.fields.find? (·.name = name) with
    | none => if o.sound then r.readMembers source rest seen a else .error .malformed
    | some field =>
      if seen.contains name then .error (.repeated name)
      else do
        let set ← field.read source o
        r.readMembers source rest (name :: seen) (set a)

/-- Reads the items of an array, number `index` and the later ones, into the fields; what is left of
the items is part of the answer. -/
def readItems (r : Record α) (source : Source) (closed : Bool) :
    List (Field α) → List Outline → (index : Nat) → α → Except Misfit (List Outline × α)
  | [], rest, _, a => .ok (rest, a)
  | field :: fields, [], index, a =>
    if !closed then .error .malformed
    else if field.required then .error (.tooFew index r.length)
    else r.readItems source closed fields [] index a
  | field :: fields, o :: rest, index, a => do
    let set ← field.read source o
    r.readItems source closed fields rest (index + 1) (set a)

/-- Too many items for a record are a fault of a text, and a misfit of a value. -/
def excess (source : Source) (count : Nat) : Misfit :=
  match source with
  | .text _ => .malformed
  | .value => .tooMany count

def read (r : Record α) : Reader α
  | source, .object members closed =>
    match source.enter with
    | none => .error .malformed
    | some inner => do
      let (seen, a) ← r.readMembers inner members [] r.start
      if !closed then .error .malformed
      else
        match r.fields.find? fun field => field.required && !seen.contains field.name with
        | some field => .error (.missing field.name)
        | none => .ok a
  | source, .array items closed =>
    match source.enter with
    | none => .error .malformed
    | some inner => do
      let (rest, a) ← r.readItems inner closed r.fields items 0 r.start
      if !rest.isEmpty then .error (excess source items.length)
      else if closed then .ok a
      else .error .malformed
  | _, o => .error (o.misfit r.kind)

end Record

def textRoom : Nat := 127

def readText {α : Type} (reader : Reader α) (bytes : List UInt8) : Except Misfit α := do
  let (outline, complete) := Outline.ofTokens (tokens bytes)
  let a ← reader (.text textRoom) outline
  if complete then .ok a else .error .malformed

def readValue {α : Type} (reader : Reader α) (v : Json) : Except Misfit α :=
  reader .value (Outline.ofJson v)

end ControlPlane.Json
