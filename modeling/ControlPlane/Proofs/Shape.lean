import ControlPlane.Json.Reader
import ControlPlane.Proofs.Quoting
/-!
Values of one shape: they differ at most in the content of their strings. What a reader of records
says about such values is the same, but for a string that stands where a record or a map should: it
quotes that one.
-/
namespace ControlPlane.Json

mutual

/-- The value with nothing left in its strings. The names of members stay. -/
def shape : Json → Json
  | .string _ => .string ""
  | .array items => .array (shapeItems items)
  | .object members => .object (shapeMembers members)
  | v => v

def shapeItems : List Json → List Json
  | [] => []
  | v :: rest => shape v :: shapeItems rest

def shapeMembers : List (String × Json) → List (String × Json)
  | [] => []
  | (k, v) :: rest => (k, shape v) :: shapeMembers rest

end

namespace Outline

mutual

def shape : Outline → Outline
  | .string _ => .string (some "")
  | .array items closed => .array (shapeItems items) closed
  | .object members closed => .object (shapeMembers members) closed
  | o => o

def shapeItems : List Outline → List Outline
  | [] => []
  | o :: rest => shape o :: shapeItems rest

def shapeMembers : List (Option String × Outline) → List (Option String × Outline)
  | [] => []
  | (name, o) :: rest => (name, shape o) :: shapeMembers rest

end

end Outline

theorem insertMember_shape (name : String) (v : Json) (members : List (String × Json)) :
    insertMember name v.shape (shapeMembers members) =
      shapeMembers (insertMember name v members) := by
  induction members with
  | nil => rfl
  | cons member rest ih =>
    obtain ⟨k, w⟩ := member
    simp only [shapeMembers, insertMember]
    split
    · rfl
    · split
      · rfl
      · rw [shapeMembers, ih]

theorem sortMembers_shape (members : List (String × Json)) :
    sortMembers (shapeMembers members) = shapeMembers (sortMembers members) := by
  have sorted (done : List (String × Json)) :
      (shapeMembers members).foldl (fun s m => insertMember m.1 m.2 s) (shapeMembers done) =
        shapeMembers (members.foldl (fun s m => insertMember m.1 m.2 s) done) := by
    induction members generalizing done with
    | nil => rfl
    | cons member rest ih =>
      obtain ⟨k, v⟩ := member
      rw [shapeMembers, List.foldl_cons, List.foldl_cons, insertMember_shape, ih]
  exact sorted []

mutual

theorem json?_shape (o : Outline) (room : Nat) {v : Json} (read : o.json? room = some v) :
    o.shape.json? room = some v.shape := by
  cases o with
  | null | bool b =>
    cases read
    rfl
  | number n =>
    obtain ⟨number, rfl, rfl⟩ := Option.map_eq_some_iff.mp read
    rfl
  | string s =>
    obtain ⟨content, rfl, rfl⟩ := Option.map_eq_some_iff.mp read
    rfl
  | fault => contradiction
  | array items closed =>
    cases room with
    | zero => contradiction
    | succ room =>
      cases closed with
      | false => contradiction
      | true =>
        obtain ⟨values, found, rfl⟩ := Option.map_eq_some_iff.mp read
        simp only [Outline.shape, Outline.json?, if_true, jsonItems?_shape items room found,
          Option.map_some, shape]
  | object members closed =>
    cases room with
    | zero => contradiction
    | succ room =>
      cases closed with
      | false => contradiction
      | true =>
        obtain ⟨values, found, rfl⟩ := Option.map_eq_some_iff.mp read
        simp only [Outline.shape, Outline.json?, if_true, jsonMembers?_shape members room found,
          Option.map_some, shape, ofMembers, sortMembers_shape]

theorem jsonItems?_shape (items : List Outline) (room : Nat) {values : List Json}
    (read : Outline.jsonItems? room items = some values) :
    Outline.jsonItems? room (Outline.shapeItems items) = some (shapeItems values) := by
  cases items with
  | nil =>
    cases read
    rfl
  | cons o rest =>
    obtain ⟨v, first, others⟩ := Option.bind_eq_some_iff.mp read
    obtain ⟨values, later, rfl⟩ := Option.map_eq_some_iff.mp others
    simp only [Outline.shapeItems, Outline.jsonItems?, json?_shape o room first,
      jsonItems?_shape rest room later, Option.bind_some, Option.map_some, shapeItems]

theorem jsonMembers?_shape (members : List (Option String × Outline)) (room : Nat)
    {values : List (String × Json)} (read : Outline.jsonMembers? room members = some values) :
    Outline.jsonMembers? room (Outline.shapeMembers members) = some (shapeMembers values) := by
  cases members with
  | nil =>
    cases read
    rfl
  | cons member rest =>
    obtain ⟨name, o⟩ := member
    obtain ⟨k, rfl, named⟩ := Option.bind_eq_some_iff.mp read
    obtain ⟨v, first, others⟩ := Option.bind_eq_some_iff.mp named
    obtain ⟨values, later, rfl⟩ := Option.map_eq_some_iff.mp others
    simp only [Outline.shapeMembers, Outline.jsonMembers?, json?_shape o room first,
      jsonMembers?_shape rest room later, Option.bind_some, Option.map_some, shapeMembers]

end

def textShape (bytes : List UInt8) : Outline := (Outline.ofTokens (tokens bytes)).1.shape

theorem json?_of_readText {bytes : List UInt8} {v : Json} (read : readText .any bytes = .ok v) :
    (Outline.ofTokens (tokens bytes)).1.json? textRoom = some v := by
  simp only [readText, Reader.any, Source.room] at read
  cases found : (Outline.ofTokens (tokens bytes)).1.json? textRoom with
  | none =>
    rw [found] at read
    contradiction
  | some w =>
    rw [found] at read
    simp only [bind, Except.bind] at read
    split at read
    · rw [Except.ok.inj read]
    · contradiction

/-- Texts of one shape are read as values of one shape. -/
theorem shape_eq_of_textShape {bytes bytes' : List UInt8} {v w : Json}
    (same : textShape bytes = textShape bytes') (read : readText .any bytes = .ok v)
    (read' : readText .any bytes' = .ok w) : v.shape = w.shape := by
  have first := json?_shape _ _ (json?_of_readText read)
  have second := json?_shape _ _ (json?_of_readText read')
  rw [← textShape, same, textShape, second] at first
  exact (Option.some.inj first).symm

inductive Twins : Json → Json → Prop where
  | null : Twins .null .null
  | bool (b : Bool) : Twins (.bool b) (.bool b)
  | number (n : Number) : Twins (.number n) (.number n)
  | string (s t : String) : Twins (.string s) (.string t)
  | array {items others : List Json} (same : shapeItems items = shapeItems others) :
      Twins (.array items) (.array others)
  | object {members others : List (String × Json)}
      (same : shapeMembers members = shapeMembers others) : Twins (.object members) (.object others)

theorem twins_of_shape {v w : Json} (same : v.shape = w.shape) : Twins v w := by
  cases v with
  | null => cases w <;> first | contradiction | exact .null
  | bool b => cases w <;> first | contradiction | (cases same; exact .bool b)
  | number n => cases w <;> first | contradiction | (cases same; exact .number n)
  | string s => cases w <;> first | contradiction | exact .string s _
  | array items => cases w <;> first | contradiction | exact .array (Json.array.inj same)
  | object members => cases w <;> first | contradiction | exact .object (Json.object.inj same)

theorem length_eq_of_shapeItems {items others : List Json}
    (same : shapeItems items = shapeItems others) : items.length = others.length := by
  induction items generalizing others with
  | nil =>
    cases others with
    | nil => rfl
    | cons w others => cases same
  | cons v items ih =>
    cases others with
    | nil => cases same
    | cons w others =>
      rw [List.length_cons, List.length_cons, ih (List.cons.inj same).2]

theorem length_ofItems (items : List Json) : (Outline.ofItems items).length = items.length := by
  induction items with
  | nil => rfl
  | cons v rest ih => rw [Outline.ofItems, List.length_cons, ih, List.length_cons]

mutual

@[simp] theorem sound_ofJson (v : Json) : (Outline.ofJson v).sound = true := by
  cases v with
  | null | bool _ | number _ | string _ => rfl
  | array items => simp only [Outline.ofJson, Outline.sound, Bool.true_and, soundItems_ofItems]
  | object members =>
    simp only [Outline.ofJson, Outline.sound, Bool.true_and, soundMembers_ofMemberList]

theorem soundItems_ofItems (items : List Json) :
    Outline.soundItems (Outline.ofItems items) = true := by
  cases items with
  | nil => rfl
  | cons v rest =>
    simp only [Outline.ofItems, Outline.soundItems, sound_ofJson v, soundItems_ofItems rest,
      Bool.true_and]

theorem soundMembers_ofMemberList (members : List (String × Json)) :
    Outline.soundMembers (Outline.ofMemberList members) = true := by
  cases members with
  | nil => rfl
  | cons member rest =>
    obtain ⟨k, v⟩ := member
    simp only [Outline.ofMemberList, Outline.soundMembers, sound_ofJson v,
      soundMembers_ofMemberList rest, Bool.true_and]

end

mutual

theorem exists_json? (v : Json) {room : Nat} (fits : (Outline.ofJson v).depth ≤ room) :
    ∃ w, (Outline.ofJson v).json? room = some w := by
  cases v with
  | null | bool _ | number _ | string _ => exact ⟨_, rfl⟩
  | array items =>
    cases room with
    | zero => contradiction
    | succ room =>
      obtain ⟨values, read⟩ := exists_jsonItems? items (Nat.le_of_succ_le_succ fits)
      exact ⟨.array values, by
        simp only [Outline.ofJson, Outline.json?, if_true, read, Option.map_some]⟩
  | object members =>
    cases room with
    | zero => contradiction
    | succ room =>
      obtain ⟨values, read⟩ := exists_jsonMembers? members (Nat.le_of_succ_le_succ fits)
      exact ⟨ofMembers values, by
        simp only [Outline.ofJson, Outline.json?, if_true, read, Option.map_some]⟩

theorem exists_jsonItems? (items : List Json) {room : Nat}
    (fits : Outline.depthItems (Outline.ofItems items) ≤ room) :
    ∃ values, Outline.jsonItems? room (Outline.ofItems items) = some values := by
  cases items with
  | nil => exact ⟨[], rfl⟩
  | cons v rest =>
    obtain ⟨first, others⟩ := Nat.max_le.mp fits
    obtain ⟨w, read⟩ := exists_json? v first
    obtain ⟨values, later⟩ := exists_jsonItems? rest others
    exact ⟨w :: values, by
      simp only [Outline.ofItems, Outline.jsonItems?, read, later, Option.bind_some,
        Option.map_some]⟩

theorem exists_jsonMembers? (members : List (String × Json)) {room : Nat}
    (fits : Outline.depthMembers (Outline.ofMemberList members) ≤ room) :
    ∃ values, Outline.jsonMembers? room (Outline.ofMemberList members) = some values := by
  cases members with
  | nil => exact ⟨[], rfl⟩
  | cons member rest =>
    obtain ⟨k, v⟩ := member
    obtain ⟨first, others⟩ := Nat.max_le.mp fits
    obtain ⟨w, read⟩ := exists_json? v first
    obtain ⟨values, later⟩ := exists_jsonMembers? rest others
    exact ⟨(k, w) :: values, by
      simp only [Outline.ofMemberList, Outline.jsonMembers?, read, later, Option.bind_some,
        Option.map_some]⟩

end

theorem exists_members (members : List (String × Json)) :
    ∃ found, readValue Reader.members (.object members) = .ok found := by
  obtain ⟨values, read⟩ := exists_jsonMembers? members (Nat.le_refl _)
  refine ⟨sortMembers values, ?_⟩
  simp only [readValue, Outline.ofJson, Reader.members, Source.room, Outline.depth, Outline.json?,
    if_true, read, Option.map_some, ofMembers]

/-- Two readings that end alike, but for a string that each of them shows. -/
inductive Parallel {α : Type} :
    Option String → Option String → Except Misfit α → Except Misfit α → Prop where
  | read (a b : α) : Parallel none none (.ok a) (.ok b)
  | failed (misfit : Misfit) : Parallel none none (.error misfit) (.error misfit)
  | shown (s t expected : String) : Parallel (some s) (some t)
      (.error (.kind (.string s) expected)) (.error (.kind (.string t) expected))

section

variable {α β : Type} {shown shown' : Option String} {r r' : Except Misfit α}

theorem Parallel.bind {f f' : α → Except Misfit β} (parallel : Parallel shown shown' r r')
    (next : ∀ a a', Parallel none none (f a) (f' a')) :
    Parallel shown shown' (r.bind f) (r'.bind f') := by
  cases parallel with
  | read a b => exact next a b
  | failed misfit => exact .failed misfit
  | shown s t expected => exact .shown s t expected

theorem Parallel.map {f f' : α → β} (parallel : Parallel shown shown' r r') :
    Parallel shown shown' (r.map f) (r'.map f') := by
  cases parallel with
  | read a b => exact .read _ _
  | failed misfit => exact .failed misfit
  | shown s t expected => exact .shown s t expected

theorem Parallel.message_eq_iff {misfit misfit' : Misfit}
    (parallel : Parallel shown shown' (.error misfit : Except Misfit α) (.error misfit')) :
    misfit.message = misfit'.message ↔ shown = shown' := by
  cases parallel with
  | failed => exact ⟨fun _ => rfl, fun _ => rfl⟩
  | shown s t expected =>
    constructor
    · intro same
      have found := (String.append_left_inj expected).mp same
      have quotes := (String.append_right_inj "invalid type: ").mp
        ((String.append_left_inj ", expected ").mp found)
      rw [Text.quoted_injective ((String.append_right_inj "string ").mp quotes)]
    · intro same
      rw [Option.some.inj same]

end

/-- Of a value a reading says nothing but its shape and the string that it shows. -/
def Discreet {α : Type} (reader : Reader α) (shown : Json → Option String) : Prop :=
  ∀ v w : Json, v.shape = w.shape →
    Parallel (shown v) (shown w) (readValue reader v) (readValue reader w)

def misplaced : Json → Option String
  | .string s => some s
  | _ => none

def misplacedIn (name : String) (inner : Json → Option String) : Json → Option String
  | .object members => (members.find? (·.1 = name)).bind fun member => inner member.2
  | .array items => items.head?.bind inner
  | v => misplaced v

theorem discreet_members : Discreet Reader.members misplaced := by
  intro v w same
  cases twins_of_shape same with
  | null | bool _ | number _ | array _ => exact .failed _
  | string s t => exact .shown s t _
  | @object members others same =>
    obtain ⟨found, read⟩ := exists_members members
    obtain ⟨found', read'⟩ := exists_members others
    rw [read, read']
    exact .read found found'

theorem discreet_optional {α : Type} {reader : Reader α} {shown : Json → Option String}
    (discreet : Discreet reader shown) (null : shown .null = none) :
    Discreet (.optional reader) shown := by
  intro v w same
  have parallel : Parallel (shown v) (shown w) ((readValue reader v).map some)
      ((readValue reader w).map some) := (discreet v w same).map
  cases twins_of_shape same with
  | null =>
    rw [null]
    exact .read none none
  | bool _ | number _ | string _ _ | array _ | object _ => exact parallel

section

variable {α β : Type} {record : Record α} {name : String} {reader : Reader β} {set : β → α → α}
  (single : record.fields = [.of name reader set])

include single

theorem readMembers_named (v : Json) (rest : List (String × Json)) (seen : List String) (a : α) :
    record.readMembers .value (Outline.ofMemberList ((name, v) :: rest)) seen a =
      if seen.contains name then .error (.repeated name)
      else ((readValue reader v).map set).bind fun put =>
        record.readMembers .value (Outline.ofMemberList rest) (name :: seen) (put a) := by
  have found : record.fields.find? (·.name = name) = some (.of name reader set) := by
    rw [single, List.find?_cons_of_pos (by simp [Field.of])]
  rw [Outline.ofMemberList, Record.readMembers, found]
  rfl

theorem readMembers_other {k : String} (other : k ≠ name) (v : Json) (rest : List (String × Json))
    (seen : List String) (a : α) :
    record.readMembers .value (Outline.ofMemberList ((k, v) :: rest)) seen a =
      record.readMembers .value (Outline.ofMemberList rest) seen a := by
  have missing : record.fields.find? (·.name = k) = none := by
    rw [single, List.find?_cons_of_neg (by simp [Field.of, other.symm]), List.find?_nil]
  rw [Outline.ofMemberList, Record.readMembers, missing]
  simp only [sound_ofJson, if_true]

theorem unrequired (seen : List String) :
    record.fields.find? (fun field => field.required && !seen.contains field.name) = none := by
  rw [single]
  rfl

theorem read_none : readValue record.read (.array []) = .ok record.start := by
  simp only [readValue, Outline.ofJson, Outline.ofItems, Record.read, Source.enter, single]
  rfl

theorem read_items (v : Json) (rest : List Json) :
    readValue record.read (.array (v :: rest)) =
      ((readValue reader v).map set).bind fun put =>
        if rest.length = 0 then .ok (put record.start)
        else .error (.tooMany (rest.length + 1)) := by
  simp only [readValue, Outline.ofJson, Outline.ofItems, Record.read, Source.enter, single,
    Record.readItems, Field.of]
  cases reader .value (Outline.ofJson v) with
  | error misfit => rfl
  | ok found =>
    cases rest with
    | nil => rfl
    | cons w rest =>
      simp [Except.map, Except.bind, bind, Outline.ofItems, Record.excess, length_ofItems]

variable {inner : Json → Option String} (discreet : Discreet reader inner)

include discreet

/-- Only the first member of the name is looked into; a second one is refused for its name. -/
theorem readMembers_parallel {members others : List (String × Json)}
    (same : shapeMembers members = shapeMembers others) (seen : List String) (a b : α) :
    Parallel
      (if seen.contains name then none
        else (members.find? (·.1 = name)).bind fun member => inner member.2)
      (if seen.contains name then none
        else (others.find? (·.1 = name)).bind fun member => inner member.2)
      (record.readMembers .value (Outline.ofMemberList members) seen a)
      (record.readMembers .value (Outline.ofMemberList others) seen b) := by
  induction members generalizing others seen a b with
  | nil =>
    cases others with
    | nil =>
      simp only [List.find?_nil, Option.bind_none, ite_self]
      exact .read _ _
    | cons other others => cases same
  | cons member members ih =>
    cases others with
    | nil => cases same
    | cons other others =>
      obtain ⟨k, v⟩ := member
      obtain ⟨k', w⟩ := other
      obtain ⟨head, rest⟩ := List.cons.inj same
      obtain ⟨rfl, values⟩ := Prod.mk.inj head
      by_cases named : k = name
      · subst named
        rw [readMembers_named single, readMembers_named single]
        by_cases again : seen.contains k = true
        · rw [if_pos again, if_pos again, if_pos again, if_pos again]
          exact .failed _
        · rw [if_neg again, if_neg again, if_neg again, if_neg again,
            List.find?_cons_of_pos (by simp), List.find?_cons_of_pos (by simp)]
          refine ((discreet v w values).map).bind fun put put' => ?_
          -- The name is among those seen from here on, so the later members show nothing.
          have later := ih rest (k :: seen) (put a) (put' b)
          rwa [if_pos (by simp), if_pos (by simp)] at later
      · rw [readMembers_other single named, readMembers_other single named,
          List.find?_cons_of_neg (by simpa using named),
          List.find?_cons_of_neg (by simpa using named)]
        exact ih rest seen a b

/-- A record with one optional field shows what stands in its place or in that of the field. -/
theorem discreet_record : Discreet record.read (misplacedIn name inner) := by
  intro v w same
  cases twins_of_shape same with
  | null | bool _ | number _ => exact .failed _
  | string s t => exact .shown s t _
  | @object members others parts =>
    have parallel := readMembers_parallel single discreet parts [] record.start record.start
    refine parallel.bind fun read read' => ?_
    simp only [unrequired single]
    exact .read _ _
  | @array items others parts =>
    have lengths := length_eq_of_shapeItems parts
    cases items with
    | nil =>
      rw [List.eq_nil_of_length_eq_zero lengths.symm, read_none single]
      exact .read _ _
    | cons item items =>
      cases others with
      | nil => contradiction
      | cons other others =>
        rw [read_items single, read_items single, ← Nat.succ.inj lengths]
        refine ((discreet item other (List.cons.inj parts).1).map).bind fun put put' => ?_
        split
        · exact .read _ _
        · exact .failed _

end

end ControlPlane.Json
