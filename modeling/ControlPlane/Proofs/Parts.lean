import ControlPlane.Proofs.Fields
import ControlPlane.Proofs.Meaning
import ControlPlane.Proofs.Shape
/-!
Records with one field, read from values. The value of a text has the members of its objects in
order, each name once, so that one part of it at most stands for the field.
-/
namespace ControlPlane.Json

mutual

theorem inOrder_of_json? (o : Outline) (room : Nat) {v : Json} (read : o.json? room = some v) :
    Throughout InOrder v := by
  cases o with
  | null | bool b =>
    cases read
    trivial
  | number n =>
    obtain ⟨number, rfl, rfl⟩ := Option.map_eq_some_iff.mp read
    trivial
  | string s =>
    obtain ⟨content, rfl, rfl⟩ := Option.map_eq_some_iff.mp read
    trivial
  | fault => contradiction
  | array items closed =>
    cases room with
    | zero => contradiction
    | succ room =>
      cases closed with
      | false => contradiction
      | true =>
        obtain ⟨values, found, rfl⟩ := Option.map_eq_some_iff.mp read
        exact ⟨trivial, inOrder_of_jsonItems? items room found⟩
  | object members closed =>
    cases room with
    | zero => contradiction
    | succ room =>
      cases closed with
      | false => contradiction
      | true =>
        obtain ⟨values, found, rfl⟩ := Option.map_eq_some_iff.mp read
        have each := inOrder_of_jsonMembers? members room found
        refine ⟨sortMembers_inOrder values, throughoutMembers_iff.mpr fun m member => ?_⟩
        exact each m (mem_sortMembers member)

theorem inOrder_of_jsonItems? (items : List Outline) (room : Nat) {values : List Json}
    (read : Outline.jsonItems? room items = some values) : ThroughoutItems InOrder values := by
  cases items with
  | nil =>
    cases read
    trivial
  | cons o rest =>
    obtain ⟨v, first, others⟩ := Option.bind_eq_some_iff.mp read
    obtain ⟨values, later, rfl⟩ := Option.map_eq_some_iff.mp others
    exact ⟨inOrder_of_json? o room first, inOrder_of_jsonItems? rest room later⟩

theorem inOrder_of_jsonMembers? (members : List (Option String × Outline)) (room : Nat)
    {values : List (String × Json)} (read : Outline.jsonMembers? room members = some values) :
    ∀ m ∈ values, Throughout InOrder m.2 := by
  cases members with
  | nil =>
    cases read
    exact List.forall_mem_nil _
  | cons member rest =>
    obtain ⟨name, o⟩ := member
    obtain ⟨k, rfl, named⟩ := Option.bind_eq_some_iff.mp read
    obtain ⟨v, first, others⟩ := Option.bind_eq_some_iff.mp named
    obtain ⟨values, later, rfl⟩ := Option.map_eq_some_iff.mp others
    rw [List.forall_mem_cons]
    exact ⟨inOrder_of_json? o room first, inOrder_of_jsonMembers? rest room later⟩

end

theorem inOrder_of_readText {bytes : List UInt8} {v : Json} (read : readText .any bytes = .ok v) :
    Throughout InOrder v :=
  inOrder_of_json? _ _ (json?_of_readText read)

theorem inOrder_of_throughout {v : Json} (ordered : Throughout InOrder v) : InOrder v := by
  cases v with
  | array _ | object _ => exact ordered.1
  | null | bool _ | number _ | string _ => trivial

/-- What stands for the field of a name: the member of the name, or the one item of an array. -/
inductive Part (name : String) : Json → Option Json → Prop where
  | absent {members : List (String × Json)} (none_ : ∀ m ∈ members, m.1 ≠ name) :
      Part name (.object members) none
  | member {members : List (String × Json)} {v : Json} (held : (name, v) ∈ members) :
      Part name (.object members) (some v)
  | noItem : Part name (.array []) none
  | item (v : Json) : Part name (.array [v]) (some v)

def Vacant (name : String) (v : Json) : Prop :=
  ∃ part, Part name v part ∧ ∀ w, part = some w → w = .null

theorem Part.inOrder {name : String} {v w : Json} (part : Part name v (some w))
    (ordered : Throughout InOrder v) : Throughout InOrder w := by
  cases part with
  | member held => exact throughoutMembers_iff.mp ordered.2 _ held
  | item _ => exact ordered.2.1

theorem Part.filled {name : String} {v : Json} {part : Option Json} (stands : Part name v part) :
    v ≠ .null := by
  rintro rfl
  contradiction

theorem Vacant.filled {name : String} {v : Json} (vacant : Vacant name v) : v ≠ .null := by
  obtain ⟨part, stands, -⟩ := vacant
  exact stands.filled

theorem readValue_optional {α : Type} (reader : Reader α) {v : Json} (filled : v ≠ .null) :
    readValue (.optional reader) v = (readValue reader v).map some := by
  cases v with
  | null => exact absurd rfl filled
  | bool _ | number _ | string _ | array _ | object _ => rfl

theorem readValue_members {members : List (String × Json)}
    (ordered : Throughout InOrder (.object members)) :
    readValue .members (.object members) = .ok members := by
  have value := json?_ofJson ordered (Nat.le_refl _)
  simp only [Outline.ofJson] at value
  simp only [readValue, Outline.ofJson, Reader.members, Source.room, value]

theorem exists_of_members {v : Json} {members : List (String × Json)}
    (read : readValue .members v = .ok members) : ∃ found, v = .object found := by
  cases v with
  | object found => exact ⟨found, rfl⟩
  | null | bool _ | number _ | string _ | array _ => contradiction

section

variable {α β : Type} {record : Record α} {name : String} {reader : Reader β} {set : β → α → α}
  (single : record.fields = [.of name reader set])

include single

theorem readMembers_absent {members : List (String × Json)} (none_ : ∀ m ∈ members, m.1 ≠ name)
    (seen : List String) (a : α) :
    record.readMembers .value (Outline.ofMemberList members) seen a = .ok (seen, a) := by
  induction members with
  | nil => rfl
  | cons m rest ih =>
    rw [List.forall_mem_cons] at none_
    rw [readMembers_other single none_.1, ih none_.2]

theorem readMembers_held {members : List (String × Json)} {v : Json}
    (ordered : members.Pairwise fun m n => m.1 < n.1) (held : (name, v) ∈ members)
    {seen : List String} (new : seen.contains name = false) (a : α) :
    record.readMembers .value (Outline.ofMemberList members) seen a =
      (readValue reader v).map fun x => (name :: seen, set x a) := by
  induction members with
  | nil => contradiction
  | cons m rest ih =>
    obtain ⟨k, w⟩ := m
    obtain ⟨above, later⟩ := List.pairwise_cons.mp ordered
    rcases List.mem_cons.mp held with same | held
    · obtain ⟨rfl, rfl⟩ := Prod.mk.inj same
      rw [readMembers_named single, new, if_neg Bool.false_ne_true]
      cases readValue reader v with
      | error misfit => rfl
      | ok x => exact readMembers_absent single (fun n member => (above n member).ne') _ _
    · rw [readMembers_other single (above _ held).ne, ih later held]

theorem read_absent {v : Json} (absent : Part name v none) :
    readValue record.read v = .ok record.start := by
  cases absent with
  | absent none_ =>
    simp only [readValue, Outline.ofJson, Record.read, Source.enter, unrequired single,
      readMembers_absent single none_]
    rfl
  | noItem => exact read_none single

theorem read_held {v w : Json} (ordered : InOrder v) (held : Part name v (some w)) :
    readValue record.read v = (readValue reader w).map fun x => set x record.start := by
  cases held with
  | member held =>
    have new : ([] : List String).contains name = false := rfl
    simp only [readValue, Outline.ofJson, Record.read, Source.enter, unrequired single,
      readMembers_held single ordered held new]
    cases reader .value (Outline.ofJson w) <;> rfl
  | item w =>
    rw [read_items single]
    cases readValue reader w <;> rfl

theorem exists_part {v : Json} {a : α} (read : readValue record.read v = .ok a) :
    ∃ part, Part name v part := by
  cases v with
  | null | bool _ | number _ | string _ => contradiction
  | object members =>
    by_cases some_ : ∃ w, (name, w) ∈ members
    · obtain ⟨w, held⟩ := some_
      exact ⟨some w, .member held⟩
    · refine ⟨none, .absent ?_⟩
      rintro ⟨k, w⟩ member rfl
      exact some_ ⟨w, member⟩
  | array items =>
    cases items with
    | nil => exact ⟨none, .noItem⟩
    | cons w rest =>
      cases rest with
      | nil => exact ⟨some w, .item w⟩
      | cons other rest =>
        rw [read_items single] at read
        obtain ⟨put, -, ended⟩ := exists_of_bind read
        contradiction

end

section

variable {α β : Type} {record : Record α} {name : String} {reader : Reader β}
  {set : Option β → α → α} (single : record.fields = [.of name (.optional reader) set])

include single

theorem read_vacant (null : set none record.start = record.start) {v : Json} (ordered : InOrder v)
    (vacant : Vacant name v) : readValue record.read v = .ok record.start := by
  obtain ⟨part, stands, empty⟩ := vacant
  cases part with
  | none => exact read_absent single stands
  | some w =>
    obtain rfl := empty w rfl
    rw [read_held single ordered stands]
    exact congrArg Except.ok null

theorem read_filled {v w : Json} (ordered : InOrder v) (held : Part name v (some w))
    (filled : w ≠ .null) :
    readValue record.read v = (readValue reader w).map fun x => set (some x) record.start := by
  rw [read_held single ordered held, readValue_optional reader filled]
  cases readValue reader w <;> rfl

end

end ControlPlane.Json
