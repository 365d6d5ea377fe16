import ControlPlane.Proofs.Records
/-!
What a record was read from. An object or an array writes an outline for a field or leaves the field
out, and a record that could be read holds what its outline writes, or else what it holds from the
start.
-/
namespace ControlPlane.Json

variable {α : Type}

theorem exists_of_bind {β γ : Type} {x : Except Misfit β} {f : β → Except Misfit γ} {c : γ}
    (ran : x >>= f = .ok c) : ∃ b, x = .ok b ∧ f b = .ok c := by
  cases x with
  | error misfit => contradiction
  | ok b => exact ⟨b, rfl, ran⟩

theorem exists_of_map {β γ : Type} {x : Except Misfit β} {f : β → γ} {c : γ}
    (ran : x.map f = .ok c) : ∃ b, x = .ok b ∧ f b = c := by
  cases x with
  | error misfit => contradiction
  | ok b => exact ⟨b, rfl, Except.ok.inj ran⟩

theorem readText_eq_ok_iff {reader : Reader α} {bytes : List UInt8} {a : α} :
    readText reader bytes = .ok a ↔
      ∃ o, Outline.ofTokens (tokens bytes) = (o, true) ∧ reader (.text textRoom) o = .ok a := by
  rw [readText]
  rcases Outline.ofTokens (tokens bytes) with ⟨o, complete⟩
  constructor
  · intro ran
    obtain ⟨b, read, ended⟩ := exists_of_bind ran
    split at ended
    · rename_i whole
      rw [Except.ok.inj ended] at read
      exact ⟨o, by rw [whole], read⟩
    · contradiction
  · rintro ⟨_, ⟨⟩, read⟩
    simp only [read, bind, Except.bind, if_true]

/-- What an outline writes for a field of a record: the first member of its name, or the item in its
place. -/
def Record.written (r : Record α) (name : String) : Outline → Option Outline
  | .object members _ => (outlinesOf name members).head?
  | .array items _ => items[r.fields.findIdx (·.name = name)]?
  | _ => none

/-- One field of a record reads what the record holds under `get`, and no other field touches it. -/
structure Record.Decides {β : Type} (r : Record α) (name : String) (reader : Reader β)
    (get : α → β) : Prop where
  listed : ∃ field ∈ r.fields, field.name = name
  distinct : (r.fields.map (·.name)).Nodup
  own : ∀ field ∈ r.fields, field.name = name → ∀ source o set, field.read source o = .ok set →
    ∃ x, reader source o = .ok x ∧ ∀ a, get (set a) = x
  others : ∀ field ∈ r.fields, field.name ≠ name → ∀ source o set, field.read source o = .ok set →
    ∀ a, get (set a) = get a

theorem exists_of_field {β : Type} {name : String} {reader : Reader β} {set : β → α → α}
    {required : Bool} {source : Source} {o : Outline} {put : α → α}
    (read : (Field.of name reader set required).read source o = .ok put) :
    ∃ x, reader source o = .ok x ∧ set x = put :=
  exists_of_map read

theorem exists_of_readMembers {r : Record α} {source : Source} {k : Option String} {o : Outline}
    {rest : List (Option String × Outline)} {seen later : List String} {a b : α}
    (read : r.readMembers source ((k, o) :: rest) seen a = .ok (later, b)) :
    ∃ name, k = some name ∧
      ((r.fields.find? (·.name = name) = none ∧
          r.readMembers source rest seen a = .ok (later, b)) ∨
        ∃ field set, field ∈ r.fields ∧ field.name = name ∧ name ∉ seen ∧
          field.read source o = .ok set ∧
          r.readMembers source rest (name :: seen) (set a) = .ok (later, b)) := by
  cases k with
  | none => contradiction
  | some name =>
    refine ⟨name, rfl, ?_⟩
    rw [Record.readMembers] at read
    cases found : r.fields.find? (·.name = name) with
    | none =>
      rw [found] at read
      dsimp only at read
      split at read
      · exact .inl ⟨rfl, read⟩
      · contradiction
    | some field =>
      rw [found] at read
      dsimp only at read
      split at read
      · contradiction
      · rename_i new
        obtain ⟨set, own, next⟩ := exists_of_bind read
        have named : field.name = name := by simpa using List.find?_some found
        exact .inr ⟨field, set, List.mem_of_find?_eq_some found, named, by simpa using new, own,
          next⟩

theorem readItems_none {r : Record α} {source : Source} {closed : Bool} {fields : List (Field α)}
    {rest : List Outline} {index : Nat} {a b : α}
    (read : r.readItems source closed fields [] index a = .ok (rest, b)) : b = a := by
  induction fields generalizing index with
  | nil =>
    cases read
    rfl
  | cons field fields ih =>
    rw [Record.readItems] at read
    split at read
    · contradiction
    · split at read
      · contradiction
      · exact ih read

theorem exists_of_readItems {r : Record α} {source : Source} {closed : Bool} {field : Field α}
    {fields : List (Field α)} {o : Outline} {items rest : List Outline} {index : Nat} {a b : α}
    (read : r.readItems source closed (field :: fields) (o :: items) index a = .ok (rest, b)) :
    ∃ set, field.read source o = .ok set ∧
      r.readItems source closed fields items (index + 1) (set a) = .ok (rest, b) :=
  exists_of_bind read

theorem exists_of_read {r : Record α} {source : Source} {o : Outline} {a : α}
    (read : r.read source o = .ok a) :
    ∃ inner, source.enter = some inner ∧
      ((∃ members closed seen, o = .object members closed ∧
          r.readMembers inner members [] r.start = .ok (seen, a)) ∨
        ∃ items closed rest, o = .array items closed ∧
          r.readItems inner closed r.fields items 0 r.start = .ok (rest, a)) := by
  cases o with
  | object members closed =>
    rw [Record.read] at read
    cases entered : source.enter with
    | none =>
      rw [entered] at read
      contradiction
    | some inner =>
      rw [entered] at read
      obtain ⟨⟨seen, b⟩, inside, ended⟩ := exists_of_bind read
      dsimp only at ended
      split at ended
      · contradiction
      · split at ended
        · contradiction
        · rw [Except.ok.inj ended] at inside
          exact ⟨inner, rfl, .inl ⟨members, closed, seen, rfl, inside⟩⟩
  | array items closed =>
    rw [Record.read] at read
    cases entered : source.enter with
    | none =>
      rw [entered] at read
      contradiction
    | some inner =>
      rw [entered] at read
      obtain ⟨⟨rest, b⟩, inside, ended⟩ := exists_of_bind read
      dsimp only at ended
      split at ended
      · contradiction
      · split at ended
        · rw [Except.ok.inj ended] at inside
          exact ⟨inner, rfl, .inr ⟨items, closed, rest, rfl, inside⟩⟩
        · contradiction
  | null | bool _ | number _ | string _ | fault => contradiction

section

variable {β : Type} {r : Record α} {name : String} {reader : Reader β} {get : α → β}
  (decides : r.Decides name reader get) {source : Source}

include decides

theorem get_of_seen {members : List (Option String × Outline)} {seen later : List String} {a b : α}
    (known : name ∈ seen) (read : r.readMembers source members seen a = .ok (later, b)) :
    get b = get a := by
  induction members generalizing seen a with
  | nil =>
    cases read
    rfl
  | cons m rest ih =>
    obtain ⟨k, o⟩ := m
    obtain ⟨k, rfl, ⟨-, next⟩ | ⟨field, set, listed, rfl, new, own, next⟩⟩ :=
      exists_of_readMembers read
    · exact ih known next
    · have other : field.name ≠ name := fun same => new (same ▸ known)
      rw [ih (.tail _ known) next, decides.others field listed other _ _ _ own]

theorem get_of_readMembers {members : List (Option String × Outline)} {seen later : List String}
    {a b : α} (new : name ∉ seen) (read : r.readMembers source members seen a = .ok (later, b)) :
    match (outlinesOf name members).head? with
    | none => get b = get a
    | some o => reader source o = .ok (get b) := by
  induction members generalizing seen a with
  | nil =>
    cases read
    rfl
  | cons m rest ih =>
    obtain ⟨k, o⟩ := m
    obtain ⟨k, rfl, ⟨unknown, next⟩ | ⟨field, set, listed, rfl, -, own, next⟩⟩ :=
      exists_of_readMembers read
    · obtain ⟨field, listed, named⟩ := decides.listed
      have other : k ≠ name := by
        intro same
        have missing := List.find?_eq_none.mp unknown field listed
        simp [named, same] at missing
      rw [outlinesOf_other other]
      exact ih new next
    · by_cases named : field.name = name
      · obtain ⟨x, found, puts⟩ := decides.own field listed named _ _ _ own
        rw [named] at next ⊢
        rw [outlinesOf_same, List.head?_cons]
        dsimp only
        -- A second member of the name would be refused, so the later ones leave the field alone.
        rw [get_of_seen decides List.mem_cons_self next, puts a, found]
      · rw [outlinesOf_other named, ← decides.others field listed named _ _ _ own a]
        exact ih (by simp [new, Ne.symm named]) next

theorem get_of_unlisted {closed : Bool} {fields : List (Json.Field α)} {items rest : List Outline}
    {index : Nat} {a b : α} (others : ∀ field ∈ fields, field ∈ r.fields ∧ field.name ≠ name)
    (read : r.readItems source closed fields items index a = .ok (rest, b)) : get b = get a := by
  induction fields generalizing items index a with
  | nil =>
    cases read
    rfl
  | cons field fields ih =>
    rw [List.forall_mem_cons] at others
    cases items with
    | nil => rw [readItems_none read]
    | cons o items =>
      obtain ⟨set, own, next⟩ := exists_of_readItems read
      obtain ⟨⟨listed, other⟩, later⟩ := others
      rw [ih later next, decides.others field listed other _ _ _ own]

theorem get_of_readItems {closed : Bool} {fields : List (Json.Field α)} {items rest : List Outline}
    {index : Nat} {a b : α} (known : ∀ field ∈ fields, field ∈ r.fields)
    (distinct : (fields.map (·.name)).Nodup) (listed : ∃ field ∈ fields, field.name = name)
    (read : r.readItems source closed fields items index a = .ok (rest, b)) :
    match items[fields.findIdx (·.name = name)]? with
    | none => get b = get a
    | some o => reader source o = .ok (get b) := by
  induction fields generalizing items index a with
  | nil =>
    obtain ⟨field, member, -⟩ := listed
    contradiction
  | cons field fields ih =>
    rw [List.forall_mem_cons] at known
    rw [List.map_cons, List.nodup_cons] at distinct
    cases items with
    | nil =>
      rw [List.getElem?_nil]
      exact congrArg get (readItems_none read)
    | cons o items =>
      obtain ⟨set, own, next⟩ := exists_of_readItems read
      by_cases named : field.name = name
      · obtain ⟨x, found, puts⟩ := decides.own field known.1 named _ _ _ own
        have others : ∀ other ∈ fields, other ∈ r.fields ∧ other.name ≠ name := by
          refine fun other member => ⟨known.2 other member, fun same => distinct.1 ?_⟩
          exact List.mem_map.mpr ⟨other, member, same.trans named.symm⟩
        rw [List.findIdx_cons, decide_eq_true named]
        exact found.trans (by rw [get_of_unlisted decides others next, puts a])
      · have later : ∃ other ∈ fields, other.name = name := by
          obtain ⟨other, member, same⟩ := listed
          rcases List.mem_cons.mp member with rfl | member
          · exact absurd same named
          · exact ⟨other, member, same⟩
        have rest_read := ih known.2 distinct.2 later next
        rw [decides.others field known.1 named _ _ _ own] at rest_read
        rw [List.findIdx_cons, decide_eq_false named]
        exact rest_read

/-- What a record holds was read from what its outline writes for it; where nothing is written it is
what the record holds from the start. -/
theorem get_of_read {o : Outline} {a : α} (read : r.read source o = .ok a) :
    ∃ inner, source.enter = some inner ∧
      match r.written name o with
      | none => get a = get r.start
      | some part => reader inner part = .ok (get a) := by
  obtain ⟨inner, entered, ⟨members, closed, seen, rfl, inside⟩ |
    ⟨items, closed, rest, rfl, inside⟩⟩ := exists_of_read read
  · exact ⟨inner, entered, get_of_readMembers decides List.not_mem_nil inside⟩
  · exact ⟨inner, entered, get_of_readItems decides (fun _ member => member) decides.distinct
      decides.listed inside⟩

end

end ControlPlane.Json
