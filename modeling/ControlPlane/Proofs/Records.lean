import ControlPlane.Json.Reader
import Mathlib.Data.List.Forall2
import Mathlib.Data.List.Nodup
/-!
Records in objects. What a record holds is shown by members in any order, between members of other
names; what the record holds before it is read may be left out. Reading such an object gives back
what it shows.
-/
namespace ControlPlane.Json

def outlinesOf (name : String) (members : List (Option String × Outline)) : List Outline :=
  members.filterMap fun m => if m.1 = some name then some m.2 else none

theorem outlinesOf_same (name : String) (o : Outline) (rest : List (Option String × Outline)) :
    outlinesOf name ((some name, o) :: rest) = o :: outlinesOf name rest := by
  simp [outlinesOf]

theorem outlinesOf_other {k name : String} (other : k ≠ name) (o : Outline)
    (rest : List (Option String × Outline)) :
    outlinesOf name ((some k, o) :: rest) = outlinesOf name rest := by
  simp [outlinesOf, other]

theorem texts_ofMemberList (members : List (String × Json)) :
    ∀ m ∈ Outline.ofMemberList members, m.1 ≠ none := by
  induction members with
  | nil => nofun
  | cons m rest ih => simpa only [Outline.ofMemberList, List.forall_mem_cons] using ⟨nofun, ih⟩

/-- One of the things that a record holds: its name, the outlines that show it, and when it may be
left out. -/
structure Facet (α : Type) where
  name : String
  Content : Type
  get : α → Content
  Shown : Content → Outline → Prop
  Omitted : Content → Prop

variable {α : Type}

/-- Members show what a record holds under one name: once, or not at all where it may be left
out. -/
inductive Facet.Stands (facet : Facet α) (a : α) (members : List (Option String × Outline)) :
    Prop where
  | shown {o : Outline} (once : outlinesOf facet.name members = [o])
      (shown : facet.Shown (facet.get a) o)
  | omitted (none_ : outlinesOf facet.name members = []) (omitted : facet.Omitted (facet.get a))

/-- An object shows a record. Every name of a member is a text, and nothing else is asked of the
members that have other names. -/
inductive Presents (facets : List (Facet α)) (a : α) : Outline → Prop where
  | object {members : List (Option String × Outline)} (texts : ∀ m ∈ members, m.1 ≠ none)
      (each : ∀ facet ∈ facets, facet.Stands a members) : Presents facets a (.object members true)

structure Facet.Reads (facets : List (Facet α)) (a : α) (source : Source) (facet : Facet α)
    (field : Field α) : Prop where
  name : field.name = facet.name
  optional : field.required = false
  read : ∀ o, o.sound = true → facet.Shown (facet.get a) o → ∃ set, field.read source o = .ok set ∧
    (∀ b, facet.get (set b) = facet.get a) ∧
    ∀ other ∈ facets, other.name ≠ facet.name → ∀ b, other.get (set b) = other.get b

structure Record.Reads (r : Record α) (facets : List (Facet α)) (a : α) (source : Source) :
    Prop where
  fields : List.Forall₂ (Facet.Reads facets a source) facets r.fields
  distinct : (facets.map (·.name)).Nodup
  start : ∀ facet ∈ facets, facet.Omitted (facet.get a) → facet.get r.start = facet.get a

/-- A facet has been read, or one member is still to come that shows it. -/
inductive Facet.Due (facet : Facet α) (a b : α) (seen : List String)
    (members : List (Option String × Outline)) : Prop where
  | settled (none_ : outlinesOf facet.name members = []) (same : facet.get b = facet.get a)
  | ahead {o : Outline} (once : outlinesOf facet.name members = [o])
      (shown : facet.Shown (facet.get a) o) (new : facet.name ∉ seen)

theorem Facet.Due.other {facet : Facet α} {a b c : α} {seen : List String} {k : String}
    {o : Outline} {rest : List (Option String × Outline)} (other : k ≠ facet.name)
    (same : facet.get c = facet.get b)
    (due : facet.Due a b seen ((some k, o) :: rest)) (later : List String)
    (grows : ∀ name ∈ later, name = k ∨ name ∈ seen) : facet.Due a c later rest := by
  cases due with
  | settled none_ held =>
    rw [outlinesOf_other other] at none_
    exact .settled none_ (same.trans held)
  | ahead once shown new =>
    rw [outlinesOf_other other] at once
    exact .ahead once shown fun member => (grows _ member).elim (Ne.symm other) new

section

variable {r : Record α} {facets : List (Facet α)} {a : α} {source : Source}

theorem exists_left {β γ : Type*} {R : β → γ → Prop} {s : List β} {t : List γ}
    (pairs : List.Forall₂ R s t) {y : γ} (member : y ∈ t) : ∃ x ∈ s, R x y := by
  induction pairs with
  | nil => cases member
  | cons first _ ih =>
    cases member with
    | head => exact ⟨_, .head _, first⟩
    | tail _ later =>
      obtain ⟨x, found, related⟩ := ih later
      exact ⟨x, .tail _ found, related⟩

theorem due_of_field (reads : r.Reads facets a source) {field : Json.Field α}
    (listed : field ∈ r.fields) {o : Outline} (sound : o.sound = true)
    {rest : List (Option String × Outline)} {seen : List String} {b : α}
    (due : ∀ facet ∈ facets, facet.Due a b seen ((some field.name, o) :: rest)) :
    field.name ∉ seen ∧ ∃ set, field.read source o = .ok set ∧
      ∀ facet ∈ facets, facet.Due a (set b) (field.name :: seen) rest := by
  obtain ⟨facet, member, fits⟩ := exists_left reads.fields listed
  have own := due facet member
  rw [fits.name] at own due ⊢
  cases own with
  | settled none_ _ =>
    rw [outlinesOf_same] at none_
    contradiction
  | ahead once shown new =>
    rw [outlinesOf_same] at once
    obtain ⟨rfl, others⟩ := List.cons.inj once
    obtain ⟨set, read, puts, keeps⟩ := fits.read _ sound shown
    refine ⟨new, set, read, fun other member' => ?_⟩
    by_cases apart : other.name = facet.name
    · have unique := List.inj_on_of_nodup_map reads.distinct member' member apart
      subst unique
      exact .settled others (puts b)
    · exact (due other member').other (Ne.symm apart) (keeps other member' apart b) _
        fun _ known => List.mem_cons.mp known

theorem due_of_skipped (reads : r.Reads facets a source) {k : String}
    (missing : r.fields.find? (·.name = k) = none) {o : Outline}
    {rest : List (Option String × Outline)} {seen : List String} {b : α}
    (due : ∀ facet ∈ facets, facet.Due a b seen ((some k, o) :: rest)) :
    ∀ facet ∈ facets, facet.Due a b seen rest := by
  intro facet member
  have unknown : k ≠ facet.name := by
    intro same
    obtain ⟨field, listed, fits⟩ := exists_left reads.fields.flip member
    have other := List.find?_eq_none.mp missing field listed
    simp [fits.name, same] at other
  exact (due facet member).other unknown rfl seen fun _ known => .inr known

/-- Members are read in their order, until every facet is settled. -/
theorem readMembers_of_due (reads : r.Reads facets a source)
    {members : List (Option String × Outline)} (texts : ∀ m ∈ members, m.1 ≠ none)
    (sound : Outline.soundMembers members = true) {seen : List String} {b : α}
    (due : ∀ facet ∈ facets, facet.Due a b seen members) :
    ∃ later c, r.readMembers source members seen b = .ok (later, c) ∧
      ∀ facet ∈ facets, facet.get c = facet.get a := by
  induction members generalizing seen b with
  | nil =>
    refine ⟨seen, b, rfl, fun facet member => ?_⟩
    cases due facet member with
    | settled _ same => exact same
    | ahead once _ _ => cases once
  | cons m rest ih =>
    obtain ⟨k, o⟩ := m
    rw [List.forall_mem_cons] at texts
    obtain ⟨k, rfl⟩ := Option.ne_none_iff_exists'.mp texts.1
    rw [Outline.soundMembers, Bool.and_eq_true] at sound
    cases found : r.fields.find? (·.name = k) with
    | none =>
      have later := ih texts.2 sound.2 (due_of_skipped reads found due)
      simpa only [Record.readMembers, found, sound.1, if_true] using later
    | some field =>
      obtain rfl : field.name = k := by simpa using List.find?_some found
      obtain ⟨new, set, read, next⟩ :=
        due_of_field reads (List.mem_of_find?_eq_some found) sound.1 due
      have later := ih texts.2 sound.2 next
      have fresh : seen.contains field.name = false := by simpa using new
      simp only [Record.readMembers, found, fresh, read, Bool.false_eq_true, if_false]
      exact later

theorem read_of_presents {outer : Source} (enter : outer.enter = some source)
    (reads : r.Reads facets a source) {o : Outline} (presents : Presents facets a o)
    (sound : o.sound = true) :
    ∃ b, r.read outer o = .ok b ∧ ∀ facet ∈ facets, facet.get b = facet.get a := by
  cases presents with
  | @object members texts each =>
    have due : ∀ facet ∈ facets, facet.Due a r.start [] members := by
      intro facet member
      cases each facet member with
      | shown once shown => exact .ahead once shown List.not_mem_nil
      | omitted none_ omitted => exact .settled none_ (reads.start facet member omitted)
    rw [Outline.sound, Bool.true_and] at sound
    obtain ⟨seen, b, read, same⟩ := readMembers_of_due reads texts sound due
    have satisfied :
        r.fields.find? (fun field => field.required && !seen.contains field.name) = none := by
      rw [List.find?_eq_none]
      intro field listed
      obtain ⟨facet, -, fits⟩ := exists_left reads.fields listed
      simp [fits.optional]
    refine ⟨b, ?_, same⟩
    simp only [Record.read, enter, read, bind, Except.bind, satisfied, Bool.not_true,
      Bool.false_eq_true, if_false]

end

theorem Facet.reads_of {facets : List (Facet α)} {a : α} {source : Source} {facet : Facet α}
    {reader : Reader facet.Content} {set : facet.Content → α → α}
    (read : ∀ o, o.sound = true → facet.Shown (facet.get a) o →
      reader source o = .ok (facet.get a))
    (puts : ∀ x b, facet.get (set x b) = x)
    (keeps : ∀ other ∈ facets, other.name ≠ facet.name → ∀ x b, other.get (set x b) = other.get b) :
    facet.Reads facets a source (.of facet.name reader set) where
  name := rfl
  optional := rfl
  read o sound shown := by
    refine ⟨set (facet.get a), ?_, puts _, fun other member apart => keeps other member apart _⟩
    simp only [Field.of, read o sound shown]
    rfl

end ControlPlane.Json
