import ControlPlane.Proofs.Parsing
import Mathlib.Data.List.Induction
import Mathlib.Data.String.Basic
/-!
The value of an outline is the value that it means. The members of an object are put in the order of
their names, so an outline with the members of a value in any order has that value.
-/
namespace ControlPlane.Json

mutual

def Throughout (p : Json → Prop) : Json → Prop
  | .array items => p (.array items) ∧ ThroughoutItems p items
  | .object members => p (.object members) ∧ ThroughoutMembers p members
  | v => p v

def ThroughoutItems (p : Json → Prop) : List Json → Prop
  | [] => True
  | v :: rest => Throughout p v ∧ ThroughoutItems p rest

def ThroughoutMembers (p : Json → Prop) : List (String × Json) → Prop
  | [] => True
  | (_, v) :: rest => Throughout p v ∧ ThroughoutMembers p rest

end

def InOrder : Json → Prop
  | .object members => members.Pairwise fun m n => m.1 < n.1
  | _ => True

theorem throughoutMembers_iff {p : Json → Prop} {members : List (String × Json)} :
    ThroughoutMembers p members ↔ ∀ m ∈ members, Throughout p m.2 := by
  induction members with
  | nil => simp [ThroughoutMembers]
  | cons m rest ih => simp [ThroughoutMembers, ih]

theorem depthMembers_le {members : List (String × Json)} {room : Nat} :
    Outline.depthMembers (Outline.ofMemberList members) ≤ room ↔
      ∀ m ∈ members, (Outline.ofJson m.2).depth ≤ room := by
  induction members with
  | nil => simp [Outline.ofMemberList, Outline.depthMembers]
  | cons m rest ih => simp [Outline.ofMemberList, Outline.depthMembers, ih]

theorem insertMember_perm {name : String} {value : Json} {members : List (String × Json)}
    (new : ∀ m ∈ members, m.1 ≠ name) :
    (insertMember name value members).Perm ((name, value) :: members) := by
  induction members with
  | nil => exact .refl _
  | cons m rest ih =>
    have other : name ≠ m.1 := (new m List.mem_cons_self).symm
    have later := ih fun n member => new n (.tail m member)
    rw [insertMember, if_neg other]
    split
    · exact .refl _
    · exact (later.cons m).trans (.swap _ _ _)

theorem mem_insertMember {name : String} {value : Json} {members : List (String × Json)}
    {m : String × Json} (member : m ∈ insertMember name value members) :
    m = (name, value) ∨ m ∈ members := by
  induction members with
  | nil => exact .inl (List.mem_singleton.mp member)
  | cons n rest ih =>
    rw [insertMember] at member
    split at member
    · exact (List.mem_cons.mp member).imp_right (.tail n)
    · split at member
      · exact List.mem_cons.mp member
      · rcases List.mem_cons.mp member with rfl | later
        · exact .inr List.mem_cons_self
        · exact (ih later).imp_right (.tail n)

theorem insertMember_inOrder {name : String} {value : Json} {members : List (String × Json)}
    (ordered : members.Pairwise fun m n => m.1 < n.1) :
    (insertMember name value members).Pairwise fun m n => m.1 < n.1 := by
  induction members with
  | nil => simp [insertMember]
  | cons m rest ih =>
    obtain ⟨above, later⟩ := List.pairwise_cons.mp ordered
    rw [insertMember]
    split
    · rename_i same
      exact .cons (fun n member => same ▸ above n member) later
    · rename_i other
      split
      · rename_i before
        refine .cons (fun n member => ?_) ordered
        rcases List.mem_cons.mp member with rfl | member
        · exact before
        · exact before.trans (above n member)
      · rename_i after
        refine .cons (fun n member => ?_) (ih later)
        rcases mem_insertMember member with rfl | member
        · exact lt_of_le_of_ne (not_lt.mp after) (Ne.symm other)
        · exact above n member

theorem sortMembers_concat (members : List (String × Json)) (m : String × Json) :
    sortMembers (members ++ [m]) = insertMember m.1 m.2 (sortMembers members) := by
  rw [sortMembers, List.foldl_append, ← sortMembers, List.foldl_cons, List.foldl_nil]

theorem sortMembers_inOrder (members : List (String × Json)) :
    (sortMembers members).Pairwise fun m n => m.1 < n.1 := by
  induction members using List.reverseRecOn with
  | nil => exact .nil
  | append_singleton members m ih =>
    rw [sortMembers_concat]
    exact insertMember_inOrder ih

theorem mem_sortMembers {members : List (String × Json)} {m : String × Json}
    (member : m ∈ sortMembers members) : m ∈ members := by
  induction members using List.reverseRecOn with
  | nil => exact member
  | append_singleton members n ih =>
    rw [sortMembers_concat] at member
    rcases mem_insertMember member with rfl | earlier
    · exact List.mem_append_right members List.mem_cons_self
    · exact List.mem_append_left [n] (ih earlier)

theorem sortMembers_perm {members : List (String × Json)}
    (distinct : members.Pairwise fun m n => m.1 ≠ n.1) : (sortMembers members).Perm members := by
  induction members using List.reverseRecOn with
  | nil => exact .refl _
  | append_singleton members m ih =>
    obtain ⟨earlier, -, new⟩ := List.pairwise_append.mp distinct
    have fresh : ∀ n ∈ sortMembers members, n.1 ≠ m.1 := fun n member =>
      new n (mem_sortMembers member) m List.mem_cons_self
    rw [sortMembers_concat]
    refine (insertMember_perm fresh).trans ?_
    exact ((ih earlier).cons m).trans (List.perm_append_singleton m members).symm

theorem sortMembers_of_perm {found sorted : List (String × Json)} (order : found.Perm sorted)
    (ordered : sorted.Pairwise fun m n => m.1 < n.1) : sortMembers found = sorted := by
  have distinct : found.Pairwise fun m n => m.1 ≠ n.1 :=
    (order.pairwise_iff Ne.symm).mpr (ordered.imp ne_of_lt)
  exact ((sortMembers_perm distinct).trans order).eq_of_pairwise
    (fun m n _ _ below above => absurd above below.asymm) (sortMembers_inOrder found) ordered

mutual

theorem json?_of_means {o : Outline} {v : Json} {room : Nat} : Means o v →
    Throughout InOrder v → (Outline.ofJson v).depth ≤ room → o.json? room = some v
  | .null, _, _ | .bool _, _, _ | .number _, _, _ | .string _, _, _ => by simp [Outline.json?]
  | .array each, ordered, fits => by
    rw [Outline.ofJson, Outline.depth] at fits
    obtain ⟨room, rfl⟩ : ∃ n, room = n + 1 := ⟨room - 1, by omega⟩
    have found := jsonItems?_of_means each ordered.2 (Nat.le_of_succ_le_succ fits)
    simp [Outline.json?, found]
  | .object each order, ordered, fits => by
    rw [Outline.ofJson, Outline.depth] at fits
    obtain ⟨room, rfl⟩ : ∃ n, room = n + 1 := ⟨room - 1, by omega⟩
    -- What holds of the members in order holds of them as they stand in the text.
    have inner := throughoutMembers_iff.mp ordered.2
    have shallow := depthMembers_le.mp (Nat.le_of_succ_le_succ fits)
    have found := jsonMembers?_of_means each
      (fun m member => inner m (order.mem_iff.mp member))
      (fun m member => shallow m (order.mem_iff.mp member))
    simp [Outline.json?, found, ofMembers, sortMembers_of_perm order ordered.1]

theorem jsonItems?_of_means {items : List Outline} {values : List Json} {room : Nat} :
    MeansItems items values → ThroughoutItems InOrder values →
      Outline.depthItems (Outline.ofItems values) ≤ room →
      Outline.jsonItems? room items = some values
  | .nil, _, _ => rfl
  | .cons first others, ordered, fits => by
    rw [Outline.ofItems, Outline.depthItems, Nat.max_le] at fits
    simp [Outline.jsonItems?, json?_of_means first ordered.1 fits.1,
      jsonItems?_of_means others ordered.2 fits.2]

theorem jsonMembers?_of_means {members : List (Option String × Outline)}
    {values : List (String × Json)} {room : Nat} : MeansMembers members values →
      (∀ m ∈ values, Throughout InOrder m.2) →
      (∀ m ∈ values, (Outline.ofJson m.2).depth ≤ room) →
      Outline.jsonMembers? room members = some values
  | .nil, _, _ => rfl
  | .cons name first others, ordered, fits => by
    rw [List.forall_mem_cons] at ordered fits
    simp [Outline.jsonMembers?, json?_of_means first ordered.1 fits.1,
      jsonMembers?_of_means others ordered.2 fits.2]

end

mutual

theorem means_ofJson : (v : Json) → Means (Outline.ofJson v) v
  | .null => .null
  | .bool b => .bool b
  | .number n => .number n
  | .string s => .string s
  | .array items => .array (means_ofItems items)
  | .object members => .object (means_ofMemberList members) (.refl members)

theorem means_ofItems : (items : List Json) → MeansItems (Outline.ofItems items) items
  | [] => .nil
  | v :: rest => .cons (means_ofJson v) (means_ofItems rest)

theorem means_ofMemberList : (members : List (String × Json)) →
    MeansMembers (Outline.ofMemberList members) members
  | [] => .nil
  | (name, v) :: rest => .cons name (means_ofJson v) (means_ofMemberList rest)

end

theorem json?_ofJson {v : Json} {room : Nat} (ordered : Throughout InOrder v)
    (fits : (Outline.ofJson v).depth ≤ room) : (Outline.ofJson v).json? room = some v :=
  json?_of_means (means_ofJson v) ordered fits

/-- The text, between blanks, is one of the value. -/
structure Renders (v : Json) (s : List Char) : Prop where
  ordered : Throughout InOrder v
  written : ∃ o, Padded o s ∧ Means o v

/-- A text of a value is read as the value, if it nests no deeper than a text may. -/
theorem readText_of_renders {v : Json} {s : List Char} (renders : Renders v s)
    (fits : (Outline.ofJson v).depth ≤ textRoom) : readText .any (Text.utf8 s) = .ok v := by
  obtain ⟨o, written, means⟩ := renders.written
  rw [readText_of_padded _ written]
  simp only [Reader.any, Source.room, json?_of_means means renders.ordered fits]

end ControlPlane.Json
