import ControlPlane.Cloudflare.Owner
import ControlPlane.Proofs.Paths
import ControlPlane.Proofs.Stripping
import Mathlib.Tactic.Tauto
/-!
Texts that are escaped to one segment of a path. What is left of a text is read back from its
segment, and no segment has a delimiter in it. But escaping leaves out the characters that addresses
ignore, and of a dot segment it leaves nothing: an id that has the one or is the other is not read
back, and two owners can have the same path. All other ids are, and tell their owners apart.
-/
namespace ControlPlane

namespace Url

open Text

structure Names (segment : Segment) (s : List Char) : Prop where
  filled : segment ≠ []
  decoded : unescapeBytes (utf8 segment) = utf8 s

/-- No character of the segment ends it, neither in a path nor in front of a query or a fragment. -/
def IsSingle (segment : Segment) : Prop :=
  ∀ c ∈ segment, c ≠ '/' ∧ c ≠ '\\' ∧ c ≠ '?' ∧ c ≠ '#'

/-- A text of which escaping leaves nothing out. -/
structure Lasts (s : List Char) : Prop where
  visible : ∀ c ∈ s, ignored c = false
  single : s ≠ ['.']
  double : s ≠ ['.', '.']

def kept (s : List Char) : List Char :=
  if visible s = ['.'] ∨ visible s = ['.', '.'] then [] else visible s

theorem escapeSegment_eq (s : List Char) : escapeSegment s = escape segmentSet (kept s) := by
  simp only [escapeSegment, kept, Bool.or_eq_true, decide_eq_true_eq]
  split
  · rfl
  · rfl

theorem segmentSet_covers (c : Char) (outside : segmentSet c = false) :
    c.toNat < 0x80 ∧ c ≠ '%' := by
  simp only [segmentSet, pathSet, fragmentSet, controlSet, Bool.or_eq_false_iff,
    decide_eq_false_iff_not] at outside
  refine ⟨?_, by tauto⟩
  have low : ¬ 0x7F ≤ c.toNat := by tauto
  omega

theorem unescapeBytes_escapeSegment (s : List Char) :
    unescapeBytes (utf8 (escapeSegment s)) = utf8 (kept s) := by
  have decoded := unescapeBytes_escape segmentSet_covers (kept s) []
  rw [List.append_nil, ← escapeSegment_eq] at decoded
  exact decoded.trans (List.append_nil _)

theorem isSingle_escapeSegment (s : List Char) : IsSingle (escapeSegment s) := by
  intro c member
  rw [escapeSegment_eq] at member
  rcases mem_escape member with ⟨_, outside⟩ | rfl | ⟨n, digit, rfl⟩
  · refine ⟨?_, ?_, ?_, ?_⟩ <;> rintro rfl <;> contradiction
  · decide
  · interval_cases n <;> decide

theorem utf8_injective {s t : List Char} (same : utf8 s = utf8 t) : s = t := by
  rw [← lenient_utf8 s, same, lenient_utf8]

theorem visible_eq_self_iff (s : List Char) : visible s = s ↔ ∀ c ∈ s, ignored c = false := by
  simp [visible, List.filter_eq_self]

theorem kept_of_lasts {s : List Char} (lasts : Lasts s) : kept s = s := by
  rw [kept, (visible_eq_self_iff s).mpr lasts.visible,
    if_neg (not_or.mpr ⟨lasts.single, lasts.double⟩)]

theorem lasts_of_kept {s : List Char} (filled : s ≠ []) (whole : kept s = s) : Lasts s := by
  unfold kept at whole
  split at whole
  · exact absurd whole.symm filled
  · rename_i other
    rw [whole] at other
    exact ⟨(visible_eq_self_iff s).mp whole, fun dot => other (.inl dot),
      fun dots => other (.inr dots)⟩

/-- The text is read back exactly if escaping leaves nothing of it out. -/
theorem names_escapeSegment_iff {s : List Char} (filled : s ≠ []) :
    Names (escapeSegment s) s ↔ Lasts s := by
  constructor
  · intro names
    exact lasts_of_kept filled
      (utf8_injective ((unescapeBytes_escapeSegment s).symm.trans names.decoded))
  · intro lasts
    have decoded : unescapeBytes (utf8 (escapeSegment s)) = utf8 s := by
      rw [unescapeBytes_escapeSegment, kept_of_lasts lasts]
    refine ⟨?_, decoded⟩
    intro empty
    rw [empty] at decoded
    exact filled (utf8_injective decoded.symm)

end Url

theorem Text.trim_ne_nil {s : String} (filled : Text.blank s = false) :
    Text.trim s.toList ≠ [] := by
  intro empty
  have blanks := List.all_eq_true.mpr (Text.stripWhile_eq_nil_iff.mp empty)
  rw [Text.blank, blanks] at filled
  contradiction

namespace Cloudflare.Owner

open Text

theorem path_of_filled {owner : Owner} (filled : blank owner.id = false) :
    owner.path = .ok (owner.kind.text ++ "/" ++
      String.ofList (Url.escapeSegment (trim owner.id.toList))) := by
  have some_ : (trim owner.id.toList).isEmpty = false := by
    simpa using trim_ne_nil filled
  simp only [path, some_, Bool.false_eq_true, if_false]

theorem path_inj {k l : OwnerKind} {s t : Url.Segment}
    (same : k.text ++ "/" ++ String.ofList s = l.text ++ "/" ++ String.ofList t) :
    k = l ∧ s = t := by
  have chars := congrArg String.toList same
  simp only [String.toList_append, String.toList_ofList] at chars
  cases k <;> cases l <;> simp_all [OwnerKind.text]

/-- The path of an owner is its kind and one segment, from which its id is read back exactly if
escaping leaves nothing of the id out. Such an owner shares its path only with those of its kind and
id. -/
theorem path_names_id (owner : Owner) (filled : blank owner.id = false) :
    (∃ segment, owner.path = .ok (owner.kind.text ++ "/" ++ String.ofList segment) ∧
      Url.IsSingle segment ∧
      (Url.Names segment (trim owner.id.toList) ↔ Url.Lasts (trim owner.id.toList))) ∧
    ∀ other : Owner, blank other.id = false →
      Url.Lasts (trim owner.id.toList) → Url.Lasts (trim other.id.toList) →
      (owner.path = other.path ↔
        owner.kind = other.kind ∧ trimmed owner.id = trimmed other.id) := by
  constructor
  · exact ⟨Url.escapeSegment (trim owner.id.toList), path_of_filled filled,
      Url.isSingle_escapeSegment _, Url.names_escapeSegment_iff (trim_ne_nil filled)⟩
  · intro other filled' lasts lasts'
    rw [path_of_filled filled, path_of_filled filled']
    constructor
    · intro same
      obtain ⟨kinds, segments⟩ := path_inj (Except.ok.inj same)
      have names := (Url.names_escapeSegment_iff (trim_ne_nil filled)).mpr lasts
      have names' := (Url.names_escapeSegment_iff (trim_ne_nil filled')).mpr lasts'
      rw [segments] at names
      have ids := Url.utf8_injective (names.decoded.symm.trans names'.decoded)
      exact ⟨kinds, by rw [trimmed, trimmed, ids]⟩
    · rintro ⟨kinds, ids⟩
      have texts : trim owner.id.toList = trim other.id.toList := String.ofList_injective ids
      rw [kinds, texts]

theorem path_names_id_mixed :
    let owner : Owner := .account " a/b 100% "
    let other : Owner := .account "a/b 100"
    blank owner.id = false ∧ Url.Lasts (trim owner.id.toList) ∧ Url.Lasts (trim other.id.toList) ∧
      (∃ segment, owner.path = .ok (owner.kind.text ++ "/" ++ String.ofList segment) ∧
        Url.Names segment "a/b 100%".toList) ∧ owner.path ≠ other.path := by
  intro owner other
  have filled : blank owner.id = false := by decide +kernel
  have id : trim owner.id.toList = "a/b 100%".toList := by decide +kernel
  have filled' : blank other.id = false := by decide +kernel
  have lasts : Url.Lasts (trim owner.id.toList) :=
    Url.lasts_of_kept (trim_ne_nil filled) (by decide +kernel)
  have lasts' : Url.Lasts (trim other.id.toList) :=
    Url.lasts_of_kept (trim_ne_nil filled') (by decide +kernel)
  obtain ⟨⟨segment, path_eq, _, names⟩, shared⟩ := path_names_id owner filled
  refine ⟨filled, lasts, lasts', ⟨segment, path_eq, ?_⟩, ?_⟩
  · rw [← id]
    exact names.mpr lasts
  · intro same
    have ids := ((shared other filled' lasts lasts').mp same).2
    revert ids
    decide +kernel

/-- Two dots leave no segment at all, and an id with a tab in it is taken for another one. -/
theorem path_loses_id :
    let above : Owner := .account ".."
    let tabbed : Owner := .account "a\tb"
    (blank above.id = false ∧ above.path = .ok "accounts/" ∧
      ¬ ∃ segment, above.path = .ok (above.kind.text ++ "/" ++ String.ofList segment) ∧
        Url.Names segment (trim above.id.toList)) ∧
    (blank tabbed.id = false ∧ tabbed.path = (Owner.account "ab").path ∧
      trimmed tabbed.id ≠ trimmed (Owner.account "ab").id ∧
      ¬ ∃ segment, tabbed.path = .ok (tabbed.kind.text ++ "/" ++ String.ofList segment) ∧
        Url.Names segment (trim tabbed.id.toList)) := by
  intro above tabbed
  have lost {owner : Owner} (filled : blank owner.id = false)
      (left : Url.kept (trim owner.id.toList) ≠ trim owner.id.toList) :
      ¬ ∃ segment, owner.path = .ok (owner.kind.text ++ "/" ++ String.ofList segment) ∧
        Url.Names segment (trim owner.id.toList) := by
    rintro ⟨segment, path_eq, names⟩
    rw [path_of_filled filled] at path_eq
    rw [← (path_inj (Except.ok.inj path_eq)).2] at names
    exact left (Url.kept_of_lasts ((Url.names_escapeSegment_iff (trim_ne_nil filled)).mp names))
  have filled : blank above.id = false := by decide +kernel
  have filled' : blank tabbed.id = false := by decide +kernel
  refine ⟨⟨filled, ?_, lost filled (by decide +kernel)⟩,
    ⟨filled', ?_, by decide +kernel, lost filled' (by decide +kernel)⟩⟩
  · rw [path_of_filled filled]
    decide +kernel
  · rw [path_of_filled filled', path_of_filled (by decide +kernel)]
    decide +kernel

end Cloudflare.Owner

end ControlPlane
