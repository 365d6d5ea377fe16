import ControlPlane.Proofs.Keeping
/-!
What is left of the name of a mount or a path. Blanks are taken off its ends and then slashes, each
once. So a name of blanks and slashes is refused only if its slashes stand together, and what is
left of any other name can begin or end with a blank that a slash has covered. Only where it does
not is it the name without all blanks and slashes around it, and does cleaning it again keep it.
-/
namespace ControlPlane.Vault

open Text

def isSlash (c : Char) : Bool := c = '/'

def isEdge (c : Char) : Bool := isBlank c || isSlash c

/-- A name of blanks, slashes and blanks again, in this order. -/
def Hollow (s : String) : Prop :=
  ∃ before slashes after, s.toList = before ++ (slashes ++ after) ∧
    (∀ c ∈ before, isBlank c = true) ∧ (∀ c ∈ slashes, c = '/') ∧ ∀ c ∈ after, isBlank c = true

/-- What is left of a name when first the blanks and then the slashes at its ends are taken off. -/
def Leaves (s : String) (name : List Char) : Prop :=
  ∃ between, Strips isBlank s.toList between ∧ Strips isSlash between name

theorem leaves_clean (s : String) : Leaves s (clean s) :=
  ⟨trim s.toList, strips_stripWhile _ _, strips_stripWhile _ _⟩

theorem clean_eq_nil_iff (s : String) : clean s = [] ↔ Hollow s := by
  have middle : clean s = [] ↔ ∀ c ∈ trim s.toList, c = '/' := by
    rw [clean, stripWhile_eq_nil_iff]
    simp only [decide_eq_true_eq]
  rw [middle]
  constructor
  · intro slashes
    obtain ⟨before, after, text, left, right⟩ := (strips_stripWhile isBlank s.toList).around
    exact ⟨before, _, after, text, left, slashes, right⟩
  · rintro ⟨before, slashes, after, text, left, all, right⟩
    have solid : ∀ c ∈ slashes, isBlank c = false := by
      intro c member
      rw [all c member]
      rfl
    have trimmed : trim s.toList = slashes := stripWhile_eq_iff.mpr
      ⟨⟨before, after, text, left, right⟩, fun c first => solid c (List.mem_of_head? first),
        fun c last => solid c (List.mem_of_getLast? last)⟩
    rw [trimmed]
    exact all

theorem Leaves.around {s : String} {name : List Char} (leaves : Leaves s name) :
    ∃ before after, s.toList = before ++ (name ++ after) ∧
      (∀ c ∈ before, isEdge c = true) ∧ ∀ c ∈ after, isEdge c = true := by
  obtain ⟨between, ⟨⟨before, after, text, blanks, blanks'⟩, -, -⟩,
    ⟨⟨left, right, inner, slashes, slashes'⟩, -, -⟩⟩ := leaves
  refine ⟨before ++ left, right ++ after, by simp [text, inner], ?_, ?_⟩
  · intro c member
    rcases List.mem_append.mp member with outer | outer
    · simp [isEdge, blanks c outer]
    · simp [isEdge, slashes c outer]
  · intro c member
    rcases List.mem_append.mp member with outer | outer
    · simp [isEdge, slashes' c outer]
    · simp [isEdge, blanks' c outer]

theorem isEdge_eq_false_iff (c : Char) : isEdge c = false ↔ isBlank c = false ∧ c ≠ '/' := by
  simp [isEdge, isSlash]

theorem Leaves.strips_iff {s : String} {name : List Char} (leaves : Leaves s name)
    (filled : name ≠ []) : Strips isEdge s.toList name ↔ Bare name := by
  constructor
  · intro strips
    exact ⟨filled, fun c first => (isEdge_eq_false_iff c).mp (strips.first c first),
      fun c last => (isEdge_eq_false_iff c).mp (strips.last c last)⟩
  · intro bare
    exact ⟨leaves.around, fun c first => (isEdge_eq_false_iff c).mpr (bare.first c first),
      fun c last => (isEdge_eq_false_iff c).mpr (bare.last c last)⟩

theorem length_clean_le (name : List Char) :
    (clean (String.ofList name)).length ≤ name.length := by
  obtain ⟨before, after, text, -, -⟩ := (leaves_clean (String.ofList name)).around
  have lengths := congrArg List.length text
  simp only [String.toList_ofList, List.length_append] at lengths
  omega

theorem clean_eq_self_iff {name : List Char} (filled : name ≠ []) :
    clean (String.ofList name) = name ↔ Bare name := by
  constructor
  · intro kept
    obtain ⟨between, blanks, slashes⟩ := leaves_clean (String.ofList name)
    rw [kept] at slashes
    -- nothing was taken off: the text between the two passes is as long as the name
    have same : between = name := by
      obtain ⟨before, after, text, -, -⟩ := blanks.around
      obtain ⟨left, right, inner, -, -⟩ := slashes.around
      have lengths := congrArg List.length text
      have lengths' := congrArg List.length inner
      simp only [String.toList_ofList, List.length_append] at lengths lengths'
      rw [List.eq_nil_of_length_eq_zero (show left.length = 0 by omega),
        List.eq_nil_of_length_eq_zero (show right.length = 0 by omega)] at inner
      simpa using inner
    rw [same] at blanks slashes
    have apart {c : Char} (other : isSlash c = false) : c ≠ '/' := by
      simpa [isSlash] using other
    exact ⟨filled, fun c first => ⟨blanks.first c first, apart (slashes.first c first)⟩,
      fun c last => ⟨blanks.last c last, apart (slashes.last c last)⟩⟩
  · intro bare
    have text : (String.ofList name).toList = [] ++ ([] ++ (name ++ []) ++ []) := by simp
    exact clean_of_spells bare (.mk (List.forall_mem_nil _) (List.forall_mem_nil _) text)

def endpointText (mount path : List Char) : String :=
  String.ofList ("/v1/".toList ++ mount ++ "/data/".toList ++ path)

theorem secretPath_eq (mount path : String) :
    secretPath mount path =
      if clean mount = [] then .error (.validation "secrets engine must not be empty")
      else if clean path = [] then .error (.validation "secret path must not be empty")
      else .ok (endpointText (clean mount) (clean path)) := by
  unfold secretPath endpointText
  cases clean mount with
  | nil => rfl
  | cons c mount => cases clean path <;> rfl

theorem endpointText_inj {mount path mount' path' : List Char}
    (mounts : mount'.length ≤ mount.length) (paths : path'.length ≤ path.length)
    (same : endpointText mount' path' = endpointText mount path) :
    mount' = mount ∧ path' = path := by
  have texts := String.ofList_injective same
  generalize "/v1/".toList = version at texts
  generalize "/data/".toList = data at texts
  have lengths := congrArg List.length texts
  simp only [List.length_append] at lengths
  obtain ⟨front, paths⟩ := List.append_inj' texts (by omega)
  exact ⟨List.append_cancel_left (List.append_cancel_right front), paths⟩

theorem secretPath_eq_self_iff {m p : List Char} (mounted : m ≠ []) (pathed : p ≠ []) :
    secretPath (String.ofList m) (String.ofList p) = .ok (endpointText m p) ↔
      Bare m ∧ Bare p := by
  rw [← clean_eq_self_iff mounted, ← clean_eq_self_iff pathed, secretPath_eq]
  constructor
  · intro again
    split at again
    · simp only [reduceCtorEq] at again
    · split at again
      · simp only [reduceCtorEq] at again
      · -- neither name can have become longer, so none has become shorter
        exact endpointText_inj (length_clean_le _) (length_clean_le _) (Except.ok.inj again)
  · rintro ⟨keptMount, keptPath⟩
    rw [keptMount, keptPath, if_neg mounted, if_neg pathed]

/-- A mount or a path is refused exactly if its blanks and slashes are blanks around slashes, and the
mount is looked at first. Otherwise the endpoint is made of what is left of both. What is left is
free of blanks and slashes at its ends, and kept by another cleaning, only where no blank has come
to its ends. -/
theorem secretPath_cleans (mount path : String) :
    (secretPath mount path = .error (.validation "secrets engine must not be empty") ↔
      Hollow mount) ∧
    (secretPath mount path = .error (.validation "secret path must not be empty") ↔
      ¬ Hollow mount ∧ Hollow path) ∧
    (¬ Hollow mount → ¬ Hollow path → ∃ m p, Leaves mount m ∧ Leaves path p ∧
      secretPath mount path = .ok (endpointText m p) ∧
      (Strips isEdge mount.toList m ↔ Bare m) ∧ (Strips isEdge path.toList p ↔ Bare p) ∧
      (secretPath (String.ofList m) (String.ofList p) = .ok (endpointText m p) ↔
        Bare m ∧ Bare p)) := by
  rw [← clean_eq_nil_iff mount, ← clean_eq_nil_iff path, secretPath_eq]
  refine ⟨?_, ?_, fun mounted pathed => ?_⟩
  · by_cases mounted : clean mount = []
    · simp [mounted]
    · by_cases pathed : clean path = [] <;> simp [mounted, pathed]
  · by_cases mounted : clean mount = []
    · simp [mounted]
    · by_cases pathed : clean path = [] <;> simp [mounted, pathed]
  · rw [if_neg mounted, if_neg pathed]
    exact ⟨clean mount, clean path, leaves_clean mount, leaves_clean path, rfl,
      (leaves_clean mount).strips_iff mounted, (leaves_clean path).strips_iff pathed,
      secretPath_eq_self_iff mounted pathed⟩

theorem secretPath_cleans_covered :
    ¬ Hollow "/ kv/" ∧ ¬ Hollow "app/ " ∧ ∃ m p, Leaves "/ kv/" m ∧ Leaves "app/ " p ∧
      secretPath "/ kv/" "app/ " = .ok (endpointText m p) ∧
      (Strips isEdge "/ kv/".toList m ↔ Bare m) ∧ (Strips isEdge "app/ ".toList p ↔ Bare p) ∧
      (secretPath (String.ofList m) (String.ofList p) = .ok (endpointText m p) ↔
        Bare m ∧ Bare p) := by
  have mounted : ¬ Hollow "/ kv/" := by
    rw [← clean_eq_nil_iff]
    decide +kernel
  have pathed : ¬ Hollow "app/ " := by
    rw [← clean_eq_nil_iff]
    decide +kernel
  exact ⟨mounted, pathed, (secretPath_cleans "/ kv/" "app/ ").2.2 mounted pathed⟩

/-- A mount of slashes and a blank is taken, and the endpoint for another one has a blank that
cleaning the mount again would take off. -/
theorem secretPath_takes_blank :
    ("/ /".toList.all isEdge = true ∧ secretPath "/ /" "app" = .ok "/v1/ /data/app") ∧
      Strips isEdge "/ kv".toList "kv".toList ∧
      secretPath "/ kv" "app" = .ok "/v1/ kv/data/app" ∧
      secretPath " kv" "app" = .ok "/v1/kv/data/app" := by
  refine ⟨⟨by decide +kernel, secretPath_eq_ok ?_⟩, stripWhile_eq_iff.mp ?_,
    secretPath_eq_ok ?_, secretPath_eq_ok ?_⟩
  all_goals decide +kernel

end ControlPlane.Vault
