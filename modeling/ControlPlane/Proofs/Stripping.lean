import ControlPlane.Text.Basic
import Mathlib.Data.List.TakeWhile
/-!
Texts without the runs of some characters at their ends. What is left is the one part of the text
with such runs around it, and itself neither begins nor ends with a character of them.
-/
namespace ControlPlane.Text

/-- The text `m` is what is left of `s` without the longest runs of `p` characters at its ends. -/
structure Strips (p : Char → Bool) (s m : List Char) : Prop where
  around : ∃ before after, s = before ++ (m ++ after) ∧ (∀ c ∈ before, p c = true) ∧
    ∀ c ∈ after, p c = true
  first : ∀ c, m.head? = some c → p c = false
  last : ∀ c, m.getLast? = some c → p c = false

theorem dropEndWhile_append (p : Char → Bool) (s : List Char) :
    dropEndWhile p s ++ (s.reverse.takeWhile p).reverse = s := by
  rw [dropEndWhile, ← List.reverse_append, List.takeWhile_append_dropWhile, List.reverse_reverse]

theorem eq_false_of_head?_dropWhile {p : Char → Bool} {s : List Char} {c : Char}
    (first : (s.dropWhile p).head? = some c) : p c = false := by
  have kept := List.head?_dropWhile_not p s
  rw [first] at kept
  exact kept

theorem strips_stripWhile (p : Char → Bool) (s : List Char) : Strips p s (stripWhile p s) where
  around := by
    refine ⟨s.takeWhile p, ((s.dropWhile p).reverse.takeWhile p).reverse, ?_, ?_, ?_⟩
    · rw [stripWhile, dropEndWhile_append, List.takeWhile_append_dropWhile]
    · exact fun c member => List.mem_takeWhile_imp member
    · exact fun c member => List.mem_takeWhile_imp (List.mem_reverse.mp member)
  first c first := by
    refine eq_false_of_head?_dropWhile (s := s) ?_
    rw [← dropEndWhile_append p (s.dropWhile p), List.head?_append]
    rw [stripWhile] at first
    rw [first]
    rfl
  last c last := by
    rw [stripWhile, dropEndWhile, List.getLast?_reverse] at last
    exact eq_false_of_head?_dropWhile last

theorem stripWhile_of_ends {p : Char → Bool} {before s after : List Char} (filled : s ≠ [])
    (left : ∀ c ∈ before, p c = true) (right : ∀ c ∈ after, p c = true)
    (first : ∀ c, s.head? = some c → p c = false)
    (last : ∀ c, s.getLast? = some c → p c = false) :
    stripWhile p (before ++ (s ++ after)) = s := by
  have front : (before ++ (s ++ after)).dropWhile p = s ++ after := by
    rw [List.dropWhile_append_of_pos left]
    cases s with
    | nil => exact absurd rfl filled
    | cons c s => rw [List.cons_append, List.dropWhile_cons_of_neg (by simp [first c rfl])]
  have back : (after.reverse ++ s.reverse).dropWhile p = s.reverse := by
    rw [List.dropWhile_append_of_pos fun c member => right c (List.mem_reverse.mp member)]
    cases shape : s.reverse with
    | nil => rfl
    | cons c t =>
      have ending : s.getLast? = some c := by rw [← List.head?_reverse, shape, List.head?_cons]
      rw [List.dropWhile_cons_of_neg (by simp [last c ending])]
  rw [stripWhile, front, dropEndWhile, List.reverse_append, back, List.reverse_reverse]

theorem stripWhile_eq_iff {p : Char → Bool} {s m : List Char} :
    stripWhile p s = m ↔ Strips p s m := by
  constructor
  · rintro rfl
    exact strips_stripWhile p s
  · rintro ⟨⟨before, after, rfl, left, right⟩, first, last⟩
    by_cases filled : m = []
    · subst filled
      have all : ∀ c ∈ before ++ ([] ++ after), p c = true := fun c member =>
        (List.mem_append.mp member).elim (left c) (right c)
      rw [stripWhile, List.dropWhile_eq_nil_iff.mpr all]
      rfl
    · exact stripWhile_of_ends filled left right first last

theorem stripWhile_eq_nil_iff {p : Char → Bool} {s : List Char} :
    stripWhile p s = [] ↔ ∀ c ∈ s, p c = true := by
  rw [stripWhile_eq_iff]
  constructor
  · rintro ⟨⟨before, after, rfl, left, right⟩, -, -⟩ c member
    exact (List.mem_append.mp member).elim (left c) (right c)
  · intro all
    exact ⟨⟨s, [], by simp, all, List.forall_mem_nil _⟩, nofun, nofun⟩

theorem isEmpty_trimmed_iff (s : String) : (trimmed s).isEmpty = true ↔ trim s.toList = [] := by
  simp [trimmed]

end ControlPlane.Text
