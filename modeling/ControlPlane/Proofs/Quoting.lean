import ControlPlane.Text.Printable
import Mathlib.Data.List.Basic
/-!
Quoted texts can be read back. What a character is written as does not begin anything that another
character is written as, so two texts that look alike within quotes are one text.
-/
namespace ControlPlane.Text

theorem digitChar_injective : ∀ m < 16, ∀ n < 16, Nat.digitChar m = Nat.digitChar n → m = n := by
  decide

theorem digitChar_ne_close : ∀ n < 16, Nat.digitChar n ≠ '\x7d' := by
  decide

theorem not_close_mem_toDigits (n : Nat) : '\x7d' ∉ Nat.toDigits 16 n := by
  induction n using Nat.strongRecOn with
  | _ n ih =>
    by_cases small : n < 16
    · rw [Nat.toDigits_of_lt_base small, List.mem_singleton]
      exact fun same => digitChar_ne_close n small same.symm
    · rw [Nat.toDigits_of_base_le (by decide) (Nat.le_of_not_lt small), List.mem_append,
        List.mem_singleton]
      rintro (earlier | last)
      · exact ih (n / 16) (by omega) earlier
      · exact digitChar_ne_close (n % 16) (by omega) last.symm

theorem toDigits_injective (m : Nat) :
    ∀ n, Nat.toDigits 16 m = Nat.toDigits 16 n → m = n := by
  induction m using Nat.strongRecOn with
  | _ m ih =>
    intro n same
    have short {k : Nat} (small : k < 16) : Nat.toDigits 16 k = [Nat.digitChar k] :=
      Nat.toDigits_of_lt_base small
    have long {k : Nat} (large : ¬ k < 16) :
        Nat.toDigits 16 k = Nat.toDigits 16 (k / 16) ++ [Nat.digitChar (k % 16)] :=
      Nat.toDigits_of_base_le (by decide) (Nat.le_of_not_lt large)
    have apart {k l : Nat} (small : k < 16) (large : ¬ l < 16) :
        Nat.toDigits 16 k ≠ Nat.toDigits 16 l := by
      intro alike
      have lengths := congrArg List.length alike
      have filled : 0 < (Nat.toDigits 16 (l / 16)).length := Nat.length_toDigits_pos
      rw [short small, long large, List.length_append, List.length_singleton,
        List.length_singleton] at lengths
      omega
    by_cases small : m < 16 <;> by_cases small' : n < 16
    · rw [short small, short small'] at same
      exact digitChar_injective m small n small' (List.cons.inj same).1
    · exact absurd same (apart small small')
    · exact absurd same.symm (apart small' small)
    · rw [long small, long small'] at same
      obtain ⟨upper, last⟩ := List.append_inj' same rfl
      have quotients := ih (m / 16) (by omega) (n / 16) upper
      have remainders := digitChar_injective (m % 16) (by omega) (n % 16) (by omega)
        (List.cons.inj last).1
      omega

def lettered : List (Char × Char) :=
  [('"', '"'), ('\\', '\\'), ('\x00', '0'), ('\t', 't'), ('\r', 'r'), ('\n', 'n')]

theorem letter_injective : ∀ p ∈ lettered, ∀ q ∈ lettered, p.2 = q.2 → p.1 = q.1 := by
  decide

theorem letter_ne_point : ∀ p ∈ lettered, p.2 ≠ 'u' := by
  decide

theorem quotedChar_cases (c : Char) :
    (c ≠ '\\' ∧ quotedChar c = [c]) ∨ (∃ letter, (c, letter) ∈ lettered ∧
      quotedChar c = ['\\', letter]) ∨ quotedChar c = codePoint c := by
  unfold quotedChar
  split
  · exact .inr (.inl ⟨'"', by simp [*, lettered], rfl⟩)
  · split
    · exact .inr (.inl ⟨'\\', by simp [*, lettered], rfl⟩)
    · rename_i other
      split
      · rename_i zero
        have null : c = '\x00' := Char.toNat_inj.mp zero
        exact .inr (.inl ⟨'0', by simp [null, lettered], rfl⟩)
      · split
        · exact .inr (.inl ⟨'t', by simp [*, lettered], rfl⟩)
        · split
          · exact .inr (.inl ⟨'r', by simp [*, lettered], rfl⟩)
          · split
            · exact .inr (.inl ⟨'n', by simp [*, lettered], rfl⟩)
            · split
              · exact .inl ⟨other, rfl⟩
              · exact .inr (.inr rfl)

theorem eq_nil_of_close {n : Nat} {digits more s t : List Char}
    (split : Nat.toDigits 16 n = digits ++ more) (close : '\x7d' :: s = more ++ t) : more = [] := by
  cases more with
  | nil => rfl
  | cons c more =>
    have member : '\x7d' ∈ Nat.toDigits 16 n := by
      rw [split, (List.cons.inj close).1]
      exact List.mem_append_right digits List.mem_cons_self
    exact absurd member (not_close_mem_toDigits n)

theorem digits_append_inj {m n : Nat} {s t : List Char}
    (same : Nat.toDigits 16 m ++ '\x7d' :: s = Nat.toDigits 16 n ++ '\x7d' :: t) :
    m = n ∧ s = t := by
  have digits : Nat.toDigits 16 m = Nat.toDigits 16 n := by
    rcases List.append_eq_append_iff.mp same with ⟨more, split, close⟩ | ⟨more, split, close⟩
    · rw [split, eq_nil_of_close split close, List.append_nil]
    · rw [split, eq_nil_of_close split close, List.append_nil]
  rw [digits, List.append_cancel_left_eq] at same
  exact ⟨toDigits_injective m n digits, (List.cons.inj same).2⟩

theorem codePoint_append_inj {c d : Char} {s t : List Char}
    (same : codePoint c ++ s = codePoint d ++ t) : c = d ∧ s = t := by
  simp only [codePoint, List.cons_append, List.append_assoc, List.nil_append, List.cons.injEq,
    true_and] at same
  obtain ⟨numbers, rest⟩ := digits_append_inj same
  exact ⟨Char.toNat_inj.mp numbers, rest⟩

theorem quotedChar_append_inj {c d : Char} {s t : List Char}
    (same : quotedChar c ++ s = quotedChar d ++ t) : c = d ∧ s = t := by
  rcases quotedChar_cases c with ⟨plain, c_eq⟩ | ⟨letter, listed, c_eq⟩ | c_eq <;>
    rcases quotedChar_cases d with ⟨plain', d_eq⟩ | ⟨letter', listed', d_eq⟩ | d_eq <;>
    rw [c_eq, d_eq] at same
  case inl.inl => exact List.cons.inj same
  case inl.inr.inl => exact absurd (List.cons.inj same).1 plain
  case inl.inr.inr => exact absurd (List.cons.inj same).1 plain
  case inr.inl.inl => exact absurd (List.cons.inj same).1.symm plain'
  case inr.inl.inr.inl =>
    obtain ⟨letters, rest⟩ := List.cons.inj (List.cons.inj same).2
    exact ⟨letter_injective _ listed _ listed' letters, rest⟩
  case inr.inl.inr.inr =>
    exact absurd (List.cons.inj (List.cons.inj same).2).1 (letter_ne_point _ listed)
  case inr.inr.inl => exact absurd (List.cons.inj same).1.symm plain'
  case inr.inr.inr.inl =>
    exact absurd (List.cons.inj (List.cons.inj same).2).1.symm (letter_ne_point _ listed')
  case inr.inr.inr.inr => exact codePoint_append_inj same

theorem quotedChar_ne_nil (c : Char) : quotedChar c ≠ [] := by
  rcases quotedChar_cases c with ⟨_, c_eq⟩ | ⟨_, _, c_eq⟩ | c_eq <;> rw [c_eq] <;> nofun

theorem flatMap_quotedChar_injective {s t : List Char}
    (same : s.flatMap quotedChar = t.flatMap quotedChar) : s = t := by
  induction s generalizing t with
  | nil =>
    cases t with
    | nil => rfl
    | cons d t => exact absurd (List.append_eq_nil_iff.mp same.symm).1 (quotedChar_ne_nil d)
  | cons c s ih =>
    cases t with
    | nil => exact absurd (List.append_eq_nil_iff.mp same).1 (quotedChar_ne_nil c)
    | cons d t =>
      obtain ⟨rfl, rest⟩ := quotedChar_append_inj same
      rw [ih rest]

theorem quoted_injective {s t : String} (same : quoted s = quoted t) : s = t := by
  have inner := (List.cons.inj (String.ofList_injective same)).2
  exact String.toList_injective (flatMap_quotedChar_injective (List.append_cancel_right inner))

end ControlPlane.Text
