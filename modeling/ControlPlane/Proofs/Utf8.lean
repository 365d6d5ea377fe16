import ControlPlane.Text.Utf8
import Mathlib.Tactic.IntervalCases
/-!
Reading UTF-8 gives back the text that was written. The machine takes a first byte and then the
bytes it owes; the bits it has collected are those of the character, from the highest on.
-/
namespace ControlPlane.Text

theorem readFrom_whole {b : UInt8} {c : Char} (whole : lead b.toNat = .whole c)
    (rest : List UInt8) : readFrom none (b :: rest) = some c :: readFrom none rest := by
  simp only [readFrom, fromLead, whole]

theorem readFrom_begun {b : UInt8} {p : Partial} (begun : lead b.toNat = .begun p)
    (rest : List UInt8) : readFrom none (b :: rest) = readFrom (some p) rest := by
  simp only [readFrom, fromLead, begun]

theorem readFrom_owed {owed low high bits : Nat} {b : UInt8} (above : low ≤ b.toNat)
    (below : b.toNat ≤ high) (more : owed ≠ 1) (rest : List UInt8) :
    readFrom (some ⟨owed, low, high, bits⟩) (b :: rest) =
      readFrom (some ⟨owed - 1, 0x80, 0xBF, bits * 64 + (b.toNat - 0x80)⟩) rest := by
  simp only [readFrom, above, below, more, decide_true, Bool.and_true, if_true, if_false]

theorem readFrom_last {low high bits : Nat} {b : UInt8} (above : low ≤ b.toNat)
    (below : b.toNat ≤ high) (rest : List UInt8) :
    readFrom (some ⟨1, low, high, bits⟩) (b :: rest) =
      some (Char.ofNat (bits * 64 + (b.toNat - 0x80))) :: readFrom none rest := by
  simp only [readFrom, above, below, decide_true, Bool.and_true, if_true]

theorem lead_two {e : Nat} (least : 2 ≤ e) (most : e < 0x20) :
    lead (e + 0xC0) = .begun ⟨1, 0x80, 0xBF, e⟩ := by
  interval_cases e <;> rfl

/-- The second byte of three is bounded so that no shorter sequence and no surrogate is written. -/
theorem lead_three {e : Nat} (most : e < 0x10) :
    lead (e + 0xE0) =
      .begun ⟨2, if e = 0 then 0xA0 else 0x80, if e = 0xD then 0x9F else 0xBF, e⟩ := by
  interval_cases e <;> rfl

/-- The second byte of four is bounded so that nothing shorter and nothing above the last character
is written. -/
theorem lead_four {e : Nat} (most : e < 5) :
    lead (e + 0xF0) =
      .begun ⟨3, if e = 0 then 0x90 else 0x80, if e = 4 then 0x8F else 0xBF, e⟩ := by
  interval_cases e <;> rfl

theorem toNat_ofNat_byte {n : Nat} (fits : n < 256) : (UInt8.ofNat n).toNat = n := by
  rw [UInt8.toNat_ofNat']
  exact Nat.mod_eq_of_lt fits

theorem toNat_tail (n : Nat) : (UInt8.ofNat (n % 0x40 + 0x80)).toNat = n % 0x40 + 0x80 :=
  toNat_ofNat_byte (by omega)

theorem toNat_char (c : Char) : c.toNat < 0xD800 ∨ 0xE000 ≤ c.toNat ∧ c.toNat < 0x110000 := by
  rcases c.valid with low | ⟨above, below⟩
  · exact .inl low
  · exact .inr ⟨above, below⟩

theorem readFrom_utf8EncodeChar (c : Char) (rest : List UInt8) :
    readFrom none (String.utf8EncodeChar c ++ rest) = some c :: readFrom none rest := by
  have range := toNat_char c
  have same : Char.ofNat c.toNat = c := Char.ofNat_toNat c
  have val : c.val.toNat = c.toNat := rfl
  unfold String.utf8EncodeChar
  rw [val]
  generalize c.toNat = n at range same ⊢
  dsimp only
  split
  · have byte : (UInt8.ofNat n).toNat = n := toNat_ofNat_byte (by omega)
    have whole : lead (UInt8.ofNat n).toNat = .whole c := by
      rw [byte, ← same, lead, if_pos (by omega)]
    exact readFrom_whole whole rest
  · split
    · have first : (UInt8.ofNat (n / 64 % 0x20 + 0xC0)).toNat = n / 64 % 0x20 + 0xC0 :=
        toNat_ofNat_byte (by omega)
      have last := toNat_tail n
      simp only [List.cons_append, List.nil_append]
      rw [readFrom_begun (by rw [first]; exact lead_two (by omega) (by omega)),
        readFrom_last (by omega) (by omega), last]
      have bits : n / 64 % 0x20 * 64 + (n % 0x40 + 0x80 - 0x80) = n := by omega
      rw [bits, same]
    · split
      · have first : (UInt8.ofNat (n / 4096 % 0x10 + 0xE0)).toNat = n / 4096 % 0x10 + 0xE0 :=
          toNat_ofNat_byte (by omega)
        have second := toNat_tail (n / 64)
        have last := toNat_tail n
        simp only [List.cons_append, List.nil_append]
        rw [readFrom_begun (by rw [first]; exact lead_three (by omega)),
          readFrom_owed (by split <;> omega) (by split <;> omega) (by decide),
          readFrom_last (by omega) (by omega), second, last]
        have bits : (n / 4096 % 0x10 * 64 + (n / 64 % 0x40 + 0x80 - 0x80)) * 64 +
            (n % 0x40 + 0x80 - 0x80) = n := by omega
        rw [bits, same]
      · have first : (UInt8.ofNat (n / 262144 % 0x08 + 0xF0)).toNat = n / 262144 % 0x08 + 0xF0 :=
          toNat_ofNat_byte (by omega)
        have second := toNat_tail (n / 4096)
        have third := toNat_tail (n / 64)
        have last := toNat_tail n
        simp only [List.cons_append, List.nil_append]
        rw [readFrom_begun (by rw [first]; exact lead_four (by omega)),
          readFrom_owed (by split <;> omega) (by split <;> omega) (by decide),
          readFrom_owed (by omega) (by omega) (by decide),
          readFrom_last (by omega) (by omega), second, third, last]
        have bits : ((n / 262144 % 0x08 * 64 + (n / 4096 % 0x40 + 0x80 - 0x80)) * 64 +
            (n / 64 % 0x40 + 0x80 - 0x80)) * 64 + (n % 0x40 + 0x80 - 0x80) = n := by omega
        rw [bits, same]

@[simp] theorem utf8_nil : utf8 [] = [] := rfl

@[simp] theorem utf8_cons (c : Char) (s : List Char) :
    utf8 (c :: s) = String.utf8EncodeChar c ++ utf8 s := rfl

@[simp] theorem utf8_append (s t : List Char) : utf8 (s ++ t) = utf8 s ++ utf8 t :=
  List.flatMap_append

theorem characters_utf8 (s : List Char) : characters (utf8 s) = s.map some := by
  unfold characters
  induction s with
  | nil => rfl
  | cons c s ih => rw [utf8_cons, readFrom_utf8EncodeChar, ih, List.map_cons]

theorem lenient_utf8 (s : List Char) : lenient (utf8 s) = s := by
  rw [lenient, characters_utf8, List.map_map]
  exact List.map_id s

end ControlPlane.Text
