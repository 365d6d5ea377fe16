import ControlPlane.Proofs.Stripping
import ControlPlane.Text.Basic
import Mathlib.Algebra.Group.Nat.Defs
/-!
Decimal text. The digits of a number are read back as the number, and nothing is taken off them as
blank. A text is read as a number or an integer only if it writes that one.
-/
namespace ControlPlane.Text

theorem digit?_of_isDigit {c : Char} (digit : c.isDigit = true) :
    digit? c = some (c.toNat - '0'.toNat) := by
  have bounds : '0' ≤ c ∧ c ≤ '9' := by
    simpa [Char.isDigit, Char.le_def] using digit
  simp [digit?, bounds]

theorem digitsFrom_of_digits {s : List Char} (digits : ∀ c ∈ s, c.isDigit = true) (value : Nat) :
    digitsFrom value s = some (Nat.ofDigitChars 10 s value) := by
  induction s generalizing value with
  | nil => rfl
  | cons c s ih =>
    have first := digit?_of_isDigit (digits c List.mem_cons_self)
    rw [digitsFrom, first, Option.bind_some, ih (fun d later => digits d (.tail c later))]
    rw [Nat.ofDigitChars_cons, Nat.mul_comm]

theorem natural?_toDigits (n : Nat) : natural? (Nat.toDigits 10 n) = some n := by
  have digits : ∀ c ∈ Nat.toDigits 10 n, c.isDigit = true := fun c member =>
    Nat.isDigit_of_mem_toDigits (by decide) (by decide) member
  have value := digitsFrom_of_digits digits 0
  rw [Nat.ofDigitChars_ten_toDigits] at value
  cases shape : Nat.toDigits 10 n with
  | nil => exact absurd shape Nat.toDigits_ne_nil
  | cons c rest =>
    rw [shape] at value
    exact value

theorem uint32?_toDigits {n : Nat} (fits : n < UInt32.size) :
    uint32? (Nat.toDigits 10 n) = some (UInt32.ofNat n) := by
  have unsigned : ∀ rest, Nat.toDigits 10 n ≠ '+' :: rest := by
    intro rest shape
    have digit : ('+' : Char).isDigit = true :=
      Nat.isDigit_of_mem_toDigits (b := 10) (n := n) (by decide) (by decide)
        (by rw [shape]; exact List.mem_cons_self)
    contradiction
  unfold uint32?
  split
  · rename_i rest shape
    exact absurd shape (unsigned rest)
  · rw [natural?_toDigits, Option.bind_some, if_pos fits]

theorem not_isBlank_of_isDigit {c : Char} (digit : c.isDigit = true) : isBlank c = false := by
  have bounds : 48 ≤ c.toNat ∧ c.toNat ≤ 57 := by
    simp only [Char.isDigit, Bool.and_eq_true, decide_eq_true_eq, ge_iff_le,
      UInt32.le_iff_toNat_le] at digit
    exact digit
  simp only [isBlank, Bool.or_eq_false_iff, Bool.and_eq_false_iff, decide_eq_false_iff_not,
    beq_eq_false_iff_ne]
  omega

theorem trim_of_solid {s : List Char} (solid : ∀ c ∈ s, isBlank c = false) : trim s = s := by
  by_cases filled : s = []
  · rw [filled]
    rfl
  · have whole := @stripWhile_of_ends isBlank [] s [] filled (List.forall_mem_nil _)
      (List.forall_mem_nil _)
      (fun c first => solid c (List.mem_of_head? first))
      (fun c last => solid c (List.mem_of_getLast? last))
    rwa [List.append_nil] at whole

theorem trim_toDigits (n : Nat) : trim (Nat.toDigits 10 n) = Nat.toDigits 10 n :=
  trim_of_solid fun _ member =>
    not_isBlank_of_isDigit (Nat.isDigit_of_mem_toDigits (by decide) (by decide) member)

/-- The text consists of decimal digits, and they write the number; no digits write zero. -/
structure Digits (n : Nat) (s : List Char) : Prop where
  digits : ∀ c ∈ s, c.isDigit = true
  value : Nat.ofDigitChars 10 s 0 = n

theorem digits_of_all {n : Nat} {s : List Char}
    (written : (s.all Char.isDigit && Nat.ofDigitChars 10 s 0 == n) = true) : Digits n s := by
  obtain ⟨digits, value⟩ := Bool.and_eq_true_iff.mp written
  exact ⟨List.all_eq_true.mp digits, eq_of_beq value⟩

theorem digit?_of_not_isDigit {c : Char} (other : c.isDigit = false) : digit? c = none := by
  have outside : ¬ ('0' ≤ c ∧ c ≤ '9') := by
    simpa [Char.isDigit, Char.le_def] using other
  simpa [digit?] using outside

theorem digitsFrom_eq_some_iff {value n : Nat} {s : List Char} : digitsFrom value s = some n ↔
    (∀ c ∈ s, c.isDigit = true) ∧ Nat.ofDigitChars 10 s value = n := by
  constructor
  · intro read
    have digits : ∀ c ∈ s, c.isDigit = true := by
      induction s generalizing value with
      | nil => exact List.forall_mem_nil _
      | cons c s ih =>
        cases first : c.isDigit with
        | true =>
          rw [digitsFrom, digit?_of_isDigit first] at read
          exact List.forall_mem_cons.mpr ⟨first, ih read⟩
        | false =>
          rw [digitsFrom, digit?_of_not_isDigit first] at read
          contradiction
    rw [digitsFrom_of_digits digits] at read
    exact ⟨digits, Option.some.inj read⟩
  · rintro ⟨digits, rfl⟩
    exact digitsFrom_of_digits digits value

theorem natural?_eq_some_iff {n : Nat} {s : List Char} :
    natural? s = some n ↔ s ≠ [] ∧ Digits n s := by
  cases s with
  | nil => simp [natural?]
  | cons c s =>
    rw [natural?, digitsFrom_eq_some_iff]
    constructor
    · rintro ⟨digits, value⟩
      exact ⟨List.cons_ne_nil c s, digits, value⟩
    · rintro ⟨-, written⟩
      exact ⟨written.digits, written.value⟩

theorem ofDigitChars_lt {s : List Char} (digits : ∀ c ∈ s, c.isDigit = true) (value : Nat) :
    Nat.ofDigitChars 10 s value < (value + 1) * 10 ^ s.length := by
  induction s generalizing value with
  | nil => simp [Nat.ofDigitChars]
  | cons c s ih =>
    have small : c.toNat - '0'.toNat < 10 := by
      have bounds := Char.isDigit_iff_toNat.mp (digits c List.mem_cons_self)
      have nine : '9'.toNat = '0'.toNat + 9 := rfl
      omega
    rw [Nat.ofDigitChars_cons, List.length_cons, Nat.pow_succ']
    calc Nat.ofDigitChars 10 s (10 * value + (c.toNat - '0'.toNat))
        < (10 * value + (c.toNat - '0'.toNat) + 1) * 10 ^ s.length :=
          ih (fun d later => digits d (.tail c later)) _
      _ ≤ ((value + 1) * 10) * 10 ^ s.length := Nat.mul_le_mul_right _ (by omega)
      _ = (value + 1) * (10 * 10 ^ s.length) := Nat.mul_assoc _ _ _

theorem Digits.lt {n : Nat} {s : List Char} (written : Digits n s) : n < 10 ^ s.length := by
  have bound := ofDigitChars_lt written.digits 0
  rwa [written.value, Nat.zero_add, Nat.one_mul] at bound

/-- The text writes the integer: at least one digit, after a sign or none. -/
inductive WritesInteger : Int → List Char → Prop where
  | bare {n : Nat} {s : List Char} (filled : s ≠ []) (written : Digits n s) : WritesInteger n s
  | plus {n : Nat} {s : List Char} (filled : s ≠ []) (written : Digits n s) :
      WritesInteger n ('+' :: s)
  | minus {n : Nat} {s : List Char} (filled : s ≠ []) (written : Digits n s) :
      WritesInteger (-n) ('-' :: s)

theorem integer?_eq_some_iff {n : Int} {s : List Char} :
    integer? s = some n ↔ WritesInteger n s := by
  constructor
  · intro read
    unfold integer? at read
    split at read <;> obtain ⟨k, natural, rfl⟩ := Option.map_eq_some_iff.mp read <;>
      obtain ⟨filled, written⟩ := natural?_eq_some_iff.mp natural
    · exact .plus filled written
    · exact .minus filled written
    · exact .bare filled written
  · intro writes
    cases writes with
    | plus filled written =>
      rw [integer?, natural?_eq_some_iff.mpr ⟨filled, written⟩]
      rfl
    | minus filled written =>
      rw [integer?, natural?_eq_some_iff.mpr ⟨filled, written⟩]
      rfl
    | @bare k s filled written =>
      have natural := natural?_eq_some_iff.mpr ⟨filled, written⟩
      unfold integer?
      split
      · exact absurd (written.digits '+' List.mem_cons_self) (by decide)
      · exact absurd (written.digits '-' List.mem_cons_self) (by decide)
      · rw [natural]
        rfl

theorem WritesInteger.ne_nil {n : Int} {s : List Char} (writes : WritesInteger n s) : s ≠ [] := by
  cases writes with
  | bare filled written => exact filled
  | plus => exact List.cons_ne_nil _ _
  | minus => exact List.cons_ne_nil _ _

theorem WritesInteger.chars {n : Int} {s : List Char} (writes : WritesInteger n s) :
    ∀ c ∈ s, c.isDigit = true ∨ c ∈ ['+', '-'] := by
  intro c member
  cases writes with
  | bare filled written => exact .inl (written.digits c member)
  | plus filled written =>
    rcases List.mem_cons.mp member with rfl | later
    · exact .inr (by decide)
    · exact .inl (written.digits c later)
  | minus filled written =>
    rcases List.mem_cons.mp member with rfl | later
    · exact .inr (by decide)
    · exact .inl (written.digits c later)

theorem int64?_eq_some_iff {n : Int} {s : List Char} : int64? s = some n ↔
    WritesInteger n s ∧ -0x8000000000000000 ≤ n ∧ n < 0x8000000000000000 := by
  simp [int64?, Option.filter_eq_some_iff, integer?_eq_some_iff]

end ControlPlane.Text
