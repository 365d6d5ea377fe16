import ControlPlane.Proofs.Nearest
/-!
Decimal text is read as the double nearest to the number that it writes. The text is one or more
digits with a point among them or none, after a plus or none, and with a power of ten or none.
-/
namespace ControlPlane.Double

open Text

inductive PointText : Nat → Nat → List Char → Prop where
  | whole {n : Nat} {s : List Char} (filled : s ≠ []) (written : Digits n s) : PointText n 0 s
  | pointed {n : Nat} {s t : List Char} (filled : s ++ t ≠ []) (written : Digits n (s ++ t)) :
      PointText n t.length (s ++ '.' :: t)

inductive PowerText : Int → List Char → Prop where
  | absent : PowerText 0 []
  | present {e : Int} {letter : Char} {s : List Char} (named : letter ∈ ['e', 'E'])
      (written : WritesInteger e s) : PowerText e (letter :: s)

/-- The text writes the number, which is not below zero. -/
inductive WritesDecimal : ℚ → List Char → Prop where
  | bare {n scale : Nat} {e : Int} {s t : List Char} (point : PointText n scale s)
      (power : PowerText e t) : WritesDecimal (n * 10 ^ (e - scale)) (s ++ t)
  | plus {n scale : Nat} {e : Int} {s t : List Char} (point : PointText n scale s)
      (power : PowerText e t) : WritesDecimal (n * 10 ^ (e - scale)) ('+' :: (s ++ t))

theorem isSome_digit? (c : Char) : (digit? c).isSome = c.isDigit := by
  cases digit : c.isDigit with
  | true => rw [digit?_of_isDigit digit, Option.isSome_some]
  | false => rw [digit?_of_not_isDigit digit, Option.isSome_none]

theorem digitRun_digits {s rest : List Char} (digits : ∀ c ∈ s, c.isDigit = true)
    (stops : ∀ c, rest.head? = some c → c.isDigit = false) : digitRun (s ++ rest) = (s, rest) := by
  have run : digitRun (s ++ rest) = (s ++ rest).span Char.isDigit := by
    rw [digitRun]
    simp only [isSome_digit?]
  have stopped : rest.takeWhile Char.isDigit = [] ∧ rest.dropWhile Char.isDigit = rest := by
    cases rest with
    | nil => exact ⟨rfl, rfl⟩
    | cons c rest =>
      have other := stops c rfl
      simp [other]
  rw [run, List.span_eq_takeWhile_dropWhile, List.takeWhile_append_of_pos digits,
    List.dropWhile_append_of_pos digits, stopped.1, stopped.2, List.append_nil]

theorem digitsValue_of_digits {n : Nat} {s : List Char} (written : Digits n s) :
    digitsValue s = n := by
  rw [digitsValue, digitsFrom_of_digits written.digits, written.value]
  rfl

theorem PowerText.stops {e : Int} {t : List Char} (power : PowerText e t) :
    ∀ c, t.head? = some c → c.isDigit = false ∧ c ≠ '.' := by
  cases power with
  | absent => nofun
  | present named written =>
    rintro c ⟨⟩
    simp only [List.mem_cons, List.not_mem_nil, or_false] at named
    rcases named with rfl | rfl <;> decide

theorem exponentPart_of_power {e : Int} {t : List Char} (power : PowerText e t) :
    exponentPart t = some e := by
  cases power with
  | absent => rfl
  | @present e letter s named written =>
    have letter_ : (letter = 'e' || letter = 'E') = true := by simpa using named
    rw [exponentPart, if_pos letter_, integer?_eq_some_iff.mpr written]

theorem scientific?_of_point {n scale : Nat} {e : Int} {s t : List Char}
    (point : PointText n scale s) (power : PowerText e t) :
    scientific? (s ++ t) = some ⟨n, e - scale⟩ := by
  cases point with
  | whole filled written =>
    have run := digitRun_digits written.digits fun c first => (power.stops c first).1
    have some_ : s.isEmpty = false := by simpa using filled
    unfold scientific?
    rw [run]
    dsimp only
    split
    · rename_i rest
      exact absurd rfl (power.stops '.' rfl).2
    · rw [some_, Bool.false_and, if_neg Bool.false_ne_true, exponentPart_of_power power,
        List.append_nil, digitsValue_of_digits written]
      rfl
  | @pointed s t' filled written =>
    have digits := List.forall_mem_append.mp written.digits
    have run : digitRun (s ++ ('.' :: (t' ++ t))) = (s, '.' :: (t' ++ t)) :=
      digitRun_digits digits.1 fun c first => by cases first; rfl
    have run' : digitRun (t' ++ t) = (t', t) :=
      digitRun_digits digits.2 fun c first => (power.stops c first).1
    have some_ : (s.isEmpty && t'.isEmpty) = false := by simpa using filled
    rw [List.append_assoc, List.cons_append]
    unfold scientific?
    simp only [run, run', some_, exponentPart_of_power power, digitsValue_of_digits written]
    rfl

theorem first_of_point {n scale : Nat} {s : List Char} (point : PointText n scale s) :
    ∃ c rest, s = c :: rest ∧ (c.isDigit = true ∨ c = '.') := by
  cases point with
  | whole filled written =>
    cases s with
    | nil => exact absurd rfl filled
    | cons c rest => exact ⟨c, rest, rfl, .inl (written.digits c List.mem_cons_self)⟩
  | @pointed s t filled written =>
    cases s with
    | nil => exact ⟨'.', t, rfl, .inr rfl⟩
    | cons c rest =>
      refine ⟨c, rest ++ '.' :: t, rfl, .inl ?_⟩
      exact written.digits c (List.mem_append_left t List.mem_cons_self)

theorem lower_of_first {c : Char} (first : c.isDigit = true ∨ c = '.') : lower c = c := by
  have small : c.toNat ≤ 57 := by
    rcases first with digit | rfl
    · exact (Char.isDigit_iff_toNat.mp digit).2
    · decide
  have outside : ¬ (c.val ≥ 65 ∧ c.val ≤ 90) := by
    rw [ge_iff_le, UInt32.le_iff_toNat_le]
    exact fun letter => absurd (letter.1.trans small) (by decide)
  exact dif_neg outside

theorem unsigned?_of_first {c : Char} (first : c.isDigit = true ∨ c = '.') (negative : Bool)
    (rest : List Char) : unsigned? negative (c :: rest) =
      (scientific? (c :: rest)).map fun d => ofUnits negative d.units := by
  have other : c ≠ 'i' ∧ c ≠ 'n' := by
    constructor <;> rintro rfl <;> exact absurd first (by decide)
  have word : (c :: rest).map lower = c :: rest.map lower := by
    rw [List.map_cons, lower_of_first first]
  unfold unsigned?
  simp only [word]
  rw [if_neg (by simp [other.1]), if_neg (by simp [other.2])]
  rfl

/-- A decimal text is read as the double nearest to its number. -/
theorem parse?_of_writes {p : ℚ} {s : List Char} (writes : WritesDecimal p s) :
    ∃ d : Scientific, d.value = p ∧ parse? s = some (ofUnits false d.units) := by
  cases writes with
  | @bare n scale e s t point power =>
    refine ⟨⟨n, e - scale⟩, rfl, ?_⟩
    have read := scientific?_of_point point power
    obtain ⟨c, rest, rfl, first⟩ := first_of_point point
    rw [List.cons_append] at read ⊢
    have unsigned : parse? (c :: (rest ++ t)) = unsigned? false (c :: (rest ++ t)) := by
      unfold parse?
      split
      · rename_i shape
        obtain ⟨rfl, -⟩ := List.cons_eq_cons.mp shape
        exact absurd first (by decide)
      · rename_i shape
        obtain ⟨rfl, -⟩ := List.cons_eq_cons.mp shape
        exact absurd first (by decide)
      · rfl
    rw [unsigned, unsigned?_of_first first, read]
    rfl
  | @plus n scale e s t point power =>
    refine ⟨⟨n, e - scale⟩, rfl, ?_⟩
    have read := scientific?_of_point point power
    obtain ⟨c, rest, rfl, first⟩ := first_of_point point
    rw [List.cons_append] at read ⊢
    rw [parse?, unsigned?_of_first first, read]
    rfl

end ControlPlane.Double
