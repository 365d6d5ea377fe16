import ControlPlane.Double.Basic
import Mathlib.Tactic.Linarith
/-!
What rounding does to a number. A fraction is rounded on the grid of its binade: to a multiple of a
power of two that leaves 53 bits. Rounding keeps the order of fractions, also from one binade to the
next, and it adds no more than a share of 2 ^ -53 or half of the smallest unit.
-/
namespace ControlPlane.Double

theorem one_large : 2 ^ 200 ≤ one := by decide +kernel

theorem one_pos : 0 < one := Nat.lt_of_lt_of_le (Nat.two_pow_pos 200) one_large

structure Near (num den n : Nat) : Prop where
  lower : 2 * num ≤ 2 * (n * den) + den
  upper : 2 * (n * den) ≤ 2 * num + den

theorem near_roundHalfEven (num : Nat) {den : Nat} (positive : 0 < den) :
    Near num den (roundHalfEven num den) := by
  have parts := Nat.div_add_mod' num den
  have below := Nat.mod_lt num positive
  have next : (num / den + 1) * den = num / den * den + den := Nat.succ_mul _ _
  unfold roundHalfEven
  dsimp only
  split
  · constructor <;> omega
  · split
    · constructor <;> omega
    · -- a tie: the parity of the whole part adds nothing or one
      rcases Nat.mod_two_eq_zero_or_one (num / den) with even | odd
      · rw [even, Nat.add_zero]
        constructor <;> omega
      · rw [odd]
        constructor <;> omega

theorem roundHalfEven_scaled (num den : Nat) {k : Nat} (positive : 0 < k) :
    roundHalfEven (num * k) (den * k) = roundHalfEven num den := by
  have twice : 2 * (num % den * k) = 2 * (num % den) * k := (Nat.mul_assoc _ _ _).symm
  simp only [roundHalfEven, Nat.mul_div_mul_right _ _ positive, Nat.mul_mod_mul_right, twice,
    Nat.mul_lt_mul_right positive]

theorem roundHalfEven_le_of_cross {num den num' den' : Nat} (positive : 0 < den)
    (positive' : 0 < den') (le : num * den' ≤ num' * den) :
    roundHalfEven num den ≤ roundHalfEven num' den' := by
  rcases Nat.lt_or_eq_of_le le with less | same
  · -- two whole numbers in the wrong order would have the two fractions one apart
    have near := (near_roundHalfEven num positive).upper
    have near' := (near_roundHalfEven num' positive').lower
    generalize roundHalfEven num den = n at *
    generalize roundHalfEven num' den' = n' at *
    by_contra wrong
    have apart := Nat.mul_le_mul_right (den * den') (Nat.lt_of_not_ge wrong)
    have scaled := Nat.mul_le_mul_right den' near
    have scaled' := Nat.mul_le_mul_right den near'
    rw [Nat.succ_mul] at apart
    linarith
  · rw [← roundHalfEven_scaled num den positive', same, Nat.mul_comm den,
      roundHalfEven_scaled num' den' positive]

theorem roundHalfEven_mul (n : Nat) {den : Nat} (positive : 0 < den) :
    roundHalfEven (n * den) den = n := by
  simp [roundHalfEven, positive]

theorem roundHalfEven_le {num den n : Nat} (positive : 0 < den) (le : num ≤ n * den) :
    roundHalfEven num den ≤ n :=
  calc roundHalfEven num den ≤ roundHalfEven (n * den) den :=
        roundHalfEven_le_of_cross positive positive (Nat.mul_le_mul_right den le)
    _ = n := roundHalfEven_mul n positive

theorem le_roundHalfEven {num den n : Nat} (positive : 0 < den) (le : n * den ≤ num) :
    n ≤ roundHalfEven num den :=
  calc n = roundHalfEven (n * den) den := (roundHalfEven_mul n positive).symm
    _ ≤ roundHalfEven num den :=
        roundHalfEven_le_of_cross positive positive (Nat.mul_le_mul_right den le)

/-- The neighbours of a value whose whole part is `q` units are `2 ^ k` units apart. -/
structure Binade (q k : Nat) : Prop where
  spacing : spacing q = 2 ^ k
  below : q < 2 ^ (k + 53)
  reached : k = 0 ∨ 2 ^ (k + 52) ≤ q

theorem exists_binade (q : Nat) : ∃ k, Binade q k := by
  by_cases small : q < 2 ^ 53
  · exact ⟨0, if_pos small, small, .inl rfl⟩
  · have high : 53 ≤ q.log2 := (Nat.le_log2 (by omega)).mpr (Nat.le_of_not_lt small)
    refine ⟨q.log2 - 52, if_neg small, ?_, .inr ?_⟩
    · rw [show q.log2 - 52 + 53 = q.log2 + 1 by omega]
      exact Nat.lt_log2_self
    · rw [Nat.sub_add_cancel (by omega)]
      exact Nat.log2_self_le (by omega)

theorem Binade.le {q q' k k' : Nat} (binade : Binade q k) (binade' : Binade q' k')
    (le : q ≤ q') : k ≤ k' := by
  rcases binade.reached with rfl | reached
  · exact Nat.zero_le k'
  · have powers : 2 ^ (k + 52) < 2 ^ (k' + 53) :=
      Nat.lt_of_le_of_lt reached (Nat.lt_of_le_of_lt le binade'.below)
    have exponents := (Nat.pow_lt_pow_iff_right (by decide)).mp powers
    omega

theorem Binade.round_eq {num den k : Nat} (binade : Binade (num / den) k) :
    round num den = roundHalfEven num (den * 2 ^ k) * 2 ^ k := by
  rw [Double.round, binade.spacing]

theorem Binade.round_le {num den k : Nat} (positive : 0 < den) (binade : Binade (num / den) k) :
    Double.round num den ≤ 2 ^ (k + 53) := by
  have within : num ≤ 2 ^ 53 * (den * 2 ^ k) := by
    have less := (Nat.div_lt_iff_lt_mul positive).mp binade.below
    rw [Nat.pow_add] at less
    linarith
  rw [binade.round_eq, Nat.pow_add, Nat.mul_comm]
  exact Nat.mul_le_mul_left _ (roundHalfEven_le (Nat.mul_pos positive (Nat.two_pow_pos k)) within)

theorem Binade.le_round {num den k : Nat} (positive : 0 < den) (binade : Binade (num / den) k)
    (reached : 2 ^ (k + 52) ≤ num / den) : 2 ^ (k + 52) ≤ Double.round num den := by
  have within : 2 ^ 52 * (den * 2 ^ k) ≤ num := by
    have least := (Nat.le_div_iff_mul_le positive).mp reached
    rw [Nat.pow_add] at least
    linarith
  rw [binade.round_eq, Nat.pow_add, Nat.mul_comm]
  exact Nat.mul_le_mul_right _ (le_roundHalfEven (Nat.mul_pos positive (Nat.two_pow_pos k)) within)

theorem round_le_round {num den num' den' : Nat} (positive : 0 < den) (positive' : 0 < den')
    (le : num * den' ≤ num' * den) : round num den ≤ round num' den' := by
  have whole : num / den ≤ num' / den' := by
    rw [Nat.le_div_iff_mul_le positive']
    refine Nat.le_of_mul_le_mul_right ?_ positive
    calc num / den * den' * den = num / den * den * den' := Nat.mul_right_comm _ _ _
      _ ≤ num * den' := Nat.mul_le_mul_right _ (Nat.div_mul_le_self num den)
      _ ≤ num' * den := le
  obtain ⟨k, binade⟩ := exists_binade (num / den)
  obtain ⟨k', binade'⟩ := exists_binade (num' / den')
  rcases Nat.lt_or_eq_of_le (binade.le binade' whole) with lower | same
  · -- the binades differ: the end of the first is not beyond the beginning of the second
    have reached' := binade'.reached.resolve_left (by omega)
    calc round num den ≤ 2 ^ (k + 53) := binade.round_le positive
      _ ≤ 2 ^ (k' + 52) := Nat.pow_le_pow_right (by decide) (by omega)
      _ ≤ round num' den' := binade'.le_round positive' reached'
  · subst same
    rw [binade.round_eq, binade'.round_eq]
    have unit := Nat.two_pow_pos k
    refine Nat.mul_le_mul_right _ (roundHalfEven_le_of_cross (Nat.mul_pos positive unit)
      (Nat.mul_pos positive' unit) ?_)
    rw [← Nat.mul_assoc, ← Nat.mul_assoc]
    exact Nat.mul_le_mul_right _ le

theorem round_zero {den : Nat} (positive : 0 < den) : round 0 den = 0 := by
  obtain ⟨k, binade⟩ := exists_binade (0 / den)
  have empty := roundHalfEven_mul 0 (Nat.mul_pos positive (Nat.two_pow_pos k))
  rw [Nat.zero_mul] at empty
  rw [binade.round_eq, empty, Nat.zero_mul]

/-- Rounding adds at most a share of `2 ^ -53`, or half a unit. -/
theorem round_upper (num : Nat) {den : Nat} (positive : 0 < den) :
    2 ^ 53 * (den * round num den) ≤ (2 ^ 53 + 1) * num + 2 ^ 52 * den := by
  obtain ⟨k, binade⟩ := exists_binade (num / den)
  have near := (near_roundHalfEven num (Nat.mul_pos positive (Nat.two_pow_pos k))).upper
  have half : 2 * (den * round num den) ≤ 2 * num + den * 2 ^ k := by
    rw [binade.round_eq]
    linarith
  rcases binade.reached with rfl | reached
  · omega
  · have least := (Nat.le_div_iff_mul_le positive).mp reached
    have share : 2 ^ 52 * (den * 2 ^ k) ≤ num := by
      rw [Nat.pow_add] at least
      linarith
    omega

end ControlPlane.Double
