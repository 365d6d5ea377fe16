import ControlPlane.Double.Decimal
import ControlPlane.Proofs.Decimals
import ControlPlane.Proofs.Rounding
import Mathlib.Algebra.Order.Field.Power
import Mathlib.Algebra.Order.Field.Rat
import Mathlib.Tactic.FieldSimp
import Mathlib.Tactic.Positivity
import Mathlib.Tactic.Ring
/-!
The double nearest to a decimal number. Between two neighbours the middle decides: what lies below
it rounds to the first one at most, and what lies at it or beyond rounds to the second one at least,
if that is the even one. So whether a number's double lies below a given one is said of the number
itself.
-/
namespace ControlPlane.Double

theorem binade_of_bounds {q k : Nat} (least : 2 ^ (k + 52) ≤ q) (most : q < 2 ^ (k + 53)) :
    Binade q k := by
  obtain ⟨k', binade⟩ := exists_binade q
  have low : k + 52 < k' + 53 :=
    (Nat.pow_lt_pow_iff_right (by decide)).mp (Nat.lt_of_le_of_lt least binade.below)
  have high : k' ≤ k := by
    rcases binade.reached with rfl | reached
    · exact Nat.zero_le k
    · have powers : k' + 52 < k + 53 :=
        (Nat.pow_lt_pow_iff_right (by decide)).mp (Nat.lt_of_le_of_lt reached most)
      omega
  obtain rfl : k' = k := by omega
  exact binade

theorem binade_of_places {q m k : Nat} (inner : 2 ^ 52 ≤ m) (outer : m < 2 ^ 53)
    (least : m * 2 ^ k ≤ q) (most : q < (m + 1) * 2 ^ k) : Binade q k := by
  refine binade_of_bounds ?_ ?_
  · calc 2 ^ (k + 52) = 2 ^ 52 * 2 ^ k := by rw [Nat.pow_add, Nat.mul_comm]
      _ ≤ m * 2 ^ k := Nat.mul_le_mul_right _ inner
      _ ≤ q := least
  · calc q < (m + 1) * 2 ^ k := most
      _ ≤ 2 ^ 53 * 2 ^ k := Nat.mul_le_mul_right _ outer
      _ = 2 ^ (k + 53) := by rw [Nat.pow_add, Nat.mul_comm]

theorem round_le_before {num den m k : Nat} (positive : 0 < den) (inner : 2 ^ 52 ≤ m)
    (outer : m < 2 ^ 53) (below : 2 * num < (2 * m + 1) * 2 ^ k * den) :
    round num den ≤ m * 2 ^ k := by
  have unit := Nat.two_pow_pos k
  have within : num / den ≤ (m + 1) * 2 ^ k - 1 := by
    refine Nat.le_sub_one_of_lt ((Nat.div_lt_iff_lt_mul positive).mpr ?_)
    linarith [Nat.mul_pos unit positive]
  have next : (m + 1) * 2 ^ k = m * 2 ^ k + 2 ^ k := Nat.succ_mul m _
  have binade : Binade ((m + 1) * 2 ^ k - 1) k :=
    binade_of_places inner outer (by omega) (by omega)
  obtain ⟨k', binade'⟩ := exists_binade (num / den)
  rcases Nat.lt_or_eq_of_le (binade'.le binade within) with lower | rfl
  · calc round num den ≤ 2 ^ (k' + 53) := binade'.round_le positive
      _ ≤ 2 ^ (52 + k) := Nat.pow_le_pow_right (by decide) (by omega)
      _ = 2 ^ 52 * 2 ^ k := Nat.pow_add 2 52 k
      _ ≤ m * 2 ^ k := Nat.mul_le_mul_right _ inner
  · rw [binade'.round_eq]
    refine Nat.mul_le_mul_right _ (Nat.le_of_lt_succ ?_)
    have near := (near_roundHalfEven num (Nat.mul_pos positive unit)).upper
    refine Nat.lt_of_mul_lt_mul_right (a := 2 * (den * 2 ^ k')) ?_
    linarith

theorem after_le_round {num den m k : Nat} (positive : 0 < den) (inner : 2 ^ 52 ≤ m)
    (outer : m < 2 ^ 53) (odd : m % 2 = 1) (reached : (2 * m + 1) * 2 ^ k * den ≤ 2 * num) :
    (m + 1) * 2 ^ k ≤ round num den := by
  have unit := Nat.two_pow_pos k
  have binade : Binade ((2 * m + 1) * 2 ^ k / 2) k := by
    have twice : (2 * m + 1) * 2 ^ k = 2 * (m * 2 ^ k) + 2 ^ k := by ring
    have next : (m + 1) * 2 ^ k = m * 2 ^ k + 2 ^ k := Nat.succ_mul m _
    exact binade_of_places inner outer (by omega) (by omega)
  have middle : roundHalfEven (2 * m + 1) 2 = m + 1 := by
    unfold roundHalfEven
    dsimp only
    rw [if_neg (by omega), if_neg (by omega)]
    omega
  calc (m + 1) * 2 ^ k = round ((2 * m + 1) * 2 ^ k) 2 := by
        rw [binade.round_eq, roundHalfEven_scaled _ _ unit, middle]
    _ ≤ round num den := round_le_round Nat.two_pos positive (by linarith)

def Scientific.value (d : Scientific) : ℚ := d.digits * 10 ^ d.exponent

def Scientific.num (d : Scientific) : ℕ := d.digits * 10 ^ d.exponent.toNat

def Scientific.den (d : Scientific) : ℕ := 10 ^ (-d.exponent).toNat

def Scientific.top (d : Scientific) : ℤ := (Nat.toDigits 10 d.digits).length + d.exponent

def Scientific.units (d : Scientific) : ℕ := ofScientific d.digits d.exponent

namespace Scientific

variable {d d' : Scientific}

theorem den_pos (d : Scientific) : 0 < d.den := Nat.pow_pos (by decide)

theorem value_eq (d : Scientific) : d.value = d.num / d.den := by
  unfold value num den
  rcases Int.le_total 0 d.exponent with front | back
  · obtain ⟨n, same⟩ := Int.eq_ofNat_of_zero_le front
    rw [same, Int.toNat_natCast, Int.toNat_of_nonpos (by omega)]
    simp
  · obtain ⟨n, same⟩ := Int.eq_ofNat_of_zero_le (Int.neg_nonneg_of_nonpos back)
    have exponent : d.exponent = -n := by omega
    rw [exponent, neg_neg, Int.toNat_natCast, Int.toNat_of_nonpos (by omega), zpow_neg,
      zpow_natCast]
    simp [div_eq_mul_inv]

theorem value_lt_iff {a b : ℕ} (positive : 0 < b) :
    d.value < a / b ↔ d.num * b < a * d.den := by
  have left : (0 : ℚ) < d.den := Nat.cast_pos.mpr d.den_pos
  have right : (0 : ℚ) < b := Nat.cast_pos.mpr positive
  rw [value_eq, div_lt_div_iff₀ left right]
  exact_mod_cast Iff.rfl

theorem value_le_iff : d.value ≤ d'.value ↔ d.num * d'.den ≤ d'.num * d.den := by
  have left : (0 : ℚ) < d.den := Nat.cast_pos.mpr d.den_pos
  have right : (0 : ℚ) < d'.den := Nat.cast_pos.mpr d'.den_pos
  rw [value_eq, value_eq, div_le_div_iff₀ left right]
  exact_mod_cast Iff.rfl

theorem value_lt_top (d : Scientific) : d.value < 10 ^ d.top := by
  have digits : d.digits < 10 ^ (Nat.toDigits 10 d.digits).length :=
    (Nat.length_toDigits_le_iff (by decide) Nat.length_toDigits_pos).mp (Nat.le_refl _)
  have digits' : (d.digits : ℚ) < 10 ^ (Nat.toDigits 10 d.digits).length := by exact_mod_cast digits
  have place : (0 : ℚ) < 10 ^ d.exponent := zpow_pos (by norm_num) _
  rw [value, top, zpow_add₀ (by decide), zpow_natCast]
  exact (mul_lt_mul_iff_left₀ place).mpr digits'

theorem top_le_value (filled : d.digits ≠ 0) : 10 ^ (d.top - 1) ≤ d.value := by
  obtain ⟨n, length⟩ := Nat.exists_eq_add_of_lt (Nat.length_toDigits_pos (b := 10) (n := d.digits))
  rw [Nat.zero_add] at length
  have digits : 10 ^ n ≤ d.digits := by
    refine Nat.le_of_not_lt fun less => ?_
    cases n with
    | zero => omega
    | succ n =>
      have shorter := (Nat.length_toDigits_le_iff (by decide) n.succ_pos).mpr less
      omega
  have digits' : (10 : ℚ) ^ n ≤ d.digits := by exact_mod_cast digits
  have place : (0 : ℚ) < 10 ^ d.exponent := zpow_pos (by norm_num) _
  have exponent : d.top - 1 = n + d.exponent := by
    rw [top, length]
    push_cast
    ring
  rw [value, exponent, zpow_add₀ (by decide), zpow_natCast]
  exact (mul_le_mul_iff_left₀ place).mpr digits'

theorem units_eq_round (low : -400 ≤ d.top) (high : d.top ≤ 400) :
    d.units = round (d.num * one) d.den := by
  by_cases none_ : d.digits = 0
  · rw [units, num, none_, Nat.zero_mul, Nat.zero_mul, round_zero d.den_pos]
    rfl
  · unfold top at low high
    unfold units ofScientific
    dsimp only
    rw [if_neg none_, if_neg (by omega), if_neg (by omega)]
    split
    · have whole : (-d.exponent).toNat = 0 := by omega
      rw [num, den, whole, pow_zero, Nat.pow_eq]
    · have part : d.exponent.toNat = 0 := by omega
      rw [num, den, part, pow_zero, Nat.mul_one, Nat.pow_eq]

theorem units_of_top_lt (high : 400 < d.top) (filled : d.digits ≠ 0) : d.units = limit := by
  unfold top at high
  unfold units ofScientific
  dsimp only
  rw [if_neg filled, if_pos high]

theorem units_of_lt_top (low : d.top < -400) : d.units = 0 := by
  unfold top at low
  unfold units ofScientific
  dsimp only
  by_cases none_ : d.digits = 0
  · rw [if_pos none_]
  · rw [if_neg none_, if_neg (by omega), if_pos low]

theorem pow_mul_den_le {n : ℕ} (filled : d.digits ≠ 0) (high : n < d.top) :
    10 ^ n * d.den ≤ d.num := by
  have power : (10 : ℚ) ^ (n : ℤ) ≤ 10 ^ (d.top - 1) :=
    zpow_le_zpow_right₀ (by norm_num) (by omega)
  have large := power.trans (top_le_value filled)
  rw [zpow_natCast, value_eq, le_div_iff₀ (Nat.cast_pos.mpr d.den_pos)] at large
  exact_mod_cast large

theorem num_mul_pow_lt {n : ℕ} (low : d.top ≤ -n) : d.num * 10 ^ n < d.den := by
  have power : (10 : ℚ) ^ d.top ≤ 10 ^ (-n : ℤ) := zpow_le_zpow_right₀ (by norm_num) low
  have unit : (0 : ℚ) < 10 ^ n := pow_pos (by norm_num) n
  have small := (value_lt_top d).trans_le power
  rw [value_eq, zpow_neg, zpow_natCast, div_lt_iff₀ (Nat.cast_pos.mpr d.den_pos), mul_comm,
    ← div_eq_mul_inv, lt_div_iff₀ unit] at small
  exact_mod_cast small

def middle (m k : ℕ) : ℚ := ((2 * m + 1) * 2 ^ k : ℕ) / (2 * one : ℕ)

theorem twice_one : 2 * one = 2 ^ 1075 := by decide +kernel

theorem middle_eq (m k : ℕ) : middle m k = (2 * m + 1) * 2 ^ k / 2 ^ 1075 := by
  rw [middle, twice_one, Nat.cast_pow]
  push_cast
  rfl

/-- Two neighbouring doubles, `m` and `m + 1` spacings of `2 ^ k` units, of which the second is the
even one. -/
structure Gap (m k : ℕ) : Prop where
  inner : 2 ^ 52 ≤ m
  outer : m < 2 ^ 53
  odd : m % 2 = 1
  within : (m + 1) * 2 ^ k ≤ limit

namespace Gap

variable {m k : ℕ}

theorem lt_middle_iff (d : Scientific) (m k : ℕ) :
    d.value < middle m k ↔ d.num * (2 * one) < (2 * m + 1) * 2 ^ k * d.den :=
  value_lt_iff (Nat.mul_pos Nat.two_pos one_pos)

theorem units_le_before (gap : Gap m k) (below : d.value < middle m k) : d.units ≤ m * 2 ^ k := by
  have cross := (lt_middle_iff d m k).mp below
  by_cases none_ : d.digits = 0
  · rw [units, none_]
    exact Nat.zero_le _
  rcases lt_or_ge d.top (-400) with low | low
  · rw [units_of_lt_top low]
    exact Nat.zero_le _
  rcases lt_or_ge 400 d.top with high | high
  · -- no double lies beyond such a number
    obtain ⟨power, large, room⟩ : ∃ power, power * d.den ≤ d.num ∧ limit ≤ power * one :=
      ⟨10 ^ 400, pow_mul_den_le none_ high, by decide +kernel⟩
    refine absurd cross (Nat.not_lt.mpr ?_)
    calc (2 * m + 1) * 2 ^ k * d.den ≤ 2 * ((m + 1) * 2 ^ k) * d.den :=
          Nat.mul_le_mul_right _ (by linarith [Nat.two_pow_pos k])
      _ ≤ 2 * (power * one) * d.den :=
          Nat.mul_le_mul_right _ (Nat.mul_le_mul_left 2 (gap.within.trans room))
      _ = power * d.den * (2 * one) := by ring
      _ ≤ d.num * (2 * one) := Nat.mul_le_mul_right _ large
  · rw [units_eq_round low high]
    exact round_le_before d.den_pos gap.inner gap.outer (by linarith)

theorem after_le_units (gap : Gap m k) (reached : middle m k ≤ d.value) :
    (m + 1) * 2 ^ k ≤ d.units := by
  have cross := Nat.le_of_not_lt (mt (lt_middle_iff d m k).mpr reached.not_gt)
  have least : 2 ^ 53 ≤ (2 * m + 1) * 2 ^ k :=
    calc 2 ^ 53 ≤ 2 * m + 1 := by linarith [gap.inner]
      _ ≤ (2 * m + 1) * 2 ^ k := Nat.le_mul_of_pos_right _ (Nat.two_pow_pos k)
  rcases lt_or_ge d.top (-400) with low | low
  · -- the least double is larger than such a number
    obtain ⟨power, small, room⟩ : ∃ power, d.num * power < d.den ∧ 2 * one ≤ 2 ^ 53 * power :=
      ⟨10 ^ 400, num_mul_pow_lt low.le, by decide +kernel⟩
    refine absurd cross (Nat.not_le.mpr ?_)
    calc d.num * (2 * one) ≤ d.num * (2 ^ 53 * power) := Nat.mul_le_mul_left _ room
      _ = 2 ^ 53 * (d.num * power) := by ring
      _ < 2 ^ 53 * d.den := Nat.mul_lt_mul_of_pos_left small (Nat.two_pow_pos 53)
      _ ≤ (2 * m + 1) * 2 ^ k * d.den := Nat.mul_le_mul_right _ least
  rcases lt_or_ge 400 d.top with high | high
  · have filled : d.digits ≠ 0 := by
      intro none_
      have positive := Nat.mul_pos ((Nat.two_pow_pos 53).trans_le least) d.den_pos
      rw [num, none_, Nat.zero_mul, Nat.zero_mul] at cross
      omega
    rw [units_of_top_lt high filled]
    exact gap.within
  · rw [units_eq_round low high]
    exact after_le_round d.den_pos gap.inner gap.outer gap.odd (by linarith)

/-- A number is read as the second of two neighbouring doubles, or a larger one, exactly from their
middle on. -/
theorem after_le_units_iff (gap : Gap m k) : (m + 1) * 2 ^ k ≤ d.units ↔ middle m k ≤ d.value := by
  constructor
  · intro after
    refine le_of_not_gt fun below => ?_
    have before := gap.units_le_before below
    have next : (m + 1) * 2 ^ k = m * 2 ^ k + 2 ^ k := Nat.succ_mul m _
    have unit := Nat.two_pow_pos k
    omega
  · exact gap.after_le_units

end Gap

theorem top_le_top (filled : d.digits ≠ 0) (le : d.value ≤ d'.value) : d.top ≤ d'.top := by
  have power : (10 : ℚ) ^ (d.top - 1) < 10 ^ d'.top :=
    ((top_le_value filled).trans le).trans_lt (value_lt_top d')
  have places := (zpow_lt_zpow_iff_right₀ (by norm_num)).mp power
  omega

theorem units_le_units (le : d.value ≤ d'.value) (finite : d'.units < limit) :
    d.units ≤ d'.units := by
  by_cases none_ : d.digits = 0
  · rw [units, none_]
    exact Nat.zero_le _
  rcases lt_or_ge d.top (-400) with low | low
  · rw [units_of_lt_top low]
    exact Nat.zero_le _
  have places := top_le_top none_ le
  rcases lt_or_ge 400 d'.top with high' | high'
  · have cross := value_le_iff.mp le
    have filled' : d'.digits ≠ 0 := by
      intro none'
      have positive : 0 < d.num * d'.den :=
        Nat.mul_pos (Nat.mul_pos (Nat.pos_of_ne_zero none_) (Nat.pow_pos (by decide))) d'.den_pos
      rw [show d'.num = 0 by rw [num, none', Nat.zero_mul], Nat.zero_mul] at cross
      omega
    rw [units_of_top_lt high' filled'] at finite
    exact absurd finite (Nat.lt_irrefl _)
  · rw [units_eq_round low (by omega), units_eq_round (by omega) high']
    refine round_le_round d.den_pos d'.den_pos ?_
    have cross := Nat.mul_le_mul_right one (value_le_iff.mp le)
    linarith

end Scientific

end ControlPlane.Double
