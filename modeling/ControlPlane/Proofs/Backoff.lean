import ControlPlane.Retry
import Mathlib.Algebra.Group.Nat.Defs
/-!
Delays without jitter against the exponential formula: the base delay doubled once per attempt, and
the cap where that is less. For the first 32 attempts a delay is what the formula says, over
unbounded numbers, also where the product passes the longest duration. From attempt 32 on it is the
cap, whether or not the doubled base has reached it. So delays rise with the attempt, the base and
the cap, and stay at the cap once they are there.
-/
namespace ControlPlane

theorem Duration.le_maxNanos (d : Duration) : d.nanos ≤ Duration.maxNanos := by
  have within := d.nanos_lt
  unfold Duration.maxNanos
  omega

theorem Duration.isZero_eq_false_iff (d : Duration) : d.isZero = false ↔ 0 < d.nanos := by
  rw [Duration.isZero, beq_eq_false_iff_ne]
  exact Nat.pos_iff_ne_zero.symm

theorem Duration.orElse_of_filled {d : Duration} (filled : d.isZero = false)
    (fallback : Duration) : d.orElse fallback = d := by
  rw [Duration.orElse, filled, if_neg Bool.false_ne_true]

theorem Duration.orElse_le_orElse {a b : Duration} (filled : a.isZero = false)
    (le : a.nanos ≤ b.nanos) (fallback : Duration) :
    (a.orElse fallback).nanos ≤ (b.orElse fallback).nanos := by
  have filled' : b.isZero = false := by
    rw [Duration.isZero_eq_false_iff] at *
    omega
  rwa [Duration.orElse_of_filled filled, Duration.orElse_of_filled filled']

theorem Duration.isZero_orElse (d : Duration) {fallback : Duration}
    (filled : fallback.isZero = false) : (d.orElse fallback).isZero = false := by
  unfold Duration.orElse
  split
  · exact filled
  · rename_i own
    exact Bool.eq_false_iff.mpr own

theorem Duration.eq_of_nanos {a b : Duration} (same : a.nanos = b.nanos) : a = b := by
  cases a
  cases b
  cases same
  rfl

theorem Duration.nanos_times (base cap : Duration) (k : Nat) :
    (match base.times? k with
      | some scaled => scaled.shorter cap
      | none => cap).nanos = min (base.nanos * k) cap.nanos := by
  have limit := cap.nanos_lt
  unfold Duration.times?
  split
  · rename_i scaled fits
    split at fits
    · cases Option.some.inj fits
      rw [Duration.shorter, Nat.min_def]
      split <;> rfl
    · contradiction
  · rename_i refused
    split at refused
    · contradiction
    · omega

namespace Retry

/-- The exponential formula in whole nanoseconds, which have no bound. -/
def exponential (attempt : Nat) (base cap : Duration) : Nat :=
  min ((base.orElse defaultBase).nanos * 2 ^ attempt) (cap.orElse defaultCap).nanos

theorem multiplier?_eq (attempt : Nat) :
    multiplier? attempt = if attempt < 32 then some (2 ^ attempt) else none := by
  rw [multiplier?, Nat.one_shiftLeft]

theorem nanos_plainDelay (attempt : Nat) (base cap : Duration) :
    (plainDelay attempt base cap).nanos =
      if attempt < 32 then exponential attempt base cap else (cap.orElse defaultCap).nanos := by
  unfold plainDelay
  dsimp only
  rw [multiplier?_eq]
  by_cases early : attempt < 32
  · rw [if_pos early, if_pos early]
    exact Duration.nanos_times _ _ _
  · rw [if_neg early, if_neg early]
    rfl

theorem delay_unjittered (attempt : Nat) (base cap : Duration) (sample : Double) :
    delay attempt base cap false sample = plainDelay attempt base cap := rfl

/-- A delay without jitter is that of the exponential formula for the first 32 attempts and the cap
from then on. So it is that of the formula exactly where the doubled base has reached the cap, or
the doubling fits 32 bits. -/
theorem delay_formula (attempt : Nat) (base cap : Duration) (sample : Double) :
    (delay attempt base cap false sample).nanos =
        (if attempt < 32 then exponential attempt base cap else (cap.orElse defaultCap).nanos) ∧
      ((delay attempt base cap false sample).nanos = exponential attempt base cap ↔
        attempt < 32 ∨
          (cap.orElse defaultCap).nanos ≤ (base.orElse defaultBase).nanos * 2 ^ attempt) := by
  rw [delay_unjittered, nanos_plainDelay]
  refine ⟨rfl, ?_⟩
  by_cases early : attempt < 32
  · rw [if_pos early]
    exact ⟨fun _ => .inl early, fun _ => rfl⟩
  · rw [if_neg early, exponential]
    omega

/-- One nanosecond doubled 32 times is little more than four seconds, and the delay is thirty. -/
theorem delay_skips_doublings :
    (delay 32 (Duration.ofNanos 1) (Duration.ofSeconds 30) false (.finite false 0)).nanos =
        30000000000 ∧
      exponential 32 (Duration.ofNanos 1) (Duration.ofSeconds 30) = 4294967296 ∧
      (delay 32 (Duration.ofNanos 1) (Duration.ofSeconds 30) false (.finite false 0)).nanos ≠
        exponential 32 (Duration.ofNanos 1) (Duration.ofSeconds 30) := by
  decide +kernel

theorem exponential_le_cap (attempt : Nat) (base cap : Duration) :
    exponential attempt base cap ≤ (cap.orElse defaultCap).nanos :=
  Nat.min_le_right _ _

theorem least_le_exponential (attempt : Nat) (base cap : Duration) :
    min (base.orElse defaultBase).nanos (cap.orElse defaultCap).nanos ≤
      exponential attempt base cap := by
  have doubled := Nat.le_mul_of_pos_right (base.orElse defaultBase).nanos (Nat.two_pow_pos attempt)
  unfold exponential
  omega

theorem exponential_le_exponential {i j : Nat} (later : i ≤ j) {base base' cap cap' : Duration}
    (longer : (base.orElse defaultBase).nanos ≤ (base'.orElse defaultBase).nanos)
    (higher : (cap.orElse defaultCap).nanos ≤ (cap'.orElse defaultCap).nanos) :
    exponential i base cap ≤ exponential j base' cap' := by
  have doubled := Nat.mul_le_mul longer (Nat.pow_le_pow_right (n := 2) (by decide) later)
  unfold exponential
  omega

/-- Delays keep the order of attempts, bases and caps, also from the last attempt of the formula to
the first one at the cap. -/
theorem plainDelay_le_plainDelay {i j : Nat} (later : i ≤ j) {base base' cap cap' : Duration}
    (longer : (base.orElse defaultBase).nanos ≤ (base'.orElse defaultBase).nanos)
    (higher : (cap.orElse defaultCap).nanos ≤ (cap'.orElse defaultCap).nanos) :
    (plainDelay i base cap).nanos ≤ (plainDelay j base' cap').nanos := by
  have formula := exponential_le_exponential later longer higher
  have most := exponential_le_cap i base cap
  rw [nanos_plainDelay, nanos_plainDelay]
  split <;> split <;> omega

theorem plainDelay_le_cap (attempt : Nat) (base cap : Duration) :
    (plainDelay attempt base cap).nanos ≤ (cap.orElse defaultCap).nanos := by
  have most := exponential_le_cap attempt base cap
  rw [nanos_plainDelay]
  split <;> omega

theorem isZero_plainDelay (attempt : Nat) (base cap : Duration) :
    (plainDelay attempt base cap).isZero = false := by
  have based := Duration.isZero_orElse base (show defaultBase.isZero = false by decide)
  have limited := Duration.isZero_orElse cap (show defaultCap.isZero = false by decide)
  have least := least_le_exponential attempt base cap
  rw [Duration.isZero_eq_false_iff] at *
  rw [nanos_plainDelay]
  split <;> omega

/-- What the delays for a base and a cap are like, attempt by attempt. -/
structure Steady (base cap : Duration) (delays : Nat → Duration) : Prop where
  rises : ∀ i j, i ≤ j → (delays i).nanos ≤ (delays j).nanos
  most : ∀ i, (delays i).nanos ≤ cap.nanos
  least : ∀ i, min base.nanos cap.nanos ≤ (delays i).nanos
  filled : ∀ i, (delays i).isZero = false
  settles : ∀ i j, i ≤ j → delays i = cap → delays j = cap

theorem steady_plainDelay {base cap : Duration} (based : base.isZero = false)
    (limited : cap.isZero = false) : Steady base cap (plainDelay · base cap) where
  rises _ _ later := plainDelay_le_plainDelay later (Nat.le_refl _) (Nat.le_refl _)
  most attempt := by
    have most := plainDelay_le_cap attempt base cap
    rwa [Duration.orElse_of_filled limited] at most
  least attempt := by
    have least := least_le_exponential attempt base cap
    rw [Duration.orElse_of_filled based, Duration.orElse_of_filled limited] at least
    rw [nanos_plainDelay, Duration.orElse_of_filled limited]
    split <;> omega
  filled attempt := isZero_plainDelay attempt base cap
  settles i j later reached := by
    have rises := plainDelay_le_plainDelay later (Nat.le_refl (base.orElse defaultBase).nanos)
      (Nat.le_refl (cap.orElse defaultCap).nanos)
    have most := plainDelay_le_cap j base cap
    rw [Duration.orElse_of_filled limited] at most
    rw [reached] at rises
    exact Duration.eq_of_nanos (Nat.le_antisymm most rises)

/-- Delays without jitter lie between the lesser of the base and the cap, and the cap. They rise with
the attempt, up to the cap and no further, and they rise with the base and with the cap. -/
theorem delay_steady {base cap : Duration} (based : base.isZero = false)
    (limited : cap.isZero = false) (sample : Double) :
    Steady base cap (delay · base cap false sample) ∧
      (∀ attempt longer, base.nanos ≤ longer.nanos →
        (delay attempt base cap false sample).nanos ≤
          (delay attempt longer cap false sample).nanos) ∧
      ∀ attempt higher, cap.nanos ≤ higher.nanos →
        (delay attempt base cap false sample).nanos ≤
          (delay attempt base higher false sample).nanos := by
  refine ⟨steady_plainDelay based limited, fun attempt longer le => ?_, fun attempt higher le => ?_⟩
  · exact plainDelay_le_plainDelay (Nat.le_refl attempt)
      (Duration.orElse_le_orElse based le defaultBase) (Nat.le_refl _)
  · exact plainDelay_le_plainDelay (Nat.le_refl attempt) (Nat.le_refl _)
      (Duration.orElse_le_orElse limited le defaultCap)

theorem delay_steady_short :
    (Duration.ofNanos 3).isZero = false ∧ Duration.max.isZero = false ∧
      Steady (Duration.ofNanos 3) Duration.max
        (delay · (Duration.ofNanos 3) Duration.max false (.finite false 0)) ∧
      (delay 31 (Duration.ofNanos 3) Duration.max false (.finite false 0)).nanos ≤
        (delay 31 (Duration.ofSeconds 1) Duration.max false (.finite false 0)).nanos := by
  have based : (Duration.ofNanos 3).isZero = false := by decide +kernel
  have limited : Duration.max.isZero = false := by decide +kernel
  have steady := delay_steady based limited (.finite false 0)
  exact ⟨based, limited, steady.1, steady.2.1 31 (Duration.ofSeconds 1) (by decide +kernel)⟩

end Retry

end ControlPlane
