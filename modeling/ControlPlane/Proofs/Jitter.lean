import ControlPlane.Proofs.Backoff
import ControlPlane.Proofs.Rounding
import Mathlib.Tactic.Ring
/-!
What jitter adds to a delay. Everything from the sample to the sum is done in doubles and once more
rounded to whole nanoseconds. In the arithmetic of doubles the product could be negative, infinite
or no number at all, and a length of time is none of these: it never comes to that. What is added is
at most a tenth, rounded up, and grows with the sample.
-/
namespace ControlPlane

namespace Double

def number? : Double → Option Int
  | .finite false units => some units
  | .finite true units => some (-units)
  | .infinite _ => none
  | .nan => none

def times : Double → Double → Double
  | .finite a u, .finite b v => ofUnits (a != b) (mul u v)
  | .infinite a, .infinite b => .infinite (a != b)
  | .infinite a, .finite b v => if v = 0 then .nan else .infinite (a != b)
  | .finite a u, .infinite b => if u = 0 then .nan else .infinite (a != b)
  | .nan, _ => .nan
  | _, .nan => .nan

theorem mul_le_mul {a a' b b' : Nat} (left : a ≤ a') (right : b ≤ b') : mul a b ≤ mul a' b' :=
  round_le_round one_pos one_pos (Nat.mul_le_mul_right _ (Nat.mul_le_mul left right))

theorem mul_zero (a : Nat) : mul a 0 = 0 := by
  rw [mul, Nat.mul_zero, round_zero one_pos]

theorem zero_mul (a : Nat) : mul 0 a = 0 := by
  rw [mul, Nat.zero_mul, round_zero one_pos]

theorem div_upper (a : Nat) {k : Nat} (positive : 0 < k) :
    2 ^ 53 * (k * div a (k * one)) ≤ (2 ^ 53 + 1) * a + 2 ^ 52 * k := by
  have upper := round_upper (a * one) (Nat.mul_pos positive one_pos)
  refine Nat.le_of_mul_le_mul_right ?_ one_pos
  calc 2 ^ 53 * (k * div a (k * one)) * one
      = 2 ^ 53 * (k * one * round (a * one) (k * one)) := by rw [div]; ring
    _ ≤ (2 ^ 53 + 1) * (a * one) + 2 ^ 52 * (k * one) := upper
    _ = ((2 ^ 53 + 1) * a + 2 ^ 52 * k) * one := by ring

theorem ofUnits_of_lt {units : Nat} (small : units < limit) (negative : Bool) :
    ofUnits negative units = .finite negative units := if_pos small

end Double

namespace Duration

def seconds (d : Duration) : Double := Double.ofUnits false d.secondsUnits

/-- The duration of a number of seconds, to the nearest nanosecond. There is none for a number below
zero, beyond the longest duration or not finite. -/
def ofDouble? : Double → Option Duration
  | .finite negative units =>
    let nanos := Double.roundHalfEven (units * 1000000000) Double.one
    if negative && units != 0 then none
    else if h : nanos < 0x10000000000000000 * 1000000000 then some ⟨nanos, h⟩ else none
  | .infinite _ => none
  | .nan => none

def tenth (d : Duration) : Duration := ofNanos ((d.nanos + 9) / 10)

theorem nanos_ofNanos (n : Nat) : (ofNanos n).nanos = min n maxNanos := rfl

theorem le_addSaturating (a b : Duration) : a.nanos ≤ (a.addSaturating b).nanos := by
  have within := a.le_maxNanos
  rw [addSaturating, nanos_ofNanos]
  omega

theorem addSaturating_le {a b c : Duration} (le : b.nanos ≤ c.nanos) :
    (a.addSaturating b).nanos ≤ (a.addSaturating c).nanos := by
  rw [addSaturating, addSaturating, nanos_ofNanos, nanos_ofNanos]
  omega

theorem addSaturating_zero (a : Duration) : a.addSaturating zero = a := by
  have within := a.le_maxNanos
  refine eq_of_nanos ?_
  rw [addSaturating, nanos_ofNanos, show zero.nanos = 0 from rfl]
  omega

theorem maxNanos_mul_one_lt : maxNanos * Double.one < Double.limit := by decide +kernel

theorem tenth_le (d : Duration) : (d.nanos + 9) / 10 ≤ maxNanos := by
  have within := d.le_maxNanos
  unfold maxNanos at *
  omega

/-- The seconds of a duration are rounded five times and are still within a share of 10 ^ -9. -/
theorem secondsUnits_upper {d : Duration} (filled : 0 < d.nanos) :
    1000000000000000000 * d.secondsUnits ≤ 1000000001 * (d.nanos * Double.one) := by
  have giga : Double.ofNat 1000000000 = 1000000000 * Double.one := by decide +kernel
  have large := Double.one_large
  have least : Double.one ≤ d.nanos * Double.one := Nat.le_mul_of_pos_left _ filled
  have parts : d.nanos * Double.one = d.nanos / 1000000000 * Double.one * 1000000000 +
      d.nanos % 1000000000 * Double.one := by
    rw [Nat.mul_right_comm, ← Nat.add_mul, Nat.div_add_mod']
  have whole := Double.round_upper (d.nanos / 1000000000 * Double.one) Nat.one_pos
  have rest := Double.round_upper (d.nanos % 1000000000 * Double.one) Nat.one_pos
  have quotient := Double.div_upper (Double.ofNat (d.nanos % 1000000000))
    (show 0 < 1000000000 by decide)
  have sum := Double.round_upper (Double.ofNat (d.nanos / 1000000000) +
    Double.div (Double.ofNat (d.nanos % 1000000000)) (1000000000 * Double.one)) Nat.one_pos
  rw [secondsUnits, giga, Double.add]
  unfold Double.ofNat at *
  omega

theorem seconds_eq {d : Duration} (filled : 0 < d.nanos) :
    d.seconds = .finite false d.secondsUnits := by
  have upper := secondsUnits_upper filled
  have within := Nat.mul_le_mul_right Double.one d.le_maxNanos
  have room := maxNanos_mul_one_lt
  exact Double.ofUnits_of_lt (by omega) false

end Duration

namespace Retry

/-- A sample brought into the range from zero to 0.999999, as a double; a negative zero stays one. -/
def clamped : Double → Double
  | .finite negative units =>
    if negative && units != 0 then .finite false 0 else .finite negative (min units sampleCap)
  | .infinite _ => .finite false 0
  | .nan => .finite false 0

/-- The delay before a retry in the arithmetic of doubles, where there is one: a product that is not
the length of any duration gives none. -/
def delay? (attempt : Nat) (base cap : Duration) (jitter : Bool) (sample : Double) :
    Option Duration :=
  let capped := plainDelay attempt base cap
  if jitter then
    (Duration.ofDouble? (((Double.finite false jitterShare).times (clamped sample)).times
      capped.seconds)).map capped.addSaturating
  else some capped

theorem clampSample_le (sample : Double) : clampSample sample ≤ sampleCap := by
  cases sample with
  | nan => exact Nat.zero_le _
  | infinite negative => exact Nat.zero_le _
  | finite negative units =>
    cases negative
    · exact Nat.min_le_right _ _
    · exact Nat.zero_le _

theorem clampSample_le_clampSample {x y : Double} {m n : Int} (first : x.number? = some m)
    (second : y.number? = some n) (le : m ≤ n) : clampSample x ≤ clampSample y := by
  rcases x with _ | _ | ⟨_ | _, u⟩ <;> rcases y with _ | _ | ⟨_ | _, v⟩ <;>
    simp only [Double.number?, Option.some.injEq, reduceCtorEq] at first second <;>
    simp only [clampSample] <;> omega

theorem clampSample_eq_zero {sample : Double} (low : ∀ n, sample.number? = some n → n ≤ 0) :
    clampSample sample = 0 := by
  rcases sample with _ | _ | ⟨_ | _, units⟩
  · rfl
  · rfl
  · have below := low units rfl
    rw [clampSample, show units = 0 by omega, Nat.zero_min]
  · rfl

theorem share_upper {sample : Nat} (le : sample ≤ sampleCap) :
    100000000 * Double.mul jitterShare sample ≤ 9999995 * Double.one := by
  have top : 100000000 * Double.mul jitterShare sampleCap ≤ 9999995 * Double.one := by
    decide +kernel
  have rises := Double.mul_le_mul (Nat.le_refl jitterShare) le
  omega

def addedUnits (d : Duration) (sample : Double) : Nat :=
  Double.mul (Double.mul jitterShare (clampSample sample)) d.secondsUnits

/-- What is added is less than a tenth even before the last rounding: the share is smaller than a
tenth by far more than all roundings together. -/
theorem addedUnits_upper {d : Duration} (filled : 0 < d.nanos) (sample : Double) :
    10 * (addedUnits d sample * 1000000000) ≤ d.nanos * Double.one := by
  have large := Double.one_large
  have least : Double.one ≤ d.nanos * Double.one := Nat.le_mul_of_pos_left _ filled
  have seconds := Duration.secondsUnits_upper filled
  have share := share_upper (clampSample_le sample)
  have product := Double.round_upper (Double.mul jitterShare (clampSample sample) * d.secondsUnits)
    Double.one_pos
  have shared := Nat.mul_le_mul_right d.secondsUnits share
  have cancelled : 2 ^ 53 * 100000000 * addedUnits d sample ≤
      (2 ^ 53 + 1) * 9999995 * d.secondsUnits + 2 ^ 52 * 100000000 := by
    refine Nat.le_of_mul_le_mul_right ?_ Double.one_pos
    rw [addedUnits, Double.mul]
    linarith
  omega

def addedNanos (d : Duration) (sample : Double) : Nat :=
  Double.roundHalfEven (addedUnits d sample * 1000000000) Double.one

theorem addedNanos_le_tenth {d : Duration} (filled : 0 < d.nanos) (sample : Double) :
    addedNanos d sample ≤ (d.nanos + 9) / 10 := by
  refine Double.roundHalfEven_le Double.one_pos ?_
  have upper := addedUnits_upper filled sample
  have whole : d.nanos * Double.one ≤ 10 * ((d.nanos + 9) / 10) * Double.one :=
    Nat.mul_le_mul_right _ (by omega)
  rw [Nat.mul_assoc] at whole
  omega

theorem nanos_extra {d : Duration} (filled : 0 < d.nanos) (sample : Double) :
    (extra d sample).nanos = addedNanos d sample := by
  have small := addedNanos_le_tenth filled sample
  have within := d.tenth_le
  have whole : (extra d sample).nanos = min (addedNanos d sample) Duration.maxNanos := rfl
  omega

theorem extra_le_tenth {d : Duration} (filled : 0 < d.nanos) (sample : Double) :
    (extra d sample).nanos ≤ d.tenth.nanos := by
  have small := addedNanos_le_tenth filled sample
  rw [nanos_extra filled, Duration.tenth, Duration.nanos_ofNanos]
  exact Nat.le_min.mpr ⟨small, Nat.le_trans small d.tenth_le⟩

theorem extra_le_extra {d : Duration} (filled : 0 < d.nanos) {x y : Double}
    (le : clampSample x ≤ clampSample y) : (extra d x).nanos ≤ (extra d y).nanos := by
  have units : addedUnits d x ≤ addedUnits d y :=
    Double.mul_le_mul (Double.mul_le_mul (Nat.le_refl _) le) (Nat.le_refl _)
  rw [nanos_extra filled, nanos_extra filled]
  refine Double.roundHalfEven_le_of_cross Double.one_pos Double.one_pos ?_
  exact Nat.mul_le_mul_right _ (Nat.mul_le_mul_right _ units)

theorem extra_eq_zero {d : Duration} (filled : 0 < d.nanos) {sample : Double}
    (unsampled : clampSample sample = 0) : extra d sample = Duration.zero := by
  refine Duration.eq_of_nanos ?_
  rw [nanos_extra filled, addedNanos, addedUnits, unsampled, Double.mul_zero, Double.zero_mul,
    Nat.zero_mul]
  exact Nat.le_zero.mp (Double.roundHalfEven_le Double.one_pos (Nat.zero_le _))

theorem exists_share (sample : Double) :
    ∃ negative, (Double.finite false jitterShare).times (clamped sample) =
        .finite negative (Double.mul jitterShare (clampSample sample)) ∧
      (negative = true → clampSample sample = 0) := by
  have small : Double.mul jitterShare (clampSample sample) < Double.limit := by
    have share := share_upper (clampSample_le sample)
    have room := Duration.maxNanos_mul_one_lt
    unfold Duration.maxNanos at room
    omega
  have held : ∃ negative, clamped sample = .finite negative (clampSample sample) ∧
      (negative = true → clampSample sample = 0) := by
    rcases sample with _ | _ | ⟨_ | _, units⟩
    · exact ⟨false, rfl, nofun⟩
    · exact ⟨false, rfl, nofun⟩
    · exact ⟨false, rfl, nofun⟩
    · by_cases zero : units = 0
      · exact ⟨true, by simp [clamped, clampSample, zero], fun _ => rfl⟩
      · exact ⟨false, by simp [clamped, clampSample, zero], nofun⟩
  obtain ⟨negative, held, low⟩ := held
  refine ⟨negative, ?_, low⟩
  rw [held, Double.times, Double.ofUnits_of_lt small, Bool.false_bne]

/-- The arithmetic of doubles always arrives at a duration, and at the one of `extra`. -/
theorem ofDouble?_product {d : Duration} (filled : 0 < d.nanos) (sample : Double) :
    Duration.ofDouble? (((Double.finite false jitterShare).times (clamped sample)).times
      d.seconds) = some (extra d sample) := by
  obtain ⟨negative, share, low⟩ := exists_share sample
  have upper := addedUnits_upper filled sample
  have small := addedNanos_le_tenth filled sample
  have within := d.tenth_le
  have units : addedUnits d sample < Double.limit := by
    have below := Nat.mul_le_mul_right Double.one d.le_maxNanos
    have room := Duration.maxNanos_mul_one_lt
    omega
  have unsigned : (negative && addedUnits d sample != 0) = false := by
    cases negative with
    | false => rfl
    | true => simp [addedUnits, low rfl, Double.mul_zero, Double.zero_mul]
  have short : addedNanos d sample < 0x10000000000000000 * 1000000000 := by
    unfold Duration.maxNanos at within
    omega
  have same : Duration.mk (addedNanos d sample) short = extra d sample := by
    refine Duration.eq_of_nanos ?_
    rw [nanos_extra filled]
  rw [share, Duration.seconds_eq filled, Double.times, ← addedUnits,
    Double.ofUnits_of_lt units, Bool.bne_false, Duration.ofDouble?]
  rw [unsigned, if_neg Bool.false_ne_true, ← addedNanos, dif_pos short, same]

structure Lengthened (plain : Duration) (sample : Double) (jittered : Duration) : Prop where
  least : plain.nanos ≤ jittered.nanos
  most : jittered.nanos ≤ (plain.addSaturating plain.tenth).nanos
  kept : (∀ n, sample.number? = some n → n ≤ 0) → jittered = plain

theorem lengthened {d : Duration} (filled : 0 < d.nanos) (sample : Double) :
    Lengthened d sample (d.addSaturating (extra d sample)) where
  least := d.le_addSaturating _
  most := Duration.addSaturating_le (extra_le_tenth filled sample)
  kept low := by rw [extra_eq_zero filled (clampSample_eq_zero low), Duration.addSaturating_zero]

/-- With jitter there is a delay for every sample, and it is computed without leaving the doubles'
range. It is at least the delay without jitter and at most a tenth more, rounded up to a nanosecond;
both ends stay within the longest duration. A sample that is not above zero, or not finite, adds
nothing, and a larger finite sample never adds less. -/
theorem delay_jittered (attempt : Nat) (base cap : Duration) :
    (∀ sample,
      delay? attempt base cap true sample = some (delay attempt base cap true sample) ∧
        Lengthened (delay attempt base cap false sample) sample
          (delay attempt base cap true sample)) ∧
      ∀ x y m n, x.number? = some m → y.number? = some n → m ≤ n →
        (delay attempt base cap true x).nanos ≤ (delay attempt base cap true y).nanos := by
  have filled := (Duration.isZero_eq_false_iff _).mp (isZero_plainDelay attempt base cap)
  refine ⟨fun sample => ⟨?_, lengthened filled sample⟩, fun x y m n first second le => ?_⟩
  · rw [delay?, if_pos rfl, ofDouble?_product filled]
    rfl
  · exact Duration.addSaturating_le
      (extra_le_extra filled (clampSample_le_clampSample first second le))

theorem delay_jittered_longest :
    let below := Double.finite true Double.one
    let beyond := Double.finite false (7 * Double.one)
    delay 63 Duration.max Duration.max true below = Duration.max ∧
      (delay 63 Duration.max Duration.max true below).nanos ≤
        (delay 63 Duration.max Duration.max true beyond).nanos := by
  intro below beyond
  have law := delay_jittered 63 Duration.max Duration.max
  have plain : delay 63 Duration.max Duration.max false below = Duration.max := by decide +kernel
  have low : ∀ n, below.number? = some n → n ≤ 0 := by
    intro n shown
    rw [← Option.some.inj shown]
    exact Int.neg_natCast_le_natCast Double.one 0
  refine ⟨((law.1 below).2.kept low).trans plain, ?_⟩
  exact law.2 below beyond (-Double.one) (7 * Double.one : Nat) rfl rfl (by omega)

end Retry

end ControlPlane
