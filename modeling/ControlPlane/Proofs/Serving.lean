import ControlPlane.Proofs.Jitter
import ControlPlane.Proofs.Numerals
import ControlPlane.Settings
/-!
Times that are configured in seconds. Longer times are served longer, within the range in which a
time is served at all: a number of seconds that rounds to no millisecond or to no double is not
served, and the default stands in its place, however short or long the number is.
-/
namespace ControlPlane.Settings

open Text Double

inductive Timing where
  | timeout
  | base
  | cap

namespace Timing

def «variable» : Timing → Variable
  | .timeout => .timeout
  | .base => .base
  | .cap => .cap

def fallback : Timing → Duration
  | .timeout => Duration.ofSeconds 30
  | .base => Retry.defaultBase
  | .cap => Retry.defaultCap

def effective (settings : Settings) : Timing → Duration
  | .timeout => settings.timeout
  | .base => settings.policy.filled.base
  | .cap => settings.policy.filled.cap

/-- The variable of the timing holds that number of seconds, with blanks around it or none. -/
def Holds (timing : Timing) (head : String) (lookup : String → Option String) (seconds : ℚ) :
    Prop :=
  ∃ text m, lookup (timing.variable.name head) = some text ∧ Strips isBlank text.toList m ∧
    WritesDecimal seconds m

end Timing

/-- The numbers of seconds that are neither rounded to zero milliseconds nor to an infinity. The
least one is a little less than half a millisecond. -/
def Served (seconds : ℚ) : Prop :=
  9223372036854775 / 2 ^ 64 ≤ seconds ∧ seconds < 2 ^ 1024 - 2 ^ 970

def millisOf (units : Nat) : UInt64 := clamp64 (roundHalfUp (mul units (ofNat 1000)) one)

theorem toNat_clamp64 (n : Nat) : (clamp64 n).toNat = min n (UInt64.size - 1) :=
  UInt64.toNat_ofNat_of_lt' (by unfold UInt64.size; omega)

theorem roundHalfUp_le {num num' den : Nat} (le : num ≤ num') :
    roundHalfUp num den ≤ roundHalfUp num' den :=
  Nat.div_le_div_right (by omega)

theorem millisOf_le_millisOf {a b : Nat} (le : a ≤ b) :
    (millisOf a).toNat ≤ (millisOf b).toNat := by
  have rounded : roundHalfUp (mul a (ofNat 1000)) one ≤ roundHalfUp (mul b (ofNat 1000)) one :=
    roundHalfUp_le (Double.mul_le_mul le (Nat.le_refl (ofNat 1000)))
  rw [millisOf, millisOf, toNat_clamp64, toNat_clamp64]
  omega

def lastLost : Nat := 4611686018427387

theorem limit_eq : limit = (2 ^ 53 - 1 + 1) * 2 ^ 2045 := by decide +kernel

theorem shortest : Scientific.Gap lastLost 1011 := by
  constructor <;> decide +kernel

theorem longest : Scientific.Gap (2 ^ 53 - 1) 2045 where
  inner := by decide
  outer := by decide
  odd := by decide
  within := limit_eq.ge

/-- The two doubles between which a time begins to be served: the first one is rounded to no
millisecond, the second one to one. -/
theorem millisOf_edges : (millisOf (lastLost * 2 ^ 1011)).toNat = 0 ∧
    (millisOf ((lastLost + 1) * 2 ^ 1011)).toNat = 1 := by
  decide +kernel

theorem millisOf_before {units : Nat} (few : units ≤ lastLost * 2 ^ 1011) :
    millisOf units = 0 := by
  have most := millisOf_le_millisOf few
  rw [millisOf_edges.1] at most
  exact UInt64.toNat_inj.mp (Nat.le_zero.mp most)

theorem millisOf_after {units : Nat} (many : (lastLost + 1) * 2 ^ 1011 ≤ units) :
    millisOf units ≠ 0 := by
  have least := millisOf_le_millisOf many
  rw [millisOf_edges.2] at least
  intro none_
  rw [none_] at least
  exact absurd least (by decide)

theorem middle_shortest : Scientific.middle lastLost 1011 = 9223372036854775 / 2 ^ 64 := by
  have odd : 2 * (lastLost : ℚ) + 1 = 9223372036854775 := by norm_num [lastLost]
  have places : (2 : ℚ) ^ 1075 = 2 ^ 64 * 2 ^ 1011 := pow_add 2 64 1011
  rw [Scientific.middle_eq, odd, places, mul_div_mul_right _ _ (pow_ne_zero 1011 two_ne_zero)]

theorem middle_longest : Scientific.middle (2 ^ 53 - 1) 2045 = 2 ^ 1024 - 2 ^ 970 := by
  have odd : 2 * ((2 ^ 53 - 1 : ℕ) : ℚ) + 1 = 2 ^ 54 - 1 := by norm_num
  have places : (2 : ℚ) ^ 2045 = 2 ^ 970 * 2 ^ 1075 := pow_add 2 970 1075
  rw [Scientific.middle_eq, odd, places, ← mul_assoc,
    mul_div_cancel_right₀ _ (pow_ne_zero 1075 two_ne_zero), sub_mul, one_mul, ← pow_add]

theorem served_iff {d : Scientific} : Served d.value ↔
    (lastLost + 1) * 2 ^ 1011 ≤ d.units ∧ d.units < limit := by
  rw [Served, ← middle_shortest, ← middle_longest, shortest.after_le_units_iff, limit_eq, ← not_le,
    ← not_le, longest.after_le_units_iff]

theorem units_of_not_served {d : Scientific} (lost : ¬ Served d.value) (finite : d.units < limit) :
    d.units ≤ lastLost * 2 ^ 1011 := by
  refine shortest.units_le_before (lt_of_not_ge fun reached => lost ?_)
  exact served_iff.mpr ⟨shortest.after_le_units reached, finite⟩

theorem secondsToMillis_eq {m : List Char} {d : Scientific}
    (read : Double.parse? m = some (ofUnits false d.units)) :
    secondsToMillis m = if d.units < limit then some (millisOf d.units) else none := by
  unfold secondsToMillis
  rw [read, ofUnits]
  split_ifs <;> rfl

/-- What becomes of a text that writes a number of seconds: it leaves a positive number of
milliseconds exactly if the number is served. -/
theorem secondsToMillis_of_writes {seconds : ℚ} {m : List Char}
    (writes : WritesDecimal seconds m) :
    ∃ d : Scientific, d.value = seconds ∧
      (Served seconds → d.units < limit ∧ millisOf d.units ≠ 0 ∧
        secondsToMillis m = some (millisOf d.units)) ∧
      (¬ Served seconds → secondsToMillis m = none ∨ secondsToMillis m = some 0) := by
  obtain ⟨d, rfl, read⟩ := parse?_of_writes writes
  refine ⟨d, rfl, fun served => ?_, fun lost => ?_⟩
  · obtain ⟨least, most⟩ := served_iff.mp served
    refine ⟨most, millisOf_after least, ?_⟩
    rw [secondsToMillis_eq read, if_pos most]
  · rw [secondsToMillis_eq read]
    by_cases finite : d.units < limit
    · rw [if_pos finite, millisOf_before (units_of_not_served lost finite)]
      exact .inr rfl
    · rw [if_neg finite]
      exact .inl rfl

theorem ne_nil_of_writes {seconds : ℚ} {m : List Char} (writes : WritesDecimal seconds m) :
    m ≠ [] := by
  cases writes with
  | bare point power =>
    obtain ⟨c, rest, rfl, -⟩ := first_of_point point
    exact List.cons_ne_nil _ _
  | plus point power => exact List.cons_ne_nil _ _

theorem text_of_strips {head : String} {lookup : String → Option String} {v : Variable}
    {held : String} {m : List Char} (found : lookup (v.name head) = some held)
    (strips : Strips isBlank held.toList m) (filled : m ≠ []) : text head lookup v = some m := by
  have trimmed : trim held.toList = m := stripWhile_eq_iff.mpr strips
  rw [text, found, Option.map_some, trimmed]
  simp [filled]

namespace Timing

def given (timing : Timing) : Option UInt64 → Duration
  | none => timing.fallback
  | some millis => if millis = 0 then timing.fallback else Duration.ofMillis millis.toNat

theorem given_zero (timing : Timing) : timing.given (some 0) = timing.fallback := by
  rw [given, if_pos rfl]

theorem given_timeout (found : Option UInt64) : Duration.ofMillis
    (if found.getD 30000 = 0 then 30000 else (found.getD 30000).toNat) = timeout.given found := by
  cases found with
  | none => decide +kernel
  | some millis => exact apply_ite Duration.ofMillis _ _ _

theorem orElse_ofMillis (millis : UInt64) (fallback : Duration) :
    (Duration.ofMillis millis.toNat).orElse fallback =
      if millis = 0 then fallback else Duration.ofMillis millis.toNat := by
  by_cases none_ : millis = 0
  · rw [none_, if_pos rfl]
    rfl
  · have positive : 0 < millis.toNat :=
      Nat.pos_of_ne_zero fun zero => none_ (UInt64.toNat_inj.mp zero)
    have filled : (Duration.ofMillis millis.toNat).isZero = false := by
      rw [Duration.isZero_eq_false_iff, Duration.ofMillis, Duration.nanos_ofNanos]
      unfold Duration.maxNanos
      omega
    rw [if_neg none_, Duration.orElse_of_filled filled]

theorem effective_read (timing : Timing) (head : String) (lookup : String → Option String) :
    timing.effective (read head lookup) =
      timing.given ((text head lookup timing.variable).bind secondsToMillis) := by
  cases timing with
  | timeout =>
    simp only [effective, Settings.timeout, read, Timing.variable]
    exact given_timeout _
  | base =>
    simp only [effective, policy, Retry.Policy.filled, read, Timing.variable]
    rw [orElse_ofMillis]
    cases (text head lookup .base).bind secondsToMillis <;> rfl
  | cap =>
    simp only [effective, policy, Retry.Policy.filled, read, Timing.variable]
    rw [orElse_ofMillis]
    cases (text head lookup .cap).bind secondsToMillis <;> rfl

variable {timing : Timing} {head : String} {lookup lookup' : String → Option String}
  {seconds longer : ℚ}

theorem effective_of_holds (held : timing.Holds head lookup seconds) :
    ∃ d : Scientific, d.value = seconds ∧
      (Served seconds → d.units < limit ∧
        timing.effective (read head lookup) = Duration.ofMillis (millisOf d.units).toNat) ∧
      (¬ Served seconds → timing.effective (read head lookup) = timing.fallback) := by
  obtain ⟨held, m, found, strips, writes⟩ := held
  obtain ⟨d, value, served, lost⟩ := secondsToMillis_of_writes writes
  have given := timing.effective_read head lookup
  rw [text_of_strips found strips (ne_nil_of_writes writes), Option.bind_some] at given
  refine ⟨d, value, fun serves => ?_, fun loses => ?_⟩
  · obtain ⟨small, some_, read⟩ := served serves
    rw [given, read]
    exact ⟨small, if_neg some_⟩
  · rw [given]
    rcases lost loses with read | read
    · rw [read]
      rfl
    · rw [read, given_zero]

theorem ofMillis_le_ofMillis {a b : Nat} (le : a ≤ b) :
    (Duration.ofMillis a).nanos ≤ (Duration.ofMillis b).nanos := by
  rw [Duration.ofMillis, Duration.ofMillis, Duration.nanos_ofNanos, Duration.nanos_ofNanos]
  omega

/-- Of two numbers of seconds that are served, the longer one gives the longer time, whatever the
other variables hold. A number that is not served gives the default, also where that is longer than
the time of a longer number. -/
theorem served_in_order (held : timing.Holds head lookup seconds)
    (held' : timing.Holds head lookup' longer) (le : seconds ≤ longer) :
    (Served seconds → Served longer →
      (timing.effective (read head lookup)).nanos ≤
        (timing.effective (read head lookup')).nanos) ∧
    (¬ Served seconds → timing.effective (read head lookup) = timing.fallback) ∧
    (¬ Served longer → timing.effective (read head lookup') = timing.fallback) := by
  obtain ⟨d, value, served, lost⟩ := effective_of_holds held
  obtain ⟨d', value', served', lost'⟩ := effective_of_holds held'
  refine ⟨fun serves serves' => ?_, lost, lost'⟩
  obtain ⟨-, time⟩ := served serves
  obtain ⟨finite, time'⟩ := served' serves'
  rw [← value, ← value'] at le
  rw [time, time']
  exact ofMillis_le_ofMillis (millisOf_le_millisOf (Scientific.units_le_units le finite))

theorem served_of_modest (least : 1 / 2000 ≤ seconds) (most : seconds ≤ 10 ^ 70) :
    Served seconds := by
  constructor
  · exact le_trans (by norm_num) least
  · have modest : (10 : ℚ) ^ 70 ≤ 2 ^ 256 := by norm_num
    have large : (2 : ℚ) ^ 256 ≤ 2 ^ 970 := pow_le_pow_right₀ one_le_two (by decide)
    refine lt_sub_iff_add_lt.mpr ?_
    calc seconds + 2 ^ 970
      _ ≤ 2 ^ 970 + 2 ^ 970 := add_le_add_left (most.trans (modest.trans large)) _
      _ = 2 ^ 971 := by rw [show (2 : ℚ) ^ 971 = 2 ^ 970 * 2 from pow_succ 2 970, mul_two]
      _ < 2 ^ 1024 := pow_lt_pow_right₀ one_lt_two (by decide)

def only (name text : String) : String → Option String :=
  fun other => if other = name then some text else none

theorem holds_only {text : String} {m : List Char} (strips : Strips isBlank text.toList m)
    (writes : WritesDecimal seconds m) :
    timing.Holds head (only (timing.variable.name head) text) seconds :=
  ⟨text, m, if_pos rfl, strips, writes⟩

theorem only_of_ne {name other : String} (ne : other ≠ name) (text : String) :
    only name text other = none :=
  if_neg ne

theorem served_in_order_half :
    let lookup := only "P_HTTP_RETRY_BASE_DELAY_SECONDS"
    base.Holds "P" (lookup " 0.0005") (1 / 2000) ∧ base.Holds "P" (lookup "+5e0") 5 ∧
      (base.effective (read "P" (lookup " 0.0005"))).nanos ≤
        (base.effective (read "P" (lookup "+5e0"))).nanos := by
  intro lookup
  have short : base.Holds "P" (lookup " 0.0005") (1 / 2000) := by
    refine holds_only (m := "0.0005".toList) (stripWhile_eq_iff.mp (by decide +kernel)) ?_
    have point : PointText 5 4 "0.0005".toList :=
      .pointed (s := ['0']) (t := ['0', '0', '0', '5']) (by decide) (digits_of_all rfl)
    have value : (1 / 2000 : ℚ) = (5 : ℕ) * 10 ^ ((0 : ℤ) - (4 : ℕ)) := by norm_num
    rw [value]
    exact .bare point .absent
  have long : base.Holds "P" (lookup "+5e0") 5 := by
    refine holds_only (m := "+5e0".toList) (stripWhile_eq_iff.mp (by decide +kernel)) ?_
    have point : PointText 5 0 ['5'] := .whole (by decide) (digits_of_all rfl)
    have power : PowerText 0 ['e', '0'] :=
      .present (by decide) (.bare (by decide) (digits_of_all rfl))
    have value : (5 : ℚ) = (5 : ℕ) * 10 ^ ((0 : ℤ) - (0 : ℕ)) := by norm_num
    rw [value]
    exact .plus point power
  refine ⟨short, long, (served_in_order short long (by norm_num)).1 ?_ ?_⟩
  · exact served_of_modest le_rfl (by norm_num)
  · exact served_of_modest (by norm_num) (by norm_num)

/-- Asking for a shorter time can give a longer one: two fifths of a millisecond are not served, and
the default is longer than a second. -/
theorem shorter_time_served_longer :
    ¬ ∀ (timing : Timing) (head : String) (lookup lookup' : String → Option String)
      (seconds longer : ℚ), timing.Holds head lookup seconds → timing.Holds head lookup' longer →
      (∀ name, name ≠ timing.variable.name head → lookup name = lookup' name) →
      0 < seconds → seconds ≤ longer →
      (timing.effective (read head lookup)).nanos ≤
        (timing.effective (read head lookup')).nanos := by
  intro ordered
  let name := Timing.timeout.variable.name "P"
  have short : timeout.Holds "P" (only name "0.0004") (1 / 2500) := by
    refine holds_only (m := "0.0004".toList) (stripWhile_eq_iff.mp (by decide +kernel)) ?_
    have point : PointText 4 4 "0.0004".toList :=
      .pointed (s := ['0']) (t := ['0', '0', '0', '4']) (by decide) (digits_of_all rfl)
    have value : (1 / 2500 : ℚ) = (4 : ℕ) * 10 ^ ((0 : ℤ) - (4 : ℕ)) := by norm_num
    rw [value]
    exact .bare point .absent
  have long : timeout.Holds "P" (only name "1") 1 := by
    refine holds_only (m := "1".toList) (stripWhile_eq_iff.mp (by decide +kernel)) ?_
    have point : PointText 1 0 "1".toList := .whole (by decide) (digits_of_all rfl)
    have value : (1 : ℚ) = (1 : ℕ) * 10 ^ ((0 : ℤ) - (0 : ℕ)) := by norm_num
    rw [value]
    exact .bare point .absent
  have same : ∀ other, other ≠ name → only name "0.0004" other = only name "1" other :=
    fun other ne => (only_of_ne ne _).trans (only_of_ne ne _).symm
  have times := ordered timeout "P" (only name "0.0004") (only name "1") (1 / 2500) 1 short long
    same (by norm_num) (by norm_num)
  have given : timeout.effective (read "P" (only name "0.0004")) = Duration.ofSeconds 30 ∧
      timeout.effective (read "P" (only name "1")) = Duration.ofSeconds 1 := by
    decide +kernel
  rw [given.1, given.2] at times
  exact absurd times (by decide)

end Timing

end ControlPlane.Settings
