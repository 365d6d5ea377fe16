import ControlPlane.Proofs.Dates
import ControlPlane.Http
/-!
What a server can ask for. Between its blanks a value writes an integer, a date or neither, and
never both. An integer of 64 bits is a number of seconds, at whatever time it is read; a date is
waited for from the time at which it is read; every other value asks for nothing.
-/
namespace ControlPlane.RetryAfter

open Text

def earliest : Int := -0x8000000000000000 * 1000000000

/-- What is asked for by a value that has `m` between its blanks, by the time at which it is read. -/
structure Asks (m : List Char) (asked : Int → Option Duration) : Prop where
  seconds : ∀ n, WritesInteger n m → -0x8000000000000000 ≤ n → n < 0x8000000000000000 →
    ∃ d : Duration, (d.nanos : Int) = max n 0 * 1000000000 ∧ ∀ now, asked now = some d
  beyond : ∀ n, WritesInteger n m → ¬ (-0x8000000000000000 ≤ n ∧ n < 0x8000000000000000) →
    ∀ now, asked now = none
  /-- The wait for a date ends when it is reached, or at once where it is past: it is never too
  short, and it does not grow as time passes. -/
  date : ∀ second, HttpDate.Dates m second → ∃ delay : Int → Duration,
    (∀ now, asked now = some (delay now)) ∧
    (∀ now later, now ≤ later → (delay later).nanos ≤ (delay now).nanos) ∧
    ∀ now, earliest ≤ now →
      ((delay now).nanos : Int) = max (second * 1000000000 - now) 0 ∧
        second * 1000000000 ≤ now + (delay now).nanos
  other : (∀ n, ¬ WritesInteger n m) → (∀ second, ¬ HttpDate.Dates m second) →
    ∀ now, asked now = none
  empty : m = [] → ∀ now, asked now = none
  fraction : ∀ whole part, m = whole ++ '.' :: part →
    (∀ c ∈ whole, c.isDigit = true ∨ c ∈ ['+', '-']) → ∀ now, asked now = none

theorem not_dates_of_first {c : Char} (sign : c.isDigit = true ∨ c ∈ ['+', '-', '.'])
    (s : List Char) (second : Nat) : ¬ HttpDate.Dates (c :: s) second := by
  intro dates
  obtain ⟨letter, initial, first⟩ := dates.initial
  obtain rfl := Option.some.inj first
  have plain : ∀ c ∈ HttpDate.initials, ¬ (c.isDigit = true ∨ c ∈ ['+', '-', '.']) := by
    simp [HttpDate.initials]
  exact plain c initial sign

theorem not_dates_of_integer {n : Int} {m : List Char} (writes : WritesInteger n m)
    (second : Nat) : ¬ HttpDate.Dates m second := by
  cases m with
  | nil => exact absurd rfl writes.ne_nil
  | cons c s =>
    have first := (writes.chars c List.mem_cons_self).imp_right (List.mem_append_left ['.'])
    exact not_dates_of_first first s second

theorem nanos_waitUntil {second : Nat} (small : second < 400000000000) {now : Int}
    (since : earliest ≤ now) :
    ((waitUntil second now).nanos : Int) = max (second * 1000000000 - now) 0 := by
  unfold earliest at since
  simp only [waitUntil, Duration.ofNanos, Duration.maxNanos]
  omega

theorem waitUntil_le_waitUntil (second : Nat) {now later : Int} (le : now ≤ later) :
    (waitUntil second later).nanos ≤ (waitUntil second now).nanos := by
  simp only [waitUntil, Duration.ofNanos]
  omega

theorem parse?_of_integer {value m : List Char} (trimmed : trim value = m) {n : Int}
    (writes : WritesInteger n m) (least : -0x8000000000000000 ≤ n) (most : n < 0x8000000000000000)
    (now : Int) : parse? value now = some (Duration.ofSeconds n.toNat) := by
  rw [parse?, trimmed, int64?_eq_some_iff.mpr ⟨writes, least, most⟩]

theorem parse?_of_not_integer {value m : List Char} (trimmed : trim value = m)
    (other : ∀ n, WritesInteger n m →
      ¬ (-0x8000000000000000 ≤ n ∧ n < 0x8000000000000000)) (now : Int) :
    parse? value now = (HttpDate.parse? m).map fun second => waitUntil second now := by
  have none_ : int64? m = none := by
    refine Option.eq_none_iff_forall_ne_some.mpr fun n read => ?_
    obtain ⟨writes, within⟩ := int64?_eq_some_iff.mp read
    exact other n writes within
  rw [parse?, trimmed, none_]

theorem parse?_of_neither {value m : List Char} (trimmed : trim value = m)
    (other : ∀ n, WritesInteger n m →
      ¬ (-0x8000000000000000 ≤ n ∧ n < 0x8000000000000000))
    (dateless : ∀ second, ¬ HttpDate.Dates m second) (now : Int) : parse? value now = none := by
  have none_ : HttpDate.parse? m = none :=
    Option.eq_none_iff_forall_ne_some.mpr fun second read =>
      dateless second (HttpDate.parse?_eq_some_iff.mp read)
  rw [parse?_of_not_integer trimmed other, none_]
  rfl

/-- Every value asks for what stands between its blanks, and for nothing else. -/
theorem asks {value m : List Char} (strips : Strips isBlank value m) : Asks m (parse? value) := by
  have trimmed : trim value = m := stripWhile_eq_iff.mpr strips
  constructor
  case seconds =>
    intro n writes least most
    refine ⟨Duration.ofSeconds n.toNat, ?_, parse?_of_integer trimmed writes least most⟩
    simp only [Duration.ofSeconds, Duration.ofNanos, Duration.maxNanos]
    omega
  case beyond =>
    intro n writes outside
    refine parse?_of_neither trimmed (fun k writes' => ?_) (not_dates_of_integer writes)
    have read := integer?_eq_some_iff.mpr writes
    rw [integer?_eq_some_iff.mpr writes'] at read
    obtain rfl := Option.some.inj read
    exact outside
  case date =>
    intro second dates
    refine ⟨waitUntil second, fun now => ?_, fun now later le => waitUntil_le_waitUntil second le,
      fun now since => ?_⟩
    · rw [parse?_of_not_integer trimmed fun n writes =>
          absurd dates (not_dates_of_integer writes second),
        HttpDate.parse?_eq_some_iff.mpr dates]
      rfl
    · have exact_ := nanos_waitUntil dates.lt since
      refine ⟨exact_, ?_⟩
      omega
  case other =>
    intro integerless dateless
    exact parse?_of_neither trimmed (fun n writes => absurd writes (integerless n)) dateless
  case empty =>
    rintro rfl
    refine parse?_of_neither trimmed (fun n writes => absurd rfl writes.ne_nil) ?_
    intro second dates
    obtain ⟨c, -, first⟩ := dates.initial
    contradiction
  case fraction =>
    rintro whole part rfl signs
    refine parse?_of_neither trimmed (fun n writes => ?_) fun second => ?_
    · have point := writes.chars '.' (List.mem_append_right whole List.mem_cons_self)
      exact absurd point (by decide)
    · cases whole with
      | nil => exact not_dates_of_first (.inr (by decide)) part second
      | cons c whole =>
        refine not_dates_of_first ((signs c List.mem_cons_self).imp_right fun sign => ?_) _ second
        exact List.mem_append_left ['.'] sign

theorem asks_past :
    Strips isBlank " -9223372036854775808\t".toList "-9223372036854775808".toList ∧
    Strips isBlank "Sun, 06 Nov 1994 08:49:37 GMT ".toList
      "Sun, 06 Nov 1994 08:49:37 GMT".toList ∧
    (∀ now, (parse? " -9223372036854775808\t".toList now).map Duration.nanos = some 0) ∧
    (parse? "Sun, 06 Nov 1994 08:49:37 GMT ".toList (-1)).map Duration.nanos =
      some 784111777000000001 := by
  have number : Strips isBlank " -9223372036854775808\t".toList "-9223372036854775808".toList :=
    stripWhile_eq_iff.mp (by decide +kernel)
  have date : Strips isBlank "Sun, 06 Nov 1994 08:49:37 GMT ".toList
      "Sun, 06 Nov 1994 08:49:37 GMT".toList := stripWhile_eq_iff.mp (by decide +kernel)
  refine ⟨number, date, fun now => ?_, ?_⟩
  · have writes : WritesInteger (-0x8000000000000000) "-9223372036854775808".toList :=
      integer?_eq_some_iff.mp (by decide +kernel)
    obtain ⟨d, nanos, asked⟩ := (asks number).seconds _ writes (by decide) (by decide)
    rw [asked now, Option.map_some, Option.some.injEq]
    omega
  · have dates : HttpDate.Dates "Sun, 06 Nov 1994 08:49:37 GMT".toList 784111777 :=
      HttpDate.parse?_eq_some_iff.mp (by decide +kernel)
    obtain ⟨delay, asked, -, exact_⟩ := (asks date).date _ dates
    obtain ⟨nanos, -⟩ := exact_ (-1) (by decide)
    rw [asked, Option.map_some, Option.some.injEq]
    omega

end ControlPlane.RetryAfter
