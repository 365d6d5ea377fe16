import ControlPlane.Proofs.Scripted
import ControlPlane.Rehearsal
/-!
What running an operation under a policy comes to, result by result. The attempts end with the first
result that is final: a success, an error that is not tried again, or whatever the last attempt
gives that the retries allow. That result is the outcome. Before it, every attempt is followed by
one wait, for the delay of its own number and the sample of that number.
-/
namespace ControlPlane

variable {σ ρ ε α : Type}

def Ask.request? : Ask ρ → Option ρ
  | .call request => some request
  | _ => none

def Ask.delay? : Ask ρ → Option Duration
  | .wait delay => some delay
  | _ => none

def Ask.isDraw : Ask ρ → Bool
  | .draw => true
  | _ => false

namespace Run

def asks (r : Run σ ρ ε α) : List (Ask ρ) := r.steps.map Step.ask

theorem calls_eq_asks (r : Run σ ρ ε α) : r.calls = r.asks.filterMap Ask.request? := by
  rw [asks, List.filterMap_map]
  rfl

theorem waits_eq_asks (r : Run σ ρ ε α) : r.waits = r.asks.filterMap Ask.delay? := by
  rw [asks, List.filterMap_map]
  rfl

theorem draws_eq_asks (r : Run σ ρ ε α) : r.draws = r.asks.countP Ask.isDraw := by
  rw [asks, List.countP_map]
  rfl

end Run

namespace Retry

def Final (retryable : ε → Bool) (retries i : Nat) (result : Except ε α) : Prop :=
  (∃ a, result = .ok a) ∨ (∃ e, result = .error e ∧ retryable e = false) ∨ i = retries

def Policy.sample (policy : Policy) (samples : Nat → Double) (attempt : Nat) : Double :=
  if policy.jitter then samples attempt else .finite false 0

/-- What an attempt whose result is not final asks of the world. -/
def Policy.turn (policy : Policy) (ask : Nat → ρ) (samples : Nat → Double) (attempt : Nat) :
    List (Ask ρ) :=
  .call (ask attempt) ::
    ((if policy.jitter then [.draw] else []) ++
      [.wait (policy.delay attempt (policy.sample samples attempt))])

def Policy.drawn (policy : Policy) (attempt : Nat) : Nat := if policy.jitter then attempt else 0

section

variable (policy : Policy) (ask : Nat → ρ) (samples : Nat → Double) (k : Nat)

theorem calls_turns : ((List.range k).flatMap (policy.turn ask samples)).filterMap Ask.request? =
    (List.range k).map ask := by
  have one (i : Nat) : (policy.turn ask samples i).filterMap Ask.request? = [ask i] := by
    unfold Policy.turn
    split <;> rfl
  simp only [List.filterMap_flatMap, one, List.map_eq_flatMap]

theorem waits_turns : ((List.range k).flatMap (policy.turn ask samples)).filterMap Ask.delay? =
    (List.range k).map fun i => policy.delay i (policy.sample samples i) := by
  have one (i : Nat) : (policy.turn ask samples i).filterMap Ask.delay? =
      [policy.delay i (policy.sample samples i)] := by
    unfold Policy.turn
    split <;> rfl
  simp only [List.filterMap_flatMap, one, List.map_eq_flatMap]

theorem draws_turns : ((List.range k).flatMap (policy.turn ask samples)).countP Ask.isDraw =
    policy.drawn k := by
  have one (i : Nat) : (policy.turn ask samples i).countP Ask.isDraw = policy.drawn 1 := by
    unfold Policy.turn Policy.drawn
    split <;> rfl
  induction k with
  | zero => simp [Policy.drawn]
  | succ k ih =>
    rw [List.range_succ, List.flatMap_append, List.countP_append, ih, List.flatMap_singleton, one]
    unfold Policy.drawn
    split <;> rfl

end

end Retry

namespace Loop

variable {β : Type} {l : Loop σ ρ α ε β} {answers : Nat → α} {samples : Nat → Double}
  {past : List ρ → Nat → σ → Prop} {h : List ρ} {s : σ}

theorem pause_turn (world : Scripted l.env l.service (fun h _ => answers h.length) samples past)
    (attempt : Nat) (here : past h (l.policy.drawn attempt) s) :
    ∃ steps t, (Retry.pause l.env l.cancelled l.policy attempt s : Run σ ρ ε Unit) =
        ⟨steps, .ok (), t⟩ ∧
      .call (l.ask attempt) :: steps.map Step.ask = l.policy.turn l.ask samples attempt ∧
      past h (l.policy.drawn (attempt + 1)) t := by
  cases jitter : l.policy.jitter with
  | false =>
    obtain ⟨t, waited, after⟩ := world.waited (l.policy.delay attempt (.finite false 0)) here
    refine ⟨[⟨s, .wait (l.policy.delay attempt (.finite false 0))⟩], t, ?_, ?_, ?_⟩
    · simp [Retry.pause, Environment.sample, jitter, Environment.pause, waited]
    · simp [Retry.Policy.turn, Retry.Policy.sample, jitter]
    · simpa [Retry.Policy.drawn, jitter] using after
  | true =>
    have number : l.policy.drawn attempt = attempt := by simp [Retry.Policy.drawn, jitter]
    obtain ⟨u, drawn, between⟩ := world.drawn here
    obtain ⟨t, waited, after⟩ := world.waited (l.policy.delay attempt (samples attempt)) between
    rw [number] at drawn
    refine ⟨[⟨s, .draw⟩, ⟨u, .wait (l.policy.delay attempt (samples attempt))⟩], t, ?_, ?_, ?_⟩
    · simp [Retry.pause, Environment.sample, jitter, Environment.pause, drawn, waited, Run.bind,
        Run.after]
    · simp [Retry.Policy.turn, Retry.Policy.sample, jitter]
    · simpa [Retry.Policy.drawn, jitter] using after

theorem turns_turn (world : Scripted l.env l.service (fun h _ => answers h.length) samples past)
    (undirected : ∀ t answer, l.directed t answer = none) {left : Nat}
    (here : past h (l.policy.drawn h.length) s)
    (open_ : l.verdict left (answers h.length) = none) :
    ∃ steps t, l.turns left h.length s = (l.turns (left - 1) (h.length + 1) t).after steps ∧
      steps.map Step.ask = l.policy.turn l.ask samples h.length ∧
      past (h ++ [l.ask h.length]) (l.policy.drawn (h.length + 1)) t := by
  obtain ⟨u, given, answered⟩ := world.answered (l.ask h.length) here
  obtain ⟨steps, t, paused, turn, after⟩ := pause_turn world h.length answered
  refine ⟨⟨s, .call (l.ask h.length)⟩ :: steps, t, ?_, turn, after⟩
  rw [turns_eq, Environment.call, world.unfired here, if_neg Bool.false_ne_true, given]
  simp [Run.bind, Run.after, open_, pause, undirected, paused]

/-- What the attempts of a loop ask for in a scripted world, up to the first answer that settles it.
The induction is on how many answers leave it open; the number of an attempt is how many answers
have been given before it, and with jitter as many samples have been drawn. -/
theorem asks_scripted (world : Scripted l.env l.service (fun h _ => answers h.length) samples past)
    (undirected : ∀ t answer, l.directed t answer = none) {k left : Nat}
    (here : past h (l.policy.drawn h.length) s)
    (open_ : ∀ i < k, l.verdict (left - i) (answers (h.length + i)) = none)
    (final : l.verdict (left - k) (answers (h.length + k)) ≠ none) :
    (l.turns left h.length s).asks =
      (List.range' h.length k).flatMap (l.policy.turn l.ask samples) ++
        [.call (l.ask (h.length + k))] := by
  induction k generalizing left h s with
  | zero =>
    obtain ⟨o, settled⟩ := Option.ne_none_iff_exists'.mp final
    obtain ⟨t, run, _⟩ : ∃ t, l.turns left h.length s =
        ⟨[⟨s, .call (l.ask h.length)⟩], o, t⟩ ∧ past (h ++ [l.ask h.length]) _ t :=
      turns_settled world here settled
    rw [run]
    rfl
  | succ k ih =>
    have first : l.verdict left (answers h.length) = none := open_ 0 (Nat.succ_pos k)
    obtain ⟨steps, t, run, turn, after⟩ := turns_turn world undirected here first
    have count : (h ++ [l.ask h.length]).length = h.length + 1 := by simp
    have shift (i : Nat) : h.length + (i + 1) = h.length + 1 + i := by omega
    have later (i : Nat) : left - (i + 1) = left - 1 - i := by omega
    have rest_open : ∀ i < k, l.verdict (left - 1 - i) (answers (h.length + 1 + i)) = none := by
      intro i less
      rw [← later, ← shift]
      exact open_ (i + 1) (by omega)
    rw [later, shift, ← count] at final
    rw [← count] at after rest_open
    have asks := ih after rest_open final
    rw [count] at asks
    rw [run, Run.asks, Run.steps_after, List.map_append, turn, ← Run.asks, asks, shift k,
      List.range'_succ, List.flatMap_cons, List.append_assoc]

end Loop

namespace Retry

variable {env : Environment σ} {cancelled : ε} {service : Service σ ρ (Except ε α)}
  {ask : Nat → ρ} {retryable : ε → Bool} {policy : Policy}

theorem verdict_eq_none_iff {retries i : Nat} (within : i ≤ retries) (result : Except ε α) :
    (loop env cancelled service ask retryable policy).verdict (retries - i) result = none ↔
      ¬ Final retryable retries i result := by
  have left : retries - i ≠ 0 ↔ i ≠ retries := by omega
  have again : (∃ e, (loop env cancelled service ask retryable policy).judge result = .error e ∧
      (loop env cancelled service ask retryable policy).again e = true) ↔
        ∃ e, result = .error e ∧ retryable e = true := Iff.rfl
  rw [Loop.verdict_eq_none_iff, left, again]
  unfold Final
  cases result with
  | ok a => simp
  | error e => simp [and_comm]

theorem exists_first_final (retryable : ε → Bool) (retries : Nat) (results : Nat → Except ε α) :
    ∃ k, Final retryable retries k (results k) ∧
      (∀ i < k, ¬ Final retryable retries i (results i)) ∧ k ≤ retries :=
  exists_first (p := fun k => Final retryable retries k (results k)) (.inr (.inr rfl))

theorem verdict_of_final {retries i : Nat} (within : i ≤ retries) {result : Except ε α}
    (final : Final retryable retries i result) :
    (loop env cancelled service ask retryable policy).verdict (retries - i) result =
      some result := by
  apply Loop.verdict_of_settled
  intro open_
  exact (verdict_eq_none_iff within result).mp open_ final

theorem run_scripted (cancelled : ε) (ask : Nat → ρ) {results : Nat → Except ε α}
    {samples : Nat → Double} {past : List ρ → Nat → σ → Prop} {s : σ} {k : Nat}
    (world : Scripted env service (fun h _ => results h.length) samples past) (start : past [] 0 s)
    (final : Final retryable policy.budget.toNat k (results k))
    (open_ : ∀ i < k, ¬ Final retryable policy.budget.toNat i (results i))
    (within : k ≤ policy.budget.toNat) :
    (run env cancelled service ask retryable policy s).asks =
        (List.range k).flatMap (policy.filled.turn ask samples) ++ [.call (ask k)] ∧
      (run env cancelled service ask retryable policy s).outcome = results k := by
  let l := loop env cancelled service ask retryable policy.filled
  have unsettled : ∀ i < k, l.verdict (policy.budget.toNat - i) (results i) = none := by
    intro i less
    exact (verdict_eq_none_iff (by omega) (results i)).mpr (open_ i less)
  have settled : l.verdict (policy.budget.toNat - k) (results k) = some (results k) :=
    verdict_of_final within final
  have asked (count : Nat) : (l.asked 0 count).length = count := by simp [Loop.asked]
  unfold run
  rw [attempts_eq_turns]
  constructor
  · have begun : past [] (l.policy.drawn 0) s := by
      unfold Policy.drawn
      rwa [ite_self]
    have asks := Loop.asks_scripted (l := l) (h := []) world (fun _ _ => rfl) begun
      (by simpa using unsettled) (by simp [settled])
    simp only [List.length_nil, Nat.zero_add, ← List.range_eq_range'] at asks
    exact asks
  · have scripted_turns : _ ∧ (l.turns policy.budget.toNat 0 s).outcome = results k ∧ _ :=
      Loop.turns_scripted (h := []) world start
        (by simpa [asked] using unsettled) (by simpa [asked] using settled)
    exact scripted_turns.2.1

/-- However its results are mixed, an operation is attempted up to its first final result: once for
each number up to that one's, in their order, and the result itself is the outcome. Each attempt
before it is followed by the wait that the policy, its defaults filled in, has for the attempt's
number; with jitter, one sample is drawn for that wait. The numbers are within the retries, so they
fit 32 bits. -/
theorem run_ends_with_first_final (env : Environment σ) (cancelled : ε)
    (service : Service σ ρ (Except ε α)) (ask : Nat → ρ) (retryable : ε → Bool) (policy : Policy)
    (results : Nat → Except ε α) (samples : Nat → Double) (past : List ρ → Nat → σ → Prop)
    (world : Scripted env service (fun h _ => results h.length) samples past)
    (s : σ) (start : past [] 0 s) :
    ∃ k, Final retryable policy.budget.toNat k (results k) ∧
      (∀ i < k, ¬ Final retryable policy.budget.toNat i (results i)) ∧ k < UInt32.size ∧
      (run env cancelled service ask retryable policy s).calls = (List.range (k + 1)).map ask ∧
      (run env cancelled service ask retryable policy s).outcome = results k ∧
      (run env cancelled service ask retryable policy s).waits =
        (List.range k).map (fun i =>
          Retry.delay i policy.filled.base policy.filled.cap policy.jitter
            (if policy.jitter then samples i else .finite false 0)) ∧
      (run env cancelled service ask retryable policy s).draws =
        if policy.jitter then k else 0 := by
  obtain ⟨k, final, open_, within⟩ := exists_first_final retryable policy.budget.toNat results
  obtain ⟨asks, outcome⟩ := run_scripted cancelled ask world start final open_ within
  refine ⟨k, final, open_, Nat.lt_of_le_of_lt within policy.budget.toNat_lt, ?_, outcome, ?_, ?_⟩
  · rw [Run.calls_eq_asks, asks, List.filterMap_append, calls_turns, List.range_succ,
      List.map_append]
    rfl
  · rw [Run.waits_eq_asks, asks, List.filterMap_append, waits_turns]
    exact List.append_nil _
  · rw [Run.draws_eq_asks, asks, List.countP_append, draws_turns]
    rfl

end Retry

namespace Rehearsal

theorem scripted (answers : List α) (fallback : α) (samples : List Double) :
    Scripted (environment α false samples) (fun s (_ : ρ) => s.answer fallback)
      (fun h _ => answers[h.length]?.getD fallback)
      (fun n => samples[n % samples.length]?.getD (.finite false 0))
      (fun h n s => s =
        { cues := (answers.drop h.length).map fun answer => { answer }, drawn := n }) where
  unfired here := by
    subst here
    rfl
  answered {h n s} request here := by
    subst here
    have dropped : answers.drop (h ++ [request]).length = (answers.drop h.length).drop 1 := by
      rw [List.drop_drop, List.length_append]
      rfl
    have head : answers[h.length]? = (answers.drop h.length).head? := by
      rw [List.head?_drop]
    rw [dropped, head]
    cases answers.drop h.length <;> exact ⟨_, rfl, rfl⟩
  waited _ here := by
    subst here
    exact ⟨_, rfl, rfl⟩
  drawn here := by
    subst here
    exact ⟨_, rfl, rfl⟩

end Rehearsal

theorem Retry.run_ends_with_first_final_exhausted :
    let half : Double := .finite false (Double.ofScientific 5 (-1))
    let policy : Retry.Policy := { retries := some 2, jitter := true }
    let env := Rehearsal.environment (Except Rehearsal.Setback Nat) false [half]
    let run := Rehearsal.retry env 0 Rehearsal.Setback.isPassing policy
      { cues := [{ answer := .error (.passing "a") }, { answer := .error (.passing "b") },
          { answer := .error (.passing "c") }] }
    run.calls = [0, 1, 2] ∧ run.outcome = .error (.passing "c") ∧
      run.waits = [Duration.ofMillis 1050, Duration.ofMillis 2100] ∧ run.draws = 2 := by
  intro half policy env run
  obtain ⟨k, final, open_, _, calls, outcome, waits, draws⟩ :=
    Retry.run_ends_with_first_final env .cancelled (fun s (_ : Nat) => s.answer (.ok 0)) id
      Rehearsal.Setback.isPassing policy
      (fun i => ([.error (.passing "a"), .error (.passing "b"), .error (.passing "c")] :
        List (Except Rehearsal.Setback Nat))[i]?.getD (.ok 0)) _ _
      (Rehearsal.scripted _ _ [half]) _ rfl
  have last : k = 2 := by
    have most : ¬ 2 < k := fun more => open_ 2 more (.inr (.inr rfl))
    have more : k ≠ 0 ∧ k ≠ 1 := by
      constructor <;> rintro rfl <;>
        simp [Retry.Final, policy, Retry.Policy.budget, Rehearsal.Setback.isPassing] at final
    omega
  subst last
  refine ⟨calls, outcome, waits.trans ?_, draws⟩
  decide +kernel

end ControlPlane
