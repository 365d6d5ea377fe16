import ControlPlane.Credentials
import ControlPlane.Proofs.Attempts
import ControlPlane.Proofs.Backoff
/-!
Defaults of a policy. That a zero length of time stands for the default is said in two places: of a
policy, and once more of a single delay. That retries which are not set stand for theirs is said of
a policy and of its budget. The places agree: a policy and the one with its defaults filled in have
the same budget and the same delays, and no loop of attempts can tell them apart.
-/
namespace ControlPlane

namespace Retry

variable {σ ρ ε α : Type}

namespace Policy

structure Full (policy : Policy) : Prop where
  retries : policy.retries.isSome
  base : policy.base.isZero = false
  cap : policy.cap.isZero = false

theorem full_filled (policy : Policy) : policy.filled.Full where
  retries := rfl
  base := policy.base.isZero_orElse (by decide)
  cap := policy.cap.isZero_orElse (by decide)

theorem filled_of_full {policy : Policy} (full : policy.Full) : policy.filled = policy := by
  obtain ⟨retries, set⟩ := Option.isSome_iff_exists.mp full.retries
  rw [filled, Duration.orElse_of_filled full.base, Duration.orElse_of_filled full.cap, set]
  cases policy
  cases set
  rfl

theorem delay_filled (policy : Policy) (attempt : Nat) (sample : Double) :
    policy.filled.delay attempt sample = policy.delay attempt sample := by
  have base : policy.filled.base.orElse defaultBase = policy.base.orElse defaultBase :=
    Duration.orElse_of_filled policy.full_filled.base _
  have cap : policy.filled.cap.orElse defaultCap = policy.cap.orElse defaultCap :=
    Duration.orElse_of_filled policy.full_filled.cap _
  simp only [Policy.delay, Retry.delay, plainDelay, base, cap]
  rfl

/-- The policies bound attempts in the same way, whatever their fields are. -/
structure AgreesWith (p q : Policy) : Prop where
  budget : p.budget = q.budget
  jitter : p.jitter = q.jitter
  delay : ∀ attempt sample, p.delay attempt sample = q.delay attempt sample

theorem filled_agrees (policy : Policy) : policy.filled.AgreesWith policy where
  budget := rfl
  jitter := rfl
  delay := policy.delay_filled

section

variable (env : Environment σ) (cancelled : ε) (policy : Policy) (attempt : Nat) (s : σ)

theorem waits_pause (unused : Double) :
    (pause env cancelled policy attempt s : Run σ ρ ε Unit).waits =
      [policy.delay attempt (if policy.jitter then (env.draw s).1 else unused)] := by
  cases jitter : policy.jitter with
  | true =>
    simp [pause, Environment.sample, jitter, Loop.pause_eq, Run.bind, Run.after, Run.waits_eq]
  | false =>
    have same : policy.delay attempt (.finite false 0) = policy.delay attempt unused := by
      simp only [Policy.delay, jitter, delay_unjittered]
    simp [pause, Environment.sample, jitter, Loop.pause_eq, Run.waits_eq, same]

theorem draws_pause :
    (pause env cancelled policy attempt s : Run σ ρ ε Unit).draws =
      if policy.jitter then 1 else 0 := by
  cases jitter : policy.jitter with
  | true => simp [pause, Environment.sample, jitter, Loop.pause_eq, Run.bind, Run.after, Run.draws]
  | false => simp [pause, Environment.sample, jitter, Loop.pause_eq, Run.draws]

end

theorem AgreesWith.pause_eq {p q : Policy} (agrees : p.AgreesWith q) (env : Environment σ)
    (cancelled : ε) (attempt : Nat) (s : σ) :
    (pause env cancelled p attempt s : Run σ ρ ε Unit) = pause env cancelled q attempt s := by
  simp only [pause, agrees.jitter, agrees.delay]

end Policy

end Retry

namespace Loop

variable {σ ρ α ε β : Type}

def under (l : Loop σ ρ α ε β) (policy : Retry.Policy) : Loop σ ρ α ε β := { l with policy }

theorem pause_under (l : Loop σ ρ α ε β) {p q : Retry.Policy} (agrees : p.AgreesWith q)
    (attempt : Nat) (answer : α) (s : σ) :
    (l.under p).pause attempt answer s = (l.under q).pause attempt answer s := by
  unfold pause
  cases directed : l.directed s answer with
  | some delay => simp only [under, directed]
  | none =>
    simp only [under, directed]
    exact agrees.pause_eq l.env l.cancelled attempt s

/-- Under policies that agree a loop takes the same steps through the same states and comes to the
same end. The induction is on the retries that are left; only the pause between two attempts looks
at the policy. -/
theorem turns_under (l : Loop σ ρ α ε β) {p q : Retry.Policy} (agrees : p.AgreesWith q)
    (left attempt : Nat) (s : σ) :
    (l.under p).turns left attempt s = (l.under q).turns left attempt s := by
  induction left generalizing attempt s with
  | zero =>
    rw [turns, turns]
    rfl
  | succ left ih =>
    rw [turns, turns]
    simp only [pause_under l agrees, ih]
    rfl

end Loop

namespace Retry

variable {σ ρ ε α : Type}

theorem attempts_filled (env : Environment σ) (cancelled : ε)
    (service : Service σ ρ (Except ε α)) (ask : Nat → ρ) (retryable : ε → Bool) (policy : Policy)
    (left attempt : Nat) (s : σ) :
    attempts env cancelled service ask retryable policy.filled left attempt s =
      attempts env cancelled service ask retryable policy left attempt s := by
  rw [attempts_eq_turns, attempts_eq_turns]
  exact (loop env cancelled service ask retryable policy).turns_under policy.filled_agrees left
    attempt s

theorem Policy.AgreesWith.run_eq {p q : Policy} (agrees : p.AgreesWith q) (env : Environment σ)
    (cancelled : ε) (service : Service σ ρ (Except ε α)) (ask : Nat → ρ) (retryable : ε → Bool)
    (s : σ) :
    run env cancelled service ask retryable p s = run env cancelled service ask retryable q s := by
  rw [run, run, attempts_filled, attempts_filled, agrees.budget, attempts_eq_turns,
    attempts_eq_turns]
  exact (loop env cancelled service ask retryable p).turns_under agrees q.budget.toNat 0 s

end Retry

def Channel.under (channel : Channel) (policy : Retry.Policy) : Channel := { channel with policy }

theorem Channel.send_under {σ : Type} (channel : Channel) {p q : Retry.Policy}
    (agrees : p.AgreesWith q) (wire : Wire σ) (call : Call) (s : σ) :
    (channel.under p).send wire call s = (channel.under q).send wire call s := by
  have budget : (channel.under p).policy.budget = (channel.under q).policy.budget := agrees.budget
  rw [send, send, attempts_eq_turns, attempts_eq_turns, budget]
  exact (channel.loop wire (channel.request call) (mayRepeat call)).turns_under agrees
    q.budget.toNat 0 s

/-- It does not matter where the defaults of a policy are filled in. Filling them in again changes
nothing. The policy, the filled one and the one that an issuer keeps of it have the same budget, and
retries that are set stay as they are, none among them. The delays are the same, so a pause under
the filled policy is for the delay of the fields as they were given and of the sample that is drawn.
Every operation and every call over a channel goes the same way under both policies. -/
theorem Retry.Policy.defaults_agree (policy : Policy) (issuer : Credentials.Issuer) :
    policy.filled.filled = policy.filled ∧
      policy.filled.budget = policy.budget ∧
      (issuer.withPolicy policy).policy.budget = policy.budget ∧
      (∀ n, ({ policy with retries := some n } : Policy).budget = n ∧
        ({ policy with retries := some n } : Policy).filled.budget = n) ∧
      (∀ (attempt : Nat) (sample : Double),
        Retry.delay attempt policy.filled.base policy.filled.cap policy.filled.jitter sample =
          Retry.delay attempt policy.base policy.cap policy.jitter sample) ∧
      (∀ {σ ρ ε : Type} (env : Environment σ) (cancelled : ε) (attempt : Nat) (s : σ)
          (unused : Double),
        let run : Run σ ρ ε Unit := pause env cancelled policy.filled attempt s
        let sample := if policy.jitter then (env.draw s).1 else unused
        run.waits = [Retry.delay attempt policy.base policy.cap policy.jitter sample] ∧
          run.draws = if policy.jitter then 1 else 0) ∧
      (∀ {σ ρ ε α : Type} (env : Environment σ) (cancelled : ε)
          (service : Service σ ρ (Except ε α)) (ask : Nat → ρ) (retryable : ε → Bool) (s : σ),
        run env cancelled service ask retryable policy.filled s =
          run env cancelled service ask retryable policy s) ∧
      ∀ {σ : Type} (channel : Channel) (wire : Wire σ) (call : Call) (s : σ),
        (channel.under policy.filled).send wire call s =
          (channel.under policy).send wire call s := by
  have agrees := policy.filled_agrees
  refine ⟨filled_of_full policy.full_filled, agrees.budget, agrees.budget, fun n => ⟨rfl, rfl⟩,
    agrees.delay, ?_, agrees.run_eq, fun channel => channel.send_under agrees⟩
  intro σ ρ ε env cancelled attempt s unused
  dsimp only
  rw [agrees.pause_eq]
  exact ⟨policy.waits_pause env cancelled attempt s unused,
    policy.draws_pause env cancelled attempt s⟩

end ControlPlane
