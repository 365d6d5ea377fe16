import ControlPlane.Duration
import ControlPlane.Run
/-!
The retry loop and what bounds it. An operation is attempted until it succeeds, its error is final,
or the policy's retries are used up; the outcome is that of the last attempt, unchanged. A token
that has fired keeps an attempt from beginning, and one that fires during an attempt or a wait ends
the loop.

Before a retry comes the base delay doubled once per attempt, capped, and with jitter lengthened by
at most a tenth. The doubling is done in 32 bits and the product in the range of durations; wherever
either would overflow the answer is the cap. Every field of a policy has a default: an unset number
of retries, a zero base delay and a zero cap stand for theirs. An explicit zero number of retries
stays zero.
-/
namespace ControlPlane.Retry

def defaultBase : Duration := Duration.ofSeconds 1

def defaultCap : Duration := Duration.ofSeconds 30

def multiplier? (attempt : Nat) : Option Nat :=
  if attempt < 32 then some (1 <<< attempt) else none

def plainDelay (attempt : Nat) (base cap : Duration) : Duration :=
  let base := base.orElse defaultBase
  let cap := cap.orElse defaultCap
  match (multiplier? attempt).bind base.times? with
  | some scaled => scaled.shorter cap
  | none => cap

/-- The share of a delay that jitter may add: the double nearest to one tenth. -/
def jitterShare : Nat := Double.ofScientific 1 (-1)

/-- The largest sample used: the double nearest to 0.999999. -/
def sampleCap : Nat := Double.ofScientific 999999 (-6)

/-- A sample as a magnitude in [0, 0.999999]; what is not a finite number counts as zero. -/
def clampSample : Double → Nat
  | .finite false units => min units sampleCap
  | .finite true _ => 0
  | .infinite _ => 0
  | .nan => 0

def extra (delay : Duration) (sample : Double) : Duration :=
  delay.scale (Double.mul jitterShare (clampSample sample))

def delay (attempt : Nat) (base cap : Duration) (jitter : Bool) (sample : Double) : Duration :=
  let capped := plainDelay attempt base cap
  if jitter then capped.addSaturating (extra capped sample) else capped

def defaultRetries : UInt32 := 3

/-- Bounds of a retry loop. `retries` counts the attempts after the first one. -/
structure Policy where
  retries : Option UInt32 := none
  base : Duration := Duration.zero
  cap : Duration := Duration.zero
  jitter : Bool := false
deriving DecidableEq

namespace Policy

def filled (p : Policy) : Policy :=
  { p with
    retries := some (p.retries.getD defaultRetries)
    base := p.base.orElse defaultBase
    cap := p.cap.orElse defaultCap }

def budget (p : Policy) : UInt32 := p.retries.getD defaultRetries

def delay (p : Policy) (attempt : Nat) (sample : Double) : Duration :=
  Retry.delay attempt p.base p.cap p.jitter sample

end Policy

variable {σ ρ ε α : Type}

def pause (env : Environment σ) (cancelled : ε) (policy : Policy) (attempt : Nat) (s : σ) :
    Run σ ρ ε Unit :=
  (env.sample policy.jitter s).bind fun sample s =>
    env.pause cancelled (policy.delay attempt sample) s

/-- The attempts from number `attempt` on, with `left` retries to spend. The service is asked with
`ask attempt`. -/
def attempts (env : Environment σ) (cancelled : ε) (service : Service σ ρ (Except ε α))
    (ask : Nat → ρ) (retryable : ε → Bool) (policy : Policy) :
    (left attempt : Nat) → σ → Run σ ρ ε α
  | 0, attempt, s => (env.call cancelled service (ask attempt) s).bind fun answer s => .done answer s
  | left + 1, attempt, s =>
    (env.call cancelled service (ask attempt) s).bind fun answer s =>
      match answer with
      | .ok a => .done (.ok a) s
      | .error e =>
        if retryable e then
          (pause env cancelled policy attempt s).bind fun _ s =>
            attempts env cancelled service ask retryable policy left (attempt + 1) s
        else .done (.error e) s

def run (env : Environment σ) (cancelled : ε) (service : Service σ ρ (Except ε α))
    (ask : Nat → ρ) (retryable : ε → Bool) (policy : Policy) (s : σ) : Run σ ρ ε α :=
  attempts env cancelled service ask retryable policy.filled policy.budget.toNat 0 s

end ControlPlane.Retry
