import ControlPlane.Channel.Send
import ControlPlane.Credentials
/-!
Rehearsals: a world that follows a script, in which operations can be run and looked at. Each call
takes the next cue of the script; time is a count of milliseconds that moves only while something is
waited for; the token fires when a cue or a wait says so or when its time has come. Its time is
looked at only where something is waited for, and a call or a wait that ends at the same millisecond
ends first.
-/
namespace ControlPlane.Rehearsal

/-- What happens at a wait: it is finished, or the token fires, or both, or it is refused although the
token has not fired. -/
inductive WaitCue where
  | finish
  | fire
  | fireAndFinish
  | refuse
deriving DecidableEq

/-- What happens at a call before it is answered, in this order: the token fires, the call gives way
once, some milliseconds pass, and the call waits for the token. -/
structure Cue (α : Type) where
  answer : α
  fires : Bool := false
  yields : Bool := false
  delay : Nat := 0
  hangs : Bool := false

/-- The state of the world: the cues that are left, the clock, the token and the time at which it
fires, the cues of waits that are left, and the number of samples drawn. A world that does not listen
has a token of its own, which only waits can fire. -/
structure Stage (α : Type) where
  cues : List (Cue α)
  clock : Nat := 0
  fired : Bool := false
  due : Option Nat := none
  waits : List WaitCue := []
  drawn : Nat := 0
  listens : Bool := true

namespace Stage

variable {α : Type}

def fire (s : Stage α) : Stage α := { s with fired := true }

def settle (s : Stage α) : Stage α :=
  match s.due with
  | some t => if t ≤ s.clock then s.fire else s
  | none => s

def pass (s : Stage α) (millis : Nat) : Stage α :=
  if s.fired then s
  else
    match s.due with
    | some t =>
      if t < s.clock + millis then { s with clock := max s.clock t, fired := true }
      else { s with clock := s.clock + millis }
    | none => { s with clock := s.clock + millis }

def waitForToken (s : Stage α) : Stage α :=
  match s.due with
  | some t => s.pass (t + 1)
  | none => s

def answer (fallback : α) (s : Stage α) : Course (Stage α) α :=
  match s.cues with
  | [] => .returned fallback s
  | cue :: rest =>
    let called := { s with cues := rest, fired := s.fired || (cue.fires && s.listens) }
    let yielded := if cue.yields then called.settle else called
    let passed := if cue.delay = 0 then yielded else yielded.pass cue.delay
    let ended := if cue.hangs then passed.waitForToken else passed
    let pendingIf (b : Bool) (s : Stage α) (course : Course (Stage α) α) : Course (Stage α) α :=
      if b then .pending s course else course
    pendingIf cue.yields yielded
      (pendingIf (cue.delay ≠ 0) passed
        (pendingIf cue.hangs ended (.returned cue.answer ended)))

def timer (s : Stage α) (d : Duration) : Course (Stage α) Unit :=
  let passed := s.pass d.millisCeil
  .pending passed (.returned () passed)

def pause (timed : Bool) (s : Stage α) (d : Duration) : Bool × Stage α :=
  if timed then timedWait Stage.fired timer s d else (true, s)

def wait (timed : Bool) (s : Stage α) (d : Duration) : Bool × Stage α :=
  match s.waits with
  | [] => s.pause timed d
  | cue :: rest =>
    let s := { s with waits := rest }
    match cue with
    | .finish => s.pause timed d
    | .fire => (false, s.fire)
    | .fireAndFinish => s.fire.pause timed d
    | .refuse => (false, s)

def draw (samples : List Double) (s : Stage α) : Double × Stage α :=
  (samples[s.drawn % samples.length]?.getD (.finite false 0), { s with drawn := s.drawn + 1 })

end Stage

def lateTime : Int := 1000000000000000000000

def environment (α : Type) (timed : Bool) (samples : List Double) : Environment (Stage α) :=
  { fired := Stage.fired
    now := fun _ => lateTime
    wait := Stage.wait timed
    draw := Stage.draw samples }

abbrev Delivery := Except String Http.Response

def scriptEnded : Delivery := .ok { status := 418, body := Text.utf8 "script exhausted".toList }

def wire (timed : Bool) (samples : List Double) : Wire (Stage Delivery) :=
  { environment Delivery timed samples with transport := fun s _ => s.answer scriptEnded }

abbrev Testimony := Except Fault (String × Credentials.Temporary)

def nothingKnown : Testimony := .ok ("", ⟨"", "", "", none⟩)

def backend : Credentials.Backend (Stage Testimony) :=
  { account := fun s _ => (s.answer nothingKnown).map fun t => t.map (·.1)
    role := fun s _ => (s.answer nothingKnown).map fun t => t.map (·.2) }

/-- An error of a rehearsed operation: one that may pass, one that is final, or a fired token. -/
inductive Setback where
  | passing (text : String)
  | final (text : String)
  | cancelled
deriving DecidableEq

def Setback.isPassing : Setback → Bool
  | .passing _ => true
  | _ => false

/-- Runs a scripted operation under a policy. The operation is asked with the number of its attempt,
and after the last cue it succeeds with `fallback`. -/
def retry {β : Type} (env : Environment (Stage (Except Setback β))) (fallback : β)
    (retryable : Setback → Bool) (policy : Retry.Policy) (s : Stage (Except Setback β)) :
    Run (Stage (Except Setback β)) Nat Setback β :=
  Retry.run env .cancelled (fun s _ => s.answer (.ok fallback)) id retryable policy s

end ControlPlane.Rehearsal
