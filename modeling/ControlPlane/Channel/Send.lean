import ControlPlane.Channel.Basic
import ControlPlane.Retry
/-!
Sending a call over a channel. The request is sent until a response of the 200 class arrives, an
attempt fails for good, or the policy's retries are used up. Another attempt is made only after a
failed transport or a status that asks for one, and only for a safe method unless the call permits
more. A response may say itself how long to wait; otherwise the policy does.
-/
namespace ControlPlane

/-- The world that channels send into: an environment and a transport, which answers a request with a
response or with the reason why none arrived. -/
structure Wire (σ : Type) extends Environment σ where
  transport : Service σ Http.Request (Except String Http.Response)

abbrev Exchange (σ α : Type) := Run σ Http.Request Fault α

namespace Channel

variable {σ α : Type}

def judge (channel : Channel) : Except String Http.Response → Except Fault Http.Response
  | .error source => .error (.transport channel.peer.name source)
  | .ok response =>
    if response.isSuccess then .ok response
    else .error (.status channel.peer.name response.status response.text)

def askedWait (now : Int) : Except String Http.Response → Option Duration
  | .error _ => none
  | .ok response => response.retryAfter now

def mayRepeat (call : Call) : Bool := call.retryUnsafe || Http.isSafeMethod call.method

def waitAfter (wire : Wire σ) (policy : Retry.Policy) (attempt : Nat)
    (answer : Except String Http.Response) (s : σ) : Exchange σ Unit :=
  match askedWait (wire.now s) answer with
  | some delay => wire.pause .cancelled delay s
  | none => Retry.pause wire.toEnvironment .cancelled policy attempt s

def attempts (channel : Channel) (wire : Wire σ) (request : Http.Request) (repeatable : Bool) :
    (left attempt : Nat) → σ → Exchange σ Http.Response
  | left, attempt, s =>
    (wire.call .cancelled wire.transport request s).bind fun answer s =>
      match channel.judge answer with
      | .ok response => .done (.ok response) s
      | .error fault =>
        match left with
        | 0 => .done (.error fault) s
        | left + 1 =>
          if repeatable && fault.mayPass then
            (waitAfter wire channel.policy attempt answer s).bind fun _ s =>
              attempts channel wire request repeatable left (attempt + 1) s
          else .done (.error fault) s

def send (channel : Channel) (wire : Wire σ) (call : Call) (s : σ) : Exchange σ Http.Response :=
  attempts channel wire (channel.request call) (mayRepeat call) channel.policy.budget.toNat 0 s

def content (channel : Channel) (wire : Wire σ) (call : Call) (s : σ) : Exchange σ Content :=
  (channel.send wire call s).mapOutcome fun outcome =>
    outcome.bind fun response => channel.peer.unwrap response.body

def result (channel : Channel) (wire : Wire σ) (reader : Json.Reader α) (call : Call) (s : σ) :
    Exchange σ (Option α) :=
  (channel.content wire call s).mapOutcome fun outcome =>
    outcome.bind fun found => found.result.mapM (channel.decode reader)

end Channel

end ControlPlane
