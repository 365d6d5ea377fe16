import ControlPlane.Proofs.Defaults
import ControlPlane.Proofs.Sending
/-!
The loop of a channel and the loop of a retried operation agree. A channel reads the answers of its
transport itself, and a retried operation brings its reading with it; as long as no answer directs
the wait, both take the same steps through the same states and come to the same end, whatever the
token, the waits and the samples do.
-/
namespace ControlPlane

theorem Course.await_map {σ α β : Type} (f : α → β) (fired : σ → Bool) (course : Course σ α) :
    (course.map f).await fired = ((course.await fired).1.map f, (course.await fired).2) := by
  induction course with
  | returned answer s => rfl
  | pending s rest ih =>
    simp only [map, await]
    split
    · rfl
    · exact ih

namespace Loop

variable {σ ρ α ε β : Type}

def reading (l : Loop σ ρ α ε β) : Loop σ ρ (Except ε β) ε β :=
  Retry.loop l.env l.cancelled (fun s request => (l.service s request).map l.judge) l.ask l.again
    l.policy

/-- No answer to a call among the steps that leaves room for another attempt directs the wait. -/
def Undirected (l : Loop σ ρ α ε β) (steps : List (Step σ ρ)) : Prop :=
  ∀ s request answer t e, ⟨s, .call request⟩ ∈ steps →
    (l.service s request).await l.env.fired = (some answer, t) →
    l.judge answer = .error e → l.again e = true → l.directed t answer = none

theorem verdict_reading (l : Loop σ ρ α ε β) (left : Nat) (answer : α) :
    l.reading.verdict left (l.judge answer) = l.verdict left answer := rfl

theorem await_reading (l : Loop σ ρ α ε β) (s : σ) (request : ρ) :
    (l.reading.service s request).await l.reading.env.fired =
      (((l.service s request).await l.env.fired).1.map l.judge,
        ((l.service s request).await l.env.fired).2) :=
  Course.await_map l.judge l.env.fired (l.service s request)

theorem turns_reading (l : Loop σ ρ α ε β) {left attempt : Nat} {s t : σ} {answer : α}
    (unfired : l.env.fired s = false)
    (given : (l.service s (l.ask attempt)).await l.env.fired = (some answer, t)) :
    l.reading.turns left attempt s =
      (match l.verdict left answer with
        | some o => Run.done o t
        | none => (Retry.pause l.env l.cancelled l.policy attempt t).bind fun _ u =>
            l.reading.turns (left - 1) (attempt + 1) u).after [⟨s, .call (l.ask attempt)⟩] := by
  have read : (l.reading.service s (l.reading.ask attempt)).await l.reading.env.fired =
      (some (l.judge answer), t) := by
    refine (l.await_reading s (l.ask attempt)).trans ?_
    rw [given]
    rfl
  have still : l.reading.env.fired s = false := unfired
  rw [turns_eq, Environment.call, still, if_neg Bool.false_ne_true, read]
  dsimp only [Run.bind]
  rw [verdict_reading]
  rfl

/-- If no answer directs a wait, the loop is the retried operation that reads the answers. The
induction is on the retries that are left; the steps of later turns are among those of the run, so
what holds of the answers in the run holds of theirs. -/
theorem turns_eq_reading (l : Loop σ ρ α ε β) (left attempt : Nat) (s : σ)
    (undirected : l.Undirected (l.turns left attempt s).steps) :
    l.turns left attempt s = l.reading.turns left attempt s := by
  induction left using Nat.strongRecOn generalizing attempt s with
  | _ left ih =>
    have turn := l.turn left attempt s
    have policy_pause {answer : α} {t : σ}
        (given : (l.service s (l.ask attempt)).await l.env.fired = (some answer, t))
        (open_ : l.verdict left answer = none)
        (called : (⟨s, .call (l.ask attempt)⟩ : Step σ ρ) ∈ (l.turns left attempt s).steps) :
        l.pause attempt answer t = Retry.pause l.env l.cancelled l.policy attempt t := by
      obtain ⟨_, e, bad, again⟩ := (l.verdict_eq_none_iff left answer).mp open_
      rw [pause, undirected s _ answer t e called given bad again]
    generalize whole : l.turns left attempt s = r at turn undirected policy_pause
    cases turn with
    | barred fired =>
      have same : l.reading.env.fired s = true := fired
      rw [turns_eq, Environment.call, same, if_pos rfl]
      rfl
    | interrupted t unfired given =>
      have read : (l.reading.service s (l.reading.ask attempt)).await l.reading.env.fired =
          (none, t) := by
        refine (l.await_reading s (l.ask attempt)).trans ?_
        rw [given]
        rfl
      have same : l.reading.env.fired s = false := unfired
      rw [turns_eq, Environment.call, same, if_neg Bool.false_ne_true, read]
      rfl
    | settled answer t o unfired given final =>
      rw [l.turns_reading unfired given, final]
      rfl
    | refused answer t u v steps delay unfired given open_ drawn paused waited =>
      have pause_eq := policy_pause given open_ List.mem_cons_self
      rw [l.turns_reading unfired given, open_]
      dsimp only
      rw [← pause_eq, paused]
      rfl
    | repeated next answer t u v steps delay unfired given open_ left_eq drawn paused waited =>
      have pause_eq := policy_pause given open_ List.mem_cons_self
      have later : l.turns next (attempt + 1) v = l.reading.turns next (attempt + 1) v := by
        apply ih next (by omega)
        intro s' request answer' t' e member
        apply undirected s' request answer' t' e
        exact .tail _ (List.mem_append_right steps (.tail _ member))
      rw [l.turns_reading unfired given, open_]
      dsimp only
      rw [← pause_eq, paused, left_eq, Nat.add_sub_cancel, later]
      simp [Run.bind, Run.after]

end Loop

namespace Channel

variable {σ : Type}

/-- The operation that calls the transport once and takes a response of the 200 class for a success,
any other response for its status, and no response at all for a failure of the transport. -/
def attempt (channel : Channel) (wire : Wire σ) :
    Service σ Http.Request (Except Fault Http.Response) := fun s request =>
  (wire.transport s request).map fun answer =>
    match answer with
    | .error source => .error (.transport channel.peer.name source)
    | .ok response =>
      if 200 ≤ response.status ∧ response.status ≤ 299 then .ok response
      else .error (.status channel.peer.name response.status response.text)

/-- No response to a call among the steps says how long to wait if its status asks for another
try. -/
def NamesNoWait (wire : Wire σ) (steps : List (Step σ Http.Request)) : Prop :=
  ∀ s request response t, ⟨s, .call request⟩ ∈ steps →
    (wire.transport s request).await wire.fired = (some (.ok response), t) →
    asksForRetry response.status = true → response.retryAfter (wire.now t) = none

theorem attempt_eq (channel : Channel) (wire : Wire σ) :
    channel.attempt wire = fun s request => (wire.transport s request).map channel.judge := by
  funext s request
  unfold attempt
  congr 1
  funext answer
  cases answer with
  | error source => rfl
  | ok response => exact (channel.judge_response response).symm

theorem undirected_of_namesNoWait {channel : Channel} {wire : Wire σ} {request : Http.Request}
    {repeatable : Bool} {steps : List (Step σ Http.Request)} (silent : NamesNoWait wire steps) :
    (channel.loop wire request repeatable).Undirected steps := by
  intro s asked answer t fault member given bad again
  cases answer with
  | error source => rfl
  | ok response =>
    apply silent s asked response t member given
    have judged : channel.judge (.ok response) = .error fault := bad
    have passing : fault.mayPass = true := (Bool.and_eq_true_iff.mp again).2
    rw [judge_response] at judged
    split at judged
    · contradiction
    · cases judged
      exact passing

/-- Sending a call is running, under the channel's policy, the operation that makes one attempt,
with an error tried again if it may pass and the call may be repeated: both have the same requests,
waits and samples in the same order and the same outcome, and leave the world in the same state. -/
theorem send_eq_run (channel : Channel) (wire : Wire σ) (call : Call) (s : σ)
    (silent : NamesNoWait wire (channel.send wire call s).steps) :
    channel.send wire call s =
      Retry.run wire.toEnvironment .cancelled (channel.attempt wire) (fun _ => channel.request call)
        (fun fault => (call.retryUnsafe || Http.isSafeMethod call.method) && fault.mayPass)
        channel.policy s := by
  unfold send at silent ⊢
  rw [attempts_eq_turns] at silent ⊢
  rw [Loop.turns_eq_reading _ _ _ s (undirected_of_namesNoWait silent), Retry.run,
    Retry.attempts_filled, Retry.attempts_eq_turns, attempt_eq]
  rfl

def impatientWire : Wire (List Http.Request × Nat) :=
  { scriptedWire (fun h _ => worseningAnswers h.length) (fun _ => .nan) with
    wait := fun s _ => (decide (s.1.length < 2), s) }

theorem send_eq_run_impatient :
    let channel := sampleChannel plainPeer 5
    let call : Call := { path := "zones" }
    let run := Retry.run impatientWire.toEnvironment .cancelled (channel.attempt impatientWire)
      (fun _ => channel.request call)
      (fun fault => (call.retryUnsafe || Http.isSafeMethod call.method) && fault.mayPass)
      channel.policy ([], 0)
    channel.send impatientWire call ([], 0) = run ∧ run.outcome = .error .cancelled ∧
      run.calls.length = 2 ∧ run.waits = [Duration.ofSeconds 1, Duration.ofSeconds 2] := by
  intro channel call run
  have silent : NamesNoWait impatientWire (channel.send impatientWire call ([], 0)).steps := by
    intro s request response t _ given _
    have answered : worseningAnswers s.1.length = .ok response :=
      Option.some.inj (congrArg Prod.fst given)
    unfold worseningAnswers at answered
    split at answered <;> cases answered <;> rfl
  exact ⟨channel.send_eq_run impatientWire call ([], 0) silent, rfl, rfl, by decide +kernel⟩

end Channel

end ControlPlane
