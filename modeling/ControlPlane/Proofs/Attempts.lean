import ControlPlane.Channel.Send
import ControlPlane.Proofs.Steps
/-!
Loops of attempts. The loop of a retried operation and the loop of a channel are written apart; both
are the loop of this module, with their own way to read an answer and to choose a wait. What one
turn of the loop can do is said once, in `Loop.Turn`; statements about whole runs follow by
induction on the retries that are left.
-/
namespace ControlPlane

/-- What a loop of attempts is made of: whom it asks and what, how it reads an answer, which errors
it tries again after, and how long it waits before it does. -/
structure Loop (σ ρ α ε β : Type) where
  env : Environment σ
  cancelled : ε
  service : Service σ ρ α
  ask : Nat → ρ
  judge : α → Except ε β
  again : ε → Bool
  directed : σ → α → Option Duration
  policy : Retry.Policy

namespace Loop

variable {σ ρ α ε β : Type}

def pause (l : Loop σ ρ α ε β) (attempt : Nat) (answer : α) (s : σ) : Run σ ρ ε Unit :=
  match l.directed s answer with
  | some delay => l.env.pause l.cancelled delay s
  | none => Retry.pause l.env l.cancelled l.policy attempt s

def turns (l : Loop σ ρ α ε β) : (left attempt : Nat) → σ → Run σ ρ ε β
  | left, attempt, s =>
    (l.env.call l.cancelled l.service (l.ask attempt) s).bind fun answer s =>
      match l.judge answer with
      | .ok b => .done (.ok b) s
      | .error e =>
        match left with
        | 0 => .done (.error e) s
        | left + 1 =>
          if l.again e then
            (l.pause attempt answer s).bind fun _ s => turns l left (attempt + 1) s
          else .done (.error e) s

/-- What an answer settles with `left` retries to spend; `none` asks for another attempt. -/
def verdict (l : Loop σ ρ α ε β) (left : Nat) (answer : α) : Option (Except ε β) :=
  match l.judge answer with
  | .ok b => some (.ok b)
  | .error e => if left ≠ 0 ∧ l.again e = true then none else some (.error e)

theorem verdict_of_ok {l : Loop σ ρ α ε β} {answer : α} {b : β} (good : l.judge answer = .ok b)
    (left : Nat) : l.verdict left answer = some (.ok b) := by
  simp only [verdict, good]

theorem verdict_of_error {l : Loop σ ρ α ε β} {answer : α} {e : ε}
    (bad : l.judge answer = .error e) (left : Nat) :
    l.verdict left answer = if left ≠ 0 ∧ l.again e = true then none else some (.error e) := by
  simp only [verdict, bad]

theorem verdict_eq_none_iff (l : Loop σ ρ α ε β) (left : Nat) (answer : α) :
    l.verdict left answer = none ↔
      left ≠ 0 ∧ ∃ e, l.judge answer = .error e ∧ l.again e = true := by
  cases judged : l.judge answer with
  | ok b => simp [verdict_of_ok judged]
  | error e => simp [verdict_of_error judged]

theorem verdict_zero (l : Loop σ ρ α ε β) (answer : α) :
    l.verdict 0 answer = some (l.judge answer) := by
  unfold verdict
  cases l.judge answer <;> simp

theorem eq_judge_of_verdict {l : Loop σ ρ α ε β} {left : Nat} {answer : α} {o : Except ε β}
    (settled : l.verdict left answer = some o) : o = l.judge answer := by
  unfold verdict at settled
  split at settled
  · rename_i b good
    rw [good]
    exact (Option.some.inj settled).symm
  · rename_i e bad
    split at settled
    · contradiction
    · rw [bad]
      exact (Option.some.inj settled).symm

theorem verdict_of_settled {l : Loop σ ρ α ε β} {left : Nat} {answer : α}
    (settled : l.verdict left answer ≠ none) : l.verdict left answer = some (l.judge answer) := by
  obtain ⟨o, final⟩ := Option.ne_none_iff_exists'.mp settled
  rw [final, eq_judge_of_verdict final]

def Draws (env : Environment σ) (t : σ) (steps : List (Step σ ρ)) (u : σ) : Prop :=
  (steps = [] ∧ u = t) ∨ (steps = [⟨t, .draw⟩] ∧ u = (env.draw t).2)

theorem Draws.callsOf_eq {env : Environment σ} {t u : σ} {steps : List (Step σ ρ)}
    (drawn : Draws env t steps u) : callsOf steps = [] := by
  rcases drawn with ⟨rfl, _⟩ | ⟨rfl, _⟩ <;> rfl

theorem pause_eq (env : Environment σ) (cancelled : ε) (delay : Duration) (s : σ) :
    (env.pause cancelled delay s : Run σ ρ ε Unit) =
      ⟨[⟨s, .wait delay⟩], if (env.wait s delay).1 then .ok () else .error cancelled,
        (env.wait s delay).2⟩ := by
  unfold Environment.pause
  rcases env.wait s delay with ⟨finished, t⟩
  cases finished <;> rfl

theorem pause_shape (l : Loop σ ρ α ε β) (attempt : Nat) (answer : α) (s : σ) :
    ∃ steps t delay, Draws l.env s steps t ∧ l.pause attempt answer s =
      ⟨steps ++ [⟨t, .wait delay⟩],
        if (l.env.wait t delay).1 then .ok () else .error l.cancelled, (l.env.wait t delay).2⟩ := by
  unfold pause
  split
  · rename_i delay _
    exact ⟨[], s, delay, .inl ⟨rfl, rfl⟩, pause_eq l.env l.cancelled delay s⟩
  · unfold Retry.pause Environment.sample
    split
    · refine ⟨[⟨s, .draw⟩], (l.env.draw s).2, l.policy.delay attempt (l.env.draw s).1,
        .inr ⟨rfl, rfl⟩, ?_⟩
      simp only [Run.bind, Run.after, pause_eq]
    · refine ⟨[], s, l.policy.delay attempt (.finite false 0), .inl ⟨rfl, rfl⟩, ?_⟩
      simp only [Run.bind_done_ok, pause_eq, List.nil_append]

/-- What a turn of the loop can do. It is barred by a token that has fired, it is given up during
the call or the wait, the answer settles it, or it leads to the next turn. -/
inductive Turn (l : Loop σ ρ α ε β) (left attempt : Nat) (s : σ) : Run σ ρ ε β → Prop where
  | barred (fired : l.env.fired s = true) : Turn l left attempt s (.done (.error l.cancelled) s)
  | interrupted (t : σ) (unfired : l.env.fired s = false)
      (given : (l.service s (l.ask attempt)).await l.env.fired = (none, t)) :
      Turn l left attempt s ⟨[⟨s, .call (l.ask attempt)⟩], .error l.cancelled, t⟩
  | settled (answer : α) (t : σ) (o : Except ε β) (unfired : l.env.fired s = false)
      (given : (l.service s (l.ask attempt)).await l.env.fired = (some answer, t))
      (final : l.verdict left answer = some o) :
      Turn l left attempt s ⟨[⟨s, .call (l.ask attempt)⟩], o, t⟩
  | refused (answer : α) (t u v : σ) (steps : List (Step σ ρ)) (delay : Duration)
      (unfired : l.env.fired s = false)
      (given : (l.service s (l.ask attempt)).await l.env.fired = (some answer, t))
      (open_ : l.verdict left answer = none) (drawn : Draws l.env t steps u)
      (paused : l.pause attempt answer t = ⟨steps ++ [⟨u, .wait delay⟩], .error l.cancelled, v⟩)
      (waited : l.env.wait u delay = (false, v)) :
      Turn l left attempt s
        ⟨⟨s, .call (l.ask attempt)⟩ :: (steps ++ [⟨u, .wait delay⟩]), .error l.cancelled, v⟩
  | repeated (next : Nat) (answer : α) (t u v : σ) (steps : List (Step σ ρ)) (delay : Duration)
      (unfired : l.env.fired s = false)
      (given : (l.service s (l.ask attempt)).await l.env.fired = (some answer, t))
      (open_ : l.verdict left answer = none) (left_eq : left = next + 1)
      (drawn : Draws l.env t steps u)
      (paused : l.pause attempt answer t = ⟨steps ++ [⟨u, .wait delay⟩], .ok (), v⟩)
      (waited : l.env.wait u delay = (true, v)) :
      Turn l left attempt s
        ⟨⟨s, .call (l.ask attempt)⟩ ::
          (steps ++ ⟨u, .wait delay⟩ :: (l.turns next (attempt + 1) v).steps),
          (l.turns next (attempt + 1) v).outcome, (l.turns next (attempt + 1) v).final⟩

theorem turns_eq (l : Loop σ ρ α ε β) (left attempt : Nat) (s : σ) :
    l.turns left attempt s =
      (l.env.call l.cancelled l.service (l.ask attempt) s).bind fun answer t =>
        match l.verdict left answer with
        | some o => .done o t
        | none => (l.pause attempt answer t).bind fun _ u => l.turns (left - 1) (attempt + 1) u := by
  rw [turns]
  congr 1
  funext answer t
  unfold verdict
  cases l.judge answer with
  | ok b => rfl
  | error e =>
    cases left with
    | zero => rfl
    | succ next =>
      cases again : l.again e <;> simp [again]

theorem left_of_verdict {l : Loop σ ρ α ε β} {left : Nat} {answer : α}
    (open_ : l.verdict left answer = none) : ∃ next, left = next + 1 := by
  cases left with
  | zero =>
    rw [verdict_zero] at open_
    contradiction
  | succ next => exact ⟨next, rfl⟩

theorem turn (l : Loop σ ρ α ε β) (left attempt : Nat) (s : σ) :
    l.Turn left attempt s (l.turns left attempt s) := by
  rw [turns_eq, Environment.call]
  cases fired : l.env.fired s with
  | true =>
    simp only [if_true, Run.bind_done_error]
    exact .barred fired
  | false =>
    rw [if_neg Bool.false_ne_true]
    rcases given : (l.service s (l.ask attempt)).await l.env.fired with ⟨_ | answer, t⟩
    · exact .interrupted t fired given
    · dsimp only [Run.bind]
      cases final : l.verdict left answer with
      | some o => exact .settled answer t o fired given final
      | none =>
        obtain ⟨next, rfl⟩ := left_of_verdict final
        obtain ⟨steps, u, delay, drawn, paused⟩ := l.pause_shape attempt answer t
        rcases waited : l.env.wait u delay with ⟨_ | _, v⟩
        · rw [waited] at paused
          simp only [paused, Bool.false_eq_true, if_false]
          exact .refused answer t u v steps delay fired given final drawn paused waited
        · rw [waited] at paused
          simp only [paused, if_true, Run.after, Nat.add_sub_cancel, List.append_assoc,
            List.singleton_append]
          exact .repeated next answer t u v steps delay fired given final rfl drawn paused waited

def asked (l : Loop σ ρ α ε β) (attempt count : Nat) : List ρ :=
  (List.range count).map fun i => l.ask (attempt + i)

theorem asked_succ (l : Loop σ ρ α ε β) (attempt count : Nat) :
    l.asked attempt (count + 1) = l.ask attempt :: l.asked (attempt + 1) count := by
  unfold asked
  rw [List.range_succ_eq_map, List.map_cons, List.map_map]
  congr 1
  apply List.map_congr_left
  intro i _
  simp only [Function.comp_apply]
  congr 1
  omega

theorem asked_const {l : Loop σ ρ α ε β} {request : ρ} (same : ∀ i, l.ask i = request)
    (attempt count : Nat) : l.asked attempt count = List.replicate count request := by
  unfold asked
  simp only [same, List.map_const', List.length_range]

/-- The loop asks its questions in their order, and at most one more than it has retries. -/
theorem calls_turns (l : Loop σ ρ α ε β) (left attempt : Nat) (s : σ) :
    ∃ count, count ≤ left + 1 ∧
      callsOf (l.turns left attempt s).steps = l.asked attempt count := by
  induction left using Nat.strongRecOn generalizing attempt s with
  | _ left ih =>
    have turn := l.turn left attempt s
    have one : l.asked attempt 1 = [l.ask attempt] := by simp [asked]
    generalize l.turns left attempt s = r at turn
    cases turn with
    | barred fired => exact ⟨0, by omega, rfl⟩
    | interrupted t unfired given => exact ⟨1, by omega, one.symm⟩
    | settled answer t o unfired given final => exact ⟨1, by omega, one.symm⟩
    | refused answer t u v steps delay unfired given open_ drawn paused waited =>
      refine ⟨1, by omega, ?_⟩
      simp [drawn.callsOf_eq, one]
    | repeated next answer t u v steps delay unfired given open_ left_eq drawn paused waited =>
      obtain ⟨count, bound, calls⟩ := ih next (by omega) (attempt + 1) v
      refine ⟨count + 1, by omega, ?_⟩
      simp [drawn.callsOf_eq, calls, asked_succ l attempt count]

theorem ask_mem_calls (l : Loop σ ρ α ε β) {left attempt : Nat} {s : σ}
    (unfired : l.env.fired s = false) : l.ask attempt ∈ callsOf (l.turns left attempt s).steps := by
  have turn := l.turn left attempt s
  generalize l.turns left attempt s = r at turn
  cases turn with
  | barred fired =>
    rw [fired] at unfired
    contradiction
  | interrupted t _ given => exact List.mem_cons_self
  | settled answer t o _ given final => exact List.mem_cons_self
  | refused answer t u v steps delay _ given open_ drawn paused waited =>
    exact List.mem_cons_self
  | repeated next answer t u v steps delay _ given open_ left_eq drawn paused waited =>
    exact List.mem_cons_self

end Loop

def Retry.loop {σ ρ ε α : Type} (env : Environment σ) (cancelled : ε)
    (service : Service σ ρ (Except ε α)) (ask : Nat → ρ) (retryable : ε → Bool)
    (policy : Retry.Policy) : Loop σ ρ (Except ε α) ε α :=
  { env, cancelled, service, ask, policy
    judge := id
    again := retryable
    directed := fun _ _ => none }

theorem Retry.attempts_eq_turns {σ ρ ε α : Type} (env : Environment σ) (cancelled : ε)
    (service : Service σ ρ (Except ε α)) (ask : Nat → ρ) (retryable : ε → Bool)
    (policy : Retry.Policy) (left attempt : Nat) (s : σ) :
    Retry.attempts env cancelled service ask retryable policy left attempt s =
      (Retry.loop env cancelled service ask retryable policy).turns left attempt s := by
  induction left generalizing attempt s with
  | zero =>
    rw [Retry.attempts, Loop.turns]
    congr 1
    funext answer t
    cases answer <;> rfl
  | succ left ih =>
    rw [Retry.attempts, Loop.turns]
    congr 1
    funext answer t
    cases answer with
    | ok a => rfl
    | error e =>
      simp only [ih]
      rfl

def Channel.loop {σ : Type} (channel : Channel) (wire : Wire σ) (request : Http.Request)
    (repeatable : Bool) :
    Loop σ Http.Request (Except String Http.Response) Fault Http.Response :=
  { env := wire.toEnvironment
    cancelled := .cancelled
    service := wire.transport
    ask := fun _ => request
    judge := channel.judge
    again := fun fault => repeatable && fault.mayPass
    directed := fun s answer => askedWait (wire.now s) answer
    policy := channel.policy }

theorem Channel.waitAfter_eq_pause {σ : Type} (channel : Channel) (wire : Wire σ)
    (request : Http.Request) (repeatable : Bool) (attempt : Nat)
    (answer : Except String Http.Response) (s : σ) :
    waitAfter wire channel.policy attempt answer s =
      (channel.loop wire request repeatable).pause attempt answer s := rfl

theorem Channel.attempts_eq_turns {σ : Type} (channel : Channel) (wire : Wire σ)
    (request : Http.Request) (repeatable : Bool) (left attempt : Nat) (s : σ) :
    channel.attempts wire request repeatable left attempt s =
      (channel.loop wire request repeatable).turns left attempt s := by
  have judge_eq : (channel.loop wire request repeatable).judge = channel.judge := rfl
  induction left generalizing attempt s with
  | zero =>
    rw [Channel.attempts, Loop.turns, judge_eq]
    congr 1
    funext answer t
    cases channel.judge answer <;> rfl
  | succ left ih =>
    rw [Channel.attempts, Loop.turns, judge_eq]
    congr 1
    funext answer t
    simp only [ih, waitAfter_eq_pause channel wire request repeatable]
    cases channel.judge answer <;> rfl

theorem Channel.calls_send {σ : Type} (channel : Channel) (wire : Wire σ) (call : Call) (s : σ) :
    ∃ count, count ≤ channel.policy.budget.toNat + 1 ∧
      callsOf (channel.send wire call s).steps =
        List.replicate count (channel.request call) := by
  obtain ⟨count, bound, calls⟩ :=
    (channel.loop wire (channel.request call) (mayRepeat call)).calls_turns
      channel.policy.budget.toNat 0 s
  refine ⟨count, bound, ?_⟩
  unfold send
  rw [attempts_eq_turns, calls]
  exact Loop.asked_const (fun _ => rfl) 0 count

theorem Channel.mem_calls_send {σ : Type} {channel : Channel} {wire : Wire σ} {call : Call} {s : σ}
    {request : Http.Request} (member : request ∈ (channel.send wire call s).calls) :
    request = channel.request call := by
  obtain ⟨count, _, calls⟩ := channel.calls_send wire call s
  rw [Run.calls_eq, calls] at member
  exact List.eq_of_mem_replicate member

theorem Channel.request_mem_calls {σ : Type} (channel : Channel) (wire : Wire σ) (call : Call)
    {s : σ} (unfired : wire.fired s = false) :
    channel.request call ∈ (channel.send wire call s).calls := by
  rw [Run.calls_eq, send, attempts_eq_turns]
  exact (channel.loop wire (channel.request call) (mayRepeat call)).ask_mem_calls unfired

end ControlPlane
