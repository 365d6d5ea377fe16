import ControlPlane.Duration
/-!
Runs: what an operation asks of the world, step by step, how it ends, and the world it leaves. An
operation is a function from a state of the world to a run; `Run.bind` lets one run follow another,
and a run that ends in an error is followed by nothing. A call either returns its answer or is
pending at some moments first. A caller who waits for it looks at a token at every such moment,
before it looks at the call: once the token has fired the caller gives up and the rest of the course
never happens. A call that returns without being pending is taken even if the token fired meanwhile.
-/
namespace ControlPlane

/-- How a call goes on: at each moment the state of the world is `state`. -/
inductive Course (σ α : Type) where
  | returned (answer : α) (state : σ)
  | pending (state : σ) (rest : Course σ α)

abbrev Service (σ ρ α : Type) := σ → ρ → Course σ α

/-- Waits for a call until it returns or the token is seen to have fired; `none` means the latter. -/
def Course.await {σ α : Type} (fired : σ → Bool) : Course σ α → Option α × σ
  | .returned answer state => (some answer, state)
  | .pending state rest => if fired state then (none, state) else rest.await fired

def Course.map {σ α β : Type} (f : α → β) : Course σ α → Course σ β
  | .returned answer state => .returned (f answer) state
  | .pending state rest => .pending state (rest.map f)

/-- A wait that runs a timer and gives up when the token fires. No time at all is waited without a
look at the token. -/
def timedWait {σ : Type} (fired : σ → Bool) (timer : σ → Duration → Course σ Unit)
    (s : σ) (d : Duration) : Bool × σ :=
  if d.isZero then (true, s)
  else if fired s then (false, s)
  else
    let (finished, s) := (timer s d).await fired
    (finished.isSome, s)

inductive Ask (ρ : Type) where
  | call (request : ρ)
  | wait (delay : Duration)
  | draw

structure Step (σ ρ : Type) where
  state : σ
  ask : Ask ρ

structure Run (σ ρ ε α : Type) where
  steps : List (Step σ ρ)
  outcome : Except ε α
  final : σ

namespace Run

variable {σ ρ ε α β : Type}

def done (outcome : Except ε α) (s : σ) : Run σ ρ ε α := ⟨[], outcome, s⟩

def after (steps : List (Step σ ρ)) (r : Run σ ρ ε α) : Run σ ρ ε α :=
  { r with steps := steps ++ r.steps }

def bind (r : Run σ ρ ε α) (next : α → σ → Run σ ρ ε β) : Run σ ρ ε β :=
  match r.outcome with
  | .ok a => (next a r.final).after r.steps
  | .error e => ⟨r.steps, .error e, r.final⟩

def mapOutcome (f : Except ε α → Except ε β) (r : Run σ ρ ε α) : Run σ ρ ε β :=
  ⟨r.steps, f r.outcome, r.final⟩

def calls (r : Run σ ρ ε α) : List ρ :=
  r.steps.filterMap fun step => match step.ask with
    | .call request => some request
    | _ => none

def waits (r : Run σ ρ ε α) : List Duration :=
  r.steps.filterMap fun step => match step.ask with
    | .wait delay => some delay
    | _ => none

def draws (r : Run σ ρ ε α) : Nat :=
  r.steps.countP fun step => match step.ask with
    | .draw => true
    | _ => false

@[simp] theorem calls_done (outcome : Except ε α) (s : σ) :
    (done outcome s : Run σ ρ ε α).calls = [] := rfl

@[simp] theorem waits_done (outcome : Except ε α) (s : σ) :
    (done outcome s : Run σ ρ ε α).waits = [] := rfl

@[simp] theorem draws_done (outcome : Except ε α) (s : σ) :
    (done outcome s : Run σ ρ ε α).draws = 0 := rfl

@[simp] theorem bind_done_ok (a : α) (s : σ) (next : α → σ → Run σ ρ ε β) :
    (done (.ok a) s).bind next = next a s := by
  simp [bind, done, after]

@[simp] theorem bind_done_error (e : ε) (s : σ) (next : α → σ → Run σ ρ ε β) :
    (done (.error e) s : Run σ ρ ε α).bind next = done (.error e) s := rfl

theorem steps_bind (r : Run σ ρ ε α) (next : α → σ → Run σ ρ ε β) :
    (r.bind next).steps =
      r.steps ++ (match r.outcome with
        | .ok a => (next a r.final).steps
        | .error _ => []) := by
  unfold bind
  cases r.outcome <;> simp [after]

end Run

/-- What a run depends on besides the service it calls: whether the token has fired, the time in
nanoseconds since 1970, a way to wait that says whether the wait was finished, and a source of
samples. -/
structure Environment (σ : Type) where
  fired : σ → Bool
  now : σ → Int
  wait : σ → Duration → Bool × σ
  draw : σ → Double × σ

namespace Environment

variable {σ ρ ε α : Type}

/-- Calls the service, unless the token has fired already. A token seen to fire before the service
has answered ends the run. -/
def call (env : Environment σ) (cancelled : ε) (service : Service σ ρ α) (request : ρ) (s : σ) :
    Run σ ρ ε α :=
  if env.fired s then .done (.error cancelled) s
  else
    match (service s request).await env.fired with
    | (some answer, t) => ⟨[⟨s, .call request⟩], .ok answer, t⟩
    | (none, t) => ⟨[⟨s, .call request⟩], .error cancelled, t⟩

def pause (env : Environment σ) (cancelled : ε) (delay : Duration) (s : σ) : Run σ ρ ε Unit :=
  match env.wait s delay with
  | (true, t) => ⟨[⟨s, .wait delay⟩], .ok (), t⟩
  | (false, t) => ⟨[⟨s, .wait delay⟩], .error cancelled, t⟩

def sample (env : Environment σ) (wanted : Bool) (s : σ) : Run σ ρ ε Double :=
  if wanted then ⟨[⟨s, .draw⟩], .ok (env.draw s).1, (env.draw s).2⟩
  else .done (.ok (.finite false 0)) s

end Environment

end ControlPlane
