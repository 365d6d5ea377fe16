import ControlPlane.Run
/-!
Laws of runs and of their steps: the requests and the waits among the steps, and what a run is made
of when one operation follows another.
-/
namespace ControlPlane

variable {σ ρ ε α β : Type}

def callsOf (steps : List (Step σ ρ)) : List ρ :=
  steps.filterMap fun step => match step.ask with
    | .call request => some request
    | _ => none

@[simp] theorem callsOf_nil : callsOf ([] : List (Step σ ρ)) = [] := rfl

@[simp] theorem callsOf_call (s : σ) (request : ρ) (steps : List (Step σ ρ)) :
    callsOf (⟨s, .call request⟩ :: steps) = request :: callsOf steps := rfl

@[simp] theorem callsOf_wait (s : σ) (delay : Duration) (steps : List (Step σ ρ)) :
    callsOf (⟨s, .wait delay⟩ :: steps) = callsOf steps := rfl

@[simp] theorem callsOf_draw (s : σ) (steps : List (Step σ ρ)) :
    callsOf (⟨s, .draw⟩ :: steps) = callsOf steps := rfl

@[simp] theorem callsOf_append (before after : List (Step σ ρ)) :
    callsOf (before ++ after) = callsOf before ++ callsOf after :=
  List.filterMap_append

theorem callsOf_flatMap {κ : Type} (legs : List κ) (f : κ → List (Step σ ρ)) :
    callsOf (legs.flatMap f) = legs.flatMap fun leg => callsOf (f leg) := by
  induction legs with
  | nil => rfl
  | cons leg legs ih => simp only [List.flatMap_cons, callsOf_append, ih]

def waitsOf (steps : List (Step σ ρ)) : List Duration :=
  steps.filterMap fun step => match step.ask with
    | .wait delay => some delay
    | _ => none

@[simp] theorem waitsOf_nil : waitsOf ([] : List (Step σ ρ)) = [] := rfl

@[simp] theorem waitsOf_call (s : σ) (request : ρ) (steps : List (Step σ ρ)) :
    waitsOf (⟨s, .call request⟩ :: steps) = waitsOf steps := rfl

@[simp] theorem waitsOf_wait (s : σ) (delay : Duration) (steps : List (Step σ ρ)) :
    waitsOf (⟨s, .wait delay⟩ :: steps) = delay :: waitsOf steps := rfl

@[simp] theorem waitsOf_draw (s : σ) (steps : List (Step σ ρ)) :
    waitsOf (⟨s, .draw⟩ :: steps) = waitsOf steps := rfl

@[simp] theorem waitsOf_append (before after : List (Step σ ρ)) :
    waitsOf (before ++ after) = waitsOf before ++ waitsOf after :=
  List.filterMap_append

def drawsOf (steps : List (Step σ ρ)) : Nat :=
  steps.countP fun step => match step.ask with
    | .draw => true
    | _ => false

@[simp] theorem drawsOf_append (before after : List (Step σ ρ)) :
    drawsOf (before ++ after) = drawsOf before + drawsOf after :=
  List.countP_append

namespace Run

theorem calls_eq (r : Run σ ρ ε α) : r.calls = callsOf r.steps := rfl

theorem waits_eq (r : Run σ ρ ε α) : r.waits = waitsOf r.steps := rfl

theorem draws_eq (r : Run σ ρ ε α) : r.draws = drawsOf r.steps := rfl

theorem bind_of_ok {r : Run σ ρ ε α} {a : α} (ended : r.outcome = .ok a)
    (next : α → σ → Run σ ρ ε β) : r.bind next = (next a r.final).after r.steps := by
  simp only [bind, ended]

theorem bind_of_error {r : Run σ ρ ε α} {e : ε} (ended : r.outcome = .error e)
    (next : α → σ → Run σ ρ ε β) : r.bind next = ⟨r.steps, .error e, r.final⟩ := by
  simp only [bind, ended]

@[simp] theorem steps_after (steps : List (Step σ ρ)) (r : Run σ ρ ε α) :
    (r.after steps).steps = steps ++ r.steps := rfl

@[simp] theorem outcome_after (steps : List (Step σ ρ)) (r : Run σ ρ ε α) :
    (r.after steps).outcome = r.outcome := rfl

theorem bind_eq_mapOutcome {next : α → σ → Run σ ρ ε β} {f : α → Except ε β}
    (still : ∀ a s, next a s = done (f a) s) (r : Run σ ρ ε α) :
    r.bind next = r.mapOutcome fun outcome => outcome.bind f := by
  obtain ⟨steps, outcome, final⟩ := r
  cases outcome with
  | error e => rfl
  | ok a => simp [bind, after, done, mapOutcome, Except.bind, still]

@[simp] theorem steps_mapOutcome (f : Except ε α → Except ε β) (r : Run σ ρ ε α) :
    (r.mapOutcome f).steps = r.steps := rfl

@[simp] theorem outcome_mapOutcome (f : Except ε α → Except ε β) (r : Run σ ρ ε α) :
    (r.mapOutcome f).outcome = f r.outcome := rfl

@[simp] theorem steps_done (outcome : Except ε α) (s : σ) :
    (done outcome s : Run σ ρ ε α).steps = [] := rfl

@[simp] theorem outcome_done (outcome : Except ε α) (s : σ) :
    (done outcome s : Run σ ρ ε α).outcome = outcome := rfl

end Run

end ControlPlane
