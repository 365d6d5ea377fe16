import ControlPlane.Proofs.Attempts
import Mathlib.Order.Nat
/-!
Scripted worlds: the token never fires, every wait is finished, and a call is answered by what a
script says of the requests before it. The script may look at the request, so a server that keeps
its word is one. Nothing is assumed of the time that calls and waits take.
-/
namespace ControlPlane

/-- The world answers by the script. `past h n s` says of a state that the requests `h` have been
answered and `n` samples have been drawn. -/
structure Scripted {σ ρ α : Type} (env : Environment σ) (service : Service σ ρ α)
    (script : List ρ → ρ → α) (samples : Nat → Double) (past : List ρ → Nat → σ → Prop) : Prop where
  unfired {h : List ρ} {n : Nat} {s : σ} : past h n s → env.fired s = false
  answered {h : List ρ} {n : Nat} {s : σ} (request : ρ) : past h n s →
    ∃ t, (service s request).await env.fired = (some (script h request), t) ∧
      past (h ++ [request]) n t
  waited {h : List ρ} {n : Nat} {s : σ} (delay : Duration) : past h n s →
    ∃ t, env.wait s delay = (true, t) ∧ past h n t
  drawn {h : List ρ} {n : Nat} {s : σ} : past h n s →
    ∃ t, env.draw s = (samples n, t) ∧ past h (n + 1) t

theorem exists_first {p : Nat → Prop} {last : Nat} (ends : p last) :
    ∃ k, p k ∧ (∀ i < k, ¬ p i) ∧ k ≤ last := by
  classical
  have some_ : ∃ k, p k := ⟨last, ends⟩
  exact ⟨Nat.find some_, Nat.find_spec some_, fun _ less => Nat.find_min some_ less,
    Nat.find_min' some_ ends⟩

def replies {ρ α : Type} (script : List ρ → ρ → α) : (h requests : List ρ) → List α
  | _, [] => []
  | h, request :: rest => script h request :: replies script (h ++ [request]) rest

theorem replies_append {ρ α : Type} (script : List ρ → ρ → α) (h first second : List ρ) :
    replies script h (first ++ second) =
      replies script h first ++ replies script (h ++ first) second := by
  induction first generalizing h with
  | nil => simp [replies]
  | cons request rest ih => simp [replies, ih]

theorem replies_replicate {ρ α : Type} (script : List ρ → ρ → α) (h : List ρ) (request : ρ)
    (count : Nat) : replies script h (List.replicate count request) =
      (List.range count).map fun i => script (h ++ List.replicate i request) request := by
  induction count with
  | zero => rfl
  | succ count ih =>
    rw [List.replicate_succ', replies_append, ih, List.range_succ, List.map_append]
    rfl

def scriptedWire (script : List Http.Request → Http.Request → Except String Http.Response)
    (samples : Nat → Double) : Wire (List Http.Request × Nat) :=
  { fired := fun _ => false
    now := fun _ => 0
    wait := fun s _ => (true, s)
    draw := fun s => (samples s.2, (s.1, s.2 + 1))
    transport := fun s request => .returned (script s.1 request) (s.1 ++ [request], s.2) }

/-- Every script has a world that follows it. -/
theorem scriptedWire_scripted
    (script : List Http.Request → Http.Request → Except String Http.Response)
    (samples : Nat → Double) :
    Scripted (scriptedWire script samples).toEnvironment (scriptedWire script samples).transport
      script samples (fun h n s => s = (h, n)) where
  unfired _ := rfl
  answered request here := by
    subst here
    exact ⟨_, rfl, rfl⟩
  waited _ here := ⟨_, rfl, here⟩
  drawn here := by
    subst here
    exact ⟨_, rfl, rfl⟩

namespace Loop

variable {σ ρ α ε β : Type} {l : Loop σ ρ α ε β} {script : List ρ → ρ → α}
  {samples : Nat → Double} {past : List ρ → Nat → σ → Prop} {h : List ρ} {n : Nat} {s : σ}

theorem pause_scripted (world : Scripted l.env l.service script samples past) (attempt : Nat)
    (answer : α) (here : past h n s) :
    ∃ steps m t, l.pause attempt answer s = ⟨steps, .ok (), t⟩ ∧ callsOf steps = [] ∧
      past h m t := by
  obtain ⟨steps, t, delay, drawn, paused⟩ := l.pause_shape attempt answer s
  have reached : ∃ m, past h m t := by
    rcases drawn with ⟨_, rfl⟩ | ⟨_, rfl⟩
    · exact ⟨n, here⟩
    · obtain ⟨u, given, after⟩ := world.drawn here
      exact ⟨n + 1, by rw [given]; exact after⟩
  obtain ⟨m, there⟩ := reached
  obtain ⟨u, waited, after⟩ := world.waited delay there
  rw [waited] at paused
  exact ⟨steps ++ [⟨t, .wait delay⟩], m, u, paused, by simp [drawn.callsOf_eq], after⟩

theorem turns_settled (world : Scripted l.env l.service script samples past) {left attempt : Nat}
    {o : Except ε β} (here : past h n s)
    (final : l.verdict left (script h (l.ask attempt)) = some o) :
    ∃ t, l.turns left attempt s = ⟨[⟨s, .call (l.ask attempt)⟩], o, t⟩ ∧
      past (h ++ [l.ask attempt]) n t := by
  obtain ⟨t, given, after⟩ := world.answered (l.ask attempt) here
  refine ⟨t, ?_, after⟩
  rw [turns_eq, Environment.call, world.unfired here, if_neg Bool.false_ne_true, given]
  simp [Run.bind, Run.after, Run.done, final]

theorem turns_open (world : Scripted l.env l.service script samples past) {left attempt : Nat}
    (here : past h n s) (open_ : l.verdict left (script h (l.ask attempt)) = none) :
    ∃ steps m t, l.turns left attempt s =
        (l.turns (left - 1) (attempt + 1) t).after (⟨s, .call (l.ask attempt)⟩ :: steps) ∧
      callsOf steps = [] ∧ past (h ++ [l.ask attempt]) m t := by
  obtain ⟨t, given, answered⟩ := world.answered (l.ask attempt) here
  obtain ⟨steps, m, u, paused, quiet, after⟩ :=
    pause_scripted world attempt (script h (l.ask attempt)) answered
  refine ⟨steps, m, u, ?_, quiet, after⟩
  rw [turns_eq, Environment.call, world.unfired here, if_neg Bool.false_ne_true, given]
  simp [Run.bind, Run.after, open_, paused]

/-- In a scripted world the loop asks until the script settles it: if the first `k` answers leave it
open and the next one settles it, then it asks `k + 1` times and ends as that last answer says. -/
theorem turns_scripted (world : Scripted l.env l.service script samples past) {k left attempt : Nat}
    {o : Except ε β} (here : past h n s)
    (open_ : ∀ i < k,
      l.verdict (left - i) (script (h ++ l.asked attempt i) (l.ask (attempt + i))) = none)
    (final : l.verdict (left - k) (script (h ++ l.asked attempt k) (l.ask (attempt + k))) = some o) :
    callsOf (l.turns left attempt s).steps = l.asked attempt (k + 1) ∧
      (l.turns left attempt s).outcome = o ∧
      ∃ m, past (h ++ l.asked attempt (k + 1)) m (l.turns left attempt s).final := by
  induction k generalizing left attempt h n s with
  | zero =>
    obtain ⟨t, run, after⟩ := turns_settled world here (by simpa [asked] using final)
    rw [run]
    exact ⟨rfl, rfl, n, after⟩
  | succ k ih =>
    have first : l.verdict left (script h (l.ask attempt)) = none := by
      simpa [asked] using open_ 0 (Nat.succ_pos k)
    obtain ⟨steps, m, t, run, quiet, after⟩ := turns_open world here first
    have shift (i : Nat) : attempt + (i + 1) = attempt + 1 + i := by omega
    have later (i : Nat) : left - (i + 1) = left - 1 - i := by omega
    have rest_open : ∀ i < k, l.verdict (left - 1 - i)
        (script (h ++ [l.ask attempt] ++ l.asked (attempt + 1) i) (l.ask (attempt + 1 + i))) =
          none := by
      intro i less
      have next := open_ (i + 1) (by omega)
      rw [later, shift, asked_succ, List.append_cons] at next
      exact next
    rw [later, shift, asked_succ, List.append_cons] at final
    obtain ⟨calls, outcome, m', ended⟩ := ih after rest_open final
    rw [run]
    refine ⟨?_, outcome, m', ?_⟩
    · simp [quiet, calls, asked_succ l attempt (k + 1)]
    · rw [asked_succ l attempt (k + 1), List.append_cons]
      exact ended

end Loop

end ControlPlane
