import ControlPlane.Proofs.Progress
/-!
What a token demands of a walk over pages, at whatever moment it fires. Each page is fetched by
sending a call, which heeds the token by itself; here the pages are tied together. A page that ends
in a fault ends the walk with it, and a page that ends the walk gives its items even if the token
has fired by then.
-/
namespace ControlPlane

namespace Channel

variable {σ α : Type}

def Leg.Decides (channel : Channel) (wire : Wire σ) (call : Call)
    (earlier : List (Step σ Http.Request)) (step : Step σ Http.Request)
    (outcome : Except Fault Http.Response) : Prop :=
  ControlPlane.Decides wire.toEnvironment .cancelled wire.transport (channel.settles call)
    (callsOf earlier).length step outcome

/-- What a token demands of a walk that follows a query. -/
structure WalkHeeds (channel : Channel) (wire : Wire σ) (reader : Json.Reader α) (call : Call)
    (s : σ) (walk : Exchange σ (List α)) (legs : List (Leg σ)) : Prop where
  first : ∃ rest, legs = ⟨startPage call.query, call.query, s⟩ :: rest
  chained : legs.IsChain fun earlier later =>
    later.start = (earlier.fetched channel wire call).final
  steps : walk.steps = legs.flatMap fun leg => (leg.fetched channel wire call).steps
  unfired : Unfired wire.toEnvironment walk.steps
  heeds : ∀ leg ∈ legs,
    Heeds wire.toEnvironment .cancelled wire.transport (channel.settles call) 0 leg.start
      (channel.send wire { call with query := leg.query } leg.start)
  barred : ∀ before leg after, legs = before ++ leg :: after → wire.fired leg.start = true →
    after = [] ∧ (leg.fetched channel wire call).steps = [] ∧ walk.outcome = .error .cancelled
  /-- A fault that is decided on any page is the last thing that happens, and the outcome. -/
  obeyed : ∀ before leg after earlier step later fault, legs = before ++ leg :: after →
    (leg.fetched channel wire call).steps = earlier ++ step :: later →
    Leg.Decides channel wire call earlier step (.error fault) →
    later = [] ∧ after = [] ∧ walk.outcome = .error fault
  /-- An answer that asks for another call does not get it once the token has fired, neither for its
  page nor for another one. -/
  doomed : Lasting wire.toEnvironment → ∀ before leg after, legs = before ++ leg :: after →
    AtEach (fun made step later =>
      ∀ s request answer t, step = ⟨s, .call request⟩ →
        (wire.transport s request).await wire.fired = (some answer, t) →
        channel.settles call made answer = none → wire.fired t = true →
        callsOf later = [] ∧ after = [] ∧ walk.outcome = .error .cancelled)
      0 (leg.fetched channel wire call).steps
  answered : ∀ leg ∈ legs, ∀ earlier step later response,
    (leg.fetched channel wire call).steps = earlier ++ step :: later →
    Leg.Decides channel wire call earlier step (.ok response) →
    later = [] ∧ (leg.fetched channel wire call).outcome = channel.peer.unwrap response.body
  ended : ∀ before leg after, legs = before ++ leg :: after →
    leg.next? channel wire reader call = none →
    after = [] ∧ ∃ batches, List.Forall₂
        (fun leg batch => leg.items channel wire reader call = .ok batch) before batches ∧
      walk.outcome = (leg.items channel wire reader call).map (batches.flatten ++ ·)

section

variable (channel : Channel) (wire : Wire σ) (reader : Json.Reader α) (call : Call)

theorem Leg.obeyed (leg : Leg σ) {earlier later : List (Step σ Http.Request)}
    {step : Step σ Http.Request} {outcome : Except Fault Http.Response}
    (split : (leg.fetched channel wire call).steps = earlier ++ step :: later)
    (decides : Leg.Decides channel wire call earlier step outcome) :
    later = [] ∧ (leg.fetched channel wire call).outcome =
      outcome.bind fun response => channel.peer.unwrap response.body := by
  have obeyed := (leg.heeds channel wire call).obeyed earlier step later split
  rw [Nat.zero_add] at obeyed
  obtain ⟨last, ended⟩ := obeyed outcome decides
  refine ⟨last, ?_⟩
  rw [leg.fetched_outcome channel wire call, ended]

theorem Leg.ends_of_error {leg : Leg σ} {fault : Fault}
    (failed : (leg.fetched channel wire call).outcome = .error fault) :
    leg.items channel wire reader call = .error fault ∧
      leg.next? channel wire reader call = none := by
  constructor
  · rw [Leg.items, failed]
    rfl
  · rw [Leg.next?, failed]

theorem legs_chained (leg : Leg σ) :
    (channel.legs wire reader call leg).IsChain fun earlier later =>
      later.start = (earlier.fetched channel wire call).final :=
  (legs_isChain channel wire reader call leg).imp fun _ _ leads => by
    obtain ⟨_, _, _, _, _, _, _, _, _, start⟩ := leads
    exact start

/-- A leg that is not followed by another one ends the walk as it was read. -/
theorem walk_ended {start leg : Leg σ} {before after : List (Leg σ)}
    (split : channel.legs wire reader call start = before ++ leg :: after)
    (last : leg.next? channel wire reader call = none) :
    after = [] ∧ ∃ batches, List.Forall₂
        (fun leg batch => leg.items channel wire reader call = .ok batch) before batches ∧
      (channel.pagesFrom wire reader call start.page start.query start.start).outcome =
        (leg.items channel wire reader call).map (batches.flatten ++ ·) := by
  obtain ⟨rest, batches, read, outcome⟩ := pagesFrom_split channel wire reader call split
  rw [legs_of_last channel wire reader call last] at rest
  rw [pagesFrom_of_last channel wire reader call last] at outcome
  exact ⟨(List.cons.inj rest).2.symm, batches, read, outcome⟩

theorem walk_failed {start leg : Leg σ} {before after : List (Leg σ)} {fault : Fault}
    (split : channel.legs wire reader call start = before ++ leg :: after)
    (failed : (leg.fetched channel wire call).outcome = .error fault) :
    after = [] ∧
      (channel.pagesFrom wire reader call start.page start.query start.start).outcome =
        .error fault := by
  obtain ⟨items, last⟩ := Leg.ends_of_error channel wire reader call failed
  obtain ⟨rest, batches, _, outcome⟩ := walk_ended channel wire reader call split last
  refine ⟨rest, ?_⟩
  rw [outcome, items]
  rfl

theorem walk_unfired (start : Leg σ) :
    Unfired wire.toEnvironment
      (channel.pagesFrom wire reader call start.page start.query start.start).steps := by
  intro s request member
  rw [pagesFrom_steps] at member
  obtain ⟨leg, _, step⟩ := List.mem_flatMap.mp member
  exact (leg.heeds channel wire call).unfired s request step

theorem pages_heeds (path : String) (query : List (String × String)) (retryUnsafe : Bool) (s : σ) :
    WalkHeeds channel wire reader { path, query, retryUnsafe } s
      (channel.pages wire reader path query retryUnsafe s)
      (channel.legs wire reader { path, query, retryUnsafe } ⟨startPage query, query, s⟩) where
  first := legs_eq_cons channel wire reader _ _
  chained := legs_chained channel wire reader _ _
  steps := pagesFrom_steps channel wire reader _ ⟨startPage query, query, s⟩
  unfired := walk_unfired channel wire reader _ ⟨startPage query, query, s⟩
  heeds leg _ := leg.heeds channel wire _
  barred before leg after split fired := by
    have still := Leg.barred channel wire { path, query, retryUnsafe } fired
    have failed : (leg.fetched channel wire { path, query, retryUnsafe }).outcome =
        .error .cancelled := by rw [still]; rfl
    obtain ⟨rest, outcome⟩ := walk_failed channel wire reader _ split failed
    exact ⟨rest, by rw [still]; rfl, outcome⟩
  obeyed before leg after earlier step later fault split steps decides := by
    obtain ⟨last, failed⟩ := leg.obeyed channel wire _ steps decides
    obtain ⟨rest, outcome⟩ := walk_failed channel wire reader _ split failed
    exact ⟨last, rest, outcome⟩
  doomed lasting before leg after split earlier step later steps s request answer t same given
      open_ fired := by
    have doomed := (leg.heeds channel wire { path, query, retryUnsafe }).doomed lasting
    obtain ⟨still, ended⟩ :=
      doomed earlier step later steps s request answer t same given open_ fired
    have failed : (leg.fetched channel wire { path, query, retryUnsafe }).outcome =
        .error .cancelled := by rw [leg.fetched_outcome, ended]; rfl
    obtain ⟨rest, outcome⟩ := walk_failed channel wire reader _ split failed
    exact ⟨still, rest, outcome⟩
  answered leg _ earlier step later response steps decides :=
    leg.obeyed channel wire _ steps decides
  ended before leg after split last := walk_ended channel wire reader _ split last

end

end Channel

/-- A token is heeded wherever it may fire: by a retried operation, by a channel that sends a call,
and by a walk over pages, whatever the world does. -/
theorem token_heeded :
    (∀ {σ ρ ε α : Type} (env : Environment σ) (cancelled : ε)
      (service : Service σ ρ (Except ε α)) (ask : Nat → ρ) (retryable : ε → Bool)
      (policy : Retry.Policy) (s : σ),
      Heeds env cancelled service (Retry.settles retryable policy.budget.toNat) 0 s
        (Retry.run env cancelled service ask retryable policy s)) ∧
    (∀ {σ : Type} (channel : Channel) (wire : Wire σ) (call : Call) (s : σ),
      Heeds wire.toEnvironment .cancelled wire.transport (channel.settles call) 0 s
        (channel.send wire call s)) ∧
    (∀ {σ α : Type} (channel : Channel) (wire : Wire σ) (reader : Json.Reader α) (path : String)
      (query : List (String × String)) (retryUnsafe : Bool) (s : σ),
      Channel.WalkHeeds channel wire reader { path, query, retryUnsafe } s
        (channel.pages wire reader path query retryUnsafe s)
        (channel.legs wire reader { path, query, retryUnsafe }
          ⟨Channel.startPage query, query, s⟩)) := by
  refine ⟨?_, ?_, ?_⟩
  · intro σ ρ ε α env cancelled service ask retryable policy s
    exact Retry.run_heeds env cancelled service ask retryable policy s
  · intro σ channel wire call s
    exact channel.send_heeds wire call s
  · intro σ α channel wire reader path query retryUnsafe s
    exact Channel.pages_heeds channel wire reader path query retryUnsafe s

end ControlPlane
