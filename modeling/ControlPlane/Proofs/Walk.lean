import ControlPlane.Channel.Pages
import ControlPlane.Proofs.Steps
import Mathlib.Data.List.Forall2
/-!
Walks over the pages of a list, page by page. A walk is a list of legs, one for each page that is
asked for; its steps, its outcome and its length are read off the legs. Nothing is assumed of the
server: what it reports only says how far the walk may go on.
-/
namespace ControlPlane.Channel

variable {σ α : Type}

/-- One page of a walk: its number, the query that asks for it, and the state in which it is asked
for. -/
structure Leg (σ : Type) where
  page : UInt32
  query : List (String × String)
  start : σ

def Leg.fetched (leg : Leg σ) (channel : Channel) (wire : Wire σ) (call : Call) :
    Exchange σ Content :=
  channel.content wire { call with query := leg.query } leg.start

def Leg.items (leg : Leg σ) (channel : Channel) (wire : Wire σ) (reader : Json.Reader α)
    (call : Call) : Except Fault (List α) :=
  (leg.fetched channel wire call).outcome.bind (channel.pageItems reader)

def Leg.next? (leg : Leg σ) (channel : Channel) (wire : Wire σ) (reader : Json.Reader α)
    (call : Call) : Option UInt32 :=
  match (leg.fetched channel wire call).outcome with
  | .error _ => none
  | .ok found =>
    match channel.pageItems reader found with
    | .error _ => none
    | .ok _ => found.info.bind (nextPage? leg.page)

theorem Leg.next?_eq_some {leg : Leg σ} {channel : Channel} {wire : Wire σ}
    {reader : Json.Reader α} {call : Call} {page : UInt32}
    (more : leg.next? channel wire reader call = some page) :
    ∃ found info items, (leg.fetched channel wire call).outcome = .ok found ∧
      found.info = some info ∧ channel.pageItems reader found = .ok items ∧
      nextPage? leg.page info = some page := by
  unfold next? at more
  split at more
  · contradiction
  · rename_i found fetched
    split at more
    · contradiction
    · rename_i items read
      obtain ⟨info, here, next⟩ := Option.bind_eq_some_iff.1 more
      exact ⟨found, info, items, fetched, here, read, next⟩

theorem Leg.page_lt_of_next? {leg : Leg σ} {channel : Channel} {wire : Wire σ}
    {reader : Json.Reader α} {call : Call} {page : UInt32}
    (more : leg.next? channel wire reader call = some page) : leg.page.toNat < page.toNat := by
  obtain ⟨_, _, _, _, _, _, next⟩ := next?_eq_some more
  exact lt_of_nextPage? next

def legs (channel : Channel) (wire : Wire σ) (reader : Json.Reader α) (call : Call)
    (leg : Leg σ) : List (Leg σ) :=
  leg ::
    match _more : leg.next? channel wire reader call with
    | none => []
    | some page =>
      legs channel wire reader call
        ⟨page, pageQuery call.query page, (leg.fetched channel wire call).final⟩
termination_by 0x100000000 - leg.page.toNat
decreasing_by
  have := Leg.page_lt_of_next? _more
  have := page.toNat_lt
  omega

section

variable (channel : Channel) (wire : Wire σ) (reader : Json.Reader α) (call : Call)

theorem legs_of_last {leg : Leg σ} (last : leg.next? channel wire reader call = none) :
    channel.legs wire reader call leg = [leg] := by
  rw [legs]
  split
  · rfl
  · rename_i page more
    rw [last] at more
    contradiction

theorem legs_of_more {leg : Leg σ} {page : UInt32}
    (more : leg.next? channel wire reader call = some page) :
    channel.legs wire reader call leg = leg :: channel.legs wire reader call
      ⟨page, pageQuery call.query page, (leg.fetched channel wire call).final⟩ := by
  rw [legs]
  split
  · rename_i last
    rw [last] at more
    contradiction
  · rename_i page' more'
    rw [more] at more'
    cases more'
    rfl

theorem pagesFrom_of_last {leg : Leg σ} (last : leg.next? channel wire reader call = none) :
    channel.pagesFrom wire reader call leg.page leg.query leg.start =
      ⟨(leg.fetched channel wire call).steps, leg.items channel wire reader call,
        (leg.fetched channel wire call).final⟩ := by
  rw [pagesFrom]
  change (leg.fetched channel wire call).bind _ = _
  unfold Leg.items
  unfold Leg.next? at last
  cases fetched : (leg.fetched channel wire call).outcome with
  | error fault => exact Run.bind_of_error fetched _
  | ok found =>
    rw [Run.bind_of_ok fetched]
    simp only [fetched] at last
    cases read : channel.pageItems reader found with
    | error fault => simp [Run.after, Run.done, Except.bind, read]
    | ok items =>
      simp only [read] at last
      dsimp only
      split
      · simp [Run.after, Run.done, Except.bind, read]
      · rename_i page more
        rw [last] at more
        contradiction

theorem pagesFrom_of_more {leg : Leg σ} {page : UInt32}
    (more : leg.next? channel wire reader call = some page) :
    ∃ items, leg.items channel wire reader call = .ok items ∧
      channel.pagesFrom wire reader call leg.page leg.query leg.start =
        ((channel.pagesFrom wire reader call page (pageQuery call.query page)
          (leg.fetched channel wire call).final).mapOutcome fun rest =>
            rest.map (items ++ ·)).after (leg.fetched channel wire call).steps := by
  obtain ⟨found, info, items, fetched, here, read, next⟩ := Leg.next?_eq_some more
  refine ⟨items, by simp [Leg.items, fetched, Except.bind, read], ?_⟩
  rw [pagesFrom]
  change (leg.fetched channel wire call).bind _ = _
  rw [Run.bind_of_ok fetched]
  have follows : found.info.bind (nextPage? leg.page) = some page := by rw [here]; exact next
  simp only [read]
  split
  · rename_i last
    rw [follows] at last
    contradiction
  · rename_i page' more'
    rw [follows] at more'
    cases more'
    rfl

theorem pagesFrom_steps (leg : Leg σ) :
    (channel.pagesFrom wire reader call leg.page leg.query leg.start).steps =
      (channel.legs wire reader call leg).flatMap fun leg =>
        (leg.fetched channel wire call).steps := by
  induction leg using legs.induct channel wire reader call with
  | case1 leg ih =>
    cases next : leg.next? channel wire reader call with
    | none =>
      rw [pagesFrom_of_last channel wire reader call next,
        legs_of_last channel wire reader call next]
      simp
    | some page =>
      obtain ⟨items, _, walk⟩ := pagesFrom_of_more channel wire reader call next
      rw [walk, legs_of_more channel wire reader call next, List.flatMap_cons, ← ih page next]
      rfl

/-- A walk that is cut at one of its legs: the rest of it is the walk from that leg on, and the
items of the legs before come first. -/
theorem pagesFrom_split {start leg : Leg σ} {before after : List (Leg σ)}
    (split : channel.legs wire reader call start = before ++ leg :: after) :
    channel.legs wire reader call leg = leg :: after ∧
      ∃ batches, List.Forall₂ (fun leg batch => leg.items channel wire reader call = .ok batch)
          before batches ∧
        (channel.pagesFrom wire reader call start.page start.query start.start).outcome =
          (channel.pagesFrom wire reader call leg.page leg.query leg.start).outcome.map
            (batches.flatten ++ ·) := by
  induction start using legs.induct channel wire reader call generalizing before with
  | case1 start ih =>
    cases before with
    | nil =>
      have head : start = leg := by
        rw [legs] at split
        exact (List.cons.inj split).1
      subst head
      refine ⟨split, [], .nil, ?_⟩
      cases (channel.pagesFrom wire reader call start.page start.query start.start).outcome <;> rfl
    | cons first before =>
      cases next : start.next? channel wire reader call with
      | none =>
        rw [legs_of_last channel wire reader call next] at split
        simp at split
      | some page =>
        rw [legs_of_more channel wire reader call next] at split
        obtain ⟨rfl, tail⟩ := List.cons.inj split
        obtain ⟨rest, batches, read, outcome⟩ := ih page next tail
        obtain ⟨items, here, walk⟩ := pagesFrom_of_more channel wire reader call next
        refine ⟨rest, items :: batches, .cons here read, ?_⟩
        rw [walk]
        simp only [Run.outcome_after, Run.outcome_mapOutcome, outcome]
        cases (channel.pagesFrom wire reader call leg.page leg.query leg.start).outcome <;>
          simp [Except.map]

theorem pagesFrom_ok_iff (leg : Leg σ) (items : List α) :
    (channel.pagesFrom wire reader call leg.page leg.query leg.start).outcome = .ok items ↔
      ∃ batches, List.Forall₂ (fun leg batch => leg.items channel wire reader call = .ok batch)
        (channel.legs wire reader call leg) batches ∧ items = batches.flatten := by
  induction leg using legs.induct channel wire reader call generalizing items with
  | case1 leg ih =>
    cases next : leg.next? channel wire reader call with
    | none =>
      rw [pagesFrom_of_last channel wire reader call next,
        legs_of_last channel wire reader call next]
      constructor
      · intro ended
        exact ⟨[items], .cons ended .nil, by simp⟩
      · rintro ⟨batches, ended, rfl⟩
        cases ended with
        | cons first rest =>
          cases rest
          simpa using first
    | some page =>
      obtain ⟨first, read, walk⟩ := pagesFrom_of_more channel wire reader call next
      rw [walk, legs_of_more channel wire reader call next]
      simp only [Run.outcome_after, Run.outcome_mapOutcome]
      constructor
      · intro ended
        cases later : (channel.pagesFrom wire reader call page (pageQuery call.query page)
            (leg.fetched channel wire call).final).outcome with
        | error fault =>
          rw [later] at ended
          cases ended
        | ok rest =>
          rw [later] at ended
          cases ended
          obtain ⟨batches, each, rfl⟩ := (ih page next rest).mp later
          exact ⟨first :: batches, .cons read each, rfl⟩
      · rintro ⟨batches, each, rfl⟩
        cases each with
        | cons here there =>
          rename_i batch batches
          have rest := (ih page next batches.flatten).mpr ⟨batches, there, rfl⟩
          rw [read] at here
          cases here
          rw [rest]
          rfl

theorem pagesFrom_error_iff (leg : Leg σ) (fault : Fault) :
    (channel.pagesFrom wire reader call leg.page leg.query leg.start).outcome = .error fault ↔
      ∃ before last, channel.legs wire reader call leg = before ++ [last] ∧
        (∀ leg ∈ before, ∃ batch, leg.items channel wire reader call = .ok batch) ∧
        last.items channel wire reader call = .error fault := by
  induction leg using legs.induct channel wire reader call with
  | case1 leg ih =>
    cases next : leg.next? channel wire reader call with
    | none =>
      rw [pagesFrom_of_last channel wire reader call next,
        legs_of_last channel wire reader call next]
      constructor
      · intro failed
        exact ⟨[], leg, rfl, by simp, failed⟩
      · rintro ⟨before, last, split, _, failed⟩
        cases before with
        | nil =>
          cases split
          exact failed
        | cons head before => simp at split
    | some page =>
      obtain ⟨first, read, walk⟩ := pagesFrom_of_more channel wire reader call next
      rw [walk, legs_of_more channel wire reader call next]
      simp only [Run.outcome_after, Run.outcome_mapOutcome]
      have rest : ((channel.pagesFrom wire reader call page (pageQuery call.query page)
          (leg.fetched channel wire call).final).outcome.map (first ++ ·)) = .error fault ↔
            (channel.pagesFrom wire reader call page (pageQuery call.query page)
              (leg.fetched channel wire call).final).outcome = .error fault := by
        cases (channel.pagesFrom wire reader call page (pageQuery call.query page)
          (leg.fetched channel wire call).final).outcome <;> simp [Except.map]
      rw [rest, ih page next]
      constructor
      · rintro ⟨before, last, split, good, failed⟩
        refine ⟨leg :: before, last, by rw [split]; rfl, ?_, failed⟩
        intro other member
        rcases List.mem_cons.mp member with rfl | later
        · exact ⟨first, read⟩
        · exact good other later
      · rintro ⟨before, last, split, good, failed⟩
        cases before with
        | nil =>
          obtain ⟨rfl, _⟩ := List.cons.inj split
          rw [read] at failed
          cases failed
        | cons head before =>
          obtain ⟨_, tail⟩ := List.cons.inj split
          exact ⟨before, last, tail, fun other member => good other (.tail _ member), failed⟩

end

end ControlPlane.Channel
