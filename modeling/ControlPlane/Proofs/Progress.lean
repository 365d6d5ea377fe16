import ControlPlane.Proofs.Addressing
import ControlPlane.Proofs.Sending
import ControlPlane.Proofs.Token
import ControlPlane.Proofs.Walk
import Mathlib.Data.List.Chain
/-!
Progress of walks. Whatever a server reports, the pages that a walk asks for rise from leg to leg
and stay within what the answer before told of, so there are no more legs than pages of 32 bits from
the start on. The page to ask for is computed in 32 bits and is the one that the natural numbers
give. The pairs of a leg are those that its requests carry in their address, and a leg comes to what
the transport answers to the last of them, unless the token interferes.
-/
namespace ControlPlane.Channel

variable {σ α : Type}

/-- The answer to the first leg tells of more pages, and the second leg asks for the one after the
page that the answer counts for. -/
def Leg.LeadsTo (channel : Channel) (wire : Wire σ) (reader : Json.Reader α) (call : Call)
    (leg next : Leg σ) : Prop :=
  ∃ found info items, (leg.fetched channel wire call).outcome = .ok found ∧
    found.info = some info ∧ channel.pageItems reader found = .ok items ∧
    next.page.toNat = max leg.page.toNat info.page.toNat + 1 ∧
    next.page.toNat ≤ info.totalPages.toNat ∧
    next.query =
      call.query.filter (fun pair => pair.1 ≠ "page") ++ [("page", toString next.page.toNat)] ∧
    next.start = (leg.fetched channel wire call).final

def Leg.IsLast (channel : Channel) (wire : Wire σ) (reader : Json.Reader α) (call : Call)
    (leg : Leg σ) : Prop :=
  ∀ found info items, (leg.fetched channel wire call).outcome = .ok found →
    found.info = some info → channel.pageItems reader found = .ok items →
    info.totalPages.toNat ≤ max leg.page.toNat info.page.toNat

/-- The last step of fetching a page with a request decides how that ends. A response of the 200
class is unwrapped; any other answer is a fault, and so is a call or a wait that is given up. -/
inductive Fetches (channel : Channel) (wire : Wire σ) (request : Http.Request) :
    Step σ Http.Request → Except Fault Content → Prop where
  | delivered {s t : σ} {response : Http.Response}
      (given : (wire.transport s request).await wire.fired = (some (.ok response), t))
      (success : 200 ≤ response.status ∧ response.status ≤ 299) :
      Fetches channel wire request ⟨s, .call request⟩ (channel.peer.unwrap response.body)
  | refused {s t : σ} {response : Http.Response}
      (given : (wire.transport s request).await wire.fired = (some (.ok response), t))
      (other : ¬ (200 ≤ response.status ∧ response.status ≤ 299)) :
      Fetches channel wire request ⟨s, .call request⟩
        (.error (.status channel.peer.name response.status response.text))
  | lost {s t : σ} {source : String}
      (given : (wire.transport s request).await wire.fired = (some (.error source), t)) :
      Fetches channel wire request ⟨s, .call request⟩
        (.error (.transport channel.peer.name source))
  | overtaken {s : σ} (overtaken : (wire.transport s request).Overtaken wire.fired) :
      Fetches channel wire request ⟨s, .call request⟩ (.error .cancelled)
  | unfinished {s : σ} {delay : Duration} (given_up : (wire.wait s delay).1 = false) :
      Fetches channel wire request ⟨s, .wait delay⟩ (.error .cancelled)
  | late {s : σ} {delay : Duration} (fired : wire.fired (wire.wait s delay).2 = true) :
      Fetches channel wire request ⟨s, .wait delay⟩ (.error .cancelled)

/-- What holds of a walk that follows a query, whatever the server answers. -/
structure Progress (channel : Channel) (wire : Wire σ) (reader : Json.Reader α) (call : Call)
    (s : σ) (walk : Exchange σ (List α)) (legs : List (Leg σ)) : Prop where
  first : ∃ rest, legs = ⟨startPage call.query, call.query, s⟩ :: rest
  start_given : ∀ before value after, call.query = before ++ ("page", value) :: after →
    (∀ pair ∈ before, pair.1 ≠ "page") →
    startPage call.query = (Text.uint32? (Text.trim value.toList)).getD 1
  start_absent : (∀ pair ∈ call.query, pair.1 ≠ "page") → startPage call.query = 1
  chained : legs.IsChain (Leg.LeadsTo channel wire reader call)
  rising : legs.Pairwise fun earlier later => earlier.page < later.page
  bounded : legs.length ≤ UInt32.size - (startPage call.query).toNat
  complete : ∀ before last, legs = before ++ [last] → last.IsLast channel wire reader call
  /-- A leg makes the one request of its query, at most once more than there are retries, and at
  least once unless the token has fired before. -/
  asks : ∀ leg ∈ legs, ∃ count, count ≤ channel.policy.budget.toNat + 1 ∧
    (wire.fired leg.start = false → 0 < count) ∧
    (leg.fetched channel wire call).calls =
      List.replicate count (channel.request { call with query := leg.query })
  /-- Read back from the address of the request, the pairs are those of the base and then those of
  the leg. -/
  carries : ∀ leg ∈ legs, ∀ request ∈ (leg.fetched channel wire call).calls,
    request.method = "GET" ∧ request.body = none ∧
    request.url = channel.base.join call.path.toList (textPairs leg.query) ∧
    addressPairs request = channel.basePairs ++ textPairs leg.query
  /-- A leg comes to what its last step decides: as a rule, the answer to its last request. -/
  fetches : ∀ leg ∈ legs, wire.fired leg.start = false →
    ∃ before last, (leg.fetched channel wire call).steps = before ++ [last] ∧
      Fetches channel wire (channel.request { call with query := leg.query }) last
        (leg.fetched channel wire call).outcome
  barred : ∀ leg ∈ legs, wire.fired leg.start = true →
    leg.fetched channel wire call = .done (.error .cancelled) leg.start
  calls : walk.calls = legs.flatMap fun leg => (leg.fetched channel wire call).calls
  items : ∀ leg ∈ legs, ∀ found, (leg.fetched channel wire call).outcome = .ok found →
    leg.items channel wire reader call =
      match found.result with
      | some result => channel.decode (Json.Reader.list reader) result
      | none => .ok []
  succeeds : ∀ found, walk.outcome = .ok found ↔
    ∃ batches, List.Forall₂ (fun leg batch => leg.items channel wire reader call = .ok batch)
      legs batches ∧ found = batches.flatten
  fails : ∀ fault, walk.outcome = .error fault ↔
    ∃ before last, legs = before ++ [last] ∧
      (∀ leg ∈ before, ∃ batch, leg.items channel wire reader call = .ok batch) ∧
      last.items channel wire reader call = .error fault

theorem toNat_currentPage (requested : UInt32) (info : PageInfo) :
    (currentPage requested info).toNat = max requested.toNat info.page.toNat := by
  unfold currentPage
  split
  · rename_i earlier
    have := UInt32.lt_iff_toNat_lt.mp earlier
    omega
  · rename_i later
    have := UInt32.le_iff_toNat_le.mp (UInt32.not_lt.mp later)
    omega

theorem nextPage?_eq_none {requested : UInt32} {info : PageInfo}
    (none_ : nextPage? requested info = none) :
    info.totalPages.toNat ≤ max requested.toNat info.page.toNat := by
  unfold nextPage? at none_
  split at none_
  · rename_i reached
    rw [← toNat_currentPage]
    exact UInt32.le_iff_toNat_le.mp reached
  · contradiction

theorem startPage_of_first {query before after : List (String × String)} {value : String}
    (split : query = before ++ ("page", value) :: after)
    (clear : ∀ pair ∈ before, pair.1 ≠ "page") :
    startPage query = (Text.uint32? (Text.trim value.toList)).getD 1 := by
  have found : query.find? (fun pair => pair.1 = "page") = some ("page", value) := by
    rw [split, List.find?_append, List.find?_eq_none.mpr (by simpa using clear)]
    simp
  simp [startPage, found]

theorem startPage_of_absent {query : List (String × String)}
    (clear : ∀ pair ∈ query, pair.1 ≠ "page") : startPage query = 1 := by
  have absent : query.find? (fun pair => pair.1 = "page") = none :=
    List.find?_eq_none.mpr (by simpa using clear)
  simp [startPage, absent]

section

variable (channel : Channel) (wire : Wire σ) (reader : Json.Reader α) (call : Call)

theorem Leg.leadsTo_of_next? {leg : Leg σ} {page : UInt32}
    (more : leg.next? channel wire reader call = some page) :
    leg.LeadsTo channel wire reader call
      ⟨page, pageQuery call.query page, (leg.fetched channel wire call).final⟩ := by
  obtain ⟨found, info, items, fetched, here, read, next⟩ := Leg.next?_eq_some more
  obtain ⟨value, bound⟩ := nextPage?_eq_some next
  rw [toNat_currentPage] at value
  exact ⟨found, info, items, fetched, here, read, value, bound, rfl, rfl⟩

theorem Leg.isLast_of_next? {leg : Leg σ} (last : leg.next? channel wire reader call = none) :
    leg.IsLast channel wire reader call := by
  intro found info items fetched here read
  apply nextPage?_eq_none
  simpa [Leg.next?, fetched, read, here] using last

theorem legs_eq_cons (leg : Leg σ) :
    ∃ rest, channel.legs wire reader call leg = leg :: rest := by
  rw [legs]
  exact ⟨_, rfl⟩

theorem legs_isChain (leg : Leg σ) :
    (channel.legs wire reader call leg).IsChain (Leg.LeadsTo channel wire reader call) := by
  induction leg using legs.induct channel wire reader call with
  | case1 leg ih =>
    cases next : leg.next? channel wire reader call with
    | none =>
      rw [legs_of_last channel wire reader call next]
      exact .singleton leg
    | some page =>
      have chain := ih page next
      obtain ⟨rest, later⟩ := legs_eq_cons channel wire reader call
        ⟨page, pageQuery call.query page, (leg.fetched channel wire call).final⟩
      rw [legs_of_more channel wire reader call next]
      rw [later] at chain ⊢
      exact .cons_cons (Leg.leadsTo_of_next? channel wire reader call next) chain

theorem legs_last (leg : Leg σ) {before : List (Leg σ)} {last : Leg σ}
    (split : channel.legs wire reader call leg = before ++ [last]) :
    last.IsLast channel wire reader call := by
  induction leg using legs.induct channel wire reader call generalizing before with
  | case1 leg ih =>
    cases next : leg.next? channel wire reader call with
    | none =>
      rw [legs_of_last channel wire reader call next] at split
      have only := congrArg List.getLast? split
      simp only [List.getLast?_singleton, List.getLast?_append, Option.some_or] at only
      cases only
      exact Leg.isLast_of_next? channel wire reader call next
    | some page =>
      rw [legs_of_more channel wire reader call next] at split
      obtain ⟨rest, later⟩ := legs_eq_cons channel wire reader call
        ⟨page, pageQuery call.query page, (leg.fetched channel wire call).final⟩
      cases before with
      | nil =>
        rw [later] at split
        cases split
      | cons head before => exact ih page next (List.cons.inj split).2

theorem length_legs (leg : Leg σ) :
    (channel.legs wire reader call leg).length + leg.page.toNat ≤ UInt32.size := by
  induction leg using legs.induct channel wire reader call with
  | case1 leg ih =>
    have fits := leg.page.toNat_lt_size
    cases next : leg.next? channel wire reader call with
    | none =>
      rw [legs_of_last channel wire reader call next, List.length_singleton]
      omega
    | some page =>
      have rest := ih page next
      have later := Leg.page_lt_of_next? next
      rw [legs_of_more channel wire reader call next, List.length_cons]
      dsimp only at rest
      omega

theorem Leg.page_lt_of_leadsTo {leg next : Leg σ}
    (leads : leg.LeadsTo channel wire reader call next) : leg.page < next.page := by
  obtain ⟨_, _, _, _, _, _, value, _⟩ := leads
  rw [UInt32.lt_iff_toNat_lt]
  omega

theorem legs_rising (leg : Leg σ) :
    (channel.legs wire reader call leg).Pairwise fun earlier later => earlier.page < later.page := by
  have chain : (channel.legs wire reader call leg).IsChain
      fun earlier later => earlier.page < later.page :=
    (legs_isChain channel wire reader call leg).imp fun earlier later =>
      Leg.page_lt_of_leadsTo channel wire reader call
  have : Trans (fun earlier later : Leg σ => earlier.page < later.page)
      (fun earlier later : Leg σ => earlier.page < later.page)
      (fun earlier later : Leg σ => earlier.page < later.page) :=
    ⟨fun one two => UInt32.lt_trans one two⟩
  exact List.isChain_iff_pairwise.mp chain

theorem Leg.fetched_outcome (leg : Leg σ) :
    (leg.fetched channel wire call).outcome =
      (channel.send wire { call with query := leg.query } leg.start).outcome.bind fun response =>
        channel.peer.unwrap response.body := rfl

theorem Leg.heeds (leg : Leg σ) :
    Heeds wire.toEnvironment .cancelled wire.transport (channel.settles call) 0 leg.start
      (channel.send wire { call with query := leg.query } leg.start) :=
  channel.send_heeds wire { call with query := leg.query } leg.start

theorem Leg.barred {leg : Leg σ} (fired : wire.fired leg.start = true) :
    leg.fetched channel wire call = .done (.error .cancelled) leg.start := by
  have barred := (leg.heeds channel wire call).barred fired
  unfold Leg.fetched content
  rw [barred]
  rfl

theorem Leg.mem_calls {leg : Leg σ} {request : Http.Request}
    (member : request ∈ (leg.fetched channel wire call).calls) :
    request = channel.request { call with query := leg.query } := by
  have sent : request ∈ (channel.send wire { call with query := leg.query } leg.start).calls :=
    member
  exact mem_calls_send sent

theorem Leg.calls_fetched (leg : Leg σ) : ∃ count, count ≤ channel.policy.budget.toNat + 1 ∧
    (wire.fired leg.start = false → 0 < count) ∧
    (leg.fetched channel wire call).calls =
      List.replicate count (channel.request { call with query := leg.query }) := by
  obtain ⟨count, bound, calls⟩ := channel.calls_send wire { call with query := leg.query } leg.start
  refine ⟨count, bound, ?_, calls⟩
  intro unfired
  have member := channel.request_mem_calls wire { call with query := leg.query } unfired
  rw [Run.calls_eq, calls] at member
  exact Nat.pos_of_ne_zero (List.mem_replicate.mp member).1

theorem Fetches.of_answer {request : Http.Request} {s t : σ} {answer : Answer}
    (given : (wire.transport s request).await wire.fired = (some answer, t)) :
    Fetches channel wire request ⟨s, .call request⟩
      ((channel.judge answer).bind fun response => channel.peer.unwrap response.body) := by
  cases answer with
  | error source => exact .lost given
  | ok response =>
    rw [judge_response]
    by_cases success : 200 ≤ response.status ∧ response.status ≤ 299
    · rw [if_pos success]
      exact .delivered given success
    · rw [if_neg success]
      exact .refused given success

theorem Leg.fetches {leg : Leg σ} (unfired : wire.fired leg.start = false) :
    ∃ before last, (leg.fetched channel wire call).steps = before ++ [last] ∧
      Fetches channel wire (channel.request { call with query := leg.query }) last
        (leg.fetched channel wire call).outcome := by
  obtain ⟨before, last, steps, decides⟩ := (leg.heeds channel wire call).decided unfired
  have steps_fetched : (leg.fetched channel wire call).steps = before ++ [last] := steps
  have asked {s : σ} {request : Http.Request} (here : last = ⟨s, .call request⟩) :
      request = channel.request { call with query := leg.query } := by
    apply Leg.mem_calls channel wire call
    rw [Run.calls_eq, steps_fetched, here]
    simp
  refine ⟨before, last, steps_fetched, ?_⟩
  rw [Leg.fetched_outcome]
  generalize (channel.send wire { call with query := leg.query } leg.start).outcome = sent
    at decides ⊢
  cases decides with
  | overtaken overtaken =>
    obtain rfl := asked rfl
    exact .overtaken overtaken
  | answered given settled =>
    obtain rfl := asked rfl
    rw [eq_judge_of_settles settled]
    exact Fetches.of_answer channel wire given
  | refused refused => exact .unfinished refused
  | late late => exact .late late

end

/-- Against any server, and however the transport and the token behave, a walk makes progress from
page to page and ends within the pages of 32 bits. Its requests carry the pairs of their leg, and a
leg comes to what its last step decides. -/
theorem pages_progress (channel : Channel) (wire : Wire σ) (reader : Json.Reader α) (path : String)
    (query : List (String × String)) (retryUnsafe : Bool) (s : σ) :
    Progress channel wire reader { path, query, retryUnsafe } s
      (channel.pages wire reader path query retryUnsafe s)
      (channel.legs wire reader { path, query, retryUnsafe } ⟨startPage query, query, s⟩) where
  first := legs_eq_cons channel wire reader _ _
  start_given _ _ _ := startPage_of_first
  start_absent := startPage_of_absent
  chained := legs_isChain channel wire reader _ _
  rising := legs_rising channel wire reader _ _
  bounded := by
    have bound := length_legs channel wire reader { path, query, retryUnsafe }
      ⟨startPage query, query, s⟩
    dsimp only at bound ⊢
    omega
  complete _ _ := legs_last channel wire reader _ _
  asks leg _ := leg.calls_fetched channel wire _
  carries leg _ request member := by
    rw [Leg.mem_calls channel wire _ member]
    exact ⟨rfl, rfl, rfl, channel.addressPairs_request _⟩
  fetches _ _ := Leg.fetches channel wire _
  barred _ _ := Leg.barred channel wire _
  calls := by
    unfold pages
    rw [Run.calls_eq, pagesFrom_steps channel wire reader _ ⟨startPage query, query, s⟩]
    exact callsOf_flatMap _ _
  items leg _ found fetched := by
    rw [Leg.items, fetched]
    rfl
  succeeds := pagesFrom_ok_iff channel wire reader _ ⟨startPage query, query, s⟩
  fails := pagesFrom_error_iff channel wire reader _ ⟨startPage query, query, s⟩

end ControlPlane.Channel
