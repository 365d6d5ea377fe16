import ControlPlane.Cloudflare.Envelope
import ControlPlane.Proofs.Addressing
import ControlPlane.Proofs.Progress
import ControlPlane.Proofs.Sending
/-!
Lists kept by a host that tells the truth about their pages, but may fail before it answers. A walk
gives the items of the pages from the first one on, each page being answered once and in its turn,
and every page has all the retries to itself. Of the host it is only known that it finds the page in
the address of a request.
-/
namespace ControlPlane.Channel

variable {σ α : Type}

def Passing (answer : Answer) : Prop :=
  (∃ source, answer = .error source) ∨
    ∃ response, answer = .ok response ∧ (response.status = 408 ∨ response.status = 429 ∨
      (500 ≤ response.status ∧ response.status ≤ 599))

/-- A host of a list: the page that it takes a request for, the response that answers a page, and
what it answers before that. -/
structure Host where
  reads : Http.Request → Nat
  page : Nat → Http.Response
  flaws : Nat → List Answer

def Host.script (host : Host) (h : List Http.Request) (request : Http.Request) : Answer :=
  ((host.flaws (host.reads request))[h.countP (host.reads · = host.reads request)]?).getD
    (.ok (host.page (host.reads request)))

/-- The host keeps a list of so many pages with the given items, at an address with the pairs
`base`. -/
structure Host.Keeps (host : Host) (base : List (List Char × List Char)) (reader : Json.Reader α)
    (last : UInt32) (items : Nat → List α) : Prop where
  understands : ∀ request pairs page, addressPairs request = base ++ pairs → Asks pairs page →
    host.reads request = page.toNat
  answers : ∀ q, 1 ≤ q → q ≤ last.toNat → ∃ results info,
    200 ≤ (host.page q).status ∧ (host.page q).status ≤ 299 ∧
    Cloudflare.unwrap (host.page q).body = .ok ⟨some (.array results), some info⟩ ∧
    info.page.toNat = q ∧ info.totalPages = last ∧
    List.Forall₂ (fun result item => Json.readValue reader result = .ok item) results (items q)
  passing : ∀ q, 1 ≤ q → q ≤ last.toNat → ∀ answer ∈ host.flaws q, Passing answer

def walkQuery (query : List (String × String)) (first q : Nat) : List (String × String) :=
  if q = first then query
  else query.filter (fun pair => pair.1 ≠ "page") ++ [("page", toString q)]

theorem not_final_of_passing {call : Call} {retries i : Nat} {answer : Answer}
    (passing : Passing answer) (repeatable : Repeatable call) (more : i < retries) :
    ¬ Final call retries i answer := by
  rintro (succeeded | barred | refused | spent)
  · obtain ⟨response, rfl, least, most⟩ := succeeded
    rcases passing with ⟨_, other⟩ | ⟨_, same, status⟩
    · cases other
    · cases same
      omega
  · exact barred repeatable
  · obtain ⟨response, rfl, _, other⟩ := refused
    rcases passing with ⟨_, same⟩ | ⟨_, same, status⟩
    · cases same
    · cases same
      exact other status
  · omega

theorem Host.script_replicate {host : Host} {h : List Http.Request} {request : Http.Request}
    (fresh : ∀ earlier ∈ h, host.reads earlier ≠ host.reads request) (i : Nat) :
    host.script (h ++ List.replicate i request) request =
      ((host.flaws (host.reads request))[i]?).getD (.ok (host.page (host.reads request))) := by
  have none_ : h.countP (fun earlier => host.reads earlier = host.reads request) = 0 := by
    rw [List.countP_eq_zero]
    simpa using fresh
  have each : (List.replicate i request).countP
      (fun earlier => host.reads earlier = host.reads request) = i := by
    simp [List.countP_replicate]
  rw [Host.script, List.countP_append, none_, each, Nat.zero_add]

theorem Host.replies_replicate {host : Host} {h : List Http.Request} {request : Http.Request}
    (fresh : ∀ earlier ∈ h, host.reads earlier ≠ host.reads request) :
    replies host.script h
        (List.replicate ((host.flaws (host.reads request)).length + 1) request) =
      host.flaws (host.reads request) ++ [.ok (host.page (host.reads request))] := by
  have flaws_eq : (List.range (host.flaws (host.reads request)).length).map
      (fun i => ((host.flaws (host.reads request))[i]?).getD
        (.ok (host.page (host.reads request)))) = host.flaws (host.reads request) := by
    apply List.ext_getElem
    · simp
    · intro i _ within
      simp [List.getElem?_eq_getElem within]
  rw [ControlPlane.replies_replicate]
  simp only [Host.script_replicate fresh]
  rw [List.range_succ, List.map_append, flaws_eq]
  simp

theorem decode_list (channel : Channel) {reader : Json.Reader α} {results : List Json}
    {items : List α}
    (read : List.Forall₂ (fun result item => Json.readValue reader result = .ok item)
      results items) :
    channel.decode (Json.Reader.list reader) (.array results) = .ok items := by
  have each : (Json.Outline.ofItems results).mapM (reader .value) = .ok items := by
    induction read with
    | nil => rfl
    | cons first _ ih =>
      unfold Json.readValue at first
      rw [Json.Outline.ofItems, List.mapM_cons, first, ih]
      rfl
  have whole : Json.readValue (Json.Reader.list reader) (.array results) = .ok items := by
    simp only [Json.readValue, Json.Outline.ofJson, Json.Reader.list, Json.Source.enter, each]
    rfl
  rw [decode, whole]
  rfl

theorem nextPage?_of_more {page last : UInt32} {info : PageInfo} (here : info.page = page)
    (total : info.totalPages = last) (more : page.toNat < last.toNat) :
    ∃ next, nextPage? page info = some next ∧ next.toNat = page.toNat + 1 := by
  cases found : nextPage? page info with
  | none =>
    have reached := nextPage?_eq_none found
    rw [here, total] at reached
    omega
  | some next =>
    have value := (nextPage?_eq_some found).1
    rw [toNat_currentPage, here, Nat.max_self] at value
    exact ⟨next, rfl, value⟩

theorem nextPage?_of_last {page : UInt32} {info : PageInfo} (here : info.page = page)
    (total : info.totalPages = page) : nextPage? page info = none := by
  simp [nextPage?, currentPage, here, total]

section

variable {channel : Channel} {wire : Wire σ} {reader : Json.Reader α} {host : Host}
  {last : UInt32} {items : Nat → List α} {samples : Nat → Double}
  {past : List Http.Request → Nat → σ → Prop} {h : List Http.Request} {n : Nat} {s : σ}

/-- A page that has not been asked for before is fetched after its flaws, each of which takes one
attempt. -/
theorem fetch_page
    (world : Scripted wire.toEnvironment wire.transport host.script samples past)
    (here : past h n s) (call : Call) (repeatable : Repeatable call) {q : Nat}
    (reads : host.reads (channel.request call) = q) (fresh : ∀ earlier ∈ h, host.reads earlier ≠ q)
    (passing : ∀ answer ∈ host.flaws q, Passing answer)
    (patient : (host.flaws q).length ≤ channel.policy.budget.toNat)
    (good : 200 ≤ (host.page q).status ∧ (host.page q).status ≤ 299) :
    (channel.content wire call s).outcome = channel.peer.unwrap (host.page q).body ∧
      callsOf (channel.content wire call s).steps =
        List.replicate ((host.flaws q).length + 1) (channel.request call) ∧
      ∃ m, past (h ++ List.replicate ((host.flaws q).length + 1) (channel.request call)) m
        (channel.content wire call s).final := by
  subst reads
  have script := Host.script_replicate fresh
  have answer := script (host.flaws (host.reads (channel.request call))).length
  rw [List.getElem?_eq_none (Nat.le_refl _), Option.getD_none] at answer
  obtain ⟨calls, outcome, ended⟩ := send_scripted channel wire call world here patient
    (by
      intro i less
      rw [script i, List.getElem?_eq_getElem less, Option.getD_some]
      exact not_final_of_passing (passing _ (List.getElem_mem less)) repeatable (by omega))
    (by
      rw [answer]
      exact .inl ⟨_, rfl, good⟩)
  refine ⟨?_, calls, ended⟩
  unfold content
  rw [Run.outcome_mapOutcome, outcome, answer, judge_response, if_pos good]
  rfl

variable {call : Call} (repeatable : Repeatable call)
  (unwraps : channel.peer.unwrap = Cloudflare.unwrap)
  (keeps : host.Keeps channel.basePairs reader last items)
  (patient : ∀ q, 1 ≤ q → q ≤ last.toNat →
    (host.flaws q).length ≤ channel.policy.budget.toNat)
  (world : Scripted wire.toEnvironment wire.transport host.script samples past)

include repeatable unwraps keeps patient world

theorem leg_of_host (leg : Leg σ) (here : past h n leg.start) {request : Http.Request}
    (asked : channel.request { call with query := leg.query } = request)
    (reads : host.reads request = leg.page.toNat)
    (fresh : ∀ earlier ∈ h, host.reads earlier < leg.page.toNat) (least : 1 ≤ leg.page.toNat)
    (most : leg.page.toNat ≤ last.toNat) :
    ∃ info : PageInfo, info.page = leg.page ∧ info.totalPages = last ∧
      leg.items channel wire reader call = .ok (items leg.page.toNat) ∧
      leg.next? channel wire reader call = nextPage? leg.page info ∧
      callsOf (leg.fetched channel wire call).steps =
        List.replicate ((host.flaws leg.page.toNat).length + 1) request ∧
      replies host.script h (callsOf (leg.fetched channel wire call).steps) =
        host.flaws leg.page.toNat ++ [.ok (host.page leg.page.toNat)] ∧
      ∃ m, past (h ++ callsOf (leg.fetched channel wire call).steps) m
        (leg.fetched channel wire call).final := by
  subst asked
  have new : ∀ earlier ∈ h, host.reads earlier ≠ leg.page.toNat := fun earlier member =>
    Nat.ne_of_lt (fresh earlier member)
  obtain ⟨results, info, ok, success, body, page_eq, total, read⟩ :=
    keeps.answers leg.page.toNat least most
  obtain ⟨outcome, calls, ended⟩ := fetch_page world here { call with query := leg.query }
    repeatable reads new (keeps.passing leg.page.toNat least most)
    (patient leg.page.toNat least most) ⟨ok, success⟩
  change (leg.fetched channel wire call).outcome = _ at outcome
  change callsOf (leg.fetched channel wire call).steps = _ at calls
  rw [unwraps, body] at outcome
  have decoded := decode_list channel read
  refine ⟨info, UInt32.toNat_inj.mp page_eq, total, ?_, ?_, calls, ?_, ?_⟩
  · rw [Leg.items, outcome]
    exact decoded
  · simp [Leg.next?, outcome, pageItems, decoded]
  · rw [← reads] at new
    rw [calls, ← reads]
    exact Host.replies_replicate new
  · rw [calls]
    exact ended

/-- A walk from page `page` on, only smaller pages having been asked for before. The induction is on
the number of pages that follow; the flaws of each of them are all still to come. -/
theorem pagesFrom_host {request : Nat → Http.Request} {page : UInt32}
    {query : List (String × String)} {gap : Nat} (here : past h n s)
    (fresh : ∀ earlier ∈ h, host.reads earlier < page.toNat) (least : 1 ≤ page.toNat)
    (reach : page.toNat + gap = last.toNat)
    (asked : channel.request { call with query } = request page.toNat)
    (later : ∀ q : UInt32, page < q →
      channel.request { call with query := pageQuery call.query q } = request q.toNat)
    (reads : ∀ q, page.toNat ≤ q → q ≤ last.toNat → host.reads (request q) = q) :
    (channel.pagesFrom wire reader call page query s).outcome =
        .ok ((List.range' page.toNat (gap + 1)).flatMap items) ∧
      callsOf (channel.pagesFrom wire reader call page query s).steps =
        ((List.range' page.toNat (gap + 1)).flatMap fun q =>
          List.replicate ((host.flaws q).length + 1) (request q)) ∧
      replies host.script h (callsOf (channel.pagesFrom wire reader call page query s).steps) =
        ((List.range' page.toNat (gap + 1)).flatMap fun q =>
          host.flaws q ++ [.ok (host.page q)]) := by
  induction gap generalizing page query h n s with
  | zero =>
    have only : last = page := UInt32.toNat_inj.mp reach.symm
    obtain ⟨info, page_eq, total, read, next, calls, answers, _⟩ :=
      leg_of_host repeatable unwraps keeps patient world ⟨page, query, s⟩ here asked
        (reads _ (Nat.le_refl _) (Nat.le_of_eq reach)) fresh least (Nat.le_of_eq reach)
    rw [nextPage?_of_last page_eq (total.trans only)] at next
    have walk := pagesFrom_of_last channel wire reader call next
    dsimp only at walk calls answers read
    rw [walk]
    simp only [Nat.zero_add, List.range'_one, List.flatMap_cons, List.flatMap_nil, List.append_nil]
    exact ⟨read, calls, answers⟩
  | succ gap ih =>
    have most : page.toNat ≤ last.toNat := by omega
    have asks := reads _ (Nat.le_refl _) most
    obtain ⟨info, page_eq, total, read, next, calls, answers, m, there⟩ :=
      leg_of_host repeatable unwraps keeps patient world ⟨page, query, s⟩ here asked asks
        fresh least most
    dsimp only at page_eq read next calls answers
    obtain ⟨after, more, after_eq⟩ := nextPage?_of_more page_eq total (by omega)
    rw [more] at next
    obtain ⟨first, first_eq, walk⟩ := pagesFrom_of_more channel wire reader call next
    rw [read] at first_eq
    cases first_eq
    dsimp only at walk
    have above : page < after := by
      rw [UInt32.lt_iff_toNat_lt]
      omega
    obtain ⟨rest, rest_calls, rest_answers⟩ := ih there
      (by
        intro earlier member
        rw [calls] at member
        rcases List.mem_append.mp member with before | again
        · have := fresh earlier before
          omega
        · rw [List.eq_of_mem_replicate again, asks]
          omega)
      (by omega) (by omega) (later after above)
      (fun q beyond => later q (UInt32.lt_trans above beyond))
      (fun q from_ => reads q (by omega))
    rw [walk]
    simp only [Run.outcome_after, Run.outcome_mapOutcome, Run.steps_after, Run.steps_mapOutcome,
      callsOf_append, replies_append]
    rw [rest, rest_answers, rest_calls, answers, calls, after_eq]
    exact ⟨rfl, rfl, rfl⟩

end

theorem walkQuery_first (query : List (String × String)) (first : Nat) :
    walkQuery query first first = query := if_pos rfl

theorem walkQuery_later (query : List (String × String)) {first q : Nat} (later : first < q) :
    walkQuery query first q =
      query.filter (fun pair => pair.1 ≠ "page") ++ [("page", toString q)] :=
  if_neg (Nat.ne_of_gt later)

theorem asks_walkQuery {query : List (String × String)} {first : UInt32} {q : Nat}
    (asks : Asks (textPairs query) first) (least : first.toNat ≤ q) (fits : q < UInt32.size) :
    Asks (textPairs (walkQuery query first.toNat q)) (UInt32.ofNat q) := by
  rcases Nat.eq_or_lt_of_le least with rfl | later
  · rw [walkQuery_first, UInt32.ofNat_toNat]
    exact asks
  · rw [walkQuery_later query later]
    exact asks_later query fits

/-- Against a host that keeps a list, a walk gives the items of all pages from the first one that is
asked for on. Each page is asked for until it is answered, in turn and once; what the host answers
before that, page by page as often as there are retries, is not seen in the outcome. -/
theorem pages_listing {σ α : Type} (channel : Channel) (wire : Wire σ) (reader : Json.Reader α)
    (path : String) (query : List (String × String)) (retryUnsafe : Bool) (host : Host)
    (first last : UInt32) (items : Nat → List α) (samples : Nat → Double)
    (past : List Http.Request → Nat → σ → Prop)
    (unwraps : channel.peer.unwrap = Cloudflare.unwrap)
    (asks : Asks (textPairs query) first) (least : 1 ≤ first) (most : first ≤ last)
    (keeps : host.Keeps channel.basePairs reader last items)
    (patient : ∀ q, 1 ≤ q → q ≤ last.toNat →
      (host.flaws q).length ≤ channel.policy.budget.toNat)
    (world : Scripted wire.toEnvironment wire.transport host.script samples past)
    (s : σ) (start : past [] 0 s) :
    let walk := channel.pages wire reader path query retryUnsafe s
    let pages := List.range' first.toNat (last.toNat - first.toNat + 1)
    walk.outcome = .ok (pages.flatMap items) ∧
      walk.calls = (pages.flatMap fun q =>
        List.replicate ((host.flaws q).length + 1)
          (channel.request { path, query := walkQuery query first.toNat q, retryUnsafe })) ∧
      replies host.script [] walk.calls =
        (pages.flatMap fun q => host.flaws q ++ [.ok (host.page q)]) := by
  intro walk pages
  have least_nat : 1 ≤ first.toNat := UInt32.le_iff_toNat_le.mp least
  have most_nat : first.toNat ≤ last.toNat := UInt32.le_iff_toNat_le.mp most
  have repeatable : Repeatable { path, query, retryUnsafe } := .inr (by simp)
  have walk_eq : walk =
      channel.pagesFrom wire reader { path, query, retryUnsafe } first query s := by
    rw [← startPage_of_asks asks]
    rfl
  rw [Run.calls_eq, walk_eq]
  apply pagesFrom_host repeatable unwraps keeps patient world start
  · intro earlier member
    cases member
  · exact least_nat
  · omega
  · rw [walkQuery_first]
  · intro q later
    rw [walkQuery_later query (UInt32.lt_iff_toNat_lt.mp later)]
    rfl
  · intro q from_ upto
    have fits : q < UInt32.size := Nat.lt_of_le_of_lt upto last.toNat_lt
    have asked := asks_walkQuery asks from_ fits
    rw [keeps.understands _ _ _ (addressPairs_request channel _) asked, UInt32.toNat_ofNat',
      Nat.mod_eq_of_lt fits]

def flakyBody (q total : Nat) (item : Bool) : List UInt8 :=
  (Json.object
    [("success", .bool true), ("result", .array [.bool item]),
      ("result_info", .object
        [("page", .number (.integer q)), ("total_pages", .number (.integer total))])]).bytes

def flakyHost : Host :=
  { reads := fun request => (askedPage (addressPairs request)).toNat
    page := fun q => { status := 200, body := flakyBody q 3 (q == 2) }
    flaws := fun q =>
      if q = 2 then [.error "connection reset", .ok { status := 503 }]
      else if q = 3 then [.ok { status := 429 }]
      else [] }

theorem flakyHost_keeps : flakyHost.Keeps [] Json.Reader.bool 3 fun q => [q == 2] where
  understands request pairs page address asks := by
    change (askedPage (addressPairs request)).toNat = page.toNat
    rw [address, List.nil_append, askedPage_of_asks asks]
  answers q least most := by
    have pages : q = 1 ∨ q = 2 ∨ q = 3 := by
      have : (3 : UInt32).toNat = 3 := rfl
      omega
    rcases pages with rfl | rfl | rfl
    · exact ⟨[.bool false], { page := 1, totalPages := 3 }, by decide, by decide, rfl, rfl, rfl,
        .cons rfl .nil⟩
    · exact ⟨[.bool true], { page := 2, totalPages := 3 }, by decide, by decide, rfl, rfl, rfl,
        .cons rfl .nil⟩
    · exact ⟨[.bool false], { page := 3, totalPages := 3 }, by decide, by decide, rfl, rfl, rfl,
        .cons rfl .nil⟩
  passing q _ _ answer member := by
    unfold flakyHost at member
    dsimp only at member
    split at member
    · rcases List.mem_cons.mp member with rfl | member
      · exact .inl ⟨_, rfl⟩
      · cases List.mem_singleton.mp member
        exact .inr ⟨_, rfl, .inr (.inr (by decide))⟩
    · split at member
      · cases List.mem_singleton.mp member
        exact .inr ⟨_, rfl, .inr (.inl rfl)⟩
      · cases member

theorem pages_listing_flaky :
    let channel := sampleChannel ⟨"cloudflare", [⟨"authorization", [], true⟩], Cloudflare.unwrap⟩ 2
    let wire := scriptedWire flakyHost.script fun _ => .nan
    let walk := channel.pages wire Json.Reader.bool "zones" [("page", "2")] false ([], 0)
    walk.outcome = .ok [true, false] ∧
      walk.calls =
        List.replicate 3 (channel.request { path := "zones", query := [("page", "2")] }) ++
          List.replicate 2 (channel.request { path := "zones", query := [("page", "3")] }) ∧
      replies flakyHost.script [] walk.calls =
        [.error "connection reset", .ok { status := 503 }, .ok (flakyHost.page 2),
          .ok { status := 429 }, .ok (flakyHost.page 3)] := by
  intro channel wire walk
  have patient : ∀ q, 1 ≤ q → q ≤ (3 : UInt32).toNat →
      (flakyHost.flaws q).length ≤ channel.policy.budget.toNat := by
    intro q _ _
    unfold flakyHost
    dsimp only
    split
    · decide
    · split <;> decide
  obtain ⟨outcome, calls, answers⟩ :=
    pages_listing channel wire Json.Reader.bool "zones" [("page", "2")] false flakyHost 2 3
      (fun q => [q == 2]) (fun _ => .nan) (fun h n s => s = (h, n)) rfl
      (.inr ⟨[], "2".toList, [], rfl, by simp, rfl⟩)
      (by decide) (by decide) flakyHost_keeps patient (scriptedWire_scripted _ _) ([], 0) rfl
  exact ⟨outcome, calls, answers⟩

end ControlPlane.Channel
