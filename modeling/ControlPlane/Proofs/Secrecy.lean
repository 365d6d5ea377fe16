import ControlPlane.Inspect
import ControlPlane.Proofs.Attempts
import ControlPlane.Proofs.Clients
import ControlPlane.Proofs.Operations
import ControlPlane.Rehearsal
import Mathlib.Data.List.Forall2
/-!
What the token of a client changes. A client signs its requests with a header that it never looks at
again: with another header in its place, a run is the same run with that header in its requests, as
long as the transport answers without looking at headers. So two clients that differ in their tokens
cannot be told apart by their outcomes, their waits, their samples or their descriptions.
-/
namespace ControlPlane

variable {σ ρ ε α β : Type}

def Ask.map (f : ρ → ρ) : Ask ρ → Ask ρ
  | .call request => .call (f request)
  | .wait delay => .wait delay
  | .draw => .draw

namespace Run

def mapCalls (f : ρ → ρ) (r : Run σ ρ ε α) : Run σ ρ ε α :=
  { r with steps := r.steps.map fun step => ⟨step.state, step.ask.map f⟩ }

theorem mapCalls_mapOutcome (f : ρ → ρ) (g : Except ε α → Except ε β) (r : Run σ ρ ε α) :
    (r.mapOutcome g).mapCalls f = (r.mapCalls f).mapOutcome g := rfl

theorem mapCalls_bind (f : ρ → ρ) (r : Run σ ρ ε α) (next : α → σ → Run σ ρ ε β) :
    (r.bind next).mapCalls f = (r.mapCalls f).bind fun a s => (next a s).mapCalls f := by
  obtain ⟨steps, outcome, final⟩ := r
  cases outcome with
  | error e => rfl
  | ok a => simp [bind, after, mapCalls]

theorem calls_mapCalls (f : ρ → ρ) (r : Run σ ρ ε α) : (r.mapCalls f).calls = r.calls.map f := by
  simp only [calls, mapCalls, List.filterMap_map, List.map_filterMap]
  congr 1
  funext ⟨s, ask⟩
  cases ask <;> rfl

theorem waits_mapCalls (f : ρ → ρ) (r : Run σ ρ ε α) : (r.mapCalls f).waits = r.waits := by
  simp only [waits, mapCalls, List.filterMap_map]
  congr 1
  funext ⟨s, ask⟩
  cases ask <;> rfl

theorem draws_mapCalls (f : ρ → ρ) (r : Run σ ρ ε α) : (r.mapCalls f).draws = r.draws := by
  simp only [draws, mapCalls, List.countP_map]
  congr 1
  funext ⟨s, ask⟩
  cases ask <;> rfl

end Run

namespace Environment

variable (env : Environment σ) (cancelled : ε) (f : ρ → ρ)

theorem mapCalls_call {service : Service σ ρ α}
    (blind : ∀ s request, service s (f request) = service s request) (request : ρ) (s : σ) :
    (env.call cancelled service request s).mapCalls f =
      env.call cancelled service (f request) s := by
  unfold call
  rw [blind]
  split
  · rfl
  · rcases (service s request).await env.fired with ⟨_ | answer, t⟩ <;> rfl

theorem mapCalls_pause (delay : Duration) (s : σ) :
    (env.pause cancelled delay s : Run σ ρ ε Unit).mapCalls f = env.pause cancelled delay s := by
  unfold pause
  rcases env.wait s delay with ⟨_ | _, t⟩ <;> rfl

theorem mapCalls_sample (wanted : Bool) (s : σ) :
    (env.sample wanted s : Run σ ρ ε Double).mapCalls f = env.sample wanted s := by
  cases wanted <;> rfl

end Environment

namespace Loop

variable (l : Loop σ ρ α ε β) (f : ρ → ρ)

theorem mapCalls_pause (attempt : Nat) (answer : α) (s : σ) :
    (l.pause attempt answer s).mapCalls f = l.pause attempt answer s := by
  unfold pause
  split
  · exact l.env.mapCalls_pause l.cancelled f _ s
  · rw [Retry.pause, Run.mapCalls_bind, Environment.mapCalls_sample]
    simp only [Environment.mapCalls_pause]

/-- A service that answers other requests alike lets the loop run alike. -/
theorem mapCalls_turns (blind : ∀ s request, l.service s (f request) = l.service s request)
    (left attempt : Nat) (s : σ) :
    (l.turns left attempt s).mapCalls f =
      { l with ask := fun i => f (l.ask i) }.turns left attempt s := by
  -- Both loops are given the same answer, judge it alike and draw alike before the next turn.
  induction left using Nat.strongRecOn generalizing attempt s with
  | _ left ih =>
    rw [turns_eq, turns_eq, Run.mapCalls_bind, Environment.mapCalls_call l.env l.cancelled f blind]
    congr 1
    funext answer t
    have same : { l with ask := fun i => f (l.ask i) }.verdict left answer =
        l.verdict left answer := rfl
    rw [same]
    cases final : l.verdict left answer with
    | some o => rfl
    | none =>
      obtain ⟨next, rfl⟩ := left_of_verdict final
      dsimp only
      rw [Run.mapCalls_bind, mapCalls_pause]
      congr 1
      funext _ u
      exact ih next (Nat.lt_succ_self next) (attempt + 1) u

end Loop

/-- The transport answers without looking at the headers of a request. -/
def Wire.Blind (wire : Wire σ) : Prop :=
  ∀ s request headers, wire.transport s { request with headers } = wire.transport s request

def Http.Request.signed (headers : List Http.Header) (request : Http.Request) : Http.Request :=
  { request with headers := Http.withHeader headers Channel.contentType }

def Run.signed (headers : List Http.Header) (r : Exchange σ α) : Exchange σ α :=
  r.mapCalls (Http.Request.signed headers)

namespace Channel

def signed (headers : List Http.Header) (channel : Channel) : Channel :=
  { channel with peer := { channel.peer with authorization := headers } }

theorem signed_of_make {peer : Peer} {headers : List Http.Header} {address : String}
    {settings : Settings} {first second : Channel} (opened : make peer address settings = .ok first)
    (other : make { peer with authorization := headers } address settings = .ok second) :
    first.signed headers = second := by
  unfold make at opened other
  cases read : readBase address with
  | error fault => simp only [read, Except.map, reduceCtorEq] at opened
  | ok base =>
    simp only [read, Except.map, Except.ok.injEq] at opened other
    rw [← opened, ← other]
    rfl

variable (channel : Channel) {wire : Wire σ} (blind : wire.Blind) (headers : List Http.Header)

include blind

theorem signed_send (call : Call) (s : σ) :
    (channel.send wire call s).signed headers = (channel.signed headers).send wire call s := by
  rw [send, send, attempts_eq_turns, attempts_eq_turns]
  exact Loop.mapCalls_turns _ _ (fun s request => blind s request _) _ 0 s

theorem signed_content (call : Call) (s : σ) :
    (channel.content wire call s).signed headers = (channel.signed headers).content wire call s := by
  rw [content, Run.signed, Run.mapCalls_mapOutcome, ← Run.signed, signed_send channel blind]
  rfl

theorem signed_result (reader : Json.Reader α) (call : Call) (s : σ) :
    (channel.result wire reader call s).signed headers =
      (channel.signed headers).result wire reader call s := by
  rw [result, Run.signed, Run.mapCalls_mapOutcome, ← Run.signed, signed_content channel blind]
  rfl

theorem signed_pagesFrom (reader : Json.Reader α) (call : Call) (requested : UInt32)
    (query : List (String × String)) (s : σ) :
    (channel.pagesFrom wire reader call requested query s).signed headers =
      (channel.signed headers).pagesFrom wire reader call requested query s := by
  induction requested, query, s using pagesFrom.induct call with
  | case1 requested query s ih =>
    rw [pagesFrom, pagesFrom, Run.signed, Run.mapCalls_bind, ← Run.signed,
      signed_content channel blind]
    congr 1
    funext found t
    have items_eq : (channel.signed headers).pageItems reader found =
        channel.pageItems reader found := rfl
    rw [items_eq]
    cases channel.pageItems reader found with
    | error fault => rfl
    | ok items =>
      dsimp only
      split
      · rfl
      · rename_i page more
        rw [Run.mapCalls_mapOutcome, ← Run.signed, ih found t page more]

theorem signed_pages (reader : Json.Reader α) (path : String) (query : List (String × String))
    (retryUnsafe : Bool) (s : σ) :
    (channel.pages wire reader path query retryUnsafe s).signed headers =
      (channel.signed headers).pages wire reader path query retryUnsafe s :=
  channel.signed_pagesFrom blind headers reader _ _ query s

end Channel

namespace Cloudflare.Client

def signed (headers : List Http.Header) (client : Client) : Client := ⟨client.channel.signed headers⟩

theorem exists_signed {address v w : String} {settings : Settings} {first second : Client}
    (opened : connect address v settings = .ok first)
    (other : connect address w settings = .ok second) :
    ∃ own new, first.signed [⟨"authorization", own, true⟩] = first ∧
      first.signed [⟨"authorization", new, true⟩] = second := by
  obtain ⟨own, made⟩ := exists_make opened
  obtain ⟨new, made'⟩ := exists_make other
  exact ⟨own, new, congrArg Client.mk (Channel.signed_of_make made made),
    congrArg Client.mk (Channel.signed_of_make made made')⟩

variable (client : Client) {wire : Wire σ} (blind : wire.Blind) (headers : List Http.Header)

include blind

theorem signed_request (reader : Json.Reader α) (method endpoint : String)
    (query : List (String × String)) (body : Option Body) (retryUnsafe : Bool) (s : σ) :
    (client.request wire reader method endpoint query body retryUnsafe s).signed headers =
      (client.signed headers).request wire reader method endpoint query body retryUnsafe s := by
  unfold request
  cases body.mapM encodeBody with
  | error fault => rfl
  | ok body => exact client.channel.signed_result blind headers reader _ s

theorem signed_get (reader : Json.Reader α) (endpoint : String) (query : List (String × String))
    (retryUnsafe : Bool) (s : σ) :
    (client.get wire reader endpoint query retryUnsafe s).signed headers =
      (client.signed headers).get wire reader endpoint query retryUnsafe s :=
  client.channel.signed_result blind headers reader _ s

theorem signed_zoneId (name : String) (s : σ) :
    (client.zoneId wire name s).signed headers = (client.signed headers).zoneId wire name s := by
  unfold zoneId
  dsimp only
  split
  · rfl
  · rw [Run.signed, Run.mapCalls_bind, ← Run.signed, client.signed_get blind]
    congr 1
    funext zones t
    cases (zones.getD []).head? <;> rfl

theorem signed_ownedRequest (reader : Json.Reader α) (owner : Owner) (method endpoint : String)
    (query : List (String × String)) (body : Option Body) (retryUnsafe : Bool) (s : σ) :
    (client.ownedRequest wire reader owner method endpoint query body retryUnsafe s).signed headers =
      (client.signed headers).ownedRequest wire reader owner method endpoint query body retryUnsafe
        s := by
  unfold ownedRequest
  cases owner.path with
  | error fault => rfl
  | ok path =>
    dsimp only
    split
    · rfl
    · exact client.signed_request blind headers reader method _ query body retryUnsafe s

theorem signed_createApplicationPolicy (reader : Json.Reader α) (owner : Owner)
    (application : String) (body : Body) (retryUnsafe : Bool) (s : σ) :
    (client.createApplicationPolicy wire reader owner application body retryUnsafe s).signed
        headers =
      (client.signed headers).createApplicationPolicy wire reader owner application body retryUnsafe
        s := by
  unfold createApplicationPolicy
  dsimp only
  split
  · rfl
  · exact client.signed_ownedRequest blind headers reader owner "POST" _ [] (some body) retryUnsafe s

theorem signed_perform (operation : Operation α) (s : σ) :
    (client.perform operation wire s).signed headers =
      (client.signed headers).perform operation wire s := by
  cases operation with
  | request reader method endpoint query body retryUnsafe =>
    exact client.signed_request blind headers reader method endpoint query body retryUnsafe s
  | get reader endpoint query retryUnsafe =>
    exact client.signed_get blind headers reader endpoint query retryUnsafe s
  | list reader endpoint query retryUnsafe =>
    exact client.channel.signed_pages blind headers reader endpoint query retryUnsafe s
  | zones => exact client.channel.signed_pages blind headers zoneRecord.read "/zones" [] false s
  | zoneId name => exact client.signed_zoneId blind headers name s
  | ownedRequest reader owner method endpoint query body retryUnsafe =>
    exact client.signed_ownedRequest blind headers reader owner method endpoint query body
      retryUnsafe s
  | createIdentityProvider reader account body retryUnsafe =>
    exact client.signed_ownedRequest blind headers reader (.account account) "POST"
      "/access/identity_providers" [] (some body) retryUnsafe s
  | createApplication reader owner body retryUnsafe =>
    exact client.signed_ownedRequest blind headers reader owner "POST" "/access/apps" []
      (some body) retryUnsafe s
  | createSharedPolicy reader account body retryUnsafe =>
    exact client.signed_ownedRequest blind headers reader (.account account) "POST"
      "/access/policies" [] (some body) retryUnsafe s
  | createApplicationPolicy reader owner application body retryUnsafe =>
    exact client.signed_createApplicationPolicy blind headers reader owner application body
      retryUnsafe s

end Cloudflare.Client

namespace Vault.Client

def signed (headers : List Http.Header) (client : Client) : Client := ⟨client.channel.signed headers⟩

theorem exists_signed {address v w : String} {settings : Settings} {first second : Client}
    (opened : connect address v settings = .ok first)
    (other : connect address w settings = .ok second) :
    ∃ own new, first.signed [⟨"x-vault-token", own, true⟩] = first ∧
      first.signed [⟨"x-vault-token", new, true⟩] = second := by
  obtain ⟨own, made⟩ := exists_make opened
  obtain ⟨new, made'⟩ := exists_make other
  exact ⟨own, new, congrArg Client.mk (Channel.signed_of_make made made),
    congrArg Client.mk (Channel.signed_of_make made made')⟩

variable (client : Client) {wire : Wire σ} (blind : wire.Blind) (headers : List Http.Header)

include blind

theorem signed_read (mount path : String) (retryUnsafe : Bool) (s : σ) :
    (client.read wire mount path retryUnsafe s).signed headers =
      (client.signed headers).read wire mount path retryUnsafe s := by
  unfold read
  cases secretPath mount path with
  | error fault => rfl
  | ok endpoint =>
    dsimp only
    rw [Run.signed, Run.mapCalls_mapOutcome, ← Run.signed, client.channel.signed_result blind]
    rfl

theorem signed_write (mount path : String) (fields : Body) (retryUnsafe : Bool) (s : σ) :
    (client.write wire mount path fields retryUnsafe s).signed headers =
      (client.signed headers).write wire mount path fields retryUnsafe s := by
  unfold write
  dsimp only
  split
  · rfl
  · rw [Run.signed, Run.mapCalls_bind, ← Run.signed, client.channel.signed_send blind]
    rfl

theorem signed_perform (operation : Operation α) (s : σ) :
    (client.perform operation wire s).signed headers =
      (client.signed headers).perform operation wire s := by
  cases operation with
  | read mount path retryUnsafe => exact client.signed_read blind headers mount path retryUnsafe s
  | write mount path fields retryUnsafe =>
    exact client.signed_write blind headers mount path fields retryUnsafe s

end Vault.Client

structure SameButToken (name : String) (first second : Http.Request) : Prop where
  method : first.method = second.method
  url : first.url = second.url
  body : first.body = second.body
  timeout : first.timeout = second.timeout
  headers : ∃ v w, first.headers = [⟨name, v, true⟩, Channel.contentType] ∧
    second.headers = [⟨name, w, true⟩, Channel.contentType]

/-- Two runs that differ at most in the values of a sensitive header of their requests. -/
structure Alike (name : String) (first second : Exchange σ α) : Prop where
  outcome : first.outcome = second.outcome
  final : first.final = second.final
  waits : first.waits = second.waits
  draws : first.draws = second.draws
  calls : List.Forall₂ (SameButToken name) first.calls second.calls

theorem alike_signed {name : String} (other : name ≠ "content-type") (v w : List UInt8)
    {r first second : Exchange σ α} (left : r.signed [⟨name, v, true⟩] = first)
    (right : r.signed [⟨name, w, true⟩] = second) : Alike name first second := by
  subst left right
  refine ⟨rfl, rfl, ?_, ?_, ?_⟩
  · rw [Run.signed, Run.signed, Run.waits_mapCalls, Run.waits_mapCalls]
  · rw [Run.signed, Run.signed, Run.draws_mapCalls, Run.draws_mapCalls]
  · rw [Run.signed, Run.signed, Run.calls_mapCalls, Run.calls_mapCalls, List.forall₂_map_left_iff,
      List.forall₂_map_right_iff, List.forall₂_same]
    intro request _
    exact ⟨rfl, rfl, rfl, rfl, v, w, Channel.withHeader_contentType other,
      Channel.withHeader_contentType other⟩

/-- Two clients of one address and one set of settings differ in nothing but the values of their
tokens, and these show in nothing but the value of one sensitive header of each request: not in
outcomes and what they say, not in waits, samples or descriptions. -/
theorem token_never_shows :
    (∀ {address v w : String} {settings : Settings} {first second : Cloudflare.Client},
      Cloudflare.Client.connect address v settings = .ok first →
      Cloudflare.Client.connect address w settings = .ok second →
        Inspect.controlPlane first = Inspect.controlPlane second ∧
        Inspect.applications first = Inspect.applications second ∧
        ∀ {σ α : Type} (wire : Wire σ), wire.Blind →
          ∀ (operation : Cloudflare.Operation α) (s : σ), Alike "authorization"
            (first.perform operation wire s) (second.perform operation wire s)) ∧
    (∀ {address v w : String} {settings : Settings} {first second : Vault.Client},
      Vault.Client.connect address v settings = .ok first →
      Vault.Client.connect address w settings = .ok second →
        Inspect.secretStore first = Inspect.secretStore second ∧
        ∀ {σ α : Type} (wire : Wire σ), wire.Blind →
          ∀ (operation : Vault.Operation α) (s : σ), Alike "x-vault-token"
            (first.perform operation wire s) (second.perform operation wire s)) := by
  constructor
  · intro address v w settings first second opened other
    obtain ⟨own, new, same, changed⟩ := Cloudflare.Client.exists_signed opened other
    refine ⟨?_, ?_, ?_⟩
    · rw [← changed]
      rfl
    · rw [← changed]
      rfl
    · intro σ α wire blind operation s
      refine alike_signed (by decide) own new (r := first.perform operation wire s) ?_ ?_
      · rw [first.signed_perform blind, same]
      · rw [first.signed_perform blind, changed]
  · intro address v w settings first second opened other
    obtain ⟨own, new, same, changed⟩ := Vault.Client.exists_signed opened other
    constructor
    · rw [← changed]
      rfl
    · intro σ α wire blind operation s
      refine alike_signed (by decide) own new (r := first.perform operation wire s) ?_ ?_
      · rw [first.signed_perform blind, same]
      · rw [first.signed_perform blind, changed]

theorem token_never_shows_two :
    let wire := Rehearsal.wire false []
    let stage : Rehearsal.Stage Rehearsal.Delivery := { cues := [{ answer := .error "refused" }] }
    ∃ (first second : Cloudflare.Client) (third fourth : Vault.Client),
      Cloudflare.Client.connect "http://127.0.0.1:8200" "a" {} = .ok first ∧
      Cloudflare.Client.connect "http://127.0.0.1:8200" "b" {} = .ok second ∧
      Vault.Client.connect "http://127.0.0.1:8200" "a" {} = .ok third ∧
      Vault.Client.connect "http://127.0.0.1:8200" "b" {} = .ok fourth ∧
      wire.Blind ∧
      Alike "authorization" (first.zoneId wire "example.org" stage)
        (second.zoneId wire "example.org" stage) ∧
      Alike "x-vault-token" (third.read wire "secret" "app" false stage)
        (fourth.read wire "secret" "app" false stage) := by
  intro wire stage
  obtain ⟨base, read⟩ := exists_local_base
  have filled : (Text.trimmed "a").isEmpty = false ∧ (Text.trimmed "b").isEmpty = false := by
    decide +kernel
  have bearers : Http.headerValue? ("Bearer " ++ Text.trimmed "a") =
        some (Text.utf8 "Bearer a".toList) ∧
      Http.headerValue? ("Bearer " ++ Text.trimmed "b") =
        some (Text.utf8 "Bearer b".toList) := by decide +kernel
  have values : Http.headerValue? (Text.trimmed "a") = some (Text.utf8 ['a']) ∧
      Http.headerValue? (Text.trimmed "b") = some (Text.utf8 ['b']) := by decide +kernel
  have named : Text.blank "http://127.0.0.1:8200" = false := by decide +kernel
  obtain ⟨first, opened⟩ :=
    Cloudflare.Client.connect_of_readBase filled.1 bearers.1 read {}
  obtain ⟨second, reopened⟩ :=
    Cloudflare.Client.connect_of_readBase filled.2 bearers.2 read {}
  obtain ⟨third, connected⟩ :=
    Vault.Client.connect_of_readBase named filled.1 values.1 read {}
  obtain ⟨fourth, reconnected⟩ :=
    Vault.Client.connect_of_readBase named filled.2 values.2 read {}
  have blind : wire.Blind := fun _ _ _ => rfl
  have looked := (token_never_shows.1 opened reopened).2.2 wire blind (.zoneId "example.org") stage
  have found := (token_never_shows.2 connected reconnected).2 wire blind
    (.read "secret" "app" false) stage
  exact ⟨first, second, third, fourth, opened, reopened, connected, reconnected, blind, looked,
    found⟩

end ControlPlane
