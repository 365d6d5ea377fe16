import ControlPlane.Cloudflare.Applications
import ControlPlane.Proofs.Clients
import ControlPlane.Proofs.Sending
import ControlPlane.Rehearsal
/-!
The budget of calls of an operation. Whatever the transport, the waits and the token do, a client
makes no more calls than its settings and the call allow: one more than there are retries where the
call may be repeated, and a single one where it may not. A fault that may pass is reported only when
the budget is spent, and every wait stands between two calls, the last one of a cancelled operation
apart.
-/
namespace ControlPlane

namespace Loop

variable {σ ρ α ε β : Type}

structure Tally (l : Loop σ ρ α ε β) (retries calls waits : Nat) (outcome : Except ε β) : Prop where
  within : waits ≤ retries
  again : waits ≠ 0 → ∃ e, l.again e = true
  ended : ((calls = waits ∨ calls = waits + 1) ∧ outcome = .error l.cancelled) ∨
    (calls = waits + 1 ∧ ∃ answer, l.verdict (retries - waits) answer = some outcome)

theorem Draws.waitsOf_eq {env : Environment σ} {t u : σ} {steps : List (Step σ ρ)}
    (drawn : Draws env t steps u) : waitsOf steps = [] := by
  rcases drawn with ⟨rfl, _⟩ | ⟨rfl, _⟩ <;> rfl

theorem tally_turns (l : Loop σ ρ α ε β) (left attempt : Nat) (s : σ) :
    l.Tally left (callsOf (l.turns left attempt s).steps).length
      (waitsOf (l.turns left attempt s).steps).length (l.turns left attempt s).outcome := by
  induction left using Nat.strongRecOn generalizing attempt s with
  | _ left ih =>
    have turn := l.turn left attempt s
    generalize l.turns left attempt s = r at turn
    cases turn with
    | barred fired => exact ⟨Nat.zero_le left, fun some_ => absurd rfl some_, .inl ⟨.inl rfl, rfl⟩⟩
    | interrupted t unfired given =>
      exact ⟨Nat.zero_le left, fun some_ => absurd rfl some_, .inl ⟨.inr rfl, rfl⟩⟩
    | settled answer t o unfired given final =>
      exact ⟨Nat.zero_le left, fun some_ => absurd rfl some_, .inr ⟨rfl, answer, final⟩⟩
    | refused answer t u v steps delay unfired given open_ drawn paused waited =>
      obtain ⟨more, e, _, again⟩ := (l.verdict_eq_none_iff left answer).mp open_
      simp only [callsOf_call, callsOf_append, drawn.callsOf_eq, waitsOf_call, waitsOf_append,
        drawn.waitsOf_eq, callsOf_wait, waitsOf_wait]
      exact ⟨Nat.one_le_iff_ne_zero.mpr more, fun _ => ⟨e, again⟩, .inl ⟨.inl rfl, rfl⟩⟩
    | repeated next answer t u v steps delay unfired given open_ left_eq drawn paused waited =>
      obtain ⟨_, e, _, again⟩ := (l.verdict_eq_none_iff left answer).mp open_
      obtain ⟨within, _, ended⟩ := ih next (by omega) (attempt + 1) v
      simp only [callsOf_call, callsOf_append, drawn.callsOf_eq, waitsOf_call, waitsOf_append,
        drawn.waitsOf_eq, callsOf_wait, waitsOf_wait, List.nil_append, List.length_cons]
      refine ⟨by omega, fun _ => ⟨e, again⟩, ?_⟩
      rcases ended with ⟨count, cancelled⟩ | ⟨count, last, final⟩
      · exact .inl ⟨by omega, cancelled⟩
      · refine .inr ⟨by omega, last, ?_⟩
        rw [left_eq, Nat.add_sub_add_right]
        exact final

namespace Tally

variable {l : Loop σ ρ α ε β} {retries calls waits : Nat} {outcome : Except ε β}

theorem calls_le (tally : l.Tally retries calls waits outcome) : calls ≤ waits + 1 := by
  rcases tally.ended with ⟨count, _⟩ | ⟨count, _⟩
  · omega
  · omega

theorem waits_eq_zero (tally : l.Tally retries calls waits outcome)
    (never : ∀ e, l.again e = false) : waits = 0 := by
  rcases Nat.eq_zero_or_pos waits with none_ | some_
  · exact none_
  · obtain ⟨e, again⟩ := tally.again (Nat.ne_of_gt some_)
    rw [never e] at again
    contradiction

theorem answered (tally : l.Tally retries calls waits outcome)
    (other : outcome ≠ .error l.cancelled) : calls = waits + 1 := by
  rcases tally.ended with ⟨_, cancelled⟩ | ⟨count, _⟩
  · exact absurd cancelled other
  · exact count

theorem spent (tally : l.Tally retries calls waits outcome) {e : ε} (failed : outcome = .error e)
    (other : e ≠ l.cancelled) (again : l.again e = true) : calls = retries + 1 := by
  rcases tally.ended with ⟨_, cancelled⟩ | ⟨count, answer, final⟩
  · rw [failed] at cancelled
    exact absurd (Except.error.inj cancelled) other
  · rw [failed] at final
    have judged : l.judge answer = .error e := (eq_judge_of_verdict final).symm
    have last : ¬ retries - waits ≠ 0 := by
      intro more
      rw [(l.verdict_eq_none_iff _ answer).mpr ⟨more, e, judged, again⟩] at final
      contradiction
    have within := tally.within
    omega

end Tally

end Loop

variable {σ α β : Type}

theorem exists_of_mapM_eq_error {f : α → Except Fault β} {optional : Option α} {fault : Fault}
    (failed : optional.mapM f = .error fault) : ∃ a, optional = some a ∧ f a = .error fault := by
  cases optional with
  | none => contradiction
  | some a =>
    have mapped : some <$> f a = .error fault := failed
    cases applied : f a with
    | ok b =>
      rw [applied] at mapped
      contradiction
    | error other =>
      rw [applied] at mapped
      exact ⟨a, rfl, applied.trans (congrArg Except.error (Except.error.inj mapped))⟩

/-- How many calls an operation may make: one more than there are retries where its method changes
nothing or the caller permits that it is repeated, and else a single one. -/
def allowance (retries : UInt32) (method : String) (retryUnsafe : Bool) : Nat :=
  if retryUnsafe = true ∨ method ∈ ["GET", "HEAD", "OPTIONS", "TRACE"] then retries.toNat + 1 else 1

/-- An operation stays within a budget of calls. -/
structure WithinBudget (budget : Nat) (r : Exchange σ α) : Prop where
  calls : r.calls.length ≤ budget
  spent : ∀ fault, r.outcome = .error fault → fault.mayPass = true → r.calls.length = budget
  waits : r.outcome ≠ .error .cancelled → r.waits.length = r.calls.length - 1
  cancelled : r.outcome = .error .cancelled →
    r.waits.length = r.calls.length - 1 ∨ r.waits.length = r.calls.length

/-- A reading of outcomes that hands a cancellation on and makes up no fault that may pass. -/
structure Honest (f : Except Fault α → Except Fault β) : Prop where
  cancelled : f (.error .cancelled) = .error .cancelled
  passing : ∀ outcome fault, f outcome = .error fault → fault.mayPass = true →
    ∃ earlier, outcome = .error earlier ∧ earlier.mayPass = true

theorem honest_bind {g : α → Except Fault β}
    (final : ∀ a fault, g a = .error fault → fault.mayPass = false) :
    Honest fun outcome => Except.bind outcome g where
  cancelled := rfl
  passing outcome fault failed passing := by
    cases outcome with
    | error earlier =>
      cases failed
      exact ⟨_, rfl, passing⟩
    | ok a =>
      rw [final a fault failed] at passing
      contradiction

theorem WithinBudget.mapOutcome {budget : Nat} {r : Exchange σ α}
    {f : Except Fault α → Except Fault β} (within : WithinBudget budget r) (honest : Honest f) :
    WithinBudget budget (r.mapOutcome f) where
  calls := within.calls
  spent fault failed passing := by
    obtain ⟨earlier, ended, passed⟩ := honest.passing r.outcome fault failed passing
    exact within.spent earlier ended passed
  waits other := by
    apply within.waits
    intro ended
    apply other
    rw [Run.outcome_mapOutcome, ended, honest.cancelled]
  cancelled _ := by
    by_cases ended : r.outcome = .error .cancelled
    · exact within.cancelled ended
    · exact .inl (within.waits ended)

theorem withinBudget_refused {budget : Nat} {fault : Fault} (final : fault.mayPass = false)
    (s : σ) : WithinBudget budget (Run.done (.error fault) s : Exchange σ α) where
  calls := Nat.zero_le budget
  spent other failed passing := by
    cases failed
    rw [final] at passing
    contradiction
  waits _ := rfl
  cancelled _ := .inl rfl

namespace Channel

variable (channel : Channel) (wire : Wire σ)

theorem allowance_of_repeatable {retries : UInt32} {call : Call}
    (repeatable : mayRepeat call = true) :
    allowance retries call.method call.retryUnsafe = retries.toNat + 1 :=
  if_pos ((mayRepeat_iff call).mp repeatable)

theorem allowance_of_single {retries : UInt32} {call : Call} (single : mayRepeat call = false) :
    allowance retries call.method call.retryUnsafe = 1 := by
  apply if_neg
  intro repeatable
  rw [(mayRepeat_iff call).mpr repeatable] at single
  contradiction

theorem tally_send (call : Call) (s : σ) :
    (channel.loop wire (channel.request call) (mayRepeat call)).Tally channel.policy.budget.toNat
      (channel.send wire call s).calls.length (channel.send wire call s).waits.length
      (channel.send wire call s).outcome := by
  rw [Run.calls_eq, Run.waits_eq, send, attempts_eq_turns]
  exact Loop.tally_turns _ channel.policy.budget.toNat 0 s

theorem send_withinBudget (call : Call) (s : σ) :
    WithinBudget (allowance channel.policy.budget call.method call.retryUnsafe)
      (channel.send wire call s) := by
  have tally := channel.tally_send wire call s
  have most := tally.calls_le
  refine ⟨?_, ?_, ?_, ?_⟩
  · cases repeatable : mayRepeat call with
    | true =>
      rw [allowance_of_repeatable repeatable]
      exact Nat.le_trans most (Nat.succ_le_succ tally.within)
    | false =>
      rw [tally.waits_eq_zero (fun fault => by simp [loop, repeatable])] at most
      rw [allowance_of_single repeatable]
      exact most
  · intro fault failed passing
    have other : fault ≠ .cancelled := by
      rintro rfl
      contradiction
    cases repeatable : mayRepeat call with
    | true =>
      rw [allowance_of_repeatable repeatable]
      exact tally.spent failed other (by simp [loop, repeatable, passing])
    | false =>
      have single := tally.waits_eq_zero (fun fault => by simp [loop, repeatable])
      have count := tally.answered (by rw [failed]; simpa [loop] using other)
      rw [allowance_of_single repeatable]
      omega
  · intro other
    have count := tally.answered other
    omega
  · intro _
    rcases tally.ended with ⟨count, _⟩ | ⟨count, _⟩
    · omega
    · omega

theorem decode_final (reader : Json.Reader α) (result : Json) (fault : Fault)
    (failed : channel.decode reader result = .error fault) : fault.mayPass = false := by
  unfold decode at failed
  cases read : Json.readValue reader result with
  | ok a => simp [read, Except.mapError] at failed
  | error misfit =>
    rw [read] at failed
    cases failed
    rfl

theorem result_withinBudget
    (final : ∀ body fault, channel.peer.unwrap body = .error fault → fault.mayPass = false)
    (reader : Json.Reader α) (call : Call) (s : σ) :
    WithinBudget (allowance channel.policy.budget call.method call.retryUnsafe)
      (channel.result wire reader call s) := by
  have read := (channel.send_withinBudget wire call s).mapOutcome
    (honest_bind fun response fault => final response.body fault)
  apply read.mapOutcome
  apply honest_bind
  intro found fault failed
  obtain ⟨result, _, unread⟩ := exists_of_mapM_eq_error failed
  exact channel.decode_final reader result fault unread

end Channel

theorem encodeBody_final (body : Body) (fault : Fault) (failed : encodeBody body = .error fault) :
    fault.mayPass = false := by
  cases body with
  | ok v => cases failed
  | error reason =>
    cases failed
    rfl

namespace Cloudflare

theorem unwrap_final (body : List UInt8) (fault : Fault) (failed : unwrap body = .error fault) :
    fault.mayPass = false := by
  unfold unwrap at failed
  split at failed
  · cases failed
    rfl
  · split at failed
    · contradiction
    · cases failed
      rfl

def firstZone (name : String) (zones : Option (List Zone)) : Except Fault String :=
  (zones.getD []).head?.elim (.error (.notFound "cloudflare zone" name)) fun zone => .ok zone.id

theorem Client.zoneId_eq (client : Client) (wire : Wire σ) (name : String) (s : σ) :
    client.zoneId wire name s =
      if (Text.trimmed name).isEmpty then
        .done (.error (.validation "zone name must not be empty")) s
      else
        (client.channel.result wire (Json.Reader.list zoneRecord.read)
          { path := "/zones", query := [("name", Text.trimmed name)] } s).mapOutcome fun outcome =>
            outcome.bind (firstZone (Text.trimmed name)) := by
  unfold Client.zoneId
  dsimp only
  split
  · rfl
  · apply Run.bind_eq_mapOutcome
    intro zones t
    unfold firstZone
    cases (zones.getD []).head? <;> rfl

theorem firstZone_final (name : String) (zones : Option (List Zone)) (fault : Fault)
    (missing : firstZone name zones = .error fault) : fault.mayPass = false := by
  unfold firstZone at missing
  cases found : (zones.getD []).head? with
  | none =>
    rw [found] at missing
    rw [← Except.error.inj missing]
    rfl
  | some zone =>
    rw [found] at missing
    contradiction

namespace Client

structure KeepsBudget (client : Client) (retries : UInt32) : Prop where
  request : ∀ {σ α : Type} (wire : Wire σ) (reader : Json.Reader α) (method endpoint : String)
    (query : List (String × String)) (body : Option Body) (retryUnsafe : Bool) (s : σ),
    WithinBudget (allowance retries method retryUnsafe)
      (client.request wire reader method endpoint query body retryUnsafe s)
  get : ∀ {σ α : Type} (wire : Wire σ) (reader : Json.Reader α) (endpoint : String)
    (query : List (String × String)) (retryUnsafe : Bool) (s : σ),
    WithinBudget (allowance retries "GET" retryUnsafe)
      (client.get wire reader endpoint query retryUnsafe s)
  zoneId : ∀ {σ : Type} (wire : Wire σ) (name : String) (s : σ),
    WithinBudget (allowance retries "GET" false) (client.zoneId wire name s)
  ownedRequest : ∀ {σ α : Type} (wire : Wire σ) (reader : Json.Reader α) (owner : Owner)
    (method endpoint : String) (query : List (String × String)) (body : Option Body)
    (retryUnsafe : Bool) (s : σ),
    WithinBudget (allowance retries method retryUnsafe)
      (client.ownedRequest wire reader owner method endpoint query body retryUnsafe s)
  createIdentityProvider : ∀ {σ α : Type} (wire : Wire σ) (reader : Json.Reader α)
    (account : String) (body : Body) (retryUnsafe : Bool) (s : σ),
    WithinBudget (allowance retries "POST" retryUnsafe)
      (client.createIdentityProvider wire reader account body retryUnsafe s)
  createApplication : ∀ {σ α : Type} (wire : Wire σ) (reader : Json.Reader α) (owner : Owner)
    (body : Body) (retryUnsafe : Bool) (s : σ),
    WithinBudget (allowance retries "POST" retryUnsafe)
      (client.createApplication wire reader owner body retryUnsafe s)
  createSharedPolicy : ∀ {σ α : Type} (wire : Wire σ) (reader : Json.Reader α) (account : String)
    (body : Body) (retryUnsafe : Bool) (s : σ),
    WithinBudget (allowance retries "POST" retryUnsafe)
      (client.createSharedPolicy wire reader account body retryUnsafe s)
  createApplicationPolicy : ∀ {σ α : Type} (wire : Wire σ) (reader : Json.Reader α)
    (owner : Owner) (application : String) (body : Body) (retryUnsafe : Bool) (s : σ),
    WithinBudget (allowance retries "POST" retryUnsafe)
      (client.createApplicationPolicy wire reader owner application body retryUnsafe s)

section

variable {client : Client} (unwraps : client.channel.peer.unwrap = Cloudflare.unwrap)
  (wire : Wire σ) (reader : Json.Reader α)

include unwraps

theorem result_withinBudget (call : Call) (s : σ) :
    WithinBudget (allowance client.channel.policy.budget call.method call.retryUnsafe)
      (client.channel.result wire reader call s) := by
  apply Channel.result_withinBudget
  rw [unwraps]
  exact unwrap_final

theorem request_withinBudget (method endpoint : String) (query : List (String × String))
    (body : Option Body) (retryUnsafe : Bool) (s : σ) :
    WithinBudget (allowance client.channel.policy.budget method retryUnsafe)
      (client.request wire reader method endpoint query body retryUnsafe s) := by
  unfold request
  split
  · rename_i fault failed
    obtain ⟨written, _, unwritten⟩ := exists_of_mapM_eq_error failed
    exact withinBudget_refused (encodeBody_final written fault unwritten) s
  · rename_i body _
    exact result_withinBudget unwraps wire reader
      { method, path := endpoint, query, body, retryUnsafe } s

theorem zoneId_withinBudget (name : String) (s : σ) :
    WithinBudget (allowance client.channel.policy.budget "GET" false)
      (client.zoneId wire name s) := by
  rw [zoneId_eq]
  split
  · exact withinBudget_refused rfl s
  · have looked := result_withinBudget unwraps wire (Json.Reader.list zoneRecord.read)
      { path := "/zones", query := [("name", Text.trimmed name)] } s
    exact looked.mapOutcome (honest_bind (firstZone_final _))

theorem ownedRequest_withinBudget (owner : Owner) (method endpoint : String)
    (query : List (String × String)) (body : Option Body) (retryUnsafe : Bool) (s : σ) :
    WithinBudget (allowance client.channel.policy.budget method retryUnsafe)
      (client.ownedRequest wire reader owner method endpoint query body retryUnsafe s) := by
  unfold ownedRequest
  split
  · rename_i fault failed
    have final : fault.mayPass = false := by
      simp only [Owner.path] at failed
      split at failed
      · cases failed
        rfl
      · contradiction
    exact withinBudget_refused final s
  · dsimp only
    split
    · exact withinBudget_refused rfl s
    · exact request_withinBudget unwraps wire reader method _ query body retryUnsafe s

theorem createApplicationPolicy_withinBudget (owner : Owner) (application : String) (body : Body)
    (retryUnsafe : Bool) (s : σ) :
    WithinBudget (allowance client.channel.policy.budget "POST" retryUnsafe)
      (client.createApplicationPolicy wire reader owner application body retryUnsafe s) := by
  unfold createApplicationPolicy
  dsimp only
  split
  · exact withinBudget_refused rfl s
  · exact ownedRequest_withinBudget unwraps wire reader owner "POST" _ [] (some body) retryUnsafe s

end

theorem keepsBudget {client : Client} (unwraps : client.channel.peer.unwrap = Cloudflare.unwrap) :
    client.KeepsBudget client.channel.policy.budget where
  request := request_withinBudget unwraps
  get wire reader endpoint query retryUnsafe s :=
    result_withinBudget unwraps wire reader { path := endpoint, query, retryUnsafe } s
  zoneId := zoneId_withinBudget unwraps
  ownedRequest := ownedRequest_withinBudget unwraps
  createIdentityProvider wire reader account body retryUnsafe s :=
    ownedRequest_withinBudget unwraps wire reader (.account account) "POST"
      "/access/identity_providers" [] (some body) retryUnsafe s
  createApplication wire reader owner body retryUnsafe s :=
    ownedRequest_withinBudget unwraps wire reader owner "POST" "/access/apps" [] (some body)
      retryUnsafe s
  createSharedPolicy wire reader account body retryUnsafe s :=
    ownedRequest_withinBudget unwraps wire reader (.account account) "POST" "/access/policies" []
      (some body) retryUnsafe s
  createApplicationPolicy := createApplicationPolicy_withinBudget unwraps

end Client

end Cloudflare

namespace Vault

theorem unwrap_final (body : List UInt8) (fault : Fault) (failed : unwrap body = .error fault) :
    fault.mayPass = false := by
  unfold unwrap at failed
  split at failed
  · contradiction
  · split at failed
    · cases failed
      rfl
    · contradiction
    · contradiction

theorem secretPath_final {mount path : String} {fault : Fault}
    (failed : secretPath mount path = .error fault) : fault.mayPass = false := by
  simp only [secretPath] at failed
  split at failed
  · cases failed
    rfl
  · split at failed
    · cases failed
      rfl
    · contradiction

namespace Client

structure KeepsBudget (client : Client) (retries : UInt32) : Prop where
  write : ∀ {σ : Type} (wire : Wire σ) (mount path : String) (fields : Body) (retryUnsafe : Bool)
    (s : σ), WithinBudget (allowance retries "POST" retryUnsafe)
      (client.write wire mount path fields retryUnsafe s)
  read : ∀ {σ : Type} (wire : Wire σ) (mount path : String) (retryUnsafe : Bool) (s : σ),
    WithinBudget (allowance retries "GET" retryUnsafe)
      (client.read wire mount path retryUnsafe s)

theorem write_withinBudget (client : Client) (wire : Wire σ) (mount path : String) (fields : Body)
    (retryUnsafe : Bool) (s : σ) :
    WithinBudget (allowance client.channel.policy.budget "POST" retryUnsafe)
      (client.write wire mount path fields retryUnsafe s) := by
  unfold write
  dsimp only
  split
  · rename_i fault failed
    apply withinBudget_refused
    cases placed : secretPath mount path with
    | error earlier =>
      simp only [placed, bind, Except.bind] at failed
      cases failed
      exact secretPath_final placed
    | ok endpoint =>
      cases written : encodeBody (fields.map fun v => Json.object [("data", v)]) with
      | error earlier =>
        simp only [placed, written, bind, Except.bind] at failed
        cases failed
        exact encodeBody_final _ _ written
      | ok body => simp [placed, written, bind, Except.bind, pure, Except.pure] at failed
  · rename_i endpoint body _
    rw [Run.bind_eq_mapOutcome (f := fun _ => .ok ()) fun _ _ => rfl]
    have sent := client.channel.send_withinBudget wire
      { method := "POST", path := endpoint, body := some body, retryUnsafe } s
    exact sent.mapOutcome (honest_bind fun _ _ failed => by contradiction)

theorem honest_read (name : String) : Honest fun outcome : Except Fault (Option (Option Secret)) =>
    match outcome with
    | .error fault => (.error (missing name fault) : Except Fault Secret)
    | .ok answer =>
      match answer.join with
      | some secret => .ok secret
      | none => .error (.decode ("vault response missing secret data at path: " ++ name)) where
  cancelled := rfl
  passing outcome fault failed passing := by
    cases outcome with
    | error earlier =>
      refine ⟨earlier, rfl, ?_⟩
      cases failed
      unfold missing at passing
      split at passing
      · contradiction
      · exact passing
    | ok answer =>
      dsimp only at failed
      split at failed
      · contradiction
      · cases failed
        contradiction

theorem read_withinBudget {client : Client} (unwraps : client.channel.peer.unwrap = Vault.unwrap)
    (wire : Wire σ) (mount path : String) (retryUnsafe : Bool) (s : σ) :
    WithinBudget (allowance client.channel.policy.budget "GET" retryUnsafe)
      (client.read wire mount path retryUnsafe s) := by
  unfold read
  split
  · rename_i fault failed
    exact withinBudget_refused (secretPath_final failed) s
  · rename_i endpoint _
    have found := client.channel.result_withinBudget wire (by rw [unwraps]; exact unwrap_final)
      answerRecord.read { path := endpoint, retryUnsafe } s
    exact found.mapOutcome (honest_read _)

theorem keepsBudget {client : Client} (unwraps : client.channel.peer.unwrap = Vault.unwrap) :
    client.KeepsBudget client.channel.policy.budget where
  write := client.write_withinBudget
  read := read_withinBudget unwraps

end Client

end Vault

/-- The clients stay within their budgets, whatever the transport answers, however its waits end and
whenever the token fires. -/
theorem clients_keep_budget :
    (∀ {address token : String} {settings : Settings} {client : Cloudflare.Client},
      Cloudflare.Client.connect address token settings = .ok client →
        client.KeepsBudget settings.retries) ∧
    (∀ {address token : String} {settings : Settings} {client : Vault.Client},
      Vault.Client.connect address token settings = .ok client →
        client.KeepsBudget settings.retries) := by
  constructor
  · intro address token settings client connected
    have made := Cloudflare.Client.madeOf connected
    rw [← made.retries]
    exact Cloudflare.Client.keepsBudget made.unwraps
  · intro address token settings client connected
    have made := Vault.Client.madeOf connected
    rw [← made.retries]
    exact Vault.Client.keepsBudget made.unwraps

theorem clients_keep_budget_refused :
    let settings : Settings := { retries := 2 }
    let wire := Rehearsal.wire false []
    let stage : Rehearsal.Stage Rehearsal.Delivery :=
      { cues := List.replicate 4 { answer := .error "refused" } }
    ∃ (cloudflare : Cloudflare.Client) (vault : Vault.Client),
      Cloudflare.Client.connect "http://host/a/" "t" settings = .ok cloudflare ∧
      Vault.Client.connect "http://host/a/" "t" settings = .ok vault ∧
      (cloudflare.zoneId wire "example.com" stage).calls.length ≤ 3 ∧
      (cloudflare.createApplication wire Json.Reader.any (.account "a") (.ok (.object [])) false
        stage).calls.length ≤ 1 ∧
      (vault.read wire "secret" "app" false stage).calls.length ≤ 3 ∧
      (vault.write wire "secret" "app" (.ok (.object [])) false stage).calls.length ≤ 1 := by
  intro settings wire stage
  have placed : (readBase "http://host/a/").toOption.isSome = true := by decide +kernel
  cases read : readBase "http://host/a/" with
  | error fault =>
    rw [read] at placed
    contradiction
  | ok base =>
    have filled : (Text.trimmed "t").isEmpty = false := by decide +kernel
    have bearer : Http.headerValue? ("Bearer " ++ Text.trimmed "t") =
        some (Text.utf8 "Bearer t".toList) := by decide +kernel
    have value : Http.headerValue? (Text.trimmed "t") = some (Text.utf8 ['t']) := by decide +kernel
    obtain ⟨cloudflare, opened⟩ :=
      Cloudflare.Client.connect_of_readBase filled bearer read settings
    obtain ⟨vault, connected⟩ :=
      Vault.Client.connect_of_readBase (by decide +kernel) filled value read settings
    have keeps := clients_keep_budget.1 opened
    have saves := clients_keep_budget.2 connected
    exact ⟨cloudflare, vault, opened, connected, (keeps.zoneId wire _ stage).calls,
      (keeps.createApplication wire _ _ _ _ stage).calls, (saves.read wire _ _ _ stage).calls,
      (saves.write wire _ _ _ _ stage).calls⟩

end ControlPlane
