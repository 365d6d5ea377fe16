import ControlPlane.Proofs.Budget
import ControlPlane.Proofs.Operations
import ControlPlane.Proofs.Walk
/-!
When the faults of an operation come up. An operation is either refused before it asks anything of
the world, and then it is refused in every world, also in one whose token has fired; or it is sent,
and then it fails by what it has met or by being cancelled. Faults of the making of a client come up
in no operation of it.
-/
namespace ControlPlane

inductive Phase where
  | making
  | preparing
  | exchanging
  | cancelling
deriving DecidableEq

def Fault.phase : Fault → Phase
  | .config _ | .region _ => .making
  | .validation _ | .encode _ => .preparing
  | .transport _ _ | .status _ _ _ | .api _ _ | .notFound _ _ | .decode _ => .exchanging
  | .cancelled => .cancelling

/-- The fault comes up only after something was sent, or by cancellation. -/
def Fault.IsLate (fault : Fault) : Prop := fault.phase = .exchanging ∨ fault.phase = .cancelling

variable {σ α β : Type}

/-- What an operation comes to in each world. -/
abbrev Conduct (α : Type) := (σ : Type) → Wire σ → σ → Exchange σ α

/-- The faults of an operation come up when they should. -/
structure Conduct.Phased (op : Conduct α) : Prop where
  made : ∀ {σ : Type} (wire : Wire σ) (s : σ) (fault : Fault),
    (op σ wire s).outcome = .error fault → fault.phase ≠ .making
  prepared : ∀ {σ : Type} (wire : Wire σ) (s : σ) (fault : Fault),
    (op σ wire s).outcome = .error fault → fault.phase = .preparing →
      ∀ {τ : Type} (other : Wire τ) (t : τ), op τ other t = .done (.error fault) t
  exchanged : ∀ {σ : Type} (wire : Wire σ) (s : σ) (fault : Fault),
    (op σ wire s).outcome = .error fault → fault.phase = .exchanging → (op σ wire s).calls ≠ []

/-- A run that makes a call, unless it is cancelled, and fails by nothing earlier. -/
structure Sent (r : Exchange σ α) : Prop where
  late : ∀ fault, r.outcome = .error fault → fault.IsLate
  called : r.outcome ≠ .error .cancelled → r.calls ≠ []

theorem phased_refused {fault : Fault} (early : fault.phase = .preparing) :
    Conduct.Phased (α := α) fun _ _ s => .done (.error fault) s where
  made _ _ other failed := by
    cases failed
    simp [early]
  prepared _ _ other failed _ _ _ _ := by
    cases failed
    rfl
  exchanged _ _ other failed exchanging := by
    cases failed
    rw [early] at exchanging
    contradiction

theorem phased_sent {op : Conduct α} (sent : ∀ {σ : Type} (wire : Wire σ) (s : σ),
    Sent (op σ wire s)) : op.Phased where
  made wire s fault failed making := by
    rcases (sent wire s).late fault failed with late | late <;> simp [making] at late
  prepared wire s fault failed preparing := by
    rcases (sent wire s).late fault failed with late | late <;> simp [preparing] at late
  exchanged wire s fault failed exchanging := by
    apply (sent wire s).called
    intro cancelled
    rw [cancelled] at failed
    cases failed
    contradiction

namespace Sent

theorem mapOutcome {r : Exchange σ α} {f : Except Fault α → Except Fault β} (sent : Sent r)
    (cancelled : f (.error .cancelled) = .error .cancelled)
    (late : ∀ outcome fault, f outcome = .error fault → fault.IsLate ∨ outcome = .error fault) :
    Sent (r.mapOutcome f) where
  late fault failed := by
    rcases late r.outcome fault failed with own | handed
    · exact own
    · exact sent.late fault handed
  called other := by
    apply sent.called
    intro ended
    rw [Run.outcome_mapOutcome, ended, cancelled] at other
    contradiction

theorem read {r : Exchange σ α} {g : α → Except Fault β} (sent : Sent r)
    (late : ∀ a fault, g a = .error fault → fault.IsLate) :
    Sent (r.mapOutcome fun outcome => Except.bind outcome g) := by
  apply sent.mapOutcome rfl
  intro outcome fault failed
  cases outcome with
  | error earlier =>
    cases failed
    exact .inr rfl
  | ok a => exact .inl (late a fault failed)

theorem after {r : Exchange σ α} (sent : Sent r) (steps : List (Step σ Http.Request)) :
    Sent (r.after steps) where
  late := sent.late
  called other := by
    rw [Run.calls_eq, Run.steps_after, callsOf_append, ← Run.calls_eq r]
    exact List.append_ne_nil_of_right_ne_nil _ (sent.called other)

end Sent

namespace Channel

variable (channel : Channel) (wire : Wire σ)

theorem judge_late {answer : Except String Http.Response} {fault : Fault}
    (failed : channel.judge answer = .error fault) : fault.IsLate := by
  unfold judge at failed
  split at failed
  · cases failed
    exact .inl rfl
  · split at failed
    · contradiction
    · cases failed
      exact .inl rfl

theorem send_sent (call : Call) (s : σ) : Sent (channel.send wire call s) := by
  have ended := (channel.tally_send wire call s).ended
  constructor
  · intro fault failed
    rcases ended with ⟨_, cancelled⟩ | ⟨_, answer, final⟩
    · rw [failed] at cancelled
      cases cancelled
      exact .inr rfl
    · rw [failed] at final
      exact channel.judge_late (Loop.eq_judge_of_verdict final).symm
  · intro other
    rcases ended with ⟨_, cancelled⟩ | ⟨count, _⟩
    · exact absurd cancelled other
    · exact List.ne_nil_of_length_eq_add_one count

theorem content_sent
    (late : ∀ body fault, channel.peer.unwrap body = .error fault → fault.IsLate)
    (call : Call) (s : σ) : Sent (channel.content wire call s) :=
  (channel.send_sent wire call s).read fun response fault => late response.body fault

theorem decode_late {reader : Json.Reader α} {result : Json} {fault : Fault}
    (failed : channel.decode reader result = .error fault) : fault.IsLate := by
  unfold decode at failed
  cases read : Json.readValue reader result with
  | ok a => simp [read, Except.mapError] at failed
  | error misfit =>
    rw [read] at failed
    cases failed
    exact .inl rfl

theorem result_sent
    (late : ∀ body fault, channel.peer.unwrap body = .error fault → fault.IsLate)
    (reader : Json.Reader α) (call : Call) (s : σ) : Sent (channel.result wire reader call s) := by
  apply (channel.content_sent wire late call s).read
  intro found fault failed
  obtain ⟨result, _, unread⟩ := exists_of_mapM_eq_error failed
  exact channel.decode_late unread

theorem pageItems_late {reader : Json.Reader α} {found : Content} {fault : Fault}
    (failed : channel.pageItems reader found = .error fault) : fault.IsLate := by
  unfold pageItems at failed
  split at failed
  · exact channel.decode_late failed
  · contradiction

theorem pagesFrom_sent
    (late : ∀ body fault, channel.peer.unwrap body = .error fault → fault.IsLate)
    (reader : Json.Reader α) (call : Call) (leg : Leg σ) :
    Sent (channel.pagesFrom wire reader call leg.page leg.query leg.start) := by
  induction leg using legs.induct channel wire reader call with
  | case1 leg ih =>
    cases next : leg.next? channel wire reader call with
    | none =>
      rw [pagesFrom_of_last channel wire reader call next]
      exact (channel.content_sent wire late _ leg.start).read fun _ _ => channel.pageItems_late
    | some page =>
      obtain ⟨items, _, walk⟩ := pagesFrom_of_more channel wire reader call next
      rw [walk]
      apply Sent.after
      apply (ih page next).mapOutcome rfl
      intro outcome fault failed
      cases outcome with
      | error earlier =>
        cases failed
        exact .inr rfl
      | ok rest => contradiction

end Channel

theorem encodeBody_early {body : Body} {fault : Fault} (failed : encodeBody body = .error fault) :
    fault.phase = .preparing := by
  cases body with
  | ok v => cases failed
  | error reason =>
    cases failed
    rfl

namespace Cloudflare

theorem unwrap_late (body : List UInt8) (fault : Fault) (failed : unwrap body = .error fault) :
    fault.IsLate := by
  unfold unwrap at failed
  split at failed
  · cases failed
    exact .inl rfl
  · split at failed
    · contradiction
    · cases failed
      exact .inl rfl

theorem firstZone_late (name : String) (zones : Option (List Zone)) (fault : Fault)
    (missing : firstZone name zones = .error fault) : fault.IsLate := by
  unfold firstZone at missing
  cases found : (zones.getD []).head? with
  | none =>
    rw [found] at missing
    cases missing
    exact .inl rfl
  | some zone =>
    rw [found] at missing
    contradiction

theorem Owner.path_early {owner : Owner} {fault : Fault} (failed : owner.path = .error fault) :
    fault.phase = .preparing := by
  simp only [path] at failed
  split at failed
  · cases failed
    rfl
  · contradiction

namespace Client

section

variable {client : Client} (unwraps : client.channel.peer.unwrap = Cloudflare.unwrap)
  (reader : Json.Reader α)

include unwraps

theorem late_of_unwraps (body : List UInt8) (fault : Fault)
    (failed : client.channel.peer.unwrap body = .error fault) : fault.IsLate := by
  rw [unwraps] at failed
  exact unwrap_late body fault failed

theorem result_sent (wire : Wire σ) (call : Call) (s : σ) :
    Sent (client.channel.result wire reader call s) :=
  client.channel.result_sent wire (late_of_unwraps unwraps) reader call s

theorem request_phased (method endpoint : String) (query : List (String × String))
    (body : Option Body) (retryUnsafe : Bool) :
    Conduct.Phased fun _ wire s =>
      client.request wire reader method endpoint query body retryUnsafe s := by
  unfold request
  cases written : body.mapM encodeBody with
  | error fault =>
    obtain ⟨value, _, unwritten⟩ := exists_of_mapM_eq_error written
    exact phased_refused (encodeBody_early unwritten)
  | ok bytes => exact phased_sent fun wire => result_sent unwraps reader wire _

theorem list_phased (endpoint : String) (query : List (String × String)) (retryUnsafe : Bool) :
    Conduct.Phased fun _ wire s => client.list wire reader endpoint query retryUnsafe s := by
  apply phased_sent
  intro σ wire s
  exact client.channel.pagesFrom_sent wire (late_of_unwraps unwraps) reader _
    ⟨Channel.startPage query, query, s⟩

theorem zoneId_phased (name : String) :
    Conduct.Phased fun _ wire s => client.zoneId wire name s := by
  simp only [zoneId_eq]
  split
  · exact phased_refused rfl
  · apply phased_sent
    intro σ wire s
    have looked := result_sent unwraps (Json.Reader.list zoneRecord.read) wire
      { path := "/zones", query := [("name", Text.trimmed name)] } s
    exact looked.read (firstZone_late _)

theorem ownedRequest_phased (owner : Owner) (method endpoint : String)
    (query : List (String × String)) (body : Option Body) (retryUnsafe : Bool) :
    Conduct.Phased fun _ wire s =>
      client.ownedRequest wire reader owner method endpoint query body retryUnsafe s := by
  unfold ownedRequest
  cases placed : owner.path with
  | error fault => exact phased_refused (Owner.path_early placed)
  | ok path =>
    dsimp only
    split
    · exact phased_refused rfl
    · exact request_phased unwraps reader method _ query body retryUnsafe

theorem createApplicationPolicy_phased (owner : Owner) (application : String) (body : Body)
    (retryUnsafe : Bool) :
    Conduct.Phased fun _ wire s =>
      client.createApplicationPolicy wire reader owner application body retryUnsafe s := by
  unfold createApplicationPolicy
  dsimp only
  split
  · exact phased_refused rfl
  · exact ownedRequest_phased unwraps reader owner "POST" _ [] (some body) retryUnsafe

theorem perform_phased (operation : Operation α) :
    Conduct.Phased fun _ wire s => client.perform operation wire s := by
  cases operation with
  | request reader method endpoint query body retryUnsafe =>
    exact request_phased unwraps reader method endpoint query body retryUnsafe
  | get reader endpoint query retryUnsafe =>
    exact phased_sent fun wire => result_sent unwraps reader wire _
  | list reader endpoint query retryUnsafe =>
    exact list_phased unwraps reader endpoint query retryUnsafe
  | zones => exact list_phased unwraps zoneRecord.read "/zones" [] false
  | zoneId name => exact zoneId_phased unwraps name
  | ownedRequest reader owner method endpoint query body retryUnsafe =>
    exact ownedRequest_phased unwraps reader owner method endpoint query body retryUnsafe
  | createIdentityProvider reader account body retryUnsafe =>
    exact ownedRequest_phased unwraps reader (.account account) "POST"
      "/access/identity_providers" [] (some body) retryUnsafe
  | createApplication reader owner body retryUnsafe =>
    exact ownedRequest_phased unwraps reader owner "POST" "/access/apps" [] (some body)
      retryUnsafe
  | createSharedPolicy reader account body retryUnsafe =>
    exact ownedRequest_phased unwraps reader (.account account) "POST" "/access/policies" []
      (some body) retryUnsafe
  | createApplicationPolicy reader owner application body retryUnsafe =>
    exact createApplicationPolicy_phased unwraps reader owner application body retryUnsafe

end

end Client

end Cloudflare

namespace Vault

theorem unwrap_late (body : List UInt8) (fault : Fault) (failed : unwrap body = .error fault) :
    fault.IsLate := by
  unfold unwrap at failed
  split at failed
  · contradiction
  · split at failed
    · cases failed
      exact .inl rfl
    · contradiction
    · contradiction

theorem secretPath_early {mount path : String} {fault : Fault}
    (failed : secretPath mount path = .error fault) : fault.phase = .preparing := by
  simp only [secretPath] at failed
  split at failed
  · cases failed
    rfl
  · split at failed
    · cases failed
      rfl
    · contradiction

namespace Client

theorem missing_late (name : String) (fault : Fault) :
    (missing name fault).IsLate ∨ missing name fault = fault := by
  unfold missing
  split
  · exact .inl (.inl rfl)
  · exact .inr rfl

theorem write_phased (client : Client) (mount path : String) (fields : Body)
    (retryUnsafe : Bool) :
    Conduct.Phased fun _ wire s => client.write wire mount path fields retryUnsafe s := by
  unfold write
  cases placed : secretPath mount path with
  | error fault => exact phased_refused (secretPath_early placed)
  | ok endpoint =>
    cases written : encodeBody (fields.map fun v => Json.object [("data", v)]) with
    | error fault =>
      simp only [bind, Except.bind]
      exact phased_refused (encodeBody_early written)
    | ok body =>
      apply phased_sent
      intro σ wire s
      simp only [bind, Except.bind, pure, Except.pure]
      rw [Run.bind_eq_mapOutcome (f := fun _ => .ok ()) fun _ _ => rfl]
      exact (client.channel.send_sent wire _ s).read fun _ _ failed => by contradiction

theorem read_phased {client : Client} (unwraps : client.channel.peer.unwrap = Vault.unwrap)
    (mount path : String) (retryUnsafe : Bool) :
    Conduct.Phased fun _ wire s => client.read wire mount path retryUnsafe s := by
  unfold read
  cases placed : secretPath mount path with
  | error fault => exact phased_refused (secretPath_early placed)
  | ok endpoint =>
    apply phased_sent
    intro σ wire s
    have found := client.channel.result_sent wire (by rw [unwraps]; exact unwrap_late)
      answerRecord.read { path := endpoint, retryUnsafe } s
    apply found.mapOutcome rfl
    intro outcome fault failed
    cases outcome with
    | error earlier =>
      have same := Except.error.inj failed
      rcases missing_late (String.ofList (clean path)) earlier with own | handed
      · exact .inl (same ▸ own)
      · exact .inr (congrArg Except.error (handed.symm.trans same))
    | ok answer =>
      dsimp only at failed
      split at failed
      · contradiction
      · cases failed
        exact .inl (.inl rfl)

theorem perform_phased {client : Client} (unwraps : client.channel.peer.unwrap = Vault.unwrap)
    (operation : Operation α) :
    Conduct.Phased fun _ wire s => client.perform operation wire s := by
  cases operation with
  | read mount path retryUnsafe => exact read_phased unwraps mount path retryUnsafe
  | write mount path fields retryUnsafe => exact client.write_phased mount path fields retryUnsafe

end Client

end Vault

/-- Whatever is asked of a client and whatever the world does: no operation fails by a fault of the
client's making; one that is refused is refused before it asks anything of the world, even if the
token has fired; and any other fault but a cancellation is met only after a call was made. -/
theorem clients_keep_phases :
    (∀ {address token : String} {settings : Settings} {client : Cloudflare.Client},
      Cloudflare.Client.connect address token settings = .ok client →
        ∀ {α : Type} (operation : Cloudflare.Operation α),
          Conduct.Phased fun _ wire s => client.perform operation wire s) ∧
    (∀ {address token : String} {settings : Settings} {client : Vault.Client},
      Vault.Client.connect address token settings = .ok client →
        ∀ {α : Type} (operation : Vault.Operation α),
          Conduct.Phased fun _ wire s => client.perform operation wire s) := by
  constructor
  · intro address token settings client connected α operation
    exact Cloudflare.Client.perform_phased (Cloudflare.Client.madeOf connected).unwraps operation
  · intro address token settings client connected α operation
    exact Vault.Client.perform_phased (Vault.Client.madeOf connected).unwraps operation

theorem clients_keep_phases_fired :
    let wire := Rehearsal.wire false []
    let fired : Rehearsal.Stage Rehearsal.Delivery := { cues := [], fired := true }
    let refusing : Rehearsal.Stage Rehearsal.Delivery :=
      { cues := [{ answer := .error "refused" }] }
    ∃ (cloudflare : Cloudflare.Client) (vault : Vault.Client),
      Cloudflare.Client.connect "http://127.0.0.1:8200" "t" {} = .ok cloudflare ∧
      Vault.Client.connect "http://127.0.0.1:8200" "t" {} = .ok vault ∧
      cloudflare.request wire Json.Reader.any "POST" "/zones" [] (some (.error "no text")) true
          fired =
        .done (.error (.encode "marshal request body: no text")) fired ∧
      vault.write wire "secret" " / " (.ok .null) true fired =
        .done (.error (.validation "secret path must not be empty")) fired ∧
      ∀ fault, (vault.read wire "secret" "app" false refusing).outcome = .error fault →
        fault.phase ≠ .making ∧ (fault.phase = .exchanging →
          (vault.read wire "secret" "app" false refusing).calls ≠ []) := by
  intro wire fired refusing
  obtain ⟨base, read⟩ := exists_local_base
  have filled : (Text.trimmed "t").isEmpty = false := by decide +kernel
  have bearer : Http.headerValue? ("Bearer " ++ Text.trimmed "t") =
      some (Text.utf8 "Bearer t".toList) := by decide +kernel
  have value : Http.headerValue? (Text.trimmed "t") = some (Text.utf8 ['t']) := by decide +kernel
  obtain ⟨cloudflare, opened⟩ := Cloudflare.Client.connect_of_readBase filled bearer read {}
  obtain ⟨vault, connected⟩ :=
    Vault.Client.connect_of_readBase (by decide +kernel) filled value read {}
  have creating := clients_keep_phases.1 opened
    (.request Json.Reader.any "POST" "/zones" [] (some (.error "no text")) true)
  have saving := clients_keep_phases.2 connected (.write "secret" " / " (.ok .null) true)
  have reading := clients_keep_phases.2 connected (.read "secret" "app" false)
  refine ⟨cloudflare, vault, opened, connected, ?_, ?_, ?_⟩
  · exact creating.prepared wire refusing _ rfl rfl wire fired
  · exact saving.prepared wire refusing _ rfl rfl wire fired
  · intro fault failed
    exact ⟨reading.made wire refusing fault failed, reading.exchanged wire refusing fault failed⟩

end ControlPlane
