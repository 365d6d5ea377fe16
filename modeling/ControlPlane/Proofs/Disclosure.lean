import ControlPlane.Proofs.Clients
import ControlPlane.Proofs.Shape
import ControlPlane.Proofs.Steps
import ControlPlane.Proofs.Utf8
import ControlPlane.Rehearsal
/-!
What a failed read of a secret says about the answer to it. Its words depend on the shape of the
answer and on one string of it at most: the string that stands where the answer, its inner part or
the fields of the secret should. They quote that string, and it may be the secret.
-/
namespace ControlPlane

namespace Json

/-- Blanks are no tokens, but for the form feed, which is blank in a body and broken in a text. -/
theorem tokensWith_of_blank {body : List UInt8} (blank : body.all Vault.isBlankByte = true)
    (fuel : Nat) :
    tokensWith fuel (Text.characters body) = [] ∨
      tokensWith fuel (Text.characters body) = [.broken] := by
  unfold Text.characters
  induction body generalizing fuel with
  | nil => cases fuel <;> exact .inl rfl
  | cons b body ih =>
    cases fuel with
    | zero => exact .inl rfl
    | succ fuel =>
      rw [List.all_cons, Bool.and_eq_true] at blank
      have later := ih blank.2 fuel
      have first := blank.1
      simp only [Vault.isBlankByte, Bool.or_eq_true, decide_eq_true_eq] at first
      rcases first with (((rfl | rfl) | rfl) | rfl) | rfl
      · rw [Text.readFrom_whole (c := '\t') rfl]
        exact later
      · rw [Text.readFrom_whole (c := '\n') rfl]
        exact later
      · rw [Text.readFrom_whole (c := '\x0c') rfl]
        exact .inr rfl
      · rw [Text.readFrom_whole (c := '\r') rfl]
        exact later
      · rw [Text.readFrom_whole (c := ' ') rfl]
        exact later

theorem readText_of_blank {body : List UInt8} (blank : body.all Vault.isBlankByte = true)
    {v : Json} : readText .any body ≠ .ok v := by
  intro read
  have found := json?_of_readText read
  unfold tokens at found
  rcases tokensWith_of_blank blank (Text.characters body).length with none | broken
  · rw [none] at found
    contradiction
  · rw [broken] at found
    contradiction

end Json

namespace Vault

/-- The string of an answer that stands in the place of a container: of the answer itself, of its
inner part or of the fields of the secret. -/
def exposed : Json → Option String :=
  Json.misplacedIn "data" (Json.misplacedIn "data" Json.misplaced)

theorem discreet_answer : Json.Discreet (.optional answerRecord.read) exposed := by
  have fields := Json.discreet_optional Json.discreet_members rfl
  have data : Json.Discreet dataRecord.read _ := Json.discreet_record rfl fields
  have answer : Json.Discreet answerRecord.read _ :=
    Json.discreet_record rfl (Json.discreet_optional data rfl)
  exact Json.discreet_optional answer rfl

def secretOf (name : String) (answer : Except Json.Misfit (Option (Option Secret))) :
    Except Fault Secret :=
  match answer with
  | .error misfit => .error (.decode ("decode " ++ peerName ++ " result: " ++ misfit.message))
  | .ok found =>
    match found.join with
    | some secret => .ok secret
    | none => .error (.decode ("vault response missing secret data at path: " ++ name))

theorem exists_message_of_secretOf {name : String}
    {answer : Except Json.Misfit (Option (Option Secret))} {fault : Fault}
    (failed : secretOf name answer = .error fault) :
    (∃ misfit, answer = .error misfit ∧
      fault = .decode ("decode " ++ peerName ++ " result: " ++ misfit.message)) ∨
    (∃ found, answer = .ok found ∧
      fault = .decode ("vault response missing secret data at path: " ++ name)) := by
  cases answer with
  | error misfit => exact .inl ⟨misfit, rfl, (Except.error.inj failed).symm⟩
  | ok found =>
    refine .inr ⟨found, rfl, ?_⟩
    simp only [secretOf] at failed
    split at failed
    · contradiction
    · exact (Except.error.inj failed).symm

theorem message_eq_iff_of_parallel {name : String} {shown shown' : Option String}
    {answer answer' : Except Json.Misfit (Option (Option Secret))} {fault fault' : Fault}
    (parallel : Json.Parallel shown shown' answer answer')
    (failed : secretOf name answer = .error fault)
    (failed' : secretOf name answer' = .error fault') :
    fault.message = fault'.message ↔ shown = shown' := by
  rcases exists_message_of_secretOf failed with ⟨misfit, rfl, rfl⟩ | ⟨found, rfl, rfl⟩ <;>
    rcases exists_message_of_secretOf failed' with ⟨misfit', rfl, rfl⟩ | ⟨found', rfl, rfl⟩
  case inl.inl =>
    have unprefixed : "decode " ++ peerName ++ " result: " ++ misfit.message =
        "decode " ++ peerName ++ " result: " ++ misfit'.message ↔
          misfit.message = misfit'.message := String.append_right_inj _
    exact (String.append_right_inj "decode error: ").trans
      (unprefixed.trans parallel.message_eq_iff)
  case inl.inr => cases parallel
  case inr.inl => cases parallel
  case inr.inr =>
    cases parallel
    exact ⟨fun _ => rfl, fun _ => rfl⟩

namespace Client

variable {σ τ : Type}

/-- A read is answered with a body: its call ends with a response of the 200 class. -/
def Answered (client : Client) (wire : Wire σ) (mount path : String) (retryUnsafe : Bool) (s : σ)
    (body : List UInt8) : Prop :=
  ∃ endpoint response, secretPath mount path = .ok endpoint ∧
    (client.channel.send wire { path := endpoint, retryUnsafe } s).outcome = .ok response ∧
    response.body = body

theorem decode_unwrap {channel : Channel} {token : List UInt8}
    (authenticated : channel.peer = peer token) {body : List UInt8} {v : Json}
    (text : Json.readText .any body = .ok v) :
    ((channel.peer.unwrap body).bind fun found =>
        found.result.mapM (channel.decode answerRecord.read)) =
      (Json.readValue (.optional answerRecord.read) v).mapError fun misfit =>
        .decode ("decode " ++ peerName ++ " result: " ++ misfit.message) := by
  have filled : body.all isBlankByte = false := by
    rw [← Bool.not_eq_true]
    exact fun blank => Json.readText_of_blank blank text
  have decoded : channel.decode answerRecord.read v =
      (Json.readValue answerRecord.read v).mapError fun misfit =>
        .decode ("decode " ++ peerName ++ " result: " ++ misfit.message) := by
    rw [Channel.decode, authenticated]
    rfl
  have found : (channel.decode answerRecord.read v).map some =
      ((Json.readValue answerRecord.read v).map some).mapError fun misfit =>
        .decode ("decode " ++ peerName ++ " result: " ++ misfit.message) := by
    rw [decoded]
    cases Json.readValue answerRecord.read v <;> rfl
  rw [authenticated]
  simp only [peer, unwrap, filled, text, Bool.false_eq_true, if_false]
  cases v with
  | null => rfl
  | bool _ | number _ | string _ | array _ | object _ => exact found

theorem read_of_answered {client : Client} {token : List UInt8}
    (authenticated : client.channel.peer = peer token) {wire : Wire σ} {mount path : String}
    {retryUnsafe : Bool} {s : σ} {body : List UInt8}
    (answered : client.Answered wire mount path retryUnsafe s body) {v : Json}
    (text : Json.readText .any body = .ok v) :
    (client.read wire mount path retryUnsafe s).outcome =
      secretOf (String.ofList (clean path)) (Json.readValue (.optional answerRecord.read) v) := by
  obtain ⟨endpoint, response, placed, sent, rfl⟩ := answered
  have decoded : (((Except.ok response).bind fun response =>
      client.channel.peer.unwrap response.body).bind fun found =>
        found.result.mapM (client.channel.decode answerRecord.read)) = _ :=
    decode_unwrap authenticated text
  unfold read
  rw [placed]
  dsimp only
  rw [Run.outcome_mapOutcome, Channel.result, Run.outcome_mapOutcome, Channel.content,
    Run.outcome_mapOutcome, sent, decoded]
  cases Json.readValue (.optional answerRecord.read) v <;> rfl

/-- Two reads of one secret that fail on answers of one shape fail in the same words, exactly if
their answers have the same string, or none, in the place of a container. -/
theorem read_shows_exposed {client : Client} {address token : String} {settings : Settings}
    (connected : connect address token settings = .ok client) {wire : Wire σ} {other : Wire τ}
    {mount path : String} {retryUnsafe retryUnsafe' : Bool} {s : σ} {t : τ}
    {body body' : List UInt8} (answered : client.Answered wire mount path retryUnsafe s body)
    (answered' : client.Answered other mount path retryUnsafe' t body') {v w : Json}
    (text : Json.readText .any body = .ok v) (text' : Json.readText .any body' = .ok w)
    (same : Json.textShape body = Json.textShape body') {fault fault' : Fault}
    (failed : (client.read wire mount path retryUnsafe s).outcome = .error fault)
    (failed' : (client.read other mount path retryUnsafe' t).outcome = .error fault') :
    fault.message = fault'.message ↔ exposed v = exposed w := by
  obtain ⟨value, opened⟩ := exists_make connected
  have authenticated := Channel.peer_of_make opened
  rw [read_of_answered authenticated answered text] at failed
  rw [read_of_answered authenticated answered' text'] at failed'
  have parallel := discreet_answer v w (Json.shape_eq_of_textShape same text text')
  exact message_eq_iff_of_parallel parallel failed failed'

theorem answered_rehearsed {client : Client} {mount path endpoint : String}
    (placed : secretPath mount path = .ok endpoint) (body : List UInt8) :
    client.Answered (Rehearsal.wire false []) mount path false
      { cues := [{ answer := .ok { body } }] } body := by
  refine ⟨endpoint, { body }, placed, ?_, rfl⟩
  rw [Channel.send, Channel.attempts]
  rfl

def answerTokens (fields : List Json.Token) : List Json.Token :=
  [.openObject, .string (some "data"), .colon, .openObject, .string (some "data"), .colon] ++
    fields ++ [.closeObject, .closeObject]

def answerWith (fields : Json) : Json := .object [("data", .object [("data", fields)])]

section

variable {client : Client} {address token : String} {settings : Settings}
  (connected : connect address token settings = .ok client) {mount path endpoint : String}
  (placed : secretPath mount path = .ok endpoint) {body : List UInt8} {secret : String}

include connected placed

theorem read_rehearsed {v : Json} (text : Json.readText .any body = .ok v) :
    (client.read (Rehearsal.wire false []) mount path false
      { cues := [{ answer := .ok { body } }] }).outcome =
        secretOf (String.ofList (clean path))
          (Json.readValue (.optional answerRecord.read) v) := by
  obtain ⟨value, opened⟩ := exists_make connected
  exact read_of_answered (Channel.peer_of_make opened) (answered_rehearsed placed body) text

theorem read_bare (text : Json.readText .any body = .ok (answerWith (.string secret))) :
    (client.read (Rehearsal.wire false []) mount path false
      { cues := [{ answer := .ok { body } }] }).outcome =
        .error (.decode ("decode " ++ peerName ++ " result: " ++
          (Json.Misfit.kind (.string secret) "a map").message)) :=
  read_rehearsed connected placed text

end

theorem read_shows_exposed_listed :
    let wire := Rehearsal.wire false []
    let stage (body : List UInt8) : Rehearsal.Stage Rehearsal.Delivery :=
      { cues := [{ answer := .ok { body } }] }
    let first := Text.utf8 "\x7b\"data\":\x7b\"data\":[\"alpha\"]\x7d\x7d".toList
    let second := Text.utf8 "\x7b\"data\":\x7b\"data\":[\"beta\"]\x7d\x7d".toList
    Json.textShape first = Json.textShape second ∧
    ∃ (client : Client) (fault fault' : Fault),
      connect "http://127.0.0.1:8200" "t" {} = .ok client ∧
      (client.read wire "secret" "app" false (stage first)).outcome = .error fault ∧
      (client.read wire "secret" "app" false (stage second)).outcome = .error fault' ∧
      fault.message = fault'.message := by
  intro wire stage first second
  have tokens_eq : Json.tokens first =
      answerTokens [.openArray, .string (some "alpha"), .closeArray] := by decide +kernel
  have tokens_eq' : Json.tokens second =
      answerTokens [.openArray, .string (some "beta"), .closeArray] := by decide +kernel
  have text : Json.readText .any first = .ok (answerWith (.array [.string "alpha"])) := by
    rw [Json.readText, tokens_eq]
    rfl
  have text' : Json.readText .any second = .ok (answerWith (.array [.string "beta"])) := by
    rw [Json.readText, tokens_eq']
    rfl
  have same : Json.textShape first = Json.textShape second := by
    rw [Json.textShape, Json.textShape, tokens_eq, tokens_eq']
    rfl
  have placed := secretPath_eq_ok (show (secretPath "secret" "app").toOption =
    some "/v1/secret/data/app" by decide +kernel)
  obtain ⟨client, connected, _⟩ := exists_local_client
  have failed := read_rehearsed connected placed text
  have failed' := read_rehearsed connected placed text'
  refine ⟨same, client, _, _, connected, failed, failed', ?_⟩
  exact (read_shows_exposed connected (answered_rehearsed placed first)
    (answered_rehearsed placed second) text text' same failed failed').mpr rfl

/-- Two answers of one shape in which the secret stands bare: the words of either fault quote it. -/
theorem read_shows_secret :
    let wire := Rehearsal.wire false []
    let stage (body : List UInt8) : Rehearsal.Stage Rehearsal.Delivery :=
      { cues := [{ answer := .ok { body } }] }
    let first := Text.utf8 "\x7b\"data\":\x7b\"data\":\"alpha\"\x7d\x7d".toList
    let second := Text.utf8 "\x7b\"data\":\x7b\"data\":\"beta\"\x7d\x7d".toList
    (∃ v, Json.readText .any first = .ok v) ∧ (∃ w, Json.readText .any second = .ok w) ∧
    Json.textShape first = Json.textShape second ∧
    ∃ (client : Client) (fault fault' : Fault),
      connect "http://127.0.0.1:8200" "t" {} = .ok client ∧
      (client.read wire "secret" "app" false (stage first)).outcome = .error fault ∧
      (client.read wire "secret" "app" false (stage second)).outcome = .error fault' ∧
      fault.message =
        "decode error: decode vault result: invalid type: string \"alpha\", expected a map" ∧
      fault'.message =
        "decode error: decode vault result: invalid type: string \"beta\", expected a map" ∧
      fault.message ≠ fault'.message := by
  intro wire stage first second
  have tokens_eq : Json.tokens first = answerTokens [.string (some "alpha")] := by decide +kernel
  have tokens_eq' : Json.tokens second = answerTokens [.string (some "beta")] := by decide +kernel
  have text : Json.readText .any first = .ok (answerWith (.string "alpha")) := by
    rw [Json.readText, tokens_eq]
    rfl
  have text' : Json.readText .any second = .ok (answerWith (.string "beta")) := by
    rw [Json.readText, tokens_eq']
    rfl
  have same : Json.textShape first = Json.textShape second := by
    rw [Json.textShape, Json.textShape, tokens_eq, tokens_eq']
    rfl
  have placed := secretPath_eq_ok (show (secretPath "secret" "app").toOption =
    some "/v1/secret/data/app" by decide +kernel)
  obtain ⟨client, connected, _⟩ := exists_local_client
  exact ⟨⟨_, text⟩, ⟨_, text'⟩, same, client, _, _, connected,
    read_bare connected placed text, read_bare connected placed text',
    by decide +kernel, by decide +kernel, by decide +kernel⟩

end Client

end Vault

end ControlPlane
