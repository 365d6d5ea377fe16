import ControlPlane.Proofs.Clients
import ControlPlane.Proofs.Envelopes
import ControlPlane.Proofs.Fields
import ControlPlane.Proofs.Sending
/-!
How a call of the control plane ends. The first final answer decides it: a failure to send is
passed on, and a response of the 200 class is the end whatever its body is. That body may be no
envelope, or tell of errors, or have no result, or have one that is read or that does not fit.
-/
namespace ControlPlane

inductive ApiError.Told : ApiError → String → Prop where
  | plain (message : String) : Told ⟨0, message⟩ message
  | coded {code : Int} (other : code ≠ 0) (message : String) :
      Told ⟨code, message⟩ (toString code ++ ":" ++ message)

inductive ApiError.Listed : List ApiError → String → Prop where
  | unknown : Listed [] "unknown API error"
  | one {e : ApiError} {words : String} (told : Told e words) : Listed [e] words
  | more {e f : ApiError} {rest : List ApiError} {words others : String} (told : Told e words)
      (listed : Listed (f :: rest) others) : Listed (e :: f :: rest) (words ++ ", " ++ others)

theorem ApiError.told_text (e : ApiError) : Told e e.text := by
  obtain ⟨code, message⟩ := e
  unfold text
  split
  · rename_i zero
    obtain rfl : code = 0 := zero
    exact .plain message
  · rename_i other
    exact .coded other message

theorem ApiError.listed_describe (errors : List ApiError) : Listed errors (describe errors) := by
  induction errors with
  | nil => exact .unknown
  | cons e rest ih =>
    cases rest with
    | nil =>
      have single : describe [e] = e.text := String.intercalate_singleton (s := ", ")
      rw [single]
      exact .one e.told_text
    | cons f rest =>
      have next : describe (e :: f :: rest) = e.text ++ ", " ++ describe (f :: rest) :=
        String.intercalate_cons_cons
      rw [next]
      exact .more e.told_text ih

namespace Cloudflare
open Json

variable {σ α : Type}

/-- A response of the 200 class whose body is an envelope, written as the outline. -/
structure Carries (response : Http.Response) (o : Outline) (e : Envelope) : Prop where
  success : 200 ≤ response.status ∧ response.status ≤ 299
  complete : Outline.ofTokens (tokens response.body) = (o, true)
  read : envelopeRecord.read (.text textRoom) o = .ok e

def LacksResult (o : Outline) : Prop :=
  ∀ part, envelopeRecord.written "result" o = some part → part = .null

/-- How a call ends with its last answer, for a reader of results. -/
inductive Ends (reader : Reader α) : Channel.Answer → Except Fault (Option α) → Prop where
  | lost (source : String) : Ends reader (.error source) (.error (.transport peerName source))
  | refused {response : Http.Response}
      (other : ¬ (200 ≤ response.status ∧ response.status ≤ 299)) :
      Ends reader (.ok response) (.error (.status peerName response.status response.text))
  | undecoded {response : Http.Response} {misfit : Misfit}
      (success : 200 ≤ response.status ∧ response.status ≤ 299)
      (failed : readText envelopeRecord.read response.body = .error misfit) :
      Ends reader (.ok response)
        (.error (.decode ("decode cloudflare envelope: " ++ misfit.message)))
  | unsuccessful {response : Http.Response} {o : Outline} {e : Envelope}
      (carries : Carries response o e) (failed : e.success = false) :
      Ends reader (.ok response) (.error (.api peerName e.errors))
  | empty {response : Http.Response} {o : Outline} {e : Envelope}
      (carries : Carries response o e) (succeeded : e.success = true) (lacks : LacksResult o) :
      Ends reader (.ok response) (.ok none)
  | result {response : Http.Response} {o : Outline} {e : Envelope} {v : Json} {t : α}
      (carries : Carries response o e) (succeeded : e.success = true) (held : e.result = some v)
      (read : readValue reader v = .ok t) : Ends reader (.ok response) (.ok (some t))
  | misread {response : Http.Response} {o : Outline} {e : Envelope} {v : Json} {misfit : Misfit}
      (carries : Carries response o e) (succeeded : e.success = true) (held : e.result = some v)
      (failed : readValue reader v = .error misfit) :
      Ends reader (.ok response)
        (.error (.decode ("decode cloudflare result: " ++ misfit.message)))

theorem eq_null_of_optional {reader : Reader α} {source : Source} {o : Outline}
    (read : Reader.optional reader source o = .ok none) : o = .null := by
  cases o with
  | null => rfl
  | _ =>
    obtain ⟨x, -, nothing⟩ := exists_of_map read
    contradiction

theorem result_decides : envelopeRecord.Decides "result" (.optional .any) (·.result) where
  listed := ⟨_, .tail _ (.tail _ (.head _)), rfl⟩
  distinct := by simp [envelopeRecord, Field.of]
  own := by
    simp only [envelopeRecord, List.forall_mem_cons]
    refine ⟨fun named => absurd named (by decide), fun named => absurd named (by decide),
      fun _ source o put read => ?_, fun named => absurd named (by decide), List.forall_mem_nil _⟩
    obtain ⟨x, found, rfl⟩ := exists_of_field read
    exact ⟨x, found, fun _ => rfl⟩
  others := by
    have apart {β : Type} {name : String} {reader : Reader β} {set : β → Envelope → Envelope}
        (keeps : ∀ x e, (set x e).result = e.result) (_ : name ≠ "result") (source : Source)
        (o : Outline) (put : Envelope → Envelope)
        (read : (Field.of name reader set).read source o = .ok put) (e : Envelope) :
        (put e).result = e.result := by
      obtain ⟨x, -, rfl⟩ := exists_of_field read
      exact keeps x e
    simp only [envelopeRecord, List.forall_mem_cons]
    exact ⟨apart fun _ _ => rfl, apart fun _ _ => rfl, fun other => absurd rfl other,
      apart fun _ _ => rfl, List.forall_mem_nil _⟩

theorem result_eq_none_iff {source : Source} {o : Outline} {e : Envelope}
    (read : envelopeRecord.read source o = .ok e) : e.result = none ↔ LacksResult o := by
  obtain ⟨inner, -, found⟩ := get_of_read result_decides read
  unfold LacksResult
  cases written : envelopeRecord.written "result" o with
  | none =>
    rw [written] at found
    exact ⟨fun _ => nofun, fun _ => found⟩
  | some part =>
    rw [written] at found
    have null : e.result = none ↔ part = .null := by
      constructor
      · intro none_
        rw [none_] at found
        exact eq_null_of_optional found
      · rintro rfl
        exact (Except.ok.inj found).symm
    rw [null]
    refine ⟨?_, fun lacks => lacks part rfl⟩
    rintro rfl _ ⟨⟩
    rfl

theorem exists_carries {response : Http.Response} {e : Envelope}
    (success : 200 ≤ response.status ∧ response.status ≤ 299)
    (decoded : readText envelopeRecord.read response.body = .ok e) :
    ∃ o, Carries response o e := by
  obtain ⟨o, complete, read⟩ := readText_eq_ok_iff.mp decoded
  exact ⟨o, success, complete, read⟩

section

variable {channel : Channel} {value : List UInt8}
  (authenticated : channel.peer = ⟨peerName, [⟨"authorization", value, true⟩], unwrap⟩)
  {reader : Reader α}

include authenticated

theorem decode_eq (v : Json) : channel.decode reader v =
    (readValue reader v).mapError fun misfit =>
      .decode ("decode cloudflare result: " ++ misfit.message) := by
  rw [Channel.decode, authenticated]
  rfl

theorem unwraps_peer : channel.peer.unwrap = unwrap := by
  rw [authenticated]

theorem reading_of_carries {response : Http.Response} {o : Outline} {e : Envelope}
    (carries : Carries response o e) : channel.reading reader (channel.judge (.ok response)) =
      if e.success then e.result.mapM (channel.decode reader)
      else .error (.api peerName e.errors) := by
  have decoded := readText_eq_ok_iff.mpr ⟨o, carries.complete, carries.read⟩
  rw [Channel.reading_success (unwraps_peer authenticated) reader carries.success, unwrap, decoded]
  cases succeeded : e.success <;> simp [succeeded, Except.bind]

theorem reading_of_ends {answer : Channel.Answer} {o : Except Fault (Option α)}
    (ends : Ends reader answer o) : channel.reading reader (channel.judge answer) = o := by
  cases ends with
  | lost source =>
    rw [Channel.reading, Channel.judge, authenticated]
    rfl
  | @refused response other =>
    rw [Channel.reading, channel.judge_response, if_neg other, authenticated]
    rfl
  | undecoded success failed =>
    rw [Channel.reading_success (unwraps_peer authenticated) reader success, unwrap, failed]
    rfl
  | unsuccessful carries failed =>
    rw [reading_of_carries authenticated carries, failed]
    rfl
  | empty carries succeeded lacks =>
    rw [reading_of_carries authenticated carries, succeeded,
      (result_eq_none_iff carries.read).mpr lacks]
    rfl
  | result carries succeeded held read =>
    rw [reading_of_carries authenticated carries, succeeded, held, if_pos rfl, Option.mapM_some,
      decode_eq authenticated, read]
    rfl
  | misread carries succeeded held failed =>
    rw [reading_of_carries authenticated carries, succeeded, held, if_pos rfl, Option.mapM_some,
      decode_eq authenticated, failed]
    rfl

theorem ends_reading (answer : Channel.Answer) :
    Ends reader answer (channel.reading reader (channel.judge answer)) := by
  have settled {o : Except Fault (Option α)} (ends : Ends reader answer o) :
      Ends reader answer (channel.reading reader (channel.judge answer)) := by
    rwa [reading_of_ends authenticated ends]
  cases answer with
  | error source => exact settled (.lost source)
  | ok response =>
    by_cases success : 200 ≤ response.status ∧ response.status ≤ 299
    · cases decoded : readText envelopeRecord.read response.body with
      | error misfit => exact settled (.undecoded success decoded)
      | ok e =>
        obtain ⟨o, carries⟩ := exists_carries success decoded
        cases succeeded : e.success with
        | false => exact settled (.unsuccessful carries succeeded)
        | true =>
          cases held : e.result with
          | none =>
            exact settled (.empty carries succeeded ((result_eq_none_iff carries.read).mp held))
          | some v =>
            cases read : readValue reader v with
            | ok t => exact settled (.result carries succeeded held read)
            | error misfit => exact settled (.misread carries succeeded held read)
    · exact settled (.refused success)

/-- The ways to end exclude each other, and there is always one. -/
theorem reading_eq_iff (reader : Reader α) (answer : Channel.Answer)
    (o : Except Fault (Option α)) :
    channel.reading reader (channel.judge answer) = o ↔ Ends reader answer o := by
  constructor
  · rintro rfl
    exact ends_reading authenticated answer
  · exact reading_of_ends authenticated

end

/-- The first final answer decides a call. A failure to send is passed on, the errors of an answer
are told in words, and what is wrong with the body of a response does not pass. -/
structure Settled (client : Client) (reader : Reader α) (call : Call)
    (answers : Nat → Channel.Answer) (sent : Except Fault Http.Response) (k : Nat)
    (run : Exchange σ (Option α)) : Prop
    extends client.channel.Decided call answers (Ends reader) k run where
  unchanged : ∀ fault, sent = .error fault → run.outcome = .error fault
  told : ∀ errors, run.outcome = .error (.api peerName errors) →
    ∃ words, ApiError.Listed errors words ∧ (Fault.api peerName errors).message =
      "cloudflare API returned unsuccessful response: " ++ words
  lasting : Channel.Succeeded (answers k) →
    ∀ fault, run.outcome = .error fault → fault.mayPass = false

theorem lasting_of_ends {reader : Reader α} {answer : Channel.Answer} {fault : Fault}
    (ends : Ends reader answer (.error fault)) (succeeded : Channel.Succeeded answer) :
    fault.mayPass = false := by
  obtain ⟨response, rfl, success⟩ := succeeded
  cases ends with
  | refused other => exact absurd success other
  | undecoded _ _ | unsuccessful _ _ | misread _ _ _ _ => rfl

namespace Client

variable {client : Client} {address token : String} {settings : Settings} {wire : Wire σ}
  {answers : Nat → Channel.Answer} {samples : Nat → Double}
  {past : List Http.Request → Nat → σ → Prop}

theorem result_settled (connected : connect address token settings = .ok client)
    (world : Scripted wire.toEnvironment wire.transport (fun h _ => answers h.length) samples past)
    (reader : Reader α) (call : Call) {s : σ} (start : past [] 0 s) :
    ∃ k, Settled client reader call answers (client.channel.send wire call s).outcome k
      (client.channel.result wire reader call s) := by
  obtain ⟨value, opened⟩ := exists_make connected
  have authenticated := Channel.peer_of_make opened
  obtain ⟨k, decided⟩ := client.channel.exists_decided wire call world start
    (reading_eq_iff authenticated reader)
  rw [← Channel.result_eq] at decided
  refine ⟨k, decided, fun fault failed => ?_,
    fun errors _ => ⟨_, ApiError.listed_describe errors, rfl⟩,
    fun succeeded fault failed => lasting_of_ends ((decided.outcome _).mp failed) succeeded⟩
  rw [Channel.result_eq, Run.outcome_mapOutcome, failed]
  rfl

/-- Whatever the transport answers, a call ends as its first final answer decides. -/
theorem request_settled (connected : connect address token settings = .ok client)
    (world : Scripted wire.toEnvironment wire.transport (fun h _ => answers h.length) samples past)
    (reader : Reader α) {s : σ} (start : past [] 0 s) :
    (∀ method endpoint query (body : Option Json) retryUnsafe,
      let call : Call :=
        { method, path := endpoint, query, body := body.map Json.bytes, retryUnsafe }
      ∃ k, Settled client reader call answers (client.channel.send wire call s).outcome k
        (client.request wire reader method endpoint query (body.map .ok) retryUnsafe s)) ∧
    ∀ endpoint query retryUnsafe,
      let call : Call := { path := endpoint, query, retryUnsafe }
      ∃ k, Settled client reader call answers (client.channel.send wire call s).outcome k
        (client.get wire reader endpoint query retryUnsafe s) := by
  constructor
  · intro method endpoint query body retryUnsafe call
    have sent : client.request wire reader method endpoint query (body.map .ok) retryUnsafe s =
        client.channel.result wire reader call s := by
      cases body <;> rfl
    rw [sent]
    exact result_settled connected world reader call start
  · intro endpoint query retryUnsafe call
    exact result_settled connected world reader call start

def twoErrors : Json :=
  .object
    [("errors", .array
        [.object [("code", .number (.integer 7)), ("message", .string "bad")],
          .object [("message", .string "gone")]]),
      ("result", .number (.integer 1)), ("success", .bool false)]

theorem request_settled_unsuccessful :
    let errors : List ApiError := [⟨7, "bad"⟩, ⟨0, "gone"⟩]
    let wire := scriptedWire (fun _ _ => .ok { body := twoErrors.bytes }) fun _ => .nan
    ∃ client : Client, connect "http://127.0.0.1:8200" "t" {} = .ok client ∧
      let run := client.request wire Reader.any "POST" "/zones" [] (some (.ok .null)) true ([], 0)
      run.outcome = .error (.api peerName errors) ∧ run.calls.length = 1 ∧
        (Fault.api peerName errors).message =
          "cloudflare API returned unsuccessful response: 7:bad, gone" := by
  intro errors wire
  obtain ⟨client, connected, _⟩ := exists_local_client
  let answers : Nat → Channel.Answer := fun _ => .ok { body := twoErrors.bytes }
  have world : Scripted wire.toEnvironment wire.transport (fun h _ => answers h.length)
      (fun _ => .nan) fun h n s => s = (h, n) := scriptedWire_scripted _ _
  obtain ⟨k, settled⟩ :=
    (request_settled connected world Reader.any rfl).1 "POST" "/zones" [] (some .null) true
  have written := text_written twoErrors (by
    simp [twoErrors, Throughout, ThroughoutMembers, ThroughoutItems, InRange])
  have carries : Carries { body := twoErrors.bytes } (Outline.ofJson twoErrors)
      { errors, result := some (.number (.integer 1)) } :=
    ⟨by decide, ofTokens_of_padded written.padded, rfl⟩
  have zero : 0 = k :=
    settled.first.eq_of_final (Nat.zero_le k) (.inl ⟨_, rfl, carries.success⟩)
  have once := (congrArg List.length settled.calls).trans List.length_replicate
  rw [← zero] at once
  exact ⟨client, connected, (settled.outcome _).mpr (.unsuccessful carries rfl), once, by decide⟩

end Client

end Cloudflare

end ControlPlane
