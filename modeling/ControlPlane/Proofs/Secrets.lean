import ControlPlane.Proofs.Disclosure
import ControlPlane.Proofs.Parts
import ControlPlane.Proofs.Sending
/-!
How reading and writing a secret end. The first final answer decides either. Only reading tells a
path that is not found from every other failure, and only for reading the body of a response of the
200 class matters. The fields of a secret stand two members deep; the answer and the members on the
way to them may be left out or null.
-/
namespace ControlPlane

namespace Vault
open Json

variable {σ : Type}

def Holds (v : Json) (fields : Secret) : Prop :=
  ∃ data, Part "data" v (some data) ∧ Part "data" data (some (.object fields))

def Lacks (v : Json) : Prop :=
  v = .null ∨ Vacant "data" v ∨ ∃ data, Part "data" v (some data) ∧ Vacant "data" data

theorem answer_of_holds {v : Json} (ordered : Throughout InOrder v) {fields : Secret}
    (holds : Holds v fields) :
    readValue (.optional answerRecord.read) v = .ok (some (some fields)) := by
  obtain ⟨data, outer, inner⟩ := holds
  have orderedData := outer.inOrder ordered
  rw [readValue_optional _ outer.filled,
    read_filled rfl (inOrder_of_throughout ordered) outer inner.filled,
    read_filled rfl (inOrder_of_throughout orderedData) inner Json.noConfusion,
    readValue_members (inner.inOrder orderedData)]
  rfl

theorem answer_of_lacks {v : Json} (ordered : Throughout InOrder v) (lacks : Lacks v) :
    ∃ found, readValue (.optional answerRecord.read) v = .ok found ∧ found.join = none := by
  rcases lacks with rfl | vacant | ⟨data, outer, vacant⟩
  · exact ⟨none, rfl, rfl⟩
  · refine ⟨some none, ?_, rfl⟩
    rw [readValue_optional _ vacant.filled,
      read_vacant rfl rfl (inOrder_of_throughout ordered) vacant]
    rfl
  · refine ⟨some none, ?_, rfl⟩
    rw [readValue_optional _ outer.filled,
      read_filled rfl (inOrder_of_throughout ordered) outer vacant.filled,
      read_vacant rfl rfl (inOrder_of_throughout (outer.inOrder ordered)) vacant]
    rfl

theorem lacks_or_holds {v : Json} (ordered : Throughout InOrder v) {found : Option (Option Secret)}
    (read : readValue (.optional answerRecord.read) v = .ok found) :
    Lacks v ∨ ∃ fields, Holds v fields := by
  -- The way to the fields goes one record at a time, and ends where nothing or null stands.
  by_cases null : v = .null
  · exact .inl (.inl null)
  rw [readValue_optional _ null] at read
  obtain ⟨answer, outerRead, -⟩ := exists_of_map read
  obtain ⟨part, outer⟩ := exists_part rfl outerRead
  by_cases empty : ∀ data, part = some data → data = .null
  · exact .inl (.inr (.inl ⟨part, outer, empty⟩))
  push Not at empty
  obtain ⟨data, rfl, filled⟩ := empty
  rw [read_filled rfl (inOrder_of_throughout ordered) outer filled] at outerRead
  obtain ⟨inside, innerRead, -⟩ := exists_of_map outerRead
  obtain ⟨part, inner⟩ := exists_part rfl innerRead
  by_cases empty : ∀ fields, part = some fields → fields = .null
  · exact .inl (.inr (.inr ⟨data, outer, part, inner, empty⟩))
  push Not at empty
  obtain ⟨fields, rfl, filled⟩ := empty
  rw [read_filled rfl (inOrder_of_throughout (outer.inOrder ordered)) inner filled] at innerRead
  obtain ⟨secret, fieldsRead, -⟩ := exists_of_map innerRead
  obtain ⟨members, rfl⟩ := exists_of_members fieldsRead
  exact .inr ⟨members, data, outer, inner⟩

def blankBytes : List UInt8 := [9, 10, 12, 13, 32]

/-- How reading a secret ends with the last answer. -/
inductive ReadEnds (name : String) : Channel.Answer → Except Fault Secret → Prop where
  | lost (source : String) : ReadEnds name (.error source) (.error (.transport peerName source))
  | missing {response : Http.Response} (status : response.status = 404) :
      ReadEnds name (.ok response) (.error (.notFound "vault secret" name))
  | refused {response : Http.Response}
      (other : ¬ (200 ≤ response.status ∧ response.status ≤ 299)) (known : response.status ≠ 404) :
      ReadEnds name (.ok response) (.error (.status peerName response.status response.text))
  | blank {response : Http.Response} (success : 200 ≤ response.status ∧ response.status ≤ 299)
      (blank : ∀ b ∈ response.body, b ∈ blankBytes) :
      ReadEnds name (.ok response)
        (.error (.decode ("vault response missing secret data at path: " ++ name)))
  | lacking {response : Http.Response} {v : Json}
      (success : 200 ≤ response.status ∧ response.status ≤ 299)
      (parsed : readText .any response.body = .ok v) (lacks : Lacks v) :
      ReadEnds name (.ok response)
        (.error (.decode ("vault response missing secret data at path: " ++ name)))
  | held {response : Http.Response} {v : Json} {fields : Secret}
      (success : 200 ≤ response.status ∧ response.status ≤ 299)
      (parsed : readText .any response.body = .ok v) (holds : Holds v fields) :
      ReadEnds name (.ok response) (.ok fields)
  | malformed {response : Http.Response} {misfit : Misfit}
      (success : 200 ≤ response.status ∧ response.status ≤ 299)
      (filled : ∃ b ∈ response.body, b ∉ blankBytes)
      (failed : readText .any response.body = .error misfit) :
      ReadEnds name (.ok response) (.error (.decode ("decode vault response: " ++ misfit.message)))
  | misplaced {response : Http.Response} {v : Json} {misfit : Misfit}
      (success : 200 ≤ response.status ∧ response.status ≤ 299)
      (parsed : readText .any response.body = .ok v)
      (failed : readValue (.optional answerRecord.read) v = .error misfit) :
      ReadEnds name (.ok response) (.error (.decode ("decode vault result: " ++ misfit.message)))

inductive WriteEnds : Channel.Answer → Except Fault Unit → Prop where
  | lost (source : String) : WriteEnds (.error source) (.error (.transport peerName source))
  | refused {response : Http.Response}
      (other : ¬ (200 ≤ response.status ∧ response.status ≤ 299)) :
      WriteEnds (.ok response) (.error (.status peerName response.status response.text))
  | kept {response : Http.Response} (success : 200 ≤ response.status ∧ response.status ≤ 299) :
      WriteEnds (.ok response) (.ok ())

def ending (channel : Channel) (name : String) (sent : Except Fault Http.Response) :
    Except Fault Secret :=
  match channel.reading answerRecord.read sent with
  | .error fault => .error (Client.missing name fault)
  | .ok answer =>
    match answer.join with
    | some secret => .ok secret
    | none => .error (.decode ("vault response missing secret data at path: " ++ name))

def written (sent : Except Fault Http.Response) : Except Fault Unit := sent.bind fun _ => .ok ()

theorem isBlankByte_iff (b : UInt8) : isBlankByte b = true ↔ b ∈ blankBytes := by
  simp [isBlankByte, blankBytes, or_assoc]

theorem all_isBlankByte_iff (body : List UInt8) :
    body.all isBlankByte = true ↔ ∀ b ∈ body, b ∈ blankBytes := by
  simp only [List.all_eq_true, isBlankByte_iff]

section

variable {channel : Channel} {token : List UInt8} (authenticated : channel.peer = peer token)
  {name : String}

include authenticated

theorem unwraps_peer : channel.peer.unwrap = unwrap := by
  rw [authenticated]
  rfl

theorem reading_parsed {response : Http.Response}
    (success : 200 ≤ response.status ∧ response.status ≤ 299) {v : Json}
    (parsed : readText .any response.body = .ok v) :
    channel.reading answerRecord.read (channel.judge (.ok response)) =
      (readValue (.optional answerRecord.read) v).mapError fun misfit =>
        .decode ("decode vault result: " ++ misfit.message) := by
  have decoded := Client.decode_unwrap authenticated parsed
  rw [Channel.reading_success rfl answerRecord.read success, decoded]
  rfl

theorem ending_of_ends {answer : Channel.Answer} {o : Except Fault Secret}
    (ends : ReadEnds name answer o) :
    ending channel name (channel.judge answer) = o := by
  cases ends with
  | lost source =>
    rw [Channel.judge, authenticated]
    rfl
  | @missing response status =>
    have other : ¬ (200 ≤ response.status ∧ response.status ≤ 299) := by omega
    rw [channel.judge_response, if_neg other, status]
    rfl
  | @refused response other known =>
    rw [channel.judge_response, if_neg other, authenticated]
    have differs : (Fault.status peerName response.status response.text).statusCode ≠ some 404 :=
      fun same => known (Option.some.inj same)
    exact congrArg Except.error (if_neg differs)
  | @blank response success blank =>
    rw [ending, Channel.reading_success (unwraps_peer authenticated) _ success, unwrap,
      if_pos ((all_isBlankByte_iff response.body).mpr blank)]
    rfl
  | lacking success parsed lacks =>
    obtain ⟨found, read, nothing⟩ := answer_of_lacks (inOrder_of_readText parsed) lacks
    rw [ending, reading_parsed authenticated success parsed, read]
    simp only [Except.mapError, nothing]
  | held success parsed holds =>
    rw [ending, reading_parsed authenticated success parsed,
      answer_of_holds (inOrder_of_readText parsed) holds]
    rfl
  | @malformed response misfit success filled failed =>
    have some_ : ¬ response.body.all isBlankByte = true := by
      rw [all_isBlankByte_iff]
      push Not
      exact filled
    rw [ending, Channel.reading_success (unwraps_peer authenticated) _ success, unwrap,
      if_neg some_, failed]
    rfl
  | misplaced success parsed failed =>
    rw [ending, reading_parsed authenticated success parsed, failed]
    rfl

theorem ends_ending (answer : Channel.Answer) :
    ReadEnds name answer
      (ending channel name (channel.judge answer)) := by
  have settled {o : Except Fault Secret} (ends : ReadEnds name answer o) : ReadEnds name answer
      (ending channel name (channel.judge answer)) := by
    rwa [ending_of_ends authenticated ends]
  cases answer with
  | error source => exact settled (.lost source)
  | ok response =>
    by_cases success : 200 ≤ response.status ∧ response.status ≤ 299
    · cases parsed : readText .any response.body with
      | error misfit =>
        by_cases blank : ∀ b ∈ response.body, b ∈ blankBytes
        · exact settled (.blank success blank)
        · push Not at blank
          exact settled (.malformed success blank parsed)
      | ok v =>
        cases read : readValue (.optional answerRecord.read) v with
        | error misfit => exact settled (.misplaced success parsed read)
        | ok found =>
          rcases lacks_or_holds (inOrder_of_readText parsed) read with lacks | ⟨fields, holds⟩
          · exact settled (.lacking success parsed lacks)
          · exact settled (.held success parsed holds)
    · by_cases status : response.status = 404
      · exact settled (.missing status)
      · exact settled (.refused success status)

theorem ending_eq_iff (name : String) (answer : Channel.Answer) (o : Except Fault Secret) :
    ending channel name (channel.judge answer) = o ↔
      ReadEnds name answer o := by
  constructor
  · rintro rfl
    exact ends_ending authenticated answer
  · exact ending_of_ends authenticated

end

theorem writeEnds_iff {channel : Channel} {token : List UInt8}
    (authenticated : channel.peer = peer token) (answer : Channel.Answer) (o : Except Fault Unit) :
    written (channel.judge answer) = o ↔ WriteEnds answer o := by
  have name : channel.peer.name = peerName := by
    rw [authenticated]
    rfl
  constructor
  · rintro rfl
    cases answer with
    | error source =>
      rw [Channel.judge, name]
      exact .lost source
    | ok response =>
      rw [channel.judge_response, name]
      split
      · rename_i success
        exact .kept success
      · rename_i other
        exact .refused other
  · rintro (⟨source⟩ | other | success)
    · rw [Channel.judge, name]
      rfl
    · rw [channel.judge_response, if_neg other, name]
      rfl
    · rw [channel.judge_response, if_pos success]
      rfl

def NotFound (answer : Channel.Answer) : Prop :=
  ∃ response, answer = .ok response ∧ response.status = 404

theorem final_of_notFound {call : Call} {retries i : Nat} {answer : Channel.Answer}
    (notFound : NotFound answer) : Channel.Final call retries i answer := by
  obtain ⟨response, rfl, status⟩ := notFound
  exact .inr (.inr (.inl ⟨response, rfl, by omega, by omega⟩))

/-- The first final answer decides a read. It ends with nothing found exactly if the answer says so,
which no other attempt follows; every other failure to send is passed on. -/
structure ReadSettled (client : Client) (name : String) (call : Call)
    (answers : Nat → Channel.Answer) (sent : Except Fault Http.Response) (k : Nat)
    (run : Exchange σ Secret) : Prop
    extends client.channel.Decided call answers (ReadEnds name) k run where
  missing : (∃ resource what, run.outcome = .error (.notFound resource what)) ↔
    NotFound (answers k)
  once : ∀ i ≤ k, NotFound (answers i) → i = k
  unchanged : ∀ fault, sent = .error fault → fault.statusCode ≠ some 404 →
    run.outcome = .error fault

structure WriteSettled (client : Client) (call : Call) (answers : Nat → Channel.Answer)
    (sent : Except Fault Http.Response) (k : Nat) (run : Exchange σ Unit) : Prop
    extends client.channel.Decided call answers WriteEnds k run where
  written : run.outcome = .ok () ↔ Channel.Succeeded (answers k)
  known : ∀ resource what, run.outcome ≠ .error (.notFound resource what)
  unchanged : ∀ fault, sent = .error fault → run.outcome = .error fault

theorem missing_iff {name : String} {answer : Channel.Answer} :
    (∃ resource what, ReadEnds name answer (.error (.notFound resource what))) ↔
      NotFound answer := by
  constructor
  · rintro ⟨resource, what, ⟨⟩⟩
    rename_i response status
    exact ⟨response, rfl, status⟩
  · rintro ⟨response, rfl, status⟩
    exact ⟨_, _, .missing status⟩

theorem written_iff {answer : Channel.Answer} :
    WriteEnds answer (.ok ()) ↔ Channel.Succeeded answer := by
  constructor
  · rintro ⟨⟩
    rename_i response success
    exact ⟨response, rfl, success⟩
  · rintro ⟨response, rfl, success⟩
    exact .kept success

theorem not_writeEnds {answer : Channel.Answer} {resource what : String} :
    ¬ WriteEnds answer (.error (.notFound resource what)) := by
  rintro ⟨⟩

theorem exists_secretPath {mount path : String} (mounted : clean mount ≠ [])
    (named : clean path ≠ []) : ∃ endpoint, secretPath mount path = .ok endpoint := by
  simp [secretPath, mounted, named]

namespace Client

theorem read_eq (client : Client) (wire : Wire σ) {mount path endpoint : String}
    (placed : secretPath mount path = .ok endpoint) (retryUnsafe : Bool) (s : σ) :
    client.read wire mount path retryUnsafe s =
      (client.channel.send wire { path := endpoint, retryUnsafe } s).mapOutcome
        (ending client.channel (String.ofList (clean path))) := by
  rw [read, placed]
  rfl

theorem write_eq (client : Client) (wire : Wire σ) {mount path endpoint : String}
    (placed : secretPath mount path = .ok endpoint) (v : Json) (retryUnsafe : Bool) (s : σ) :
    client.write wire mount path (.ok v) retryUnsafe s =
      (client.channel.send wire
        { method := "POST", path := endpoint, body := some (Json.object [("data", v)]).bytes,
          retryUnsafe } s).mapOutcome written := by
  rw [write, placed]
  exact Run.bind_eq_mapOutcome (fun _ _ => rfl) _

variable {client : Client} {address token : String} {settings : Settings} {wire : Wire σ}
  {answers : Nat → Channel.Answer} {samples : Nat → Double}
  {past : List Http.Request → Nat → σ → Prop}

theorem read_settled (connected : connect address token settings = .ok client)
    (world : Scripted wire.toEnvironment wire.transport (fun h _ => answers h.length) samples past)
    {mount path endpoint : String} (placed : secretPath mount path = .ok endpoint)
    (retryUnsafe : Bool) {s : σ} (start : past [] 0 s) :
    let call : Call := { path := endpoint, retryUnsafe }
    ∃ k, ReadSettled client (String.ofList (clean path)) call answers
      (client.channel.send wire call s).outcome k (client.read wire mount path retryUnsafe s) := by
  intro call
  obtain ⟨value, opened⟩ := exists_make connected
  obtain ⟨k, decided⟩ := client.channel.exists_decided wire call world start
    (ending_eq_iff (Channel.peer_of_make opened) (String.ofList (clean path)))
  have run := read_eq client wire placed retryUnsafe s
  rw [← run] at decided
  refine ⟨k, decided, ?_, fun i within notFound =>
    decided.first.eq_of_final within (final_of_notFound notFound), fun fault failed other => ?_⟩
  · simp only [decided.outcome]
    exact missing_iff
  · rw [run, Run.outcome_mapOutcome, failed]
    exact congrArg Except.error (if_neg other)

theorem write_settled (connected : connect address token settings = .ok client)
    (world : Scripted wire.toEnvironment wire.transport (fun h _ => answers h.length) samples past)
    {mount path endpoint : String} (placed : secretPath mount path = .ok endpoint) (v : Json)
    (retryUnsafe : Bool) {s : σ} (start : past [] 0 s) :
    let call : Call :=
      { method := "POST", path := endpoint, body := some (Json.object [("data", v)]).bytes,
        retryUnsafe }
    ∃ k, WriteSettled client call answers (client.channel.send wire call s).outcome k
      (client.write wire mount path (.ok v) retryUnsafe s) := by
  intro call
  obtain ⟨value, opened⟩ := exists_make connected
  obtain ⟨k, decided⟩ := client.channel.exists_decided wire call world start
    (writeEnds_iff (Channel.peer_of_make opened))
  have run := write_eq client wire placed v retryUnsafe s
  rw [← run] at decided
  refine ⟨k, decided, (decided.outcome _).trans written_iff,
    fun resource what ended => not_writeEnds ((decided.outcome _).mp ended),
    fun fault failed => ?_⟩
  rw [run, Run.outcome_mapOutcome, failed]
  rfl

/-- Whatever the transport answers, reading and writing a secret end as the first final answer
decides. -/
theorem operations_settled (connected : connect address token settings = .ok client)
    (world : Scripted wire.toEnvironment wire.transport (fun h _ => answers h.length) samples past)
    {mount path : String} (mounted : clean mount ≠ []) (named : clean path ≠ []) {s : σ}
    (start : past [] 0 s) :
    ∃ endpoint, secretPath mount path = .ok endpoint ∧
      (∀ retryUnsafe,
        let call : Call := { path := endpoint, retryUnsafe }
        ∃ k, ReadSettled client (String.ofList (clean path)) call answers
          (client.channel.send wire call s).outcome k
          (client.read wire mount path retryUnsafe s)) ∧
      ∀ v retryUnsafe,
        let call : Call :=
          { method := "POST", path := endpoint, body := some (Json.object [("data", v)]).bytes,
            retryUnsafe }
        ∃ k, WriteSettled client call answers (client.channel.send wire call s).outcome k
          (client.write wire mount path (.ok v) retryUnsafe s) := by
  obtain ⟨endpoint, placed⟩ := exists_secretPath mounted named
  exact ⟨endpoint, placed, fun retryUnsafe => read_settled connected world placed retryUnsafe start,
    fun v retryUnsafe => write_settled connected world placed v retryUnsafe start⟩

theorem operations_settled_missing :
    let answers : Nat → Channel.Answer := fun i => .ok { status := if i = 0 then 503 else 404 }
    let wire := scriptedWire (fun h _ => answers h.length) fun _ => .nan
    ∃ client : Client, connect "http://127.0.0.1:8200" "t" {} = .ok client ∧
      clean " /secret" ≠ [] ∧ clean "app/db//" ≠ [] ∧
      let read := client.read wire " /secret" "app/db//" false ([], 0)
      let write := client.write wire " /secret" "app/db//" (.ok .null) false ([], 0)
      read.outcome = .error (.notFound "vault secret" "app/db") ∧ read.calls.length = 2 ∧
        write.outcome = .error (.status "vault" 503 "") ∧ write.calls.length = 1 := by
  intro answers wire
  obtain ⟨client, connected, _⟩ := exists_local_client
  have budget : client.channel.policy.budget.toNat = 3 := by
    rw [(madeOf connected).retries]
    rfl
  have mounted : clean " /secret" ≠ [] := by decide +kernel
  have named : clean "app/db//" ≠ [] := by decide +kernel
  have name : String.ofList (clean "app/db//") = "app/db" := by decide +kernel
  have world : Scripted wire.toEnvironment wire.transport (fun h _ => answers h.length)
      (fun _ => .nan) fun h n s => s = (h, n) := scriptedWire_scripted _ _
  obtain ⟨endpoint, -, reads, writes⟩ := operations_settled connected world mounted named rfl
  obtain ⟨k, read⟩ := reads false
  obtain ⟨l, write⟩ := writes .null false
  have later : 1 ≤ k := by
    have final := read.first.final
    rw [Nat.one_le_iff_ne_zero]
    rintro rfl
    simp [Channel.Final, Channel.Succeeded, Channel.Refused, Channel.Repeatable, budget,
      answers] at final
  have second : 1 = k :=
    read.first.eq_of_final later (final_of_notFound ⟨_, rfl, rfl⟩)
  have first : 0 = l := by
    refine write.first.eq_of_final (Nat.zero_le l) (.inr (.inl ?_))
    simp [Channel.Repeatable]
  have readOnce := (congrArg List.length read.calls).trans List.length_replicate
  have writeOnce := (congrArg List.length write.calls).trans List.length_replicate
  rw [← second] at readOnce
  rw [← first] at writeOnce
  refine ⟨client, connected, mounted, named, ?_, readOnce, ?_, writeOnce⟩
  · rw [← name]
    refine (read.outcome _).mpr ?_
    rw [← second]
    exact .missing rfl
  · refine (write.outcome _).mpr ?_
    rw [← first]
    exact .refused (by decide)

end Client

end Vault

end ControlPlane
