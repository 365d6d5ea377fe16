import ControlPlane.Proofs.Scripted
import Mathlib.Tactic.Tauto
/-!
What sending a call comes to, answer by answer. The attempts end with the first answer that is
final: a success, a refusal, any answer at all to a call that must not be repeated, or the answer to
the last attempt that the retries allow. That answer alone decides the outcome.
-/
namespace ControlPlane.Channel

abbrev Answer := Except String Http.Response

def Succeeded (answer : Answer) : Prop :=
  ∃ response, answer = .ok response ∧ 200 ≤ response.status ∧ response.status ≤ 299

def Refused (answer : Answer) : Prop :=
  ∃ response, answer = .ok response ∧ ¬ (200 ≤ response.status ∧ response.status ≤ 299) ∧
    ¬ (response.status = 408 ∨ response.status = 429 ∨
      (500 ≤ response.status ∧ response.status ≤ 599))

def Repeatable (call : Call) : Prop :=
  call.retryUnsafe = true ∨ call.method ∈ ["GET", "HEAD", "OPTIONS", "TRACE"]

/-- The answer to attempt number `i` ends the sending of a call with that many retries. -/
def Final (call : Call) (retries i : Nat) (answer : Answer) : Prop :=
  Succeeded answer ∨ ¬ Repeatable call ∨ Refused answer ∨ i = retries

theorem mayRepeat_iff (call : Call) : mayRepeat call = true ↔ Repeatable call := by
  simp [mayRepeat, Http.isSafeMethod, Repeatable, or_assoc]

theorem asksForRetry_iff (status : Nat) : asksForRetry status = true ↔
    status = 408 ∨ status = 429 ∨ (500 ≤ status ∧ status ≤ 599) := by
  simp [asksForRetry, or_assoc]

theorem isSuccess_iff (response : Http.Response) :
    response.isSuccess = true ↔ 200 ≤ response.status ∧ response.status ≤ 299 := by
  simp only [Http.Response.isSuccess, Bool.and_eq_true, decide_eq_true_eq]
  omega

theorem judge_response (channel : Channel) (response : Http.Response) :
    channel.judge (.ok response) =
      if 200 ≤ response.status ∧ response.status ≤ 299 then .ok response
      else .error (.status channel.peer.name response.status response.text) := by
  simp only [judge, isSuccess_iff]

theorem judged_passing_iff (channel : Channel) (answer : Answer) :
    (∃ fault, channel.judge answer = .error fault ∧ fault.mayPass = true) ↔
      ¬ Succeeded answer ∧ ¬ Refused answer := by
  cases answer with
  | error source => simp [judge, Fault.mayPass, Succeeded, Refused]
  | ok response =>
    rw [judge_response]
    by_cases good : 200 ≤ response.status ∧ response.status ≤ 299
    · simp [Succeeded, good]
    · rw [if_neg good]
      simp only [Except.error.injEq, exists_eq_left', Fault.mayPass, asksForRetry_iff, Succeeded,
        Refused, Except.ok.injEq, good, not_false_eq_true, true_and, not_not]

theorem verdict_eq_none_iff {σ : Type} (channel : Channel) (wire : Wire σ) (request : Http.Request)
    (call : Call) {retries i : Nat} (within : i ≤ retries) (answer : Answer) :
    (channel.loop wire request (mayRepeat call)).verdict (retries - i) answer = none ↔
      ¬ Final call retries i answer := by
  have left : retries - i ≠ 0 ↔ i ≠ retries := by omega
  have again : (∃ fault, channel.judge answer = .error fault ∧
      (mayRepeat call && fault.mayPass) = true) ↔
        Repeatable call ∧ ¬ Succeeded answer ∧ ¬ Refused answer := by
    rw [← judged_passing_iff channel answer, ← mayRepeat_iff]
    simp only [Bool.and_eq_true]
    tauto
  rw [Loop.verdict_eq_none_iff, left]
  simp only [Final, not_or, not_not]
  refine (and_congr_right fun _ => again).trans ?_
  tauto

theorem verdict_of_final {σ : Type} (channel : Channel) (wire : Wire σ) (request : Http.Request)
    (call : Call) {retries i : Nat} (within : i ≤ retries) {answer : Answer}
    (final : Final call retries i answer) :
    (channel.loop wire request (mayRepeat call)).verdict (retries - i) answer =
      some (channel.judge answer) := by
  apply Loop.verdict_of_settled
  intro open_
  exact (verdict_eq_none_iff channel wire request call within answer).mp open_ final

theorem exists_first_final (call : Call) (retries : Nat) (answers : Nat → Answer) :
    ∃ k, Final call retries k (answers k) ∧ (∀ i < k, ¬ Final call retries i (answers i)) ∧
      k ≤ retries :=
  exists_first (p := fun k => Final call retries k (answers k)) (.inr (.inr (.inr rfl)))

theorem send_scripted {σ : Type} (channel : Channel) (wire : Wire σ) (call : Call)
    {script : List Http.Request → Http.Request → Answer} {samples : Nat → Double}
    {past : List Http.Request → Nat → σ → Prop}
    (world : Scripted wire.toEnvironment wire.transport script samples past)
    {h : List Http.Request} {n : Nat} {s : σ} (here : past h n s) {k : Nat}
    (within : k ≤ channel.policy.budget.toNat)
    (open_ : ∀ i < k, ¬ Final call channel.policy.budget.toNat i
      (script (h ++ List.replicate i (channel.request call)) (channel.request call)))
    (final : Final call channel.policy.budget.toNat k
      (script (h ++ List.replicate k (channel.request call)) (channel.request call))) :
    callsOf (channel.send wire call s).steps = List.replicate (k + 1) (channel.request call) ∧
      (channel.send wire call s).outcome = channel.judge
        (script (h ++ List.replicate k (channel.request call)) (channel.request call)) ∧
      ∃ m, past (h ++ List.replicate (k + 1) (channel.request call)) m
        (channel.send wire call s).final := by
  have asked (count : Nat) :
      (channel.loop wire (channel.request call) (mayRepeat call)).asked 0 count =
        List.replicate count (channel.request call) := Loop.asked_const (fun _ => rfl) 0 count
  unfold send
  rw [attempts_eq_turns, ← asked (k + 1)]
  apply Loop.turns_scripted world here
  · intro i less
    rw [asked i]
    exact (verdict_eq_none_iff channel wire _ call (by omega) _).mpr (open_ i less)
  · rw [asked k]
    exact verdict_of_final channel wire _ call within final

structure FirstFinal (call : Call) (retries : Nat) (answers : Nat → Answer) (k : Nat) : Prop where
  final : Final call retries k (answers k)
  open_ : ∀ i < k, ¬ Final call retries i (answers i)

theorem FirstFinal.eq_of_final {call : Call} {retries k i : Nat} {answers : Nat → Answer}
    (first : FirstFinal call retries answers k) (within : i ≤ k)
    (final : Final call retries i (answers i)) : i = k := by
  rcases Nat.lt_or_eq_of_le within with less | same
  · exact absurd final (first.open_ i less)
  · exact same

/-- The first final answer, number `k`, decides a run: no call is made after it, and the run ends in
the one way that it leaves. -/
structure Decided {σ α : Type} (channel : Channel) (call : Call) (answers : Nat → Answer)
    (Ends : Answer → Except Fault α → Prop) (k : Nat) (run : Exchange σ α) : Prop where
  first : FirstFinal call channel.policy.budget.toNat answers k
  calls : run.calls = List.replicate (k + 1) (channel.request call)
  outcome : ∀ o, run.outcome = o ↔ Ends (answers k) o

/-- Sending a call and reading how it ends is decided by the first final answer. -/
theorem exists_decided {σ α : Type} (channel : Channel) (wire : Wire σ) (call : Call)
    {answers : Nat → Answer} {samples : Nat → Double} {past : List Http.Request → Nat → σ → Prop}
    (world : Scripted wire.toEnvironment wire.transport (fun h _ => answers h.length) samples past)
    {s : σ} (start : past [] 0 s) {f : Except Fault Http.Response → Except Fault α}
    {Ends : Answer → Except Fault α → Prop}
    (ends : ∀ answer o, f (channel.judge answer) = o ↔ Ends answer o) :
    ∃ k, channel.Decided call answers Ends k ((channel.send wire call s).mapOutcome f) := by
  obtain ⟨k, final, open_, within⟩ :=
    exists_first_final call channel.policy.budget.toNat answers
  have count (i : Nat) : ([] ++ List.replicate i (channel.request call)).length = i := by simp
  obtain ⟨calls, outcome, _⟩ := send_scripted channel wire call world start within
    (by simpa only [count] using open_) (by simpa only [count] using final)
  rw [count] at outcome
  refine ⟨k, ⟨final, open_⟩, calls, fun o => ?_⟩
  rw [Run.outcome_mapOutcome, outcome]
  exact ends (answers k) o

def reading {α : Type} (channel : Channel) (reader : Json.Reader α)
    (sent : Except Fault Http.Response) : Except Fault (Option α) :=
  (sent.bind fun response => channel.peer.unwrap response.body).bind fun found =>
    found.result.mapM (channel.decode reader)

theorem result_eq {σ α : Type} (channel : Channel) (wire : Wire σ) (reader : Json.Reader α)
    (call : Call) (s : σ) :
    channel.result wire reader call s =
      (channel.send wire call s).mapOutcome (channel.reading reader) := rfl

theorem reading_success {α : Type} {channel : Channel}
    {unwrap : List UInt8 → Except Fault Content} (unwraps : channel.peer.unwrap = unwrap)
    (reader : Json.Reader α) {response : Http.Response}
    (success : 200 ≤ response.status ∧ response.status ≤ 299) :
    channel.reading reader (channel.judge (.ok response)) =
      (unwrap response.body).bind fun found => found.result.mapM (channel.decode reader) := by
  rw [reading, channel.judge_response, if_pos success, ← unwraps]
  rfl

/-- However failures and statuses are mixed, sending stops at the first final answer: the same
request has been made once for each answer up to it, and the outcome is read off that answer alone.
The number of attempts before it is within the retries, so it fits 32 bits. -/
theorem send_stops_at_first_final {σ : Type} (channel : Channel) (wire : Wire σ) (call : Call)
    (answers : Nat → Answer) (samples : Nat → Double)
    (past : List Http.Request → Nat → σ → Prop)
    (world : Scripted wire.toEnvironment wire.transport (fun h _ => answers h.length) samples past)
    (s : σ) (start : past [] 0 s) :
    ∃ k, Final call channel.policy.budget.toNat k (answers k) ∧
      (∀ i < k, ¬ Final call channel.policy.budget.toNat i (answers i)) ∧
      k ≤ channel.policy.budget.toNat ∧ k < UInt32.size ∧
      (channel.send wire call s).calls = List.replicate (k + 1)
        { method := call.method
          url := channel.base.join call.path.toList (call.query.map fun pair =>
            (pair.1.toList, pair.2.toList))
          headers := Http.withHeader channel.peer.authorization
            ⟨"content-type", Text.utf8 "application/json".toList, false⟩
          body := call.body
          timeout := channel.timeout } ∧
      (channel.send wire call s).outcome =
        match answers k with
        | .error source => .error (.transport channel.peer.name source)
        | .ok response =>
          if 200 ≤ response.status ∧ response.status ≤ 299 then .ok response
          else .error (.status channel.peer.name response.status response.text) := by
  obtain ⟨k, final, open_, within⟩ :=
    exists_first_final call channel.policy.budget.toNat answers
  have count (i : Nat) : (List.replicate i (channel.request call)).length = i :=
    List.length_replicate
  obtain ⟨calls, outcome, _⟩ := send_scripted channel wire call world start within
    (by simpa only [List.nil_append, count] using open_)
    (by simpa only [List.nil_append, count] using final)
  refine ⟨k, final, open_, within, ?_, calls, ?_⟩
  · exact Nat.lt_of_le_of_lt within channel.policy.budget.toNat_lt
  · rw [outcome, List.nil_append, count]
    cases answers k with
    | error source => rfl
    | ok response => exact channel.judge_response response

def sampleChannel (peer : Peer) (retries : UInt32) : Channel :=
  { peer
    base :=
      { scheme := "https".toList, authority := some { host := .named "api".toList }, path := [] }
    timeout := Duration.ofSeconds 30
    policy := { retries := some retries } }

def plainPeer : Peer := ⟨"plain", [], fun _ => .ok {}⟩

def worseningAnswers : Nat → Answer
  | 0 => .error "connection reset"
  | 1 => .ok { status := 503 }
  | _ => .ok { status := 429, body := [110, 111] }

theorem send_stops_at_first_final_worsening :
    let channel := sampleChannel plainPeer 2
    let wire := scriptedWire (fun h _ => worseningAnswers h.length) fun _ => .nan
    let call : Call := { path := "zones" }
    (channel.send wire call ([], 0)).calls = List.replicate 3 (channel.request call) ∧
      (channel.send wire call ([], 0)).outcome = .error (.status "plain" 429 "no") := by
  intro channel wire call
  obtain ⟨k, final, open_, within, _, calls, outcome⟩ :=
    send_stops_at_first_final channel wire call worseningAnswers (fun _ => .nan)
      (fun h n s => s = (h, n)) (scriptedWire_scripted _ _) ([], 0) rfl
  have open_zero : ¬ Final call 2 0 (worseningAnswers 0) := by
    simp [Final, Succeeded, Refused, Repeatable, worseningAnswers, call]
  have open_one : ¬ Final call 2 1 (worseningAnswers 1) := by
    simp [Final, Succeeded, Refused, Repeatable, worseningAnswers, call]
  have last : k = 2 := by
    have most : k ≤ 2 := within
    rcases k with _ | _ | k
    · exact absurd final open_zero
    · exact absurd final open_one
    · omega
  subst last
  exact ⟨calls, outcome⟩

end ControlPlane.Channel
