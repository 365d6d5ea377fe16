import ControlPlane.Proofs.Sending
/-!
What a call waits for between two attempts. A response may direct the wait in its first
`retry-after` header; then that wait is asked for as it is, and no sample is drawn. After any other
answer the wait is the policy's, for the number of the attempt among all attempts and for a sample
that is drawn just before, if the policy has jitter.
-/
namespace ControlPlane.Channel

variable {σ : Type}

/-- The first `retry-after` header of the answer is visible text that asks, at the time `now`, for
the delay. -/
def Directs (now : Int) (answer : Answer) (delay : Duration) : Prop :=
  ∃ response before header after, answer = .ok response ∧
    response.headers = before ++ header :: after ∧
    (∀ earlier ∈ before, earlier.name ≠ "retry-after") ∧ header.name = "retry-after" ∧
    (∀ b ∈ header.value, b = 9 ∨ (32 ≤ b.toNat ∧ b.toNat < 127)) ∧
    RetryAfter.parse? (header.value.map fun b => Char.ofNat b.toNat) now = some delay

/-- An attempt that is followed by another one: the state in which it is made, its answer, the state
in which that comes, and the delay that it directs. -/
structure Round (σ : Type) where
  began : σ
  answer : Answer
  came : σ
  directed : Option Duration

structure Round.Made (round : Round σ) (wire : Wire σ) (request : Http.Request) : Prop where
  answered : (wire.transport round.began request).await wire.fired =
    (some round.answer, round.came)
  directs : ∀ delay, round.directed = some delay ↔ Directs (wire.now round.came) round.answer delay

def Round.delay (round : Round σ) (wire : Wire σ) (policy : Retry.Policy) (i : Nat) : Duration :=
  match round.directed with
  | some delay => delay
  | none =>
    Retry.delay i policy.base policy.cap policy.jitter
      (if policy.jitter then (wire.draw round.came).1 else .finite false 0)

def Round.draws (round : Round σ) (policy : Retry.Policy) : Bool :=
  policy.jitter && round.directed.isNone

def Round.steps (round : Round σ) (wire : Wire σ) (policy : Retry.Policy) (request : Http.Request)
    (i : Nat) : List (Step σ Http.Request) :=
  ⟨round.began, .call request⟩ ::
    if round.draws policy then
      [⟨round.came, .draw⟩, ⟨(wire.draw round.came).2, .wait (round.delay wire policy i)⟩]
    else [⟨round.came, .wait (round.delay wire policy i)⟩]

theorem visibleText?_eq_some_iff (value : List UInt8) (text : List Char) :
    Http.visibleText? value = some text ↔
      (∀ b ∈ value, b = 9 ∨ (32 ≤ b.toNat ∧ b.toNat < 127)) ∧
        (value.map fun b => Char.ofNat b.toNat) = text := by
  simp [Http.visibleText?, Http.isVisibleByte]

theorem header?_eq_some_iff (response : Http.Response) (name : String) (header : Http.Header) :
    response.header? name = some header ↔
      header.name = name ∧ ∃ before after, response.headers = before ++ header :: after ∧
        ∀ earlier ∈ before, earlier.name ≠ name := by
  simp [Http.Response.header?, List.find?_eq_some_iff_append]

theorem directs_iff (now : Int) (answer : Answer) (delay : Duration) :
    askedWait now answer = some delay ↔ Directs now answer delay := by
  cases answer with
  | error source => simp [askedWait, Directs]
  | ok response =>
    simp only [askedWait, Http.Response.retryAfter, Option.bind_eq_some_iff, header?_eq_some_iff,
      visibleText?_eq_some_iff, Directs, Except.ok.injEq]
    constructor
    · rintro ⟨text, ⟨header, ⟨named, before, after, split, first⟩, visible, rfl⟩, parsed⟩
      exact ⟨response, before, header, after, rfl, split, first, named, visible, parsed⟩
    · rintro ⟨_, before, header, after, rfl, split, first, named, visible, parsed⟩
      exact ⟨_, ⟨header, ⟨named, before, after, split, first⟩, visible, rfl⟩, parsed⟩

section

variable (channel : Channel) (wire : Wire σ) (request : Http.Request) (repeatable : Bool)

theorem steps_pause (i : Nat) (s t : σ) (answer : Answer) :
    (⟨s, .call request⟩ : Step σ Http.Request) ::
        ((channel.loop wire request repeatable).pause i answer t).steps =
      Round.steps ⟨s, answer, t, askedWait (wire.now t) answer⟩ wire channel.policy request i := by
  have pause_eq : (channel.loop wire request repeatable).pause i answer t =
      waitAfter wire channel.policy i answer t := rfl
  rw [pause_eq, waitAfter]
  cases directed : askedWait (wire.now t) answer with
  | some delay => simp [Round.steps, Round.draws, Round.delay, Loop.pause_eq]
  | none =>
    cases jitter : channel.policy.jitter with
    | true =>
      simp [Round.steps, Round.draws, Round.delay, jitter, Retry.pause, Retry.Policy.delay,
        Environment.sample, Loop.pause_eq, Run.bind, Run.after]
    | false =>
      simp [Round.steps, Round.draws, Round.delay, jitter, Retry.pause, Retry.Policy.delay,
        Environment.sample, Loop.pause_eq]

/-- A run of attempts that is not cancelled is made of rounds and a last call. The rounds are
numbered on from the attempt with which the run begins. -/
theorem turns_rounds (left attempt : Nat) (s : σ)
    (calm : ((channel.loop wire request repeatable).turns left attempt s).outcome ≠
      .error .cancelled) :
    ∃ (rounds : List (Round σ)) (last : σ),
      ((channel.loop wire request repeatable).turns left attempt s).steps =
        (rounds.zipIdx attempt).flatMap (fun p =>
          p.1.steps wire channel.policy request p.2) ++ [⟨last, .call request⟩] ∧
      ∀ round ∈ rounds, round.Made wire request := by
  induction left using Nat.strongRecOn generalizing attempt s with
  | _ left ih =>
    have turn := (channel.loop wire request repeatable).turn left attempt s
    generalize (channel.loop wire request repeatable).turns left attempt s = r at turn calm ⊢
    cases turn with
    | barred fired => exact absurd rfl calm
    | interrupted t unfired given => exact absurd rfl calm
    | refused answer t u v steps delay unfired given open_ drawn paused waited =>
      exact absurd rfl calm
    | settled answer t o unfired given final => exact ⟨[], s, rfl, by simp⟩
    | repeated next answer t u v steps delay unfired given open_ left_eq drawn paused waited =>
      obtain ⟨rounds, last, later, made⟩ := ih next (by omega) (attempt + 1) v calm
      have first := steps_pause channel wire request repeatable attempt s t answer
      rw [paused] at first
      refine ⟨⟨s, answer, t, askedWait (wire.now t) answer⟩ :: rounds, last, ?_, ?_⟩
      · rw [List.zipIdx_cons, List.flatMap_cons, ← first, later]
        simp [Channel.loop]
      · intro round member
        rcases List.mem_cons.mp member with rfl | member
        · exact ⟨given, fun d => directs_iff _ _ d⟩
        · exact made round member

end

section

variable (wire : Wire σ) (policy : Retry.Policy) (request : Http.Request)
  (rounds : List (Round σ)) (first : Nat)

theorem calls_rounds :
    callsOf ((rounds.zipIdx first).flatMap fun p => p.1.steps wire policy request p.2) =
      List.replicate rounds.length request := by
  induction rounds generalizing first with
  | nil => rfl
  | cons round rounds ih =>
    rw [List.zipIdx_cons, List.flatMap_cons, callsOf_append, ih, List.length_cons,
      List.replicate_succ]
    unfold Round.steps
    split <;> rfl

theorem waits_rounds :
    waitsOf ((rounds.zipIdx first).flatMap fun p => p.1.steps wire policy request p.2) =
      (rounds.zipIdx first).map fun p => p.1.delay wire policy p.2 := by
  induction rounds generalizing first with
  | nil => rfl
  | cons round rounds ih =>
    rw [List.zipIdx_cons, List.flatMap_cons, waitsOf_append, ih, List.map_cons]
    unfold Round.steps
    split <;> rfl

theorem draws_rounds :
    drawsOf ((rounds.zipIdx first).flatMap fun p => p.1.steps wire policy request p.2) =
      rounds.countP (·.draws policy) := by
  induction rounds generalizing first with
  | nil => rfl
  | cons round rounds ih =>
    rw [List.zipIdx_cons, List.flatMap_cons, drawsOf_append, ih, List.countP_cons, Nat.add_comm]
    unfold Round.steps
    split <;> rfl

end

/-- Unless it is cancelled, sending a call is rounds of a call and a wait, and a last call. After a
round whose answer directs a delay, whatever its status, the wait is exactly that delay and no
sample is drawn. After any other it is the policy's delay for the number of the attempt, the
directed ones counted too; with jitter a sample is drawn for each of these waits just before it, and
for nothing else. -/
theorem send_waits (channel : Channel) (wire : Wire σ) (call : Call) (s : σ)
    (calm : (channel.send wire call s).outcome ≠ .error .cancelled) :
    ∃ (rounds : List (Round σ)) (last : σ),
      (∀ round ∈ rounds, round.Made wire (channel.request call)) ∧
      (channel.send wire call s).steps =
        rounds.zipIdx.flatMap (fun p =>
          p.1.steps wire channel.policy (channel.request call) p.2) ++
          [⟨last, .call (channel.request call)⟩] ∧
      (channel.send wire call s).calls = List.replicate (rounds.length + 1) (channel.request call) ∧
      (channel.send wire call s).waits.length = rounds.length ∧
      (∀ i round, rounds[i]? = some round →
        (∀ delay, Directs (wire.now round.came) round.answer delay →
          (channel.send wire call s).waits[i]? = some delay) ∧
        ((∀ delay, ¬ Directs (wire.now round.came) round.answer delay) →
          (channel.send wire call s).waits[i]? = some
            (Retry.delay i channel.policy.base channel.policy.cap channel.policy.jitter
              (if channel.policy.jitter then (wire.draw round.came).1 else .finite false 0)))) ∧
      (channel.send wire call s).draws =
        if channel.policy.jitter then rounds.countP (·.directed.isNone) else 0 := by
  have send_eq : channel.send wire call s =
      (channel.loop wire (channel.request call) (mayRepeat call)).turns
        channel.policy.budget.toNat 0 s := by
    rw [send, attempts_eq_turns]
  rw [send_eq] at calm ⊢
  obtain ⟨rounds, last, steps, made⟩ :=
    turns_rounds channel wire (channel.request call) (mayRepeat call) _ 0 s calm
  refine ⟨rounds, last, made, steps, ?_⟩
  rw [Run.calls_eq, Run.waits_eq, Run.draws_eq, steps, callsOf_append, waitsOf_append,
    drawsOf_append, calls_rounds, waits_rounds, draws_rounds]
  have waits : waitsOf [(⟨last, .call (channel.request call)⟩ : Step σ Http.Request)] = [] := rfl
  rw [waits, List.append_nil]
  refine ⟨List.replicate_succ'.symm, by simp, ?_, ?_⟩
  · intro i round here
    have made := made round (List.mem_of_getElem? here)
    simp only [List.getElem?_map, List.getElem?_zipIdx, here, Option.map_some, Nat.zero_add]
    refine ⟨fun delay directs => ?_, fun silent => ?_⟩
    · simp only [Round.delay, (made.directs delay).mpr directs]
    · have undirected : round.directed = none :=
        Option.eq_none_iff_forall_ne_some.mpr fun delay directed =>
          silent delay ((made.directs delay).mp directed)
      simp only [Round.delay, undirected]
  · unfold Round.draws
    cases channel.policy.jitter with
    | true => simp [drawsOf]
    | false => simp [drawsOf]

def mixedAnswers : Nat → Answer
  | 0 => .ok { status := 500 }
  | 1 => .ok { status := 429, headers := [⟨"retry-after", Text.utf8 "90".toList, false⟩] }
  | 2 => .ok { status := 503, headers := [⟨"retry-after", Text.utf8 "soon".toList, false⟩] }
  | _ => .ok {}

theorem send_waits_mixed :
    let half : Double := .finite false (Double.ofScientific 5 (-1))
    let channel :=
      { sampleChannel plainPeer 5 with policy := { retries := some 5, jitter := true } }
    let wire := scriptedWire (fun h _ => mixedAnswers h.length) fun _ => half
    let run := channel.send wire { path := "zones" } ([], 0)
    run.outcome ≠ .error .cancelled ∧
      run.waits = [Duration.ofMillis 1050, Duration.ofSeconds 90, Duration.ofMillis 4200] ∧
      ∃ rounds : List (Round (List Http.Request × Nat)), rounds.length = 3 ∧
        run.draws = rounds.countP (·.directed.isNone) ∧ run.draws = 2 := by
  intro half channel wire run
  have succeeded : run.outcome = .ok {} := by decide +kernel
  have calm : run.outcome ≠ .error .cancelled := by
    rw [succeeded]
    exact nofun
  have waits : run.waits =
      [Duration.ofMillis 1050, Duration.ofSeconds 90, Duration.ofMillis 4200] := by
    decide +kernel
  obtain ⟨rounds, last, _, _, _, count, _, draws⟩ :=
    send_waits channel wire { path := "zones" } ([], 0) calm
  have three : rounds.length = 3 := count.symm.trans (congrArg List.length waits)
  exact ⟨calm, waits, rounds, three, draws, by decide +kernel⟩

end ControlPlane.Channel
