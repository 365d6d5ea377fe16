import ControlPlane.Proofs.Attempts
/-!
What a token demands of a loop of attempts, at whatever moment it fires and whatever the operation
and the way of waiting do. A wait may ignore the token, may be refused although the token has not
fired, or may be skipped: nothing is assumed of it.
-/
namespace ControlPlane

variable {σ ρ α ε β : Type}

def Course.Overtaken (fired : σ → Bool) : Course σ α → Prop
  | .returned _ _ => False
  | .pending s rest => fired s = true ∨ rest.Overtaken fired

theorem Course.overtaken_of_await {fired : σ → Bool} {course : Course σ α} {t : σ}
    (given : course.await fired = (none, t)) : course.Overtaken fired := by
  induction course with
  | returned answer s => cases given
  | pending s rest ih =>
    simp only [await] at given
    split at given
    · rename_i now
      exact .inl now
    · exact .inr (ih given)

theorem Course.not_overtaken_of_await {fired : σ → Bool} {course : Course σ α} {answer : α} {t : σ}
    (given : course.await fired = (some answer, t)) : ¬ course.Overtaken fired := by
  induction course with
  | returned answer s => exact id
  | pending s rest ih =>
    simp only [await] at given
    split at given
    · cases given
    · rename_i unfired
      rintro (now | later)
      · exact unfired now
      · exact ih given later

/-- A step decides the outcome of a run, `made` calls having been made before it: the token
overtakes the call, the answer of the call settles the matter, the wait is refused, or the token has
fired when the wait is over. An answer that has arrived counts even if the token has fired by then.
-/
inductive Decides (env : Environment σ) (cancelled : ε) (service : Service σ ρ α)
    (settles : Nat → α → Option (Except ε β)) (made : Nat) : Step σ ρ → Except ε β → Prop where
  | overtaken {s : σ} {request : ρ} (overtaken : (service s request).Overtaken env.fired) :
      Decides env cancelled service settles made ⟨s, .call request⟩ (.error cancelled)
  | answered {s t : σ} {request : ρ} {answer : α} {o : Except ε β}
      (given : (service s request).await env.fired = (some answer, t))
      (settled : settles made answer = some o) :
      Decides env cancelled service settles made ⟨s, .call request⟩ o
  | refused {s : σ} {delay : Duration} (refused : (env.wait s delay).1 = false) :
      Decides env cancelled service settles made ⟨s, .wait delay⟩ (.error cancelled)
  | late {s : σ} {delay : Duration} (late : env.fired (env.wait s delay).2 = true) :
      Decides env cancelled service settles made ⟨s, .wait delay⟩ (.error cancelled)

def Unfired (env : Environment σ) (steps : List (Step σ ρ)) : Prop :=
  ∀ s request, (⟨s, .call request⟩ : Step σ ρ) ∈ steps → env.fired s = false

/-- The property holds of each step, of how many calls were made before it, and of what follows it.
-/
def AtEach (property : Nat → Step σ ρ → List (Step σ ρ) → Prop) (made : Nat)
    (steps : List (Step σ ρ)) : Prop :=
  ∀ before step after, steps = before ++ step :: after →
    property (made + (callsOf before).length) step after

def Obeyed (decides : Nat → Step σ ρ → Except ε β → Prop) (outcome : Except ε β) (made : Nat)
    (step : Step σ ρ) (after : List (Step σ ρ)) : Prop :=
  ∀ o, decides made step o → after = [] ∧ outcome = o

/-- If the step is a call whose answer asks for another one, but the token has fired by then, then
no call follows it, and the outcome is that of the token. -/
def Doomed (env : Environment σ) (cancelled : ε) (service : Service σ ρ α)
    (settles : Nat → α → Option (Except ε β)) (outcome : Except ε β) (made : Nat)
    (step : Step σ ρ) (after : List (Step σ ρ)) : Prop :=
  ∀ s request answer t, step = ⟨s, .call request⟩ →
    (service s request).await env.fired = (some answer, t) → settles made answer = none →
    env.fired t = true → callsOf after = [] ∧ outcome = .error cancelled

def Decided (decides : Nat → Step σ ρ → Except ε β → Prop) (made : Nat) (steps : List (Step σ ρ))
    (outcome : Except ε β) : Prop :=
  ∃ before step, steps = before ++ [step] ∧
    decides (made + (callsOf before).length) step outcome

/-- A token that has fired stays fired while something is waited for or a sample is drawn. -/
structure Lasting (env : Environment σ) : Prop where
  waited : ∀ s delay, env.fired s = true → env.fired (env.wait s delay).2 = true
  drawn : ∀ s, env.fired s = true → env.fired (env.draw s).2 = true

section

variable {made : Nat} {first : Step σ ρ} {rest : List (Step σ ρ)}

theorem length_callsOf_cons (made : Nat) (first : Step σ ρ) (before : List (Step σ ρ)) :
    made + (callsOf (first :: before)).length =
      made + (callsOf [first]).length + (callsOf before).length := by
  have count : callsOf (first :: before) = callsOf [first] ++ callsOf before :=
    callsOf_append [first] before
  rw [count, List.length_append, Nat.add_assoc]

theorem atEach_nil (property : Nat → Step σ ρ → List (Step σ ρ) → Prop) (made : Nat) :
    AtEach property made [] := by
  intro before step after split
  cases before <;> cases split

theorem atEach_cons {property : Nat → Step σ ρ → List (Step σ ρ) → Prop}
    (here : property made first rest)
    (there : AtEach property (made + (callsOf [first]).length) rest) :
    AtEach property made (first :: rest) := by
  intro before step after split
  cases before with
  | nil =>
    obtain ⟨rfl, rfl⟩ := List.cons.inj split
    exact here
  | cons head before =>
    obtain ⟨rfl, tail⟩ := List.cons.inj split
    rw [length_callsOf_cons]
    exact there before step after tail

variable {decides : Nat → Step σ ρ → Except ε β → Prop} {outcome : Except ε β}

theorem decided_last (here : decides made first outcome) : Decided decides made [first] outcome :=
  ⟨[], first, rfl, here⟩

theorem decided_cons
    (there : Decided decides (made + (callsOf [first]).length) rest outcome) :
    Decided decides made (first :: rest) outcome := by
  obtain ⟨before, step, rfl, decisive⟩ := there
  refine ⟨first :: before, step, rfl, ?_⟩
  rw [length_callsOf_cons]
  exact decisive

end

/-- What a token demands of a run that begins in the state `s`, `made` calls having been made
before. `settles` says which answers settle the matter, by the number of calls made before. -/
structure Heeds (env : Environment σ) (cancelled : ε) (service : Service σ ρ α)
    (settles : Nat → α → Option (Except ε β)) (made : Nat) (s : σ) (r : Run σ ρ ε β) : Prop where
  unfired : Unfired env r.steps
  barred : env.fired s = true → r = .done (.error cancelled) s
  obeyed : AtEach (Obeyed (Decides env cancelled service settles) r.outcome) made r.steps
  doomed : Lasting env → AtEach (Doomed env cancelled service settles r.outcome) made r.steps
  decided : env.fired s = false →
    Decided (Decides env cancelled service settles) made r.steps r.outcome

theorem unfired_append {env : Environment σ} {first second : List (Step σ ρ)}
    (one : Unfired env first) (two : Unfired env second) : Unfired env (first ++ second) := by
  intro s request member
  rcases List.mem_append.mp member with here | there
  · exact one s request here
  · exact two s request there

theorem unfired_nil (env : Environment σ) : Unfired env ([] : List (Step σ ρ)) := by
  intro s request member
  cases member

theorem unfired_wait {env : Environment σ} {s : σ} {delay : Duration} {rest : List (Step σ ρ)}
    (later : Unfired env rest) : Unfired env (⟨s, .wait delay⟩ :: rest) := by
  intro t request member
  rcases List.mem_cons.mp member with here | there
  · cases here
  · exact later t request there

theorem doomed_of_quiet {env : Environment σ} {cancelled : ε} {service : Service σ ρ α}
    {settles : Nat → α → Option (Except ε β)} {outcome : Except ε β} {made : Nat}
    {step : Step σ ρ} {after : List (Step σ ρ)} (quiet : ∀ request, step.ask ≠ .call request) :
    Doomed env cancelled service settles outcome made step after := by
  rintro s request answer t rfl
  exact absurd rfl (quiet request)

namespace Loop

variable {l : Loop σ ρ α ε β} {settles : Nat → α → Option (Except ε β)} {made : Nat}

theorem eq_of_decides_interrupted {s t : σ} {request : ρ} {o : Except ε β}
    (given : (l.service s request).await l.env.fired = (none, t))
    (decides : Decides l.env l.cancelled l.service settles made ⟨s, .call request⟩ o) :
    o = .error l.cancelled := by
  cases decides with
  | overtaken _ => rfl
  | answered given' _ => rw [given] at given'; cases given'

theorem settles_of_decides {s t : σ} {request : ρ} {answer : α} {o : Except ε β}
    (given : (l.service s request).await l.env.fired = (some answer, t))
    (decides : Decides l.env l.cancelled l.service settles made ⟨s, .call request⟩ o) :
    settles made answer = some o := by
  cases decides with
  | overtaken overtaken => exact absurd overtaken (Course.not_overtaken_of_await given)
  | answered given' settled =>
    rw [given] at given'
    cases given'
    exact settled

theorem eq_of_decides_wait {s : σ} {delay : Duration} {o : Except ε β}
    (decides : Decides l.env l.cancelled l.service settles made ⟨s, .wait delay⟩ o) :
    o = .error l.cancelled := by
  cases decides <;> rfl

theorem unfired_of_draws {t u : σ} {draws : List (Step σ ρ)} (drawn : Draws l.env t draws u) :
    Unfired l.env draws := by
  intro s request member
  rcases drawn with ⟨rfl, _⟩ | ⟨rfl, _⟩
  · cases member
  · cases List.mem_singleton.mp member

theorem fired_of_draws {t u : σ} {draws : List (Step σ ρ)} (drawn : Draws l.env t draws u)
    (lasting : Lasting l.env) (fired : l.env.fired t = true) : l.env.fired u = true := by
  rcases drawn with ⟨_, rfl⟩ | ⟨_, rfl⟩
  · exact fired
  · exact lasting.drawn t fired

theorem obeyed_of_draws {t u : σ} {draws steps : List (Step σ ρ)} {o : Except ε β}
    (drawn : Draws l.env t draws u)
    (there : AtEach (Obeyed (Decides l.env l.cancelled l.service settles) o) made steps) :
    AtEach (Obeyed (Decides l.env l.cancelled l.service settles) o) made (draws ++ steps) := by
  rcases drawn with ⟨rfl, _⟩ | ⟨rfl, _⟩
  · exact there
  · refine atEach_cons ?_ there
    intro o decides
    cases decides

theorem doomed_of_draws {t u : σ} {draws steps : List (Step σ ρ)} {o : Except ε β}
    (drawn : Draws l.env t draws u)
    (there : AtEach (Doomed l.env l.cancelled l.service settles o) made steps) :
    AtEach (Doomed l.env l.cancelled l.service settles o) made (draws ++ steps) := by
  rcases drawn with ⟨rfl, _⟩ | ⟨rfl, _⟩
  · exact there
  · refine atEach_cons ?_ there
    exact doomed_of_quiet fun request => by simp

theorem decided_of_draws {t u : σ} {draws steps : List (Step σ ρ)} {o : Except ε β}
    (drawn : Draws l.env t draws u)
    (there : Decided (Decides l.env l.cancelled l.service settles) made steps o) :
    Decided (Decides l.env l.cancelled l.service settles) made (draws ++ steps) o := by
  rcases drawn with ⟨rfl, _⟩ | ⟨rfl, _⟩
  · exact there
  · exact decided_cons there

theorem heeds_of_barred {s : σ} (fired : l.env.fired s = true) :
    Heeds l.env l.cancelled l.service settles made s (.done (.error l.cancelled) s) := by
  refine ⟨unfired_nil l.env, fun _ => rfl, atEach_nil _ made, fun _ => atEach_nil _ made, ?_⟩
  intro unfired
  rw [fired] at unfired
  contradiction

theorem heeds_of_last {s t : σ} {request : ρ} {o : Except ε β} (unfired : l.env.fired s = false)
    (decides : Decides l.env l.cancelled l.service settles made ⟨s, .call request⟩ o)
    (alone : ∀ o', Decides l.env l.cancelled l.service settles made ⟨s, .call request⟩ o' → o = o') :
    Heeds l.env l.cancelled l.service settles made s ⟨[⟨s, .call request⟩], o, t⟩ := by
  refine ⟨?_, ?_, ?_, ?_, fun _ => decided_last decides⟩
  · intro u request' member
    cases List.mem_singleton.mp member
    exact unfired
  · intro fired
    rw [unfired] at fired
    contradiction
  · refine atEach_cons ?_ (atEach_nil _ _)
    intro o' decides'
    exact ⟨rfl, alone o' decides'⟩
  · intro _
    refine atEach_cons ?_ (atEach_nil _ _)
    rintro u request' answer v same given open_ _
    cases same
    cases decides with
    | overtaken overtaken => exact absurd overtaken (Course.not_overtaken_of_await given)
    | answered given' settled =>
      rw [given] at given'
      cases given'
      rw [open_] at settled
      contradiction

/-- A run that begins with a call whose answer asks for another one heeds the token if what follows
does, and if what follows gives up once the token has fired. -/
theorem heeds_of_open {s t v : σ} {request : ρ} {answer : α} {later : List (Step σ ρ)}
    {o : Except ε β} (unfired : l.env.fired s = false)
    (given : (l.service s request).await l.env.fired = (some answer, t))
    (open_ : settles made answer = none) (unfired_later : Unfired l.env later)
    (obeyed : AtEach (Obeyed (Decides l.env l.cancelled l.service settles) o) (made + 1) later)
    (doomed : Lasting l.env →
      AtEach (Doomed l.env l.cancelled l.service settles o) (made + 1) later)
    (given_up : Lasting l.env → l.env.fired t = true →
      callsOf later = [] ∧ o = .error l.cancelled)
    (decided : Decided (Decides l.env l.cancelled l.service settles) (made + 1) later o) :
    Heeds l.env l.cancelled l.service settles made s ⟨⟨s, .call request⟩ :: later, o, v⟩ := by
  refine ⟨?_, ?_, ?_, ?_, fun _ => decided_cons decided⟩
  · intro u request' member
    rcases List.mem_cons.mp member with here | there
    · cases here
      exact unfired
    · exact unfired_later u request' there
  · intro fired
    rw [unfired] at fired
    contradiction
  · refine atEach_cons ?_ obeyed
    intro o' decides
    cases open_.symm.trans (settles_of_decides given decides)
  · intro lasting
    refine atEach_cons ?_ (doomed lasting)
    rintro u request' answer' w same given' _ fired
    cases same
    rw [given] at given'
    cases given'
    exact given_up lasting fired

def settlesAfter (l : Loop σ ρ α ε β) (retries made : Nat) (answer : α) : Option (Except ε β) :=
  l.verdict (retries - made) answer

/-- A loop heeds the token from every turn on. The induction is on the retries that are left; the
calls made and the retries left add up to the same number throughout. -/
theorem heeds (l : Loop σ ρ α ε β) (retries left made attempt : Nat) (s : σ)
    (total : left + made = retries) :
    Heeds l.env l.cancelled l.service (l.settlesAfter retries) made s
      (l.turns left attempt s) := by
  induction left using Nat.strongRecOn generalizing made attempt s with
  | _ left ih =>
    have left_eq (answer : α) : l.verdict left answer = l.settlesAfter retries made answer := by
      rw [settlesAfter, ← total, Nat.add_sub_cancel]
    have turn := l.turn left attempt s
    generalize l.turns left attempt s = r at turn
    cases turn with
    | barred fired => exact heeds_of_barred fired
    | interrupted t unfired given =>
      apply heeds_of_last unfired (.overtaken (Course.overtaken_of_await given))
      intro o decides
      exact (eq_of_decides_interrupted given decides).symm
    | settled answer t o unfired given final =>
      rw [left_eq] at final
      apply heeds_of_last unfired (.answered given final)
      intro o' decides
      exact Option.some.inj (final.symm.trans (settles_of_decides given decides))
    | refused answer t u v steps delay unfired given open_ drawn paused waited =>
      rw [left_eq] at open_
      have refusal : (l.env.wait u delay).1 = false := by rw [waited]
      apply heeds_of_open unfired given open_
      · exact unfired_append (unfired_of_draws drawn) (unfired_wait (unfired_nil l.env))
      · apply obeyed_of_draws drawn
        refine atEach_cons ?_ (atEach_nil _ _)
        intro o decides
        exact ⟨rfl, (eq_of_decides_wait decides).symm⟩
      · intro _
        apply doomed_of_draws drawn
        exact atEach_cons (doomed_of_quiet fun request => by simp) (atEach_nil _ _)
      · intro _ _
        simp [drawn.callsOf_eq]
      · exact decided_of_draws drawn (decided_last (.refused refusal))
    | repeated next answer t u v steps delay unfired given open_ next_eq drawn paused waited =>
      rw [left_eq] at open_
      have rest := ih next (by omega) (made + 1) (attempt + 1) v (by omega)
      apply heeds_of_open unfired given open_
      · exact unfired_append (unfired_of_draws drawn) (unfired_wait rest.unfired)
      · apply obeyed_of_draws drawn
        refine atEach_cons ?_ rest.obeyed
        -- the wait was finished, so it decides only if the token has fired by then
        intro o decides
        have fired : l.env.fired v = true := by
          cases decides with
          | refused refused => rw [waited] at refused; contradiction
          | late late => rw [waited] at late; exact late
        rw [eq_of_decides_wait decides, rest.barred fired]
        exact ⟨rfl, rfl⟩
      · intro lasting
        apply doomed_of_draws drawn
        exact atEach_cons (doomed_of_quiet fun request => by simp) (rest.doomed lasting)
      · intro lasting fired
        have late : l.env.fired v = true := by
          have waiting := lasting.waited u delay (fired_of_draws drawn lasting fired)
          rw [waited] at waiting
          exact waiting
        rw [rest.barred late]
        simp [drawn.callsOf_eq]
      · apply decided_of_draws drawn
        cases fired : l.env.fired v with
        | false => exact decided_cons (rest.decided fired)
        | true =>
          rw [rest.barred fired]
          exact decided_last (.late (by rw [waited]; exact fired))

end Loop

def Retry.settles (retryable : ε → Bool) (retries made : Nat) (answer : Except ε α) :
    Option (Except ε α) :=
  match answer with
  | .ok a => some (.ok a)
  | .error e => if made < retries ∧ retryable e = true then none else some (.error e)

def Channel.settles (channel : Channel) (call : Call) (made : Nat)
    (answer : Except String Http.Response) : Option (Except Fault Http.Response) :=
  match channel.judge answer with
  | .ok response => some (.ok response)
  | .error fault =>
    if made < channel.policy.budget.toNat ∧ mayRepeat call = true ∧ fault.mayPass = true then none
    else some (.error fault)

theorem Channel.eq_judge_of_settles {channel : Channel} {call : Call} {made : Nat}
    {answer : Except String Http.Response} {o : Except Fault Http.Response}
    (settled : channel.settles call made answer = some o) : o = channel.judge answer := by
  unfold settles at settled
  split at settled
  · rename_i response judged
    rw [judged, Option.some.inj settled]
  · rename_i fault judged
    split at settled
    · contradiction
    · rw [judged, Option.some.inj settled]

theorem Retry.run_heeds (env : Environment σ) (cancelled : ε) (service : Service σ ρ (Except ε α))
    (ask : Nat → ρ) (retryable : ε → Bool) (policy : Retry.Policy) (s : σ) :
    Heeds env cancelled service (Retry.settles retryable policy.budget.toNat) 0 s
      (Retry.run env cancelled service ask retryable policy s) := by
  have heeds := (Retry.loop env cancelled service ask retryable policy.filled).heeds
    policy.budget.toNat policy.budget.toNat 0 0 s rfl
  have settles_eq : (Retry.loop env cancelled service ask retryable policy.filled).settlesAfter
      policy.budget.toNat = Retry.settles retryable policy.budget.toNat := by
    funext made answer
    unfold Loop.settlesAfter
    have left : policy.budget.toNat - made ≠ 0 ↔ made < policy.budget.toNat := by omega
    cases answer with
    | ok a => rfl
    | error e =>
      have bad : (Retry.loop env cancelled service ask retryable policy.filled).judge (.error e) =
          .error e := rfl
      rw [Loop.verdict_of_error bad]
      simp only [left]
      rfl
  rw [settles_eq] at heeds
  unfold Retry.run
  rw [Retry.attempts_eq_turns]
  exact heeds

theorem Channel.send_heeds (channel : Channel) (wire : Wire σ) (call : Call) (s : σ) :
    Heeds wire.toEnvironment .cancelled wire.transport (channel.settles call) 0 s
      (channel.send wire call s) := by
  have heeds := (channel.loop wire (channel.request call) (mayRepeat call)).heeds
    channel.policy.budget.toNat channel.policy.budget.toNat 0 0 s rfl
  have settles_eq : (channel.loop wire (channel.request call) (mayRepeat call)).settlesAfter
      channel.policy.budget.toNat = channel.settles call := by
    funext made answer
    unfold Loop.settlesAfter
    have left : channel.policy.budget.toNat - made ≠ 0 ↔ made < channel.policy.budget.toNat := by
      omega
    unfold settles
    cases judged : channel.judge answer with
    | ok response => exact Loop.verdict_of_ok judged _
    | error fault =>
      have again : (channel.loop wire (channel.request call) (mayRepeat call)).again fault = true ↔
          mayRepeat call = true ∧ fault.mayPass = true := by simp [loop]
      rw [Loop.verdict_of_error judged]
      simp only [left, again]
  rw [settles_eq] at heeds
  unfold send
  rw [attempts_eq_turns]
  exact heeds

end ControlPlane
