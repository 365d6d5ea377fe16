import ControlPlane.Proofs.Retrying
import ControlPlane.Proofs.Stripping
/-!
What asking for an account id or for credentials comes to. A request for a role that names none, or
no session, is refused in every world before the backend is asked. Every other question is asked
until the first final answer, and that answer decides: a fault is passed on, an answer that is blank
where it must not be is undecodable, and any other is given.
-/
namespace ControlPlane.Credentials

open Text

variable {σ α β : Type}

def Blank (s : String) : Prop := ∀ c ∈ s.toList, isBlank c = true

theorem blank_iff (s : String) : blank s = true ↔ Blank s := List.all_eq_true

instance (s : String) : Decidable (Blank s) := decidable_of_iff (blank s = true) (blank_iff s)

inductive AccountEnds : Except Fault String → Except Fault String → Prop where
  | failed (fault : Fault) : AccountEnds (.error fault) (.error fault)
  | empty {account : String} (blank : Blank account) :
      AccountEnds (.ok account)
        (.error (.decode "get caller identity returned empty account ID"))
  | known {account id : String} (strips : Strips isBlank account.toList id.toList)
      (filled : id ≠ "") : AccountEnds (.ok account) (.ok id)

inductive RoleEnds : Except Fault Temporary → Except Fault Temporary → Prop where
  | failed (fault : Fault) : RoleEnds (.error fault) (.error fault)
  | empty {credentials : Temporary}
      (keyless : Blank credentials.accessKeyId ∨ Blank credentials.secretAccessKey) :
      RoleEnds (.ok credentials) (.error (.decode "assume role returned empty credentials"))
  | granted {credentials : Temporary} (named : ¬ Blank credentials.accessKeyId)
      (keyed : ¬ Blank credentials.secretAccessKey) : RoleEnds (.ok credentials) (.ok credentials)

def accountOf (answer : Except Fault String) : Except Fault String :=
  answer.bind fun account =>
    if (trimmed account).isEmpty then
      .error (.decode "get caller identity returned empty account ID")
    else .ok (trimmed account)

def roleOf (answer : Except Fault Temporary) : Except Fault Temporary :=
  answer.bind fun credentials =>
    if credentials.isEmpty then .error (.decode "assume role returned empty credentials")
    else .ok credentials

theorem empty_iff_blank (s : String) : (trimmed s).isEmpty = true ↔ Blank s :=
  (isEmpty_trimmed_iff s).trans stripWhile_eq_nil_iff

theorem strips_trimmed (s : String) : Strips isBlank s.toList (trimmed s).toList := by
  rw [trimmed, String.toList_ofList]
  exact strips_stripWhile isBlank s.toList

theorem accountOf_blank {account : String} (blank : Blank account) : accountOf (.ok account) =
    .error (.decode "get caller identity returned empty account ID") := by
  rw [accountOf, Except.bind, if_pos ((empty_iff_blank account).mpr blank)]

theorem accountOf_filled {account : String} (filled : ¬ Blank account) :
    accountOf (.ok account) = .ok (trimmed account) := by
  rw [accountOf, Except.bind, if_neg (mt (empty_iff_blank account).mp filled)]

theorem accountEnds_accountOf (answer : Except Fault String) :
    AccountEnds answer (accountOf answer) := by
  cases answer with
  | error fault => exact .failed fault
  | ok account =>
    by_cases blank : Blank account
    · rw [accountOf_blank blank]
      exact .empty blank
    · rw [accountOf_filled blank]
      refine .known (strips_trimmed account) fun empty => ?_
      refine blank ((empty_iff_blank account).mp ?_)
      rw [empty]
      exact String.isEmpty_iff.mpr rfl

theorem accountOf_eq_iff (answer o : Except Fault String) :
    accountOf answer = o ↔ AccountEnds answer o := by
  constructor
  · rintro rfl
    exact accountEnds_accountOf answer
  · intro ends
    cases ends with
    | failed fault => rfl
    | empty blank => exact accountOf_blank blank
    | @known account id strips filled =>
      have same : trimmed account = id := by
        rw [trimmed, show trim account.toList = id.toList from stripWhile_eq_iff.mpr strips,
          String.ofList_toList]
      have some_ : ¬ Blank account := by
        intro blank
        have empty := (empty_iff_blank account).mpr blank
        rw [same] at empty
        exact filled (String.isEmpty_iff.mp empty)
      rw [accountOf_filled some_, same]

theorem isEmpty_iff (credentials : Temporary) : credentials.isEmpty = true ↔
    Blank credentials.accessKeyId ∨ Blank credentials.secretAccessKey := by
  rw [Temporary.isEmpty, Bool.or_eq_true, blank_iff, blank_iff]

theorem roleOf_eq_iff (answer o : Except Fault Temporary) :
    roleOf answer = o ↔ RoleEnds answer o := by
  constructor
  · rintro rfl
    cases answer with
    | error fault => exact .failed fault
    | ok credentials =>
      by_cases keyless : Blank credentials.accessKeyId ∨ Blank credentials.secretAccessKey
      · have decoded : roleOf (.ok credentials) =
            .error (.decode "assume role returned empty credentials") :=
          if_pos ((isEmpty_iff credentials).mpr keyless)
        rw [decoded]
        exact .empty keyless
      · have given : roleOf (.ok credentials) = .ok credentials :=
          if_neg (mt (isEmpty_iff credentials).mp keyless)
        rw [given]
        exact .granted (fun named => keyless (.inl named)) fun keyed => keyless (.inr keyed)
  · intro ends
    cases ends with
    | failed fault => rfl
    | empty keyless => exact if_pos ((isEmpty_iff _).mpr keyless)
    | granted named keyed =>
      exact if_neg (mt (isEmpty_iff _).mp fun keyless => keyless.elim named keyed)

structure Decided (question : Question) (retries : Nat) (answers : Nat → Except Fault α)
    (Ends : Except Fault α → Except Fault β → Prop) (k : Nat) (run : Inquiry σ β) : Prop where
  final : Retry.Final Fault.mayPass retries k (answers k)
  open_ : ∀ i < k, ¬ Retry.Final Fault.mayPass retries i (answers i)
  calls : run.calls = List.replicate (k + 1) question
  outcome : ∀ o, run.outcome = o ↔ Ends (answers k) o

theorem exists_decided {env : Environment σ} {service : Service σ Question (Except Fault α)}
    {question : Question} {answers : Nat → Except Fault α} {samples : Nat → Double}
    {past : List Question → Nat → σ → Prop}
    (world : Scripted env service (fun h _ => answers h.length) samples past) {s : σ}
    (start : past [] 0 s) (policy : Retry.Policy) {f : Except Fault α → Except Fault β}
    {Ends : Except Fault α → Except Fault β → Prop}
    (ends : ∀ answer o, f answer = o ↔ Ends answer o) :
    ∃ k, Decided question policy.budget.toNat answers Ends k
      ((Retry.run env .cancelled service (fun _ => question) Fault.mayPass policy s).mapOutcome
        f) := by
  obtain ⟨k, final, open_, within⟩ :=
    Retry.exists_first_final Fault.mayPass policy.budget.toNat answers
  obtain ⟨asks, outcome⟩ :=
    Retry.run_scripted .cancelled (fun _ => question) world start final open_ within
  refine ⟨k, final, open_, ?_, fun o => ?_⟩
  · have same (r : Inquiry σ α) : (r.mapOutcome f).calls = r.calls := rfl
    rw [same, Run.calls_eq_asks, asks, List.filterMap_append, Retry.calls_turns, List.map_const',
      List.length_range]
    exact List.replicate_succ'.symm
  · rw [Run.outcome_mapOutcome, outcome]
    exact ends (answers k) o

theorem check_of_named {request : RoleRequest} (role : ¬ Blank request.role)
    (session : ¬ Blank request.session) : request.check = .ok () := by
  rw [RoleRequest.check, if_neg (mt (blank_iff _).mp role), if_neg (mt (blank_iff _).mp session)]

theorem check_of_blank {request : RoleRequest}
    (blank : Blank request.role ∨ Blank request.session) :
    ∃ reason, request.check = .error (.validation reason) := by
  by_cases role : Blank request.role
  · exact ⟨"role ARN must not be empty", if_pos ((blank_iff _).mpr role)⟩
  · have session := blank.resolve_left role
    refine ⟨"role session name must not be empty", ?_⟩
    rw [RoleRequest.check, if_neg (mt (blank_iff _).mp role), if_pos ((blank_iff _).mpr session)]

/-- What the questions to an issuer with so many retries come to. -/
structure Issuer.Settles (issuer : Issuer) (retries : Nat) : Prop where
  /-- A request without a role or a session is refused in every world, also in one whose token has
  fired, and nothing is asked. -/
  refused : ∀ request : RoleRequest, Blank request.role ∨ Blank request.session →
    ∃ reason, ∀ {σ : Type} (env : Environment σ) (backend : Backend σ) (s : σ),
      issuer.assumeRole env backend request s = .done (.error (.validation reason)) s
  role : ∀ request : RoleRequest, ¬ Blank request.role → ¬ Blank request.session →
    ∀ {σ : Type} (env : Environment σ) (backend : Backend σ)
      (answers : Nat → Except Fault Temporary) (samples : Nat → Double)
      (past : List Question → Nat → σ → Prop),
      Scripted env backend.role (fun h _ => answers h.length) samples past →
      ∀ s, past [] 0 s → ∃ k, Decided (.assumeRole request) retries answers RoleEnds k
        (issuer.assumeRole env backend request s)
  account : ∀ {σ : Type} (env : Environment σ) (backend : Backend σ)
    (answers : Nat → Except Fault String) (samples : Nat → Double)
    (past : List Question → Nat → σ → Prop),
    Scripted env backend.account (fun h _ => answers h.length) samples past →
    ∀ s, past [] 0 s → ∃ k, Decided .accountId retries answers AccountEnds k
      (issuer.accountId env backend s)

theorem Issuer.settles (issuer : Issuer) : issuer.Settles issuer.policy.budget.toNat where
  refused request blank := by
    obtain ⟨reason, failed⟩ := check_of_blank blank
    refine ⟨reason, fun env backend s => ?_⟩
    rw [assumeRole, failed]
  role request role session σ env backend answers samples past world s start := by
    rw [assumeRole, check_of_named role session]
    exact exists_decided world start issuer.policy roleOf_eq_iff
  account env backend answers samples past world s start :=
    exists_decided world start issuer.policy accountOf_eq_iff

/-- An issuer is made for each region of the list and for no other. Whether it keeps its own policy,
of four retries, or is given another one, its questions come to what the answers of the backend
say. -/
theorem issuer_settled (region : String) :
    (region ∉ regions → Issuer.make region = .error (.region region)) ∧
    (region ∈ regions → ∃ issuer, Issuer.make region = .ok issuer ∧ issuer.region = region ∧
      issuer.Settles 4 ∧ ∀ policy, (issuer.withPolicy policy).Settles policy.budget.toNat) := by
  constructor
  · intro other
    simp [Issuer.make, checkRegion, other, Except.map]
  · intro allowed
    refine ⟨⟨region, defaultPolicy.filled⟩, ?_, rfl, Issuer.settles _, fun policy => ?_⟩
    · simp [Issuer.make, checkRegion, allowed, Except.map]
    · exact Issuer.settles _

theorem issuer_settled_throttled :
    let env := Rehearsal.environment (Except Fault String) false []
    let backend : Backend (Rehearsal.Stage (Except Fault String)) :=
      { account := fun s _ => s.answer (.ok "")
        role := fun s _ => .returned (.error .cancelled) s }
    let s : Rehearsal.Stage (Except Fault String) :=
      { cues := [{ answer := .error (.status "sts" 503 "") }, { answer := .ok " 123456789012 " }] }
    Issuer.make "mars" = .error (.region "mars") ∧
      ∃ issuer, Issuer.make "us-east-1" = .ok issuer ∧
        (issuer.accountId env backend s).calls = [.accountId, .accountId] ∧
        (issuer.accountId env backend s).outcome = .ok "123456789012" ∧
        ∃ reason, issuer.assumeRole env backend ⟨"arn:aws:iam::1:role/r", "\t", none⟩ s =
          .done (.error (.validation reason)) s := by
  intro env backend s
  refine ⟨(issuer_settled "mars").1 (by decide), ?_⟩
  obtain ⟨issuer, made, _, settles, _⟩ := (issuer_settled "us-east-1").2 (by decide)
  let answers : List (Except Fault String) := [.error (.status "sts" 503 ""), .ok " 123456789012 "]
  obtain ⟨k, decided⟩ := settles.account env backend (fun i => answers[i]?.getD (.ok "")) _ _
    (Rehearsal.scripted answers (.ok "") []) s rfl
  have last : k = 1 := by
    have most : ¬ 1 < k := fun more => decided.open_ 1 more (.inl ⟨_, rfl⟩)
    have more : k ≠ 0 := by
      rintro rfl
      simpa [Retry.Final, answers, Fault.mayPass, asksForRetry] using decided.final
    omega
  subst last
  obtain ⟨reason, refused⟩ := settles.refused ⟨"arn:aws:iam::1:role/r", "\t", none⟩
    (.inr (by decide))
  refine ⟨issuer, made, decided.calls, ?_, reason, refused env backend s⟩
  have strips : Strips isBlank " 123456789012 ".toList "123456789012".toList :=
    stripWhile_eq_iff.mp (by decide)
  exact (decided.outcome _).mpr (.known strips (by decide))

end ControlPlane.Credentials
