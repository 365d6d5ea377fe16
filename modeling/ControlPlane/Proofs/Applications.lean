import ControlPlane.Cloudflare.Applications
import ControlPlane.Proofs.Attempts
import ControlPlane.Proofs.Clients
import ControlPlane.Proofs.Segments
import ControlPlane.Rehearsal
/-!
Where a policy of an application is created. The ids of the owner and of the application are escaped
to one segment each, and their path is read once more when it is joined to the base. That reading
takes the segments as they are, so whoever reads the address finds both ids in it.
-/
namespace ControlPlane

namespace Url

open Text

theorem dotCount_escapeByte {b : UInt8} (different : b ≠ 0x2E) (rest : List Char) :
    dotCount (escapeByte b ++ rest) = none := by
  apply dotCount.eq_5
  · exact List.cons_ne_nil _ _
  · intro t begins
    exact absurd (List.cons.inj begins).1 (by decide)
  · intro t begins
    obtain ⟨two, digit, -⟩ : hexDigit (b.toNat / 16) = '2' ∧ hexDigit (b.toNat % 16) = 'e' ∧
        rest = t := by simpa [escapeByte] using begins
    exact different (dot_of_escapeByte two (.inl digit))
  · intro t begins
    obtain ⟨two, digit, -⟩ : hexDigit (b.toNat / 16) = '2' ∧ hexDigit (b.toNat % 16) = 'E' ∧
        rest = t := by simpa [escapeByte] using begins
    exact different (dot_of_escapeByte two (.inr digit))

theorem eq_replicate_of_dotCount {s : List Char} {n : Nat}
    (count : dotCount (escape segmentSet s) = some n) : s = List.replicate n '.' := by
  induction s generalizing n with
  | nil =>
    cases count
    rfl
  | cons c s ih =>
    rw [escape_cons] at count
    by_cases dot : c = '.'
    · subst dot
      have more : (dotCount (escape segmentSet s)).map (· + 1) = some n := count
      obtain ⟨m, found, rfl⟩ := Option.map_eq_some_iff.mp more
      rw [ih found]
      rfl
    · cases inside : segmentSet c with
      | true =>
        obtain ⟨b, rest, different, written⟩ := exists_escapeChar inside dot
        rw [written, List.append_assoc, dotCount_escapeByte different] at count
        contradiction
      | false =>
        have percent : c ≠ '%' := (segmentSet_covers c inside).2
        rw [escapeChar_of_outside inside, List.singleton_append, dotCount.eq_5] at count
        · contradiction
        · exact List.cons_ne_nil _ _
        · exact fun _ same => dot (List.cons.inj same).1
        · exact fun _ same => percent (List.cons.inj same).1
        · exact fun _ same => percent (List.cons.inj same).1

theorem outside_of_segmentSet {c : Char} (outside : segmentSet c = false) : pathSet c = false := by
  simp only [segmentSet, Bool.or_eq_false_iff] at outside
  exact outside.1.1.1

theorem settled_escapeSegment {s : List Char} (lasts : Lasts s) : Settled (escapeSegment s) := by
  have outside : ∀ c ∈ escapeSegment s, pathSet c = false := by
    intro c member
    rw [escapeSegment_eq] at member
    rcases mem_escape member with ⟨-, outside⟩ | rfl | ⟨n, digit, rfl⟩
    · exact outside_of_segmentSet outside
    · rfl
    · exact (hexDigit_outside digit).1
  have dots {n : Nat} (count : dotCount (escapeSegment s) = some n) : s = List.replicate n '.' := by
    rw [escapeSegment_eq, kept_of_lasts lasts] at count
    exact eq_replicate_of_dotCount count
  constructor
  · refine (isSolid_iff _).mpr ⟨fun c member => ?_, ?_, ?_⟩
    · have single := isSingle_escapeSegment s c member
      exact ⟨ignored_of_outside (outside c member), single.1, single.2.1⟩
    · exact decide_eq_false fun count => lasts.single (dots count)
    · exact decide_eq_false fun count => lasts.double (dots count)
  · exact escape_of_outside outside

theorem exists_path_join_settled {base : Url} (web : base.kind = .web)
    (settled : ∀ s ∈ base.path, Settled s) {first last : Segment} {between : List Segment}
    (filled : first ≠ []) (each : ∀ s ∈ first :: (between ++ [last]), Settled s) :
    ∃ front, pathText front = dropEndWhile (· = '/') (pathText base.path) ∧ ∀ pairs,
      (base.join (pathText (first :: (between ++ [last]))) pairs).path =
        front ++ first :: (between ++ [last]) := by
  obtain ⟨c, first, rfl⟩ := List.exists_cons_of_ne_nil filled
  obtain ⟨front, -, front_eq, read⟩ := exists_front web settled
  refine ⟨front, front_eq.symm, fun pairs => ?_⟩
  have text : pathText ((c :: first) :: (between ++ [last])) =
      pathText ((c :: first) :: between) ++ '/' :: last := by simp
  have solid : ∀ s ∈ (c :: first) :: (between ++ [last]), isSolid s = true := fun s member =>
    (each s member).solid
  have ends : isSolid last = true := solid last (by simp)
  have whole : rawSegments true (visible last) = [last] := by
    have shown : visible last = last := (visible_eq_self_iff last).mpr fun c inside =>
      (((isSolid_iff last).mp ends).1 c inside).1
    rw [shown, rawSegments_of_solid ends]
  have split := rawSegments_below (fun s member => solid s (by
    rcases List.mem_cons.mp member with rfl | inner
    · exact List.mem_cons_self
    · exact .tail _ (List.mem_append_left _ inner))) last
  rw [read, text, split, whole, List.cons_append, resolve_of_solid solid,
    map_escape_of_settled each]

end Url

namespace Cloudflare

open Text Url

variable {σ α : Type}

/-- The segments below a base at which the policies of an application stand. -/
def policySegments (owner : Owner) (application : String) : List Segment :=
  [owner.kind.text.toList, escapeSegment (trim owner.id.toList), "access".toList, "apps".toList,
    escapeSegment (trim application.toList), "policies".toList]

structure Placed (base : Url) (owner : Owner) (application : String) (url : Url) : Prop where
  text : ∃ path, owner.path = .ok path ∧ pathText url.path =
    dropEndWhile (· = '/') (pathText base.path) ++ ("/" ++ path ++ "/access/apps/").toList ++
      escapeSegment (trim application.toList) ++ "/policies".toList
  segments : ∃ front below, url.path = front ++ below ∧
    pathText front = dropEndWhile (· = '/') (pathText base.path) ∧
    List.Forall₂ Names below
      [owner.kind.text.toList, trim owner.id.toList, "access".toList, "apps".toList,
        trim application.toList, "policies".toList]

theorem settled_policySegments {owner : Owner} {application : String}
    (lasts : Lasts (trim owner.id.toList)) (lasts' : Lasts (trim application.toList)) :
    ∀ s ∈ policySegments owner application, Settled s := by
  have kind : Settled owner.kind.text.toList := by
    cases owner.kind <;> exact ⟨by decide +kernel, by decide +kernel⟩
  simp only [policySegments, List.forall_mem_cons]
  exact ⟨kind, settled_escapeSegment lasts, ⟨by decide +kernel, by decide +kernel⟩,
    ⟨by decide +kernel, by decide +kernel⟩, settled_escapeSegment lasts',
    ⟨by decide +kernel, by decide +kernel⟩, List.forall_mem_nil _⟩

theorem names_policySegments {owner : Owner} {application : String}
    (owned : blank owner.id = false) (named : blank application = false)
    (lasts : Lasts (trim owner.id.toList)) (lasts' : Lasts (trim application.toList)) :
    List.Forall₂ Names (policySegments owner application)
      [owner.kind.text.toList, trim owner.id.toList, "access".toList, "apps".toList,
        trim application.toList, "policies".toList] := by
  have kind : Names owner.kind.text.toList owner.kind.text.toList := by
    cases owner.kind <;> exact ⟨by decide +kernel, by decide +kernel⟩
  have word {s : Segment} (filled : s ≠ []) (decoded : unescapeBytes (utf8 s) = utf8 s) :
      Names s s := ⟨filled, decoded⟩
  exact .cons kind (.cons ((names_escapeSegment_iff (trim_ne_nil owned)).mpr lasts)
    (.cons (word (by decide) (by decide +kernel)) (.cons (word (by decide) (by decide +kernel))
      (.cons ((names_escapeSegment_iff (trim_ne_nil named)).mpr lasts')
        (.cons (word (by decide) (by decide +kernel)) .nil)))))

theorem exists_policySegments (owner : Owner) (application : String) :
    ∃ between last,
      policySegments owner application = owner.kind.text.toList :: (between ++ [last]) :=
  ⟨[_, _, _, _], _, rfl⟩

theorem trim_policies (id : Segment) :
    trim ("/access/apps/" ++ String.ofList id ++ "/policies").toList =
      "/access/apps/".toList ++ id ++ "/policies".toList := by
  have whole : trim ([] ++ ("/access/apps/".toList ++ id ++ "/policies".toList ++ [])) =
      "/access/apps/".toList ++ id ++ "/policies".toList := by
    refine stripWhile_of_ends (by simp) (List.forall_mem_nil _) (List.forall_mem_nil _) ?_ ?_
    · rintro c ⟨⟩
      decide
    · intro c last
      rw [List.getLast?_append] at last
      obtain rfl : 's' = c := Option.some.inj last
      decide
  simpa using whole

namespace Client

theorem createApplicationPolicy_eq (client : Client) (wire : Wire σ) (reader : Json.Reader α)
    {owner : Owner} {application : String} (owned : blank owner.id = false)
    (named : blank application = false) (body : Body) (retryUnsafe : Bool) (s : σ) :
    client.createApplicationPolicy wire reader owner application body retryUnsafe s =
      client.request wire reader "POST"
        (String.ofList (pathText (policySegments owner application))) [] (some body) retryUnsafe
        s := by
  have filled : (trim application.toList).isEmpty = false := by
    simpa using trim_ne_nil named
  have endpoint (id : Segment) :
      (trim ("/access/apps/" ++ String.ofList id ++ "/policies").toList).dropWhile (· = '/') =
        "access/apps/".toList ++ id ++ "/policies".toList := by
    rw [trim_policies]
    rfl
  have text : "/" ++ (owner.kind.text ++ "/" ++
      String.ofList (escapeSegment (trim owner.id.toList))) ++ "/" ++
      String.ofList ("access/apps/".toList ++ escapeSegment (trim application.toList) ++
        "/policies".toList) = String.ofList (pathText (policySegments owner application)) := by
    apply String.toList_injective
    simp [policySegments]
  simp only [createApplicationPolicy, create, ownedRequest, filled, Bool.false_eq_true, if_false,
    Owner.path_of_filled owned, endpoint]
  rw [if_neg (by simp), text]

theorem mem_calls_request {client : Client} {wire : Wire σ} {reader : Json.Reader α}
    {method endpoint : String} {query : List (String × String)} {body : Option Body}
    {retryUnsafe : Bool} {s : σ} {request : Http.Request}
    (member : request ∈
      (client.request wire reader method endpoint query body retryUnsafe s).calls) :
    request.url = client.channel.url endpoint query := by
  unfold Client.request at member
  split at member
  · contradiction
  · rw [Channel.mem_calls_send member]
    rfl

theorem calls_request_ne_nil (client : Client) {wire : Wire σ} (reader : Json.Reader α)
    (method endpoint : String) (query : List (String × String)) (v : Json) (retryUnsafe : Bool)
    {s : σ} (unfired : wire.fired s = false) :
    (client.request wire reader method endpoint query (some (.ok v)) retryUnsafe s).calls ≠ [] :=
  List.ne_nil_of_mem (client.channel.request_mem_calls wire
    { method, path := endpoint, query, body := some v.bytes, retryUnsafe } unfired)

/-- Whatever is answered, a policy is created at the address of the application that it is for. Both
ids stand in that address as they were escaped, and are read back from it, if escaping leaves
nothing of them out. -/
theorem createApplicationPolicy_placed {client : Client} {address token : String}
    {settings : Settings} (connected : connect address token settings = .ok client)
    (web : client.channel.base.kind = .web) {owner : Owner} {application : String}
    (owned : blank owner.id = false) (named : blank application = false)
    (lasts : Lasts (trim owner.id.toList)) (lasts' : Lasts (trim application.toList))
    (wire : Wire σ) (reader : Json.Reader α) (retryUnsafe : Bool) (s : σ) :
    (∀ body, ∀ request ∈
      (client.createApplicationPolicy wire reader owner application body retryUnsafe s).calls,
      Placed client.channel.base owner application request.url) ∧
    (wire.fired s = false → ∀ v,
      (client.createApplicationPolicy wire reader owner application (.ok v) retryUnsafe s).calls ≠
        []) := by
  simp only [createApplicationPolicy_eq client wire reader owned named]
  refine ⟨fun body request member => ?_,
    fun unfired v => calls_request_ne_nil client reader _ _ _ v retryUnsafe unfired⟩
  obtain ⟨text, parsed⟩ := exists_of_readBase (madeOf connected).base
  have each := settled_policySegments lasts lasts'
  obtain ⟨between, last, shape⟩ := exists_policySegments owner application
  rw [shape] at each
  have kind : owner.kind.text.toList ≠ [] := by
    cases owner.kind <;> decide +kernel
  obtain ⟨front, front_eq, joined⟩ := exists_path_join_settled web
    (settled_path_of_parse parsed web) kind each
  have path_eq : request.url.path = front ++ policySegments owner application := by
    rw [mem_calls_request member, Channel.url, String.toList_ofList, shape]
    exact joined _
  refine ⟨⟨_, Owner.path_of_filled owned, ?_⟩,
    ⟨front, _, path_eq, front_eq, names_policySegments owned named lasts lasts'⟩⟩
  rw [path_eq, pathText_append, front_eq]
  simp [policySegments]

theorem createApplicationPolicy_placed_delimiters :
    let owner : Owner := .zone " %2e%2e "
    let application := "a/b?c#d\\é 100%\n"
    ∃ client : Client, connect "http://127.0.0.1:8200" "t" {} = .ok client ∧
      client.channel.base.kind = .web ∧ blank owner.id = false ∧ blank application = false ∧
      Lasts (trim owner.id.toList) ∧ Lasts (trim application.toList) ∧
      ∃ request ∈ (client.createApplicationPolicy (Rehearsal.wire false []) Json.Reader.any owner
        application (.ok .null) false { cues := [{ answer := .error "refused" }] }).calls,
        Placed client.channel.base owner application request.url := by
  intro owner application
  have owned : blank owner.id = false := by decide +kernel
  have named : blank application = false := by decide +kernel
  have lasts : Lasts (trim owner.id.toList) :=
    lasts_of_kept (trim_ne_nil owned) (by decide +kernel)
  have lasts' : Lasts (trim application.toList) :=
    lasts_of_kept (trim_ne_nil named) (by decide +kernel)
  obtain ⟨client, connected, read⟩ := exists_local_client
  have web := web_of_local read
  refine ⟨client, connected, web, owned, named, lasts, lasts', ?_⟩
  obtain ⟨placed, sent⟩ := createApplicationPolicy_placed connected web owned named lasts lasts'
    (Rehearsal.wire false []) Json.Reader.any false { cues := [{ answer := .error "refused" }] }
  obtain ⟨request, member⟩ := List.exists_mem_of_ne_nil _ (sent rfl .null)
  exact ⟨request, member, placed _ request member⟩

end Client

end Cloudflare

end ControlPlane
