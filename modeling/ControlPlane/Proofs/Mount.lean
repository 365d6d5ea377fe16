import ControlPlane.Proofs.Attempts
import ControlPlane.Proofs.Clients
import ControlPlane.Proofs.Paths
import ControlPlane.Rehearsal
/-!
Where the secret store is asked. A mount and a path are put into a text that is read as the path of
an address, and that reading drops tabs and line ends, takes a backslash for a slash and follows dot
segments. Requests stay inside the mount if the reading does nothing of the kind to the mount's name
and the path climbs no higher than it has descended; other names can leave it.
-/
namespace ControlPlane.Vault

open Url

variable {σ : Type}

/-- A mount that is read as it is written: none of its segments has a character that is dropped or
taken for a slash, and none is a dot segment. -/
def keepsPlace (mount : String) : Bool := (Text.splitOn (· = '/') (clean mount)).all isSolid

/-- A path that never climbs above the place where it begins, nor ends there. -/
def staysInside (path : String) : Bool :=
  staysBelow 0 (rawSegments true (visible (clean path)))

def place (base : Url) (mount : String) : List Char :=
  Text.dropEndWhile (· = '/') (pathText base.path) ++ "/v1/".toList ++
    escape pathSet (clean mount) ++ "/data/".toList

structure InMount (base : Url) (mount : String) (url : Url) : Prop where
  scheme : url.scheme = base.scheme
  authority : url.authority = base.authority
  path : ∃ rest, rest ≠ [] ∧ pathText url.path = place base mount ++ rest

def placeSegments (mount : String) : List (List Char) :=
  ['v', '1'] :: (Text.splitOn (· = '/') (clean mount) ++ ["data".toList])

theorem pathText_placeSegments (mount : String) :
    pathText (placeSegments mount) = "/v1/".toList ++ clean mount ++ "/data".toList := by
  rw [placeSegments, pathText_cons, pathText_append, pathText_splitOn]
  simp

theorem solid_placeSegments {mount : String} (keeps : keepsPlace mount = true) :
    ∀ raw ∈ placeSegments mount, isSolid raw = true := by
  intro raw member
  rw [placeSegments] at member
  simp only [List.mem_cons, List.mem_append, List.not_mem_nil, or_false] at member
  rcases member with rfl | inner | rfl
  · decide
  · exact List.all_eq_true.mp keeps raw inner
  · decide

theorem endpoint_of_secretPath {mount path endpoint : String}
    (placed : secretPath mount path = .ok endpoint) :
    endpoint.toList = pathText (placeSegments mount) ++ '/' :: clean path := by
  simp only [secretPath] at placed
  split at placed
  · simp only [reduceCtorEq] at placed
  · split at placed
    · simp only [reduceCtorEq] at placed
    · rw [← Except.ok.inj placed, pathText_placeSegments]
      simp

theorem inMount_of_secretPath {channel : Channel} (web : channel.base.kind = .web)
    (settled : ∀ s ∈ channel.base.path, Settled s) {mount path endpoint : String}
    (keeps : keepsPlace mount = true) (stays : staysInside path = true)
    (placed : secretPath mount path = .ok endpoint) :
    InMount channel.base mount (channel.url endpoint []) := by
  obtain ⟨rest, filled, written⟩ := exists_path_join web settled (solid_placeSegments keeps) stays
  have version : escape pathSet "/v1/".toList = "/v1/".toList := by decide +kernel
  have data : escape pathSet "/data".toList = "/data".toList := by decide +kernel
  have segments : pathText ((placeSegments mount).map (escape pathSet)) =
      "/v1/".toList ++ escape pathSet (clean mount) ++ "/data".toList := by
    rw [pathText_map_escape, pathText_placeSegments, escape_append, escape_append, version, data]
  refine ⟨rfl, rfl, rest, filled, ?_⟩
  rw [Channel.url, endpoint_of_secretPath placed]
  refine written.trans ?_
  rw [← placeSegments, segments, place]
  simp

theorem Client.mem_calls_read {client : Client} {wire : Wire σ} {mount path : String}
    {retryUnsafe : Bool} {s : σ} {request : Http.Request}
    (member : request ∈ (client.read wire mount path retryUnsafe s).calls) :
    ∃ endpoint, secretPath mount path = .ok endpoint ∧
      request.url = client.channel.url endpoint [] := by
  unfold read at member
  split at member
  · contradiction
  · rename_i endpoint placed
    exact ⟨endpoint, placed, by rw [Channel.mem_calls_send member]; rfl⟩

theorem Client.mem_calls_write {client : Client} {wire : Wire σ} {mount path : String}
    {fields : Body} {retryUnsafe : Bool} {s : σ} {request : Http.Request}
    (member : request ∈ (client.write wire mount path fields retryUnsafe s).calls) :
    ∃ endpoint, secretPath mount path = .ok endpoint ∧
      request.url = client.channel.url endpoint [] := by
  unfold write at member
  cases placed : secretPath mount path with
  | error fault => simp [placed, bind, Except.bind] at member
  | ok endpoint =>
    refine ⟨endpoint, rfl, ?_⟩
    cases written : encodeBody (fields.map fun v => Json.object [("data", v)]) with
    | error fault => simp [placed, written, bind, Except.bind] at member
    | ok body =>
      simp only [placed, written, bind, Except.bind, pure, Except.pure] at member
      rw [Run.bind_eq_mapOutcome (f := fun _ => .ok ()) fun _ _ => rfl] at member
      rw [Channel.mem_calls_send member]
      rfl

/-- Whatever the store answers, a secret is read and written inside its mount, if the mount is read
as it is written and the path stays inside. -/
theorem Client.requests_in_mount {client : Client} {address token : String} {settings : Settings}
    (connected : connect address token settings = .ok client)
    (web : client.channel.base.kind = .web) {mount path : String} (keeps : keepsPlace mount = true)
    (stays : staysInside path = true) (wire : Wire σ) (retryUnsafe : Bool) (s : σ) :
    (∀ request ∈ (client.read wire mount path retryUnsafe s).calls,
      InMount client.channel.base mount request.url) ∧
    ∀ fields, ∀ request ∈ (client.write wire mount path fields retryUnsafe s).calls,
      InMount client.channel.base mount request.url := by
  obtain ⟨text, parsed⟩ := exists_of_readBase (madeOf connected).base
  have settled := settled_path_of_parse parsed web
  have inside {request : Http.Request} (asked : ∃ endpoint, secretPath mount path = .ok endpoint ∧
      request.url = client.channel.url endpoint []) :
      InMount client.channel.base mount request.url := by
    obtain ⟨endpoint, placed, url_eq⟩ := asked
    rw [url_eq]
    exact inMount_of_secretPath web settled keeps stays placed
  exact ⟨fun _ member => inside (mem_calls_read member),
    fun _ _ member => inside (mem_calls_write member)⟩

theorem Client.requests_in_mount_dotted :
    ∃ client : Client, connect "http://127.0.0.1:8200" "t" {} = .ok client ∧
      client.channel.base.kind = .web ∧ keepsPlace "team kv/two" = true ∧
      staysInside "apps/../web/./db" = true ∧
      ∀ request ∈ (client.read (Rehearsal.wire false []) "team kv/two" "apps/../web/./db" false
        { cues := [{ answer := .error "refused" }] }).calls,
        InMount client.channel.base "team kv/two" request.url := by
  obtain ⟨client, connected, read⟩ := exists_local_client
  have kinds : (readBase "http://127.0.0.1:8200").toOption.map Url.kind = some .web := by
    decide +kernel
  have web : client.channel.base.kind = .web := by
    rw [read] at kinds
    exact Option.some.inj kinds
  have keeps : keepsPlace "team kv/two" = true := by decide +kernel
  have stays : staysInside "apps/../web/./db" = true := by decide +kernel
  exact ⟨client, connected, web, keeps, stays,
    (requests_in_mount connected web keeps stays (Rehearsal.wire false []) false _).1⟩

def leaves (base : Url) (mount endpoint : String) (text : List Char) : Bool :=
  pathText (base.join endpoint.toList []).path = text && !(place base mount).isPrefixOf text

theorem exists_call_outside {client : Client} {wire : Wire σ} {s : σ}
    (unfired : wire.fired s = false) {mount path endpoint : String} {text : List Char}
    (placed : secretPath mount path = .ok endpoint)
    (outside : leaves client.channel.base mount endpoint text = true) (retryUnsafe : Bool) :
    ∃ request ∈ (client.read wire mount path retryUnsafe s).calls,
      pathText request.url.path = text ∧ ¬ InMount client.channel.base mount request.url := by
  simp only [leaves, Bool.and_eq_true, decide_eq_true_eq, Bool.not_eq_true'] at outside
  obtain ⟨written, apart⟩ := outside
  refine ⟨client.channel.request { path := endpoint, retryUnsafe }, ?_, written, ?_⟩
  · unfold Client.read
    rw [placed]
    exact client.channel.request_mem_calls wire _ unfired
  · intro inside
    obtain ⟨rest, _, below⟩ := inside.path
    have begins : (place client.channel.base mount).isPrefixOf text = true :=
      List.isPrefixOf_iff_prefix.mpr ⟨rest, below.symm.trans written⟩
    rw [begins] at apart
    contradiction

/-- Dot segments leave a mount for another part of the store, and a tab that is dropped leaves it
for another mount. -/
theorem Client.read_leaves_mount :
    let wire := Rehearsal.wire false []
    let stage : Rehearsal.Stage Rehearsal.Delivery := { cues := [{ answer := .error "refused" }] }
    ∃ client : Client, connect "http://127.0.0.1:8200" "t" {} = .ok client ∧
      (∃ request ∈ (client.read wire "secret" "../../sys/health" false stage).calls,
        pathText request.url.path = "/v1/sys/health".toList ∧
          ¬ InMount client.channel.base "secret" request.url) ∧
      (∃ request ∈ (client.read wire "sec\tret" "app" false stage).calls,
        pathText request.url.path = "/v1/secret/data/app".toList ∧
          ¬ InMount client.channel.base "sec\tret" request.url) := by
  intro wire stage
  have climbing : (readBase "http://127.0.0.1:8200").toOption.map
      (leaves · "secret" "/v1/secret/data/../../sys/health" "/v1/sys/health".toList) =
        some true := by decide +kernel
  have dropping : (readBase "http://127.0.0.1:8200").toOption.map
      (leaves · "sec\tret" "/v1/sec\tret/data/app" "/v1/secret/data/app".toList) =
        some true := by decide +kernel
  have above := secretPath_eq_ok (show (secretPath "secret" "../../sys/health").toOption =
    some "/v1/secret/data/../../sys/health" by decide +kernel)
  have beside := secretPath_eq_ok (show (secretPath "sec\tret" "app").toOption =
    some "/v1/sec\tret/data/app" by decide +kernel)
  have unfired : wire.fired stage = false := rfl
  obtain ⟨client, connected, read⟩ := exists_local_client
  rw [read] at climbing dropping
  exact ⟨client, connected,
    exists_call_outside unfired above (Option.some.inj climbing) false,
    exists_call_outside unfired beside (Option.some.inj dropping) false⟩

end ControlPlane.Vault
