import ControlPlane.Proofs.Attempts
import ControlPlane.Proofs.Clients
import ControlPlane.Proofs.Form
import ControlPlane.Proofs.Operations
import ControlPlane.Proofs.Stripping
import ControlPlane.Rehearsal
/-!
Tokens and the requests that they sign. A token without the blanks around it is the value of one
header, so it must not be empty and must hold no control character; a client is made of every other
token. From then on each request of each operation has that header and the type of its body, and no
others.
-/
namespace ControlPlane

variable {σ ρ ε α β : Type}

def Run.Each (P : ρ → Prop) (r : Run σ ρ ε α) : Prop := ∀ request ∈ r.calls, P request

namespace Run

variable {P : ρ → Prop}

theorem each_done (outcome : Except ε α) (s : σ) : (done outcome s : Run σ ρ ε α).Each P := by
  simp [Each]

theorem Each.mapOutcome {r : Run σ ρ ε α} (each : r.Each P) (f : Except ε α → Except ε β) :
    (r.mapOutcome f).Each P := each

theorem Each.bind {r : Run σ ρ ε α} (each : r.Each P) {next : α → σ → Run σ ρ ε β}
    (later : ∀ a s, (next a s).Each P) : (r.bind next).Each P := by
  intro request member
  rw [calls_eq, steps_bind, callsOf_append, List.mem_append] at member
  rcases member with first | second
  · exact each request first
  · cases ended : r.outcome with
    | ok a =>
      rw [ended] at second
      exact later a r.final request second
    | error e =>
      rw [ended] at second
      contradiction

end Run

namespace Channel

def Makes (channel : Channel) (request : Http.Request) : Prop :=
  ∃ call, request = channel.request call

variable (channel : Channel) (wire : Wire σ) (reader : Json.Reader α)

theorem send_each (call : Call) (s : σ) : (channel.send wire call s).Each channel.Makes :=
  fun _ member => ⟨call, mem_calls_send member⟩

theorem result_each (call : Call) (s : σ) :
    (channel.result wire reader call s).Each channel.Makes :=
  ((channel.send_each wire call s).mapOutcome _).mapOutcome _

theorem pagesFrom_each (call : Call) (page : UInt32) (query : List (String × String)) (s : σ) :
    (channel.pagesFrom wire reader call page query s).Each channel.Makes := by
  induction page, query, s using pagesFrom.induct call with
  | case1 page query s ih =>
    rw [pagesFrom]
    apply ((channel.send_each wire _ s).mapOutcome _).bind
    intro found t
    cases channel.pageItems reader found with
    | error fault => exact Run.each_done _ _
    | ok items =>
      dsimp only
      split
      · exact Run.each_done _ _
      · rename_i next more
        exact (ih found t next more).mapOutcome _

end Channel

namespace Cloudflare.Client

variable (client : Client) (wire : Wire σ) (reader : Json.Reader α)

theorem request_each (method endpoint : String) (query : List (String × String))
    (body : Option Body) (retryUnsafe : Bool) (s : σ) :
    (client.request wire reader method endpoint query body retryUnsafe s).Each
      client.channel.Makes := by
  unfold request
  split
  · exact Run.each_done _ _
  · exact client.channel.result_each wire reader _ s

theorem ownedRequest_each (owner : Owner) (method endpoint : String)
    (query : List (String × String)) (body : Option Body) (retryUnsafe : Bool) (s : σ) :
    (client.ownedRequest wire reader owner method endpoint query body retryUnsafe s).Each
      client.channel.Makes := by
  unfold ownedRequest
  split
  · exact Run.each_done _ _
  · dsimp only
    split
    · exact Run.each_done _ _
    · exact client.request_each wire reader method _ query body retryUnsafe s

theorem zoneId_each (name : String) (s : σ) :
    (client.zoneId wire name s).Each client.channel.Makes := by
  unfold zoneId
  dsimp only
  split
  · exact Run.each_done _ _
  · apply (client.channel.result_each wire _ _ s).bind
    intro zones t
    split
    · exact Run.each_done _ _
    · exact Run.each_done _ _

theorem createApplicationPolicy_each (owner : Owner) (application : String) (body : Body)
    (retryUnsafe : Bool) (s : σ) :
    (client.createApplicationPolicy wire reader owner application body retryUnsafe s).Each
      client.channel.Makes := by
  unfold createApplicationPolicy
  dsimp only
  split
  · exact Run.each_done _ _
  · exact client.ownedRequest_each wire reader owner "POST" _ [] (some body) retryUnsafe s

theorem perform_each (operation : Operation α) (s : σ) :
    (client.perform operation wire s).Each client.channel.Makes := by
  cases operation with
  | request reader method endpoint query body retryUnsafe =>
    exact client.request_each wire reader method endpoint query body retryUnsafe s
  | get reader endpoint query retryUnsafe => exact client.channel.result_each wire reader _ s
  | list reader endpoint query retryUnsafe =>
    exact client.channel.pagesFrom_each wire reader _ _ query s
  | zones => exact client.channel.pagesFrom_each wire zoneRecord.read _ _ [] s
  | zoneId name => exact client.zoneId_each wire name s
  | ownedRequest reader owner method endpoint query body retryUnsafe =>
    exact client.ownedRequest_each wire reader owner method endpoint query body retryUnsafe s
  | createIdentityProvider reader account body retryUnsafe =>
    exact client.ownedRequest_each wire reader (.account account) "POST"
      "/access/identity_providers" [] (some body) retryUnsafe s
  | createApplication reader owner body retryUnsafe =>
    exact client.ownedRequest_each wire reader owner "POST" "/access/apps" [] (some body)
      retryUnsafe s
  | createSharedPolicy reader account body retryUnsafe =>
    exact client.ownedRequest_each wire reader (.account account) "POST" "/access/policies" []
      (some body) retryUnsafe s
  | createApplicationPolicy reader owner application body retryUnsafe =>
    exact client.createApplicationPolicy_each wire reader owner application body retryUnsafe s

end Cloudflare.Client

namespace Vault.Client

variable (client : Client) (wire : Wire σ)

theorem read_each (mount path : String) (retryUnsafe : Bool) (s : σ) :
    (client.read wire mount path retryUnsafe s).Each client.channel.Makes := by
  unfold read
  split
  · exact Run.each_done _ _
  · exact (client.channel.result_each wire answerRecord.read _ s).mapOutcome _

theorem write_each (mount path : String) (fields : Body) (retryUnsafe : Bool) (s : σ) :
    (client.write wire mount path fields retryUnsafe s).Each client.channel.Makes := by
  unfold write
  dsimp only
  split
  · exact Run.each_done _ _
  · exact (client.channel.send_each wire _ s).bind fun _ _ => Run.each_done _ _

theorem perform_each (operation : Operation α) (s : σ) :
    (client.perform operation wire s).Each client.channel.Makes := by
  cases operation with
  | read mount path retryUnsafe => exact client.read_each wire mount path retryUnsafe s
  | write mount path fields retryUnsafe =>
    exact client.write_each wire mount path fields retryUnsafe s

end Vault.Client

namespace Http

open Text

/-- A control character that no header value may hold. The tab is not one of them. -/
def IsControl (c : Char) : Prop := (c.toNat < 0x20 ∧ c ≠ '\t') ∨ c.toNat = 0x7F

instance (c : Char) : Decidable (IsControl c) :=
  inferInstanceAs (Decidable ((c.toNat < 0x20 ∧ c ≠ '\t') ∨ c.toNat = 0x7F))

theorem isValueByte_iff (b : UInt8) :
    isValueByte b = true ↔ b = 9 ∨ (32 ≤ b.toNat ∧ b.toNat ≠ 127) := by
  simp [isValueByte]

theorem large_of_mem_utf8EncodeChar {c : Char} (large : 0x80 ≤ c.toNat) {b : UInt8}
    (member : b ∈ String.utf8EncodeChar c) : 0x80 ≤ b.toNat := by
  have byte {n : Nat} (least : 0x80 ≤ n) (most : n < 256) : 0x80 ≤ (UInt8.ofNat n).toNat := by
    rwa [toNat_ofNat_byte most]
  have val : c.val.toNat = c.toNat := rfl
  unfold String.utf8EncodeChar at member
  rw [val] at member
  dsimp only at member
  split at member
  · omega
  · split at member
    · simp only [List.mem_cons, List.not_mem_nil, or_false] at member
      rcases member with rfl | rfl <;> exact byte (by omega) (by omega)
    · split at member
      · simp only [List.mem_cons, List.not_mem_nil, or_false] at member
        rcases member with rfl | rfl | rfl <;> exact byte (by omega) (by omega)
      · simp only [List.mem_cons, List.not_mem_nil, or_false] at member
        rcases member with rfl | rfl | rfl | rfl <;> exact byte (by omega) (by omega)

theorem valueBytes_iff (c : Char) :
    (String.utf8EncodeChar c).all isValueByte = true ↔ ¬ IsControl c := by
  have tab : c ≠ '\t' ↔ c.toNat ≠ 9 := Char.toNat_inj.symm.not
  rcases Nat.lt_or_ge c.toNat 0x80 with ascii | large
  · have byte := toNat_ofNat_byte (n := c.toNat) (by omega)
    have nine : UInt8.ofNat c.toNat = 9 ↔ c.toNat = 9 := by
      rw [← UInt8.toNat_inj, byte]
      rfl
    rw [Url.utf8EncodeChar_of_ascii ascii, List.all_cons, List.all_nil, Bool.and_true,
      isValueByte_iff, nine, byte, IsControl, tab]
    omega
  · have plain : ¬ IsControl c := by
      unfold IsControl
      omega
    refine ⟨fun _ => plain, fun _ => List.all_eq_true.mpr fun b member => ?_⟩
    have above := large_of_mem_utf8EncodeChar large member
    exact (isValueByte_iff b).mpr (.inr (by omega))

theorem all_valueBytes_iff (s : List Char) :
    (utf8 s).all isValueByte = true ↔ ∀ c ∈ s, ¬ IsControl c := by
  induction s with
  | nil => simp
  | cons c s ih =>
    rw [utf8_cons, List.all_append, Bool.and_eq_true, valueBytes_iff, ih, List.forall_mem_cons]

theorem headerValue?_of_plain {s : String} (plain : ∀ c ∈ s.toList, ¬ IsControl c) :
    headerValue? s = some (utf8 s.toList) := by
  rw [headerValue?, Option.filter_some, (all_valueBytes_iff s.toList).mpr plain, if_pos rfl]

theorem headerValue?_eq_none {s : String} (broken : ¬ ∀ c ∈ s.toList, ¬ IsControl c) :
    headerValue? s = none := by
  rw [headerValue?, Option.filter_some, if_neg]
  rwa [all_valueBytes_iff]

theorem unbroken_utf8 {s : List Char} (plain : ∀ c ∈ s, ¬ IsControl c) :
    (10 : UInt8) ∉ utf8 s ∧ (13 : UInt8) ∉ utf8 s := by
  have each := List.all_eq_true.mp ((all_valueBytes_iff s).mpr plain)
  exact ⟨fun member => absurd (each _ member) (by decide),
    fun member => absurd (each _ member) (by decide)⟩

/-- The headers of the request are the sensitive one of that name and value, once, and the type of
the body; neither breaks a line. -/
structure Signed (name : String) (value : List UInt8) (request : Request) : Prop where
  headers : request.headers =
    [⟨name, value, true⟩, ⟨"content-type", utf8 "application/json".toList, false⟩]
  unbroken : ∀ header ∈ request.headers, (10 : UInt8) ∉ header.value ∧ (13 : UInt8) ∉ header.value

theorem not_isControl_of_mem_bearer {c : Char} (member : c ∈ "Bearer ".toList) :
    ¬ IsControl c := by
  have plain : (utf8 "Bearer ".toList).all isValueByte = true := by decide +kernel
  exact (all_valueBytes_iff _).mp plain c member

end Http

open Text Http

theorem Channel.Makes.signed {channel : Channel} {request : Http.Request}
    (makes : channel.Makes request) {name : String} {value : List UInt8}
    (authorized : channel.peer.authorization = [⟨name, value, true⟩])
    (other : name ≠ "content-type")
    (unbroken : (10 : UInt8) ∉ value ∧ (13 : UInt8) ∉ value) : Signed name value request := by
  obtain ⟨call, rfl⟩ := makes
  have headers : (channel.request call).headers =
      [⟨name, value, true⟩, ⟨"content-type", utf8 "application/json".toList, false⟩] := by
    rw [request, authorized]
    exact withHeader_contentType other
  refine ⟨headers, ?_⟩
  rw [headers]
  simp only [List.forall_mem_cons]
  exact ⟨unbroken, by decide +kernel, List.forall_mem_nil _⟩

theorem Channel.exists_of_map_make {C : Type} {peer : Peer} {address : String} {settings : Settings}
    {f : Channel → C} {client : C} (opened : (make peer address settings).map f = .ok client) :
    ∃ channel, f channel = client ∧ channel.peer = peer := by
  cases made : make peer address settings with
  | error fault =>
    rw [made] at opened
    contradiction
  | ok channel =>
    rw [made] at opened
    exact ⟨channel, Except.ok.inj opened, peer_of_make made⟩

structure Usable (text : List Char) : Prop where
  filled : text ≠ []
  plain : ∀ c ∈ text, ¬ IsControl c

/-- What is opened with a token: a client if the token is usable, and else nothing, for which the
configuration is blamed. -/
structure OpensWith {C : Type} (text : List Char) (opened : Except Fault C) : Prop where
  accepted : (∃ client, opened = .ok client) ↔ Usable text
  refused : (∃ reason, opened = .error (.config reason)) ↔ ¬ Usable text

theorem opensWith {C : Type} {text : List Char} {opened : Except Fault C}
    (made : Usable text → ∃ client, opened = .ok client)
    (failed : ¬ Usable text → ∃ reason, opened = .error (.config reason)) :
    OpensWith text opened where
  accepted := by
    refine ⟨fun ⟨client, ok⟩ => ?_, made⟩
    by_contra unusable
    obtain ⟨reason, error⟩ := failed unusable
    rw [ok] at error
    contradiction
  refused := by
    refine ⟨fun ⟨reason, error⟩ usable => ?_, failed⟩
    obtain ⟨client, ok⟩ := made usable
    rw [ok] at error
    contradiction

namespace Cloudflare

def bearer (text : List Char) : List UInt8 := utf8 ("Bearer ".toList ++ text)

theorem unbroken_bearer {text : List Char} (usable : Usable text) :
    (10 : UInt8) ∉ bearer text ∧ (13 : UInt8) ∉ bearer text :=
  unbroken_utf8 (List.forall_mem_append.mpr ⟨fun _ => not_isControl_of_mem_bearer, usable.plain⟩)

theorem peer_of_usable {token : String} (usable : Usable (trim token.toList)) :
    peer token =
      .ok ⟨peerName, [⟨"authorization", bearer (trim token.toList), true⟩], unwrap⟩ := by
  have text : ("Bearer " ++ trimmed token).toList = "Bearer ".toList ++ trim token.toList := by
    simp [trimmed]
  have plain : ∀ c ∈ ("Bearer " ++ trimmed token).toList, ¬ IsControl c := by
    rw [text]
    exact List.forall_mem_append.mpr ⟨fun _ => not_isControl_of_mem_bearer, usable.plain⟩
  simp only [peer, isEmpty_trimmed_iff, usable.filled, if_false, headerValue?_of_plain plain, text,
    bearer]

theorem peer_of_unusable {token : String} (unusable : ¬ Usable (trim token.toList)) :
    ∃ reason, peer token = .error (.config reason) := by
  simp only [peer, isEmpty_trimmed_iff]
  split
  · exact ⟨_, rfl⟩
  · rename_i filled
    have broken : ¬ ∀ c ∈ ("Bearer " ++ trimmed token).toList, ¬ IsControl c := by
      intro plain
      exact unusable ⟨filled, fun c member => plain c (by simp [trimmed, member])⟩
    rw [headerValue?_eq_none broken]
    exact ⟨_, rfl⟩

namespace Client

variable {address token : String} {base : Url} {settings : Settings}

theorem connect_of_usable (usable : Usable (trim token.toList)) :
    connect address token settings =
      (Channel.make ⟨peerName, [⟨"authorization", bearer (trim token.toList), true⟩], unwrap⟩ address
        settings).map Client.mk := by
  simp only [connect, peer_of_usable usable, bind, Except.bind, pure, Except.pure]
  cases Channel.make ⟨peerName, [⟨"authorization", bearer (trim token.toList), true⟩], unwrap⟩ address
    settings <;> rfl

theorem connect_opensWith (placed : readBase address = .ok base) :
    OpensWith (trim token.toList) (connect address token settings) := by
  apply opensWith
  · intro usable
    rw [connect_of_usable usable, Channel.make, placed]
    exact ⟨_, rfl⟩
  · intro unusable
    obtain ⟨reason, refused⟩ := peer_of_unusable unusable
    exact ⟨reason, by simp [connect, refused, bind, Except.bind]⟩

/-- Every request of the client is signed: those of its operations, and those of any other call over
its channel. -/
structure SignsWith (client : Client) (value : List UInt8) : Prop where
  operations : ∀ {σ α : Type} (wire : Wire σ) (operation : Operation α) (s : σ),
    ∀ request ∈ (client.perform operation wire s).calls, Signed "authorization" value request
  calls : ∀ {σ : Type} (wire : Wire σ) (call : Call) (s : σ),
    ∀ request ∈ (client.channel.send wire call s).calls, Signed "authorization" value request

theorem signsWith {client : Client} (usable : Usable (trim token.toList))
    (connected : connect address token settings = .ok client) :
    client.SignsWith (bearer (trim token.toList)) := by
  rw [connect_of_usable usable] at connected
  obtain ⟨channel, rfl, authorized⟩ := Channel.exists_of_map_make connected
  have signed {request : Http.Request} (makes : channel.Makes request) :=
    makes.signed (congrArg Peer.authorization authorized) (by decide) (unbroken_bearer usable)
  constructor
  · intro σ α wire operation s request member
    exact signed (perform_each ⟨channel⟩ wire operation s request member)
  · intro σ wire call s request member
    exact signed (channel.send_each wire call s request member)

end Client

end Cloudflare

namespace Vault.Client

variable {address token : String} {base : Url} {settings : Settings}

theorem connect_of_usable (named : blank address = false) (usable : Usable (trim token.toList)) :
    connect address token settings =
      (Channel.make (peer (utf8 (trim token.toList))) address settings).map Client.mk := by
  have text : (trimmed token).toList = trim token.toList := by simp [trimmed]
  have plain : ∀ c ∈ (trimmed token).toList, ¬ IsControl c := by
    rw [text]
    exact usable.plain
  simp only [connect, named, isEmpty_trimmed_iff, usable.filled, headerValue?_of_plain plain, text,
    Bool.false_eq_true, if_false]

theorem named_of_readBase (placed : readBase address = .ok base) : blank address = false := by
  cases named : blank address with
  | false => rfl
  | true =>
    have empty : trim address.toList = [] :=
      stripWhile_eq_nil_iff.mpr (List.all_eq_true.mp named)
    simp [readBase, empty, dropEndWhile] at placed

theorem connect_opensWith (placed : readBase address = .ok base) :
    OpensWith (trim token.toList) (connect address token settings) := by
  have named := named_of_readBase placed
  apply opensWith
  · intro usable
    rw [connect_of_usable named usable, Channel.make, placed]
    exact ⟨_, rfl⟩
  · intro unusable
    simp only [connect, named, isEmpty_trimmed_iff, Bool.false_eq_true, if_false]
    split
    · exact ⟨_, rfl⟩
    · rename_i filled
      have broken : ¬ ∀ c ∈ (trimmed token).toList, ¬ IsControl c := by
        intro plain
        exact unusable ⟨filled, fun c member => plain c (by simpa [trimmed] using member)⟩
      rw [headerValue?_eq_none broken]
      exact ⟨_, rfl⟩

structure SignsWith (client : Client) (value : List UInt8) : Prop where
  operations : ∀ {σ α : Type} (wire : Wire σ) (operation : Operation α) (s : σ),
    ∀ request ∈ (client.perform operation wire s).calls, Signed "x-vault-token" value request
  calls : ∀ {σ : Type} (wire : Wire σ) (call : Call) (s : σ),
    ∀ request ∈ (client.channel.send wire call s).calls, Signed "x-vault-token" value request

theorem signsWith {client : Client} (placed : readBase address = .ok base)
    (usable : Usable (trim token.toList))
    (connected : connect address token settings = .ok client) :
    client.SignsWith (utf8 (trim token.toList)) := by
  rw [connect_of_usable (named_of_readBase placed) usable] at connected
  obtain ⟨channel, rfl, authorized⟩ := Channel.exists_of_map_make connected
  have signed {request : Http.Request} (makes : channel.Makes request) :=
    makes.signed (congrArg Peer.authorization authorized) (by decide) (unbroken_utf8 usable.plain)
  constructor
  · intro σ α wire operation s request member
    exact signed (perform_each ⟨channel⟩ wire operation s request member)
  · intro σ wire call s request member
    exact signed (channel.send_each wire call s request member)

end Vault.Client

/-- A client at an address that can be read is made of every token that, without the blanks around
it, is not empty and has no control character, and of no other token. Then every request that it
makes, in every attempt of every operation, has two headers: the token's, once and sensitive, and
the type of the body. So nothing in a token ends the header, and neither client has the header of
the other. -/
theorem tokens_sign_requests {address : String} {base : Url} (placed : readBase address = .ok base)
    (settings : Settings) {token : String} {text : List Char}
    (strips : Strips isBlank token.toList text) :
    (OpensWith text (Cloudflare.Client.connect address token settings) ∧
      ∀ client, Cloudflare.Client.connect address token settings = .ok client →
        client.SignsWith (utf8 ("Bearer ".toList ++ text))) ∧
    (OpensWith text (Vault.Client.connect address token settings) ∧
      ∀ client, Vault.Client.connect address token settings = .ok client →
        client.SignsWith (utf8 text)) := by
  have stripped : trim token.toList = text := stripWhile_eq_iff.mpr strips
  rw [← stripped]
  have cloudflare : OpensWith (trim token.toList)
      (Cloudflare.Client.connect address token settings) :=
    Cloudflare.Client.connect_opensWith placed
  have vault : OpensWith (trim token.toList) (Vault.Client.connect address token settings) :=
    Vault.Client.connect_opensWith placed
  refine ⟨⟨cloudflare, fun client connected => ?_⟩, ⟨vault, fun client connected => ?_⟩⟩
  · exact Cloudflare.Client.signsWith (cloudflare.accepted.mp ⟨client, connected⟩) connected
  · exact Vault.Client.signsWith placed (vault.accepted.mp ⟨client, connected⟩) connected

theorem tokens_sign_requests_spaced :
    let token := " é\tt\n"
    let wire := Rehearsal.wire false []
    let stage : Rehearsal.Stage Rehearsal.Delivery := { cues := [{ answer := .error "refused" }] }
    ∃ (base : Url) (first : Cloudflare.Client) (second : Vault.Client),
      readBase "http://127.0.0.1:8200" = .ok base ∧
      Strips isBlank token.toList "é\tt".toList ∧
      Cloudflare.Client.connect "http://127.0.0.1:8200" token {} = .ok first ∧
      Vault.Client.connect "http://127.0.0.1:8200" token {} = .ok second ∧
      (∀ request ∈ (first.zoneId wire "example.org" stage).calls,
        Signed "authorization" (utf8 "Bearer é\tt".toList) request) ∧
      ∃ request ∈ (second.channel.send wire { path := "/v1/secret/data/app" } stage).calls,
        Signed "x-vault-token" (utf8 "é\tt".toList) request := by
  intro token wire stage
  obtain ⟨base, placed⟩ := exists_local_base
  have strips : Strips isBlank token.toList "é\tt".toList :=
    stripWhile_eq_iff.mp (by decide +kernel)
  have usable : Usable "é\tt".toList := ⟨by decide +kernel, by simp [Http.IsControl]⟩
  obtain ⟨⟨opens, signs⟩, ⟨opens', signs'⟩⟩ := tokens_sign_requests placed {} strips
  obtain ⟨first, opened⟩ := opens.accepted.mpr usable
  obtain ⟨second, connected⟩ := opens'.accepted.mpr usable
  refine ⟨base, first, second, placed, strips, opened, connected, ?_, ?_⟩
  · exact (signs first opened).operations wire (.zoneId "example.org") stage
  · have member := second.channel.request_mem_calls wire { path := "/v1/secret/data/app" }
      (s := stage) rfl
    exact ⟨_, member, (signs' second connected).calls wire _ stage _ member⟩

end ControlPlane
