import ControlPlane.Proofs.Decimals
import ControlPlane.Proofs.Mount
import ControlPlane.Proofs.Printing
import ControlPlane.Proofs.Secrets
import Mathlib.Logic.Function.Basic
/-!
A secret that was written is read back. A name may be spelled with slashes and blanks around it:
both operations send to one address. What the write sends is a text of an object with the fields of
the secret as its one member; a store that keeps them and wraps them in its answer, in whatever text
and among whatever other members, gives them back to the read.
-/
namespace ControlPlane

namespace Vault
open Json

/-- A name that begins and ends with neither a blank nor a slash. -/
structure Bare (name : List Char) : Prop where
  filled : name ≠ []
  first : ∀ c, name.head? = some c → Text.isBlank c = false ∧ c ≠ '/'
  last : ∀ c, name.getLast? = some c → Text.isBlank c = false ∧ c ≠ '/'

/-- A spelling of a name: slashes around it, and blanks around those. -/
inductive Spells (name : List Char) : String → Prop where
  | mk {before left right after : List Char} {s : String} (blanks : ∀ c ∈ before ++ after,
      Text.isBlank c = true) (slashes : ∀ c ∈ left ++ right, c = '/')
      (text : s.toList = before ++ (left ++ (name ++ right) ++ after)) : Spells name s

theorem head?_between {left name right : List Char} (filled : name ≠ []) {c : Char}
    (first : (left ++ (name ++ right)).head? = some c) : c ∈ left ∨ name.head? = some c := by
  cases left with
  | cons d left =>
    rw [← Option.some.inj first]
    exact .inl List.mem_cons_self
  | nil =>
    cases name with
    | nil => exact absurd rfl filled
    | cons d name => exact .inr first

theorem clean_of_spells {name : List Char} (bare : Bare name) {s : String}
    (spells : Spells name s) : clean s = name := by
  cases spells with
  | @mk before left right after _ blanks slashes text =>
    have slash : ∀ c ∈ left ++ right, Text.isBlank c = false := by
      intro c member
      rw [slashes c member]
      rfl
    have trimmed : Text.trim s.toList = left ++ (name ++ right) := by
      rw [text]
      refine Text.stripWhile_of_ends (by simp [bare.filled])
        (fun c member => blanks c (List.mem_append_left _ member))
        (fun c member => blanks c (List.mem_append_right _ member)) ?_ ?_
      · intro c first
        rcases head?_between bare.filled first with early | own
        · exact slash c (List.mem_append_left _ early)
        · exact (bare.first c own).1
      · intro c last
        rw [List.getLast?_eq_head?_reverse, List.reverse_append, List.reverse_append,
          List.append_assoc] at last
        rcases head?_between (by simp [bare.filled]) last with late | own
        · exact slash c (List.mem_append_right _ (List.mem_reverse.mp late))
        · exact (bare.last c (by rwa [List.getLast?_eq_head?_reverse])).1
    rw [clean, trimmed]
    refine Text.stripWhile_of_ends bare.filled ?_ ?_ ?_ ?_
    · intro c member
      simp [slashes c (List.mem_append_left _ member)]
    · intro c member
      simp [slashes c (List.mem_append_right _ member)]
    · intro c first
      simp [(bare.first c first).2]
    · intro c last
      simp [(bare.last c last).2]

theorem secretPath_of_spells {mount path : List Char} (bareMount : Bare mount)
    (barePath : Bare path) {m p : String} (spellsMount : Spells mount m)
    (spellsPath : Spells path p) :
    secretPath m p = .ok (String.ofList ("/v1/".toList ++ mount ++ "/data/".toList ++ path)) := by
  rw [secretPath, clean_of_spells bareMount spellsMount, clean_of_spells barePath spellsPath]
  simp [bareMount.filled, barePath.filled]

/-- A value that can be kept: its members in order, its numbers integers of 64 bits, and two more
containers around it within what is read. -/
structure Storable (v : Json) : Prop where
  ordered : Throughout InOrder v
  inRange : Throughout InRange v
  shallow : (Outline.ofJson v).depth + 2 ≤ textRoom

variable {σ : Type}

structure Replies (wire : Wire σ) (request : Http.Request) (s : σ) (response : Http.Response)
    (t : σ) : Prop where
  unfired : wire.fired s = false
  answered : (wire.transport s request).await wire.fired = (some (.ok response), t)
  success : response.isSuccess = true

theorem send_of_replies {channel : Channel} {wire : Wire σ} {call : Call} {s t : σ}
    {response : Http.Response} (replies : Replies wire (channel.request call) s response t) :
    channel.send wire call s = ⟨[⟨s, .call (channel.request call)⟩], .ok response, t⟩ := by
  have called : wire.call .cancelled wire.transport (channel.request call) s =
      (⟨[⟨s, .call (channel.request call)⟩], .ok (.ok response), t⟩ :
        Exchange σ (Except String Http.Response)) := by
    simp only [Environment.call, replies.unfired, replies.answered, Bool.false_eq_true, if_false]
  rw [Channel.send, Channel.attempts, called]
  simp only [Run.bind, Channel.judge, replies.success, if_true, Run.after, Run.done,
    List.append_nil]

/-- A wire to a store. It keeps, for each address, the member `data` of the last body that was sent
there, and answers with it in an inner part of an object, among other members. -/
structure Keeps (wire : Wire σ) (kept : σ → Url → Option Json) : Prop where
  write : ∀ s request v text, request.method = "POST" → request.body = some (Text.utf8 text) →
    Renders (.object [("data", v)]) text → Storable v →
    ∃ response t, Replies wire request s response t ∧ kept t request.url = some v
  read : ∀ s request v, request.method = "GET" → kept s request.url = some v → Storable v →
    ∃ response t outer inner text, Replies wire request s response t ∧
      response.body = Text.utf8 text ∧ Renders (.object outer) text ∧
      (Outline.ofJson (.object outer)).depth ≤ textRoom ∧
      ("data", .object inner) ∈ outer ∧ ("data", v) ∈ inner

def wrapped (v : Json) : List (String × Json) :=
  [("data", .object [("data", v), ("metadata", .object [("version", .number (.integer 1))])]),
    ("lease", .null)]

def storeWire : Wire (Url → Option Json) where
  fired _ := false
  now _ := 0
  wait kept _ := (true, kept)
  draw kept := (.finite false 0, kept)
  transport kept request :=
    if request.method = "POST" then
      match readText .any (request.body.getD []) with
      | .ok (.object [(_, v)]) => .returned (.ok {}) (Function.update kept request.url (some v))
      | _ => .returned (.ok { status := 400 }) kept
    else
      match kept request.url with
      | some v => .returned (.ok { body := (Json.object (wrapped v)).bytes }) kept
      | none => .returned (.ok { status := 404 }) kept

theorem renders_wrapped {v : Json} (storable : Storable v) :
    Renders (.object (wrapped v)) (Json.object (wrapped v)).text := by
  refine renders_text ?_ ?_
  · simp [wrapped, Throughout, ThroughoutMembers, InOrder, storable.ordered, -String.lt_iff_ltb]
  · simp [wrapped, Throughout, ThroughoutMembers, InRange, storable.inRange]

theorem keeps_storeWire : Keeps storeWire fun kept => kept where
  write kept request v text method body renders storable := by
    have fits : (Outline.ofJson (.object [("data", v)])).depth ≤ textRoom := by
      have := storable.shallow
      simp only [Outline.ofJson, Outline.ofMemberList, Outline.depth, Outline.depthMembers]
      omega
    have read := readText_of_renders renders fits
    refine ⟨{}, Function.update kept request.url (some v), ⟨rfl, ?_, rfl⟩,
      Function.update_self _ _ _⟩
    simp only [storeWire, method, body, if_true, Option.getD_some, read]
    rfl
  read kept request v method held storable := by
    have fits : (Outline.ofJson (.object (wrapped v))).depth ≤ textRoom := by
      have shallow := storable.shallow
      simp only [textRoom] at shallow ⊢
      simp only [wrapped, Outline.ofJson, Outline.ofMemberList, Outline.depth,
        Outline.depthMembers]
      omega
    have answered : (storeWire.transport kept request).await storeWire.fired =
        (some (.ok { body := (Json.object (wrapped v)).bytes }), kept) := by
      simp only [storeWire, method, held, String.reduceEq, if_false]
      rfl
    exact ⟨_, kept, wrapped v, _, _, ⟨rfl, answered, rfl⟩, rfl, renders_wrapped storable, fits,
      List.mem_cons_self, List.mem_cons_self⟩

theorem renders_fields {v : Json} (storable : Storable v) :
    Renders (.object [("data", v)]) (Json.object [("data", v)]).text := by
  refine renders_text ⟨?_, storable.ordered, trivial⟩ ⟨trivial, storable.inRange, trivial⟩
  exact List.pairwise_singleton _ _

namespace Client

theorem mem_calls_write_of_secretPath {client : Client} {mount path endpoint : String}
    (placed : secretPath mount path = .ok endpoint) {wire : Wire σ} {v : Json} {retryUnsafe : Bool}
    {s : σ} {request : Http.Request}
    (member : request ∈ (client.write wire mount path (.ok v) retryUnsafe s).calls) :
    request.method = "POST" ∧ request.url = client.channel.url endpoint [] ∧
      request.body = some (Text.utf8 (Json.object [("data", v)]).text) := by
  rw [write_eq client wire placed] at member
  rw [Channel.mem_calls_send member]
  exact ⟨rfl, rfl, rfl⟩

theorem mem_calls_read_of_secretPath {client : Client} {mount path endpoint : String}
    (placed : secretPath mount path = .ok endpoint) {wire : Wire σ} {retryUnsafe : Bool}
    {s : σ} {request : Http.Request}
    (member : request ∈ (client.read wire mount path retryUnsafe s).calls) :
    request.method = "GET" ∧ request.url = client.channel.url endpoint [] ∧
      request.body = none := by
  rw [read, placed] at member
  rw [Channel.mem_calls_send member]
  exact ⟨rfl, rfl, rfl⟩

theorem write_kept {client : Client} {mount path endpoint : String}
    (placed : secretPath mount path = .ok endpoint) {wire : Wire σ}
    {kept : σ → Url → Option Json} (keeps : Keeps wire kept) {v : Json} (storable : Storable v)
    (retryUnsafe : Bool) (s : σ) :
    (client.write wire mount path (.ok v) retryUnsafe s).outcome = .ok () ∧
      (client.write wire mount path (.ok v) retryUnsafe s).calls.length = 1 ∧
      kept (client.write wire mount path (.ok v) retryUnsafe s).final
        (client.channel.url endpoint []) = some v := by
  obtain ⟨response, t, replies, held⟩ := keeps.write s
    (client.channel.request
      { method := "POST", path := endpoint, body := some (Json.object [("data", v)]).bytes,
        retryUnsafe })
    v _ rfl rfl (renders_fields storable) storable
  rw [write_eq client wire placed, send_of_replies replies]
  exact ⟨rfl, rfl, held⟩

theorem read_kept {client : Client} {token : List UInt8}
    (authenticated : client.channel.peer = peer token) {mount path endpoint : String}
    (placed : secretPath mount path = .ok endpoint) {wire : Wire σ}
    {kept : σ → Url → Option Json} (keeps : Keeps wire kept) {fields : Secret}
    (storable : Storable (.object fields)) (retryUnsafe : Bool) {s : σ}
    (held : kept s (client.channel.url endpoint []) = some (.object fields)) :
    (client.read wire mount path retryUnsafe s).outcome = .ok fields ∧
      (client.read wire mount path retryUnsafe s).calls.length = 1 := by
  obtain ⟨response, t, outer, inner, text, replies, body, renders, fits, outerMember,
    innerMember⟩ := keeps.read s (client.channel.request { path := endpoint, retryUnsafe })
      (.object fields) rfl held storable
  have sent := send_of_replies replies
  have answered : client.Answered wire mount path retryUnsafe s (Text.utf8 text) :=
    ⟨endpoint, response, placed, by rw [sent], body⟩
  constructor
  · rw [read_of_answered authenticated answered (readText_of_renders renders fits),
      answer_of_holds renders.ordered ⟨_, .member outerMember, .member innerMember⟩]
    rfl
  · rw [read, placed]
    dsimp only
    rw [Channel.result, Channel.content, sent]
    rfl

/-- What was written under one spelling of a mount and a path is read under every other. The write
sends one object, with the fields of the secret as its one member, to the address that the read
asks; a store that keeps them gives them back from then on. -/
theorem read_written {client : Client} {address token : String} {settings : Settings}
    (connected : connect address token settings = .ok client) {mount path : List Char}
    (bareMount : Bare mount) (barePath : Bare path) {m p m' p' : String}
    (mountSpelled : Spells mount m) (pathSpelled : Spells path p)
    (mountSpelled' : Spells mount m') (pathSpelled' : Spells path p')
    {fields : Secret} (storable : Storable (.object fields)) (wire : Wire σ) :
    let url := client.channel.base.join ("/v1/".toList ++ mount ++ "/data/".toList ++ path) []
    readBase address = .ok client.channel.base ∧
    ∃ text, Renders (.object [("data", .object fields)]) text ∧
      (∀ retryUnsafe s,
        ∀ request ∈ (client.write wire m p (.ok (.object fields)) retryUnsafe s).calls,
          request.method = "POST" ∧ request.url = url ∧ request.body = some (Text.utf8 text)) ∧
      (∀ retryUnsafe s, ∀ request ∈ (client.read wire m' p' retryUnsafe s).calls,
        request.method = "GET" ∧ request.url = url ∧ request.body = none) ∧
      ∀ kept, Keeps wire kept →
        (∀ retryUnsafe s,
          (client.write wire m p (.ok (.object fields)) retryUnsafe s).outcome = .ok () ∧
          (client.write wire m p (.ok (.object fields)) retryUnsafe s).calls.length = 1 ∧
          kept (client.write wire m p (.ok (.object fields)) retryUnsafe s).final url =
            some (.object fields)) ∧
        ∀ retryUnsafe s, kept s url = some (.object fields) →
          (client.read wire m' p' retryUnsafe s).outcome = .ok fields ∧
          (client.read wire m' p' retryUnsafe s).calls.length = 1 := by
  obtain ⟨value, opened⟩ := exists_make connected
  have authenticated := Channel.peer_of_make opened
  have placed := secretPath_of_spells bareMount barePath mountSpelled pathSpelled
  have placed' := secretPath_of_spells bareMount barePath mountSpelled' pathSpelled'
  intro url
  have here : client.channel.url
      (String.ofList ("/v1/".toList ++ mount ++ "/data/".toList ++ path)) [] = url := by
    rw [Channel.url, String.toList_ofList]
    rfl
  refine ⟨(madeOf connected).base, _, renders_fields storable, ?_, ?_, ?_⟩
  · intro retryUnsafe s request member
    rw [← here]
    exact mem_calls_write_of_secretPath placed member
  · intro retryUnsafe s request member
    rw [← here]
    exact mem_calls_read_of_secretPath placed' member
  · intro kept keeps
    rw [← here]
    exact ⟨fun retryUnsafe s => write_kept placed keeps storable retryUnsafe s,
      fun retryUnsafe _ held => read_kept authenticated placed' keeps storable retryUnsafe held⟩

theorem read_written_spelled :
    let fields : Secret := [("a", .object []), ("b", .string "\""), ("c", .array [.null])]
    ∃ client : Client, connect "http://127.0.0.1:8200" "t" {} = .ok client ∧
      ((client.write storeWire " /secret" "app/db//" (.ok (.object fields)) false
        fun _ => none).bind fun _ s =>
          client.read storeWire "secret" "\tapp/db " false s).outcome = .ok fields := by
  intro fields
  have secret : Bare "secret".toList :=
    ⟨by decide, by rintro c ⟨⟩; decide, by rintro c ⟨⟩; decide⟩
  have app : Bare "app/db".toList :=
    ⟨by decide, by rintro c ⟨⟩; decide, by rintro c ⟨⟩; decide⟩
  have storable : Storable (.object fields) := by
    refine ⟨?_, ?_, by decide⟩
    · simp [fields, Throughout, ThroughoutMembers, ThroughoutItems, InOrder, -String.lt_iff_ltb]
    · simp [fields, Throughout, ThroughoutMembers, ThroughoutItems, InRange]
  have spelled {name : String} {s : String} (before left right after : List Char)
      (blanks : (before ++ after).all Text.isBlank = true)
      (slashes : (left ++ right).all (· = '/') = true)
      (text : s.toList = before ++ (left ++ (name.toList ++ right) ++ after)) :
      Spells name.toList s :=
    .mk (List.all_eq_true.mp blanks)
      (fun c member => of_decide_eq_true (List.all_eq_true.mp slashes c member)) text
  have mountWritten : Spells "secret".toList " /secret" :=
    spelled [' '] ['/'] [] [] rfl rfl rfl
  have pathWritten : Spells "app/db".toList "app/db//" :=
    spelled [] [] ['/', '/'] [] rfl rfl rfl
  have mountRead : Spells "secret".toList "secret" := spelled [] [] [] [] rfl rfl rfl
  have pathRead : Spells "app/db".toList "\tapp/db " := spelled ['\t'] [] [] [' '] rfl rfl rfl
  obtain ⟨client, connected, _⟩ := exists_local_client
  obtain ⟨-, text, -, -, -, keeps⟩ := read_written connected secret app mountWritten pathWritten
    mountRead pathRead storable storeWire
  obtain ⟨written, read⟩ := keeps _ keeps_storeWire
  obtain ⟨ended, -, held⟩ := written false fun _ => none
  refine ⟨client, connected, ?_⟩
  rw [Run.bind_of_ok ended, Run.outcome_after]
  exact (read false _ held).1

end Client

end Vault

end ControlPlane
