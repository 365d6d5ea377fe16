import ControlPlane.Proofs.Budget
import ControlPlane.Proofs.Envelopes
import ControlPlane.Proofs.Segments
import ControlPlane.Rehearsal
/-!
Looking up a zone by its name. The answer is a list of zones, and the id of the first one is taken
whatever its name is. So the look-up finds the zone that was asked for exactly if a zone of the name
has the id of the first zone of the list.
-/
namespace ControlPlane.Cloudflare
open Json

variable {σ : Type}

/-- The look-up of a name is answered with a list of zones, which is empty where the answer has no
result. -/
def Client.Lists (client : Client) (wire : Wire σ) (name : String) (s : σ) (zones : List Zone) :
    Prop :=
  ∃ response content,
    (client.channel.send wire
      { path := "/zones", query := [("name", Text.trimmed name)] } s).outcome = .ok response ∧
    unwrap response.body = .ok content ∧
    match content.result with
    | none => zones = []
    | some v => Json.readValue (.list zoneRecord.read) v = .ok zones

/-- A look-up ends as the name asks: with the id of a listed zone of the name, and with no zone
found where none of the name is listed. -/
structure Faithful (name : String) (zones : List Zone) (outcome : Except Fault String) : Prop where
  found : ∀ id, outcome = .ok id → ∃ zone ∈ zones, zone.id = id ∧ zone.name = Text.trimmed name
  missing : (∀ zone ∈ zones, zone.name ≠ Text.trimmed name) →
    outcome = .error (.notFound "cloudflare zone" (Text.trimmed name))

theorem isEmpty_trimmed {name : String} (named : Text.blank name = false) :
    (Text.trimmed name).isEmpty = false := by
  have some_ := Text.trim_ne_nil named
  simpa [Text.trimmed] using some_

namespace Client

theorem zoneId_of_lists {client : Client}
    (unwraps : client.channel.peer.unwrap = Cloudflare.unwrap) {wire : Wire σ} {name : String}
    (named : Text.blank name = false) {s : σ} {zones : List Zone}
    (listed : client.Lists wire name s zones) :
    (client.zoneId wire name s).outcome = firstZone (Text.trimmed name) (some zones) := by
  obtain ⟨response, content, sent, unwrapped, result⟩ := listed
  rw [zoneId_eq, isEmpty_trimmed named, if_neg Bool.false_ne_true, Run.outcome_mapOutcome,
    Channel.result, Run.outcome_mapOutcome, Channel.content, Run.outcome_mapOutcome, sent]
  simp only [Except.bind, unwraps, unwrapped]
  cases held : content.result with
  | none =>
    rw [held] at result
    rw [show zones = [] from result]
    rfl
  | some v =>
    rw [held] at result
    have decoded : client.channel.decode (.list zoneRecord.read) v = .ok zones := by
      rw [Channel.decode, show Json.readValue (.list zoneRecord.read) v = .ok zones from result]
      rfl
    simp only [Option.mapM_some, decoded]
    rfl

/-- The look-up takes the zone that is listed first. It is faithful to the name exactly if a zone of
the name has the id of that zone. -/
theorem zoneId_faithful_iff {client : Client} {address token : String} {settings : Settings}
    (connected : connect address token settings = .ok client) {wire : Wire σ} {name : String}
    (named : Text.blank name = false) {s : σ} {zones : List Zone}
    (listed : client.Lists wire name s zones) :
    ((client.zoneId wire name s).outcome =
      match zones with
      | [] => .error (.notFound "cloudflare zone" (Text.trimmed name))
      | first :: _ => .ok first.id) ∧
    (Faithful name zones (client.zoneId wire name s).outcome ↔
      ∀ first, zones.head? = some first →
        ∃ zone ∈ zones, zone.id = first.id ∧ zone.name = Text.trimmed name) := by
  rw [zoneId_of_lists (madeOf connected).unwraps named listed]
  cases zones with
  | nil =>
    have none_ : firstZone (Text.trimmed name) (some []) =
        .error (.notFound "cloudflare zone" (Text.trimmed name)) := rfl
    rw [none_]
    exact ⟨rfl, fun _ => nofun, fun _ => ⟨nofun, fun _ => rfl⟩⟩
  | cons first rest =>
    have taken : firstZone (Text.trimmed name) (some (first :: rest)) = .ok first.id := rfl
    rw [taken]
    refine ⟨rfl, ?_, ?_⟩
    · rintro faithful _ ⟨⟩
      exact faithful.found first.id rfl
    · intro same
      obtain ⟨zone, member, id, title⟩ := same first rfl
      refine ⟨?_, fun other => absurd title (other zone member)⟩
      rintro _ ⟨⟩
      exact ⟨zone, member, id, title⟩

def twoZones (first second : String) : Json :=
  .array
    [.object [("id", .string "zone-1"), ("name", .string first)],
      .object [("id", .string "zone-2"), ("name", .string second)]]

def listing (first second : String) : Json :=
  .object [("success", .bool true), ("result", twoZones first second)]

theorem unwrap_listing (first second : String) :
    unwrap (listing first second).bytes = .ok { result := some (twoZones first second) } := by
  have formed : Envelope.Formed { success := true, result := some (twoZones first second) } := by
    refine ⟨List.forall_mem_nil _, ?_⟩
    rintro _ ⟨⟩
    have depth : (Outline.ofJson (twoZones first second)).depth = 2 := rfl
    refine ⟨Json.noConfusion, ?_, by rw [depth]; decide⟩
    simp [twoZones, Throughout, ThroughoutMembers, ThroughoutItems, InOrder, -String.lt_iff_ltb]
  have shown : Presents envelopeFacets { success := true, result := some (twoZones first second) }
      (Outline.ofJson (listing first second)) := by
    refine .object (texts_ofMemberList _) ?_
    simp only [envelopeFacets, List.forall_mem_cons]
    exact ⟨.shown rfl rfl, .omitted rfl rfl, .shown rfl (means_ofJson _), .omitted rfl rfl,
      List.forall_mem_nil _⟩
  have written := text_written (listing first second) (by
    simp [listing, twoZones, Throughout, ThroughoutMembers, ThroughoutItems, InRange])
  rw [unwrap, bytes, readText_of_padded _ written.padded,
    envelope_read formed (sound_of_writes written) shown]
  rfl

theorem lists_listing (client : Client) (name first second : String) :
    client.Lists (Rehearsal.wire false []) name
      { cues := [{ answer := .ok { body := (listing first second).bytes } }] }
      [⟨"zone-1", first⟩, ⟨"zone-2", second⟩] := by
  refine ⟨{ body := (listing first second).bytes }, _, ?_, unwrap_listing first second, rfl⟩
  rw [Channel.send, Channel.attempts]
  rfl

theorem zoneId_faithful_first :
    ∃ client : Client, connect "http://127.0.0.1:8200" "t" {} = .ok client ∧
      Faithful " acme.com" [⟨"zone-1", "acme.com"⟩, ⟨"zone-2", "acme.com.example"⟩]
        (client.zoneId (Rehearsal.wire false []) " acme.com"
          { cues := [{ answer := .ok { body := (listing "acme.com" "acme.com.example").bytes } }] }
          ).outcome := by
  obtain ⟨client, connected, _⟩ := exists_local_client
  have named : Text.blank " acme.com" = false := by decide +kernel
  have listed := lists_listing client " acme.com" "acme.com" "acme.com.example"
  refine ⟨client, connected, (zoneId_faithful_iff connected named listed).2.mpr ?_⟩
  rintro _ ⟨⟩
  exact ⟨_, List.mem_cons_self, rfl, by decide +kernel⟩

/-- No listed zone has the name, and the id of another one is given for it. -/
theorem zoneId_takes_other :
    ∃ client : Client, connect "http://127.0.0.1:8200" "t" {} = .ok client ∧
      Text.blank "acme.com" = false ∧
      let stage : Rehearsal.Stage Rehearsal.Delivery :=
        { cues := [{ answer := .ok { body := (listing "other.com" "more.com").bytes } }] }
      let zones := [⟨"zone-1", "other.com"⟩, ⟨"zone-2", "more.com"⟩]
      client.Lists (Rehearsal.wire false []) "acme.com" stage zones ∧
      (∀ zone ∈ zones, zone.name ≠ Text.trimmed "acme.com") ∧
      (client.zoneId (Rehearsal.wire false []) "acme.com" stage).outcome = .ok "zone-1" ∧
      ¬ Faithful "acme.com" zones
        (client.zoneId (Rehearsal.wire false []) "acme.com" stage).outcome := by
  obtain ⟨client, connected, _⟩ := exists_local_client
  have named : Text.blank "acme.com" = false := by decide +kernel
  have other : ∀ zone ∈ [(⟨"zone-1", "other.com"⟩ : Zone), ⟨"zone-2", "more.com"⟩],
      zone.name ≠ Text.trimmed "acme.com" := by decide +kernel
  have listed := lists_listing client "acme.com" "other.com" "more.com"
  have taken := zoneId_of_lists (madeOf connected).unwraps named listed
  refine ⟨client, connected, named, listed, other, taken, ?_⟩
  intro faithful
  have missing := faithful.missing other
  rw [taken] at missing
  contradiction

end Client

end ControlPlane.Cloudflare
