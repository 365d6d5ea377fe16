import ControlPlane.Cloudflare.Envelope
import ControlPlane.Proofs.Parsing
import ControlPlane.Proofs.Printing
import ControlPlane.Proofs.Records
/-!
Every text of an envelope is unwrapped to what the envelope holds: blanks, escapes, the order of
members, members of other names and members left out make no difference.
-/
namespace ControlPlane.Cloudflare
open Json

def Nullable {α : Type} (Shown : α → Outline → Prop) : Option α → Outline → Prop
  | none, o => o = .null
  | some a, o => Shown a o

def errorFacets : List (Facet ApiError) :=
  [{ name := "code"
     Content := Int
     get := (·.code)
     Shown := fun n o => o = .number (some (.integer n))
     Omitted := (· = 0) },
    { name := "message"
      Content := String
      get := (·.message)
      Shown := fun s o => o = .string (some s)
      Omitted := (· = "") }]

def infoFacet (name : String) (get : PageInfo → UInt32) : Facet PageInfo where
  name := name
  Content := UInt32
  get := get
  Shown n o := o = .number (some (.integer n.toNat))
  Omitted := (· = 0)

def infoFacets : List (Facet PageInfo) :=
  [infoFacet "page" (·.page), infoFacet "per_page" (·.perPage),
    infoFacet "total_pages" (·.totalPages), infoFacet "count" (·.count),
    infoFacet "total_count" (·.totalCount)]

/-- What may be left out of an envelope is what it then counts as: no success, no errors, no result
and no place of a page. -/
def envelopeFacets : List (Facet Envelope) :=
  [{ name := "success"
     Content := Bool
     get := (·.success)
     Shown := fun b o => o = .bool b
     Omitted := (· = false) },
    { name := "errors"
      Content := List ApiError
      get := (·.errors)
      Shown := fun errors o =>
        ∃ items, o = .array items true ∧ List.Forall₂ (Presents errorFacets) errors items
      Omitted := (· = []) },
    { name := "result"
      Content := Option Json
      get := (·.result)
      Shown := Nullable fun v o => Means o v
      Omitted := (· = none) },
    { name := "result_info"
      Content := Option PageInfo
      get := (·.info)
      Shown := Nullable (Presents infoFacets)
      Omitted := (· = none) }]

/-- What an envelope can hold: codes of 64 bits, and as its result a value that is not null and
nests no deeper than a text may, the envelope around it counted. -/
structure Envelope.Formed (e : Envelope) : Prop where
  codes : ∀ error ∈ e.errors, -0x8000000000000000 ≤ error.code ∧ error.code < 0x8000000000000000
  result : ∀ v, e.result = some v →
    v ≠ .null ∧ Throughout InOrder v ∧ (Outline.ofJson v).depth < textRoom

theorem errorRecord_reads {error : ApiError}
    (fits : -0x8000000000000000 ≤ error.code ∧ error.code < 0x8000000000000000)
    (source : Source) : errorRecord.Reads errorFacets error source where
  fields := by
    refine .cons (Facet.reads_of ?_ (fun _ _ => rfl) (by simp [errorFacets]))
      (.cons (Facet.reads_of ?_ (fun _ _ => rfl) (by simp [errorFacets])) .nil)
    · rintro o - rfl
      simp [Reader.int64, fits]
    · rintro o - rfl
      rfl
  distinct := by simp [errorFacets]
  start := by
    simp only [errorFacets, List.forall_mem_cons]
    exact ⟨Eq.symm, Eq.symm, List.forall_mem_nil _⟩

theorem uint32_of_number (n : UInt32) (source : Source) :
    Reader.uint32 source (.number (some (.integer n.toNat))) = .ok n := by
  have fits : (n.toNat : Int) < 0x100000000 := by
    have := n.toNat_lt
    omega
  simp [Reader.uint32, fits]

theorem infoRecord_reads (info : PageInfo) (source : Source) :
    infoRecord.Reads infoFacets info source where
  fields := by
    have field {name : String} {get : PageInfo → UInt32} {set : UInt32 → PageInfo → PageInfo}
        (puts : ∀ n i, get (set n i) = n)
        (keeps : ∀ other ∈ infoFacets, other.name ≠ name →
          ∀ n i, other.get (set n i) = other.get i) :
        (infoFacet name get).Reads infoFacets info source (.of name .uint32 set) :=
      Facet.reads_of (by rintro o - rfl; exact uint32_of_number _ _) puts keeps
    refine .cons (field (fun _ _ => rfl) ?_) (.cons (field (fun _ _ => rfl) ?_)
      (.cons (field (fun _ _ => rfl) ?_) (.cons (field (fun _ _ => rfl) ?_)
      (.cons (field (fun _ _ => rfl) ?_) .nil))))
    all_goals simp [infoFacets, infoFacet]
  distinct := by simp [infoFacets, infoFacet]
  start := by
    simp only [infoFacets, List.forall_mem_cons]
    exact ⟨Eq.symm, Eq.symm, Eq.symm, Eq.symm, Eq.symm, List.forall_mem_nil _⟩

theorem error_read {error : ApiError}
    (fits : -0x8000000000000000 ≤ error.code ∧ error.code < 0x8000000000000000) {room : Nat}
    {o : Outline} (sound : o.sound = true) (shown : Presents errorFacets error o) :
    errorRecord.read (.text (room + 1)) o = .ok error := by
  have enter : (Source.text (room + 1)).enter = some (.text room) := rfl
  obtain ⟨found, read, same⟩ := read_of_presents enter (errorRecord_reads fits _) shown sound
  simp only [errorFacets, List.forall_mem_cons] at same
  obtain ⟨code, message⟩ := error
  obtain ⟨rfl, rfl, -⟩ := same
  exact read

theorem info_read {info : PageInfo} {room : Nat} {o : Outline} (sound : o.sound = true)
    (shown : Presents infoFacets info o) : infoRecord.read (.text (room + 1)) o = .ok info := by
  have enter : (Source.text (room + 1)).enter = some (.text room) := rfl
  obtain ⟨found, read, same⟩ := read_of_presents enter (infoRecord_reads info _) shown sound
  simp only [infoFacets, List.forall_mem_cons] at same
  obtain ⟨page, perPage, totalPages, count, totalCount⟩ := info
  obtain ⟨rfl, rfl, rfl, rfl, rfl, -⟩ := same
  exact read

theorem errors_read {errors : List ApiError}
    (fits : ∀ error ∈ errors, -0x8000000000000000 ≤ error.code ∧ error.code < 0x8000000000000000)
    {room : Nat} {items : List Outline} (sound : Outline.soundItems items = true)
    (shown : List.Forall₂ (Presents errorFacets) errors items) :
    items.mapM (errorRecord.read (.text (room + 1))) = .ok errors := by
  induction shown with
  | nil => rfl
  | cons first _ ih =>
    rw [List.forall_mem_cons] at fits
    rw [Outline.soundItems, Bool.and_eq_true] at sound
    rw [List.mapM_cons, error_read fits.1 sound.1 first, ih fits.2 sound.2]
    rfl

theorem optional_read {α : Type} {reader : Reader α} {Shown : α → Outline → Prop} {source : Source}
    {a : Option α} {o : Outline} (shown : Nullable Shown a o)
    (read : ∀ x, a = some x → Shown x o → o ≠ .null ∧ reader source o = .ok x) :
    Reader.optional reader source o = .ok a := by
  cases a with
  | none =>
    obtain rfl : o = .null := shown
    rfl
  | some x =>
    obtain ⟨some_, found⟩ := read x rfl shown
    rw [Reader.optional, found]
    · rfl
    · exact some_

theorem envelopeRecord_reads {e : Envelope} (formed : e.Formed) :
    envelopeRecord.Reads envelopeFacets e (.text 126) where
  fields := by
    refine .cons (Facet.reads_of ?_ (fun _ _ => rfl) (by simp [envelopeFacets]))
      (.cons (Facet.reads_of ?_ (fun _ _ => rfl) (by simp [envelopeFacets]))
      (.cons (Facet.reads_of ?_ (fun _ _ => rfl) (by simp [envelopeFacets]))
      (.cons (Facet.reads_of ?_ (fun _ _ => rfl) (by simp [envelopeFacets])) .nil)))
    · rintro o - rfl
      rfl
    · rintro o sound ⟨items, rfl, shown⟩
      rw [Outline.sound, Bool.true_and] at sound
      simp only [Reader.list, Source.enter, errors_read formed.codes sound shown]
      rfl
    · intro o sound shown
      refine optional_read shown fun v held means => ?_
      obtain ⟨some_, ordered, fits⟩ := formed.result v held
      have filled : o ≠ .null := by
        rintro rfl
        cases means
        exact some_ rfl
      have room : (Outline.ofJson v).depth ≤ 126 := Nat.le_of_lt_succ fits
      refine ⟨filled, ?_⟩
      simp only [Reader.any, Source.room, json?_of_means means ordered room]
    · intro o sound shown
      refine optional_read shown fun info _ shown => ?_
      cases shown with
      | object texts each =>
        exact ⟨Outline.noConfusion, info_read sound (.object texts each)⟩
  distinct := by simp [envelopeFacets]
  start := by
    simp only [envelopeFacets, List.forall_mem_cons]
    exact ⟨Eq.symm, Eq.symm, Eq.symm, Eq.symm, List.forall_mem_nil _⟩

theorem envelope_read {e : Envelope} (formed : e.Formed) {o : Outline} (sound : o.sound = true)
    (shown : Presents envelopeFacets e o) : envelopeRecord.read (.text textRoom) o = .ok e := by
  have enter : (Source.text textRoom).enter = some (.text 126) := rfl
  obtain ⟨found, read, same⟩ := read_of_presents enter (envelopeRecord_reads formed) shown sound
  simp only [envelopeFacets, List.forall_mem_cons] at same
  obtain ⟨success, errors, result, info⟩ := e
  obtain ⟨rfl, rfl, rfl, rfl, -⟩ := same
  exact read

/-- Every text of an envelope is unwrapped to what the envelope holds. -/
theorem unwrap_envelope {e : Envelope} (formed : e.Formed) {o : Outline} {s : List Char}
    (written : Padded o s) (shown : Presents envelopeFacets e o) :
    unwrap (Text.utf8 s) =
      if e.success then .ok ⟨e.result, e.info⟩ else .error (.api peerName e.errors) := by
  rw [unwrap, readText_of_padded _ written,
    envelope_read formed (sound_of_padded written) shown]

def sparse (success : Bool) : Envelope where
  success := success
  errors := [{ code := -7 }, { message := "gone" }]
  result := some (.object [("id", .string "z")])
  info := some { perPage := 50 }

def sparseAnswer (success : Bool) : Json :=
  .object
    [("trace", .array [.null]),
      ("result_info", .object [("cursor", .string "x"), ("per_page", .number (.integer 50))]),
      ("errors", .array
        [.object [("at", .null), ("code", .number (.integer (-7)))],
          .object [("message", .string "gone")]]),
      ("success", .bool success),
      ("result", .object [("id", .string "z")])]

theorem sparse_presented (success : Bool) :
    Presents envelopeFacets (sparse success) (Outline.ofJson (sparseAnswer success)) := by
  have code : Presents errorFacets { code := -7 }
      (Outline.ofJson (.object [("at", .null), ("code", .number (.integer (-7)))])) := by
    refine .object (texts_ofMemberList _) ?_
    simp only [errorFacets, List.forall_mem_cons]
    exact ⟨.shown rfl rfl, .omitted rfl rfl, List.forall_mem_nil _⟩
  have message : Presents errorFacets { message := "gone" }
      (Outline.ofJson (.object [("message", .string "gone")])) := by
    refine .object (texts_ofMemberList _) ?_
    simp only [errorFacets, List.forall_mem_cons]
    exact ⟨.omitted rfl rfl, .shown rfl rfl, List.forall_mem_nil _⟩
  have info : Presents infoFacets { perPage := 50 } (Outline.ofJson
      (.object [("cursor", .string "x"), ("per_page", .number (.integer 50))])) := by
    refine .object (texts_ofMemberList _) ?_
    simp only [infoFacets, List.forall_mem_cons]
    exact ⟨.omitted rfl rfl, .shown rfl rfl, .omitted rfl rfl, .omitted rfl rfl, .omitted rfl rfl,
      List.forall_mem_nil _⟩
  refine .object (texts_ofMemberList _) ?_
  simp only [envelopeFacets, List.forall_mem_cons]
  exact ⟨.shown rfl rfl, .shown rfl ⟨_, rfl, .cons code (.cons message .nil)⟩,
    .shown rfl (means_ofJson _), .shown rfl info, List.forall_mem_nil _⟩

theorem unwrap_sparseAnswer :
    unwrap (Text.utf8 (sparseAnswer true).text) =
        .ok ⟨some (.object [("id", .string "z")]), some { perPage := 50 }⟩ ∧
      unwrap (Text.utf8 (sparseAnswer false).text) =
        .error (.api peerName [{ code := -7 }, { message := "gone" }]) := by
  have formed (success : Bool) : (sparse success).Formed := by
    refine ⟨by simp [sparse], ?_⟩
    rintro _ ⟨⟩
    exact ⟨Json.noConfusion, by simp [Throughout, ThroughoutMembers, InOrder], by decide⟩
  have written (success : Bool) := text_written (sparseAnswer success)
    (by simp [sparseAnswer, Throughout, ThroughoutMembers, ThroughoutItems, InRange])
  exact ⟨unwrap_envelope (formed true) (written true).padded (sparse_presented true),
    unwrap_envelope (formed false) (written false).padded (sparse_presented false)⟩

end ControlPlane.Cloudflare
