import ControlPlane.Channel.Pages
import ControlPlane.Proofs.Decimals
import ControlPlane.Proofs.Form
/-!
What the address of a request says about the page that is asked for. The pairs of a call are read
back from the address as they were, so whoever reads the address finds the page that the walk asks
for.
-/
namespace ControlPlane.Channel

/-- Query pairs ask for a page: by the only pair that names one, or for the first by naming none. -/
def Asks (pairs : List (List Char × List Char)) (page : UInt32) : Prop :=
  (page = 1 ∧ ∀ pair ∈ pairs, pair.1 ≠ "page".toList) ∨
    ∃ before value after, pairs = before ++ ("page".toList, value) :: after ∧
      (∀ pair ∈ before ++ after, pair.1 ≠ "page".toList) ∧
      Text.uint32? (Text.trim value) = some page

/-- The pairs in the address of a request. -/
def addressPairs (request : Http.Request) : List (List Char × List Char) :=
  Url.queryPairs (request.url.query.getD [])

def textPairs (query : List (String × String)) : List (List Char × List Char) :=
  query.map fun pair => (pair.1.toList, pair.2.toList)

/-- The pairs that every address of the channel begins with. -/
def basePairs (channel : Channel) : List (List Char × List Char) :=
  Url.queryPairs (channel.base.query.getD [])

theorem addressPairs_request (channel : Channel) (call : Call) :
    addressPairs (channel.request call) = channel.basePairs ++ textPairs call.query := by
  have query_eq : (channel.request call).url.query.getD [] =
      Url.appendPairs (channel.base.query.getD []) (textPairs call.query) := by
    simp only [request, url, Url.join, Url.withPairs, textPairs]
    cases call.query <;> rfl
  rw [addressPairs, query_eq, Url.queryPairs_appendPairs]
  rfl

theorem asks_later (query : List (String × String)) {q : Nat} (fits : q < UInt32.size) :
    Asks (textPairs (query.filter (fun pair => pair.1 ≠ "page") ++ [("page", toString q)]))
      (UInt32.ofNat q) := by
  refine .inr ⟨textPairs (query.filter fun pair => pair.1 ≠ "page"), (toString q).toList, [],
    ?_, ?_, ?_⟩
  · simp [textPairs]
  · intro pair member
    rw [List.append_nil] at member
    obtain ⟨named, kept, rfl⟩ := List.mem_map.mp member
    have other : named.1 ≠ "page" := by simpa using (List.mem_filter.mp kept).2
    intro same
    exact other (String.toList_inj.mp same)
  · have digits : (toString q).toList = Nat.toDigits 10 q := Nat.toList_repr
    rw [digits, Text.trim_toDigits, Text.uint32?_toDigits fits]

def askedPage (pairs : List (List Char × List Char)) : UInt32 :=
  ((pairs.find? fun pair => pair.1 = "page".toList).bind fun pair =>
    Text.uint32? (Text.trim pair.2)).getD 1

theorem askedPage_of_asks {pairs : List (List Char × List Char)} {page : UInt32}
    (asks : Asks pairs page) : askedPage pairs = page := by
  rcases asks with ⟨one, absent⟩ | ⟨before, value, after, split, absent, written⟩
  · have none_ : pairs.find? (fun pair => pair.1 = "page".toList) = none :=
      List.find?_eq_none.mpr (by simpa using absent)
    rw [askedPage, none_, one]
    rfl
  · have clear : ∀ pair ∈ before, pair.1 ≠ "page".toList := fun pair member =>
      absent pair (List.mem_append_left after member)
    have found : pairs.find? (fun pair => pair.1 = "page".toList) =
        some ("page".toList, value) := by
      rw [split, List.find?_append, List.find?_eq_none.mpr (by simpa using clear)]
      simp
    rw [askedPage, found, Option.bind_some, written]
    rfl

theorem startPage_eq_askedPage (query : List (String × String)) :
    startPage query = askedPage (textPairs query) := by
  have same : ((fun pair : List Char × List Char => decide (pair.1 = "page".toList)) ∘
      fun pair : String × String => (pair.1.toList, pair.2.toList)) =
        fun pair => decide (pair.1 = "page") := by
    funext pair
    simp only [Function.comp_apply, String.toList_inj]
  rw [askedPage, textPairs, List.find?_map, same, startPage]
  cases query.find? fun pair => decide (pair.1 = "page") <;> rfl

theorem startPage_of_asks {query : List (String × String)} {page : UInt32}
    (asks : Asks (textPairs query) page) : startPage query = page :=
  (startPage_eq_askedPage query).trans (askedPage_of_asks asks)

end ControlPlane.Channel
