import ControlPlane.Channel.Send
/-!
Walking all pages of a list. The first request carries the caller's query as it is; as long as an
answer tells of more pages, the next one is asked for. The page asked for is always greater than the
ones before, whatever the server reports, so the walk ends.
-/
namespace ControlPlane.Channel

variable {σ α : Type}

/-- The page that the first request of a walk asks for: that of the first `page` pair if it writes
one, else the first. -/
def startPage (query : List (String × String)) : UInt32 :=
  ((query.find? fun p => p.1 = "page").bind fun p => Text.uint32? (Text.trim p.2.toList)).getD 1

def pageQuery (query : List (String × String)) (page : UInt32) : List (String × String) :=
  (query.filter fun p => p.1 ≠ "page") ++ [("page", toString page.toNat)]

/-- The page that an answer to a request for page `requested` counts for. A server that reports an
earlier page than it was asked for does not hold up the walk. -/
def currentPage (requested : UInt32) (info : PageInfo) : UInt32 :=
  if info.page < requested then requested else info.page

theorem le_currentPage (requested : UInt32) (info : PageInfo) :
    requested ≤ currentPage requested info := by
  unfold currentPage
  split
  · exact UInt32.le_refl requested
  · rename_i later
    exact UInt32.not_lt.1 later

def nextPage? (requested : UInt32) (info : PageInfo) : Option UInt32 :=
  if info.totalPages ≤ currentPage requested info then none
  else some (currentPage requested info + 1)

theorem nextPage?_eq_some {requested next : UInt32} {info : PageInfo}
    (h : nextPage? requested info = some next) :
    next.toNat = (currentPage requested info).toNat + 1 ∧ next.toNat ≤ info.totalPages.toNat := by
  unfold nextPage? at h
  split at h
  · cases h
  · rename_i more
    have bound := info.totalPages.toNat_lt
    rw [UInt32.le_iff_toNat_le] at more
    obtain rfl := Option.some.inj h
    have one : (1 : UInt32).toNat = 1 := rfl
    rw [UInt32.toNat_add, one]
    omega

theorem lt_of_nextPage? {requested next : UInt32} {info : PageInfo}
    (h : nextPage? requested info = some next) : requested.toNat < next.toNat := by
  have reached := le_currentPage requested info
  rw [UInt32.le_iff_toNat_le] at reached
  have := (nextPage?_eq_some h).1
  omega

def pageItems (channel : Channel) (reader : Json.Reader α) (found : Content) :
    Except Fault (List α) :=
  match found.result with
  | some result => channel.decode (Json.Reader.list reader) result
  | none => .ok []

def pagesFrom (channel : Channel) (wire : Wire σ) (reader : Json.Reader α) (call : Call)
    (requested : UInt32) (query : List (String × String)) (s : σ) : Exchange σ (List α) :=
  (channel.content wire { call with query } s).bind fun found s =>
    match channel.pageItems reader found with
    | .error fault => .done (.error fault) s
    | .ok items =>
      match _more : found.info.bind (nextPage? requested) with
      | none => .done (.ok items) s
      | some page =>
        (pagesFrom channel wire reader call page (pageQuery call.query page) s).mapOutcome fun rest =>
          rest.map (items ++ ·)
termination_by 0x100000000 - requested.toNat
decreasing_by
  obtain ⟨info, _, h⟩ := Option.bind_eq_some_iff.1 _more
  have := lt_of_nextPage? h
  have := page.toNat_lt
  omega

def pages (channel : Channel) (wire : Wire σ) (reader : Json.Reader α) (path : String)
    (query : List (String × String)) (retryUnsafe : Bool) (s : σ) : Exchange σ (List α) :=
  channel.pagesFrom wire reader { path, query, retryUnsafe } (startPage query) query s

end ControlPlane.Channel
