import ControlPlane.Proofs.Addressing
import ControlPlane.Proofs.Clients
import ControlPlane.Proofs.Paths
import ControlPlane.Proofs.Sending
/-!
Where a call goes. Its path is joined to the path of the base, its pairs to the pairs of the base,
and nothing else of the base changes. A path without dot segments stands below the base as it is
written: its backslashes are slashes, and its delimiters are percent-encoded, so that it never
begins a query or a fragment.
-/
namespace ControlPlane

namespace Url

open Text

/-- A path as the web schemes read it: without the characters that addresses ignore, and with
slashes for its backslashes. -/
def slashed (s : List Char) : List Char :=
  (visible s).map fun c => if c = '\\' then '/' else c

def dotSpellings : List (List Char) := [".".toList, "%2e".toList, "%2E".toList]

/-- The segments that do not stand for themselves: one dot or two, in any spelling. -/
def dotSegments : List (List Char) :=
  dotSpellings ++ dotSpellings.flatMap fun first => dotSpellings.map (first ++ ·)

def Undotted (path : List Char) : Prop :=
  ∀ part ∈ splitOn (· = '/') (slashed path), part ∉ dotSegments

structure Joined (base : Url) (path : List Char) (pairs : List (List Char × List Char))
    (url : Url) : Prop where
  scheme : url.scheme = base.scheme
  authority : url.authority = base.authority
  fragment : url.fragment = base.fragment
  below : pathText url.path = dropEndWhile (· = '/') (pathText base.path) ++
    '/' :: escape pathSet (slashed (path.dropWhile (· = '/')))
  closed : ∀ c ∈ pathText url.path, c ≠ '?' ∧ c ≠ '#'
  encoded : ∀ before a b after, (hexValue? a.toNat).isSome → (hexValue? b.toNat).isSome →
    slashed (path.dropWhile (· = '/')) = before ++ '%' :: a :: b :: after →
      pathText url.path = dropEndWhile (· = '/') (pathText base.path) ++
        '/' :: (escape pathSet before ++ '%' :: a :: b :: escape pathSet after)
  asked : queryPairs (url.query.getD []) = queryPairs (base.query.getD []) ++ pairs

theorem exists_of_dotCount {s : List Char} {n : Nat} (count : dotCount s = some (n + 1)) :
    ∃ first ∈ dotSpellings, ∃ rest, s = first ++ rest ∧ dotCount rest = some n := by
  have tail {rest : List Char} (more : (dotCount rest).map (· + 1) = some (n + 1)) :
      dotCount rest = some n := by
    obtain ⟨m, found, next⟩ := Option.map_eq_some_iff.mp more
    rw [found, Nat.succ.inj next]
  unfold dotCount at count
  split at count
  · simp at count
  · exact ⟨".".toList, by decide, _, rfl, tail count⟩
  · exact ⟨"%2e".toList, by decide, _, rfl, tail count⟩
  · exact ⟨"%2E".toList, by decide, _, rfl, tail count⟩
  · contradiction

theorem eq_nil_of_dotCount {s : List Char} (count : dotCount s = some 0) : s = [] := by
  unfold dotCount at count
  split at count
  · rfl
  all_goals simp at count

theorem mem_dotSegments {s : List Char} (dotted : isSingleDot s = true ∨ isDoubleDot s = true) :
    s ∈ dotSegments := by
  simp only [isSingleDot, isDoubleDot, decide_eq_true_eq] at dotted
  rcases dotted with single | double
  · obtain ⟨first, spelled, rest, rfl, ends⟩ := exists_of_dotCount single
    rw [eq_nil_of_dotCount ends, List.append_nil]
    exact List.mem_append_left _ spelled
  · obtain ⟨first, spelled, rest, rfl, more⟩ := exists_of_dotCount double
    obtain ⟨second, spelled', rest, rfl, ends⟩ := exists_of_dotCount more
    rw [eq_nil_of_dotCount ends, List.append_nil]
    refine List.mem_append_right _ (List.mem_flatMap.mpr ⟨first, spelled, ?_⟩)
    exact List.mem_map_of_mem spelled'

theorem rawSegments_eq_splitOn (s : List Char) :
    rawSegments true s = splitOn (· = '/') (s.map fun c => if c = '\\' then '/' else c) := by
  unfold rawSegments
  induction s with
  | nil => rfl
  | cons c s ih =>
    rw [List.map_cons, splitOn, splitOn, ih]
    by_cases back : c = '\\'
    · simp [back]
    · simp [back]

theorem slashed_slash (s : List Char) : slashed ('/' :: s) = '/' :: slashed s := rfl

theorem undotted_dropWhile {path : List Char} (undotted : Undotted path) :
    Undotted (path.dropWhile (· = '/')) := by
  induction path with
  | nil => exact undotted
  | cons c path ih =>
    by_cases slash : c = '/'
    · subst slash
      rw [List.dropWhile_cons_of_pos (by simp)]
      apply ih
      intro part member
      apply undotted part
      rw [slashed_slash, splitOn, if_pos (by simp)]
      exact .tail _ member
    · rwa [List.dropWhile_cons_of_neg (by simpa using slash)]

theorem solid_of_undotted {path : List Char} (undotted : Undotted path) :
    ∀ raw ∈ rawSegments true (visible path), isSolid raw = true := by
  intro raw member
  have other := undotted raw (by rwa [slashed, ← rawSegments_eq_splitOn])
  refine (isSolid_iff raw).mpr ⟨fun c inside => ⟨?_, plain_of_mem_rawSegments member c inside⟩,
    ?_, ?_⟩
  · have seen := (mem_splitOn member inside).1
    simpa using (List.mem_filter.mp seen).2
  · exact Bool.eq_false_of_not_eq_true fun single => other (mem_dotSegments (.inl single))
  · exact Bool.eq_false_of_not_eq_true fun double => other (mem_dotSegments (.inr double))

/-- The path of a joined address: that of the base up to its last slashes, and the joined one. -/
theorem pathText_join {base : Url} (web : base.kind = .web)
    (settled : ∀ s ∈ base.path, Settled s) {path : List Char} (undotted : Undotted path)
    (pairs : List (List Char × List Char)) :
    pathText (base.join path pairs).path = dropEndWhile (· = '/') (pathText base.path) ++
      '/' :: escape pathSet (slashed (path.dropWhile (· = '/'))) := by
  obtain ⟨front, -, front_eq, read⟩ := exists_front web settled
  rw [read, resolve_of_solid (solid_of_undotted (undotted_dropWhile undotted)), pathText_append,
    pathText_map_escape, rawSegments_eq_splitOn, ← slashed, pathText_splitOn, front_eq, escape_cons]
  rfl

theorem outside_of_settled {s : Segment} (settled : Settled s) {c : Char} (member : c ∈ s) :
    pathSet c = false := by
  rw [← settled.same] at member
  rcases mem_escape member with ⟨-, outside⟩ | rfl | ⟨n, digit, rfl⟩
  · exact outside
  · rfl
  · exact (hexDigit_outside digit).1

theorem closed_of_settled {path : List Segment} (settled : ∀ s ∈ path, Settled s) :
    ∀ c ∈ pathText path, c ≠ '?' ∧ c ≠ '#' := by
  intro c member
  obtain ⟨s, among, inside⟩ := List.mem_flatMap.mp member
  rcases List.mem_cons.mp inside with rfl | inside
  · decide
  · have outside := outside_of_settled (settled s among) inside
    constructor
    · rintro rfl
      contradiction
    · rintro rfl
      contradiction

theorem queryPairs_withPairs (u : Url) (pairs : List (List Char × List Char)) :
    queryPairs ((u.withPairs pairs).query.getD []) = queryPairs (u.query.getD []) ++ pairs := by
  unfold withPairs
  split
  · rename_i none_
    rw [List.isEmpty_iff.mp none_, List.append_nil]
  · exact queryPairs_appendPairs _ _

theorem outside_of_hexValue? {c : Char} (digit : (hexValue? c.toNat).isSome = true) :
    pathSet c = false := by
  have range : 0x30 ≤ c.toNat ∧ c.toNat ≤ 0x66 := by
    simp only [hexValue?, Bool.and_eq_true, decide_eq_true_eq] at digit
    split at digit
    · omega
    · split at digit
      · omega
      · split at digit
        · omega
        · contradiction
  obtain ⟨least, most⟩ := range
  rw [← Char.ofNat_toNat c]
  revert digit
  generalize c.toNat = n at least most ⊢
  interval_cases n <;> decide

theorem escape_encoded {a b : Char} (first : (hexValue? a.toNat).isSome = true)
    (second : (hexValue? b.toNat).isSome = true) (before after : List Char) :
    escape pathSet (before ++ '%' :: a :: b :: after) =
      escape pathSet before ++ '%' :: a :: b :: escape pathSet after := by
  rw [escape_append, escape_cons, escape_cons, escape_cons,
    escapeChar_of_outside (outside_of_hexValue? first),
    escapeChar_of_outside (outside_of_hexValue? second)]
  rfl

theorem joined_join {base : Url} (web : base.kind = .web) (settled : ∀ s ∈ base.path, Settled s)
    {path : List Char} (undotted : Undotted path) (pairs : List (List Char × List Char)) :
    Joined base path pairs (base.join path pairs) where
  scheme := by
    unfold join withPairs
    split <;> rfl
  authority := by
    unfold join withPairs
    split <;> rfl
  fragment := by
    unfold join withPairs
    split <;> rfl
  below := pathText_join web settled undotted pairs
  closed := by
    rw [path_join web]
    exact closed_of_settled (settled_readPath _)
  encoded before a b after first second text := by
    rw [pathText_join web settled undotted, text, escape_encoded first second]
  asked := queryPairs_withPairs _ _

end Url

namespace Channel

/-- The address of a call over a channel to the web: its path, if it has no dot segment, stands
below the base, and its pairs follow those of the base. -/
theorem url_joined {peer : Peer} {address : String} {settings : Settings} {channel : Channel}
    (made : make peer address settings = .ok channel) (web : channel.base.kind = .web)
    {path : String} (undotted : Url.Undotted path.toList) (query : List (String × String)) :
    Url.Joined channel.base path.toList (textPairs query) (channel.url path query) := by
  obtain ⟨text, parsed⟩ := exists_of_readBase (madeOf_of_make made).base
  exact Url.joined_join web (Url.settled_path_of_parse parsed web) undotted _

theorem url_joined_delimiters :
    let path := "/b\\c d?%2Fe#\t/"
    let query := [("k", ""), ("k", "&=")]
    ∃ channel, make plainPeer "http://u:p@host:8080/a//?x=1#f" {} = .ok channel ∧
      channel.base.kind = .web ∧ Url.Undotted path.toList ∧
      Url.pathText (channel.url path query).path = "/a/b/c%20d%3F%2Fe%23/".toList ∧
      Url.queryPairs ((channel.url path query).query.getD []) =
        [(['x'], ['1']), (['k'], []), (['k'], ['&', '='])] := by
  intro path query
  have parts : (readBase "http://u:p@host:8080/a//?x=1#f").toOption.map
      (fun base => (base.kind, Url.pathText base.path, base.query)) =
        some (.web, "/a//".toList, some "x=1".toList) := by decide +kernel
  cases read : readBase "http://u:p@host:8080/a//?x=1#f" with
  | error fault =>
    rw [read] at parts
    contradiction
  | ok base =>
    rw [read] at parts
    obtain ⟨web, rest⟩ := Prod.mk.inj (Option.some.inj parts)
    obtain ⟨path_eq, query_eq⟩ := Prod.mk.inj rest
    obtain ⟨channel, made, rfl⟩ := make_of_readBase read plainPeer {}
    have undotted : Url.Undotted path.toList := by
      unfold Url.Undotted
      decide +kernel
    have joined := url_joined made web undotted query
    refine ⟨channel, made, web, undotted, ?_, ?_⟩
    · rw [joined.below, path_eq]
      decide +kernel
    · rw [joined.asked, query_eq]
      decide +kernel

end Channel

end ControlPlane
