import ControlPlane.Proofs.Form
import ControlPlane.Url.Parse
import Mathlib.Data.List.Basic
import Mathlib.Data.List.Induction
/-!
Paths that are read again. Below the path of an address that was read, a text is joined to the text
of that path and the whole is read anew. The segments that are there already are found again: none
of them is a dot segment, and percent-encoding makes none. What the joined text adds stands below
them as long as its dot segments do not climb.
-/
namespace ControlPlane.Url

open Text

/-! The path of an address that was read is one that its kind reads. -/

theorem exists_of_readFile {scheme raw : List Char} {u : Url} (read : readFile scheme raw = .ok u) :
    ∃ host text, u = fileWithRest scheme host text := by
  simp only [readFile, bind, Except.bind] at read
  split at read
  · split at read
    · split at read
      · exact ⟨_, _, (Except.ok.inj read).symm⟩
      · split at read
        · contradiction
        · exact ⟨_, _, (Except.ok.inj read).symm⟩
    · exact ⟨_, _, (Except.ok.inj read).symm⟩
  · exact ⟨_, _, (Except.ok.inj read).symm⟩

theorem exists_of_readAfterScheme {scheme s : List Char} {u : Url}
    (read : readAfterScheme scheme s = .ok u) :
    ∃ authority text, u = withRest scheme authority text := by
  simp only [readAfterScheme, bind, Except.bind] at read
  split at read
  · split at read
    · split at read
      · contradiction
      · exact ⟨_, _, (Except.ok.inj read).symm⟩
    · exact ⟨_, _, (Except.ok.inj read).symm⟩
    · contradiction
  · split at read
    · contradiction
    · exact ⟨_, _, (Except.ok.inj read).symm⟩

theorem exists_path_of_parse {s : List Char} {u : Url} (read : parse s = .ok u) :
    ∃ text, u.path = pathOf u.kind text := by
  simp only [parse] at read
  split at read
  · contradiction
  · split at read
    · rename_i scheme _ _ filed
      obtain ⟨host, text, rfl⟩ := exists_of_readFile read
      have kind_eq : (fileWithRest scheme host text).kind = .file := filed
      rw [kind_eq]
      exact ⟨_, rfl⟩
    · obtain ⟨authority, text, rfl⟩ := exists_of_readAfterScheme read
      exact ⟨_, rfl⟩

/-! Percent-encoding. -/

@[simp] theorem escape_nil (set : Char → Bool) : escape set [] = [] := rfl

@[simp] theorem escape_append (set : Char → Bool) (s t : List Char) :
    escape set (s ++ t) = escape set s ++ escape set t := List.flatMap_append

@[simp] theorem escape_cons (set : Char → Bool) (c : Char) (s : List Char) :
    escape set (c :: s) = escapeChar set c ++ escape set s := rfl

theorem escapeChar_of_outside {set : Char → Bool} {c : Char} (outside : set c = false) :
    escapeChar set c = [c] := by
  rw [escapeChar, outside]
  rfl

theorem escape_of_outside {set : Char → Bool} {s : List Char} (outside : ∀ c ∈ s, set c = false) :
    escape set s = s := by
  induction s with
  | nil => rfl
  | cons c s ih =>
    rw [escape_cons, escapeChar_of_outside (outside c List.mem_cons_self),
      ih fun d later => outside d (.tail c later)]
    rfl

theorem mem_escape {set : Char → Bool} {s : List Char} {d : Char} (member : d ∈ escape set s) :
    (d ∈ s ∧ set d = false) ∨ d = '%' ∨ ∃ n < 16, d = hexDigit n := by
  obtain ⟨c, here, written⟩ := List.mem_flatMap.mp member
  unfold escapeChar at written
  split at written
  · obtain ⟨b, _, digit⟩ := List.mem_flatMap.mp written
    have fits := b.toNat_lt
    simp only [escapeByte, List.mem_cons, List.not_mem_nil, or_false] at digit
    rcases digit with rfl | rfl | rfl
    · exact .inr (.inl rfl)
    · exact .inr (.inr ⟨_, by omega, rfl⟩)
    · exact .inr (.inr ⟨_, by omega, rfl⟩)
  · rename_i plain
    rw [List.mem_singleton.mp written]
    exact .inl ⟨here, by simpa using plain⟩

theorem exists_escapeChar {set : Char → Bool} {c : Char} (inside : set c = true) (other : c ≠ '.') :
    ∃ b rest, b ≠ 0x2E ∧ escapeChar set c = escapeByte b ++ rest := by
  have range := toNat_char c
  have val : c.val.toNat = c.toNat := rfl
  have dot : c.toNat ≠ 0x2E := fun same => other (Char.toNat_inj.mp same)
  have differs {m : Nat} (fits : m < 256) (different : m ≠ 0x2E) : UInt8.ofNat m ≠ 0x2E := by
    intro same
    rw [← toNat_ofNat_byte fits, same] at different
    exact different rfl
  unfold escapeChar
  rw [if_pos inside]
  unfold String.utf8EncodeChar
  rw [val]
  generalize c.toNat = n at range dot ⊢
  dsimp only
  split
  · exact ⟨_, _, differs (by omega) dot, rfl⟩
  · split
    · exact ⟨_, _, differs (by omega) (by omega), rfl⟩
    · split
      · exact ⟨_, _, differs (by omega) (by omega), rfl⟩
      · exact ⟨_, _, differs (by omega) (by omega), rfl⟩

/-- What a percent-encoded text begins with: an escape that is no dot, or the text's own first
character. -/
theorem escape_begins (c : Char) (s : List Char) :
    (∃ b rest, b ≠ 0x2E ∧ escape pathSet (c :: s) = escapeByte b ++ rest) ∨
      escape pathSet (c :: s) = c :: escape pathSet s := by
  rw [escape_cons]
  cases inside : pathSet c with
  | true =>
    have other : c ≠ '.' := by
      rintro rfl
      contradiction
    obtain ⟨b, rest, different, written⟩ := exists_escapeChar inside other
    exact .inl ⟨b, rest ++ escape pathSet s, different, by rw [written, List.append_assoc]⟩
  | false =>
    rw [escapeChar_of_outside inside]
    exact .inr rfl

theorem escape_ne_nil {s : List Char} (filled : s ≠ []) : escape pathSet s ≠ [] := by
  obtain ⟨c, s, rfl⟩ := List.exists_cons_of_ne_nil filled
  rcases escape_begins c s with ⟨b, rest, _, written⟩ | written
  · simp [written, escapeByte]
  · simp [written]

theorem eq_cons_of_escape {d : Char} {s t : List Char} (other : d ≠ '%')
    (begins : escape pathSet s = d :: t) : ∃ rest, s = d :: rest ∧ escape pathSet rest = t := by
  cases s with
  | nil => contradiction
  | cons c rest =>
    rcases escape_begins c rest with ⟨b, more, _, written⟩ | written
    · rw [written] at begins
      exact absurd (List.cons.inj begins).1.symm other
    · rw [written] at begins
      obtain ⟨rfl, tail⟩ := List.cons.inj begins
      exact ⟨rest, rfl, tail⟩

theorem dot_of_escapeByte {b : UInt8} (two : hexDigit (b.toNat / 16) = '2')
    (last : hexDigit (b.toNat % 16) = 'e' ∨ hexDigit (b.toNat % 16) = 'E') : b = 0x2E := by
  have fits := b.toNat_lt
  have high := hexValue?_hexDigit (show b.toNat / 16 < 16 by omega)
  have low := hexValue?_hexDigit (show b.toNat % 16 < 16 by omega)
  have high_eq : 2 = b.toNat / 16 := Option.some.inj (by rw [← high, two]; rfl)
  have low_eq : 14 = b.toNat % 16 := by
    rcases last with small | capital
    · exact Option.some.inj (by rw [← low, small]; rfl)
    · exact Option.some.inj (by rw [← low, capital]; rfl)
  exact UInt8.toNat_inj.mp (show b.toNat = 0x2E by omega)

theorem exists_of_escape_dot {e : Char} {s t : List Char} (last : e = 'e' ∨ e = 'E')
    (begins : escape pathSet s = '%' :: '2' :: e :: t) : ∃ rest, s = '%' :: '2' :: e :: rest := by
  cases s with
  | nil => contradiction
  | cons c rest =>
    rcases escape_begins c rest with ⟨b, more, different, written⟩ | written
    · rw [written] at begins
      obtain ⟨two, digit, _⟩ : hexDigit (b.toNat / 16) = '2' ∧ hexDigit (b.toNat % 16) = e ∧
          more = t := by simpa [escapeByte] using begins
      exact absurd (dot_of_escapeByte two (by rwa [digit])) different
    · rw [written] at begins
      obtain ⟨rfl, tail⟩ := List.cons.inj begins
      have letter : e ≠ '%' := by
        rintro rfl
        rcases last with same | same <;> contradiction
      obtain ⟨rest, rfl, ending⟩ := eq_cons_of_escape (by decide) tail
      obtain ⟨rest, rfl, _⟩ := eq_cons_of_escape letter ending
      exact ⟨rest, rfl⟩

/-- Percent-encoding makes no dot segment and hides none. -/
theorem dotCount_escape (s : List Char) : dotCount (escape pathSet s) = dotCount s := by
  induction s using dotCount.induct with
  | case1 => rfl
  | case2 rest ih =>
    have same : escape pathSet ('.' :: rest) = '.' :: escape pathSet rest := rfl
    rw [same, dotCount, dotCount, ih]
  | case3 rest ih =>
    have same : escape pathSet ('%' :: '2' :: 'e' :: rest) =
        '%' :: '2' :: 'e' :: escape pathSet rest := rfl
    rw [same, dotCount, dotCount, ih]
  | case4 rest ih =>
    have same : escape pathSet ('%' :: '2' :: 'E' :: rest) =
        '%' :: '2' :: 'E' :: escape pathSet rest := rfl
    rw [same, dotCount, dotCount, ih]
  | case5 s nil dot small capital =>
    rw [dotCount.eq_5 s nil dot small capital]
    apply dotCount.eq_5
    · exact escape_ne_nil nil
    · intro t begins
      obtain ⟨rest, shape, _⟩ := eq_cons_of_escape (by decide) begins
      exact dot rest shape
    · intro t begins
      obtain ⟨rest, shape⟩ := exists_of_escape_dot (.inl rfl) begins
      exact small rest shape
    · intro t begins
      obtain ⟨rest, shape⟩ := exists_of_escape_dot (.inr rfl) begins
      exact capital rest shape

/-! Segments that keep their place. -/

/-- A raw segment that keeps its place in a path: visible characters without slashes of either kind,
and no dot segment. -/
def isSolid (raw : List Char) : Bool :=
  (raw.all fun c => !ignored c && c ≠ '/' && c ≠ '\\') && !isSingleDot raw && !isDoubleDot raw

theorem isSolid_iff (raw : List Char) : isSolid raw = true ↔
    (∀ c ∈ raw, ignored c = false ∧ c ≠ '/' ∧ c ≠ '\\') ∧ isSingleDot raw = false ∧
      isDoubleDot raw = false := by
  simp [isSolid, and_assoc]

structure Settled (s : Segment) : Prop where
  solid : isSolid s = true
  same : escape pathSet s = s

theorem ignored_of_outside {c : Char} (outside : pathSet c = false) : ignored c = false := by
  cases seen : ignored c with
  | false => rfl
  | true =>
    simp only [ignored, Bool.or_eq_true, decide_eq_true_eq] at seen
    rcases seen with (rfl | rfl) | rfl <;> contradiction

theorem hexDigit_outside {n : Nat} (digit : n < 16) :
    pathSet (hexDigit n) = false ∧ hexDigit n ≠ '/' ∧ hexDigit n ≠ '\\' := by
  interval_cases n <;> decide

theorem settled_escape {raw : List Char} (plain : ∀ c ∈ raw, c ≠ '/' ∧ c ≠ '\\')
    (single : isSingleDot raw = false) (double : isDoubleDot raw = false) :
    Settled (escape pathSet raw) := by
  have outside : ∀ d ∈ escape pathSet raw, pathSet d = false ∧ d ≠ '/' ∧ d ≠ '\\' := by
    intro d member
    rcases mem_escape member with ⟨here, out⟩ | rfl | ⟨n, digit, rfl⟩
    · exact ⟨out, plain d here⟩
    · decide
    · exact hexDigit_outside digit
  constructor
  · rw [isSolid_iff, isSingleDot, isDoubleDot, dotCount_escape]
    exact ⟨fun d member => ⟨ignored_of_outside (outside d member).1, (outside d member).2⟩,
      single, double⟩
  · exact escape_of_outside fun d member => (outside d member).1

theorem settled_nil : Settled [] := ⟨rfl, rfl⟩

theorem mem_of_mem_parent {path : List Segment} {s : Segment} (member : s ∈ parent path) :
    s ∈ path := by
  unfold parent at member
  split at member
  · split at member
    · exact member
    · exact List.dropLast_subset path member
  · contradiction

theorem settled_append {path more : List Segment} (before : ∀ s ∈ path, Settled s)
    (after : ∀ s ∈ more, Settled s) : ∀ s ∈ path ++ more, Settled s := by
  intro s member
  rcases List.mem_append.mp member with here | there
  · exact before s here
  · exact after s there

theorem settled_parent {path : List Segment} (before : ∀ s ∈ path, Settled s) :
    ∀ s ∈ parent path, Settled s :=
  fun s member => before s (mem_of_mem_parent member)

theorem settled_resolve {path : List Segment} {raws : List (List Char)}
    (before : ∀ s ∈ path, Settled s) (plain : ∀ raw ∈ raws, ∀ c ∈ raw, c ≠ '/' ∧ c ≠ '\\') :
    ∀ s ∈ resolve path raws, Settled s := by
  have empty : ∀ s ∈ ([[]] : List Segment), Settled s := by
    intro s member
    rw [List.mem_singleton.mp member]
    exact settled_nil
  have one {raw : List Char} (plain : ∀ c ∈ raw, c ≠ '/' ∧ c ≠ '\\')
      (double : ¬ isDoubleDot raw = true) (single : ¬ isSingleDot raw = true) :
      ∀ s ∈ [escape pathSet raw], Settled s := by
    intro s member
    rw [List.mem_singleton.mp member]
    exact settled_escape plain (Bool.eq_false_of_not_eq_true single)
      (Bool.eq_false_of_not_eq_true double)
  fun_induction resolve path raws with
  | case1 path => exact before
  | case2 path last double => exact settled_append (settled_parent before) empty
  | case3 path last double single => exact settled_append before empty
  | case4 path last double single =>
    exact settled_append before (one (plain last List.mem_cons_self) double single)
  | case5 path raw rest more double ih =>
    exact ih (settled_parent before) fun raw later => plain raw (.tail _ later)
  | case6 path raw rest more double single ih =>
    exact ih before fun raw later => plain raw (.tail _ later)
  | case7 path raw rest more double single ih =>
    exact ih (settled_append before (one (plain raw List.mem_cons_self) double single))
      fun raw later => plain raw (.tail _ later)

theorem mem_splitOn {sep : Char → Bool} {s part : List Char} {c : Char}
    (among : part ∈ splitOn sep s) (member : c ∈ part) : c ∈ s ∧ sep c = false := by
  induction s generalizing part with
  | nil =>
    rw [List.mem_singleton.mp among] at member
    contradiction
  | cons d s ih =>
    rw [splitOn] at among
    split at among
    · rcases List.mem_cons.mp among with rfl | later
      · contradiction
      · exact ⟨.tail d (ih later member).1, (ih later member).2⟩
    · rename_i kept
      split at among
      · rename_i first parts split
        rw [split] at ih
        rcases List.mem_cons.mp among with rfl | later
        · rcases List.mem_cons.mp member with rfl | inner
          · exact ⟨List.mem_cons_self, by simpa using kept⟩
          · exact ⟨.tail d (ih List.mem_cons_self inner).1, (ih List.mem_cons_self inner).2⟩
        · exact ⟨.tail d (ih (.tail first later) member).1, (ih (.tail first later) member).2⟩
      · rw [List.mem_singleton.mp among] at member
        rw [List.mem_singleton.mp member]
        exact ⟨List.mem_cons_self, by simpa using kept⟩

theorem plain_of_mem_rawSegments {s raw : List Char} (member : raw ∈ rawSegments true s) :
    ∀ c ∈ raw, c ≠ '/' ∧ c ≠ '\\' := by
  intro c inside
  have apart := (mem_splitOn member inside).2
  simpa using apart

theorem readPath_special (s : List Char) :
    readPath true s = resolve [] (rawSegments true (afterSlash true (visible s))) := by
  simp [readPath]

theorem settled_readPath (s : List Char) : ∀ seg ∈ readPath true s, Settled seg := by
  rw [readPath_special]
  apply settled_resolve
  · intro seg member
    contradiction
  · exact fun _ => plain_of_mem_rawSegments

theorem settled_path_of_parse {s : List Char} {u : Url} (read : parse s = .ok u)
    (web : u.kind = .web) : ∀ seg ∈ u.path, Settled seg := by
  obtain ⟨text, path_eq⟩ := exists_path_of_parse read
  rw [path_eq, web]
  exact settled_readPath text

/-! Reading joined texts. -/

@[simp] theorem pathText_nil : pathText [] = [] := rfl

@[simp] theorem pathText_cons (s : Segment) (path : List Segment) :
    pathText (s :: path) = '/' :: (s ++ pathText path) := rfl

@[simp] theorem pathText_append (path more : List Segment) :
    pathText (path ++ more) = pathText path ++ pathText more := List.flatMap_append

theorem pathText_splitOn (s : List Char) : pathText (splitOn (· = '/') s) = '/' :: s := by
  induction s with
  | nil => rfl
  | cons c s ih =>
    rw [splitOn]
    split
    · rename_i slash
      rw [pathText_cons, ih, of_decide_eq_true slash]
      rfl
    · cases split : splitOn (· = '/') s with
      | nil => exact absurd split (splitOn_ne_nil _ s)
      | cons part parts =>
        rw [split, pathText_cons] at ih
        rw [pathText_cons, List.cons_append, (List.cons.inj ih).2]

theorem pathText_map_escape (raws : List (List Char)) :
    pathText (raws.map (escape pathSet)) = escape pathSet (pathText raws) := by
  induction raws with
  | nil => rfl
  | cons raw raws ih =>
    rw [List.map_cons, pathText_cons, pathText_cons, ih, escape_cons, escape_append]
    rfl

@[simp] theorem visible_append (s t : List Char) : visible (s ++ t) = visible s ++ visible t :=
  List.filter_append s t

theorem visible_pathText {raws : List (List Char)} (solid : ∀ raw ∈ raws, isSolid raw = true) :
    visible (pathText raws) = pathText raws := by
  apply List.filter_eq_self.mpr
  intro c member
  obtain ⟨raw, among, inside⟩ := List.mem_flatMap.mp member
  rcases List.mem_cons.mp inside with rfl | inside
  · rfl
  · rw [(((isSolid_iff raw).mp (solid raw among)).1 c inside).1]
    rfl

theorem rawSegments_of_solid {raw : List Char} (solid : isSolid raw = true) :
    rawSegments true raw = [raw] := by
  apply splitOn_of_none
  intro c inside
  simpa using (((isSolid_iff raw).mp solid).1 c inside).2

/-- The text of solid segments followed by a slash is split into them. -/
theorem rawSegments_pathText {raws : List (List Char)} (solid : ∀ raw ∈ raws, isSolid raw = true)
    (s : List Char) :
    rawSegments true (afterSlash true (pathText raws ++ '/' :: s)) =
      raws ++ rawSegments true s := by
  induction raws with
  | nil => rfl
  | cons raw raws ih =>
    have next := ih fun later member => solid later (.tail raw member)
    obtain ⟨tail, tail_eq⟩ : ∃ tail, pathText raws ++ '/' :: s = '/' :: tail := by
      cases raws <;> exact ⟨_, rfl⟩
    have whole := rawSegments_of_solid (solid raw List.mem_cons_self)
    rw [pathText_cons, List.cons_append, List.append_assoc, tail_eq]
    rw [tail_eq] at next
    simp only [afterSlash, rawSegments] at next whole ⊢
    rw [splitOn_append (by decide), whole, next]
    rfl

theorem rawSegments_below {c : Char} {first : List Char} {raws : List (List Char)}
    (solid : ∀ raw ∈ (c :: first) :: raws, isSolid raw = true) (text : List Char) :
    rawSegments true
        (visible ((pathText ((c :: first) :: raws) ++ '/' :: text).dropWhile (· = '/'))) =
      (c :: first) :: raws ++ rawSegments true (visible text) := by
  have other : c ≠ '/' := (((isSolid_iff _).mp (solid _ List.mem_cons_self)).1 c
    List.mem_cons_self).2.1
  have dropped : (pathText ((c :: first) :: raws) ++ '/' :: text).dropWhile (· = '/') =
      c :: (first ++ (pathText raws ++ '/' :: text)) := by
    simp [other]
  have shown : '/' :: visible (c :: (first ++ (pathText raws ++ '/' :: text))) =
      pathText ((c :: first) :: raws) ++ '/' :: visible text := by
    rw [← visible_pathText solid, show '/' :: visible text = visible ('/' :: text) from rfl,
      ← visible_append]
    simp
    rfl
  rw [dropped, ← rawSegments_pathText solid, ← shown]
  rfl

theorem resolve_solid {path : List Segment} {raws rest : List (List Char)}
    (solid : ∀ raw ∈ raws, isSolid raw = true) (more : rest ≠ []) :
    resolve path (raws ++ rest) = resolve (path ++ raws.map (escape pathSet)) rest := by
  induction raws generalizing path with
  | nil => rw [List.map_nil, List.append_nil, List.nil_append]
  | cons raw raws ih =>
    obtain ⟨_, single, double⟩ := (isSolid_iff raw).mp (solid raw List.mem_cons_self)
    have later : raws ++ rest ≠ [] := fun none_ => more (List.append_eq_nil_iff.mp none_).2
    rw [List.cons_append, resolve, double, single]
    · simp only [Bool.false_eq_true, if_false]
      rw [ih fun later member => solid later (.tail raw member)]
      simp
    · exact later

theorem resolve_of_solid {path : List Segment} {raws : List (List Char)}
    (solid : ∀ raw ∈ raws, isSolid raw = true) :
    resolve path raws = path ++ raws.map (escape pathSet) := by
  rcases List.eq_nil_or_concat' raws with rfl | ⟨start, last, rfl⟩
  · exact (List.append_nil path).symm
  · obtain ⟨_, single, double⟩ := (isSolid_iff last).mp (solid last (by simp))
    rw [resolve_solid (fun raw member => solid raw (List.mem_append_left _ member)) (by simp),
      resolve, double, single]
    simp

theorem map_escape_of_settled {path : List Segment} (settled : ∀ s ∈ path, Settled s) :
    path.map (escape pathSet) = path := by
  rw [List.map_congr_left fun s member => (settled s member).same]
  exact List.map_id' path

theorem dropEndWhile_concat (p : Char → Bool) (s : List Char) (c : Char) :
    dropEndWhile p (s ++ [c]) = if p c then dropEndWhile p s else s ++ [c] := by
  cases taken : p c <;> simp [dropEndWhile, taken]

theorem exists_dropEndWhile_pathText {path : List Segment} (settled : ∀ s ∈ path, Settled s) :
    ∃ front, (∀ s ∈ front, Settled s) ∧
      dropEndWhile (· = '/') (pathText path) = pathText front := by
  induction path using List.reverseRecOn with
  | nil => exact ⟨[], settled, rfl⟩
  | append_singleton path last ih =>
    have here : Settled last := settled last (by simp)
    rcases List.eq_nil_or_concat' last with rfl | ⟨start, c, rfl⟩
    · obtain ⟨front, kept, text⟩ := ih fun s member => settled s (List.mem_append_left _ member)
      refine ⟨front, kept, ?_⟩
      rw [pathText_append, show pathText [[]] = ['/'] from rfl, dropEndWhile_concat]
      exact text
    · have other : c ≠ '/' := (((isSolid_iff _).mp here.solid).1 c (by simp)).2.1
      have shape : pathText (path ++ [start ++ [c]]) = (pathText path ++ '/' :: start) ++ [c] := by
        simp
      refine ⟨path ++ [start ++ [c]], settled, ?_⟩
      rw [shape, dropEndWhile_concat, if_neg (by simpa using other)]

theorem readPath_pathText {raws : List (List Char)} (solid : ∀ raw ∈ raws, isSolid raw = true)
    (s : List Char) : readPath true (pathText raws ++ '/' :: s) =
      resolve (raws.map (escape pathSet)) (rawSegments true (visible s)) := by
  have shown : visible (pathText raws ++ '/' :: s) = pathText raws ++ '/' :: visible s := by
    rw [visible_append, visible_pathText solid]
    rfl
  have parts : rawSegments true (visible s) ≠ [] := splitOn_ne_nil _ _
  rw [readPath_special, shown, rawSegments_pathText solid, resolve_solid solid parts,
    List.nil_append]

theorem path_join {base : Url} (web : base.kind = .web) (path : List Char)
    (pairs : List (List Char × List Char)) :
    (base.join path pairs).path = readPath true (joinedPath (pathText base.path) path) := by
  unfold join withPairs
  split <;> simp [withPath, pathOf, web, Kind.special]

/-- Whatever is joined to a base is read below the segments that the base has, those apart that are
empty at its end. -/
theorem exists_front {base : Url} (web : base.kind = .web) (settled : ∀ s ∈ base.path, Settled s) :
    ∃ front, (∀ s ∈ front, Settled s) ∧
      dropEndWhile (· = '/') (pathText base.path) = pathText front ∧
      ∀ path pairs, (base.join path pairs).path =
        resolve front (rawSegments true (visible (path.dropWhile (· = '/')))) := by
  obtain ⟨front, kept, front_eq⟩ := exists_dropEndWhile_pathText settled
  refine ⟨front, kept, front_eq, fun path pairs => ?_⟩
  rw [path_join web, joinedPath, front_eq, readPath_pathText fun s member => (kept s member).solid,
    map_escape_of_settled kept]

theorem parent_concat (path : List Segment) (last : Segment) :
    parent (path ++ [last]) = if staysInPlace last then path ++ [last] else path := by
  simp [parent]

theorem parent_append (place : List Segment) {below : List Segment} (some_ : below ≠ []) :
    parent (place ++ below) = place ++ parent below := by
  obtain ⟨start, last, rfl⟩ := (List.eq_nil_or_concat' below).resolve_left some_
  rw [← List.append_assoc, parent_concat, parent_concat]
  split
  · rw [List.append_assoc]
  · rfl

theorem le_length_parent (path : List Segment) : path.length - 1 ≤ (parent path).length := by
  rcases List.eq_nil_or_concat' path with rfl | ⟨start, last, rfl⟩
  · exact Nat.zero_le _
  · rw [parent_concat]
    split <;> simp

/-- Reading raw segments in a place that `depth` segments lie above never climbs out of it, and
something stands there at the end. -/
def staysBelow (depth : Nat) : List (List Char) → Bool
  | [] => false
  | [last] =>
    if isDoubleDot last then 2 ≤ depth
    else if isSingleDot last then 1 ≤ depth
    else 1 ≤ depth || !last.isEmpty
  | raw :: rest =>
    if isDoubleDot raw then 1 ≤ depth && staysBelow (depth - 1) rest
    else if isSingleDot raw then staysBelow depth rest
    else staysBelow (depth + 1) rest

theorem resolve_below (place : List Segment) {below : List Segment} {depth : Nat}
    {raws : List (List Char)} (deep : depth ≤ below.length) (stays : staysBelow depth raws = true) :
    ∃ inner rest, resolve (place ++ below) raws = place ++ inner ∧ rest ≠ [] ∧
      pathText inner = '/' :: rest := by
  have ended (inner : List Segment) (last : Segment) (some_ : inner ≠ [] ∨ last ≠ []) :
      ∃ more rest, place ++ inner ++ [last] = place ++ more ∧ rest ≠ [] ∧
        pathText more = '/' :: rest := by
    refine ⟨inner ++ [last], ?_⟩
    cases inner with
    | nil => exact ⟨last, by simp, by simpa using some_, by simp⟩
    | cons first inner =>
      exact ⟨first ++ pathText (inner ++ [last]), by simp, by simp, rfl⟩
  fun_induction staysBelow depth raws generalizing below with
  | case1 => contradiction
  | case2 depth last double =>
    have climbs := le_length_parent below
    have two : 2 ≤ depth := by simpa using stays
    rw [resolve, if_pos double, parent_append place (List.ne_nil_of_length_pos (by omega))]
    exact ended _ _ (.inl (List.ne_nil_of_length_pos (by omega)))
  | case3 depth last double single =>
    have one : 1 ≤ depth := by simpa using stays
    rw [resolve, if_neg double, if_pos single]
    exact ended _ _ (.inl (List.ne_nil_of_length_pos (by omega)))
  | case4 depth last double single =>
    rw [resolve, if_neg double, if_neg single]
    apply ended
    simp only [Bool.or_eq_true, decide_eq_true_eq, Bool.not_eq_true', List.isEmpty_eq_false_iff]
      at stays
    rcases stays with one | filled
    · exact .inl (List.ne_nil_of_length_pos (by omega))
    · exact .inr (escape_ne_nil filled)
  | case5 depth raw rest more double ih =>
    have climbs := le_length_parent below
    simp only [Bool.and_eq_true, decide_eq_true_eq] at stays
    rw [resolve, if_pos double, parent_append place (List.ne_nil_of_length_pos (by omega))]
    · exact ih (by omega) stays.2
    · exact more
  | case6 depth raw rest more double single ih =>
    rw [resolve, if_neg double, if_pos single]
    · exact ih deep stays
    · exact more
  | case7 depth raw rest more double single ih =>
    rw [resolve, if_neg double, if_neg single, List.append_assoc]
    · exact ih (by simpa using deep) stays
    · exact more

/-- A path of solid segments and of a text that stays below them is joined to an address below the
path that the address has. -/
theorem exists_path_join {base : Url} (web : base.kind = .web)
    (settled : ∀ s ∈ base.path, Settled s) {c : Char} {first : List Char}
    {raws : List (List Char)} (solid : ∀ raw ∈ (c :: first) :: raws, isSolid raw = true)
    {text : List Char} (stays : staysBelow 0 (rawSegments true (visible text)) = true) :
    ∃ rest, rest ≠ [] ∧
      pathText (base.join (pathText ((c :: first) :: raws) ++ '/' :: text) []).path =
        dropEndWhile (· = '/') (pathText base.path) ++
          pathText (((c :: first) :: raws).map (escape pathSet)) ++ '/' :: rest := by
  obtain ⟨front, kept, front_eq, read⟩ := exists_front web settled
  have parts : rawSegments true (visible text) ≠ [] := splitOn_ne_nil _ _
  have shallow : 0 ≤ ([] : List Segment).length := Nat.zero_le _
  obtain ⟨inner, rest, below, filled, written⟩ :=
    resolve_below (front ++ ((c :: first) :: raws).map (escape pathSet)) shallow stays
  refine ⟨rest, filled, ?_⟩
  rw [read, rawSegments_below solid, resolve_solid solid parts, ← List.append_nil (front ++ _),
    below, front_eq]
  simp [written]

end ControlPlane.Url
