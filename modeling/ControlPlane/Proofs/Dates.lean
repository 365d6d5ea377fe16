import ControlPlane.HttpDate
import ControlPlane.Proofs.Days
import ControlPlane.Proofs.Decimals
/-!
The texts that write a date. Each part of a form shows one field of a stamp, and a form is written
by the texts of its parts in their order. A date is read off a text exactly if one of the forms
writes it there and it names a second that exists; no text is written by two forms.
-/
namespace ControlPlane.HttpDate

open Text

structure Padded (width n : Nat) (s : List Char) : Prop extends Digits n s where
  wide : s.length = width

inductive Field where
  | weekday
  | year
  | month
  | day
  | hour
  | minute
  | second
deriving DecidableEq

namespace Field

def get : Field → Stamp → Nat
  | .weekday => Stamp.weekday
  | .year => Stamp.year
  | .month => Stamp.month
  | .day => Stamp.day
  | .hour => Stamp.hour
  | .minute => Stamp.minute
  | .second => Stamp.second

def put (n : Nat) (t : Stamp) : Field → Stamp
  | .weekday => { t with weekday := n }
  | .year => { t with year := n }
  | .month => { t with month := n }
  | .day => { t with day := n }
  | .hour => { t with hour := n }
  | .minute => { t with minute := n }
  | .second => { t with second := n }

theorem ext {t u : Stamp} (same : ∀ f : Field, f.get t = f.get u) : t = u := by
  have weekday : t.weekday = u.weekday := same .weekday
  have year : t.year = u.year := same .year
  have month : t.month = u.month := same .month
  have day : t.day = u.day := same .day
  have hour : t.hour = u.hour := same .hour
  have minute : t.minute = u.minute := same .minute
  have second : t.second = u.second := same .second
  cases t
  cases u
  simp_all

theorem get_put (f : Field) (n : Nat) (t : Stamp) : f.get (f.put n t) = n := by
  cases f <;> rfl

theorem get_put_of_ne {f g : Field} (other : g ≠ f) (n : Nat) (t : Stamp) :
    g.get (f.put n t) = g.get t := by
  cases f <;> cases g <;> first | rfl | exact absurd rfl other

theorem put_eq_iff {f : Field} {n : Nat} {t u : Stamp} :
    f.put n t = u ↔ f.get u = n ∧ ∀ g, g ≠ f → g.get u = g.get t := by
  constructor
  · rintro rfl
    exact ⟨f.get_put n t, fun g other => get_put_of_ne other n t⟩
  · rintro ⟨filled, kept⟩
    refine ext fun g => ?_
    by_cases same : g = f
    · rw [same, get_put, filled]
    · rw [get_put_of_ne same, kept g same]

end Field

namespace Part

def field? : Part → Option Field
  | .exactly _ => none
  | .skip => none
  | .shortWeekday => some .weekday
  | .longWeekday => some .weekday
  | .month => some .month
  | .day => some .day
  | .paddedDay => some .day
  | .year => some .year
  | .shortYear => some .year
  | .hour => some .hour
  | .minute => some .minute
  | .second => some .second

/-- The text shows what the stamp has for the part. Two digits of a year stand for one from 1970 on,
and a day may have a blank in place of its first digit where that is a pad. -/
def Shows (t : Stamp) (s : List Char) : Part → Prop
  | .exactly c => s = [c]
  | .skip => ∃ c : Char, c.toNat < 0x80 ∧ s = [c]
  | .shortWeekday => ∃ name, weekdays[t.weekday]? = some name ∧ s = name.toList.take 3
  | .longWeekday => ∃ name, weekdays[t.weekday]? = some name ∧ s = name.toList
  | .month => ∃ name, 1 ≤ t.month ∧ months[t.month - 1]? = some name ∧ s = name.toList
  | .day => Padded 2 t.day s
  | .paddedDay => Padded 2 t.day s ∨ ∃ digit, s = ' ' :: digit ∧ Padded 1 t.day digit
  | .year => Padded 4 t.year s
  | .shortYear => 1970 ≤ t.year ∧ t.year < 2070 ∧ Padded 2 (t.year % 100) s
  | .hour => Padded 2 t.hour s
  | .minute => Padded 2 t.minute s
  | .second => Padded 2 t.second s

def Keeps (part : Part) (t u : Stamp) : Prop :=
  ∀ f, part.field? ≠ some f → f.get u = f.get t

end Part

theorem afterName?_eq_some_iff {name s rest : List Char} :
    afterName? name s = some rest ↔ s = name ++ rest := by
  induction name generalizing s with
  | nil => simp [afterName?]
  | cons c name ih =>
    cases s with
    | nil => simp [afterName?]
    | cons d s =>
      by_cases same : c = d
      · simp [afterName?, same, ih]
      · simp [afterName?, same, Ne.symm same]

def Apart (names : List (List Char)) : Prop :=
  names.Pairwise fun a b => ¬ a <+: b ∧ ¬ b <+: a

instance (names : List (List Char)) : Decidable (Apart names) :=
  inferInstanceAs (Decidable (names.Pairwise _))

theorem Apart.eq_of_append {names : List (List Char)} (apart : Apart names) {i j : Nat}
    {a b rest rest' : List Char} (first : names[i]? = some a) (second : names[j]? = some b)
    (same : a ++ rest = b ++ rest') : i = j ∧ rest = rest' := by
  obtain ⟨i_lt, rfl⟩ := List.getElem?_eq_some_iff.mp first
  obtain ⟨j_lt, rfl⟩ := List.getElem?_eq_some_iff.mp second
  have begins : names[i] <+: names[j] ∨ names[j] <+: names[i] :=
    List.prefix_or_prefix_of_prefix (List.prefix_append _ rest) (same ▸ List.prefix_append _ rest')
  have place : i = j := by
    rcases Nat.lt_trichotomy i j with less | equal | more
    · have other := List.pairwise_iff_getElem.mp apart i j i_lt j_lt less
      exact absurd begins (not_or.mpr other)
    · exact equal
    · have other := List.pairwise_iff_getElem.mp apart j i j_lt i_lt more
      exact absurd begins.symm (not_or.mpr other)
  subst place
  exact ⟨rfl, List.append_cancel_left same⟩

theorem named?_eq_some_iff {names : List (List Char)} (apart : Apart names) {s rest : List Char}
    {n : Nat} : named? names s = some (n, rest) ↔
      ∃ text, s = text ++ rest ∧ names[n]? = some text := by
  have found {m : Nat} {rest' : List Char} (read : named? names s = some (m, rest')) :
      ∃ text, s = text ++ rest' ∧ names[m]? = some text := by
    obtain ⟨⟨name, i⟩, member, matched⟩ := List.exists_of_findSome?_eq_some read
    obtain ⟨_, after, rfl, rfl⟩ : ∃ r, afterName? name s = some r ∧ i = m ∧ r = rest' := by
      simpa using matched
    exact ⟨name, afterName?_eq_some_iff.mp after, List.mem_zipIdx_iff_getElem?.mp member⟩
  constructor
  · exact found
  · rintro ⟨text, rfl, place⟩
    cases read : named? names (text ++ rest) with
    | none =>
      have missed := List.findSome?_eq_none_iff.mp read (text, n)
        (List.mem_zipIdx_iff_getElem?.mpr place)
      rw [afterName?_eq_some_iff.mpr rfl] at missed
      contradiction
    | some first =>
      obtain ⟨other, split, place'⟩ := found read
      obtain ⟨same, same'⟩ := apart.eq_of_append place place' split
      rw [same, same']

theorem number?_eq_some_iff {width : Nat} (positive : 0 < width) {s rest : List Char} {n : Nat} :
    number? width s = some (n, rest) ↔ ∃ text, s = text ++ rest ∧ Padded width n text := by
  constructor
  · intro read
    unfold number? at read
    dsimp only at read
    split at read
    · rename_i wide
      obtain ⟨m, natural, same⟩ := Option.map_eq_some_iff.mp read
      obtain ⟨rfl, rfl⟩ := Prod.mk.inj same
      refine ⟨s.take width, (List.take_append_drop width s).symm, ?_, wide⟩
      exact (natural?_eq_some_iff.mp natural).2
    · contradiction
  · rintro ⟨text, rfl, padded⟩
    have wide := padded.wide
    subst wide
    have natural := natural?_eq_some_iff.mpr ⟨List.ne_nil_of_length_pos positive, padded.toDigits⟩
    simp [number?, natural]

theorem paddedDay?_eq_some_iff {s rest : List Char} {n : Nat} :
    (match s with
      | ' ' :: s => number? 1 s
      | s => number? 2 s) = some (n, rest) ↔
      ∃ text, s = text ++ rest ∧
        (Padded 2 n text ∨ ∃ digit, text = ' ' :: digit ∧ Padded 1 n digit) := by
  constructor
  · intro read
    split at read
    · obtain ⟨digit, rfl, padded⟩ := (number?_eq_some_iff (by decide)).mp read
      exact ⟨' ' :: digit, rfl, .inr ⟨digit, rfl, padded⟩⟩
    · obtain ⟨text, split, padded⟩ := (number?_eq_some_iff (by decide)).mp read
      exact ⟨text, split, .inl padded⟩
  · rintro ⟨text, rfl, padded | ⟨digit, rfl, padded⟩⟩
    · split
      · -- a pad is no digit
        rename_i pad
        cases text with
        | nil => exact absurd padded.wide (by decide)
        | cons c text =>
          obtain ⟨rfl, -⟩ := List.cons_eq_cons.mp pad
          exact absurd (padded.digits ' ' List.mem_cons_self) (by decide)
      · exact (number?_eq_some_iff (by decide)).mpr ⟨text, rfl, padded⟩
    · exact (number?_eq_some_iff (by decide)).mpr ⟨digit, rfl, padded⟩

theorem keeps_of_fieldless {part : Part} (fieldless : part.field? = none) {t u : Stamp} :
    part.Keeps t u ↔ u = t := by
  constructor
  · intro kept
    refine Field.ext fun f => kept f ?_
    rw [fieldless]
    exact nofun
  · rintro rfl f -
    rfl

theorem keeps_of_field {part : Part} {f : Field} (filled : part.field? = some f) {t u : Stamp} :
    part.Keeps t u ↔ ∀ g, g ≠ f → g.get u = g.get t := by
  unfold Part.Keeps
  rw [filled]
  constructor
  · exact fun kept g other => kept g fun same => other (Option.some.inj same).symm
  · exact fun kept g other => kept g fun same => other (by rw [same])

theorem read_field {part : Part} {f : Field} (filled : part.field? = some f) {g : Nat → Nat}
    {scan : Option (Nat × List Char)} {t u : Stamp} {s rest : List Char}
    {Text : Nat → List Char → Prop}
    (scans : ∀ n, scan = some (n, rest) ↔ ∃ text, s = text ++ rest ∧ Text n text)
    (shows : ∀ text, (∃ n, Text n text ∧ f.get u = g n) ↔ part.Shows u text) :
    (scan.map fun (n, rest) => (f.put (g n) t, rest)) = some (u, rest) ↔
      ∃ text, s = text ++ rest ∧ part.Shows u text ∧ part.Keeps t u := by
  constructor
  · intro read
    obtain ⟨⟨n, _⟩, scanned, same⟩ := Option.map_eq_some_iff.mp read
    obtain ⟨put, rfl⟩ := Prod.mk.inj same
    obtain ⟨text, split, written⟩ := (scans n).mp scanned
    obtain ⟨value, kept⟩ := Field.put_eq_iff.mp put
    exact ⟨text, split, (shows text).mp ⟨n, written, value⟩, (keeps_of_field filled).mpr kept⟩
  · rintro ⟨text, split, shown, kept⟩
    obtain ⟨n, written, value⟩ := (shows text).mpr shown
    have put : f.put (g n) t = u :=
      Field.put_eq_iff.mpr ⟨value, (keeps_of_field filled).mp kept⟩
    rw [(scans n).mpr ⟨text, split, written⟩, ← put]
    rfl

theorem read_number {part : Part} {f : Field} (filled : part.field? = some f) {width : Nat}
    (positive : 0 < width) {t u : Stamp} {s rest : List Char}
    (shows : ∀ text, Padded width (f.get u) text ↔ part.Shows u text) :
    ((number? width s).map fun (n, rest) => (f.put n t, rest)) = some (u, rest) ↔
      ∃ text, s = text ++ rest ∧ part.Shows u text ∧ part.Keeps t u :=
  read_field filled (g := id) (fun _ => number?_eq_some_iff positive) fun text =>
    exists_eq_right'.trans (shows text)

theorem read_name {part : Part} {f : Field} (filled : part.field? = some f) {names : List String}
    {cut : String → List Char} (apart : Apart (names.map cut)) {g : Nat → Nat} {t u : Stamp}
    {s rest : List Char}
    (shows : ∀ text, (∃ n name, names[n]? = some name ∧ text = cut name ∧ f.get u = g n) ↔
      part.Shows u text) :
    ((named? (names.map cut) s).map fun (n, rest) => (f.put (g n) t, rest)) = some (u, rest) ↔
      ∃ text, s = text ++ rest ∧ part.Shows u text ∧ part.Keeps t u := by
  refine read_field filled (fun _ => named?_eq_some_iff apart) fun text => ?_
  rw [← shows]
  simp only [List.getElem?_map, Option.map_eq_some_iff]
  constructor
  · rintro ⟨n, ⟨name, named, cut⟩, value⟩
    exact ⟨n, name, named, cut.symm, value⟩
  · rintro ⟨n, name, named, cut, value⟩
    exact ⟨n, ⟨name, named, cut.symm⟩, value⟩

theorem exists_place_iff {names : List String} {cut : String → List Char} {text : List Char}
    {place : Nat} : (∃ n name, names[n]? = some name ∧ text = cut name ∧ place = n) ↔
      ∃ name, names[place]? = some name ∧ text = cut name := by
  constructor
  · rintro ⟨_, name, named, cut, rfl⟩
    exact ⟨name, named, cut⟩
  · rintro ⟨name, named, cut⟩
    exact ⟨place, name, named, cut, rfl⟩

theorem exists_month_iff {names : List String} {cut : String → List Char} {text : List Char}
    {month : Nat} : (∃ n name, names[n]? = some name ∧ text = cut name ∧ month = n + 1) ↔
      ∃ name, 1 ≤ month ∧ names[month - 1]? = some name ∧ text = cut name := by
  constructor
  · rintro ⟨n, name, named, cut, rfl⟩
    exact ⟨name, Nat.le_add_left 1 n, named, cut⟩
  · rintro ⟨name, least, named, cut⟩
    exact ⟨month - 1, name, named, cut, (Nat.sub_add_cancel least).symm⟩

theorem exists_shortYear_iff {year : Nat} {text : List Char} :
    (∃ n, Padded 2 n text ∧ year = if n < 70 then 2000 + n else 1900 + n) ↔
      1970 ≤ year ∧ year < 2070 ∧ Padded 2 (year % 100) text := by
  constructor
  · rintro ⟨n, padded, year_eq⟩
    have short := padded.lt
    rw [padded.wide] at short
    have digits : 1970 ≤ year ∧ year < 2070 ∧ year % 100 = n := by
      rw [year_eq]
      split <;> omega
    exact ⟨digits.1, digits.2.1, digits.2.2.symm ▸ padded⟩
  · rintro ⟨since, before, padded⟩
    refine ⟨year % 100, padded, ?_⟩
    split <;> omega

/-- What a part reads is what shows its field; the other fields are kept. -/
theorem read_eq_some_iff {part : Part} {s rest : List Char} {t u : Stamp} :
    part.read s t = some (u, rest) ↔
      ∃ text, s = text ++ rest ∧ part.Shows u text ∧ part.Keeps t u := by
  cases part with
  | exactly c =>
    have fieldless : (Part.exactly c).field? = none := rfl
    simp only [Part.read, Part.Shows, keeps_of_fieldless fieldless]
    constructor
    · intro read
      obtain ⟨_, after, same⟩ := Option.map_eq_some_iff.mp read
      obtain ⟨rfl, rfl⟩ := Prod.mk.inj same
      exact ⟨[c], afterName?_eq_some_iff.mp after, rfl, rfl⟩
    · rintro ⟨_, rfl, rfl, rfl⟩
      rw [afterName?_eq_some_iff.mpr rfl]
      rfl
  | skip =>
    have fieldless : Part.skip.field? = none := rfl
    simp only [Part.read, Part.Shows, keeps_of_fieldless fieldless]
    constructor
    · intro read
      split at read
      · rename_i c _
        split at read
        · rename_i ascii
          obtain ⟨rfl, rfl⟩ := Prod.mk.inj (Option.some.inj read)
          exact ⟨[c], rfl, ⟨c, ascii, rfl⟩, rfl⟩
        · contradiction
      · contradiction
    · rintro ⟨_, rfl, ⟨c, ascii, rfl⟩, rfl⟩
      exact if_pos ascii
  | shortWeekday =>
    exact read_name (f := .weekday) rfl (g := id) (by decide) fun _ => exists_place_iff
  | longWeekday =>
    exact read_name (f := .weekday) rfl (g := id) (by decide) fun _ => exists_place_iff
  | month =>
    exact read_name (f := .month) rfl (g := (· + 1)) (by decide) fun _ => exists_month_iff
  | day => exact read_number (f := .day) rfl Nat.two_pos fun _ => Iff.rfl
  | paddedDay =>
    exact read_field (f := .day) rfl (g := id) (fun _ => paddedDay?_eq_some_iff)
      fun _ => exists_eq_right'
  | year => exact read_number (f := .year) rfl (Nat.succ_pos 3) fun _ => Iff.rfl
  | shortYear =>
    exact read_field (f := .year) rfl (g := fun n => if n < 70 then 2000 + n else 1900 + n)
      (fun _ => number?_eq_some_iff Nat.two_pos) fun _ => exists_shortYear_iff
  | hour => exact read_number (f := .hour) rfl Nat.two_pos fun _ => Iff.rfl
  | minute => exact read_number (f := .minute) rfl Nat.two_pos fun _ => Iff.rfl
  | second => exact read_number (f := .second) rfl Nat.two_pos fun _ => Iff.rfl

inductive Writes (t : Stamp) : List Part → List Char → Prop where
  | nil : Writes t [] []
  | cons {part : Part} {parts : List Part} {s rest : List Char} (first : part.Shows t s)
      (others : Writes t parts rest) : Writes t (part :: parts) (s ++ rest)

def fields (parts : List Part) : List Field := parts.filterMap Part.field?

theorem not_mem_fields_cons {part : Part} {parts : List Part} {f : Field} :
    f ∉ fields (part :: parts) ↔ part.field? ≠ some f ∧ f ∉ fields parts := by
  simp [fields]

theorem shows_of_same {part : Part} {t u : Stamp} {s : List Char}
    (same : ∀ f, part.field? = some f → f.get t = f.get u) (shown : part.Shows t s) :
    part.Shows u s := by
  cases part with
  | exactly c => exact shown
  | skip => exact shown
  | _ =>
    simp only [Part.field?, Option.some.injEq, forall_eq', Field.get] at same
    simpa only [Part.Shows, same] using shown

def Part.fill (part : Part) (u t : Stamp) : Stamp :=
  match part.field? with
  | none => t
  | some f => f.put (f.get u) t

theorem keeps_fill (part : Part) (u t : Stamp) : part.Keeps t (part.fill u t) := by
  intro f other
  unfold Part.fill
  split
  · rfl
  · rename_i g filled
    exact Field.get_put_of_ne (fun same => other (filled.trans (by rw [same]))) _ _

theorem get_fill {part : Part} {f : Field} (filled : part.field? = some f) (u t : Stamp) :
    f.get (part.fill u t) = f.get u := by
  unfold Part.fill
  rw [filled]
  exact f.get_put _ _

/-- Parts that fill in different fields are read exactly from the text that they write; what they do
not fill in is kept. -/
theorem readParts_eq_some_iff {parts : List Part} (apart : (fields parts).Nodup) {s : List Char}
    {t u : Stamp} : readParts parts s t = some u ↔
      Writes u parts s ∧ ∀ f, f ∉ fields parts → f.get u = f.get t := by
  induction parts generalizing s t with
  | nil =>
    constructor
    · intro read
      rw [readParts] at read
      split at read
      · rename_i none_
        obtain rfl := Option.some.inj read
        rw [List.isEmpty_iff.mp none_]
        exact ⟨.nil, fun _ _ => rfl⟩
      · contradiction
    · rintro ⟨⟨⟩, kept⟩
      rw [Field.ext fun f => kept f (List.not_mem_nil)]
      rfl
  | cons part parts ih =>
    have fresh : ∀ f, part.field? = some f → f ∉ fields parts := by
      intro f filled
      rw [fields, List.filterMap_cons_some filled] at apart
      exact (List.nodup_cons.mp apart).1
    have tail : (fields parts).Nodup :=
      apart.sublist ((List.sublist_cons_self part parts).filterMap _)
    constructor
    · intro read
      obtain ⟨⟨v, rest⟩, first, others⟩ := Option.bind_eq_some_iff.mp read
      obtain ⟨text, rfl, shown, kept⟩ := read_eq_some_iff.mp first
      obtain ⟨written, kept'⟩ := (ih tail).mp others
      -- no later part fills in the field of this one
      have shown' := shows_of_same (fun f filled => (kept' f (fresh f filled)).symm) shown
      refine ⟨.cons shown' written, fun f outside => ?_⟩
      obtain ⟨other, later⟩ := not_mem_fields_cons.mp outside
      exact (kept' f later).trans (kept f other)
    · rintro ⟨written, kept⟩
      cases written with
      | @cons _ _ text rest shown others =>
        have shown' := shows_of_same (fun f filled => (get_fill filled u t).symm) shown
        have first : part.read (text ++ rest) t = some (part.fill u t, rest) :=
          read_eq_some_iff.mpr ⟨text, rfl, shown', keeps_fill part u t⟩
        refine Option.bind_eq_some_iff.mpr ⟨_, first, (ih tail).mpr ⟨others, fun f later => ?_⟩⟩
        by_cases filled : part.field? = some f
        · exact (get_fill filled u t).symm
        · exact (kept f (not_mem_fields_cons.mpr ⟨filled, later⟩)).trans
            (keeps_fill part u t f filled).symm

def forms : List (List Part) := [fixed, dashed, yearLast]

theorem forall_forms {P : List Part → Prop} (first : P fixed) (second : P dashed)
    (third : P yearLast) : ∀ form ∈ forms, P form := by
  simp only [forms, List.forall_mem_cons]
  exact ⟨first, second, third, List.forall_mem_nil _⟩

theorem fields_of_form :
    ∀ form ∈ forms, (fields form).Nodup ∧ ∀ f, f ∈ fields form := by
  refine forall_forms ?_ ?_ ?_ <;> exact ⟨by decide, fun f => by cases f <;> decide⟩

theorem readForm_eq_some_iff {form : List Part} (known : form ∈ forms) {s : List Char} {t : Stamp} :
    readParts form s {} = some t ↔ Writes t form s := by
  obtain ⟨apart, complete⟩ := fields_of_form form known
  rw [readParts_eq_some_iff apart]
  exact and_iff_left fun f outside => absurd (complete f) outside

theorem fourth_of_short {t : Stamp} {c : Char} {parts : List Part} {s : List Char}
    (written : Writes t (.shortWeekday :: .exactly c :: parts) s) : s[3]? = some c := by
  cases written with
  | cons first others =>
    obtain ⟨name, named, rfl⟩ := first
    cases others with
    | cons mark _ =>
      have three : ∀ name ∈ weekdays, (name.toList.take 3).length = 3 := by decide
      rw [mark, List.getElem?_append_right (three name (List.mem_of_getElem? named)).le,
        three name (List.mem_of_getElem? named)]
      rfl

theorem fourth_of_long {t : Stamp} {parts : List Part} {s : List Char}
    (written : Writes t (.longWeekday :: parts) s) : s[3]? ≠ some ',' ∧ s[3]? ≠ some ' ' := by
  cases written with
  | cons first _ =>
    obtain ⟨name, named, rfl⟩ := first
    have letters : ∀ name ∈ weekdays, 3 < name.toList.length ∧
        name.toList[3]? ≠ some ',' ∧ name.toList[3]? ≠ some ' ' := by decide
    obtain ⟨long, letter⟩ := letters name (List.mem_of_getElem? named)
    rwa [List.getElem?_append_left long]

theorem fourth_of_form {t : Stamp} {s : List Char} : ∀ form ∈ forms, Writes t form s →
    (form = fixed ∧ s[3]? = some ',') ∨ (form = yearLast ∧ s[3]? = some ' ') ∨
      (form = dashed ∧ s[3]? ≠ some ',' ∧ s[3]? ≠ some ' ') := by
  refine forall_forms ?_ ?_ ?_ <;> intro written
  · exact .inl ⟨rfl, fourth_of_short written⟩
  · exact .inr (.inr ⟨rfl, fourth_of_long written⟩)
  · exact .inr (.inl ⟨rfl, fourth_of_short written⟩)

theorem form_unique {form form' : List Part} (known : form ∈ forms) (known' : form' ∈ forms)
    {s : List Char} {t u : Stamp} (written : Writes t form s) (written' : Writes u form' s) :
    form = form' := by
  rcases fourth_of_form form known written with
    ⟨rfl, fourth⟩ | ⟨rfl, fourth⟩ | ⟨rfl, fourth⟩ <;>
  rcases fourth_of_form form' known' written' with
    ⟨rfl, fourth'⟩ | ⟨rfl, fourth'⟩ | ⟨rfl, fourth'⟩ <;>
  first | rfl | simp [fourth] at fourth'

theorem findForm_eq_some_iff {s : List Char} {t : Stamp} :
    forms.findSome? (fun parts => readParts parts s {}) = some t ↔
      ∃ form ∈ forms, Writes t form s := by
  have found {u : Stamp} (read : forms.findSome? (fun parts => readParts parts s {}) = some u) :
      ∃ form ∈ forms, Writes u form s := by
    obtain ⟨form, known, read⟩ := List.exists_of_findSome?_eq_some read
    exact ⟨form, known, (readForm_eq_some_iff known).mp read⟩
  constructor
  · exact found
  · rintro ⟨form, known, written⟩
    have read := (readForm_eq_some_iff known).mpr written
    cases first : forms.findSome? (fun parts => readParts parts s {}) with
    | none =>
      have missed := List.findSome?_eq_none_iff.mp first form known
      rw [read] at missed
      contradiction
    | some u =>
      obtain ⟨other, known', written'⟩ := found first
      obtain rfl := form_unique known known' written written'
      rw [← (readForm_eq_some_iff known).mpr written', read]

/-- The stamp names a second that exists, so many days after the first day of 1970, and the weekday
of that day. -/
structure Stamp.Names (t : Stamp) (days : Nat) : Prop where
  falls : Calendar.Falls days t.year t.month t.day
  weekday : t.weekday = Calendar.weekday days
  fourDigits : t.year ≤ 9999
  hour : t.hour < 24
  minute : t.minute < 60
  second : t.second < 60

theorem isValid_iff {t : Stamp} : t.isValid = true ↔
    t.Names (Calendar.daysBefore t.year t.month t.day) := by
  simp only [Stamp.isValid, Bool.and_eq_true, decide_eq_true_eq]
  constructor
  · rintro ⟨⟨⟨⟨⟨second, minute⟩, hour⟩, year⟩, exists_⟩, weekday⟩
    exact ⟨Calendar.falls_iff.mpr ⟨exists_, rfl⟩, weekday.symm, year, hour, minute, second⟩
  · intro names
    exact ⟨⟨⟨⟨⟨names.second, names.minute⟩, names.hour⟩, names.fourDigits⟩,
      (Calendar.falls_iff.mp names.falls).1⟩, names.weekday.symm⟩

/-- A form writes the second in the text, counted from the start of 1970. -/
def Dates (s : List Char) (second : Nat) : Prop :=
  ∃ (t : Stamp) (days : Nat), (∃ form ∈ forms, Writes t form s) ∧ t.Names days ∧
    second = days * 86400 + t.hour * 3600 + t.minute * 60 + t.second

def initials : List Char := ['M', 'T', 'W', 'F', 'S']

theorem initial_of_weekday {name : String} (named : name ∈ weekdays) :
    ∃ c ∈ initials, ∃ rest, name.toList = c :: rest := by
  revert name
  simp [weekdays, initials]

theorem initial_of_form {t : Stamp} {s : List Char} : ∀ form ∈ forms, Writes t form s →
    ∃ c ∈ initials, s.head? = some c := by
  refine forall_forms ?_ ?_ ?_ <;> intro written <;> cases written with
  | cons first _ =>
    obtain ⟨name, named, rfl⟩ := first
    obtain ⟨c, initial, rest, begins⟩ := initial_of_weekday (List.mem_of_getElem? named)
    exact ⟨c, initial, by simp [begins]⟩

theorem Dates.initial {s : List Char} {second : Nat} (dates : Dates s second) :
    ∃ c ∈ initials, s.head? = some c := by
  obtain ⟨t, days, ⟨form, known, written⟩, -⟩ := dates
  exact initial_of_form form known written

theorem Dates.lt {s : List Char} {second : Nat} (dates : Dates s second) :
    second < 400000000000 := by
  obtain ⟨t, days, -, names, rfl⟩ := dates
  obtain ⟨exists_, -⟩ := Calendar.falls_iff.mp names.falls
  have months := (Calendar.month_le_of_isDay exists_).2
  have most := (Calendar.isDay_iff.mp exists_).2.2
  have length := @Calendar.monthLength_le t.year t.month
  have bound := names.falls.count_le
  have year := names.fourDigits
  have hour := names.hour
  have minute := names.minute
  have second := names.second
  omega

/-- A date is read exactly from the texts that write it. -/
theorem parse?_eq_some_iff {s : List Char} {second : Nat} :
    parse? s = some second ↔ Dates s second := by
  constructor
  · intro read
    obtain ⟨t, kept, rfl⟩ := Option.map_eq_some_iff.mp read
    obtain ⟨found, valid⟩ := Option.filter_eq_some_iff.mp kept
    exact ⟨t, _, findForm_eq_some_iff.mp found, isValid_iff.mp valid, rfl⟩
  · rintro ⟨t, days, written, names, rfl⟩
    obtain ⟨-, rfl⟩ := Calendar.falls_iff.mp names.falls
    have found := findForm_eq_some_iff.mpr written
    exact Option.map_eq_some_iff.mpr
      ⟨t, Option.filter_eq_some_iff.mpr ⟨found, isValid_iff.mpr names⟩, rfl⟩

end ControlPlane.HttpDate
