import ControlPlane.Proofs.Grammar
import ControlPlane.Proofs.Utf8
import Mathlib.Tactic.IntervalCases
/-!
The tokens of a text that the grammar allows. A numeral ends where the next character does not
continue it, so what is said of its text is said for every text that may follow; every other token
ends by itself.
-/
namespace ControlPlane.Json

def Stops (s : List Char) : Prop :=
  ∀ c, s.head? = some c → Text.digit? c = none ∧ c ∉ ['.', 'e', 'E']

theorem stops_nil : Stops [] := nofun

theorem stops_cons {c : Char} (other : Text.digit? c = none ∧ c ∉ ['.', 'e', 'E'])
    (s : List Char) : Stops (c :: s) := by
  intro d first
  rw [← Option.some.inj first]
  exact other

theorem Stops.append {s rest : List Char} (first : Stops s) (after : Stops rest) :
    Stops (s ++ rest) := by
  cases s with
  | nil => exact after
  | cons c s => exact stops_cons (first c rfl) _

theorem digit?_digitChar {d : Nat} (small : d < 10) : Text.digit? (Nat.digitChar d) = some d := by
  interval_cases d <;> rfl

theorem digitRun_append {digits : List Nat} (small : ∀ d ∈ digits, d < 10) {rest : List Char}
    (after : ∀ c, rest.head? = some c → Text.digit? c = none) :
    digitRun ((digits.map Nat.digitChar ++ rest).map some) = (digits, rest.map some) := by
  induction digits with
  | nil =>
    cases rest with
    | nil => rfl
    | cons c rest => simp [digitRun, after c rfl]
  | cons d digits ih =>
    have first := digit?_digitChar (small d List.mem_cons_self)
    have others := ih fun e later => small e (.tail d later)
    simp only [List.map_cons, List.cons_append, digitRun, first, others]

theorem wholePart_append {digits : List Nat} {s rest : List Char} (written : WholeText digits s)
    (after : ∀ c, rest.head? = some c → Text.digit? c = none) :
    wholePart ((s ++ rest).map some) = some (digits, rest.map some) := by
  obtain ⟨⟨some_, small, rfl⟩, lone⟩ := written
  rw [wholePart, digitRun_append small after]
  match digits, lone with
  | [], _ => exact absurd rfl some_
  | [d], _ => cases d <;> rfl
  | 0 :: d :: rest, lone =>
    cases lone rfl
  | (d + 1) :: e :: rest, _ => rfl

theorem fractionPart_append {fraction : Option (List Nat)} {s rest : List Char}
    (written : FractionText fraction s)
    (after : ∀ c, rest.head? = some c → Text.digit? c = none ∧ c ≠ '.') :
    fractionPart ((s ++ rest).map some) = some (fraction, rest.map some) := by
  cases written with
  | absent =>
    cases rest with
    | nil => rfl
    | cons c rest =>
      have other := (after c rfl).2
      simp only [List.nil_append, List.map_cons]
      unfold fractionPart
      split
      · rename_i shape
        cases shape
        exact absurd rfl other
      · rfl
  | @present digits s written =>
    obtain ⟨some_, small, rfl⟩ := written
    simp only [List.cons_append, List.map_cons, fractionPart,
      digitRun_append small fun c first => (after c first).1]

theorem digitChar_ne_sign {d : Nat} (small : d < 10) :
    Nat.digitChar d ≠ '+' ∧ Nat.digitChar d ≠ '-' := by
  interval_cases d <;> decide

theorem exponentPart_append {exponent : Option Int} {s rest : List Char}
    (written : ExponentText exponent s) (after : Stops rest) :
    exponentPart ((s ++ rest).map some) = some (exponent, rest.map some) := by
  cases written with
  | absent =>
    cases rest with
    | nil => rfl
    | cons c rest =>
      have other := (after c rfl).2
      simp only [List.mem_cons, List.not_mem_nil, or_false, not_or] at other
      simp [exponentPart, other]
  | @unsigned letter digits _ named written
  | @plus letter digits _ named written
  | @minus letter digits _ named written =>
    obtain ⟨some_, small, rfl⟩ := written
    have read := digitRun_append small fun c first => (after c first).1
    cases digits with
    | nil => exact absurd rfl some_
    | cons d digits =>
      have unsigned := digitChar_ne_sign (small d List.mem_cons_self)
      simp only [List.mem_cons, List.not_mem_nil, or_false] at named
      simp only [List.map_cons, List.cons_append, List.map_append,
        List.map_map] at read
      rcases named with rfl | rfl <;> simp [exponentPart, unsigned, read]

theorem head?_digits {digits : List Nat} {s : List Char} (written : DigitsText digits s)
    (rest : List Char) : ∃ d < 10, (s ++ rest).head? = some (Nat.digitChar d) := by
  obtain ⟨some_, small, rfl⟩ := written
  cases digits with
  | nil => exact absurd rfl some_
  | cons d digits => exact ⟨d, small d List.mem_cons_self, rfl⟩

theorem head?_exponent {exponent : Option Int} {s rest : List Char}
    (written : ExponentText exponent s) (after : Stops rest) :
    ∀ c, (s ++ rest).head? = some c → Text.digit? c = none ∧ c ≠ '.' := by
  intro c first
  have letters : ∀ letter ∈ ['e', 'E'], Text.digit? letter = none ∧ letter ≠ '.' := by
    simp [Text.digit?]
  cases written with
  | absent =>
    obtain ⟨other, outside⟩ := after c first
    exact ⟨other, fun point => outside (by simp [point])⟩
  | unsigned named _ | plus named _ | minus named _ =>
    rw [← Option.some.inj first]
    exact letters _ named

theorem head?_fraction {fraction : Option (List Nat)} {s rest : List Char}
    (written : FractionText fraction s)
    (after : ∀ c, rest.head? = some c → Text.digit? c = none ∧ c ≠ '.') :
    ∀ c, (s ++ rest).head? = some c → Text.digit? c = none := by
  intro c first
  cases written with
  | absent => exact (after c first).1
  | present _ =>
    rw [← Option.some.inj first]
    rfl

theorem numeral?_append {n : Numeral} {s rest : List Char} (written : NumeralText n s)
    (after : Stops rest) : numeral? ((s ++ rest).map some) = some (n, rest.map some) := by
  cases written with
  | @mk negative whole fraction exponent w f e front back power =>
    have last := exponentPart_append power after
    have middle := fractionPart_append back (head?_exponent power after)
    have first := wholePart_append front (head?_fraction back (head?_exponent power after))
    cases negative with
    | true =>
      simp only [if_true, List.append_assoc, List.cons_append, List.nil_append, List.map_cons]
      simp only [numeral?, first, middle, last, Option.bind_eq_bind, Option.bind_some,
        Option.pure_def]
    | false =>
      obtain ⟨d, small, head⟩ := head?_digits front.toDigitsText (f ++ (e ++ rest))
      simp only [Bool.false_eq_true, if_false, List.append_assoc, List.nil_append]
      cases shape : w ++ (f ++ (e ++ rest)) with
      | nil =>
        rw [shape] at head
        contradiction
      | cons c t =>
        rw [shape] at head first
        have unsigned : c ≠ '-' := by
          rw [Option.some.inj head]
          exact (digitChar_ne_sign small).2
        simp only [List.map_cons] at first ⊢
        simp [-List.map_append, numeral?, unsigned, first, middle, last]

theorem hexDigit?_of_hexDigit {d : Nat} {c : Char} (digit : HexDigit d c) :
    hexDigit? c = some d := by
  obtain ⟨small, rfl | rfl⟩ := digit <;> interval_cases d <;> rfl

theorem unit?_of_unitText {n : Nat} {s : List Char} (written : UnitText n s) :
    ∃ w x y z, s = [w, x, y, z] ∧ unit? [w, x, y, z] = some n := by
  cases written with
  | @mk a b c d w x y z first second third fourth =>
    refine ⟨w, x, y, z, rfl, ?_⟩
    simp [unit?, hexDigit?_of_hexDigit first, hexDigit?_of_hexDigit second,
      hexDigit?_of_hexDigit third, hexDigit?_of_hexDigit fourth]

theorem escaped?_of_mem : ∀ pair ∈ escapes, escaped? pair.1 = some pair.2 ∧ pair.1 ≠ 'u' := by
  decide

theorem pieces_append {p : Piece} {s : List Char} (written : PieceText p s)
    (rest : List (Option Char)) :
    pieces (s.map some ++ rest) = (pieces rest).map fun q => (p :: q.1, q.2) := by
  cases written with
  | @plain c quote slash control =>
    have above : ¬ c.toNat < 32 := Nat.not_lt.mpr control
    simp only [List.map_cons, List.map_nil, List.cons_append, List.nil_append]
    rw [pieces]
    · simp [slash, above]
    · exact quote
    · intro a b x d tail _ same
      exact absurd same slash
    · intro e tail _ same
      exact absurd same slash
  | @short letter c named =>
    obtain ⟨read, other⟩ := escaped?_of_mem (letter, c) named
    simp only [List.map_cons, List.map_nil, List.cons_append, List.nil_append]
    rw [pieces]
    · rw [read, Option.bind_some]
    · intro a b x d tail _ same
      exact absurd same other
  | unit digits =>
    obtain ⟨w, x, y, z, rfl, read⟩ := unit?_of_unitText digits
    simp [pieces, read]

theorem pieces_of_piecesText {ps : List Piece} {s : List Char} (written : PiecesText ps s)
    (rest : List (Option Char)) :
    pieces (s.map some ++ some '"' :: rest) = some (ps, rest) := by
  induction written with
  | nil => rfl
  | cons first others ih =>
    rw [List.map_append, List.append_assoc, pieces_append first, ih]
    rfl

theorem joinPieces_unit {n : Nat} (single : isHigh n = false ∧ isLow n = false)
    (rest : List Piece) :
    joinPieces (.unit n :: rest) = (joinPieces rest).map (Char.ofNat n :: ·) := by
  cases rest with
  | nil => simp [joinPieces, single]
  | cons p rest => cases p <;> simp [joinPieces, single]

theorem not_surrogate (c : Char) : isHigh c.toNat = false ∧ isLow c.toNat = false := by
  have range := Text.toNat_char c
  simp only [isHigh, isLow, Bool.and_eq_false_iff, decide_eq_false_iff_not]
  omega

theorem joinPieces_of_content {ps : List Piece} {s : List Char} (stands : Content ps s) :
    joinPieces ps = some s := by
  induction stands with
  | nil => rfl
  | @cons ps rest c s first others ih =>
    cases first with
    | char => simp [joinPieces, ih]
    | unit single =>
      rw [List.singleton_append, joinPieces_unit (not_surrogate c), ih, Char.ofNat_toNat]
      rfl
    | @pair _ high low first second both =>
      have pair : (isHigh high && isLow low) = true := by
        simp [isHigh, isLow, first, second]
      simp only [List.cons_append, List.nil_append, joinPieces, pair, if_true, ih, ← both,
        Char.ofNat_toNat, Option.map_some]

theorem toNat_ofNat {n : Nat} (single : isHigh n = false ∧ isLow n = false) (fits : n < 0x110000) :
    (Char.ofNat n).toNat = n := by
  have valid : n.isValidChar := by
    simp only [isHigh, isLow, Bool.and_eq_false_iff, decide_eq_false_iff_not] at single
    unfold Nat.isValidChar
    omega
  rw [Char.ofNat, dif_pos valid]
  rfl

theorem content_unit {n : Nat} (single : ¬ (isHigh n || isLow n) = true) (fits : n < 0x10000)
    {rest : List Piece} {s : List Char} (others : Content rest s) :
    Content (.unit n :: rest) (Char.ofNat n :: s) := by
  simp only [Bool.or_eq_true, not_or, Bool.not_eq_true] at single
  have same := toNat_ofNat single (by omega)
  have first : Stands [.unit (Char.ofNat n).toNat] (Char.ofNat n) := .unit (by rwa [same])
  rw [same] at first
  exact .cons first others

theorem content_of_joinPieces {ps : List Piece} (fits : ∀ n, .unit n ∈ ps → n < 0x10000)
    {s : List Char} (joined : joinPieces ps = some s) : Content ps s := by
  fun_induction joinPieces ps generalizing s with
  | case1 =>
    cases joined
    exact .nil
  | case2 c rest ih =>
    obtain ⟨t, later, rfl⟩ := Option.map_eq_some_iff.mp joined
    exact .cons (.char c) (ih (fun n member => fits n (.tail _ member)) later)
  | case3 => contradiction
  | case4 h l rest pair ih =>
    -- Each unit of the pair has ten bits of a character from 0x10000 on.
    obtain ⟨t, later, rfl⟩ := Option.map_eq_some_iff.mp joined
    simp only [isHigh, isLow, Bool.and_eq_true, decide_eq_true_eq] at pair
    have both := toNat_ofNat (n := 0x10000 + (h - 0xD800) * 0x400 + (l - 0xDC00))
      (by simp [isHigh, isLow]; omega) (by omega)
    exact .cons (.pair pair.1 pair.2 both)
      (ih (fun n member => fits n (.tail _ (.tail _ member))) later)
  | case5 => contradiction
  | case6 h l rest other single ih =>
    -- The second unit stays in the list, since it may begin a pair with the next one.
    obtain ⟨t, later, rfl⟩ := Option.map_eq_some_iff.mp joined
    exact content_unit single (fits h (.head _))
      (ih (fun n member => fits n (.tail _ member)) later)
  | case7 => contradiction
  | case8 n rest one single ih =>
    obtain ⟨t, later, rfl⟩ := Option.map_eq_some_iff.mp joined
    exact content_unit single (fits n (.head _))
      (ih (fun n member => fits n (.tail _ member)) later)

theorem unit_lt {n : Nat} {s : List Char} (written : UnitText n s) : n < 0x10000 := by
  cases written with
  | mk first second third fourth =>
    have := first.1
    have := second.1
    have := third.1
    have := fourth.1
    omega

theorem units_lt {ps : List Piece} {s : List Char} (written : PiecesText ps s) :
    ∀ n, .unit n ∈ ps → n < 0x10000 := by
  induction written with
  | nil => nofun
  | cons first others ih =>
    intro n member
    rcases List.mem_cons.mp member with rfl | later
    · cases first with
      | unit digits => exact unit_lt digits
    · exact ih n later

theorem token?_string {content : Option String} {s : List Char}
    (written : StringText content s) (rest : List Char) :
    token? ((s ++ rest).map some) = some (.string content, rest.map some) := by
  have read {ps : List Piece} {t : List Char} (pieces_ : PiecesText ps t) :
      token? (('"' :: (t ++ ['"']) ++ rest).map some) =
        some (.string ((joinPieces ps).map String.ofList), rest.map some) := by
    have found := pieces_of_piecesText pieces_ (rest.map some)
    simp [token?, found]
  cases written with
  | text written stands => rw [read written, joinPieces_of_content stands, Option.map_some]
  | @empty ps t written none_ =>
    cases joined : joinPieces ps with
    | none => rw [read written, joined, Option.map_none]
    | some content => exact absurd (content_of_joinPieces (units_lt written) joined) (none_ content)

theorem token?_numeral {n : Numeral} {s rest : List Char} (written : NumeralText n s)
    (after : Stops rest) :
    token? ((s ++ rest).map some) = some (.number n.number?, rest.map some) := by
  have begins (c : Char) (t : List Char) (front : c = '-' ∨ ∃ d < 10, c = Nat.digitChar d) :
      token? ((c :: t).map some) =
        (numeral? ((c :: t).map some)).map fun p => (.number p.1.number?, p.2) := by
    rcases front with rfl | ⟨d, small, rfl⟩
    · rfl
    · interval_cases d <;> rfl
  have first : ∃ c t, s ++ rest = c :: t ∧ (c = '-' ∨ ∃ d < 10, c = Nat.digitChar d) := by
    cases written with
    | @mk negative whole fraction exponent w f e front back power =>
      cases negative with
      | true => exact ⟨'-', _, rfl, .inl rfl⟩
      | false =>
        obtain ⟨d, small, head⟩ := head?_digits front.toDigitsText (f ++ (e ++ rest))
        cases shape : w ++ (f ++ (e ++ rest)) with
        | nil =>
          rw [shape] at head
          contradiction
        | cons c t =>
          rw [shape] at head
          exact ⟨c, t, by simpa using shape, .inr ⟨d, small, Option.some.inj head⟩⟩
  obtain ⟨c, t, shape, front⟩ := first
  have read := numeral?_append written after
  rw [shape] at read ⊢
  rw [begins c t front, read, Option.map_some]

theorem exists_digits (n : Nat) : ∃ digits, WholeText digits (natText n) ∧
    digitsNumber digits = n ∧ (digits.head? = some 0 → n = 0) := by
  induction n using Nat.strongRecOn with
  | ind n ih =>
    rcases Nat.lt_or_ge n 10 with small | large
    · have text : natText n = [Nat.digitChar n] := Nat.toDigits_of_lt_base small
      have whole : WholeText [n] (natText n) :=
        ⟨⟨by simp, by simpa using small, text⟩, by simp⟩
      exact ⟨[n], whole, by simp [digitsNumber], by simp⟩
    · obtain ⟨digits, whole, value, front⟩ := ih (n / 10) (by omega)
      have text : natText n = natText (n / 10) ++ [Nat.digitChar (n % 10)] :=
        Nat.toDigits_of_base_le (by decide) large
      have unled : (digits ++ [n % 10]).head? ≠ some 0 := by
        intro zero
        rw [List.head?_append, Option.or_of_isSome (by simp [whole.some_])] at zero
        have := front zero
        omega
      refine ⟨digits ++ [n % 10], ⟨⟨by simp, ?_, ?_⟩, fun zero => absurd zero unled⟩, ?_,
        fun zero => absurd zero unled⟩
      · intro d member
        rcases List.mem_append.mp member with earlier | last
        · exact whole.small d earlier
        · rw [List.mem_singleton.mp last]
          omega
      · rw [text, whole.text, List.map_append, List.map_singleton]
      · rw [digitsNumber, List.foldl_append, ← digitsNumber, value, List.foldl_cons, List.foldl_nil]
        omega

theorem numeral_integer {n : Int} (least : -0x8000000000000000 ≤ n)
    (most : n < 0x10000000000000000) :
    ∃ numeral, NumeralText numeral (integerText n) ∧ numeral.number? = some (.integer n) := by
  obtain ⟨digits, whole, value, -⟩ := exists_digits n.natAbs
  refine ⟨⟨decide (n < 0), digits, none, none⟩, ?_, ?_⟩
  · have written : NumeralText ⟨decide (n < 0), digits, none, none⟩ _ := .mk whole .absent .absent
    rcases lt_or_ge n 0 with minus | plus
    · simpa [integerText, minus] using written
    · simpa [integerText, not_lt.mpr plus] using written
  · rcases lt_or_ge n 0 with minus | plus
    · have fits : 0 < n.natAbs ∧ n.natAbs ≤ 0x8000000000000000 := by omega
      have same : -(n.natAbs : Int) = n := by omega
      simp only [Numeral.number?, value, minus, fits, same]
      rfl
    · have fits : n.natAbs < UInt64.size := by
        simp only [UInt64.size]
        omega
      have same : (n.natAbs : Int) = n := by omega
      simp only [Numeral.number?, value, not_lt.mpr plus, fits, same]
      rfl

/-- The tokens of a text, before any text that does not continue a numeral. -/
def Lexes (s : List Char) (ts : List Token) : Prop :=
  ∀ rest fuel, Stops rest → (s ++ rest).length ≤ fuel → ∃ left, rest.length ≤ left ∧
    tokensWith fuel ((s ++ rest).map some) = ts ++ tokensWith left (rest.map some)

theorem tokens_of_lexes {s : List Char} {ts : List Token} (lexes : Lexes s ts) :
    tokens (Text.utf8 s) = ts := by
  obtain ⟨left, -, read⟩ := lexes [] s.length stops_nil (by simp)
  rw [List.append_nil] at read
  rw [tokens, Text.characters_utf8, List.length_map, read]
  cases left <;> exact List.append_nil ts

theorem lexes_nil : Lexes [] [] := fun _ fuel _ enough => ⟨fuel, enough, rfl⟩

theorem Lexes.append {s t : List Char} {ts us : List Token} (first : Lexes s ts)
    (others : Lexes t us) (ends : Stops t) : Lexes (s ++ t) (ts ++ us) := by
  intro rest fuel after enough
  rw [List.append_assoc] at enough ⊢
  obtain ⟨middle, enough, readFirst⟩ := first (t ++ rest) fuel (ends.append after) enough
  obtain ⟨left, enough, readOthers⟩ := others rest middle after enough
  exact ⟨left, enough, by rw [readFirst, readOthers, List.append_assoc]⟩

theorem isSpace_iff {c : Char} : isSpace c = true ↔ c ∈ [' ', '\t', '\n', '\r'] := by
  simp [isSpace, or_assoc]

theorem lexes_blanks {s : List Char} (blanks : Blanks s) {t : List Char} {us : List Token}
    (others : Lexes t us) : Lexes (s ++ t) us := by
  induction s with
  | nil => exact others
  | cons c s ih =>
    intro rest fuel after enough
    cases fuel with
    | zero => exact absurd enough (Nat.not_succ_le_zero _)
    | succ fuel =>
      have blank : isSpace c = true := isSpace_iff.mpr (blanks c List.mem_cons_self)
      obtain ⟨left, fits, read⟩ :=
        ih (fun d later => blanks d (.tail c later)) rest fuel after (Nat.le_of_succ_le_succ enough)
      refine ⟨left, fits, ?_⟩
      simp only [List.cons_append, List.map_cons, tokensWith, blank, if_true]
      exact read

theorem token?_space {c : Char} (blank : isSpace c = true) (rest : List (Option Char)) :
    token? (some c :: rest) = none := by
  have cases_ := isSpace_iff.mp blank
  simp only [List.mem_cons, List.not_mem_nil, or_false] at cases_
  rcases cases_ with rfl | rfl | rfl | rfl <;> rfl

theorem lexes_token {s : List Char} {t : Token}
    (read : ∀ rest, Stops rest → token? ((s ++ rest).map some) = some (t, rest.map some)) :
    Lexes s [t] := by
  intro rest fuel after enough
  cases s with
  | nil =>
    have := read [] stops_nil
    contradiction
  | cons c s =>
    cases fuel with
    | zero => exact absurd enough (Nat.not_succ_le_zero _)
    | succ fuel =>
      have found := read rest after
      rw [List.cons_append, List.map_cons] at found
      have solid : isSpace c = false := by
        cases blank : isSpace c with
        | false => rfl
        | true =>
          rw [token?_space blank] at found
          contradiction
      have fits : rest.length ≤ fuel := by
        simp only [List.length_append, List.length_cons] at enough
        omega
      refine ⟨fuel, fits, ?_⟩
      simp only [List.cons_append, List.map_cons, tokensWith, solid, found, List.nil_append,
        Bool.false_eq_true, if_false]

def marks : List (Char × Token) :=
  [('[', .openArray), (']', .closeArray), ('\x7b', .openObject), ('\x7d', .closeObject),
    (',', .comma), (':', .colon)]

theorem token?_mark (rest : List (Option Char)) :
    ∀ m ∈ marks, token? (some m.1 :: rest) = some (m.2, rest) := by
  simp [marks, token?]

theorem stops_mark (s : List Char) : ∀ m ∈ marks, Stops (m.1 :: s) := by
  intro m member
  have other : ∀ m ∈ marks, Text.digit? m.1 = none ∧ m.1 ∉ ['.', 'e', 'E'] := by decide
  exact stops_cons (other m member) s

theorem lexes_mark {c : Char} {t : Token} (mark : (c, t) ∈ marks) {s : List Char}
    {ts : List Token} (others : Lexes s ts) : Lexes (c :: s) (t :: ts) := by
  intro rest fuel after enough
  cases fuel with
  | zero => exact absurd enough (Nat.not_succ_le_zero _)
  | succ fuel =>
    obtain ⟨left, fits, read⟩ := others rest fuel after (Nat.le_of_succ_le_succ enough)
    have solid : ∀ m ∈ marks, isSpace m.1 = false := by decide
    refine ⟨left, fits, ?_⟩
    simp only [List.cons_append, List.map_cons, tokensWith, solid _ mark, token?_mark _ _ mark,
      read, Bool.false_eq_true, if_false]

theorem stops_blanks {s : List Char} (blanks : Blanks s) {t : List Char} (after : Stops t) :
    Stops (s ++ t) := by
  cases s with
  | nil => exact after
  | cons c s =>
    have other : ∀ c ∈ [' ', '\t', '\n', '\r'], Text.digit? c = none ∧ c ∉ ['.', 'e', 'E'] := by
      simp [Text.digit?]
    exact stops_cons (other c (blanks c List.mem_cons_self)) _

theorem lexes_string {content : Option String} {s : List Char} (written : StringText content s) :
    Lexes s [.string content] := lexes_token fun rest _ => token?_string written rest

theorem lexes_numeral {n : Numeral} {s : List Char} (written : NumeralText n s) :
    Lexes s [.number n.number?] := lexes_token fun _ after => token?_numeral written after

theorem lexes_integer {n : Int} (least : -0x8000000000000000 ≤ n)
    (most : n < 0x10000000000000000) : Lexes (integerText n) [.number (some (.integer n))] := by
  obtain ⟨numeral, written, value⟩ := numeral_integer least most
  rw [← value]
  exact lexes_numeral written

end ControlPlane.Json
