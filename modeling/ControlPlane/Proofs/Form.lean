import ControlPlane.Proofs.Utf8
import ControlPlane.Url.Percent
import Mathlib.Data.List.TakeDrop
/-!
Reading back what was percent-encoded, and the pairs of a form. A character that is written as it is
must be ASCII and not the percent sign; then decoding gives back the bytes of the text. The
characters that a form pair is written with are none of its delimiters, so pairs that are appended
to a query are read after those that it had.
-/
namespace ControlPlane.Url

open Text

theorem utf8EncodeChar_of_ascii {c : Char} (ascii : c.toNat < 0x80) :
    String.utf8EncodeChar c = [UInt8.ofNat c.toNat] := by
  have small : c.val.toNat ≤ 0x7F := Nat.le_of_lt_succ ascii
  simp only [String.utf8EncodeChar, small, if_true]
  rfl

theorem hexDigit_toNat {n : Nat} (digit : n < 16) : (hexDigit n).toNat < 0x80 := by
  interval_cases n <;> decide

theorem hexValue?_hexDigit {n : Nat} (digit : n < 16) :
    hexValue? (hexDigit n).toNat = some n := by
  interval_cases n <;> rfl

theorem formPlain_hexDigit {n : Nat} (digit : n < 16) : formPlain (hexDigit n) = true := by
  interval_cases n <;> decide

theorem unescapeBytes_of_ne {b : UInt8} (other : b ≠ 0x25) (rest : List UInt8) :
    unescapeBytes (b :: rest) = b :: unescapeBytes rest := by
  rw [unescapeBytes]
  intro x y tail shape
  exact absurd shape other

theorem unescapeBytes_escapeByte (b : UInt8) (rest : List UInt8) :
    unescapeBytes (utf8 (escapeByte b) ++ rest) = b :: unescapeBytes rest := by
  have fits := b.toNat_lt
  have high := hexDigit_toNat (show b.toNat / 16 < 16 by omega)
  have low := hexDigit_toNat (show b.toNat % 16 < 16 by omega)
  have high_byte := toNat_ofNat_byte (show (hexDigit (b.toNat / 16)).toNat < 256 by omega)
  have low_byte := toNat_ofNat_byte (show (hexDigit (b.toNat % 16)).toNat < 256 by omega)
  have percent : String.utf8EncodeChar '%' = [0x25] := rfl
  have value : 16 * (b.toNat / 16) + b.toNat % 16 = b.toNat := Nat.div_add_mod b.toNat 16
  simp only [escapeByte, utf8_cons, utf8_nil, percent, utf8EncodeChar_of_ascii high,
    utf8EncodeChar_of_ascii low, List.cons_append, List.nil_append]
  rw [unescapeBytes, high_byte, low_byte, hexValue?_hexDigit (by omega),
    hexValue?_hexDigit (by omega)]
  dsimp only
  rw [value, UInt8.ofNat_toNat]

theorem unescapeBytes_escapeBytes (bytes rest : List UInt8) :
    unescapeBytes (utf8 (bytes.flatMap escapeByte) ++ rest) = bytes ++ unescapeBytes rest := by
  induction bytes with
  | nil => rfl
  | cons b bytes ih =>
    rw [List.flatMap_cons, utf8_append, List.append_assoc, unescapeBytes_escapeByte, ih]
    rfl

theorem unescapeBytes_escape {set : Char → Bool}
    (covers : ∀ c, set c = false → c.toNat < 0x80 ∧ c ≠ '%') (s : List Char) (rest : List UInt8) :
    unescapeBytes (utf8 (escape set s) ++ rest) = utf8 s ++ unescapeBytes rest := by
  induction s with
  | nil => rfl
  | cons c s ih =>
    rw [escape, List.flatMap_cons, ← escape, utf8_append, List.append_assoc, utf8_cons,
      List.append_assoc]
    unfold escapeChar
    cases inside : set c with
    | true => rw [if_pos rfl, unescapeBytes_escapeBytes, ih]
    | false =>
      obtain ⟨ascii, other⟩ := covers c inside
      have byte := toNat_ofNat_byte (show c.toNat < 256 by omega)
      have passes : UInt8.ofNat c.toNat ≠ 0x25 := by
        intro percent
        apply other
        rw [percent] at byte
        exact Char.toNat_inj.mp byte.symm
      rw [if_neg Bool.false_ne_true, utf8_cons, utf8_nil, List.append_nil,
        utf8EncodeChar_of_ascii ascii, List.singleton_append, unescapeBytes_of_ne passes, ih]
      rfl

theorem mem_formText {s : List Char} {d : Char} (member : d ∈ formText s) :
    formPlain d = true ∨ d = '+' ∨ d = '%' := by
  obtain ⟨c, _, written⟩ := List.mem_flatMap.mp member
  unfold formChar escapeChar at written
  split at written
  · exact .inr (.inl (List.mem_singleton.mp written))
  · split at written
    · obtain ⟨b, _, digit⟩ := List.mem_flatMap.mp written
      have fits := b.toNat_lt
      simp only [escapeByte, List.mem_cons, List.not_mem_nil, or_false] at digit
      rcases digit with rfl | rfl | rfl
      · exact .inr (.inr rfl)
      · exact .inl (formPlain_hexDigit (by omega))
      · exact .inl (formPlain_hexDigit (by omega))
    · rename_i plain
      rw [List.mem_singleton.mp written]
      exact .inl (by simpa using plain)

theorem ne_delimiter {s : List Char} {d : Char} (member : d ∈ formText s) : d ≠ '&' ∧ d ≠ '=' := by
  rcases mem_formText member with plain | rfl | rfl
  · constructor
    · rintro rfl
      contradiction
    · rintro rfl
      contradiction
  · decide
  · decide

def formSet (c : Char) : Bool := !formPlain c && !(c = ' ')

theorem formSet_covers (c : Char) (outside : formSet c = false) : c.toNat < 0x80 ∧ c ≠ '%' := by
  simp only [formSet, Bool.and_eq_false_iff, Bool.not_eq_false', decide_eq_true_eq] at outside
  rcases outside with plain | rfl
  · constructor
    · simp only [formPlain, Bool.or_eq_true, Bool.and_eq_true, decide_eq_true_eq, Char.le_def,
        UInt32.le_iff_toNat_le] at plain
      have val : c.val.toNat = c.toNat := rfl
      rcases plain with ((((((⟨_, most⟩ | ⟨_, most⟩) | ⟨_, most⟩) | rfl) | rfl) | rfl) | rfl)
      · exact Nat.lt_of_le_of_lt most (by decide)
      · exact Nat.lt_of_le_of_lt most (by decide)
      · exact Nat.lt_of_le_of_lt most (by decide)
      · decide
      · decide
      · decide
      · decide
    · rintro rfl
      contradiction
  · decide

theorem map_formText (s : List Char) :
    (formText s).map (fun c => if c = '+' then ' ' else c) = escape formSet s := by
  unfold formText escape
  rw [List.map_flatMap]
  congr 1
  funext c
  have kept : ∀ d, formPlain d = true ∨ d = '%' → (if d = '+' then ' ' else d) = d := by
    intro d other
    apply if_neg
    rintro rfl
    rcases other with plain | percent <;> contradiction
  unfold formChar escapeChar
  by_cases blank : c = ' '
  · subst blank
    rfl
  · rw [if_neg blank]
    by_cases plain : formPlain c = true
    · simp [formSet, plain, kept c (.inl plain)]
    · have inside : formSet c = true := by simp [formSet, plain, blank]
      rw [if_pos (by simpa using plain), if_pos inside, List.map_flatMap]
      congr 1
      funext b
      have fits := b.toNat_lt
      have high := formPlain_hexDigit (show b.toNat / 16 < 16 by omega)
      have low := formPlain_hexDigit (show b.toNat % 16 < 16 by omega)
      simp only [escapeByte, List.map_cons, List.map_nil, kept _ (.inl high), kept _ (.inl low),
        kept '%' (.inr rfl)]

theorem formUntext_formText (s : List Char) : formUntext (formText s) = s := by
  have decoded := unescapeBytes_escape formSet_covers s []
  rw [List.append_nil, unescapeBytes, List.append_nil] at decoded
  rw [formUntext, map_formText, decoded, lenient_utf8]

theorem formUnpair_formPair (p : List Char × List Char) : formUnpair (formPair p) = p := by
  have before : ∀ c ∈ formText p.1, decide (c ≠ '=') = true := fun c member =>
    decide_eq_true (ne_delimiter member).2
  unfold formUnpair formPair
  rw [List.span_eq_takeWhile_dropWhile, List.takeWhile_append_of_pos before,
    List.dropWhile_append_of_pos before]
  simp only [ne_eq, not_true_eq_false, decide_false, Bool.false_eq_true, not_false_eq_true,
    List.takeWhile_cons_of_neg, List.dropWhile_cons_of_neg, List.append_nil, List.drop_succ_cons,
    List.drop_zero, formUntext_formText]

theorem splitOn_ne_nil (sep : Char → Bool) (s : List Char) : splitOn sep s ≠ [] := by
  cases s with
  | nil => simp [splitOn]
  | cons c s =>
    rw [splitOn]
    split
    · simp
    · split <;> simp

theorem splitOn_append {sep : Char → Bool} {d : Char} (delimits : sep d = true)
    (s t : List Char) : splitOn sep (s ++ d :: t) = splitOn sep s ++ splitOn sep t := by
  induction s with
  | nil => simp [splitOn, delimits]
  | cons c s ih =>
    rw [List.cons_append, splitOn, splitOn, ih]
    split
    · rfl
    · cases split : splitOn sep s with
      | nil => exact absurd split (splitOn_ne_nil sep s)
      | cons part rest => rfl

theorem splitOn_of_none {sep : Char → Bool} {s : List Char} (none_ : ∀ c ∈ s, sep c = false) :
    splitOn sep s = [s] := by
  induction s with
  | nil => rfl
  | cons c s ih =>
    rw [splitOn, none_ c List.mem_cons_self, ih fun d later => none_ d (.tail c later)]
    rfl

theorem queryPairs_append (s t : List Char) :
    queryPairs (s ++ '&' :: t) = queryPairs s ++ queryPairs t := by
  unfold queryPairs
  rw [splitOn_append (by decide), List.filter_append, List.map_append]

theorem queryPairs_formPair (p : List Char × List Char) : queryPairs (formPair p) = [p] := by
  have whole : ∀ c ∈ formPair p, decide (c = '&') = false := by
    intro c member
    apply decide_eq_false
    rcases List.mem_append.mp member with name | value
    · exact (ne_delimiter name).1
    · rcases List.mem_cons.mp value with rfl | value
      · decide
      · exact (ne_delimiter value).1
  have filled : (formPair p).isEmpty = false := by simp [formPair]
  unfold queryPairs
  rw [splitOn_of_none whole]
  simp [filled, formUnpair_formPair]

/-- The pairs of a query to which pairs were appended: its own, and those after them. -/
theorem queryPairs_appendPairs (text : List Char) (pairs : List (List Char × List Char)) :
    queryPairs (appendPairs text pairs) = queryPairs text ++ pairs := by
  induction pairs generalizing text with
  | nil => simp [appendPairs]
  | cons p pairs ih =>
    have next : appendPairs text (p :: pairs) =
        appendPairs ((if text.isEmpty then [] else text ++ ['&']) ++ formPair p) pairs := rfl
    rw [next, ih]
    cases text with
    | nil => exact congrArg (· ++ pairs) (queryPairs_formPair p)
    | cons c text =>
      have joined : (if (c :: text).isEmpty then [] else c :: text ++ ['&']) ++ formPair p =
          (c :: text) ++ '&' :: formPair p := by simp
      rw [joined, queryPairs_append, queryPairs_formPair, List.append_assoc]
      rfl

end ControlPlane.Url
