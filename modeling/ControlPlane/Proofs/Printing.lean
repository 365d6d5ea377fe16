import ControlPlane.Proofs.Meaning
import Mathlib.Tactic.IntervalCases
/-!
The printed text of a value is a text of it. The grammar is told which numbers are printed as
integers; what a double is printed as is not said here.
-/
namespace ControlPlane.Json

def InRange : Json → Prop
  | .number (.integer n) => -0x8000000000000000 ≤ n ∧ n < 0x10000000000000000
  | .number (.double _ _) => False
  | _ => True

theorem smallHexDigit_eq {n : Nat} (small : n < 16) : smallHexDigit n = Nat.digitChar n := by
  interval_cases n <;> rfl

theorem unitText_control {n : Nat} (control : n < 0x20) :
    UnitText n ['0', '0', smallHexDigit (n / 16), smallHexDigit (n % 16)] := by
  have zero : HexDigit 0 '0' := ⟨by decide, .inl rfl⟩
  have digit {d : Nat} (small : d < 16) : HexDigit d (smallHexDigit d) :=
    ⟨small, .inl (smallHexDigit_eq small)⟩
  have written := UnitText.mk zero zero (digit (d := n / 16) (by omega))
    (digit (d := n % 16) (by omega))
  have value : ((0 * 16 + 0) * 16 + n / 16) * 16 + n % 16 = n := by omega
  rwa [value] at written

theorem stringChar_escape :
    ∀ pair ∈ escapes, pair.1 ≠ '/' → stringChar pair.2 = ['\\', pair.1] := by
  decide

theorem exists_piece (c : Char) : ∃ p, PieceText p (stringChar c) ∧ Stands [p] c := by
  by_cases named : ∃ pair ∈ escapes, pair.1 ≠ '/' ∧ c = pair.2
  · obtain ⟨pair, member, printed, rfl⟩ := named
    refine ⟨.char pair.2, ?_, .char _⟩
    rw [stringChar_escape pair member printed]
    exact .short member
  · simp [escapes] at named
    rcases Nat.lt_or_ge c.toNat 0x20 with control | visible
    · have printed : stringChar c =
          ['\\', 'u', '0', '0', smallHexDigit (c.toNat / 16), smallHexDigit (c.toNat % 16)] := by
        simp [stringChar, named, control]
      exact ⟨.unit c.toNat, printed ▸ .unit (unitText_control control), .unit (by omega)⟩
    · have printed : stringChar c = [c] := by
        simp [stringChar, named, Nat.not_lt.mpr visible]
      exact ⟨.char c, printed ▸ .plain named.1 named.2.1 visible, .char c⟩

theorem exists_pieces (s : List Char) :
    ∃ ps, PiecesText ps (s.flatMap stringChar) ∧ Content ps s := by
  induction s with
  | nil => exact ⟨[], .nil, .nil⟩
  | cons c s ih =>
    obtain ⟨p, written, stands⟩ := exists_piece c
    obtain ⟨ps, others, content⟩ := ih
    exact ⟨p :: ps, .cons written others, .cons stands content⟩

theorem stringText_written (s : String) : StringText (some s) (stringText s) := by
  obtain ⟨ps, written, stands⟩ := exists_pieces s.toList
  have text := StringText.text written stands
  rwa [String.ofList_toList] at text

theorem Writes.padded {o : Outline} {s : List Char} (written : Writes o s) : Padded o s := by
  have both := @Padded.mk o [] s [] (List.forall_mem_nil _) written (List.forall_mem_nil _)
  rwa [List.nil_append, List.append_nil] at both

theorem member_written {o : Outline} {s : List Char} (name : String) (written : Writes o s) :
    WritesMember (some name, o) (stringText name ++ ':' :: s) :=
  @WritesMember.mk _ _ [] _ [] _ (List.forall_mem_nil _) (stringText_written name)
    (List.forall_mem_nil _) written.padded

mutual

theorem text_written : (v : Json) → Throughout InRange v → Writes (Outline.ofJson v) v.text
  | .null, _ => .null
  | .bool true, _ => .true_
  | .bool false, _ => .false_
  | .number (.integer _), fits => .integer fits.1 fits.2
  | .string s, _ => .string (stringText_written s)
  | .array [], _ => .noItems (s := []) nofun
  | .array (v :: rest), fits => .items (itemsText_written (v :: rest) nofun fits.2)
  | .object [], _ => .noMembers (s := []) nofun
  | .object (m :: rest), fits => .members (membersText_written (m :: rest) nofun fits.2)

theorem itemsText_written : (items : List Json) → items ≠ [] → ThroughoutItems InRange items →
    WritesItems (Outline.ofItems items) (itemsText items)
  | [], some_, _ => absurd rfl some_
  | [v], _, fits => .one (text_written v fits.1).padded
  | v :: w :: rest, _, fits =>
    .more (text_written v fits.1).padded (itemsText_written (w :: rest) nofun fits.2)

theorem membersText_written : (members : List (String × Json)) → members ≠ [] →
    ThroughoutMembers InRange members →
    WritesMembers (Outline.ofMemberList members) (membersText members)
  | [], some_, _ => absurd rfl some_
  | [(name, v)], _, fits => .one (member_written name (text_written v fits.1))
  | (name, v) :: m :: rest, _, fits => by
    have first := member_written name (text_written v fits.1)
    have others := membersText_written (m :: rest) nofun fits.2
    have both := WritesMembers.more first others
    simpa [Outline.ofMemberList, membersText] using both

end

theorem renders_text {v : Json} (ordered : Throughout InOrder v) (fits : Throughout InRange v) :
    Renders v v.text :=
  ⟨ordered, _, (text_written v fits).padded, means_ofJson v⟩

end ControlPlane.Json
