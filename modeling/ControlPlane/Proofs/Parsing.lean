import ControlPlane.Json.Reader
import ControlPlane.Proofs.Lexing
/-!
The outline of a text that the grammar allows is the outline that the text writes. Nothing of it is
a fault, and nothing is left after it.
-/
namespace ControlPlane.Json

def Parses (ts : List Token) (o : Outline) : Prop :=
  ∀ rest fuel, 2 * ts.length ≤ fuel → Outline.value fuel (ts ++ rest) = (o, some rest)

def ParsesItems (ts : List Token) (items : List Outline) : Prop :=
  ∀ rest fuel, 2 * ts.length < fuel →
    Outline.items fuel (ts ++ .closeArray :: rest) = (items, some rest)

def ParsesMembers (ts : List Token) (members : List (Option String × Outline)) : Prop :=
  ∀ rest fuel, 2 * ts.length < fuel →
    Outline.members fuel (ts ++ .closeObject :: rest) = (members, some rest)

theorem parses_one {t : Token} {o : Outline}
    (read : ∀ fuel rest, Outline.value (fuel + 1) (t :: rest) = (o, some rest)) : Parses [t] o := by
  intro rest fuel enough
  obtain ⟨fuel, rfl⟩ : ∃ n, fuel = n + 1 := ⟨fuel - 1, by simp at enough; omega⟩
  exact read fuel rest

theorem parses_noItems : Parses [.openArray, .closeArray] (.array [] true) := by
  intro rest fuel enough
  obtain ⟨fuel, rfl⟩ : ∃ n, fuel = n + 1 := ⟨fuel - 1, by simp at enough; omega⟩
  rfl

theorem parses_noMembers : Parses [.openObject, .closeObject] (.object [] true) := by
  intro rest fuel enough
  obtain ⟨fuel, rfl⟩ : ∃ n, fuel = n + 1 := ⟨fuel - 1, by simp at enough; omega⟩
  rfl

theorem Parses.not_close {ts : List Token} {o : Outline} (parses : Parses ts o)
    (us rest : List Token) : ts ++ us ≠ .closeArray :: rest := by
  cases ts with
  | nil =>
    have read := parses [] 0 (Nat.le_refl 0)
    simp [Outline.value] at read
  | cons t ts =>
    intro same
    rw [List.cons_append] at same
    cases same
    have read := parses [] (2 * (ts.length + 1)) (Nat.le_refl _)
    simp [Outline.value] at read

theorem Parses.one {ts : List Token} {o : Outline} (parses : Parses ts o) : ParsesItems ts [o] := by
  intro rest fuel enough
  obtain ⟨fuel, rfl⟩ : ∃ n, fuel = n + 1 := ⟨fuel - 1, by omega⟩
  rw [Outline.items, parses _ fuel (by omega)]

theorem Parses.more {ts us : List Token} {o : Outline} {items : List Outline}
    (first : Parses ts o) (others : ParsesItems us items) :
    ParsesItems (ts ++ .comma :: us) (o :: items) := by
  intro rest fuel enough
  rw [List.length_append, List.length_cons] at enough
  obtain ⟨fuel, rfl⟩ : ∃ n, fuel = n + 1 := ⟨fuel - 1, by omega⟩
  rw [List.append_assoc, List.cons_append, Outline.items, first _ fuel (by omega)]
  simp only [others rest fuel (by omega)]

theorem parses_items {ts : List Token} {items : List Outline} (each : ParsesItems ts items)
    (filled : ∀ us rest, ts ++ us ≠ .closeArray :: rest) :
    Parses (.openArray :: (ts ++ [.closeArray])) (.array items true) := by
  intro rest fuel enough
  simp only [List.length_cons, List.length_append, List.length_nil] at enough
  obtain ⟨fuel, rfl⟩ : ∃ n, fuel = n + 1 := ⟨fuel - 1, by omega⟩
  rw [List.cons_append, List.append_assoc, List.singleton_append]
  rw [Outline.value, each rest fuel (by omega)]
  · rfl
  · exact fun later same => filled _ _ same

theorem Parses.oneMember {ts : List Token} {o : Outline} (parses : Parses ts o)
    (name : Option String) : ParsesMembers (.string name :: .colon :: ts) [(name, o)] := by
  intro rest fuel enough
  simp only [List.length_cons] at enough
  obtain ⟨fuel, rfl⟩ : ∃ n, fuel = n + 1 := ⟨fuel - 1, by omega⟩
  rw [List.cons_append, List.cons_append, Outline.members, parses _ fuel (by omega)]

theorem Parses.moreMembers {ts us : List Token} {o : Outline}
    {members : List (Option String × Outline)} (first : Parses ts o) (name : Option String)
    (others : ParsesMembers us members) :
    ParsesMembers (.string name :: .colon :: ts ++ .comma :: us) ((name, o) :: members) := by
  intro rest fuel enough
  simp only [List.length_append, List.length_cons] at enough
  obtain ⟨fuel, rfl⟩ : ∃ n, fuel = n + 1 := ⟨fuel - 1, by omega⟩
  rw [List.append_assoc, List.cons_append, List.cons_append, List.cons_append, Outline.members,
    first _ fuel (by omega)]
  simp only [others rest fuel (by omega)]

theorem parses_members {ts : List Token} {name : Option String}
    {members : List (Option String × Outline)}
    (each : ParsesMembers (.string name :: ts) members) :
    Parses (.openObject :: (.string name :: ts ++ [.closeObject])) (.object members true) := by
  intro rest fuel enough
  simp only [List.length_cons, List.length_append, List.length_nil] at enough
  obtain ⟨fuel, rfl⟩ : ∃ n, fuel = n + 1 := ⟨fuel - 1, by omega⟩
  have read := each rest fuel (by simp only [List.length_cons]; omega)
  rw [List.cons_append, List.append_assoc, List.singleton_append]
  rw [Outline.value, read]
  · rfl
  · exact nofun

mutual

theorem exists_tokens {o : Outline} {s : List Char} : Writes o s → ∃ ts, Lexes s ts ∧ Parses ts o
  | .null => ⟨[.null], lexes_token fun _ _ => rfl, parses_one fun _ _ => rfl⟩
  | .true_ => ⟨[.bool true], lexes_token fun _ _ => rfl, parses_one fun _ _ => rfl⟩
  | .false_ => ⟨[.bool false], lexes_token fun _ _ => rfl, parses_one fun _ _ => rfl⟩
  | .integer least most => ⟨_, lexes_integer least most, parses_one fun _ _ => rfl⟩
  | .numeral written => ⟨_, lexes_numeral written, parses_one fun _ _ => rfl⟩
  | .string written => ⟨_, lexes_string written, parses_one fun _ _ => rfl⟩
  | .noItems blanks =>
    ⟨_, lexes_mark (by decide) (lexes_blanks blanks (lexes_mark (by decide) lexes_nil)),
      parses_noItems⟩
  | .noMembers blanks =>
    ⟨_, lexes_mark (by decide) (lexes_blanks blanks (lexes_mark (by decide) lexes_nil)),
      parses_noMembers⟩
  | .items written => by
    obtain ⟨ts, lexes, parses, filled⟩ := exists_tokens_items written
    have ends := stops_mark [] (']', .closeArray) (by decide)
    exact ⟨_, lexes_mark (by decide) (lexes.append (lexes_mark (by decide) lexes_nil) ends),
      parses_items parses filled⟩
  | .members written => by
    obtain ⟨name, ts, lexes, parses⟩ := exists_tokens_members written
    have ends := stops_mark [] ('\x7d', .closeObject) (by decide)
    exact ⟨_, lexes_mark (by decide) (lexes.append (lexes_mark (by decide) lexes_nil) ends),
      parses_members parses⟩

theorem exists_tokens_padded {o : Outline} {s : List Char} :
    Padded o s → ∃ ts, Lexes s ts ∧ Parses ts o
  | .mk left written right => by
    obtain ⟨ts, lexes, parses⟩ := exists_tokens written
    have both := lexes_blanks left
      (lexes.append (lexes_blanks right lexes_nil) (stops_blanks right stops_nil))
    simp only [List.append_nil] at both
    exact ⟨ts, both, parses⟩

theorem exists_tokens_items {items : List Outline} {s : List Char} : WritesItems items s →
    ∃ ts, Lexes s ts ∧ ParsesItems ts items ∧ ∀ us rest, ts ++ us ≠ .closeArray :: rest
  | .one written => by
    obtain ⟨ts, lexes, parses⟩ := exists_tokens_padded written
    exact ⟨ts, lexes, parses.one, parses.not_close⟩
  | .more (t := t) written others => by
    obtain ⟨ts, lexes, parses⟩ := exists_tokens_padded written
    obtain ⟨us, lexesOthers, parsesOthers, -⟩ := exists_tokens_items others
    have ends := stops_mark t (',', .comma) (by decide)
    refine ⟨_, lexes.append (lexes_mark (by decide) lexesOthers) ends, parses.more parsesOthers, ?_⟩
    intro later rest
    rw [List.append_assoc]
    exact parses.not_close _ rest

theorem exists_tokens_member {member : Option String × Outline} {s : List Char} :
    WritesMember member s →
      ∃ ts, Lexes s (.string member.1 :: .colon :: ts) ∧ Parses ts member.2
  | .mk (s := s) left named right written => by
    obtain ⟨ts, lexes, parses⟩ := exists_tokens_padded written
    have colon := stops_mark s (':', .colon) (by decide)
    have after := lexes_blanks right (lexes_mark (c := ':') (t := .colon) (by decide) lexes)
    exact ⟨ts, lexes_blanks left ((lexes_string named).append after (stops_blanks right colon)),
      parses⟩

theorem exists_tokens_members {members : List (Option String × Outline)} {s : List Char} :
    WritesMembers members s →
      ∃ name ts, Lexes s (.string name :: ts) ∧ ParsesMembers (.string name :: ts) members
  | .one written => by
    obtain ⟨ts, lexes, parses⟩ := exists_tokens_member written
    exact ⟨_, _, lexes, parses.oneMember _⟩
  | .more (t := t) written others => by
    obtain ⟨ts, lexes, parses⟩ := exists_tokens_member written
    obtain ⟨name, us, lexesOthers, parsesOthers⟩ := exists_tokens_members others
    have ends := stops_mark t (',', .comma) (by decide)
    exact ⟨_, _, lexes.append (lexes_mark (by decide) lexesOthers) ends,
      parses.moreMembers _ parsesOthers⟩

end

mutual

theorem sound_of_writes {o : Outline} {s : List Char} : Writes o s → o.sound = true
  | .null | .true_ | .false_ | .integer _ _ | .numeral _ | .string _ | .noItems _ | .noMembers _ =>
    rfl
  | .items written => by simpa [Outline.sound] using sound_of_writesItems written
  | .members written => by simpa [Outline.sound] using sound_of_writesMembers written

theorem sound_of_padded {o : Outline} {s : List Char} : Padded o s → o.sound = true
  | .mk _ written _ => sound_of_writes written

theorem sound_of_writesItems {items : List Outline} {s : List Char} :
    WritesItems items s → Outline.soundItems items = true
  | .one written => by simpa [Outline.soundItems] using sound_of_padded written
  | .more written others => by
    simpa [Outline.soundItems] using ⟨sound_of_padded written, sound_of_writesItems others⟩

theorem sound_of_writesMember {member : Option String × Outline} {s : List Char} :
    WritesMember member s → member.2.sound = true
  | .mk _ _ _ written => sound_of_padded written

theorem sound_of_writesMembers {members : List (Option String × Outline)} {s : List Char} :
    WritesMembers members s → Outline.soundMembers members = true
  | .one written => by simpa [Outline.soundMembers] using sound_of_writesMember written
  | .more written others => by
    simpa [Outline.soundMembers] using
      ⟨sound_of_writesMember written, sound_of_writesMembers others⟩

end

/-- The outline of a text is the one that the text writes, to its end. -/
theorem ofTokens_of_padded {o : Outline} {s : List Char} (written : Padded o s) :
    Outline.ofTokens (tokens (Text.utf8 s)) = (o, true) := by
  obtain ⟨ts, lexes, parses⟩ := exists_tokens_padded written
  have read := parses [] (2 * ts.length + 2) (by omega)
  rw [List.append_nil] at read
  rw [tokens_of_lexes lexes, Outline.ofTokens, read]

theorem readText_of_padded {α : Type} (reader : Reader α) {o : Outline} {s : List Char}
    (written : Padded o s) : readText reader (Text.utf8 s) = reader (.text textRoom) o := by
  rw [readText, ofTokens_of_padded written]
  cases shape : reader (.text textRoom) o <;> simp [shape, bind, Except.bind]

end ControlPlane.Json
