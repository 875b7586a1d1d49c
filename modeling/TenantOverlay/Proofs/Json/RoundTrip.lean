import TenantOverlay.Json.Parser
import TenantOverlay.Proofs.Json.Number
import TenantOverlay.Proofs.Json.Quoted

/-!
# Values that were written

`parse?_toText`: the text of a value is read back as that value, provided that its numbers are whole
and fit into 64 bits (`Plain`). The fuel of the reader is counted in characters: each value, item and
member takes one at least.
-/

namespace TenantOverlay.Json

mutual

/-- All numbers are whole and fit, and nothing is ill-formed. -/
def Plain : Json → Prop
  | .null | .bool _ | .str _ => True
  | .int i => Fits i
  | .float _ | .illFormed => False
  | .arr items => PlainItems items
  | .obj members => PlainMembers members

/-- The items are plain. -/
def PlainItems : List Json → Prop
  | [] => True
  | j :: js => Plain j ∧ PlainItems js

/-- The values of the members are plain. -/
def PlainMembers : List (String × Json) → Prop
  | [] => True
  | (_, j) :: ms => Plain j ∧ PlainMembers ms

end

/-- A text at whose start something can be read, blanks or not. -/
def Opens (cs : List Char) : Prop := ∃ c r, cs = c :: r ∧ isSpace c = false ∧ c ≠ ']' ∧ c ≠ '}'

lemma skipSpace_cons {c : Char} {r : List Char} (h : isSpace c = false) :
    skipSpace (c :: r) = c :: r :=
  List.dropWhile_cons_of_neg (by simp [h])

lemma Opens.skipSpace_append {cs : List Char} (h : Opens cs) (r : List Char) :
    skipSpace (cs ++ r) = cs ++ r := by
  obtain ⟨c, cs, rfl, blank, -, -⟩ := h
  exact skipSpace_cons blank

lemma opens_natDigits (n : Nat) : Opens (Decimal.natDigits n) := by
  cases e : Decimal.natDigits n with
  | nil => exact absurd e (Text.natDigits_ne_nil n)
  | cons d ds =>
    have digit : d.isDigit = true := Text.isDigit_natDigits (e ▸ List.mem_cons_self)
    refine ⟨d, ds, rfl, ?_, ?_, ?_⟩
    · simp only [isSpace, Bool.or_eq_false_iff, beq_eq_false_iff_ne, ne_eq]
      refine ⟨⟨⟨?_, ?_⟩, ?_⟩, ?_⟩ <;> rintro rfl <;> revert digit <;> decide
    · rintro rfl
      revert digit
      decide
    · rintro rfl
      revert digit
      decide

lemma opens_intText (i : Int) : Opens (intText i) := by
  unfold intText
  split
  · exact ⟨'-', _, rfl, by decide, by decide, by decide⟩
  · exact opens_natDigits i.natAbs

/-- A value that is written starts with no blank and no closing bracket. -/
lemma opens_compact {j : Json} (h : Plain j) : Opens (compact j) := by
  cases j with
  | null => exact ⟨'n', _, rfl, by decide, by decide, by decide⟩
  | bool b => cases b <;> exact ⟨_, _, rfl, by decide, by decide, by decide⟩
  | int i => exact opens_intText i
  | float f => exact h.elim
  | str s => exact ⟨'"', _, rfl, by decide, by decide, by decide⟩
  | arr items => exact ⟨'[', _, rfl, by decide, by decide, by decide⟩
  | obj members => exact ⟨'\x7b', _, rfl, by decide, by decide, by decide⟩
  | illFormed => exact h.elim

lemma Opens.append {cs : List Char} (h : Opens cs) (r : List Char) : Opens (cs ++ r) := by
  obtain ⟨c, cs, rfl, first⟩ := h
  exact ⟨c, cs ++ r, rfl, first⟩

lemma Opens.length_pos {cs : List Char} (h : Opens cs) : 0 < cs.length := by
  obtain ⟨c, cs, rfl, -⟩ := h
  exact Nat.succ_pos _

section Steps

variable {fuel : Nat}

lemma value?_quoted (s : String) (r : List Char) :
    value? (fuel + 1) (quoted s ++ r) = some (.str s, r) := by
  have read := Quoted.decode?_encode s.toList r
  unfold quoted
  rw [List.cons_append, List.append_assoc, List.singleton_append, value?]
  simp only [read, String.ofList_toList]

lemma name?_encode (s : String) (r : List Char) :
    name? (Quoted.encode s.toList ++ '"' :: r) = some (s, r) := by
  unfold name?
  rw [Quoted.decode?_encode]
  dsimp only
  rw [String.ofList_toList]

/-- Nothing but a number starts with a sign or a digit. -/
lemma value?_number {c : Char} {cs : List Char} (h : c = '-' ∨ c.isDigit = true) :
    value? (fuel + 1) (c :: cs) = (Numeral.scan? (c :: cs)).map fun (n, r) => (n.value, r) := by
  rw [value?.eq_def]
  dsimp only
  split
  all_goals first
    | rfl
    | rename_i e
      cases e
      exact absurd h (by decide)

lemma value?_intText {i : Int} (fits : Fits i) {r : List Char} (h : EndsNumber r) :
    value? (fuel + 1) (intText i ++ r) = some (.int i, r) := by
  have scanned := scan?_intText i h
  obtain ⟨c, cs, text, first⟩ : ∃ c cs, intText i ++ r = c :: cs ∧ (c = '-' ∨ c.isDigit = true) := by
    unfold intText
    split
    · exact ⟨'-', _, rfl, .inl rfl⟩
    · cases e : Decimal.natDigits i.natAbs with
      | nil => exact absurd e (Text.natDigits_ne_nil _)
      | cons d ds => exact ⟨d, ds ++ r, rfl, .inr (Text.isDigit_natDigits (e ▸ List.mem_cons_self))⟩
  rw [text] at scanned ⊢
  rw [value?_number first, scanned, Option.map_some]
  dsimp only
  rw [value_wholeNumeral fits]

lemma value?_array {cs : List Char} (h : Opens cs) :
    value? (fuel + 1) ('[' :: cs) = (items? fuel cs).map fun (items, r) => (.arr items, r) := by
  obtain ⟨c, cs, rfl, blank, bracket, -⟩ := h
  rw [value?, skipSpace_cons blank]
  split
  · rename_i e
    cases e
    exact absurd rfl bracket
  · rfl

lemma value?_object {cs : List Char} (h : Opens cs) :
    value? (fuel + 1) ('\x7b' :: cs) = (members? fuel cs).map fun (members, r) => (.obj members, r) := by
  obtain ⟨c, cs, rfl, blank, -, brace⟩ := h
  rw [value?, skipSpace_cons blank]
  split
  · rename_i e
    cases e
    exact absurd rfl brace
  · rfl

end Steps

/-- What is written is read back with some fuel. -/
structure Reads (fuel : Nat) : Prop where
  value {j : Json} {r : List Char} : Plain j → (compact j).length ≤ fuel → EndsNumber r →
    value? fuel (compact j ++ r) = some (j, r)
  items {j : Json} {js : List Json} {r : List Char} : PlainItems (j :: js) →
    (compactItems (j :: js)).length ≤ fuel →
    items? fuel (compactItems (j :: js) ++ r) = some (j :: js, r)
  members {m : String × Json} {ms : List (String × Json)} {r : List Char} : PlainMembers (m :: ms) →
    (compactMembers (m :: ms)).length ≤ fuel →
    members? fuel (compactMembers (m :: ms) ++ r) = some (m :: ms, r)

lemma endsNumber_cons {c : Char} {r : List Char}
    (h : c.isDigit = false ∧ c ≠ '.' ∧ c ≠ 'e' ∧ c ≠ 'E') : EndsNumber (c :: r) := by
  intro d m
  cases m
  exact h

lemma opens_compactItems {j : Json} {js : List Json} (h : Plain j) : Opens (compactItems (j :: js)) := by
  cases js with
  | nil => exact (opens_compact h).append _
  | cons k js => exact (opens_compact h).append _

lemma opens_compactMembers {m : String × Json} {ms : List (String × Json)} :
    Opens (compactMembers (m :: ms)) := by
  obtain ⟨name, j⟩ := m
  cases ms with
  | nil => exact ⟨'"', _, rfl, by decide, by decide, by decide⟩
  | cons k ms => exact ⟨'"', _, rfl, by decide, by decide, by decide⟩

namespace Reads

variable {fuel : Nat}

lemma value_succ (h : Reads fuel) {j : Json} {r : List Char} (plain : Plain j)
    (enough : (compact j).length ≤ fuel + 1) (ends : EndsNumber r) :
    value? (fuel + 1) (compact j ++ r) = some (j, r) := by
  cases j with
  | null => rfl
  | bool b => cases b <;> rfl
  | int i => exact value?_intText plain ends
  | float f => exact plain.elim
  | str s => exact value?_quoted s r
  | illFormed => exact plain.elim
  | arr items =>
    cases items with
    | nil => rfl
    | cons j js =>
      have shorter : (compactItems (j :: js)).length ≤ fuel := by simpa [compact] using enough
      show value? (fuel + 1) ('[' :: (compactItems (j :: js) ++ r)) = _
      rw [value?_array ((opens_compactItems plain.1).append r), h.items plain shorter]
      rfl
  | obj members =>
    cases members with
    | nil => rfl
    | cons m ms =>
      have shorter : (compactMembers (m :: ms)).length ≤ fuel := by simpa [compact] using enough
      show value? (fuel + 1) ('\x7b' :: (compactMembers (m :: ms) ++ r)) = _
      rw [value?_object (opens_compactMembers.append r), h.members plain shorter]
      rfl

lemma items_succ (h : Reads fuel) {j : Json} {js : List Json} {r : List Char}
    (plain : PlainItems (j :: js)) (enough : (compactItems (j :: js)).length ≤ fuel + 1) :
    items? (fuel + 1) (compactItems (j :: js) ++ r) = some (j :: js, r) := by
  obtain ⟨first, others⟩ := plain
  have opens := opens_compact first
  cases js with
  | nil =>
    have shorter : (compact j).length ≤ fuel := by simpa [compactItems] using enough
    have read : value? fuel (compact j ++ ']' :: r) = some (j, ']' :: r) :=
      h.value first shorter (endsNumber_cons (by decide))
    rw [compactItems, List.append_assoc, List.singleton_append, items?, opens.skipSpace_append, read]
    rfl
  | cons k js =>
    simp only [compactItems, List.length_append, List.length_cons] at enough
    have read : value? fuel (compact j ++ ',' :: (compactItems (k :: js) ++ r)) =
        some (j, ',' :: (compactItems (k :: js) ++ r)) :=
      h.value first (by omega) (endsNumber_cons (by decide))
    rw [compactItems, List.append_assoc, List.cons_append, items?, opens.skipSpace_append, read]
    show (items? fuel (compactItems (k :: js) ++ r)).map _ = _
    rw [h.items others (by omega)]
    rfl

/-- A name is read up to the value behind it. -/
lemma members?_quoted (name : String) {cs : List Char} (opens : Opens cs) :
    members? (fuel + 1) (quoted name ++ ':' :: cs) =
      match value? fuel cs with
      | none => none
      | some (value, r) =>
        match skipSpace r with
        | ',' :: r => (members? fuel r).map fun (ms, r) => ((name, value) :: ms, r)
        | '}' :: r => some ([(name, value)], r)
        | _ => none := by
  have text : quoted name ++ ':' :: cs = '"' :: (Quoted.encode name.toList ++ '"' :: ':' :: cs) := by
    simp [quoted]
  have colon : isSpace ':' = false := by decide
  have quote : isSpace '"' = false := by decide
  have after : skipSpace cs = cs := by simpa using opens.skipSpace_append []
  rw [text, members?, skipSpace_cons quote]
  simp only [name?_encode, skipSpace_cons colon]
  -- Both sides are matches on what is read behind the colon.
  generalize skipSpace cs = rest at after ⊢
  subst after
  rfl

lemma members_succ (h : Reads fuel) {m : String × Json} {ms : List (String × Json)} {r : List Char}
    (plain : PlainMembers (m :: ms)) (enough : (compactMembers (m :: ms)).length ≤ fuel + 1) :
    members? (fuel + 1) (compactMembers (m :: ms) ++ r) = some (m :: ms, r) := by
  obtain ⟨name, j⟩ := m
  obtain ⟨first, others⟩ := plain
  have opens := opens_compact first
  cases ms with
  | nil =>
    simp only [compactMembers, List.length_append, List.length_cons] at enough
    have read : value? fuel (compact j ++ '}' :: r) = some (j, '}' :: r) :=
      h.value first (by omega) (endsNumber_cons (by decide))
    rw [compactMembers, List.append_assoc, List.cons_append, List.append_assoc, List.singleton_append,
      members?_quoted name (opens.append _), read]
    rfl
  | cons k ms =>
    simp only [compactMembers, List.length_append, List.length_cons] at enough
    have read : value? fuel (compact j ++ ',' :: (compactMembers (k :: ms) ++ r)) =
        some (j, ',' :: (compactMembers (k :: ms) ++ r)) :=
      h.value first (by omega) (endsNumber_cons (by decide))
    rw [compactMembers, List.append_assoc, List.cons_append, List.append_assoc, List.cons_append,
      members?_quoted name (opens.append _), read]
    show (members? fuel (compactMembers (k :: ms) ++ r)).map _ = _
    rw [h.members others (by omega)]
    rfl

end Reads

/-- As much fuel as there are characters is enough. -/
theorem reads (fuel : Nat) : Reads fuel := by
  -- Without fuel there is nothing to read, for every value has a character.
  induction fuel with
  | zero =>
    refine ⟨fun plain enough => ?_, fun plain enough => ?_, fun plain enough => ?_⟩
    · exact absurd (opens_compact plain).length_pos (Nat.not_lt.2 enough)
    · exact absurd (opens_compactItems plain.1).length_pos (Nat.not_lt.2 enough)
    · exact absurd opens_compactMembers.length_pos (Nat.not_lt.2 enough)
  | succ fuel ih => exact ⟨ih.value_succ, ih.items_succ, ih.members_succ⟩

/-- The text of a plain value is read back. -/
theorem parse?_toText {j : Json} (h : Plain j) : parse? j.toText = some j := by
  have start : skipSpace (compact j) = compact j := by
    simpa using (opens_compact h).skipSpace_append []
  have read : value? (2 * (compact j).length + 2) (compact j ++ []) = some (j, []) :=
    (reads _).value h (by omega) nofun
  rw [List.append_nil] at read
  unfold parse? toText
  simp only [String.toList_ofList, start, read]
  rfl

end TenantOverlay.Json
