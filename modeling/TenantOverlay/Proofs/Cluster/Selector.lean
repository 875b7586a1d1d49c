import TenantOverlay.Cluster.Selector
import TenantOverlay.Proofs.Text.Trimming

/-!
# What a selector asks for

A selector is cut at its commas, and each part that is not blank is one term. How a term is written is said by
`SelectorTerm.Written`: the first `!=` stands between a name and a value that is not wanted, without one the first
`=` and those that follow it stand between a name and a value, and without that the text is a name. Blanks around
names and values do not count. A selector selects the labels that satisfy all that it asks for
(`Selector.selects_eq_true_iff`).
-/

namespace TenantOverlay

namespace Text

variable {cs : List Char}

/-- A text is a name or a value with blanks around it. -/
def Pads (cs : List Char) (s : String) : Prop :=
  IsTrimmed isBlank s.toList ∧ ∃ before after, Surrounds isBlank before s.toList after cs

lemma ofList_trimBy_eq_iff {s : String} : String.ofList (trimBy isBlank cs) = s ↔ Pads cs s := by
  rw [Pads, ← trimBy_eq_iff, ← String.toList_inj, String.toList_ofList]

end Text

namespace SelectorTerm

open Text

variable {cs a b : List Char}

/-- What stands between a name and a value that is not wanted. -/
def mark : List Char := ['!', '=']

/-- How a term is written. -/
inductive Written : List Char → SelectorTerm → Prop where
  /-- A text without `=` is a name. -/
  | present {name : String} (plain : '=' ∉ name.toList) : Written name.toList (present name)
  /-- A text without `!=` is a name, one `=` or more, and a value that does not start with another. -/
  | equal {left right : List Char} {name value : String} (more : ℕ) (first : '=' ∉ left)
      (last : ∀ c ∈ right.head?, c ≠ '=')
      (unmarked : ¬ mark <:+: left ++ List.replicate (more + 1) '=' ++ right)
      (padsName : Pads left name) (padsValue : Pads right value) :
      Written (left ++ List.replicate (more + 1) '=' ++ right) (equal name value)
  /-- Any other text is a name and a value around its first `!=`. -/
  | different {left right : List Char} {name value : String} (first : ¬ mark <:+: left)
      (padsName : Pads left name) (padsValue : Pads right value) :
      Written (left ++ mark ++ right) (different name value)

/-- Where no `!=` begins, the first one is the first of what follows. -/
lemma cutDifferent_cons {c : Char} (h : ¬ mark <+: c :: cs) :
    cutDifferent (c :: cs) = (cutDifferent cs).map fun (x, y) => (c :: x, y) := by
  cases cs with
  | nil => rfl
  | cons d r =>
    rw [cutDifferent, if_neg]
    rintro ⟨rfl, rfl⟩
    exact h (List.prefix_append mark r)

lemma cutDifferent_append (first : ¬ mark <:+: a) (b : List Char) :
    cutDifferent (a ++ mark ++ b) = some (a, b) := by
  induction a with
  | nil => rfl
  | cons c a ih =>
    rw [List.infix_cons_iff, not_or] at first
    have later : ¬ mark <+: c :: (a ++ mark ++ b) := by
      intro begins
      cases a with
      | nil => simp [mark] at begins
      | cons d a => exact first.1 (by simpa [mark] using begins)
    rw [List.cons_append, List.cons_append, cutDifferent_cons later, ih first.2]
    rfl

/-- A text is not cut when there is no `!=` in it. -/
lemma cutDifferent_eq_none_iff : cutDifferent cs = none ↔ ¬ mark <:+: cs := by
  induction cs with
  | nil => simp [cutDifferent, mark]
  | cons c cs ih =>
    rw [List.infix_cons_iff, not_or]
    by_cases begins : mark <+: c :: cs
    · obtain ⟨r, whole⟩ := begins
      rw [← whole]
      exact iff_of_false nofun fun h => h.1 (List.prefix_append mark r)
    · rw [cutDifferent_cons begins, Option.map_eq_none_iff, ih]
      exact (and_iff_right begins).symm

lemma eq_append_of_cutDifferent (h : cutDifferent cs = some (a, b)) : cs = a ++ mark ++ b ∧ ¬ mark <:+: a := by
  induction cs generalizing a with
  | nil => cases h
  | cons c cs ih =>
    by_cases begins : mark <+: c :: cs
    · obtain ⟨r, whole⟩ := begins
      rw [← whole] at h ⊢
      cases h
      exact ⟨rfl, by simp [mark]⟩
    · rw [cutDifferent_cons begins] at h
      obtain ⟨⟨x, y⟩, later, parts⟩ := Option.map_eq_some_iff.1 h
      cases parts
      obtain ⟨rfl, first⟩ := ih later
      refine ⟨rfl, fun inside => ?_⟩
      rcases List.infix_cons_iff.1 inside with early | inner
      · exact begins (early.trans ⟨mark ++ b, by simp⟩)
      · exact first inner

/-- What is left of a value when the signs before it are taken away starts with none. -/
lemma dropWhile_sign_eq_iff :
    cs.dropWhile (· == '=') = b ↔ (∃ n, cs = List.replicate n '=' ++ b) ∧ ∀ c ∈ b.head?, c ≠ '=' := by
  have sign {n : ℕ} : ∀ c ∈ List.replicate n '=', (c == '=') = true := fun c m =>
    beq_iff_eq.2 (List.eq_of_mem_replicate m)
  constructor
  · rintro rfl
    refine ⟨⟨(cs.takeWhile (· == '=')).length, ?_⟩, fun c m e => ?_⟩
    · have signs : cs.takeWhile (· == '=') = List.replicate (cs.takeWhile (· == '=')).length '=' :=
        List.eq_replicate_iff.2 ⟨rfl, fun c m => by simpa using List.mem_takeWhile_imp m⟩
      rw [← signs, List.takeWhile_append_dropWhile]
    · have kept := List.head?_dropWhile_not (· == '=') cs
      rw [Option.mem_def.1 m] at kept
      subst e
      cases kept
  · rintro ⟨⟨n, rfl⟩, last⟩
    rw [List.dropWhile_append_of_pos sign, Text.dropWhile_eq_self_iff]
    exact fun c m => beq_eq_false_iff_ne.2 (last c m)

/-- What a term's text is read as is what it is written for. -/
theorem parse_eq_iff {term : SelectorTerm} : parse cs = term ↔ Written cs term := by
  constructor
  · rintro rfl
    unfold parse
    cases different : cutDifferent cs with
    | some parts =>
      obtain ⟨rfl, first⟩ := eq_append_of_cutDifferent different
      exact .different first (ofList_trimBy_eq_iff.1 rfl) (ofList_trimBy_eq_iff.1 rfl)
    | none =>
      have unmarked := cutDifferent_eq_none_iff.1 different
      dsimp only
      cases equal : cut '=' cs with
      | some parts =>
        obtain ⟨left, rest⟩ := parts
        obtain ⟨rfl, first⟩ := cut_eq_some_iff.1 equal
        obtain ⟨⟨n, signs⟩, last⟩ := dropWhile_sign_eq_iff.1 (rfl : rest.dropWhile (· == '=') = _)
        have whole : left ++ '=' :: rest = left ++ List.replicate (n + 1) '=' ++ rest.dropWhile (· == '=') := by
          rw [List.replicate_succ, List.append_assoc, List.cons_append, ← signs]
        rw [whole] at unmarked ⊢
        exact .equal n first last unmarked (ofList_trimBy_eq_iff.1 rfl) (ofList_trimBy_eq_iff.1 rfl)
      | none =>
        have plain := cut_eq_none_iff.1 equal
        rw [← String.toList_ofList (l := cs)] at plain
        simpa only [String.toList_ofList] using Written.present plain
  · intro h
    unfold parse
    cases h with
    | @present name plain =>
      have unmarked : ¬ mark <:+: name.toList := fun inside => plain (inside.subset (by simp [mark]))
      rw [cutDifferent_eq_none_iff.2 unmarked]
      dsimp only
      rw [cut_eq_none_iff.2 plain]
      dsimp only
      rw [String.ofList_toList]
    | @equal left right name value more first last unmarked padsName padsValue =>
      have cutAt : cut '=' (left ++ List.replicate (more + 1) '=' ++ right) =
          some (left, List.replicate more '=' ++ right) := by
        rw [List.replicate_succ, List.append_assoc, List.cons_append, cut_append first]
      rw [cutDifferent_eq_none_iff.2 unmarked]
      dsimp only
      rw [cutAt]
      dsimp only
      rw [dropWhile_sign_eq_iff.2 ⟨⟨more, rfl⟩, last⟩]
      exact congrArg₂ equal (ofList_trimBy_eq_iff.2 padsName) (ofList_trimBy_eq_iff.2 padsValue)
    | different first padsName padsValue =>
      rw [cutDifferent_append first]
      exact congrArg₂ different (ofList_trimBy_eq_iff.2 padsName) (ofList_trimBy_eq_iff.2 padsValue)

/-- What labels have to be like for a term. -/
def Satisfied (labels : Labels) : SelectorTerm → Prop
  | present name => ∃ value, labels.get? name = some value
  | equal name value => labels.get? name = some value
  | different name value => labels.get? name ≠ some value

lemma holds_eq_true_iff {labels : Labels} {term : SelectorTerm} :
    term.holds labels = true ↔ term.Satisfied labels := by
  cases term with
  | present name =>
    rw [holds, SortedMap.contains_eq_isSome, Option.isSome_iff_exists]
    rfl
  | equal name value => exact beq_iff_eq
  | different name value => exact bne_iff_ne

end SelectorTerm

namespace Selector

open Text

/-- A term is asked for when it is written in a part between commas. -/
def Asks (selector : String) (term : SelectorTerm) : Prop :=
  ∃ parts part text, selector.toList = List.intercalate [','] parts ∧ (∀ p ∈ parts, ',' ∉ p) ∧ part ∈ parts ∧
    text ≠ "" ∧ Pads part text ∧ term.Written text.toList

variable {selector : String} {term : SelectorTerm} {labels : Labels}

lemma mem_terms_iff : term ∈ terms selector ↔ Asks selector term := by
  simp only [terms, List.mem_map, List.mem_filter, Bool.not_eq_true', List.isEmpty_eq_false_iff]
  constructor
  · rintro ⟨cs, ⟨⟨part, mem, trimmed⟩, some⟩, parsed⟩
    obtain ⟨-, whole, apart⟩ := splitOn_eq_iff.1 (rfl : splitOn ',' selector.toList = _)
    refine ⟨_, part, String.ofList cs, whole, apart, mem, ?_, ?_, ?_⟩
    · exact fun empty => some (by simpa using congrArg String.toList empty)
    · exact ofList_trimBy_eq_iff.1 (congrArg String.ofList trimmed)
    · rw [String.toList_ofList]
      exact SelectorTerm.parse_eq_iff.1 parsed
  · rintro ⟨parts, part, text, whole, apart, mem, some, pads, written⟩
    have split := splitOn_eq_iff.2 ⟨List.ne_nil_of_mem mem, whole, apart⟩
    have trimmed : trimBy isBlank part = text.toList := by
      rw [← ofList_trimBy_eq_iff.2 pads, String.toList_ofList]
    refine ⟨text.toList, ⟨⟨part, split ▸ mem, trimmed⟩, ?_⟩, SelectorTerm.parse_eq_iff.2 written⟩
    exact fun empty => some (String.toList_inj.1 empty)

/-- A selector selects the labels that satisfy every term that it asks for. -/
theorem selects_eq_true_iff :
    selects selector labels = true ↔ ∀ term, Asks selector term → term.Satisfied labels := by
  unfold selects
  rw [List.all_eq_true]
  simp only [mem_terms_iff, SelectorTerm.holds_eq_true_iff]

example : terms "app, tier=a,tier == b,,zone!=c=d" =
    [.present "app", .equal "tier" "a", .equal "tier" "b", .different "zone" "c=d"] := by
  decide +kernel

end Selector

end TenantOverlay
