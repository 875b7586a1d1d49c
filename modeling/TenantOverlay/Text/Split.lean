/-!
# Splitting

A text is cut at a separator character. `intercalate_splitOn` says that nothing but the separators
is lost, and `not_mem_of_mem_splitOn` that no part holds one; by `splitOn_eq_iff` there is no other
way to cut a text into such parts. `cut_eq_some_iff` says the same of a single cut.
-/

namespace TenantOverlay.Text

/-- The parts between the separators; there is always at least one. -/
def splitOn (sep : Char) : List Char → List (List Char)
  | [] => [[]]
  | c :: r =>
    if c = sep then [] :: splitOn sep r
    else
      match splitOn sep r with
      | [] => [[c]]
      | part :: parts => (c :: part) :: parts

/-- What stands before and after the first separator. -/
def cut (sep : Char) : List Char → Option (List Char × List Char)
  | [] => none
  | c :: r => if c = sep then some ([], r) else (cut sep r).map fun (a, b) => (c :: a, b)

/-- What follows a given beginning. -/
def dropPrefix? : List Char → List Char → Option (List Char)
  | [], cs => some cs
  | _ :: _, [] => none
  | p :: ps, c :: cs => if p = c then dropPrefix? ps cs else none

theorem splitOn_ne_nil (sep : Char) (cs : List Char) : splitOn sep cs ≠ [] := by
  cases cs with
  | nil => simp [splitOn]
  | cons c r =>
    by_cases h : c = sep
    · simp [splitOn, h]
    · simp only [splitOn, h, if_false]
      split <;> simp

/-- Joining the parts with the separator gives the text back. -/
theorem intercalate_splitOn (sep : Char) (cs : List Char) :
    List.intercalate [sep] (splitOn sep cs) = cs := by
  induction cs with
  | nil => rfl
  | cons c r ih =>
    by_cases h : c = sep
    · subst h
      rw [splitOn, if_pos rfl]
      cases e : splitOn c r with
      | nil => exact absurd e (splitOn_ne_nil c r)
      | cons part parts =>
        rw [e] at ih
        simpa [List.intercalate, List.intersperse] using ih
    · simp only [splitOn, h, if_false]
      cases e : splitOn sep r with
      | nil => exact absurd e (splitOn_ne_nil sep r)
      | cons part parts =>
        rw [e] at ih
        cases parts with
        | nil => simpa [List.intercalate, List.intersperse] using ih
        | cons q qs => simpa [List.intercalate, List.intersperse] using ih

theorem not_mem_of_mem_splitOn {sep : Char} {cs part : List Char} (h : part ∈ splitOn sep cs) :
    sep ∉ part := by
  induction cs generalizing part with
  | nil => simp [splitOn] at h; simp [h]
  | cons c r ih =>
    by_cases hc : c = sep
    · simp only [splitOn, hc, if_true, List.mem_cons] at h
      rcases h with rfl | h
      · simp
      · exact ih h
    · simp only [splitOn, hc, if_false] at h
      cases e : splitOn sep r with
      | nil => exact absurd e (splitOn_ne_nil sep r)
      | cons p ps =>
        rw [e] at h ih
        simp only [List.mem_cons] at h
        rcases h with rfl | h
        · have := ih (List.mem_cons_self (a := p))
          simp [this, Ne.symm hc]
        · exact ih (List.mem_cons_of_mem _ h)

theorem splitOn_of_not_mem {sep : Char} {cs : List Char} (h : sep ∉ cs) : splitOn sep cs = [cs] := by
  induction cs with
  | nil => rfl
  | cons c r ih =>
    rw [List.mem_cons, not_or] at h
    rw [splitOn, if_neg (Ne.symm h.1), ih h.2]

theorem splitOn_append_cons {sep : Char} {part : List Char} (h : sep ∉ part) (cs : List Char) :
    splitOn sep (part ++ sep :: cs) = part :: splitOn sep cs := by
  induction part with
  | nil => rw [List.nil_append, splitOn, if_pos rfl]
  | cons c r ih =>
    rw [List.mem_cons, not_or] at h
    rw [List.cons_append, splitOn, if_neg (Ne.symm h.1), ih h.2]

/-- Splitting gives back parts that hold no separator. -/
theorem splitOn_intercalate {sep : Char} {parts : List (List Char)} (some : parts ≠ [])
    (h : ∀ part ∈ parts, sep ∉ part) : splitOn sep (List.intercalate [sep] parts) = parts := by
  induction parts with
  | nil => exact absurd rfl some
  | cons part parts ih =>
    have first := h part List.mem_cons_self
    cases parts with
    | nil => rw [List.intercalate_singleton, splitOn_of_not_mem first]
    | cons q qs =>
      have rest := ih (List.cons_ne_nil q qs) fun part m => h part (List.mem_cons_of_mem _ m)
      rw [List.intercalate_cons_cons, List.append_assoc, List.singleton_append, splitOn_append_cons first,
        rest]

/-- The parts of a text are those without a separator that make it up. -/
theorem splitOn_eq_iff {sep : Char} {cs : List Char} {parts : List (List Char)} : splitOn sep cs = parts ↔
    parts ≠ [] ∧ cs = List.intercalate [sep] parts ∧ ∀ part ∈ parts, sep ∉ part := by
  constructor
  · rintro rfl
    exact ⟨splitOn_ne_nil sep cs, (intercalate_splitOn sep cs).symm, fun _ => not_mem_of_mem_splitOn⟩
  · rintro ⟨nonempty, rfl, apart⟩
    exact splitOn_intercalate nonempty apart

theorem cut_append {sep : Char} {a : List Char} (apart : sep ∉ a) (b : List Char) :
    cut sep (a ++ sep :: b) = some (a, b) := by
  induction a with
  | nil => rw [List.nil_append, cut, if_pos rfl]
  | cons c a ih =>
    rw [List.mem_cons, not_or] at apart
    rw [List.cons_append, cut, if_neg (Ne.symm apart.1), ih apart.2]
    rfl

/-- A text is not cut when it has no separator. -/
theorem cut_eq_none_iff {sep : Char} {cs : List Char} : cut sep cs = none ↔ sep ∉ cs := by
  induction cs with
  | nil => simp [cut]
  | cons c r ih =>
    by_cases h : c = sep
    · simp [cut, h]
    · simp [cut, h, ih, Ne.symm h]

/-- A text is cut where the separator first stands. -/
theorem cut_eq_some_iff {sep : Char} {cs a b : List Char} :
    cut sep cs = some (a, b) ↔ cs = a ++ sep :: b ∧ sep ∉ a := by
  constructor
  · intro h
    by_cases found : sep ∈ cs
    · obtain ⟨front, back, rfl, first⟩ := List.eq_append_cons_of_mem found
      rw [cut_append first] at h
      cases h
      exact ⟨rfl, first⟩
    · rw [cut_eq_none_iff.2 found] at h
      cases h
  · rintro ⟨rfl, first⟩
    exact cut_append first b

theorem dropPrefix?_eq_some_iff {p cs r : List Char} : dropPrefix? p cs = some r ↔ cs = p ++ r := by
  induction p generalizing cs with
  | nil => simp [dropPrefix?]
  | cons a p ih =>
    cases cs with
    | nil => simp [dropPrefix?]
    | cons c cs =>
      by_cases h : a = c
      · simp [dropPrefix?, h, ih]
      · simp [dropPrefix?, h, Ne.symm h]

end TenantOverlay.Text
