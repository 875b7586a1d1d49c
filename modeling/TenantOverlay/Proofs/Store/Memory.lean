import Mathlib.Tactic.Lemma
import TenantOverlay.Store.Memory

/-!
# What requests do to a store in memory

A request puts a value under no key but that of `StoreRequest.writes?`
(`KeyTree.get?_answer_eq_some`). A deletion empties its key and every key below it, whether or not it
finds anything (`KeyTree.get?_answer_delete`), and no other (`KeyTree.get?_answer_delete_of_not`); a
search for a key that has a value finds that value (`KeyTree.search_of_get?`).
-/

namespace TenantOverlay

/-- The normalised key under which a request may put a value, and the value. -/
def StoreRequest.writes? : StoreRequest → Option (String × String)
  | .create key value => some (normalizeKey key, value)
  | .delete _ | .exists _ | .list _ | .search _ => none

/-- No key is below itself. -/
lemma isBelow_self (key : String) : isBelow key key = false := by
  unfold isBelow
  rw [Option.isSome_eq_false_iff, Option.isNone_iff_eq_none, Option.eq_none_iff_forall_ne_some]
  intro rest e
  have lengths := congrArg List.length (below?_eq_some_iff.1 e)
  simp only [List.length_append, List.length_cons] at lengths
  omega

namespace KeyTree

variable {t : KeyTree} {key k value : String}

/-- What a creation comes to: it is refused and changes nothing, or stores its value where there was
none. -/
lemma create_cases (t : KeyTree) (key value : String) :
    (t.get? (normalizeKey key)).isSome = true ∧
        t.create key value = (.error (.alreadyExists (normalizeKey key)), t) ∨
      t.get? (normalizeKey key) = none ∧
        t.create key value = (.ok (), t.insert (normalizeKey key) value) := by
  simp only [create, SortedMap.contains_eq_isSome]
  cases t.get? (normalizeKey key) with
  | none => exact .inr ⟨rfl, rfl⟩
  | some v => exact .inl ⟨rfl, rfl⟩

/-- A value that is found after a request was there before, or the request has put it there. -/
theorem get?_answer_eq_some {r : StoreRequest} (h : (t.answer r).2.get? k = some value) :
    t.get? k = some value ∨ r.writes? = some (k, value) := by
  cases r with
  | «exists» | list | search => exact .inl h
  | create key v =>
    obtain ⟨-, e⟩ | ⟨-, e⟩ := t.create_cases key v
    · simp only [answer, e] at h
      exact .inl h
    · simp only [answer, e, SortedMap.get?_insert] at h
      split at h
      · cases h
        subst k
        exact .inr rfl
      · exact .inl h
  | delete key =>
    simp only [answer, delete] at h
    split at h
    · rw [SortedMap.get?_filter, Option.filter_eq_some_iff] at h
      exact .inl h.1
    · exact .inl h

/-- What a key holds are its own value and the values below it. -/
theorem holds_eq_true_iff :
    t.holds key = true ↔ ∃ k, (k = key ∨ isBelow key k = true) ∧ (t.get? k).isSome = true := by
  simp only [holds, List.any_eq_true, Bool.or_eq_true, beq_iff_eq]
  constructor
  · rintro ⟨⟨k, value⟩, m, covered⟩
    rw [← SortedMap.get?_eq_some_iff] at m
    exact ⟨k, covered, Option.isSome_of_eq_some m⟩
  · rintro ⟨k, covered, present⟩
    obtain ⟨value, e⟩ := Option.isSome_iff_exists.1 present
    exact ⟨(k, value), t.get?_eq_some_iff.1 e, covered⟩

/-- A deletion leaves nothing at its key and below it. -/
theorem get?_answer_delete (h : k = normalizeKey key ∨ isBelow (normalizeKey key) k = true) :
    (t.answer (.delete key)).2.get? k = none := by
  simp only [answer, delete]
  split
  · rw [SortedMap.get?_filter, Option.filter_eq_none_iff]
    rintro value - kept
    simp only [Bool.and_eq_true, bne_iff_ne, Bool.not_eq_true'] at kept
    rcases h with rfl | below
    · exact kept.1 rfl
    · exact absurd (kept.2.symm.trans below) (by decide)
  -- A key that holds nothing is refused, and has nothing at it or below it.
  · rename_i free
    rw [← Option.not_isSome_iff_eq_none]
    exact fun present => free (holds_eq_true_iff.2 ⟨k, h, present⟩)

/-- What is found after a creation: its value, if there was none under its key. -/
theorem get?_answer_create (t : KeyTree) (key value k : String) :
    (t.answer (.create key value)).2.get? k =
      if normalizeKey key = k then some ((t.get? k).getD value) else t.get? k := by
  obtain ⟨taken, e⟩ | ⟨free, e⟩ := t.create_cases key value
  · simp only [answer, e]
    split
    · subst k
      obtain ⟨v, h⟩ := Option.isSome_iff_exists.1 taken
      rw [h]
      rfl
    · rfl
  · simp only [answer, e, SortedMap.get?_insert]
    split
    · subst k
      rw [free]
      rfl
    · rfl

/-- A deletion leaves alone what is neither its key nor below it. -/
theorem get?_answer_delete_of_not (own : k ≠ normalizeKey key) (h : isBelow (normalizeKey key) k = false) :
    (t.answer (.delete key)).2.get? k = t.get? k := by
  simp only [answer, delete]
  split
  · rw [SortedMap.get?_filter]
    cases t.get? k with
    | none => rfl
    | some v => simp only [Option.filter_some, bne_iff_ne.2 own, h, Bool.not_false, Bool.and_self, if_true]
  · rfl

/-- A search finds the value of its own key, if there is one. -/
theorem search_of_get? (h : t.get? (normalizeKey key) = some value) : t.search key = .ok value := by
  unfold search
  simp only [h]

end KeyTree

end TenantOverlay
