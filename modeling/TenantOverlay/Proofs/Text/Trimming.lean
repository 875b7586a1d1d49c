import Mathlib.Data.List.DropRight
import TenantOverlay.Text.Blank

/-!
# Trimmed texts

What is left of a text when the characters of a kind are taken off its ends: the part of it that has such
characters at neither end, with nothing but such characters around it. There is only one such part
(`Text.trimBy_eq_iff`).
-/

namespace TenantOverlay.Text

variable {p : Char → Bool} {cs ds before after : List Char}

/-- Neither end of a text has a character of `p`. -/
structure IsTrimmed (p : Char → Bool) (cs : List Char) : Prop where
  head : ∀ c ∈ cs.head?, p c = false
  last : ∀ c ∈ cs.getLast?, p c = false

/-- A text is a part with characters of `p` around it. -/
structure Surrounds (p : Char → Bool) (before ds after cs : List Char) : Prop where
  split : cs = before ++ ds ++ after
  front : ∀ c ∈ before, p c = true
  back : ∀ c ∈ after, p c = true

lemma trimBy_eq_rdropWhile : trimBy p cs = (cs.dropWhile p).rdropWhile p := rfl

lemma surrounds_trimBy (p : Char → Bool) (cs : List Char) :
    Surrounds p (cs.takeWhile p) (trimBy p cs) ((cs.dropWhile p).rtakeWhile p) cs where
  split := by
    rw [List.append_assoc, trimBy_eq_rdropWhile, List.rdropWhile_append_rtakeWhile,
      List.takeWhile_append_dropWhile]
  front _ := List.mem_takeWhile_imp
  back _ := List.mem_rtakeWhile_imp

lemma isTrimmed_trimBy (p : Char → Bool) (cs : List Char) : IsTrimmed p (trimBy p cs) where
  head c m := by
    have split : trimBy p cs ++ (cs.dropWhile p).rtakeWhile p = cs.dropWhile p :=
      List.rdropWhile_append_rtakeWhile
    have first : (cs.dropWhile p).head? = some c := by
      rw [← split, List.head?_append, Option.mem_def.1 m]
      rfl
    have kept := List.head?_dropWhile_not p cs
    rwa [first] at kept
  last c m := by
    have some : trimBy p cs ≠ [] := by
      intro e
      rw [e] at m
      cases m
    have kept : ¬ p ((trimBy p cs).getLast some) = true := List.rdropWhile_last_not p (cs.dropWhile p) some
    rw [List.getLast?_eq_some_getLast some] at m
    cases m
    exact Bool.eq_false_iff.2 kept

/-- Trimming leaves a text that starts as it should as one of its own beginnings. -/
lemma trimBy_eq_prefix (head : ∀ c ∈ cs.head?, p c = false) :
    ∃ rest, cs = trimBy p cs ++ rest ∧ ∀ c ∈ rest, p c = true := by
  have front := dropWhile_eq_self_iff.2 head
  refine ⟨cs.rtakeWhile p, ?_, fun _ => List.mem_rtakeWhile_imp⟩
  rw [trimBy_eq_rdropWhile, front, List.rdropWhile_append_rtakeWhile]

lemma Surrounds.trimBy_eq (h : Surrounds p before ds after cs) (trimmed : IsTrimmed p ds) : trimBy p cs = ds := by
  obtain ⟨rfl, front, back⟩ := h
  rw [trimBy_eq_rdropWhile, List.append_assoc, List.dropWhile_append_of_pos front]
  by_cases empty : ds = []
  · subst empty
    rw [List.nil_append, List.dropWhile_eq_nil_iff.2 back, List.rdropWhile_nil]
  · have head : (ds ++ after).dropWhile p = ds ++ after := by
      rw [dropWhile_eq_self_iff, List.head?_append_of_ne_nil _ empty]
      exact trimmed.head
    have last : ds.reverse.dropWhile p = ds.reverse := by
      rw [dropWhile_eq_self_iff, List.head?_reverse]
      exact trimmed.last
    rw [head, List.rdropWhile, List.reverse_append,
      List.dropWhile_append_of_pos fun c m => back c (List.mem_reverse.1 m), last, List.reverse_reverse]

/-- The text that is left by trimming has characters of `p` at neither end, and there are none but such
characters around it. -/
theorem trimBy_eq_iff : trimBy p cs = ds ↔ IsTrimmed p ds ∧ ∃ before after, Surrounds p before ds after cs := by
  constructor
  · rintro rfl
    exact ⟨isTrimmed_trimBy p cs, _, _, surrounds_trimBy p cs⟩
  · rintro ⟨trimmed, before, after, h⟩
    exact h.trimBy_eq trimmed

end TenantOverlay.Text
