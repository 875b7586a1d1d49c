import TenantOverlay.Json.Number
import TenantOverlay.Json.Printer
import TenantOverlay.Proofs.Text.Digits

/-!
# Whole numbers that were written

`scan?_intText`: the text of a whole number is read up to its end, and `value_intText` says that its
value is the number if that fits into 64 bits.
-/

namespace TenantOverlay.Json

open Decimal Text

/-- What follows a number does not go on with it. -/
def EndsNumber (r : List Char) : Prop :=
  ∀ c ∈ r.head?, c.isDigit = false ∧ c ≠ '.' ∧ c ≠ 'e' ∧ c ≠ 'E'

lemma digits?_natDigits (n : Nat) {r : List Char} (h : EndsNumber r) :
    digits? (natDigits n ++ r) = some (natDigits n, r) := by
  have all : ∀ c ∈ natDigits n, c.isDigit = true := fun c => isDigit_natDigits
  have stop : r.takeWhile Char.isDigit = [] ∧ r.dropWhile Char.isDigit = r := by
    cases r with
    | nil => exact ⟨rfl, rfl⟩
    | cons c r =>
      have notDigit := (h c rfl).1
      exact ⟨List.takeWhile_cons_of_neg (by simp [notDigit]), List.dropWhile_cons_of_neg (by simp [notDigit])⟩
  have first : (natDigits n).isEmpty = false := by simp [natDigits_ne_nil]
  unfold digits?
  rw [List.takeWhile_append_of_pos all, List.dropWhile_append_of_pos all, stop.1, stop.2,
    List.append_nil]
  simp only [first, Bool.false_eq_true, if_false]

/-- The parts of the text of a whole number. -/
def wholeNumeral (i : Int) : Numeral := ⟨i < 0, natDigits i.natAbs, none, none⟩

/-- The text of a number that is not negative does not start with a sign. -/
lemma head?_natDigits_append (n : Nat) (r : List Char) : (natDigits n ++ r).head? ≠ some '-' := by
  cases e : natDigits n with
  | nil => exact absurd e (natDigits_ne_nil n)
  | cons d ds =>
    intro m
    obtain rfl : d = '-' := Option.some.inj m
    have digit : Char.isDigit '-' = true := isDigit_natDigits (e ▸ List.mem_cons_self)
    exact absurd digit (by decide)

/-- The text of a whole number is read up to its end. -/
theorem scan?_intText (i : Int) {r : List Char} (h : EndsNumber r) :
    Numeral.scan? (intText i ++ r) = some (wholeNumeral i, r) := by
  have lead : ¬ ((natDigits i.natAbs).length > 1 ∧ (natDigits i.natAbs).head? = some '0') :=
    fun e => head?_natDigits e.1 e.2
  have digits := digits?_natDigits i.natAbs h
  have unsigned := head?_natDigits_append i.natAbs r
  unfold Numeral.scan? intText wholeNumeral
  -- A number that is not negative is written without a sign, and none is found.
  by_cases negative : i < 0
  · simp only [negative, if_true, List.cons_append, List.nil_append, digits, Option.bind_eq_bind,
      Option.bind_some, if_neg lead]
    split
    · exact absurd rfl (h '.' rfl).2.1
    split
    · exact absurd rfl (h 'e' rfl).2.2.1
    · exact absurd rfl (h 'E' rfl).2.2.2
    · simp
  · simp only [negative, if_false, List.nil_append]
    split
    · rename_i e
      rw [e] at unsigned
      exact absurd rfl unsigned
    simp only [digits, Option.bind_eq_bind, Option.bind_some, if_neg lead]
    split
    · exact absurd rfl (h '.' rfl).2.1
    split
    · exact absurd rfl (h 'e' rfl).2.2.1
    · exact absurd rfl (h 'E' rfl).2.2.2
    · simp

/-- Whole numbers that fit into 64 bits, with a sign or without one. -/
def Fits (i : Int) : Prop := -(int64Bound : Int) ≤ i ∧ i < (UInt64.size : Int)

/-- The value of the text of a whole number that fits is that number. -/
theorem value_wholeNumeral {i : Int} (h : Fits i) : (wholeNumeral i).value = .int i := by
  obtain ⟨least, most⟩ := h
  unfold Numeral.value wholeNumeral
  simp only [digitsValue_natDigits, Option.isNone_none, and_self, if_true, decide_eq_true_eq]
  by_cases negative : i < 0
  · have fits : 0 < i.natAbs ∧ i.natAbs ≤ int64Bound := by omega
    rw [if_pos negative, if_pos fits]
    congr 1
    omega
  · have fits : i.natAbs < UInt64.size := by omega
    rw [if_neg negative, if_pos fits]
    congr 1
    omega

end TenantOverlay.Json
