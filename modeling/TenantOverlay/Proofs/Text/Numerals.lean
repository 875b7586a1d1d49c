import Mathlib.Data.List.Induction
import Mathlib.Data.Nat.Digits.Defs
import TenantOverlay.Proofs.Text.Digits

/-!
# Numerals

A numeral is one or more decimal digits, after at most one plus sign. Digits may be zeros at the start, so that
a number has many numerals. `unsigned?_eq_some_iff` says that the numerals of numbers below a bound are read
as these numbers, and nothing else is read.
-/

namespace TenantOverlay.Text

variable {cs : List Char} {n : Nat}

/-- The number that a digit stands for. -/
def digitValue (c : Char) : Nat := c.toNat - '0'.toNat

/-- A text has one or more digits and nothing else, and they stand for a number. -/
structure IsDigits (cs : List Char) (n : Nat) : Prop where
  nonempty : cs ≠ []
  digits : ∀ c ∈ cs, c.isDigit = true
  value : Nat.ofDigits 10 (cs.reverse.map digitValue) = n

/-- A text is the digits of a number, after at most one plus sign. -/
inductive IsNumeral : List Char → Nat → Prop where
  | plain {ds : List Char} {n : Nat} : IsDigits ds n → IsNumeral ds n
  | signed {ds : List Char} {n : Nat} : IsDigits ds n → IsNumeral ('+' :: ds) n

lemma digitsValue_eq_ofDigits (cs : List Char) :
    digitsValue cs = Nat.ofDigits 10 (cs.reverse.map digitValue) := by
  induction cs using List.reverseRecOn with
  | nil => rfl
  | append_singleton cs c ih =>
    rw [digitsValue_append_digit, List.reverse_concat, List.map_cons, Nat.ofDigits_cons, ih, Nat.add_comm]
    rfl

lemma natural?_eq_some_iff_isDigits : natural? cs = some n ↔ IsDigits cs n := by
  rw [natural?_eq_some_iff, List.all_eq_true, digitsValue_eq_ofDigits]
  exact ⟨fun ⟨nonempty, digits, value⟩ => ⟨nonempty, digits, value⟩, fun h => ⟨h.nonempty, h.digits, h.value⟩⟩

lemma isDigits_cons_plus (ds : List Char) : ¬ IsDigits ('+' :: ds) n := by
  intro h
  cases h.digits '+' List.mem_cons_self

lemma isNumeral_cons_plus_iff {ds : List Char} : IsNumeral ('+' :: ds) n ↔ IsDigits ds n := by
  constructor
  · intro h
    cases h with
    | plain digits => exact absurd digits (isDigits_cons_plus ds)
    | signed digits => exact digits
  · exact .signed

lemma isNumeral_iff_of_unsigned (unsigned : ∀ ds, cs ≠ '+' :: ds) : IsNumeral cs n ↔ IsDigits cs n := by
  constructor
  · intro h
    cases h with
    | plain digits => exact digits
    | signed digits => exact absurd rfl (unsigned _)
  · exact .plain

/-- The numerals of numbers below a bound are read as these numbers, and nothing else is read. -/
theorem unsigned?_eq_some_iff {bound : Nat} : unsigned? bound cs = some n ↔ IsNumeral cs n ∧ n < bound := by
  unfold unsigned?
  simp only [Option.filter_eq_some_iff, natural?_eq_some_iff_isDigits, decide_eq_true_eq]
  split
  · rw [isNumeral_cons_plus_iff]
  · next unsigned => rw [isNumeral_iff_of_unsigned unsigned]

/-- The digits of a number are a numeral of it. -/
lemma isNumeral_natDigits (n : Nat) : IsNumeral (Decimal.natDigits n) n :=
  .plain (natural?_eq_some_iff_isDigits.1 (natural?_natDigits n))

/-- The characters of a numeral are digits and plus signs. -/
lemma IsNumeral.mem (h : IsNumeral cs n) {c : Char} (m : c ∈ cs) : c = '+' ∨ c.isDigit = true := by
  cases h with
  | plain digits => exact .inr (digits.digits c m)
  | signed digits => exact (List.mem_cons.1 m).imp id (digits.digits c)

end TenantOverlay.Text
