import Mathlib.Tactic.Lemma
import TenantOverlay.Decimal.Shortest
import TenantOverlay.Text.Digits

/-!
# Numerals that were written

The digits of a natural number denote that number (`digitsValue_natDigits`), and no other numeral of
the same number is written: the first of several digits is not zero.
-/

namespace TenantOverlay.Text

open Decimal

lemma digitsValue_append_digit (cs : List Char) (c : Char) :
    digitsValue (cs ++ [c]) = 10 * digitsValue cs + (c.toNat - '0'.toNat) := by
  unfold digitsValue
  rw [List.foldl_append]
  rfl

lemma digitsValue_digitChar {n : Nat} (h : n < 10) : digitsValue [n.digitChar] = n := by
  show 10 * 0 + (n.digitChar.toNat - 48) = n
  rw [Nat.toNat_digitChar_sub_48_of_lt_ten h]
  omega

/-- Reading the digits of a number gives the number. -/
theorem digitsValue_natDigits (n : Nat) : digitsValue (natDigits n) = n := by
  unfold natDigits
  induction n using Nat.strongRecOn with
  | _ n ih =>
    by_cases small : n < 10
    · rw [Nat.toDigits_of_lt_base small]
      exact digitsValue_digitChar small
    · have last : n % 10 < 10 := Nat.mod_lt n (by decide)
      -- The last digit is the remainder, those before it are the digits of the quotient.
      rw [Nat.toDigits_of_base_le (by decide) (by omega), digitsValue_append_digit, ih (n / 10) (by omega)]
      have value : (n % 10).digitChar.toNat - '0'.toNat = n % 10 :=
        Nat.toNat_digitChar_sub_48_of_lt_ten last
      omega

lemma toList_toString (n : Nat) : (toString n).toList = natDigits n := Nat.toList_repr

/-- No two numbers are written in the same way. -/
lemma toString_injective {m n : Nat} (h : toString m = toString n) : m = n := by
  rw [← digitsValue_natDigits m, ← toList_toString, h, toList_toString, digitsValue_natDigits]

lemma isDigit_natDigits {n : Nat} {c : Char} (h : c ∈ natDigits n) : c.isDigit = true :=
  Nat.isDigit_of_mem_toDigits (by decide) (by decide) h

lemma natDigits_ne_nil (n : Nat) : natDigits n ≠ [] :=
  List.ne_nil_of_length_pos Nat.length_toDigits_pos

lemma natural?_natDigits (n : Nat) : natural? (natDigits n) = some n :=
  natural?_eq_some_iff.2
    ⟨natDigits_ne_nil n, List.all_eq_true.2 fun _ => isDigit_natDigits, digitsValue_natDigits n⟩

/-- The first digit is zero only where it is the only one. -/
lemma head?_natDigits {n : Nat} (h : 1 < (natDigits n).length) : (natDigits n).head? ≠ some '0' := by
  unfold natDigits at *
  induction n using Nat.strongRecOn with
  | _ n ih =>
    by_cases small : n < 10
    · rw [Nat.toDigits_of_lt_base small] at h
      exact absurd h (Nat.lt_irrefl 1)
    · have front : (Nat.toDigits 10 (n / 10)).head? = some _ :=
        List.head?_eq_some_head (natDigits_ne_nil (n / 10))
      -- The first digit is that of the quotient.
      rw [Nat.toDigits_of_base_le (by decide) (by omega), List.head?_append, front, Option.some_or, ← front]
      by_cases tens : n / 10 < 10
      · rw [Nat.toDigits_of_lt_base tens]
        simp only [List.head?_cons, ne_eq, Option.some.injEq, Nat.digitChar_eq_zero]
        omega
      · refine ih (n / 10) (by omega) ?_
        rw [Nat.toDigits_of_base_le (by decide) (by omega), List.length_append]
        have : 0 < (Nat.toDigits 10 (n / 10 / 10)).length := Nat.length_toDigits_pos
        simp only [List.length_cons, List.length_nil]
        omega

end TenantOverlay.Text
