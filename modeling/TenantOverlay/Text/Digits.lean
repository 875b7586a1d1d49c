/-!
# Decimal numerals

Reading numbers written in ASCII digits. Leading zeros are allowed and no separator is.
-/

namespace TenantOverlay.Text

/-- The value of a run of ASCII digits, most significant first. -/
def digitsValue (cs : List Char) : Nat :=
  cs.foldl (fun n c => 10 * n + (c.toNat - '0'.toNat)) 0

/-- One or more ASCII digits. -/
def natural? (cs : List Char) : Option Nat :=
  if cs ≠ [] ∧ cs.all Char.isDigit then some (digitsValue cs) else none

/-- One or more ASCII digits, after an optional plus sign, denoting a number below `bound`. -/
def unsigned? (bound : Nat) (cs : List Char) : Option Nat :=
  let digits := match cs with
    | '+' :: r => r
    | _ => cs
  (natural? digits).filter (· < bound)

/-- What the whole numbers of 64 bits with a sign are below: `2 ^ 63`. -/
def int64Bound : Nat := 9223372036854775808

/-- An optional sign and one or more ASCII digits, denoting a number from `-bound` to `bound - 1`. -/
def signed? (bound : Nat) : List Char → Option Int
  | '-' :: r => (natural? r).bind fun n => if n ≤ bound then some (-(n : Int)) else none
  | cs => (unsigned? bound cs).map Int.ofNat

theorem natural?_eq_some_iff {cs : List Char} {n : Nat} :
    natural? cs = some n ↔ cs ≠ [] ∧ cs.all Char.isDigit = true ∧ digitsValue cs = n := by
  unfold natural?
  split
  · simp_all
  · next h =>
    simp only [reduceCtorEq, false_iff]
    exact fun e => h ⟨e.1, e.2.1⟩

end TenantOverlay.Text
