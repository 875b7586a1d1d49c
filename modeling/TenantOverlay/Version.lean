import TenantOverlay.Error
import TenantOverlay.Text.Blank
import TenantOverlay.Text.Digits
import TenantOverlay.Text.Split

/-!
# Versions

A version is three numbers, compared one after the other. Its text has the numbers with dots
between them, blanks around it, and at most a plus sign before each number.
-/

namespace TenantOverlay

structure Version where
  major : UInt64
  minor : UInt64
  patch : UInt64
  deriving DecidableEq, Repr

namespace Version

/-- One number of a version. -/
def part? (cs : List Char) : Option UInt64 :=
  (Text.unsigned? UInt64.size cs).map UInt64.ofNat

/-- Reads a version. -/
def parse (text : String) : Result Version :=
  let read : Option Version :=
    match Text.splitOn '.' (Text.trimBy Text.isBlank text.toList) with
    | [a, b, c] => do
      let major ← part? a
      let minor ← part? b
      let patch ← part? c
      return ⟨major, minor, patch⟩
    | _ => none
  match read with
  | some v => .ok v
  | none => .error (.invalidConfig (.malformedVersion text))

/-- The numbers with dots between them. -/
def render (v : Version) : String :=
  toString v.major.toNat ++ "." ++ toString v.minor.toNat ++ "." ++ toString v.patch.toNat

/-- Earlier in the first number that differs. -/
def lt (a b : Version) : Prop :=
  a.major < b.major ∨ a.major = b.major ∧
    (a.minor < b.minor ∨ a.minor = b.minor ∧ a.patch < b.patch)

instance : LT Version := ⟨lt⟩
instance (a b : Version) : Decidable (a < b) := inferInstanceAs (Decidable (_ ∨ _))

/-- Not later. -/
def ble (a b : Version) : Bool := !decide (b < a)

/-- The latest of some versions. -/
def latest : List Version → Option Version
  | [] => none
  | v :: r => match latest r with
    | none => some v
    | some w => some (if v < w then w else v)

end Version

end TenantOverlay
