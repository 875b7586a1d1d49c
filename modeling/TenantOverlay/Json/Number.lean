import TenantOverlay.Json.Basic
import TenantOverlay.Text.Digits

/-!
# Numbers of JSON

A number without point and exponent is whole when it fits into 64 bits. Any other number is read
from its first digits, as many as fit into 64 bits, which become a binary64 number that is then
multiplied or divided by a power of ten. Both steps round, so the result can differ from the
nearest binary64 number by its last bit.
-/

namespace TenantOverlay.Json

/-- The parts of a number's text. -/
structure Numeral where
  negative : Bool
  whole : List Char
  fraction : Option (List Char)
  exponent : Option (Bool × List Char)
  deriving DecidableEq

/-- One or more digits. -/
def digits? (cs : List Char) : Option (List Char × List Char) :=
  let ds := cs.takeWhile Char.isDigit
  if ds.isEmpty then none else some (ds, cs.dropWhile Char.isDigit)

/-- The text of a number at the start of a text: no leading zeros, digits on both sides of a
point, digits after the mark of the exponent. -/
def Numeral.scan? (cs : List Char) : Option (Numeral × List Char) := do
  let (negative, cs) := match cs with
    | '-' :: r => (true, r)
    | _ => (false, cs)
  let (whole, cs) ← digits? cs
  if whole.length > 1 ∧ whole.head? = some '0' then none
  let (fraction, cs) ← match cs with
    | '.' :: r => (digits? r).map fun (ds, r) => (some ds, r)
    | _ => some (none, cs)
  let (exponent, cs) ← match cs with
    | 'e' :: r | 'E' :: r =>
      match r with
      | '+' :: r => (digits? r).map fun (ds, r) => (some (false, ds), r)
      | '-' :: r => (digits? r).map fun (ds, r) => (some (true, ds), r)
      | _ => (digits? r).map fun (ds, r) => (some (false, ds), r)
    | _ => some (none, cs)
  return (⟨negative, whole, fraction, exponent⟩, cs)

/-- Appends digits to a number as long as it stays below `2 ^ 64`; the digits that are left. -/
def accumulate (n : Nat) : List Char → Nat × List Char
  | [] => (n, [])
  | c :: r =>
    let n' := 10 * n + (c.toNat - '0'.toNat)
    if n' < UInt64.size then accumulate n' r else (n, c :: r)

/-- Multiplies by a power of ten in steps of at most 308; none beyond the range. -/
def scale? : Nat → Float → Int → Option Float
  | 0, x, _ => some x
  | fuel + 1, x, e =>
    if e.natAbs ≤ 308 then
      if 0 ≤ e then
        let y := x * Float.ofScientific 1 false e.natAbs
        if y.isInf then none else some y
      else some (x / Float.ofScientific 1 false e.natAbs)
    else if x == 0.0 then some x
    else if 0 ≤ e then none
    else scale? fuel (x / Float.ofScientific 1 false 308) (e + 308)

/-- The digits that count and the power of ten they are multiplied by. -/
def Numeral.significand (n : Numeral) : Nat × Int :=
  let (s, unread) := accumulate 0 n.whole
  let (s, power) := match n.fraction with
    | none => (s, (unread.length : Int))
    | some ds =>
      let (s, left) := accumulate s ds
      (s, (unread.length : Int) - (ds.length - left.length : Nat))
  match n.exponent with
  | none => (s, power)
  | some (negative, ds) =>
    let e : Int := Text.digitsValue ds
    (s, if negative then power - e else power + e)

def Numeral.float? (n : Numeral) : Option Float :=
  let (s, e) := n.significand
  (scale? 8 (UInt64.ofNat s).toFloat e).map fun x => if n.negative then -x else x

/-- The value of a number's text. -/
def Numeral.value (n : Numeral) : Json :=
  let whole := Text.digitsValue n.whole
  let floating := match n.float? with
    | some x => .float x.toBits
    | none => .illFormed
  if n.fraction.isNone ∧ n.exponent.isNone then
    if n.negative then
      if 0 < whole ∧ whole ≤ Text.int64Bound then .int (-(whole : Int)) else floating
    else if whole < UInt64.size then .int whole else floating
  else floating

end TenantOverlay.Json
