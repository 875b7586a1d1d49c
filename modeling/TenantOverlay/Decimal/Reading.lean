import TenantOverlay.Text.Digits

/-!
# Reading decimals

The binary64 number nearest to a decimal text: digits with at most one point, an optional sign and
exponent, or the name of an infinity or of what is not a number.
-/

namespace TenantOverlay.Decimal

private def lower (cs : List Char) : String := String.ofList (cs.map Char.toLower)

/-- The number `n * 10 ^ e`, where `n` has a given number of digits. -/
def nearest (digits n : Nat) (e : Int) : Float :=
  if n = 0 ∨ (digits : Int) + e < -400 then 0.0
  else if 400 < (digits : Int) + e then Float.ofScientific 1 false 400
  else if 0 ≤ e then Float.ofScientific n false e.toNat
  else Float.ofScientific n true (-e).toNat

/-- The exponent that follows the digits, if one does. -/
def exponent? : List Char → Option Int
  | [] => some 0
  | c :: r =>
    if c = 'e' ∨ c = 'E' then
      match r with
      | '-' :: ds => (Text.natural? ds).map fun n => -(n : Int)
      | '+' :: ds => (Text.natural? ds).map Int.ofNat
      | ds => (Text.natural? ds).map Int.ofNat
    else none

/-- A number without a sign. -/
def unsigned? (cs : List Char) : Option Float :=
  let whole := cs.takeWhile Char.isDigit
  let rest := cs.dropWhile Char.isDigit
  let (fraction, rest) := match rest with
    | '.' :: r => (r.takeWhile Char.isDigit, r.dropWhile Char.isDigit)
    | r => ([], r)
  let ds := whole ++ fraction
  if ds.isEmpty then
    match lower cs with
    | "inf" | "infinity" => some (1.0 / 0.0)
    | "nan" => some (0.0 / 0.0)
    | _ => none
  else (exponent? rest).map fun e => nearest ds.length (Text.digitsValue ds) (e - fraction.length)

/-- The value of a decimal text. -/
def read? : List Char → Option Float
  | '-' :: r => (unsigned? r).map (- ·)
  | '+' :: r => unsigned? r
  | r => unsigned? r

end TenantOverlay.Decimal
