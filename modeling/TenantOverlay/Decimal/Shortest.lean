/-!
# The shortest decimal of a binary number

A finite binary64 number is `m * 2 ^ q`. Its shortest decimal is the one with the fewest digits
among the decimals that round to it, and of those the nearest. `Digits` holds the result; how it is
written is decided by `Digits.positional` (never an exponent) and `Digits.scientific` (an exponent
outside the range of sixteen digits before and four zeros after the point).
-/

namespace TenantOverlay.Decimal

/-- A finite binary64 number without its sign: `mantissa * 2 ^ exponent`. -/
structure Binary where
  mantissa : Nat
  exponent : Int
  deriving DecidableEq, Repr

/-- The sign bit. -/
def isNegative (bits : UInt64) : Bool := bits >>> 63 != 0

/-- The bit that a normal number has besides the stored ones: `2 ^ 52`. -/
def leadingBit : Nat := 4503599627370496

/-- The finite number that a bit pattern stands for, if it is one. -/
def Binary.ofBits? (bits : UInt64) : Option Binary :=
  let biased := ((bits >>> 52) &&& 0x7FF).toNat
  let fraction := (bits &&& 0xFFFFFFFFFFFFF).toNat
  if biased = 0x7FF then none
  else if biased = 0 then some ⟨fraction, -1074⟩
  else some ⟨fraction + leadingBit, (biased : Int) - 1075⟩

/-- The number as a quotient of whole numbers, scaled by `2 ^ 2` so that the limits of its rounding
interval are whole numbers over the same denominator: lower limit, value, upper limit,
denominator. -/
def Binary.interval (b : Binary) : Nat × Nat × Nat × Nat :=
  let below := if b.mantissa = leadingBit ∧ b.exponent > -1074 then 1 else 2
  let up := Nat.pow 2 (b.exponent - 2).toNat
  let den := Nat.pow 2 (2 - b.exponent).toNat
  ((4 * b.mantissa - below) * up, 4 * b.mantissa * up, (4 * b.mantissa + 2) * up, den)

/-- Decimal digits, without zeros at the end, and the power of ten of the last one. -/
structure Digits where
  coefficient : Nat
  exponent : Int
  deriving DecidableEq, Repr

/-- The least `k` with `num < den * 10 ^ k`, found among the numbers up to the fuel. -/
private def magnitudeUp (num : Nat) : Nat → Nat → Nat → Nat
  | 0, _, k => k
  | fuel + 1, den, k => if num < den then k else magnitudeUp num fuel (den * 10) (k + 1)

/-- The greatest `k` with `num * 10 ^ k < den`, found among the numbers up to the fuel. -/
private def magnitudeDown (den : Nat) : Nat → Nat → Nat → Nat
  | 0, _, k => k
  | fuel + 1, num, k =>
    if num * 10 < den then magnitudeDown den fuel (num * 10) (k + 1) else k

/-- The power of ten just above `num / den`. -/
def magnitude (num den : Nat) : Int :=
  if den ≤ num then magnitudeUp num 400 den 0 else -(magnitudeDown den 400 num 0 : Int)

/-- `num / den` as `n / d * 10 ^ p`. -/
private def onGrid (num den : Nat) (p : Int) : Nat × Nat :=
  (num * Nat.pow 10 (-p).toNat, den * Nat.pow 10 p.toNat)

/-- The point of the grid `10 ^ p` that lies in the rounding interval and is nearest to the value. -/
private def nearest? (b : Binary) (p : Int) : Option Nat :=
  let (lo, v, hi, den) := b.interval
  let inside (n : Nat) : Bool :=
    let (lo', d) := onGrid lo den p
    let (hi', _) := onGrid hi den p
    if b.mantissa % 2 = 0 then lo' ≤ n * d && n * d ≤ hi' else lo' < n * d && n * d < hi'
  let (v', d) := onGrid v den p
  let low := v' / d
  let toLow := v' - low * d
  let toHigh := (low + 1) * d - v'
  match inside low && low != 0, inside (low + 1) with
  | true, true =>
    if toLow < toHigh || (toLow == toHigh && low % 2 == 0) then some low else some (low + 1)
  | true, false => some low
  | false, true => some (low + 1)
  | false, false => none

private def dropZeros : Nat → Nat → Int → Digits
  | 0, n, e => ⟨n, e⟩
  | fuel + 1, n, e => if n ≠ 0 ∧ n % 10 = 0 then dropZeros fuel (n / 10) (e + 1) else ⟨n, e⟩

/-- The shortest decimal of a number other than zero. -/
def shortest (b : Binary) : Digits :=
  let (_, v, _, den) := b.interval
  let top := magnitude v den
  let found := (List.range 17).findSome? fun (i : Nat) =>
    let p := top - ((i : Int) + 1)
    (nearest? b p).map fun n => (n, p)
  match found with
  | some (n, e) => dropZeros 20 n e
  | none => ⟨0, 0⟩

/-- The digits of a natural number. -/
def natDigits (n : Nat) : List Char := Nat.toDigits 10 n

/-- Digits with a point where it belongs, and no exponent; a whole number has `whole` after it. -/
def Digits.positional (whole : List Char) (d : Digits) : List Char :=
  let ds := natDigits d.coefficient
  let point := (ds.length : Int) + d.exponent
  if 0 ≤ d.exponent then ds ++ List.replicate d.exponent.toNat '0' ++ whole
  else if 0 < point then ds.take point.toNat ++ '.' :: ds.drop point.toNat
  else '0' :: '.' :: (List.replicate (-point).toNat '0' ++ ds)

/-- Positional from `10 ^ -5` to `10 ^ 16`, with an exponent outside. -/
def Digits.scientific (d : Digits) : List Char :=
  let ds := natDigits d.coefficient
  let point := (ds.length : Int) + d.exponent
  if -5 < point ∧ point ≤ 16 then d.positional ['.', '0']
  else
    let shown := match ds with
      | [] => []
      | [c] => [c]
      | c :: r => c :: '.' :: r
    let power := point - 1
    shown ++ 'e' :: (if power < 0 then ['-'] else []) ++ natDigits power.natAbs

/-- The text of a finite number by one of the two ways of writing digits; none for an infinity and
for what is not a number. -/
def render? (write : Digits → List Char) (zero : List Char) (bits : UInt64) : Option (List Char) :=
  (Binary.ofBits? bits).map fun b =>
    (if isNegative bits then ['-'] else []) ++
      if b.mantissa = 0 then zero else write (shortest b)

/-- `1.0`, `0.1`, `1e16`, `5e-324`. -/
def scientific? (bits : UInt64) : Option (List Char) :=
  render? Digits.scientific ['0', '.', '0'] bits

/-- `1`, `0.1`, `10000000000000000`; infinities are `inf` and `-inf`, and no number is `NaN`. -/
def plain (bits : UInt64) : List Char :=
  match render? (Digits.positional []) ['0'] bits with
  | some cs => cs
  | none =>
    if bits &&& 0xFFFFFFFFFFFFF != 0 then ['N', 'a', 'N']
    else if isNegative bits then ['-', 'i', 'n', 'f'] else ['i', 'n', 'f']

end TenantOverlay.Decimal
