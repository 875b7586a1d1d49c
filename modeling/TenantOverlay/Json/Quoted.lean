/-!
# Quoted texts of JSON

`encode` writes what stands between the quotes, `decode?` reads it up to and with the closing quote.
-/

namespace TenantOverlay.Json.Quoted

/-- The digit for a number below sixteen. -/
def hexDigit (n : Nat) : Char := Nat.digitChar (n % 16)

def hexValue? (c : Char) : Option Nat :=
  if c.isDigit then some (c.toNat - '0'.toNat)
  else if 'a' ≤ c ∧ c ≤ 'f' then some (c.toNat - 'a'.toNat + 10)
  else if 'A' ≤ c ∧ c ≤ 'F' then some (c.toNat - 'A'.toNat + 10)
  else none

/-- One character between the quotes: the quote, the backslash and the control characters below the
space are escaped. -/
def encodeChar (c : Char) : List Char :=
  if c = '"' then ['\\', '"']
  else if c = '\\' then ['\\', '\\']
  else if c = '\n' then ['\\', 'n']
  else if c = '\r' then ['\\', 'r']
  else if c = '\t' then ['\\', 't']
  else if c.toNat = 8 then ['\\', 'b']
  else if c.toNat = 12 then ['\\', 'f']
  else if c.toNat < 32 then ['\\', 'u', '0', '0', hexDigit (c.toNat / 16), hexDigit c.toNat]
  else [c]

def encode (cs : List Char) : List Char := cs.flatMap encodeChar

/-- The number of four hexadecimal digits. -/
def unit? (a b c d : Char) : Option Nat := do
  let a ← hexValue? a
  let b ← hexValue? b
  let c ← hexValue? c
  let d ← hexValue? d
  return ((a * 16 + b) * 16 + c) * 16 + d

/-- A piece of a quoted text: a character, or an escaped UTF-16 unit. -/
inductive Piece where
  | char (c : Char)
  | unit (u : Nat)
  deriving DecidableEq, Repr

def isHigh (u : Nat) : Bool := 0xD800 ≤ u && u < 0xDC00
def isLow (u : Nat) : Bool := 0xDC00 ≤ u && u < 0xE000

/-- The characters of the pieces, where two units that form a pair are one character; none when a
surrogate is not paired. -/
def assemble : List Piece → Option (List Char)
  | [] => some []
  | .char c :: r => (assemble r).map (c :: ·)
  | .unit u :: .unit v :: r =>
    if isHigh u then
      if isLow v then
        (assemble r).map (Char.ofNat (0x10000 + (u - 0xD800) * 0x400 + (v - 0xDC00)) :: ·)
      else none
    else if isLow u then none
    else (assemble (.unit v :: r)).map (Char.ofNat u :: ·)
  | .unit u :: r => if isHigh u || isLow u then none else (assemble r).map (Char.ofNat u :: ·)

/-- The character after a backslash, where it stands for a single one. -/
def escape? : Char → Option Char
  | '"' => some '"'
  | '\\' => some '\\'
  | '/' => some '/'
  | 'b' => some (Char.ofNat 8)
  | 'f' => some (Char.ofNat 12)
  | 'n' => some '\n'
  | 'r' => some '\r'
  | 't' => some '\t'
  | _ => none

def prepend (p : Piece) : List Piece × List Char → List Piece × List Char
  | (ps, r) => (p :: ps, r)

/-- The pieces up to the closing quote. A control character below the space, an unknown escape or a
missing quote is no text at all. -/
def pieces? : List Char → Option (List Piece × List Char)
  | [] => none
  | '"' :: r => some ([], r)
  | '\\' :: 'u' :: a :: b :: c :: d :: r =>
    (unit? a b c d).bind fun u => (pieces? r).map (prepend (.unit u))
  | '\\' :: c :: r => (escape? c).bind fun e => (pieces? r).map (prepend (.char e))
  | c :: r => if c.toNat < 32 ∨ c = '\\' then none else (pieces? r).map (prepend (.char c))

/-- The text up to the closing quote, `none` for its characters when a surrogate is not paired. -/
def decode? (cs : List Char) : Option (Option (List Char) × List Char) :=
  (pieces? cs).map fun (ps, r) => (assemble ps, r)

end TenantOverlay.Json.Quoted
