import TenantOverlay.Text.Digits

/-!
# Socket addresses

An address and a port in text: four decimal numbers with dots between them, or eight groups of
hexadecimal digits in brackets, where one run of zeros may be left out and the last two groups may
be written as four decimal numbers.
-/

namespace TenantOverlay

/-- An address. -/
inductive IpAddress where
  | v4 (a b c d : Nat)
  /-- Eight groups of 16 bits, and the network that a local address belongs to. -/
  | v6 (groups : List Nat) (scope : Nat)
  deriving DecidableEq, Repr

structure SocketAddress where
  address : IpAddress
  port : Nat
  deriving DecidableEq, Repr

namespace SocketAddress

/-- Reads from the start of a text. -/
abbrev Reader (α : Type) := List Char → Option (α × List Char)

def hexValue? (c : Char) : Option Nat :=
  if c.isDigit then some (c.toNat - '0'.toNat)
  else if 'a' ≤ c ∧ c ≤ 'f' then some (c.toNat - 'a'.toNat + 10)
  else if 'A' ≤ c ∧ c ≤ 'F' then some (c.toNat - 'A'.toNat + 10)
  else none

/-- A given character. -/
def char (c : Char) : Reader Unit
  | d :: r => if c = d then some ((), r) else none
  | [] => none

/-- A decimal number below a bound. -/
def decimal (bound : Nat) : Reader Nat := fun cs =>
  let ds := cs.takeWhile Char.isDigit
  let n := Text.digitsValue ds
  if ds.isEmpty ∨ bound ≤ n then none else some (n, cs.dropWhile Char.isDigit)

/-- A number below 256 of at most three digits, without leading zeros. -/
def octet : Reader Nat := fun cs => do
  let ds := cs.takeWhile Char.isDigit
  if ds.length > 3 ∨ ds.length > 1 ∧ ds.head? = some '0' then none
  decimal 256 cs

/-- Four numbers with dots between them. -/
def quad : Reader (Nat × Nat × Nat × Nat) := fun cs => do
  let (a, cs) ← octet cs
  let ((), cs) ← char '.' cs
  let (b, cs) ← octet cs
  let ((), cs) ← char '.' cs
  let (c, cs) ← octet cs
  let ((), cs) ← char '.' cs
  let (d, cs) ← octet cs
  return ((a, b, c, d), cs)

/-- One to four hexadecimal digits. -/
def group : Reader Nat := fun cs =>
  let ds := cs.takeWhile fun c => (hexValue? c).isSome
  if ds.isEmpty ∨ ds.length > 4 then none
  else some (ds.foldl (fun n c => 16 * n + (hexValue? c).getD 0) 0,
    cs.dropWhile fun c => (hexValue? c).isSome)

/-- A part of an address after a colon, or without one at the start. -/
def separated {α : Type} (first : Bool) (read : Reader α) : Reader α := fun cs =>
  if first then read cs else (char ':' cs).bind fun (_, r) => read r

/-- At most `limit` groups with colons between them, the last two of which may be a quad; whether
they were. -/
def groups (first : Bool) : Nat → List Char → List Nat × Bool × List Char
  | 0, cs => ([], false, cs)
  | limit + 1, cs =>
    match if limit = 0 then none else separated first quad cs with
    | some ((a, b, c, d), r) => ([256 * a + b, 256 * c + d], true, r)
    | none =>
      match separated first group cs with
      | none => ([], false, cs)
      | some (g, r) =>
        let (gs, quads, r) := groups false limit r
        (g :: gs, quads, r)

/-- Eight groups, where a double colon stands for one or more groups of zeros. -/
def groups8 : Reader (List Nat) := fun cs =>
  let (front, quads, r) := groups true 8 cs
  if front.length = 8 then some (front, r)
  else if quads then none
  else do
    let ((), r) ← char ':' r
    let ((), r) ← char ':' r
    let (back, _, r) := groups true (7 - front.length) r
    return (front ++ List.replicate (8 - front.length - back.length) 0 ++ back, r)

/-- A port after a colon. -/
def portPart : Reader Nat := fun cs => do
  let ((), cs) ← char ':' cs
  decimal 65536 cs

/-- An address of eight groups in brackets, and a port. -/
def bracketed : Reader SocketAddress := fun cs => do
  let ((), cs) ← char '[' cs
  let (gs, cs) ← groups8 cs
  let (scope, cs) := match (char '%' cs).bind fun (_, r) => decimal UInt32.size r with
    | some (scope, r) => (scope, r)
    | none => (0, cs)
  let ((), cs) ← char ']' cs
  let (p, cs) ← portPart cs
  return (⟨.v6 gs scope, p⟩, cs)

/-- An address of four numbers, and a port. -/
def dotted : Reader SocketAddress := fun cs => do
  let ((a, b, c, d), cs) ← quad cs
  let (p, cs) ← portPart cs
  return (⟨.v4 a b c d, p⟩, cs)

/-- Reads an address and a port. -/
def parse? (text : String) : Option SocketAddress :=
  match (dotted text.toList).or (bracketed text.toList) with
  | some (a, []) => some a
  | _ => none

end SocketAddress

namespace IpAddress

/-- The length of the run of zeros at the start. -/
private def zeros (gs : List Nat) : Nat := (gs.takeWhile (· == 0)).length

/-- Where the first of the longest runs of zeros starts, and its length. -/
def longestZeros : List Nat → Nat × Nat
  | [] => (0, 0)
  | g :: r =>
    let here := zeros (g :: r)
    let (start, length) := longestZeros r
    if length ≤ here then (0, here) else (start + 1, length)

private def groupTexts (gs : List Nat) : String :=
  String.intercalate ":" (gs.map fun g => String.ofList (Nat.toDigits 16 g))

private def quadText (a b c d : Nat) : String :=
  String.intercalate "." ([a, b, c, d].map toString)

def render : IpAddress → String
  | v4 a b c d => quadText a b c d
  | v6 [0, 0, 0, 0, 0, 0xFFFF, x, y] _ =>
    "::ffff:" ++ quadText (x / 256) (x % 256) (y / 256) (y % 256)
  | v6 gs _ =>
    let (start, length) := longestZeros gs
    if length ≤ 1 then groupTexts gs
    else groupTexts (gs.take start) ++ "::" ++ groupTexts (gs.drop (start + length))

end IpAddress

namespace SocketAddress

/-- The address, in brackets if it has colons, and the port. -/
def render (a : SocketAddress) : String :=
  match a.address with
  | .v4 .. => a.address.render ++ ":" ++ toString a.port
  | .v6 _ scope =>
    let inner := a.address.render ++ if scope = 0 then "" else "%" ++ toString scope
    "[" ++ inner ++ "]:" ++ toString a.port

end SocketAddress

end TenantOverlay
