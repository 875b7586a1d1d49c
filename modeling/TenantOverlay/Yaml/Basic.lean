import TenantOverlay.Decimal.Reading

/-!
# YAML values

What a YAML document holds, and what a scalar without quotes stands for. A fractional number keeps
its text.
-/

namespace TenantOverlay

inductive Yaml where
  | null
  | bool (b : Bool)
  | int (i : Int)
  | real (text : String)
  | text (s : String)
  | seq (items : List Yaml)
  | map (entries : List (Yaml × Yaml))
  deriving Inhabited

namespace Yaml

private def digit? (base : Nat) (c : Char) : Option Nat :=
  let n :=
    if c.isDigit then c.toNat - '0'.toNat
    else if 'a' ≤ c ∧ c ≤ 'f' then c.toNat - 'a'.toNat + 10
    else if 'A' ≤ c ∧ c ≤ 'F' then c.toNat - 'A'.toNat + 10
    else base
  if n < base then some n else none

/-- The value of digits in a base. -/
def inBase? (base : Nat) (cs : List Char) : Option Nat :=
  if cs.isEmpty then none
  else cs.foldl (fun n c => do return base * (← n) + (← digit? base c)) (some 0)

/-- A whole number of 64 bits: decimal with an optional sign, hexadecimal after `0x`, octal after
`0o`. -/
def integer? (cs : List Char) : Option Int :=
  match cs with
  | '0' :: 'x' :: ds => ((inBase? 16 ds).filter (· < Text.int64Bound)).map Int.ofNat
  | '0' :: 'o' :: ds => ((inBase? 8 ds).filter (· < Text.int64Bound)).map Int.ofNat
  | _ => Text.signed? Text.int64Bound cs

/-- The names of infinities and of what is not a number. -/
def specialReals : List String :=
  [".inf", ".Inf", ".INF", "+.inf", "+.Inf", "+.INF", "-.inf", "-.Inf", "-.INF", ".nan", "NaN",
    ".NAN"]

/-- What a scalar without quotes stands for. -/
def ofPlain (cs : List Char) : Yaml :=
  let s := String.ofList cs
  if s = "~" ∨ s = "null" then null
  else if s = "true" then bool true
  else if s = "false" then bool false
  else match integer? cs with
    | some i => int i
    | none => if (Decimal.read? cs).isSome ∨ specialReals.contains s then real s else text s

/-- The value of a text key, of several the last. -/
def get? (key : String) : Yaml → Option Yaml
  | map entries =>
    (entries.reverse.find? fun e => match e.1 with
      | text k => k == key
      | _ => false).map (·.2)
  | _ => none

def text? : Yaml → Option String
  | text s => some s
  | _ => none

def items : Yaml → List Yaml
  | seq items => items
  | _ => []

end Yaml

end TenantOverlay
