/-!
# Percent encoding

Characters that may not stand in a part of a URL are written by their UTF-8 bytes, each as a percent
sign and two hexadecimal digits. Forms are written in the same way, with a plus sign for a space.
-/

namespace TenantOverlay.Web.Percent

/-- A capital hexadecimal digit. -/
def digit (n : Nat) : Char := (Nat.digitChar (n % 16)).toUpper

/-- A byte as percent sign and two digits. -/
def byte (b : UInt8) : List Char := ['%', digit (b.toNat / 16), digit b.toNat]

/-- A text in which only the characters of a set stand for themselves. -/
def encode (plain : Char → Bool) (cs : List Char) : List Char :=
  cs.flatMap fun c => if plain c then [c] else (String.utf8EncodeChar c).flatMap byte

/-- The value of a hexadecimal digit. -/
def digitValue? (c : Char) : Option Nat :=
  if c.isDigit then some (c.toNat - '0'.toNat)
  else if 'a' ≤ c ∧ c ≤ 'f' then some (c.toNat - 'a'.toNat + 10)
  else if 'A' ≤ c ∧ c ≤ 'F' then some (c.toNat - 'A'.toNat + 10)
  else none

/-- A text with its encoded ASCII characters written as themselves. -/
def decodeAscii : List Char → List Char
  | '%' :: a :: b :: r =>
    match digitValue? a, digitValue? b with
    | some x, some y =>
      if x < 8 then Char.ofNat (x * 16 + y) :: decodeAscii r else '%' :: decodeAscii (a :: b :: r)
    | _, _ => '%' :: decodeAscii (a :: b :: r)
  | c :: r => c :: decodeAscii r
  | [] => []

/-- The characters that stand for themselves in a form. -/
def isFormPlain (c : Char) : Bool :=
  c.isAlphanum || c == '*' || c == '-' || c == '.' || c == '_'

/-- A name or value in a form. -/
def formText (s : String) : List Char :=
  s.toList.flatMap fun c => if c = ' ' then ['+'] else encode isFormPlain [c]

/-- The fields of a form, each a name and a value. -/
def form (fields : List (String × String)) : String :=
  String.ofList (List.intercalate ['&'] (fields.map fun f =>
    formText f.1 ++ '=' :: formText f.2))

end TenantOverlay.Web.Percent
