import TenantOverlay.Text.Blank
import TenantOverlay.Text.Split

/-!
# Certificates and keys in text

A PEM text has sections between a `BEGIN` line and an `END` line of the same label, with the bytes in
base 64 between them. What stands outside the sections does not count.
-/

namespace TenantOverlay.Web.Pem

/-- The labels of sections that are read; the others are skipped. -/
def labels : List String :=
  ["CERTIFICATE", "PUBLIC KEY", "RSA PRIVATE KEY", "PRIVATE KEY", "EC PRIVATE KEY", "X509 CRL",
    "CERTIFICATE REQUEST", "ECHCONFIG"]

structure Section where
  label : String
  bytes : List Nat
  deriving DecidableEq, Repr

namespace Section

def isCertificate (s : Section) : Bool := s.label == "CERTIFICATE"

def isPrivateKey (s : Section) : Bool :=
  ["RSA PRIVATE KEY", "PRIVATE KEY", "EC PRIVATE KEY"].contains s.label

end Section

/-! ### Base 64 -/

def sextet? (c : Char) : Option Nat :=
  if 'A' ≤ c ∧ c ≤ 'Z' then some (c.toNat - 'A'.toNat)
  else if 'a' ≤ c ∧ c ≤ 'z' then some (c.toNat - 'a'.toNat + 26)
  else if c.isDigit then some (c.toNat - '0'.toNat + 52)
  else if c = '+' then some 62
  else if c = '/' then some 63
  else none

/-- The bytes of groups of four sextets, the last of which may be shorter. -/
def bytesOf : List Nat → Option (List Nat)
  | [] => some []
  | [_] => none
  | [a, b] => some [a * 4 + b / 16]
  | [a, b, c] => some [a * 4 + b / 16, b % 16 * 16 + c / 4]
  | a :: b :: c :: d :: r => do
    let rest ← bytesOf r
    return (a * 4 + b / 16) :: (b % 16 * 16 + c / 4) :: (c % 4 * 64 + d) :: rest

/-- The bytes of a text in base 64, in which blanks do not count. -/
def decode? (cs : List Char) : Option (List Nat) := do
  let cs := cs.filter fun c => !Text.isBlank c
  let digits := cs.takeWhile (· != '=')
  let padding := cs.drop digits.length
  if padding.length > 2 ∨ padding.any (· != '=') ∨ cs.length % 4 ≠ 0 then none
  let sextets ← digits.mapM sextet?
  bytesOf sextets

/-! ### Sections -/

/-- The label that a line opens a section with: none when it opens none, and `some none` when its
end is malformed. -/
def opens? (line : List Char) : Option (Option (List Char)) :=
  (Text.dropPrefix? "-----BEGIN ".toList line).map fun rest =>
    let body := (rest.reverse.dropWhile fun c => c == '\r' || c == ' ')
    if (body.takeWhile (· == '-')).length = 5 then some (body.drop 5).reverse else none

/-- Whether a line closes the section of a label. -/
def closes (label line : List Char) : Bool :=
  (Text.dropPrefix? ("-----END ".toList ++ label ++ "-----".toList) line).isSome

/-- The sections of the lines, after those of an open section. A section that is not closed, a
malformed opening line and text that is not in base 64 make the whole unreadable. -/
def sectionsOf? : Option (List Char × List Char) → List (List Char) → Option (List Section)
  | none, [] => some []
  | some _, [] => none
  | state, line :: rest =>
    match opens? line with
    | some none => none
    | some (some label) => sectionsOf? (some (label, [])) rest
    | none =>
      match state with
      | none => sectionsOf? none rest
      | some (label, body) =>
        if closes label line then
          if labels.contains (String.ofList label) then do
            let bytes ← decode? body
            let more ← sectionsOf? none rest
            return ⟨String.ofList label, bytes⟩ :: more
          else sectionsOf? none rest
        else sectionsOf? (some (label, body ++ line)) rest

/-- The sections of a text. -/
def sections? (text : String) : Option (List Section) :=
  sectionsOf? none (Text.splitOn '\n' text.toList)

/-- Whether bytes are one sequence of the distinguished encoding: its tag, and a length that covers
the rest. -/
def isSequence : List Nat → Bool
  | 48 :: n :: r =>
    if n < 128 then r.length == n
    else
      let size := (r.take (n - 128)).foldl (fun k b => k * 256 + b) 0
      (r.drop (n - 128)).length == size
  | _ => false

end TenantOverlay.Web.Pem
