import TenantOverlay.Text.Split

/-!
# Request targets

The first line of an HTTP request names a path and a query. `Target.parse?` takes them from a text
that is used as it is: nothing in it is encoded, and characters that may not stand in a target make
it unusable.
-/

namespace TenantOverlay.Web

structure Target where
  path : String
  query : String
  deriving DecidableEq, Repr

namespace Target

/-- The greatest length of a target. -/
def maxLength : Nat := 65534

/-- The characters of a path. -/
def inPath (c : Char) : Bool :=
  0x20 < c.toNat && c.toNat < 0x7F && ['#', '<', '>', '?', '\x60'].all (· != c)

/-- The characters of a query. -/
def inQuery (c : Char) : Bool :=
  0x20 < c.toNat && c.toNat < 0x7F && ['"', '#', '<', '>'].all (· != c)

/-- Path and query of a text up to its first number sign. -/
def parse? (text : String) : Option Target :=
  let main := text.toList.takeWhile (· != '#')
  let (path, query) := (Text.cut '?' main).getD (main, [])
  if text.utf8ByteSize ≤ maxLength ∧ path.all inPath ∧ query.all inQuery then
    some ⟨String.ofList path, String.ofList query⟩
  else none

end Target

end TenantOverlay.Web
