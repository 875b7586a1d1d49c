import TenantOverlay.Text.Visible.Table

/-!
# Making texts visible

`Text.visible` puts a text between quotes and escapes what could not be told apart in it.
-/

namespace TenantOverlay.Text

/-- Whether a character cannot be seen by itself. -/
def isHidden (c : Char) : Bool := hiddenRanges.any fun r => r.1 ≤ c.toNat && c.toNat ≤ r.2

/-- A character between quotes: the quote, the backslash and characters that cannot be seen are
escaped, most of them by their code point. -/
def visibleChar (c : Char) : List Char :=
  if c = '"' ∨ c = '\\' then ['\\', c]
  else if c = '\n' then ['\\', 'n']
  else if c = '\r' then ['\\', 'r']
  else if c = '\t' then ['\\', 't']
  else if c.toNat = 0 then ['\\', '0']
  else if isHidden c then '\\' :: 'u' :: '{' :: (Nat.toDigits 16 c.toNat ++ ['}'])
  else [c]

/-- A text in quotes. -/
def visible (s : String) : String :=
  String.ofList ('"' :: (s.toList.flatMap visibleChar ++ ['"']))

end TenantOverlay.Text
