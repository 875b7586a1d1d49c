import TenantOverlay.Decimal.Shortest
import TenantOverlay.Json.Basic
import TenantOverlay.Json.Quoted

/-!
# Writing JSON

`Json.compact` writes a value without blanks, `Json.pretty` with one item or member a line and two
spaces for each level.
-/

namespace TenantOverlay.Json

def quoted (s : String) : List Char := '"' :: (Quoted.encode s.toList ++ ['"'])

def intText (i : Int) : List Char :=
  (if i < 0 then ['-'] else []) ++ Decimal.natDigits i.natAbs

/-- Null, truth values, numbers and texts. A number that is not finite has no text of its own and
is written as null. -/
def scalar : Json → List Char
  | .bool true => ['t', 'r', 'u', 'e']
  | .bool false => ['f', 'a', 'l', 's', 'e']
  | .int i => intText i
  | .float bits => (Decimal.scientific? bits).getD ['n', 'u', 'l', 'l']
  | .str s => quoted s
  | _ => ['n', 'u', 'l', 'l']

mutual

def compact : Json → List Char
  | .arr items => '[' :: compactItems items
  | .obj members => '{' :: compactMembers members
  | .null => ['n', 'u', 'l', 'l']
  | .bool b => scalar (.bool b)
  | .int i => scalar (.int i)
  | .float f => scalar (.float f)
  | .str s => scalar (.str s)
  | .illFormed => scalar .illFormed

def compactItems : List Json → List Char
  | [] => [']']
  | [j] => compact j ++ [']']
  | j :: k :: r => compact j ++ ',' :: compactItems (k :: r)

def compactMembers : List (String × Json) → List Char
  | [] => ['}']
  | [(n, j)] => quoted n ++ ':' :: (compact j ++ ['}'])
  | (n, j) :: k :: r => quoted n ++ ':' :: (compact j ++ ',' :: compactMembers (k :: r))

end

/-- A new line at a level. -/
private def newline (level : Nat) : List Char := '\n' :: List.replicate (2 * level) ' '

mutual

/-- The value at a level of indentation. -/
def prettyAt (level : Nat) : Json → List Char
  | .arr [] => ['[', ']']
  | .obj [] => ['{', '}']
  | .arr (j :: r) => '[' :: prettyItems (level + 1) (j :: r)
  | .obj (m :: r) => '{' :: prettyMembers (level + 1) (m :: r)
  | .null => scalar .null
  | .bool b => scalar (.bool b)
  | .int i => scalar (.int i)
  | .float f => scalar (.float f)
  | .str s => scalar (.str s)
  | .illFormed => scalar .illFormed

def prettyItems (level : Nat) : List Json → List Char
  | [] => newline (level - 1) ++ [']']
  | [j] => newline level ++ prettyAt level j ++ newline (level - 1) ++ [']']
  | j :: k :: r => newline level ++ prettyAt level j ++ ',' :: prettyItems level (k :: r)

def prettyMembers (level : Nat) : List (String × Json) → List Char
  | [] => newline (level - 1) ++ ['}']
  | [(n, j)] =>
    newline level ++ quoted n ++ ':' :: ' ' :: prettyAt level j ++ newline (level - 1) ++ ['}']
  | (n, j) :: k :: r =>
    newline level ++ quoted n ++ ':' :: ' ' :: prettyAt level j ++ ',' :: prettyMembers level (k :: r)

end

def toText (j : Json) : String := String.ofList j.compact

def pretty (j : Json) : String := String.ofList (prettyAt 0 j)

end TenantOverlay.Json
