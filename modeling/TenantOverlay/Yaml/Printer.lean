import TenantOverlay.Json.Printer
import TenantOverlay.Yaml.Basic

/-!
# Writing YAML

Writes a JSON value as a YAML document in block style. A text stands without quotes where it reads
back as the same text.
-/

namespace TenantOverlay.Yaml

/-- The characters with which a text without quotes cannot start. -/
def reserved : List Char :=
  ['-', '?', ':', ',', '[', ']', '{', '}', '#', '&', '*', '!', '|', '>', '\'', '"', '%', '@', '`',
    ' ', '~', '=']

/-- Whether a colon before a blank or the end, or a number sign after a blank, is in a text. -/
def hasIndicator : Char → List Char → Bool
  | _, [] => false
  | before, c :: r =>
    (c == ':' && (r.isEmpty || r.head? == some ' ')) || (c == '#' && before == ' ') ||
      hasIndicator c r

private def standsFor (cs : List Char) : Bool :=
  match ofPlain cs with
  | .text _ => false
  | _ => true

/-- Whether a text can stand without quotes. -/
def isPlain (cs : List Char) : Bool :=
  !cs.isEmpty && !cs.head?.any reserved.contains && cs.getLast? != some ' ' &&
    !hasIndicator 'x' cs && cs.all (fun c => 0x20 ≤ c.toNat && c.toNat != 0x7F) && !standsFor cs

def scalarText (s : String) : List Char :=
  let cs := s.toList
  if isPlain cs then cs
  else if cs.all fun c => 0x20 ≤ c.toNat && c.toNat != 0x7F then
    '\'' :: (cs.flatMap fun c => if c = '\'' then ['\'', '\''] else [c]) ++ ['\'']
  else Json.quoted s

private def indentation (level : Nat) : List Char := '\n' :: List.replicate (2 * level) ' '

mutual

/-- A value after the colon of its key; a sequence is indented like the mapping it stands in. -/
def valueText (level : Nat) : Json → List Char
  | .arr [] => [' ', '[', ']']
  | .obj [] => [' ', '{', '}']
  | .arr (j :: js) => itemsText level (j :: js)
  | .obj (m :: ms) => indentation (level + 1) ++ entriesText (level + 1) (m :: ms)
  | .str s => ' ' :: scalarText s
  | .null => ' ' :: (Json.scalar .null)
  | .bool b => ' ' :: Json.scalar (.bool b)
  | .int i => ' ' :: Json.scalar (.int i)
  | .float f => ' ' :: Json.scalar (.float f)
  | .illFormed => ' ' :: Json.scalar .null

/-- The items of a sequence, each on a line of its own. -/
def itemsText (level : Nat) : List Json → List Char
  | [] => []
  | .obj (m :: ms) :: r =>
    indentation level ++ ['-', ' '] ++ entriesText (level + 1) (m :: ms) ++ itemsText level r
  | j :: r => indentation level ++ '-' :: valueText level j ++ itemsText level r

/-- The entries of a mapping, each but the first on a new line. -/
def entriesText (level : Nat) : List (String × Json) → List Char
  | [] => []
  | [(k, j)] => scalarText k ++ ':' :: valueText level j
  | (k, j) :: m :: ms =>
    scalarText k ++ ':' :: valueText level j ++ indentation level ++ entriesText level (m :: ms)

end

/-- The document that holds a value. -/
def write (j : Json) : String :=
  let cs := match j with
    | .obj (m :: ms) => entriesText 0 (m :: ms)
    | j => (valueText 0 j).drop 1
  String.ofList (cs ++ ['\n'])

end TenantOverlay.Yaml
