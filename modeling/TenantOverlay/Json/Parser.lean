import TenantOverlay.Json.Number
import TenantOverlay.Json.Quoted

/-!
# Reading JSON

`Json.parse?` reads a whole text as one value, with blanks around it.
-/

namespace TenantOverlay.Json

/-- The blanks that may stand between the parts of a value. -/
def isSpace (c : Char) : Bool := c == ' ' || c == '\n' || c == '\r' || c == '\t'

def skipSpace (cs : List Char) : List Char := cs.dropWhile isSpace

/-- A quoted text whose opening quote has been read; an ill-formed one is no name. -/
def name? (cs : List Char) : Option (String × List Char) :=
  match Quoted.decode? cs with
  | some (some text, r) => some (String.ofList text, r)
  | _ => none

mutual

/-- The value at the start of a text. The fuel bounds the number of values inside each other and
next to each other. -/
def value? : Nat → List Char → Option (Json × List Char)
  | 0, _ => none
  | fuel + 1, cs =>
    match cs with
    | '"' :: r =>
      match Quoted.decode? r with
      | some (some text, r) => some (.str (String.ofList text), r)
      | some (none, r) => some (.illFormed, r)
      | none => none
    | '[' :: r =>
      match skipSpace r with
      | ']' :: r => some (.arr [], r)
      | r => (items? fuel r).map fun (items, r) => (.arr items, r)
    | '{' :: r =>
      match skipSpace r with
      | '}' :: r => some (.obj [], r)
      | r => (members? fuel r).map fun (members, r) => (.obj members, r)
    | 'n' :: 'u' :: 'l' :: 'l' :: r => some (.null, r)
    | 't' :: 'r' :: 'u' :: 'e' :: r => some (.bool true, r)
    | 'f' :: 'a' :: 'l' :: 's' :: 'e' :: r => some (.bool false, r)
    | cs => (Numeral.scan? cs).map fun (n, r) => (n.value, r)

/-- One or more items and the closing bracket. -/
def items? : Nat → List Char → Option (List Json × List Char)
  | 0, _ => none
  | fuel + 1, cs =>
    match value? fuel (skipSpace cs) with
    | none => none
    | some (item, r) =>
      match skipSpace r with
      | ',' :: r => (items? fuel r).map fun (items, r) => (item :: items, r)
      | ']' :: r => some ([item], r)
      | _ => none

/-- One or more members and the closing brace. -/
def members? : Nat → List Char → Option (List (String × Json) × List Char)
  | 0, _ => none
  | fuel + 1, cs =>
    match skipSpace cs with
    | '"' :: r =>
      match name? r with
      | none => none
      | some (name, r) =>
        match skipSpace r with
        | ':' :: r =>
          match value? fuel (skipSpace r) with
          | none => none
          | some (value, r) =>
            match skipSpace r with
            | ',' :: r => (members? fuel r).map fun (ms, r) => ((name, value) :: ms, r)
            | '}' :: r => some ([(name, value)], r)
            | _ => none
        | _ => none
    | _ => none

end

/-- The value of a whole text. Each value, item and member takes at least one character, so the
length of the text bounds them. -/
def parse? (text : String) : Option Json :=
  let cs := text.toList
  match value? (2 * cs.length + 2) (skipSpace cs) with
  | some (j, r) => if (skipSpace r).isEmpty then some j else none
  | none => none

/-- A document that is held as a whole: well-formed throughout, and with fewer than 128 arrays and
objects inside each other. Members are put in name order. -/
def document? (text : String) : Option Json := do
  let j ← parse? text
  if j.depth < 128 then j.canonical? else none

end TenantOverlay.Json
