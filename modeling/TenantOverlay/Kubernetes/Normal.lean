import TenantOverlay.Data.SortedMap
import TenantOverlay.Json.Basic

/-!
# Records in normal form

Reading and writing the fields of a JSON object that is in the normal form of its schema: a field
that is present has the type that the schema gives it, so reading needs no failure.
-/

namespace TenantOverlay

/-- Texts by name, in name order. -/
abbrev Labels := SortedMap String String

namespace Json

variable {α : Type}

/-- The members of an object. -/
def members : Json → List (String × Json)
  | .obj ms => ms
  | _ => []

def items : Json → List Json
  | .arr js => js
  | _ => []

/-- A field that may be absent. -/
def field? (j : Json) (name : String) (read : Json → α) : Option α := (j.get? name).map read

def asText (j : Json) : String := j.text?.getD ""

def asBool (j : Json) : Bool := j.bool?.getD false

def asInt : Json → Int
  | .int i => i
  | _ => 0

/-- The items, each read in one way. -/
def asList (read : Json → α) (j : Json) : List α := j.items.map read

def asTexts (j : Json) : List String := j.asList asText

def asLabels (j : Json) : Labels := .ofList (j.members.map fun m => (m.1, m.2.asText))

def text (j : Json) (name : String) : String := (j.field? name asText).getD ""

/-- The fields other than those named. -/
def without (j : Json) (names : List String) : List (String × Json) :=
  j.members.filter fun m => !names.contains m.1

/-- A field that is always written. -/
def always (name : String) (j : Json) : List (String × Json) := [(name, j)]

/-- A field that is written when there is a value. -/
def sometimes (name : String) (write : α → Json) : Option α → List (String × Json)
  | some a => [(name, write a)]
  | none => []

def ofTexts (texts : List String) : Json := .arr (texts.map .str)

def ofList (write : α → Json) (l : List α) : Json := .arr (l.map write)

def ofLabels (labels : Labels) : Json := .obj (labels.entries.map fun e => (e.1, .str e.2))

/-- A place in a value: the name of a member or the position of an item. -/
inductive Step where
  | name (name : String)
  | index (i : Nat)

/-- The value with the part at a path replaced. Objects that are missing on the way are created; a
position outside an array changes nothing. -/
def set : List Step → Json → Json → Json
  | [], value, _ => value
  | .name n :: path, value, j =>
    let part := (j.get? n).getD .null
    let rest := j.without [n]
    .obj (rest ++ [(n, set path value part)])
  | .index i :: path, value, j =>
    match j with
    | .arr items => .arr (items.modify i (set path value))
    | j => j

end Json

end TenantOverlay
