import TenantOverlay.Decimal.Reading
import TenantOverlay.Decimal.Shortest
import TenantOverlay.Json.Basic
import TenantOverlay.Text.Blank
import TenantOverlay.Text.Split
import TenantOverlay.Yaml.Basic

/-!
# Settings

A setting is a value from one of the sources of a configuration. Sources differ in what they can
express, so a setting is converted to the type that is asked for: numbers and truth values to text
and back, fractions to the nearest whole number. `Setting.place` puts a setting where a path leads,
and merges tables entry by entry.
-/

namespace TenantOverlay

inductive Setting where
  | null
  | bool (b : Bool)
  | int (i : Int)
  | float (bits : UInt64)
  | text (s : String)
  | list (items : List Setting)
  | table (entries : List (String × Setting))
  deriving Inhabited

namespace Setting

/-- The entries of a table. -/
def entries : Setting → List (String × Setting)
  | table entries => entries
  | _ => []

/-- The entry of a table. -/
def get? (name : String) (s : Setting) : Option Setting :=
  (s.entries.find? fun e => e.1 == name).map (·.2)

/-- The table with an entry put in; anything else than a table becomes one. -/
def withEntry (s : Setting) (name : String) (value : Setting) : Setting :=
  if (s.get? name).isSome then
    table (s.entries.map fun e => if e.1 = name then (name, value) else e)
  else table (s.entries ++ [(name, value)])

mutual

/-- Puts a setting into a table under a name. A table is merged with what is there. -/
def put (name : String) : Setting → Setting → Setting
  | table incoming, s => s.withEntry name (putAll incoming ((s.get? name).getD (table [])))
  | null, s => s.withEntry name null
  | bool b, s => s.withEntry name (bool b)
  | int i, s => s.withEntry name (int i)
  | float bits, s => s.withEntry name (float bits)
  | text t, s => s.withEntry name (text t)
  | list items, s => s.withEntry name (list items)

/-- Puts the entries of a table into another one. -/
def putAll : List (String × Setting) → Setting → Setting
  | [], s => s
  | (name, value) :: rest, s => putAll rest (put name value s)

end

/-- A step of a path. -/
inductive PathStep where
  | name (name : String)
  /-- The position of an item, counted from the end when negative. -/
  | index (i : Int)
  deriving DecidableEq, Repr

/-- The characters of names in paths. -/
def isPathChar (c : Char) : Bool := c.isAlphanum || c == '_' || c == '-' || c == ' '

/-- The steps after the first: names after a point and positions in brackets. -/
def pathSteps? : Nat → List Char → Option (List PathStep)
  | _, [] => some []
  | 0, _ => none
  | fuel + 1, '.' :: r =>
    let name := r.takeWhile isPathChar
    if name.isEmpty then none
    else (pathSteps? fuel (r.dropWhile isPathChar)).map (.name (String.ofList name) :: ·)
  | fuel + 1, '[' :: r => do
    let (inner, rest) ← Text.cut ']' r
    let i ← match Text.trimBy (fun c => c == ' ' || c == '\t') inner with
      | '-' :: ds => (Text.natural? ds).map fun n => -(n : Int)
      | ds => (Text.natural? ds).map Int.ofNat
    let steps ← pathSteps? fuel rest
    return .index i :: steps
  | _ + 1, _ => none

/-- The steps of a path; what is no path is a single name. -/
def path (key : String) : List PathStep :=
  let cs := key.toList
  let first := cs.takeWhile isPathChar
  let steps := if first.isEmpty then none
    else (pathSteps? cs.length (cs.dropWhile isPathChar)).map (.name (String.ofList first) :: ·)
  steps.getD [.name key]

/-- The position that an index stands for in a list of a length. -/
def position (i : Int) (length : Nat) : Nat :=
  if 0 ≤ i then i.toNat else length - i.natAbs

private def padded (items : List Setting) (length : Nat) : List Setting :=
  items ++ List.replicate (length - items.length) null

/-- Puts a setting where a path leads. What is on the way and does not fit is replaced. -/
def place : List PathStep → Setting → Setting → Setting
  | [], value, _ => value
  | [.name n], value, s => put n value s
  | .name n :: rest, value, s => s.withEntry n (place rest value ((s.get? n).getD null))
  | .index i :: rest, value, s =>
    let items := match s with
      | list items => items
      | _ => []
    let p := position i items.length
    list ((padded items (p + 1)).modify p (place rest value))

/-- Puts the entries of a source over what earlier sources gave. -/
def overlay (source : List (String × Setting)) (s : Setting) : Setting :=
  source.foldl (fun s e => place (path e.1) e.2 s) s

private def lower (s : String) : String := String.ofList (s.toList.map Char.toLower)

/-- The truth values that words stand for. -/
def word? (s : String) : Option Bool :=
  if ["true", "on", "yes"].contains (lower s) then some true
  else if ["false", "off", "no"].contains (lower s) then some false
  else none

def toText? : Setting → Option String
  | text s => some s
  | bool b => some (if b then "true" else "false")
  | int i => some (toString i)
  | float bits => some (String.ofList (Decimal.plain bits))
  | null | list _ | table _ => none

/-- A whole number of 64 bits without a sign. -/
def toUnsigned? : Setting → Option Nat
  | bool b => some b.toNat
  | int i => if 0 ≤ i then some i.toNat else none
  | float bits => some (Float.ofBits bits).round.toUInt64.toNat
  | text s =>
    match word? s with
    | some b => some b.toNat
    | none => Text.unsigned? UInt64.size s.toList
  | null | list _ | table _ => none

/-- A whole number of 16 bits, of which higher ones are dropped. -/
def toPort? (s : Setting) : Option Nat := s.toUnsigned?.map (· % 65536)

def toFloat? : Setting → Option Float
  | bool b => some (if b then 1.0 else 0.0)
  | int i => some (Float.ofInt i)
  | float bits => some (Float.ofBits bits)
  | text s =>
    match word? s with
    | some b => some (if b then 1.0 else 0.0)
    | none => Decimal.read? s.toList
  | null | list _ | table _ => none

def toTexts? : Setting → Option (List String)
  | list items => items.mapM toText?
  | _ => none

/-- The fields of a record: by name from a table, by position from a list. -/
def record? (names : List String) : Setting → Option (String → Option Setting)
  | table entries => some fun n => (entries.find? fun e => e.1 == n).map (·.2)
  | list items => some fun n => ((names.zip items).find? fun e => e.1 == n).map (·.2)
  | _ => none

mutual

/-- The setting that a JSON value is. -/
def ofJson : Json → Setting
  | .null | .illFormed => null
  | .bool b => bool b
  | .int i => if i < Text.int64Bound then int i else float (Float.ofInt i).toBits
  | .float bits => float bits
  | .str s => text s
  | .arr items => list (ofJsonItems items)
  | .obj members => table (ofJsonMembers members)

def ofJsonItems : List Json → List Setting
  | [] => []
  | j :: r => ofJson j :: ofJsonItems r

def ofJsonMembers : List (String × Json) → List (String × Setting)
  | [] => []
  | (name, j) :: r => (name, ofJson j) :: ofJsonMembers r

end

mutual

/-- The setting that a YAML value is; a fraction that is not written as a decimal is none. -/
def ofYaml? : Yaml → Option Setting
  | .null => some null
  | .bool b => some (bool b)
  | .int i => some (int i)
  | .real t => (Decimal.read? t.toList).map fun x => float x.toBits
  | .text s => some (text s)
  | .seq items => (ofYamlItems? items).map list
  | .map entries => (ofYamlEntries? entries []).map table

def ofYamlItems? : List Yaml → Option (List Setting)
  | [] => some []
  | y :: r => do
    let s ← ofYaml? y
    let rest ← ofYamlItems? r
    return s :: rest

/-- The entries with a text for a key, of several with one key the last. -/
def ofYamlEntries? : List (Yaml × Yaml) → List (String × Setting) → Option (List (String × Setting))
  | [], soFar => some soFar
  | (.text name, y) :: r, soFar => do
    let s ← ofYaml? y
    ofYamlEntries? r ((table soFar).withEntry name s).entries
  | _ :: r, soFar => ofYamlEntries? r soFar

end

end Setting

end TenantOverlay
