import TenantOverlay.Json.Basic
import TenantOverlay.Kubernetes.Timestamp

/-!
# Schemas of Kubernetes types

The form of the objects that the cluster API knows. `Schema.normalize?` checks a JSON value against
a schema and brings it into one form: fields that the type does not have are dropped, missing
required ones take the zero of their type, and fields are listed in the order of the schema. Two
values describe the same object exactly when their normal forms are equal.
-/

namespace TenantOverlay

/-- The form of a value. -/
inductive Schema where
  | text
  | bool
  | int32
  | int64
  | time
  /-- A number or a text, as for ports. -/
  | intOrText
  /-- Any value. -/
  | any
  | list (item : Schema)
  /-- An object with arbitrary names. -/
  | map (value : Schema)
  /-- An object with fixed fields, each with its name and whether the type requires it. -/
  | record (fields : List (String × Bool × Schema))

namespace Schema

/-- A field that may be absent. -/
abbrev opt (name : String) (form : Schema) : String × Bool × Schema := (name, false, form)

/-- A field that is always there. -/
abbrev req (name : String) (form : Schema) : String × Bool × Schema := (name, true, form)

mutual

/-- The zero of a type. -/
def zero : Schema → Json
  | .text | .time => .str ""
  | .bool => .bool false
  | .int32 | .int64 | .intOrText => .int 0
  | .any => .null
  | .list _ => .arr []
  | .map _ => .obj []
  | .record fields => .obj (zeroFields fields)

/-- The required fields with their zeros. -/
def zeroFields : List (String × Bool × Schema) → List (String × Json)
  | [] => []
  | (name, required, form) :: r =>
    if required then (name, zero form) :: zeroFields r else zeroFields r

end

/-- Entries of a map with their values in normal form, sorted by name; of several with one name the
last counts. -/
def mapEntries? (value? : Json → Option Json) :
    List (String × Json) → Option (List (String × Json))
  | [] => some []
  | (k, j) :: r => do
    let v ← value? j
    let rest ← mapEntries? value? r
    return Json.place k v rest

/-- The last of the values given for a field, all of which have to be of the field's form; null
stands for none. -/
def lastOf? (value? : Json → Option Json) : List Json → Option (Option Json)
  | [] => some none
  | j :: r => do
    let v ← if j = .null then some none else (value? j).map some
    if r.isEmpty then return v
    lastOf? value? r

mutual

/-- The normal form of a value, if it has the form of the schema. -/
def normalize? : Schema → Json → Option Json
  | .text, j => j.text?.map .str
  | .bool, j => j.bool?.map .bool
  | .int32, j => (j.int? (-2147483648) 2147483647).map .int
  | .int64, j => (j.int? (-9223372036854775808) 9223372036854775807).map .int
  | .time, j => (j.text?.bind Timestamp.parse?).map fun t => .str t.render
  | .intOrText, j =>
    match j with
    | .str s => some (.str s)
    | j => (j.int? (-2147483648) 2147483647).map .int
  | .any, j => j.canonical?
  | .list item, j => (j.list? (normalize? item)).map .arr
  | .map value, j =>
    match j with
    | .obj members => (mapEntries? (normalize? value) members).map .obj
    | _ => none
  | .record fields, j =>
    match j with
    | .obj members => (normalizeFields? fields members).map .obj
    | _ => none

/-- The fields of a record in normal form. -/
def normalizeFields? : List (String × Bool × Schema) → List (String × Json) →
    Option (List (String × Json))
  | [], _ => some []
  | (name, required, form) :: r, members => do
    let given := (members.filter fun m => m.1 == name).map (·.2)
    let value ← lastOf? (normalize? form) given
    let rest ← normalizeFields? r members
    match value with
    | some v => return (name, v) :: rest
    | none => return if required then (name, zero form) :: rest else rest

end

end Schema

end TenantOverlay
