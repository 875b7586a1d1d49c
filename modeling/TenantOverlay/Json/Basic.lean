/-!
# JSON values

The values of JSON, with whole and fractional numbers told apart and the members of an object kept
in the order of the text. `Json.record?` is the view under which records of fixed fields are read:
by name from an object, by position from an array.
-/

namespace TenantOverlay

/-- A JSON value. A whole number is one written without point and exponent that fits into 64 bits;
any other number is a binary64 number, given by its bits. `illFormed` is a text or number that may
be skipped but has no value: an unpaired surrogate, or a number beyond the range. -/
inductive Json where
  | null
  | bool (b : Bool)
  | int (i : Int)
  | float (bits : UInt64)
  | str (s : String)
  | arr (items : List Json)
  | obj (members : List (String × Json))
  | illFormed
  deriving Inhabited

namespace Json

mutual

/-- Equality of values: same shape, same members in the same order. -/
def decEq : (a b : Json) → Decidable (a = b)
  | .null, b => match b with
    | .null => isTrue rfl
    | .bool _ | .int _ | .float _ | .str _ | .arr _ | .obj _ | .illFormed => isFalse nofun
  | .bool x, b => match b with
    | .bool y => if h : x = y then isTrue (h ▸ rfl) else isFalse fun e => h (Json.bool.inj e)
    | .null | .int _ | .float _ | .str _ | .arr _ | .obj _ | .illFormed => isFalse nofun
  | .int x, b => match b with
    | .int y => if h : x = y then isTrue (h ▸ rfl) else isFalse fun e => h (Json.int.inj e)
    | .null | .bool _ | .float _ | .str _ | .arr _ | .obj _ | .illFormed => isFalse nofun
  | .float x, b => match b with
    | .float y => if h : x = y then isTrue (h ▸ rfl) else isFalse fun e => h (Json.float.inj e)
    | .null | .bool _ | .int _ | .str _ | .arr _ | .obj _ | .illFormed => isFalse nofun
  | .str x, b => match b with
    | .str y => if h : x = y then isTrue (h ▸ rfl) else isFalse fun e => h (Json.str.inj e)
    | .null | .bool _ | .int _ | .float _ | .arr _ | .obj _ | .illFormed => isFalse nofun
  | .arr x, b => match b with
    | .arr y => match decEqItems x y with
      | isTrue h => isTrue (h ▸ rfl)
      | isFalse h => isFalse fun e => h (Json.arr.inj e)
    | .null | .bool _ | .int _ | .float _ | .str _ | .obj _ | .illFormed => isFalse nofun
  | .obj x, b => match b with
    | .obj y => match decEqMembers x y with
      | isTrue h => isTrue (h ▸ rfl)
      | isFalse h => isFalse fun e => h (Json.obj.inj e)
    | .null | .bool _ | .int _ | .float _ | .str _ | .arr _ | .illFormed => isFalse nofun
  | .illFormed, b => match b with
    | .illFormed => isTrue rfl
    | .null | .bool _ | .int _ | .float _ | .str _ | .arr _ | .obj _ => isFalse nofun

/-- Equality of arrays. -/
def decEqItems : (a b : List Json) → Decidable (a = b)
  | [], [] => isTrue rfl
  | [], _ :: _ | _ :: _, [] => isFalse nofun
  | x :: xs, y :: ys => match decEq x y, decEqItems xs ys with
    | isTrue h, isTrue hs => isTrue (h ▸ hs ▸ rfl)
    | isFalse h, _ => isFalse fun e => h (List.cons.inj e).1
    | _, isFalse h => isFalse fun e => h (List.cons.inj e).2

/-- Equality of member lists. -/
def decEqMembers : (a b : List (String × Json)) → Decidable (a = b)
  | [], [] => isTrue rfl
  | [], _ :: _ | _ :: _, [] => isFalse nofun
  | (k, x) :: xs, (l, y) :: ys =>
    if hk : k = l then
      match decEq x y, decEqMembers xs ys with
      | isTrue h, isTrue hs => isTrue (hk ▸ h ▸ hs ▸ rfl)
      | isFalse h, _ => isFalse fun e => h (Prod.mk.inj (List.cons.inj e).1).2
      | _, isFalse h => isFalse fun e => h (List.cons.inj e).2
    else isFalse fun e => hk (Prod.mk.inj (List.cons.inj e).1).1

end

instance : DecidableEq Json := decEq

/-- The first member of a name. -/
def member? (name : String) (members : List (String × Json)) : Option Json :=
  (members.find? fun m => m.1 == name).map (·.2)

/-- The member of an object. -/
def get? (name : String) : Json → Option Json
  | .obj members => member? name members
  | _ => none

def text? : Json → Option String
  | .str s => some s
  | _ => none

def bool? : Json → Option Bool
  | .bool b => some b
  | _ => none

/-- A whole number from `lo` to `hi`. -/
def int? (lo hi : Int) : Json → Option Int
  | .int i => if lo ≤ i ∧ i ≤ hi then some i else none
  | _ => none

/-- A whole number below `bound`. -/
def nat? (bound : Nat) : Json → Option Nat
  | .int (.ofNat n) => if n < bound then some n else none
  | _ => none

def uint32? (j : Json) : Option UInt32 :=
  (j.nat? UInt32.size).map UInt32.ofNat

/-- An array whose items all have a given form. -/
def list? {α : Type} (item? : Json → Option α) : Json → Option (List α)
  | .arr items => items.mapM item?
  | _ => none

/-- Looks up the value given for a field of a record. -/
abbrev Fields := String → Option Json

/-- The fields of a record: an object in which none of them occurs twice, where other members are
skipped, or an array of the first fields in order. -/
def record? (names : List String) : Json → Option Fields
  | .obj members =>
    if names.all fun n => members.countP (fun m => m.1 == n) ≤ 1 then
      some fun n => member? n members
    else none
  | .arr items =>
    if items.length ≤ names.length then
      some fun n => ((names.zip items).find? fun m => m.1 == n).map (·.2)
    else none
  | _ => none

/-- A field that has to be given. -/
def Fields.required {α : Type} (fields : Fields) (name : String) (read : Json → Option α) :
    Option α :=
  (fields name).bind read

/-- A field that may be missing. -/
def Fields.withDefault {α : Type} (fields : Fields) (name : String) (default : α)
    (read : Json → Option α) : Option α :=
  match fields name with
  | none => some default
  | some j => read j

mutual

/-- The value with the members of every object in name order, of several with one name the last;
none when a part of it is ill-formed. -/
def canonical? : Json → Option Json
  | .arr items => (canonicalItems? items).map .arr
  | .obj members => (canonicalMembers? members).map .obj
  | .illFormed => none
  | .null => some .null
  | .bool b => some (.bool b)
  | .int i => some (.int i)
  | .float f => some (.float f)
  | .str s => some (.str s)

/-- The canonical form of each item. -/
def canonicalItems? : List Json → Option (List Json)
  | [] => some []
  | j :: js => do
    let c ← canonical? j
    let cs ← canonicalItems? js
    return c :: cs

/-- The canonical forms in name order. -/
def canonicalMembers? : List (String × Json) → Option (List (String × Json))
  | [] => some []
  | (k, j) :: ms => do
    let c ← canonical? j
    let cs ← canonicalMembers? ms
    return place k c cs

/-- Adds a member in name order, unless the name is there. -/
def place (k : String) (j : Json) : List (String × Json) → List (String × Json)
  | [] => [(k, j)]
  | (l, x) :: r =>
    match compare k l with
    | .lt => (k, j) :: (l, x) :: r
    | .eq => (l, x) :: r
    | .gt => (l, x) :: place k j r

end

mutual

/-- How many arrays and objects stand inside each other. -/
def depth : Json → Nat
  | .arr items => depthItems items + 1
  | .obj members => depthMembers members + 1
  | .null | .bool _ | .int _ | .float _ | .str _ | .illFormed => 0

/-- The greatest depth of the items. -/
def depthItems : List Json → Nat
  | [] => 0
  | j :: js => max (depth j) (depthItems js)

/-- The greatest depth of the members. -/
def depthMembers : List (String × Json) → Nat
  | [] => 0
  | (_, j) :: ms => max (depth j) (depthMembers ms)

end

end Json

end TenantOverlay
