import TenantOverlay.Data.SortedMap
import TenantOverlay.Store.Request

/-!
# A store in memory

Values by normalised key, in key order. A refused request changes nothing.
-/

namespace TenantOverlay

/-- The values of a store by normalised key. -/
abbrev KeyTree := SortedMap String String

namespace KeyTree

/-- The values below a directory, with what their keys add to it. -/
def childrenOf (t : KeyTree) (directory : String) : List (List Char × String) :=
  t.entries.filterMap fun e => (below? directory e.1).map fun rest => (rest, e.2)

def create (t : KeyTree) (key value : String) : Result Unit × KeyTree :=
  let key := normalizeKey key
  if t.contains key then (.error (.alreadyExists key), t) else (.ok (), t.insert key value)

/-- Whether there is a value at a normalised key or below it. -/
def holds (t : KeyTree) (key : String) : Bool :=
  t.entries.any fun e => e.1 == key || isBelow key e.1

def delete (t : KeyTree) (key : String) : Result Unit × KeyTree :=
  let key := normalizeKey key
  if t.holds key then (.ok (), t.filter fun k _ => k != key && !isBelow key k)
  else (.error (.notFound key), t)

def list (t : KeyTree) (key : String) : Result (List String) :=
  let key := normalizeKey key
  match t.childrenOf key with
  | [] => .error (.notFound key)
  | children => .ok ((children.filter fun c => !c.1.contains '/').map (·.2))

def search (t : KeyTree) (key : String) : Result String :=
  let key := normalizeKey key
  match t.get? key with
  | some value => .ok value
  | none =>
    match t.childrenOf key with
    | [] => .error (.notFound key)
    | [child] => .ok child.2
    | _ :: _ :: _ => .error (.multipleValues key)

/-- Answers a request. -/
def answer : (r : StoreRequest) → KeyTree → Result r.Reply × KeyTree
  | .create key value, t => t.create key value
  | .delete key, t => t.delete key
  | .exists key, t => (.ok (t.holds (normalizeKey key)), t)
  | .list key, t => (t.list key, t)
  | .search key, t => (t.search key, t)

end KeyTree

end TenantOverlay
