import TenantOverlay.Error
import TenantOverlay.Text.Blank
import TenantOverlay.Text.Split

/-!
# Requests to the key-value store

The store holds texts under keys. Keys are paths: their segments have slashes between them, and
slashes at either end do not count.
-/

namespace TenantOverlay

inductive StoreRequest where
  /-- Stores a value under a key that has none. -/
  | create (key value : String)
  /-- Removes a key and all keys below it. -/
  | delete (key : String)
  /-- Whether there is a value at a key or below it. -/
  | exists (key : String)
  /-- The values directly below a key. -/
  | list (key : String)
  /-- The one value at a key or below it. -/
  | search (key : String)
  deriving DecidableEq, Repr

namespace StoreRequest

/-- What a successful answer holds. -/
abbrev Reply : StoreRequest → Type
  | create .. => Unit
  | delete _ => Unit
  | .exists _ => Bool
  | list _ => List String
  | search _ => String

def key : StoreRequest → String
  | create key _ | delete key | .exists key | list key | search key => key

/-- Whether the request can change the store. -/
def isWrite : StoreRequest → Bool
  | create .. | delete _ => true
  | .exists _ | list _ | search _ => false

end StoreRequest

/-- A key without slashes at its ends. -/
def normalizeKey (key : String) : String :=
  String.ofList (Text.trimBy (· == '/') key.toList)

/-- What a key adds to the path of a directory above it. -/
def below? (directory key : String) : Option (List Char) :=
  match Text.dropPrefix? directory.toList key.toList with
  | some ('/' :: rest) => some rest
  | _ => none

/-- Whether a key lies below a directory. -/
def isBelow (directory key : String) : Bool := (below? directory key).isSome

theorem below?_eq_some_iff {directory key : String} {rest : List Char} :
    below? directory key = some rest ↔ key.toList = directory.toList ++ '/' :: rest := by
  unfold below?
  split
  · next r h =>
    rw [Text.dropPrefix?_eq_some_iff] at h
    simp [h]
  · next h =>
    simp only [reduceCtorEq, false_iff]
    intro e
    exact h rest (Text.dropPrefix?_eq_some_iff.2 e)

end TenantOverlay
