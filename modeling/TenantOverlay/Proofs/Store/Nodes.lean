import Mathlib.Data.List.Nodup
import TenantOverlay.Proofs.Store.Paths
import TenantOverlay.Store.Client

/-!
# Nodes of the store and the keys they stand for

A store over the network answers with nodes, a store in memory looks into its keys. `KeyTree.Answers` says
what a network's answer about a key of a tree is: the value of a file, the direct children of a directory, or
the cause that there is nothing. `KeyTree.Answers.readAnswer` is what the client makes of it.
-/

namespace TenantOverlay

namespace Json

/-- An object whose members have different names. -/
def IsRecord (j : Json) : Prop := ∃ members, j = .obj members ∧ (members.map (·.1)).Nodup

/-- The fields of a record are its members. -/
lemma IsRecord.record? {j : Json} (h : j.IsRecord) (names : List String) :
    j.record? names = some fun n => j.get? n := by
  obtain ⟨members, rfl, nodup⟩ := h
  have once : (names.all fun n => members.countP (fun m => m.1 == n) ≤ 1) = true := by
    refine List.all_eq_true.2 fun n _ => decide_eq_true ?_
    have counted := List.nodup_iff_count_le_one.1 nodup n
    rwa [List.count_eq_countP, List.countP_map] at counted
  exact if_pos once

/-- A field that can be read if it is given has a value. -/
lemma Fields.withDefault_readable {α : Type} {fields : Fields} {name : String} {default : α}
    {read : Json → Option α} (h : ∀ j, fields name = some j → ∃ a, read j = some a) :
    ∃ a, fields.withDefault name default read = some a := by
  unfold Fields.withDefault
  cases e : fields name with
  | none => exact ⟨default, rfl⟩
  | some j => exact h j e

/-- A file with its value. -/
structure IsFile (j : Json) (value : String) : Prop where
  record : j.IsRecord
  value : j.get? "value" = some (.str value)
  dir : j.get? "dir" = none
  nodes : j.get? "nodes" = none

/-- A directory, which has no value. -/
structure IsDirectory (j : Json) : Prop where
  record : j.IsRecord
  dir : j.get? "dir" = some (.bool true)
  value : j.get? "value" = none

end Json

namespace KeyTree

/-- The names directly below a directory, of files and of other directories: the first segment of what each
key adds to it. -/
def childNames (t : KeyTree) (directory : String) : List String :=
  (t.childrenOf directory).map fun c => String.ofList (c.1.takeWhile (· != '/'))

/-- A node as it is listed in its directory: a file with its value, a directory without its children. -/
def Lists (t : KeyTree) (key : String) (j : Json) : Prop :=
  match t.get? key with
  | some value => j.IsFile value
  | none => j.IsDirectory ∧ j.get? "nodes" = none

/-- A directory with the nodes directly below it, in any order. -/
structure ShowsDirectory (t : KeyTree) (key : String) (j : Json) (children : List (String × Json)) : Prop where
  directory : j.IsDirectory
  nodes : j.get? "nodes" = some (.arr (children.map (·.2)))
  distinct : (children.map (·.1)).Nodup
  complete (name : String) : name ∈ children.map (·.1) ↔ name ∈ t.childNames key
  listed {c : String × Json} : c ∈ children → t.Lists (childKey key c.1) c.2

/-- The body of an answer that reports success holds a node. -/
structure IsSuccess (status : Nat) (body : String) (node : Json) : Prop where
  status : Web.isSuccess status = true
  read : ∃ j, Json.parse? body = some j ∧ j.IsRecord ∧ j.get? "node" = some node

/-- The answer that there is no such key. -/
structure IsMissing (status : Nat) (body : String) : Prop where
  status : Web.isSuccess status = false
  read : ∃ j, Json.parse? body = some j ∧ j.IsRecord ∧
    j.get? "errorCode" = some (.int StoreClient.missingKey) ∧
    (∀ m, j.get? "message" = some m → ∃ s, m = .str s) ∧ ∀ c, j.get? "cause" = some c → ∃ s, c = .str s

/-- The answer to a message that asks for a key: the value of a file, the children of a directory, or that
there is no such key. -/
inductive Answers (t : KeyTree) (key : String) (status : Nat) (body : String) : Prop
  | file {node : Json} {value : String} (success : IsSuccess status body node)
    (present : t.get? key = some value) (shown : node.IsFile value)
  | directory {node : Json} {children : List (String × Json)} (success : IsSuccess status body node)
    (present : t.holds key = true) (noFile : t.get? key = none) (shown : t.ShowsDirectory key node children)
  | missing (failure : IsMissing status body) (absent : t.holds key = false)

end KeyTree

section Reading

open StoreNode

variable {j : Json} {value : String} {fuel : Nat}

/-- The node that the client makes of a file. -/
lemma Json.IsFile.ofJsonWithin? (h : j.IsFile value) :
    ofJsonWithin? (fuel + 1) j = some { value := some value } := by
  simp only [StoreNode.ofJsonWithin?, h.record.record?, Json.Fields.withDefault, Option.bind_eq_bind,
    Option.bind_some, h.value, h.dir, h.nodes]
  rfl

/-- The node that the client makes of a directory that is listed. -/
lemma Json.IsDirectory.ofJsonWithin? (h : j.IsDirectory) (unlisted : j.get? "nodes" = none) :
    ofJsonWithin? (fuel + 1) j = some { isDirectory := true } := by
  simp only [StoreNode.ofJsonWithin?, h.record.record?, Json.Fields.withDefault, Option.bind_eq_bind,
    Option.bind_some, h.value, h.dir, unlisted]
  rfl

variable {t : KeyTree} {key : String}

/-- What the client makes of a node that is listed in its directory. -/
def KeyTree.listedNode (t : KeyTree) (key : String) : StoreNode :=
  { value := t.get? key, isDirectory := (t.get? key).isNone }

lemma KeyTree.Lists.ofJsonWithin? (h : t.Lists key j) :
    ofJsonWithin? (fuel + 1) j = some (t.listedNode key) := by
  unfold KeyTree.Lists at h
  unfold KeyTree.listedNode
  cases e : t.get? key with
  | some value =>
    rw [e] at h
    exact h.ofJsonWithin?
  | none =>
    rw [e] at h
    exact h.1.ofJsonWithin? h.2

/-- Reading every item of a list. -/
lemma Json.mapM_read {α : Type} {children : List (String × Json)} {read : Json → Option α}
    {made : String × Json → α} (h : ∀ c ∈ children, read c.2 = some (made c)) :
    (children.map (·.2)).mapM read = some (children.map made) := by
  induction children with
  | nil => rfl
  | cons c children ih =>
    rw [List.map_cons, List.mapM_cons, h c List.mem_cons_self,
      ih fun d m => h d (List.mem_cons_of_mem c m)]
    rfl

/-- What the client makes of a directory. -/
def KeyTree.directoryNode (t : KeyTree) (key : String) (names : List String) : StoreNode :=
  { isDirectory := true, children := names.map fun n => t.listedNode (KeyTree.childKey key n) }

lemma KeyTree.ShowsDirectory.ofJson? {children : List (String × Json)}
    (h : t.ShowsDirectory key j children) :
    StoreNode.ofJson? j = some (t.directoryNode key (children.map (·.1))) := by
  have read : (children.map (·.2)).mapM (StoreNode.ofJsonWithin? (61 + 1)) = _ :=
    Json.mapM_read fun c m => (h.listed m).ofJsonWithin?
  unfold KeyTree.directoryNode
  rw [List.map_map]
  show StoreNode.ofJsonWithin? (62 + 1) j = _
  rw [StoreNode.ofJsonWithin?]
  simp only [h.directory.record.record?, Json.Fields.withDefault, Option.bind_eq_bind, Option.bind_some,
    h.directory.value, h.directory.dir, h.nodes, Json.list?, read]
  rfl

open StoreClient

variable {status : Nat} {body : String}

/-- An answer that reports success is read as its node. -/
lemma KeyTree.IsSuccess.readAnswer {node : Json} {n : StoreNode} (h : IsSuccess status body node)
    (record : node.IsRecord) (made : StoreNode.ofJson? node = some n) :
    readAnswer status body key = .ok n := by
  obtain ⟨j, read, answered, held⟩ := h.read
  obtain ⟨members, rfl, -⟩ := record
  have found : nodeOfJson? j = some n := by
    unfold nodeOfJson?
    simp only [answered.record?, Option.bind_eq_bind, Option.bind_some, held]
    exact made
  unfold StoreClient.readAnswer
  rw [if_pos h.status, read, Option.bind_some, found]

/-- An answer that there is no such key is read as the error that says so. -/
lemma KeyTree.IsMissing.readAnswer (h : IsMissing status body) :
    readAnswer status body key = .error (.notFound key) := by
  obtain ⟨j, read, answered, code, message, cause⟩ := h.read
  have named : ∃ m c, faultOfJson? j = some (missingKey, m, c) := by
    obtain ⟨m, text⟩ : ∃ m, Json.Fields.withDefault (fun n => j.get? n) "message" "" Json.text? = some m :=
      Json.Fields.withDefault_readable fun m e => by
        obtain ⟨s, rfl⟩ := message m e
        exact ⟨s, rfl⟩
    have known : Json.nat? UInt32.size (.int missingKey) = some missingKey := rfl
    unfold faultOfJson?
    rw [answered.record?, Option.bind_eq_bind, Option.bind_some]
    simp only [Json.Fields.required, code, Option.bind_eq_bind, Option.bind_some, known, text]
    unfold Json.Fields.withDefault
    cases given : j.get? "cause" with
    | none => exact ⟨m, "", by simp only [given]; rfl⟩
    | some c =>
      obtain ⟨s, rfl⟩ := cause c given
      exact ⟨m, s, by simp only [given]; rfl⟩
  obtain ⟨m, c, named⟩ := named
  unfold StoreClient.readAnswer
  rw [if_neg (by rw [h.status]; decide), read, Option.bind_some, named]
  exact if_pos rfl

end Reading

end TenantOverlay
