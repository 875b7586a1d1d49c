import TenantOverlay.Cluster.Request
import TenantOverlay.Cluster.Selector
import TenantOverlay.Kubernetes.Kinds

/-!
# A cluster in memory

Objects of each kind are kept by namespace and name. Every write gives the object a new resource
version; a replacement that carries a version is refused unless the stored object still has it.
A refused request changes nothing.
-/

namespace TenantOverlay

/-- The place of an object among those of its kind: ordered by namespace, then by name. Objects
without a namespace have the empty one. -/
structure ObjectKey where
  namespaceName : String
  name : String
  deriving DecidableEq, Repr

namespace ObjectKey

instance : Ord ObjectKey :=
  ⟨compareLex (compareOn ObjectKey.namespaceName) (compareOn ObjectKey.name)⟩

instance : Std.TransOrd ObjectKey :=
  inferInstanceAs (Std.TransCmp
    (compareLex (compareOn ObjectKey.namespaceName) (compareOn ObjectKey.name)))

instance : Std.LawfulEqOrd ObjectKey where
  eq_of_compare {a b} h := by
    have h' : (compareOn ObjectKey.namespaceName a b).then (compareOn ObjectKey.name a b) = .eq := h
    rw [Ordering.then_eq_eq] at h'
    cases a
    cases b
    simp_all [compareOn]

/-- The key of an object that a request names. -/
def of (namespaceName : Option String) (name : String) : ObjectKey := ⟨namespaceName.getD "", name⟩

end ObjectKey

/-- The objects of one kind, and the version that the next write hands out. -/
structure ObjectTable (Body : Type) where
  objects : SortedMap ObjectKey (Manifest Body) := .empty
  nextVersion : Nat := 1

namespace ObjectTable

variable {Body : Type}

def get? (t : ObjectTable Body) (namespaceName : Option String) (name : String) :
    Option (Manifest Body) :=
  t.objects.get? (.of namespaceName name)

/-- Whether a list request covers an object. -/
def listed (namespaceName selector : Option String) (key : ObjectKey) (o : Manifest Body) : Bool :=
  namespaceName.all (· == key.namespaceName) &&
    selector.all fun s => Selector.selects s (o.metadata.labels.getD .empty)

def list (t : ObjectTable Body) (namespaceName selector : Option String) : List (Manifest Body) :=
  (t.objects.entries.filter fun e => listed namespaceName selector e.1 e.2).map (·.2)

/-- The object as a write stores it. -/
def stamped (t : ObjectTable Body) (namespaceName : Option String) (o : Manifest Body) :
    Manifest Body :=
  { o with metadata := { o.metadata with
      namespaceName := namespaceName
      resourceVersion := some (toString t.nextVersion) } }

/-- Stores an object under a new version. -/
def store (t : ObjectTable Body) (namespaceName : Option String) (name : String)
    (o : Manifest Body) : ObjectTable Body where
  objects := t.objects.insert (.of namespaceName name) (t.stamped namespaceName o)
  nextVersion := t.nextVersion + 1

def create (t : ObjectTable Body) (namespaceName : Option String) (o : Manifest Body) :
    Result (Manifest Body) × ObjectTable Body :=
  match o.metadata.name with
  | none => (.error (.api .nameRequired), t)
  | some name =>
    match t.get? namespaceName name with
    | some _ => (.error (.api (.alreadyExists name)), t)
    | none => (.ok (t.stamped namespaceName o), t.store namespaceName name o)

def replace (t : ObjectTable Body) (namespaceName : Option String) (o : Manifest Body) :
    Result (Manifest Body) × ObjectTable Body :=
  match o.metadata.name with
  | none => (.error (.api .nameRequired), t)
  | some name =>
    match t.get? namespaceName name with
    | none => (.error (.api (.notFound name)), t)
    | some existing =>
      if o.metadata.resourceVersion.isSome ∧
          existing.metadata.resourceVersion ≠ o.metadata.resourceVersion then
        (.error (.api (.modified name)), t)
      else (.ok (t.stamped namespaceName o), t.store namespaceName name o)

def delete (t : ObjectTable Body) (namespaceName : Option String) (name : String) :
    Result Unit × ObjectTable Body :=
  match t.get? namespaceName name with
  | none => (.error (.api (.notFound name)), t)
  | some _ => (.ok (), { t with objects := t.objects.erase (.of namespaceName name) })

/-- Answers a request. -/
def answer : (r : ObjectRequest Body) → ObjectTable Body → Result r.Reply × ObjectTable Body
  | .get ns name, t => (.ok (t.get? ns name), t)
  | .list ns selector, t => (.ok (t.list ns selector), t)
  | .create ns o, t => t.create ns o
  | .replace ns o, t => t.replace ns o
  | .delete ns name, t => t.delete ns name

end ObjectTable

/-- The objects of all kinds. -/
structure Cluster where
  namespaces : ObjectTable NamespaceBody := {}
  serviceAccounts : ObjectTable ServiceAccountBody := {}
  roleBindings : ObjectTable RoleBindingBody := {}
  daemonSets : ObjectTable DaemonSetBody := {}
  jobs : ObjectTable JobBody := {}
  pods : ObjectTable PodBody := {}
  nodes : ObjectTable NodeBody := {}
  overlays : ObjectTable OverlaySpec := {}

namespace Cluster

/-- The objects of a kind. -/
def table (c : Cluster) : (k : Kind) → ObjectTable k.Body
  | .namespaces => c.namespaces
  | .serviceAccounts => c.serviceAccounts
  | .roleBindings => c.roleBindings
  | .daemonSets => c.daemonSets
  | .jobs => c.jobs
  | .pods => c.pods
  | .nodes => c.nodes
  | .overlays => c.overlays

/-- The cluster with the objects of a kind changed. -/
def withTable (c : Cluster) : (k : Kind) → ObjectTable k.Body → Cluster
  | .namespaces, t => { c with namespaces := t }
  | .serviceAccounts, t => { c with serviceAccounts := t }
  | .roleBindings, t => { c with roleBindings := t }
  | .daemonSets, t => { c with daemonSets := t }
  | .jobs, t => { c with jobs := t }
  | .pods, t => { c with pods := t }
  | .nodes, t => { c with nodes := t }
  | .overlays, t => { c with overlays := t }

@[simp] theorem table_withTable (c : Cluster) (k : Kind) (t : ObjectTable k.Body) :
    (c.withTable k t).table k = t := by
  cases k <;> rfl

theorem table_withTable_of_ne (c : Cluster) {k l : Kind} (t : ObjectTable k.Body) (h : l ≠ k) :
    (c.withTable k t).table l = c.table l := by
  cases k <;> cases l <;> first | rfl | exact absurd rfl h

@[simp] theorem withTable_table (c : Cluster) (k : Kind) : c.withTable k (c.table k) = c := by
  cases k <;> rfl

/-- Answers a request about a kind of objects. -/
def answer (k : Kind) (r : ObjectRequest k.Body) (c : Cluster) : Result r.Reply × Cluster :=
  let (reply, t) := (c.table k).answer r
  (reply, c.withTable k t)

end Cluster

end TenantOverlay
