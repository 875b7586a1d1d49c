import TenantOverlay.Handlers.NetworkNamespace
import TenantOverlay.Proofs.Operator.Environment
import TenantOverlay.Proofs.Overlay.Naming
import TenantOverlay.Proofs.Reconcile.Handler

/-!
# What the handler of the network's namespace does

A deletion takes the namespace away. A creation leaves one that takes new objects: one that is being
removed ends the pass before anything is created.
-/

namespace TenantOverlay

open Fallible MemoryServices Overlay

variable {fault : Error → Prop} {others : MemoryServices → MemoryServices → Prop}

namespace NetworkNamespace

/-- What a deletion may change. -/
def deletion (o : Overlay) : Footprint := { deletes := [o.networkNamespacePlace] }

/-- What a creation may change. -/
def creation (o : Overlay) : Footprint := { stores := [o.networkNamespacePlace] }

/-- A namespace that was found has the name it was looked for, and if none was found there is none. -/
structure Found (o : Overlay) (v : Option Namespace) (s : MemoryServices) : Prop where
  name (n : Namespace) : v = some n → n.metadata.name = some o.networkNamespace
  absent : v = none → s.object? o.networkNamespacePlace = none

/-- There is a namespace, and it takes new objects. -/
def Open (o : Overlay) (s : MemoryServices) : Prop :=
  ∃ n : Namespace, s.object? o.networkNamespacePlace = some n ∧ n.isTerminating = false

/-- If there is a namespace, it takes new objects. -/
def NotClosed (o : Overlay) (s : MemoryServices) : Prop :=
  ∀ n : Namespace, s.object? o.networkNamespacePlace = some n → n.isTerminating = false

/-- What has no name is not deleted. -/
lemma delete_unnamed {o : Overlay} {v : Option Namespace}
    (h : (v.bind fun n => n.metadata.name) = none) :
    networkNamespaceResource.delete o v = return .proceed := by
  simp only [networkNamespaceResource, h]

/-- A namespace is deleted under the name that it has. -/
lemma delete_named {o : Overlay} {v : Option Namespace} {name : String}
    (h : (v.bind fun n => n.metadata.name) = some name) :
    networkNamespaceResource.delete o v =
      (do let _ ← Kind.deleteIfExists .namespaces none name; return .proceed) := by
  simp only [networkNamespaceResource, h]

/-- Either the namespace is to be created, or there is one. -/
def Planned (o : Overlay) (p : Patch (Option Namespace)) (s : MemoryServices) : Prop :=
  p.update = none ∧ ((p.create = some (some (o.namespaceManifest o.networkNamespace networkApp)) ∧
    NotClosed o s) ∨ (p.create = none ∧ Open o s))

end NetworkNamespace

open NetworkNamespace

/-- A deletion takes the namespace of the network away. -/
theorem networkNamespace_deletes (q : Quiet fault others) (o : Overlay) :
    networkNamespaceResource.Deletes (environment fault others)
      (fun c _ => (NetworkNamespace.deletion o).Covers c) o
      (fun s => (s.cluster.table .namespaces).Filed) (NetworkNamespace.Found o)
      (fun s => s.Lacks [o.networkNamespacePlace]) where
  current s h := by
    refine ensures_bind ((ensures_get (q.settled_filed rfl) h fun _ _ => Footprint.covers_get).post
      ?_ fun _ _ p => p)
    rintro v t ⟨e, filed⟩
    refine ensures_pure fun w eq => ?_
    split at eq
    · cases eq
    · cases eq
      exact ⟨fun n found => (filed _ n (e ▸ found)).1, fun none => e ▸ none⟩
  desired v s h := ensures_pure h
  patch v d s h := by
    refine ensures_pure ⟨fun e p m => ?_, fun w e => ?_⟩
    · obtain rfl := List.mem_singleton.1 m
      exact h.absent (Option.isNone_iff_eq_none.1 (@Patch.remove_delete_eq_none (Option Namespace) _ v e))
    · obtain rfl := @Patch.remove_delete_eq_some (Option Namespace) _ v w e
      exact h
  delete v s h := by
    cases v with
    | none =>
      refine ensures_pure fun _ p m => ?_
      obtain rfl := List.mem_singleton.1 m
      exact h.absent rfl
    | some n =>
      -- The name that it has is the one it was looked for.
      rw [delete_named (v := some n) (h.name n rfl)]
      refine ensures_bind ((ensures_deleteIfExists (fun _ => q.notFound) fun _ =>
        Footprint.covers_delete List.mem_cons_self).post ?_ fun _ _ _ => ⟨h.name, nofun⟩)
      intro _ t gone
      refine ensures_pure fun _ p m => ?_
      obtain rfl := List.mem_singleton.1 m
      exact gone

/-- Creation leaves a namespace for the network that takes new objects. -/
theorem networkNamespace_creates (q : Quiet fault others) (o : Overlay) :
    networkNamespaceResource.Creates (environment fault others)
      (fun c _ => (NetworkNamespace.creation o).Covers c) o (fun _ => True)
      (fun v s => s.object? o.networkNamespacePlace = v ∧ v.any Manifest.isTerminating = false)
      (NetworkNamespace.Planned o) (fun p s => p.update = none ∧ Open o s) (Open o) where
  current s _ := by
    refine ensures_bind ((ensures_get settled_true trivial fun _ _ => Footprint.covers_get).post ?_
      fun _ _ _ => trivial)
    rintro v t ⟨e, -⟩
    refine ensures_pure fun w eq => ?_
    split at eq
    · cases eq
    · cases eq
      exact ⟨e.symm, Bool.eq_false_iff.2 ‹_›⟩
  desired v s h := by
    refine ensures_pure (ensures_pure ?_)
    obtain ⟨found, takes⟩ := h
    cases v with
    | none => exact ⟨rfl, .inl ⟨rfl, fun n e => nomatch found.symm.trans e⟩⟩
    | some n => exact ⟨rfl, .inr ⟨rfl, n, found, takes⟩⟩
  nothingToCreate p s h e := by
    obtain ⟨noUpdate, ⟨create, -⟩ | ⟨-, is⟩⟩ := h
    · exact nomatch create.symm.trans e
    · exact ⟨noUpdate, is⟩
  create p w s h e := by
    obtain ⟨noUpdate, ⟨create, fresh⟩ | ⟨noCreate, -⟩⟩ := h
    · cases create.symm.trans e
      have created : Ensures (environment fault others)
          (fun c _ => (NetworkNamespace.creation o).Covers c) (fun _ => Open o) (fun _ => NotClosed o)
          (Kind.createIfMissing .namespaces none (o.namespaceManifest o.networkNamespace networkApp))
          s :=
        ensures_createIfMissing (q.settled_object o.networkNamespacePlace
            (fun v => ∀ n, v = some n → n.isTerminating = false) rfl)
          (fun _ => q.alreadyExists) rfl (fun _ => rfl)
          (fun _ => Footprint.covers_create rfl List.mem_cons_self) fresh
      refine ensures_bind (created.post ?_ fun _ _ fresh => ⟨noUpdate, .inl ⟨create, fresh⟩⟩)
      exact fun _ t is => ensures_pure fun _ => ⟨noUpdate, is⟩
    · exact nomatch noCreate.symm.trans e
  nothingToUpdate p s h _ := h.2
  update p w s h e := nomatch h.1.symm.trans e

end TenantOverlay
