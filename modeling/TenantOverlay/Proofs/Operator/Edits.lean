import TenantOverlay.Operator.Reconciler
import TenantOverlay.Proofs.Operator.Environment
import TenantOverlay.Proofs.Overlay.Naming

/-!
# What others do to an overlay

Others work on pods, nodes and jobs as they like. Of an overlay they can change anything but its
name, the identifier of its cluster and its finalizers, and they can delete it once it is marked for
deletion and has no finalizers (`Permitted`). They leave alone what a network has (`quiet_outside`).
-/

namespace TenantOverlay

/-- The place of an overlay. -/
abbrev overlayPlace (key : ObjectKey) : Place := ⟨.overlays, key⟩

/-- The overlay that is stored under a key. -/
def MemoryServices.overlay? (s : MemoryServices) (key : ObjectKey) : Option Overlay :=
  s.object? (overlayPlace key)

/-- What others may call, of which the overlay under a key is one concern. -/
inductive Permitted (key : ObjectKey) (s : MemoryServices) : OperatorCall → Prop where
  | work {k : Kind} (request : ObjectRequest k.Body) : k ∈ [.pods, .nodes, .jobs] →
    Permitted key s (.cluster k request)
  | edit {o : Overlay} (o' : Overlay) : s.overlay? key = some o →
    o'.metadata.name = o.metadata.name → o'.clusterId = o.clusterId →
    o'.finalizers = o.finalizers →
    Permitted key s (.cluster .overlays (.replace o.metadata.namespaceName o'))
  | delete {o : Overlay} : s.overlay? key = some o → o.isDeleted = true → o.finalizers = [] →
    Permitted key s (.cluster .overlays (.delete o.metadata.namespaceName key.name))

/-- A call of others. -/
def Outside (key : ObjectKey) (s t : MemoryServices) : Prop :=
  ∃ c, Permitted key s c ∧ t = (s.answer c).2

open MemoryServices

variable {key : ObjectKey} {s t : MemoryServices}

/-- Pods, nodes and jobs are neither overlays nor parts of a network. -/
lemma of_mem_work {k : Kind} (h : k ∈ [.pods, .nodes, .jobs]) :
    k ≠ .overlays ∧ k.isOfNetwork = false := by
  revert k
  decide

/-- What others call is not about objects that a network has. -/
lemma Permitted.about {c : OperatorCall} (h : Permitted key s c) :
    ∃ (k : Kind) (request : ObjectRequest k.Body), c = .cluster k request ∧ k.isOfNetwork = false := by
  cases h with
  | work request free => exact ⟨_, request, rfl, (of_mem_work free).2⟩
  | edit o' _ _ _ _ => exact ⟨.overlays, _, rfl, rfl⟩
  | delete _ _ _ => exact ⟨.overlays, _, rfl, rfl⟩

/-- Others leave alone the kinds of objects that a network has, and the store. -/
lemma quiet_outside (key : ObjectKey) : Quiet Error.IsSilent (Outside key) where
  notFound e := e.1
  alreadyExists e := e.2
  table {s t k} o network := by
    obtain ⟨c, permitted, rfl⟩ := o
    obtain ⟨l, request, rfl, other⟩ := permitted.about
    apply table_answer_of_ne
    rintro rfl
    exact absurd (network.symm.trans other) (by decide)
  store {s t} o := by
    obtain ⟨c, permitted, rfl⟩ := o
    obtain ⟨l, request, rfl, -⟩ := permitted.about
    rfl

end TenantOverlay
