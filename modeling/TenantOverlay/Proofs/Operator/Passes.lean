import TenantOverlay.Proofs.Handlers.Cleanup
import TenantOverlay.Proofs.Handlers.Daemon
import TenantOverlay.Proofs.Handlers.NetworkNamespace
import TenantOverlay.Proofs.Handlers.RoleBindings
import TenantOverlay.Proofs.Handlers.StoredNetwork
import TenantOverlay.Proofs.Operator.Generations

/-!
# What passes over the shipped handlers do

A deletion pass that is done has left nothing of the network and of the cleanup
(`ensures_deletionPass`), and a creation pass that is done has brought about everything that is
wanted (`ensures_creationPass`). Both hold while calls fail and others are at work, as long as these
leave the kinds of a network alone. Each handler leaves what the earlier ones have done as it is, for
their footprints are apart.
-/

namespace TenantOverlay

open Fallible MemoryServices

namespace Overlay

variable (o : Overlay)

/-- What a deletion pass may change. -/
def deletionFootprint : Footprint where
  stores := o.cleanupPlaces ++ o.jobPlaces
  deletes := o.networkPlaces ++ o.cleanupPlaces

lemma deletionFootprint_stores : o.deletionFootprint.stores ⊆ o.places := by
  simp [deletionFootprint, places]

lemma deletionFootprint_deletes : o.deletionFootprint.deletes ⊆ o.places := by
  simp [deletionFootprint, places]

/-- What a creation pass may change. -/
def creationFootprint : Footprint where
  stores := o.networkPlaces
  deletes := [bindingPlace o.roleBinding, bindingPlace o.pspRoleBinding]
  writes := [(o.entryPath, o.networkEntry.render)]

lemma creationFootprint_deletes : o.creationFootprint.deletes ⊆ o.networkPlaces := by
  simp [creationFootprint, networkPlaces]

end Overlay

section Parts

variable (o : Overlay)

lemma Daemon.deletion_within : (deletion o).Within o.deletionFootprint where
  stores := by simp [deletion]
  deletes := by simp [deletion, Overlay.deletionFootprint, Overlay.networkPlaces]
  writes := by simp [deletion]

lemma Cleanup.deletion_within : (deletion o).Within o.deletionFootprint where
  stores := by simp [deletion, Overlay.deletionFootprint]
  deletes := by
    simp [deletion, Overlay.deletionFootprint, Overlay.networkPlaces, Overlay.cleanupPlaces]
  writes := by simp [deletion]

lemma NetworkNamespace.deletion_within : (deletion o).Within o.deletionFootprint where
  stores := by simp [deletion]
  deletes := by simp [deletion, Overlay.deletionFootprint, Overlay.networkPlaces]
  writes := by simp [deletion]

lemma RoleBindings.deletion_within :
    (deletion [o.roleBinding, o.pspRoleBinding]).Within o.deletionFootprint where
  stores := by simp [deletion]
  deletes := by simp [deletion, Overlay.deletionFootprint, Overlay.networkPlaces]
  writes := by simp [deletion]

lemma RoleBindings.creation_within :
    (creation [o.roleBinding, o.pspRoleBinding]).Within o.creationFootprint where
  stores := by simp [creation, Overlay.creationFootprint, Overlay.networkPlaces]
  deletes := by simp [creation, Overlay.creationFootprint]
  writes := by simp [creation]

lemma StoredNetwork.creation_within : (creation o).Within o.creationFootprint where
  stores := by simp [creation]
  deletes := by simp [creation]
  writes := by simp [creation, Overlay.creationFootprint]

lemma NetworkNamespace.creation_within : (creation o).Within o.creationFootprint where
  stores := by simp [creation, Overlay.creationFootprint, Overlay.networkPlaces]
  deletes := by simp [creation]
  writes := by simp [creation]

lemma Cleanup.creation_within : (creation o).Within o.creationFootprint where
  stores := by simp [creation, Overlay.creationFootprint, Overlay.networkPlaces]
  deletes := by simp [creation]
  writes := by simp [creation]

lemma Daemon.creation_within : (creation o).Within o.creationFootprint where
  stores := by simp [creation, Overlay.creationFootprint, Overlay.networkPlaces]
  deletes := by simp [creation]
  writes := by simp [creation]

end Parts

variable {fault : Error → Prop} {others : MemoryServices → MemoryServices → Prop}
  {s : MemoryServices}

/-- A deletion pass that is done has taken away the network and what the cleanup made. It leaves the
network's entry without a value if the one it had was readable. -/
theorem ensures_deletionPass (q : Quiet fault others) (c : SetConfig) (daemon : DaemonConfig)
    (own : Version) (o : Overlay) (P : Prop) (filedNamespaces : (s.cluster.table .namespaces).Filed)
    (filedBindings : (s.cluster.table .roleBindings).Filed)
    (readable : P → StoredNetwork.Readable o s.store) :
    Ensures (environment fault others) (fun c _ => o.deletionFootprint.Covers c)
      (fun r t => r = .done → t.Lacks (o.networkPlaces ++ o.cleanupPlaces) ∧
        (P → t.store.get? o.entryPath = none))
      (fun _ _ => True) (runPass (Generation.shippedHandlers c daemon own) o true) s := by
  have keeps (f : Footprint) (hw : f.writes = []) :
      (environment fault others).Keeps (fun c _ => f.Covers c) fun s =>
        (s.cluster.table .namespaces).Filed ∧ (s.cluster.table .roleBindings).Filed ∧
          (P → StoredNetwork.Readable o s.store) := by
    refine (q.keeps_filed rfl).and ((q.keeps_filed rfl).and (Environment.Keeps.imp ?_ P))
    refine q.keeps_value fun value m => ?_
    rw [hw] at m
    cases m
  have lacks {f : Footprint} (hs : f.stores = []) {places : List Place}
      (hp : ∀ p ∈ places, p.kind.isOfNetwork = true) :
      (environment fault others).Keeps (fun c _ => f.Covers c) fun s => s.Lacks places :=
    q.keeps_lacks places hp fun _ _ m => List.not_mem_nil (hs ▸ m)
  -- The daemon set goes first.
  refine ensures_runHandlers_cons ((daemon_deletes q daemon own true o).ensure c.retry trivial)
    (fun _ _ h => h.within (Daemon.deletion_within o)) (keeps _ rfl)
    ⟨filedNamespaces, filedBindings, readable⟩ fun t gone1 base => ?_
  -- The cleanup creates objects of its own, but none in the place of the daemon set.
  refine ensures_runHandlers_cons ((cleanup_deletes q o c.teardown).ensure c.retry trivial)
    (fun _ _ h => h.within (Cleanup.deletion_within o))
    ((keeps _ rfl).and (q.keeps_lacks [o.daemonSetPlace] ?_ ?_)) ⟨base, gone1⟩
    fun t gone2 base => ?_
  · simp [Kind.isOfNetwork]
  · simp [Cleanup.deletion, Overlay.cleanupPlaces, Overlay.jobPlaces]
  obtain ⟨base, gone1⟩ := base
  -- From here on nothing is stored any more.
  refine ensures_runHandlers_cons ((networkNamespace_deletes q o).ensure c.retry base.1)
    (fun _ _ h => h.within (NetworkNamespace.deletion_within o)) ((keeps _ rfl).and (lacks rfl ?_))
    ⟨base, gone1.append gone2⟩ fun t gone3 base => ?_
  · simp [Kind.isOfNetwork, Overlay.cleanupPlaces]
  obtain ⟨base, gone⟩ := base
  refine ensures_runHandlers_cons ((storedNetwork_deletes q o P).ensure c.retry base.2.2)
    (fun _ _ => Footprint.Covers.of_empty) ((keeps _ rfl).and (lacks rfl ?_))
    ⟨base, gone.append gone3⟩ fun t noValue base => ?_
  · simp [Kind.isOfNetwork, Overlay.cleanupPlaces]
  obtain ⟨base, gone⟩ := base
  refine ensures_runHandlers_cons ((roleBindings_deletes q o).ensure c.retry base.2.1)
    (fun _ _ h => h.within (RoleBindings.deletion_within o))
    ((lacks rfl ?_).and ((q.keeps_noValue rfl).imp P)) ⟨gone, noValue⟩ fun t gone5 base => ?_
  · simp [Kind.isOfNetwork, Overlay.cleanupPlaces]
  refine ensures_runHandlers_nil ⟨(base.1.append gone5).subset ?_, base.2⟩
  simp [Overlay.networkPlaces, Overlay.cleanupPlaces]

/-- Everything of the network that a living overlay asks for is there. -/
structure Converged (daemon : DaemonConfig) (o : Overlay) (s : MemoryServices) : Prop where
  bindings : RoleBindings.Pending o.networkBindings [] [] s
  namespace_ : NetworkNamespace.Open o s
  account : (s.object? (o.accountPlace o.networkNamespace)).isSome = true
  daemonSet : ∃ d, o.daemonSet daemon = .ok d ∧ Daemon.Current o d s

/-- A creation pass that is done has brought about everything that is wanted. -/
theorem ensures_creationPass (q : Quiet fault others) (c : SetConfig) (daemon : DaemonConfig)
    (own : Version) (o : Overlay) (live : o.isDeleted = false)
    (filed : (s.cluster.table .roleBindings).Filed) :
    Ensures (environment fault others) (fun c _ => o.creationFootprint.Covers c)
      (fun r t => r = .done → Converged daemon o t) (fun _ _ => True)
      (runPass (Generation.shippedHandlers c daemon own) o false) s := by
  -- What a handler has brought about is kept by those after it, for they are about other objects.
  have keepsOpen {f : Footprint} (hs : o.networkNamespacePlace ∉ f.stores)
      (hd : o.networkNamespacePlace ∉ f.deletes) :
      (environment fault others).Keeps (fun c _ => f.Covers c) (NetworkNamespace.Open o) :=
    q.keeps_object o.networkNamespacePlace
      (fun v => ∃ n : Namespace, v = some n ∧ n.isTerminating = false) rfl hs hd
  refine ensures_runHandlers_cons (I := fun _ => True)
    ((roleBindings_creates q o).ensure c.retry filed)
    (fun _ _ h => h.within (RoleBindings.creation_within o))
    (environment_keeps settled_true fun _ _ _ _ => trivial) trivial fun t bindings _ => ?_
  refine ensures_runHandlers_cons ((storedNetwork_creates q o).ensure c.retry trivial)
    (fun _ _ h => h.within (StoredNetwork.creation_within o)) (RoleBindings.keeps_pending q ?_ ?_) bindings
    fun t _ bindings => ?_
  · simp [StoredNetwork.creation]
  · simp [StoredNetwork.creation]
  refine ensures_runHandlers_cons ((networkNamespace_creates q o).ensure c.retry trivial)
    (fun _ _ h => h.within (NetworkNamespace.creation_within o)) (RoleBindings.keeps_pending q ?_ ?_) bindings
    fun t isOpen bindings => ?_
  · simp [NetworkNamespace.creation]
  · simp [NetworkNamespace.creation]
  refine ensures_runHandlers_cons ((cleanup_creates q o c.teardown).ensure c.retry trivial)
    (fun _ _ h => h.within (Cleanup.creation_within o)) ((RoleBindings.keeps_pending q ?_ ?_).and (keepsOpen ?_ ?_))
    ⟨bindings, isOpen⟩ fun t account before => ?_
  · simp [Cleanup.creation]
  · simp [Cleanup.creation]
  · simp [Cleanup.creation]
  · simp [Cleanup.creation]
  obtain ⟨bindings, isOpen⟩ := before
  refine ensures_runHandlers_cons ((daemon_creates q daemon own true o live).ensure c.retry trivial)
    (fun _ _ h => h.within (Daemon.creation_within o))
    ((RoleBindings.keeps_pending q ?_ ?_).and ((keepsOpen ?_ ?_).and
      (q.keeps_object (o.accountPlace o.networkNamespace) (·.isSome = true) rfl ?_ ?_)))
    ⟨bindings, isOpen, account⟩ fun t daemonSet before => ?_
  · simp [Daemon.creation]
  · simp [Daemon.creation]
  · simp [Daemon.creation]
  · simp [Daemon.creation]
  · simp [Daemon.creation]
  · simp [Daemon.creation]
  exact ensures_runHandlers_nil ⟨before.1, before.2.1, before.2.2, daemonSet⟩

end TenantOverlay
