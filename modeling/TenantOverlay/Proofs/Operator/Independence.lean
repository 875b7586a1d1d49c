import TenantOverlay.Proofs.Operator.Circumstances
import TenantOverlay.Proofs.Operator.Generations
import TenantOverlay.Proofs.Program.Runs
import TenantOverlay.Proofs.Reconcile.Deletion

/-!
# Deletion does not depend on the network

An overlay can be deleted whatever its network section says, even if no network can be built from it. Each
handler deletes two overlays that differ only in their networks by related operations (`DeletesAlike`), for
all that it needs are names, which derive from the cluster's identifier; only the job of the cleanup
mentions the network. So the passes over the two overlays come to the same in the same circumstances
(`deletion_ignores_network`).
-/

namespace TenantOverlay

open Fallible
open Program (Congruence)

namespace Overlay

/-- The overlay with another network, and another image to probe it. -/
def withNetwork (o : Overlay) (network : NetworkSpec) (healthImage : String) : Overlay :=
  { o with body := { o.body with network := network, healthImage := healthImage } }

/-- Two overlays that differ in nothing but their networks and the images to probe them. -/
structure SameButNetwork (o o' : Overlay) : Prop where
  metadata : o.metadata = o'.metadata
  cluster : o.body.cluster = o'.body.cluster
  bridge : o.body.bridge = o'.body.bridge
  bundleVersion : o.body.bundleVersion = o'.body.bundleVersion

lemma SameButNetwork.exists_withNetwork {o o' : Overlay} (h : o.SameButNetwork o') :
    ∃ network healthImage, o' = o.withNetwork network healthImage := by
  refine ⟨o'.body.network, o'.body.healthImage, ?_⟩
  unfold withNetwork
  dsimp only
  rw [h.metadata, h.cluster, h.bridge, h.bundleVersion]

end Overlay

section Handlers

open Circumstances

variable {w : Circumstances}

section Steps

variable {o o' : Overlay}

lemma RoleBindings.alike_fetch (names : List String) :
    (w.alikeButJob o o').Alike (fetch names) (fetch names) := by
  induction names with
  | nil => exact Congruence.pure _
  | cons n names ih =>
    refine Congruence.fallible_bind (alike_ofObject (by decide) _) fun found => ?_
    exact Congruence.fallible_bind ih fun rest => Congruence.pure _

lemma RoleBindings.alike_deleteAll (bindings : List RoleBinding) :
    (w.alikeButJob o o').Alike (deleteAll bindings) (deleteAll bindings) := by
  induction bindings with
  | nil => exact Congruence.pure _
  | cons b bindings ih => exact Congruence.fallible_bind (alike_deleteIfExists (by decide) _ _) fun _ => ih

lemma Cleanup.alike_createBindings (bindings : List RoleBinding) :
    (w.alikeButJob o o').Alike (createBindings bindings) (createBindings bindings) := by
  induction bindings with
  | nil => exact Congruence.pure _
  | cons b bindings ih => exact Congruence.fallible_bind (alike_createIfMissing (by decide) _ _) fun _ => ih

lemma Cleanup.alike_prepareNamespace (o₀ : Overlay) :
    (w.alikeButJob o o').Alike (prepareNamespace o₀) (prepareNamespace o₀) := by
  refine Congruence.fallible_bind (alike_ofObject (by decide) _) fun found => ?_
  cases found with
  | some n => exact Congruence.pure _
  | none => exact Congruence.fallible_bind (alike_createIfMissing (by decide) _ _) fun _ => Congruence.pure _

lemma Cleanup.alike_removeAll (o₀ : Overlay) :
    (w.alikeButJob o o').Alike (removeAll o₀) (removeAll o₀) := by
  refine Congruence.fallible_bind (alike_deleteIfExists (by decide) _ _) fun _ => ?_
  refine Congruence.fallible_bind (alike_deleteIfExists (by decide) _ _) fun _ => ?_
  refine Congruence.fallible_bind (alike_deleteIfExists (by decide) _ _) fun _ => ?_
  exact Congruence.fallible_bind (alike_deleteIfExists (by decide) _ _) fun _ => Congruence.pure _

lemma Daemon.alike_inUse (o₀ : Overlay) : (w.alikeButJob o o').Alike (inUse o₀) (inUse o₀) := by
  unfold inUse
  split
  · exact Congruence.fallible_bind (alike_ofObject (by decide) _) fun pods => Congruence.pure _
  · exact Congruence.pure _

lemma Daemon.alike_recordGeneration (counted : Bool) (d : DaemonSet) :
    (w.alikeButJob o o').Alike (recordGeneration counted d) (recordGeneration counted d) := by
  unfold recordGeneration
  split
  · exact timed.recorded _
  · exact Congruence.pure _

lemma Daemon.alike_current (own : Version) (counted : Bool) (o₀ : Overlay) :
    (w.alikeButJob o o').Alike (current own counted o₀) (current own counted o₀) := by
  refine Congruence.fallible_bind (alike_inUse o₀) fun used => ?_
  split
  · exact Congruence.pure _
  · refine Congruence.fallible_bind (alike_ofObject (by decide) _) fun found => ?_
    cases found with
    | none => exact Congruence.pure _
    | some d => exact Congruence.fallible_bind (alike_recordGeneration _ _) fun _ => Congruence.pure _

lemma StoredNetwork.alike_fetch {o₁ o₂ : Overlay} (path : o₁.entryPath = o₂.entryPath) :
    (w.alikeButJob o o').Alike (fetch o₁) (fetch o₂) := by
  unfold fetch
  rw [path]
  refine Congruence.fallible_bind (Congruence.orElseIf _ _ (Congruence.map _ (alike_ofStore _))) fun stored => ?_
  cases stored with
  | none => exact Congruence.pure _
  | some text => exact Congruence.ofResult _

end Steps

variable {o : Overlay} {network : NetworkSpec} {healthImage : String}

lemma roleBindings_deletesAlike :
    roleBindingsResource.DeletesAlike (w.alikeButJob o (o.withNetwork network healthImage)) o
      (o.withNetwork network healthImage) where
  desired := ⟨_, _, rfl, rfl⟩
  deletePatch _ _ _ := ⟨_, rfl, rfl⟩
  current := Congruence.fallible_bind (RoleBindings.alike_fetch _) fun _ => Congruence.pure _
  delete _ := Congruence.fallible_bind (RoleBindings.alike_deleteAll _) fun _ => Congruence.pure _

lemma storedNetwork_deletesAlike :
    storedNetworkResource.DeletesAlike (w.alikeButJob o (o.withNetwork network healthImage)) o
      (o.withNetwork network healthImage) where
  desired := ⟨_, _, rfl, rfl⟩
  deletePatch _ _ _ := ⟨_, rfl, rfl⟩
  current := Congruence.fallible_bind (StoredNetwork.alike_fetch rfl) fun _ => Congruence.pure _
  delete _ :=
    Congruence.fallible_bind (Congruence.orElseIf _ _ (alike_ofStore _)) fun _ => Congruence.pure _

lemma networkNamespace_deletesAlike :
    networkNamespaceResource.DeletesAlike (w.alikeButJob o (o.withNetwork network healthImage)) o
      (o.withNetwork network healthImage) where
  desired := ⟨_, _, rfl, rfl⟩
  deletePatch _ _ _ := ⟨_, rfl, rfl⟩
  current := Congruence.fallible_bind (alike_ofObject (by decide) _) fun _ => Congruence.pure _
  delete found := by
    unfold networkNamespaceResource
    dsimp only
    split
    · exact Congruence.pure _
    · exact Congruence.fallible_bind (alike_deleteIfExists (by decide) _ _) fun _ => Congruence.pure _

lemma daemon_deletesAlike {config : DaemonConfig} {own : Version} {counted : Bool}
    (deleted : o.isDeleted = true) :
    (daemonResource config own counted).DeletesAlike (w.alikeButJob o (o.withNetwork network healthImage))
      o (o.withNetwork network healthImage) where
  desired := ⟨none, none, if_pos deleted, if_pos deleted⟩
  deletePatch _ _ _ := ⟨_, rfl, rfl⟩
  current := Daemon.alike_current own counted o
  delete _ := Congruence.fallible_bind (alike_deleteIfExists (by decide) _ _) fun _ => Congruence.pure _

/-- The job tells only how far it has come. -/
lemma Cleanup.alike_checkJob {hosts : Int} :
    (w.alikeButJob o (o.withNetwork network healthImage)).Alike (checkJob o hosts)
      (checkJob (o.withNetwork network healthImage) hosts) := by
  refine alike_getJob ?_ fun job job' same => ?_
  · exact Congruence.ofResult (.error _)
  · dsimp only
    rw [same.succeeded]
    split
    · exact Congruence.ofResult (.error _)
    · exact Congruence.pure _

lemma Cleanup.alike_runJob {policy : BackoffPolicy} :
    (w.alikeButJob o (o.withNetwork network healthImage)).Alike (runJob policy o)
      (runJob policy (o.withNetwork network healthImage)) := by
  refine alike_getJob ?_ fun job job' same => ?_
  · refine Congruence.fallible_bind (alike_ofObject (by decide) _) fun nodes => ?_
    dsimp only
    split
    · refine Congruence.fallible_bind (alike_createJob rfl) fun _ => ?_
      exact Congruence.fallible_bind (timed.retry policy alike_checkJob) fun _ => Congruence.pure _
    · exact Congruence.pure _
  · dsimp only
    rw [same.succeeded, same.completions]
    exact Congruence.pure _

lemma Cleanup.alike_teardown {policy : BackoffPolicy} :
    (w.alikeButJob o (o.withNetwork network healthImage)).Alike (teardown policy o)
      (teardown policy (o.withNetwork network healthImage)) := by
  refine Congruence.fallible_bind (alike_ofObject (by decide) _) fun pods => ?_
  split
  · exact Congruence.pure _
  · refine Congruence.fallible_bind (alike_prepareNamespace o) fun removed => ?_
    split
    · exact Congruence.pure _
    · refine Congruence.fallible_bind (alike_createBindings _) fun _ => ?_
      refine Congruence.fallible_bind (alike_createIfMissing (by decide) _ _) fun _ => ?_
      refine Congruence.fallible_bind alike_runJob fun complete => ?_
      split
      · exact Congruence.pure _
      · exact Congruence.fallible_bind (alike_removeAll o) fun _ => Congruence.pure _

lemma cleanup_deletesAlike {policy : BackoffPolicy} :
    (cleanupResource policy).DeletesAlike (w.alikeButJob o (o.withNetwork network healthImage)) o
      (o.withNetwork network healthImage) where
  desired := ⟨_, _, rfl, rfl⟩
  deletePatch _ _ _ := ⟨_, rfl, rfl⟩
  current := Congruence.fallible_bind (alike_ofObject (by decide) _) fun _ => Congruence.pure _
  delete _ := Cleanup.alike_teardown

end Handlers

namespace Generation

variable {c : SetConfig} {daemon : DaemonConfig} {own : Version} {o : Overlay} {w : Circumstances}
  {network : NetworkSpec} {healthImage : String}

/-- The resources of a generation whose daemon is deployed in one way. -/
def shippedResources (c : SetConfig) (daemon : DaemonConfig) (own : Version) :
    List (Resource services Overlay) := [
  roleBindingsResource, storedNetworkResource, networkNamespaceResource, cleanupResource c.teardown,
  daemonResource daemon own true]

lemma shippedHandlers_eq : shippedHandlers c daemon own =
    (shippedResources c daemon own).map fun r => (r.underPolicy c.retry).handler := rfl

/-- Every resource of a generation deletes two overlays alike that differ only in their networks. -/
lemma shipped_deletesAlike (deleted : o.isDeleted = true) {r : Resource services Overlay}
    (m : r ∈ shippedResources c daemon own) :
    r.DeletesAlike (w.alikeButJob o (o.withNetwork network healthImage)) o
      (o.withNetwork network healthImage) := by
  simp only [shippedResources, List.mem_cons, List.not_mem_nil, or_false] at m
  obtain rfl | rfl | rfl | rfl | rfl := m
  · exact roleBindings_deletesAlike
  · exact storedNetwork_deletesAlike
  · exact networkNamespace_deletesAlike
  · exact cleanup_deletesAlike
  · exact daemon_deletesAlike deleted

/-- So does a pass. -/
lemma alike_runPass (deleted : o.isDeleted = true) :
    (w.alikeButJob o (o.withNetwork network healthImage)).Alike
      (runPass (shippedHandlers c daemon own) o true)
      (runPass (shippedHandlers c daemon own) (o.withNetwork network healthImage) true) := by
  rw [shippedHandlers_eq]
  refine Congruence.runPass (fun _ _ => rfl) fun r m => ?_
  exact (shipped_deletesAlike deleted m).ensureDeleted Circumstances.timed c.retry

end Generation

section Engine

variable {c : SetConfig} {registry registry' : Registry} {engine : Engine services Overlay} {o : Overlay}

/-- Whatever the answers are, a deletion fails at no other stage than those at which calls are made. -/
lemma operatorEngine_failedAt (built : operatorEngine c registry = .ok (engine, registry'))
    (deleted : o.isDeleted = true) {log : List (Exchange services)} {e : PassError}
    (run : Runs (engine.reconcile o) log (.error e)) : e.stage = .fetchingCurrent ∨ e.stage = .applying := by
  have pass : Ensures (.logged fun _ => True) (fun _ _ => True)
      (fun r _ => ∀ outcome : PassOutcome, r = some outcome → True)
      (fun e _ => e.stage = .fetchingCurrent ∨ e.stage = .applying) (engine.reconcile o) [] := by
    refine operatorEngine_ensures built fun g daemon own _ _ _ => ?_
    rw [deleted, Generation.shippedHandlers_eq]
    refine ensures_runHandlers fun handler m t => ?_
    obtain ⟨r, shipped, rfl⟩ := List.mem_map.1 (List.mem_reverse.1 m)
    -- Of the resource only its plans matter here, so any circumstances and any other network will do.
    have alike : r.DeletesAlike (Circumstances.alikeButJob {} o (o.withNetwork o.body.network "")) o _ :=
      Generation.shipped_deletesAlike deleted shipped
    exact alike.ensures_stage c.retry t
  have reached := Program.runs_iff_reaches.1 run
  exact Program.Ensures.reaches pass (fun _ _ _ same h => same ▸ h) reached

/-- The deletion of an overlay does not depend on its network. In the same circumstances, passes over two
deleted overlays that differ in nothing else come to the same outcome, or to the same error of the same
handler at the same stage, and leave the same services, except for the job of the cleanup if the pass has
created it. And whatever calls are answered with, no deletion fails for a desired state or a patch. -/
theorem deletion_ignores_network (built : operatorEngine c registry = .ok (engine, registry'))
    (deleted : o.isDeleted = true) :
    (∀ o' : Overlay, o.SameButNetwork o' → ∀ (w : Circumstances) (s : MemoryServices),
        (w.run (engine.reconcile o) s).1 = (w.run (engine.reconcile o') s).1 ∧
          (w.run (engine.reconcile o) s).2.AlikeButJob o o' (w.run (engine.reconcile o') s).2) ∧
      ∀ log e, Runs (engine.reconcile o) log (.error e) →
        e.stage ≠ .fetchingDesired ∧ e.stage ≠ .computingPatch := by
  refine ⟨fun o' same w s => ?_, fun log e run => ?_⟩
  · obtain ⟨network, healthImage, rfl⟩ := same.exists_withNetwork
    have alike : (w.alikeButJob o (o.withNetwork network healthImage)).Alike (engine.reconcile o)
        (engine.reconcile (o.withNetwork network healthImage)) := by
      refine Engine.alike_reconcile Circumstances.timed rfl fun set resolved => ?_
      obtain ⟨daemon, own, -, handlers⟩ := operatorEngine_shipped built resolved
      show (w.alikeButJob o _).Alike (runPass set.handlers o o.isDeleted) (runPass set.handlers _ o.isDeleted)
      rw [deleted, handlers]
      exact Generation.alike_runPass deleted
    exact alike { services := s } { services := s } ⟨rfl, .refl s⟩
  · obtain stage | stage := operatorEngine_failedAt built deleted run
    · rw [stage]
      exact ⟨nofun, nofun⟩
    · rw [stage]
      exact ⟨nofun, nofun⟩

/-- An overlay from which no network can be built is deleted like a valid one, on a cluster with one node and
while a call fails. The jobs that the two passes create are not the same. -/
theorem broken_network_deleted :
    ∃ (o o' : Overlay) (w : Circumstances) (s : MemoryServices),
      o = (Overlay.sample "a").markedDeleted { seconds := 0 } ∧ o.SameButNetwork o' ∧ o.isDeleted = true ∧
      o.body.validate = .ok () ∧
      o'.body.validate = .error (.invalidConfig (.emptyField "spec.flannel.spec.network")) ∧
      (w.run (Engine.sample.reconcile o) s).1 = .ok (some .done) ∧
      (w.run (Engine.sample.reconcile o') s).1 = .ok (some .done) ∧
      (w.run (Engine.sample.reconcile o) s).2.AlikeButJob o o' (w.run (Engine.sample.reconcile o') s).2 ∧
      (w.run (Engine.sample.reconcile o) s).2.services.object? o.jobPlace ≠
        (w.run (Engine.sample.reconcile o') s).2.services.object? o.jobPlace ∧
      ∀ log e, Runs (Engine.sample.reconcile o') log (.error e) →
        e.stage ≠ .fetchingDesired ∧ e.stage ≠ .computingPatch := by
  obtain ⟨_, built⟩ := operatorEngine_sample
  let o := (Overlay.sample "a").markedDeleted { seconds := 0 }
  let o' := o.withNetwork ⟨"", 0, "", 0⟩ ""
  let w : Circumstances := {
    others := fun _ => [.progress (some o.destroyerNamespace) destroyerApp (some { succeeded := some 1 })]
    fault := fun time => if time = 13 then some (.timeout "t", true) else none
    repetitions := fun _ _ => 3 }
  let node : Node := { metadata := { name := some "n" }, body := {} }
  let s := (MemoryServices.answer (.cluster .nodes (.create none node)) {}).2
  have same : o.SameButNetwork o' := ⟨rfl, rfl, rfl, rfl⟩
  obtain ⟨runs, -⟩ := deletion_ignores_network built (o := o) rfl
  obtain ⟨-, stages⟩ := deletion_ignores_network built (o := o.withNetwork ⟨"", 0, "", 0⟩ "") rfl
  obtain ⟨results, ends⟩ := runs o' same w s
  have done : (w.run (Engine.sample.reconcile o) s).1 = .ok (some .done) := by decide +kernel
  have jobs : (w.run (Engine.sample.reconcile o) s).2.services.object? o.jobPlace ≠
      (w.run (Engine.sample.reconcile o') s).2.services.object? o.jobPlace := by decide +kernel
  exact ⟨o, o', w, s, rfl, same, rfl, by decide +kernel, by decide +kernel, done, results.symm.trans done, ends,
    jobs, stages⟩

end Engine

end TenantOverlay
