import TenantOverlay.Proofs.Handlers.Daemon
import TenantOverlay.Proofs.Handlers.NetworkNamespace
import TenantOverlay.Proofs.Operator.Generations
import TenantOverlay.Proofs.Overlay.Tenants
import TenantOverlay.Proofs.Reconcile.Confinement

/-!
# What the handlers own

A pass over an overlay changes only what the overlay `Owns`: objects at its places, and the keys of
its network. This holds whatever the answers are, if only an object is found under the name it was
asked for (`Exchange.Named`): the handlers of role bindings and of the namespace delete objects under
the names that they have found. Each handler is confined to what the overlay owns on its own, while it
lives and when it is deleted, and so is the pass (`Overlay.confines_pass`).
-/

namespace TenantOverlay

open Fallible

/-- The key that a call may clear, together with all below it. -/
def OperatorCall.clears? : OperatorCall → Option String
  | .store (.delete key) => some (normalizeKey key)
  | .cluster .. | .store _ => none

/-- Whatever a call may change belongs to an overlay. -/
structure Overlay.Owns (o : Overlay) (c : OperatorCall) : Prop where
  stores {p : Place} : c.stores? = some p → p ∈ o.places
  deletes {p : Place} : c.deletes? = some p → p ∈ o.places
  writes {w : String × String} : c.writes? = some w → o.HasKey w.1
  clears {key : String} : c.clears? = some key → key = normalizeKey o.storePath

namespace Overlay.Owns

variable {o : Overlay} {k : Kind} {ns : Option String} {name : String}

lemma get : o.Owns (.cluster k (.get ns name)) := ⟨nofun, nofun, nofun, nofun⟩

lemma list {selector : Option String} : o.Owns (.cluster k (.list ns selector)) :=
  ⟨nofun, nofun, nofun, nofun⟩

lemma search {key : String} : o.Owns (.store (.search key)) := ⟨nofun, nofun, nofun, nofun⟩

lemma create {v : k.Object} (hn : v.metadata.name = some name) (h : ⟨k, .of ns name⟩ ∈ o.places) :
    o.Owns (.cluster k (.create ns v)) := by
  refine ⟨fun e => ?_, nofun, nofun, nofun⟩
  simp only [OperatorCall.stores?, ObjectRequest.stores?, hn, Option.map_some] at e
  cases e
  exact h

lemma replace {v : k.Object} (hn : v.metadata.name = some name) (h : ⟨k, .of ns name⟩ ∈ o.places) :
    o.Owns (.cluster k (.replace ns v)) := by
  refine ⟨fun e => ?_, nofun, nofun, nofun⟩
  simp only [OperatorCall.stores?, ObjectRequest.stores?, hn, Option.map_some] at e
  cases e
  exact h

lemma delete (h : ⟨k, .of ns name⟩ ∈ o.places) : o.Owns (.cluster k (.delete ns name)) := by
  refine ⟨nofun, fun e => ?_, nofun, nofun⟩
  cases e
  exact h

lemma write {key value : String} (h : o.HasKey (normalizeKey key)) :
    o.Owns (.store (.create key value)) := by
  refine ⟨nofun, nofun, fun e => ?_, nofun⟩
  cases e
  exact h

lemma clear {key : String} (h : normalizeKey key = normalizeKey o.storePath) :
    o.Owns (.store (.delete key)) := by
  refine ⟨nofun, nofun, nofun, fun e => ?_⟩
  cases e
  exact h

end Overlay.Owns

/-- The entry of the network is one of its keys. -/
lemma Overlay.hasKey_entryPath (o : Overlay) : o.HasKey (normalizeKey o.entryPath) := by
  rw [o.normalizeKey_entryPath]
  exact .inr o.isBelow_entryPath

/-- What is found under a name has that name. -/
def Exchange.Named (e : Exchange services) : Prop :=
  ∀ (k : Kind) (ns : Option String) (name : String) (v : k.Object),
    e = ⟨.cluster k (.get ns name), (.ok (some v) : Result (Option k.Object))⟩ →
      v.metadata.name = some name

/-- Whatever the answers, a program changes only what belongs to an overlay. -/
abbrev Overlay.Confines {ε α : Type} (o : Overlay) (a : Fallible services ε α) : Prop :=
  CallsOnly (.logged Exchange.Named) o.Owns a

/-- An object, if there is one, has a name. -/
def IsNamed {Body : Type} (name : String) (v : Option (Manifest Body)) : Prop :=
  ∀ x, v = some x → x.metadata.name = some name

lemma isNamed_none {Body : Type} {name : String} : IsNamed name (none : Option (Manifest Body)) := nofun

lemma isNamed_some {Body : Type} {name : String} {x : Manifest Body} (h : x.metadata.name = some name) :
    IsNamed name (some x) := by
  intro y e
  cases e
  exact h

variable {o : Overlay} {k : Kind} {ns : Option String} {name : String}

section Operations

lemma confines_get : o.Confines (k.get ns name) := OperatorAction.callsOnly_ofObject .get

lemma confines_list {selector : Option String} : o.Confines (k.list ns selector) :=
  OperatorAction.callsOnly_ofObject .list

lemma confines_createIfMissing {v : k.Object} (hn : v.metadata.name = some name)
    (h : ⟨k, .of ns name⟩ ∈ o.places) : o.Confines (k.createIfMissing ns v) :=
  OperatorAction.callsOnly_createIfMissing (.create hn h)

lemma confines_deleteIfExists (h : ⟨k, .of ns name⟩ ∈ o.places) :
    o.Confines (k.deleteIfExists ns name) :=
  OperatorAction.callsOnly_deleteIfExists (.delete h)

/-- What is got under a name has that name. -/
lemma ensures_getNamed (log : List (Exchange services)) :
    Ensures (.logged Exchange.Named) (fun c _ => o.Owns c) (fun v _ => IsNamed name v)
      (fun _ _ => True) (k.get ns name) log := by
  show Ensures _ _ _ _ (OperatorAction.ofObject k (.get ns name)) log
  apply OperatorAction.ensures_ofObject
  intro t _
  refine ⟨Overlay.Owns.get, ?_⟩
  rintro (e | v) u ⟨named, -⟩
  · trivial
  · rintro x rfl
    exact named k ns name x rfl

end Operations

namespace RoleBindings

/-- Some bindings are the network's own. -/
def Own (o : Overlay) (bindings : List RoleBinding) : Prop :=
  ∀ b ∈ bindings, ∃ name, b.metadata.name = some name ∧ Overlay.bindingPlace name ∈ o.places

lemma Own.tail {b : RoleBinding} {rest : List RoleBinding} (h : Own o (b :: rest)) : Own o rest :=
  fun c m => h c (List.mem_cons_of_mem _ m)

lemma own_networkBindings (o : Overlay) : Own o o.networkBindings := by
  intro b m
  simp only [Overlay.networkBindings, List.mem_cons, List.not_mem_nil, or_false] at m
  rcases m with rfl | rfl
  · exact ⟨o.roleBinding, rfl, by simp [Overlay.places, Overlay.networkPlaces]⟩
  · exact ⟨o.pspRoleBinding, rfl, by simp [Overlay.places, Overlay.networkPlaces]⟩

lemma own_deletionBindings (o : Overlay) : Own o o.deletionBindings := by
  intro b m
  simp only [Overlay.deletionBindings, List.mem_cons, List.not_mem_nil, or_false] at m
  rcases m with rfl | rfl
  · exact ⟨o.deletionRoleBinding, rfl, by simp [Overlay.places, Overlay.cleanupPlaces]⟩
  · exact ⟨o.deletionPspRoleBinding, rfl, by simp [Overlay.places, Overlay.cleanupPlaces]⟩

/-- The bindings that are fetched are those of the names that are asked for. -/
lemma ensures_fetchOwn {names : List String} (h : ∀ n ∈ names, Overlay.bindingPlace n ∈ o.places)
    (log : List (Exchange services)) :
    Ensures (.logged Exchange.Named) (fun c _ => o.Owns c) (fun v _ => Own o v) (fun _ _ => True)
      (fetch names) log := by
  induction names generalizing log with
  | nil => exact ensures_pure fun _ m => absurd m List.not_mem_nil
  | cons n rest ih =>
    refine ensures_bind ((ensures_getNamed log).post ?_ fun _ _ p => p)
    intro first t named
    have others := ih (fun n m => h n (List.mem_cons_of_mem _ m)) t
    refine ensures_bind (others.post ?_ fun _ _ p => p)
    intro v u own
    refine ensures_pure fun b m => ?_
    obtain m | m := List.mem_append.1 m
    · exact ⟨n, named b (Option.mem_toList.1 m), h n List.mem_cons_self⟩
    · exact own b m

lemma confines_createAll {v : List RoleBinding} (h : Own o v) : o.Confines (createAll v) := by
  induction v with
  | nil => exact callsOnly_pure
  | cons b rest ih =>
    obtain ⟨name, hn, m⟩ := h b List.mem_cons_self
    exact (confines_createIfMissing hn m).bind fun _ => ih h.tail

/-- A binding is deleted under the name that it has. -/
lemma confines_deleteOne {b : RoleBinding} {name : String} (hn : b.metadata.name = some name)
    (m : Overlay.bindingPlace name ∈ o.places) :
    o.Confines (Kind.deleteIfExists .roleBindings none (bindingName b)) := by
  have same : bindingName b = name := by
    unfold bindingName
    rw [hn]
    rfl
  rw [same]
  exact confines_deleteIfExists m

lemma confines_recreateAll {v : List RoleBinding} (h : Own o v) : o.Confines (recreateAll v) := by
  induction v with
  | nil => exact callsOnly_pure
  | cons b rest ih =>
    obtain ⟨name, hn, m⟩ := h b List.mem_cons_self
    refine (confines_deleteOne hn m).bind fun _ => ?_
    exact (confines_createIfMissing hn m).bind fun _ => ih h.tail

lemma confines_deleteAll {v : List RoleBinding} (h : Own o v) : o.Confines (deleteAll v) := by
  induction v with
  | nil => exact callsOnly_pure
  | cons b rest ih =>
    obtain ⟨name, hn, m⟩ := h b List.mem_cons_self
    exact (confines_deleteOne hn m).bind fun _ => ih h.tail

/-- Those of some bindings that there is something to do with. -/
lemma Own.nonEmpty {v w : List RoleBinding} {p : RoleBinding → Bool} (h : Own o v)
    (e : RoleBindings.nonEmpty (v.filter p) = some w) : Own o w := by
  unfold RoleBindings.nonEmpty at e
  split at e
  · cases e
  · cases e
    exact fun b m => h b (List.mem_of_mem_filter m)

end RoleBindings

open RoleBindings in
lemma roleBindings_confined (o : Overlay) :
    roleBindingsResource.Confined (.logged Exchange.Named) o.Owns o (Own o) (Own o) where
  current log := by
    refine ensures_bind ((ensures_fetchOwn ?_ log).post ?_ fun _ _ p => p)
    · simp [Overlay.places, Overlay.networkPlaces]
    · intro v t own
      refine ensures_pure fun w e => ?_
      cases e
      exact own
  desired log := ensures_pure (own_networkBindings o)
  updatePatch log _ own := by
    refine ensures_pure fun w e => ?_
    rcases e with e | e
    · exact own.nonEmpty e
    · exact own.nonEmpty e
  deletePatch log own := by
    refine ensures_pure fun w e => ?_
    obtain rfl := @Patch.remove_delete_eq_some (List RoleBinding) _ _ w e
    exact own
  create own := (confines_createAll own).bind fun _ => callsOnly_pure
  update own := (confines_recreateAll own).bind fun _ => callsOnly_pure
  delete own := (confines_deleteAll own).bind fun _ => callsOnly_pure

lemma storedNetwork_confined (o : Overlay) :
    storedNetworkResource.Confined (.logged Exchange.Named) o.Owns o (fun _ => True)
      fun _ => True := by
  have write (e : NetworkEntry) : o.Confines (StoredNetwork.write o e) :=
    (OperatorAction.callsOnly_ofStore (.write o.hasKey_entryPath)).orElseIf
  have clear : o.Confines (StoredNetwork.clear o) :=
    (OperatorAction.callsOnly_ofStore (.clear rfl)).orElseIf
  have fetch : o.Confines (StoredNetwork.fetch o) := by
    refine CallsOnly.bind (CallsOnly.orElseIf ?_) fun stored => ?_
    · rw [map_eq_pure_bind]
      exact (OperatorAction.callsOnly_ofStore .search).bind fun _ => callsOnly_pure
    · cases stored with
      | none => exact callsOnly_pure
      | some text => exact callsOnly_ofResult
  exact {
    current := fun log => ((fetch.bind fun _ => callsOnly_pure) log).post (fun _ _ _ _ _ => trivial)
      fun _ _ p => p
    desired := fun log => ensures_pure trivial
    updatePatch := fun log _ _ => ensures_pure fun _ _ => trivial
    deletePatch := fun log _ => ensures_pure fun _ _ => trivial
    create := fun _ => (write _).bind fun _ => callsOnly_pure
    update := fun _ => clear.bind fun _ => (write _).bind fun _ => callsOnly_pure
    delete := fun _ => clear.bind fun _ => callsOnly_pure }

open NetworkNamespace in
lemma networkNamespace_confined (o : Overlay) :
    networkNamespaceResource.Confined (.logged Exchange.Named) o.Owns o (IsNamed o.networkNamespace)
      (IsNamed o.networkNamespace) where
  current log := by
    refine ensures_bind ((ensures_getNamed log).post ?_ fun _ _ p => p)
    intro v t named
    refine ensures_pure fun w e => ?_
    split at e
    · cases e
    · cases e
      exact named
  desired log := ensures_pure (isNamed_some rfl)
  updatePatch {v d} log _ named := by
    refine ensures_pure fun w e => ?_
    unfold NetworkNamespace.updatePatch at e
    split at e
    · rcases e with e | e
      · cases e
        exact named
      · cases e
    · rcases e with e | e
      · cases e
      · cases e
  deletePatch {v d} log named := by
    refine ensures_pure fun w e => ?_
    obtain rfl := @Patch.remove_delete_eq_some (Option Namespace) _ v w e
    exact named
  create {w} named := by
    cases w with
    | none => exact callsOnly_pure
    | some n =>
      refine (confines_createIfMissing (named n rfl) ?_).bind fun _ => callsOnly_pure
      simp [Overlay.places, Overlay.networkPlaces]
  update _ := callsOnly_pure
  delete {w} named := by
    cases w with
    | none => exact callsOnly_pure
    | some n =>
      rw [delete_named (v := some n) (named n rfl)]
      refine (confines_deleteIfExists ?_).bind fun _ => callsOnly_pure
      simp [Overlay.places, Overlay.networkPlaces]

namespace Cleanup

lemma confines_prepareNamespace : o.Confines (prepareNamespace o) := by
  refine confines_get.bind fun v => ?_
  cases v with
  | some n => exact callsOnly_pure
  | none =>
    refine (confines_createIfMissing rfl ?_).bind fun _ => callsOnly_pure
    simp [Overlay.places, Overlay.cleanupPlaces]

lemma confines_createBindings {v : List RoleBinding} (h : RoleBindings.Own o v) :
    o.Confines (createBindings v) := by
  induction v with
  | nil => exact callsOnly_pure
  | cons b rest ih =>
    obtain ⟨name, hn, m⟩ := h b List.mem_cons_self
    exact (confines_createIfMissing hn m).bind fun _ => ih h.tail

lemma confines_checkJob {hosts : Int} : o.Confines (checkJob o hosts) := by
  refine confines_get.bind fun v => ?_
  cases v with
  | none => exact callsOnly_throw
  | some job =>
    dsimp only
    split
    · exact callsOnly_throw
    · exact callsOnly_pure

lemma confines_runJob {policy : BackoffPolicy} : o.Confines (runJob policy o) := by
  refine confines_get.bind fun v => ?_
  cases v with
  | some job => exact callsOnly_pure
  | none =>
    refine confines_list.bind fun nodes => ?_
    dsimp only
    split
    · have job : o.jobPlace ∈ o.places := by simp [Overlay.places, Overlay.jobPlaces]
      refine (confines_createIfMissing rfl job).bind fun _ => ?_
      exact (Action.callsOnly_retry confines_checkJob).bind fun _ => callsOnly_pure
    · exact callsOnly_pure

lemma confines_removeAll : o.Confines (removeAll o) := by
  refine (confines_deleteIfExists ?_).bind fun _ => ?_
  · simp [Overlay.places, Overlay.cleanupPlaces]
  refine (confines_deleteIfExists ?_).bind fun _ => ?_
  · simp [Overlay.places, Overlay.cleanupPlaces]
  refine (confines_deleteIfExists ?_).bind fun _ => ?_
  · simp [Overlay.places, Overlay.cleanupPlaces]
  refine (confines_deleteIfExists ?_).bind fun _ => callsOnly_pure
  simp [Overlay.places, Overlay.networkPlaces]

lemma confines_teardown {policy : BackoffPolicy} : o.Confines (teardown policy o) := by
  refine confines_list.bind fun pods => ?_
  split
  · exact callsOnly_pure
  refine confines_prepareNamespace.bind fun closed => ?_
  cases closed with
  | true => exact callsOnly_pure
  | false =>
    refine (confines_createBindings (RoleBindings.own_deletionBindings o)).bind fun _ => ?_
    refine (confines_createIfMissing rfl ?_).bind fun _ => ?_
    · simp [Overlay.places, Overlay.jobPlaces]
    refine confines_runJob.bind fun complete => ?_
    cases complete with
    | false => exact callsOnly_pure
    | true => exact confines_removeAll.bind fun _ => callsOnly_pure

end Cleanup

open Cleanup in
lemma cleanup_confined (policy : BackoffPolicy) (o : Overlay) :
    (cleanupResource policy).Confined (.logged Exchange.Named) o.Owns o (fun _ => True)
      (IsNamed o.serviceAccount) where
  current log := ((confines_get.bind fun _ => callsOnly_pure) log).post (fun _ _ _ _ _ => trivial)
    fun _ _ p => p
  desired log := ensures_pure (isNamed_some rfl)
  updatePatch {v d} log _ named := by
    refine ensures_pure fun w e => ?_
    unfold Cleanup.updatePatch at e
    split at e
    · rcases e with e | e
      · cases e
        exact named
      · cases e
    · rcases e with e | e
      · cases e
      · cases e
  deletePatch log _ := ensures_pure fun _ _ => trivial
  create {w} named := by
    cases w with
    | none => exact callsOnly_pure
    | some account =>
      refine (confines_createIfMissing (named account rfl) ?_).bind fun _ => callsOnly_pure
      simp [Overlay.places, Overlay.networkPlaces]
  update _ := callsOnly_pure
  delete _ := confines_teardown

namespace Daemon

lemma confines_inUse : o.Confines (inUse o) := by
  unfold inUse
  split
  · exact confines_list.bind fun _ => callsOnly_pure
  · exact callsOnly_pure

lemma confines_current (own : Version) (counted : Bool) : o.Confines (current own counted o) := by
  refine confines_inUse.bind fun used => ?_
  cases used with
  | true => exact callsOnly_pure
  | false =>
    refine CallsOnly.bind confines_get fun found => ?_
    cases found with
    | none => exact callsOnly_pure
    | some d =>
      exact callsOnly_recordGeneration.bind fun _ => callsOnly_pure

lemma confines_create {d : DaemonSet} (hn : d.metadata.name = some networkApp) :
    o.Confines (create o d) := by
  refine (confines_createIfMissing hn ?_).bind fun _ => callsOnly_pure
  simp [Overlay.places, Overlay.networkPlaces]

lemma confines_update {d : DaemonSet} (hn : d.metadata.name = some networkApp) :
    o.Confines (update o d) := by
  refine CallsOnly.bind confines_get fun found => ?_
  cases found with
  | none => exact confines_create hn
  | some existing =>
    refine (OperatorAction.callsOnly_ofObject (.replace hn ?_)).bind fun _ => callsOnly_pure
    simp [Overlay.places, Overlay.networkPlaces]

end Daemon

open Daemon in
lemma daemon_confined (config : DaemonConfig) (own : Version) (counted : Bool) (o : Overlay) :
    (daemonResource config own counted).Confined (.logged Exchange.Named) o.Owns o (fun _ => True)
      (IsNamed networkApp) where
  current log := by
    have seen : o.Confines (current own counted o) := confines_current own counted
    exact (seen log).post (fun _ _ _ _ _ => trivial) fun _ _ p => p
  desired log := by
    refine ensures_desired (fun _ => isNamed_none) (fun d _ e => ?_) fun _ => trivial
    exact isNamed_some (daemonSet_name e)
  updatePatch log _ named := by
    refine ensures_pure fun w e => ?_
    obtain rfl := eq_of_updatePatch e
    exact named
  deletePatch log _ := ensures_pure fun _ _ => trivial
  create {w} named := by
    cases w with
    | none => exact callsOnly_pure
    | some d => exact (confines_create (named d rfl)).bind fun _ => callsOnly_pure
  update {w} named := by
    cases w with
    | none => exact callsOnly_pure
    | some d => exact (confines_update (named d rfl)).bind fun _ => callsOnly_pure
  delete _ := by
    refine (confines_deleteIfExists ?_).bind fun _ => callsOnly_pure
    simp [Overlay.places, Overlay.networkPlaces]

/-- A pass over an overlay, living or deleted, changes only what belongs to it. -/
theorem Overlay.confines_pass (o : Overlay) (c : SetConfig) (daemon : DaemonConfig) (own : Version)
    (deleting : Bool) : o.Confines (runPass (Generation.shippedHandlers c daemon own) o deleting) := by
  refine callsOnly_runPass fun handler m => ?_
  simp only [Generation.shippedHandlers, List.mem_cons, List.not_mem_nil, or_false] at m
  rcases m with rfl | rfl | rfl | rfl | rfl
  · exact (roleBindings_confined o).ensure c.retry deleting
  · exact (storedNetwork_confined o).ensure c.retry deleting
  · exact (networkNamespace_confined o).ensure c.retry deleting
  · exact (cleanup_confined c.teardown o).ensure c.retry deleting
  · exact (daemon_confined daemon own true o).ensure c.retry deleting

end TenantOverlay
