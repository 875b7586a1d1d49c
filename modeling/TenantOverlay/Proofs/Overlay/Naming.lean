import Mathlib.Data.List.Nodup
import TenantOverlay.Manifests.Access
import TenantOverlay.Proofs.Operator.Memory
import TenantOverlay.Proofs.Text.Trimming

/-!
# The places of an overlay

Where the objects of an overlay stand: `networkPlaces` are those of the network, `cleanupPlaces`
those that a cleanup makes and removes again, and `jobPlaces` those that go with the namespace of
the cleanup. No two of them are the same (`places_nodup`). In the store the network's entry lies
below the key that is cleared on deletion (`isBelow_entryPath`).
-/

namespace TenantOverlay

namespace Overlay

variable (o : Overlay)

/-- The overlay, marked for deletion. -/
def markedDeleted (t : Timestamp) : Overlay :=
  { o with metadata := { o.metadata with deletionTimestamp := some t } }

/-- The place of a cluster role binding. -/
abbrev bindingPlace (name : String) : Place := ⟨.roleBindings, .of none name⟩

abbrev networkNamespacePlace : Place := ⟨.namespaces, .of none o.networkNamespace⟩
abbrev destroyerNamespacePlace : Place := ⟨.namespaces, .of none o.destroyerNamespace⟩

/-- The place of the account in a namespace. -/
abbrev accountPlace (namespaceName : String) : Place :=
  ⟨.serviceAccounts, .of (some namespaceName) o.serviceAccount⟩

abbrev daemonSetPlace : Place := ⟨.daemonSets, .of (some o.networkNamespace) networkApp⟩
abbrev jobPlace : Place := ⟨.jobs, .of (some o.destroyerNamespace) destroyerApp⟩

/-- The places of the network. -/
def networkPlaces : List Place := [
  o.daemonSetPlace, o.accountPlace o.networkNamespace, o.networkNamespacePlace,
  bindingPlace o.roleBinding, bindingPlace o.pspRoleBinding]

/-- The places of what a cleanup makes and removes again. -/
def cleanupPlaces : List Place := [
  o.destroyerNamespacePlace, bindingPlace o.deletionRoleBinding,
  bindingPlace o.deletionPspRoleBinding]

/-- The places in the namespace of the cleanup, which go with it. -/
def jobPlaces : List Place := [o.jobPlace, o.accountPlace o.destroyerNamespace]

/-- The places of an overlay. -/
def places : List Place := o.networkPlaces ++ o.cleanupPlaces ++ o.jobPlaces

section Identity

variable {o} {o' : Overlay} (same : o'.clusterId = o.clusterId)

include same

/-- The places of the network depend on the identifier of its cluster only. -/
lemma networkPlaces_congr : o'.networkPlaces = o.networkPlaces := by
  simp only [networkPlaces, daemonSetPlace, accountPlace, networkNamespacePlace, bindingPlace,
    networkNamespace, serviceAccount, roleBinding, pspRoleBinding, same]

/-- So does the key of the network's entry. -/
lemma entryPath_congr : o'.entryPath = o.entryPath := by
  simp only [entryPath, storePath, bridgeName, same]

end Identity

/-- The network and the cleanup have namespaces of their own. -/
lemma networkNamespace_ne : o.networkNamespace ≠ o.destroyerNamespace := by
  refine ne_of_apply_ne String.length ?_
  have app : networkApp.length ≠ destroyerApp.length := by decide
  simp only [networkNamespace, destroyerNamespace, String.length_append]
  omega

/-- The role bindings have names of their own. -/
lemma bindings_nodup :
    [o.roleBinding, o.pspRoleBinding, o.deletionRoleBinding, o.deletionPspRoleBinding].Nodup := by
  refine List.Nodup.of_map String.length ?_
  simp only [roleBinding, pspRoleBinding, deletionRoleBinding, deletionPspRoleBinding,
    List.map_cons, List.map_nil, String.length_append]
  have app : networkApp.length = 15 := by decide
  have dash : "-".length = 1 := by decide
  have psp : "-psp".length = 4 := by decide
  have deletion : "-deletion".length = 9 := by decide
  have deletionPsp : "-deletion-psp".length = 13 := by decide
  simp only [List.nodup_cons, List.mem_cons, List.not_mem_nil, or_false, not_or, not_false_eq_true,
    List.nodup_nil, and_true, app, dash, psp, deletion, deletionPsp]
  omega

/-- No two objects of an overlay stand at the same place. -/
theorem places_nodup : o.places.Nodup := by
  have namespaces := o.networkNamespace_ne
  have bindings := o.bindings_nodup
  simp only [List.nodup_cons, List.mem_cons, List.not_mem_nil, or_false, not_or] at bindings
  simp [places, networkPlaces, cleanupPlaces, jobPlaces, daemonSetPlace, accountPlace,
    networkNamespacePlace, destroyerNamespacePlace, bindingPlace, jobPlace, ObjectKey.of,
    namespaces, bindings]

/-- A place of the network is none of those at which a cleanup puts something. -/
lemma not_mem_of_mem_networkPlaces {p : Place} (h : p ∈ o.networkPlaces) :
    p ∉ o.cleanupPlaces ++ o.jobPlaces := by
  have apart := o.places_nodup
  unfold places at apart
  rw [List.append_assoc, List.nodup_append] at apart
  exact fun m => apart.2.2 p h p m rfl

/-- The kinds of a network's objects. -/
lemma isOfNetwork_of_mem {p : Place} (h : p ∈ o.networkPlaces) : p.kind.isOfNetwork = true := by
  revert p
  simp [networkPlaces, Kind.isOfNetwork]

/-- The key of an entry is in its normal form. -/
lemma normalizeKey_entryPath : normalizeKey o.entryPath = o.entryPath := by
  unfold normalizeKey
  have first : o.entryPath.toList.head? = some 'c' := by
    simp [entryPath, storePath, storeRoot]
  have last : o.entryPath.toList.getLast? = some 'g' := by
    rw [entryPath, String.toList_append, List.getLast?_append]
    rfl
  rw [Text.trimBy_eq_self_iff.2, String.ofList_toList]
  rw [first, last]
  simp

/-- The entry lies below the key of the network. -/
theorem isBelow_entryPath : isBelow (normalizeKey o.storePath) o.entryPath = true := by
  have head : ∀ c ∈ o.storePath.toList.head?, (c == '/') = false := by
    simp [storePath, storeRoot]
  obtain ⟨slashes, split, all⟩ := Text.trimBy_eq_prefix head
  have key : o.entryPath.toList = (normalizeKey o.storePath).toList ++ (slashes ++ "/config".toList) := by
    rw [normalizeKey, String.toList_ofList, ← List.append_assoc, ← split, entryPath, String.toList_append]
  unfold isBelow
  rw [Option.isSome_iff_exists]
  cases slashes with
  | nil => exact ⟨_, below?_eq_some_iff.2 key⟩
  | cons c rest =>
    obtain rfl : c = '/' := by simpa using all c List.mem_cons_self
    exact ⟨_, below?_eq_some_iff.2 key⟩

end Overlay

end TenantOverlay
