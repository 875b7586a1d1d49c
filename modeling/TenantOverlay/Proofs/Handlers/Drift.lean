import Mathlib.Tactic.Lemma
import TenantOverlay.Handlers.Daemon
import TenantOverlay.Proofs.Handlers.Desired
import TenantOverlay.Proofs.Text.Digits

/-!
# Daemon sets that need no update

Of a daemon set the handler compares the recorded generation and the names, images, commands and variables of
the containers. A directory of the host, the port of a probe, a selector and a namespace are not compared, but
the variables tell them: a file's path tells the directory, a key the cluster, and a device the network
(`SameWork.of_fingerprint`). Two daemon sets of one configuration need no update exactly when they are equal in
all but the label that names the customer (`daemonSet_drift_detected`).
-/

namespace TenantOverlay

/-- The label that names the customer. -/
def customerLabel : String := "customer"

/-- The metadata without the label that names the customer. -/
def Metadata.withoutCustomer (m : Metadata) : Metadata :=
  { m with labels := m.labels.map fun l => l.erase customerLabel }

/-- The daemon set without the label that names the customer, on itself and on its pods. -/
def DaemonSet.withoutCustomer (d : DaemonSet) : DaemonSet where
  metadata := d.metadata.withoutCustomer
  body := { d.body with
    spec := d.body.spec.map fun s => { s with
      template := { s.template with
        metadata := s.template.metadata.map Metadata.withoutCustomer } } }

namespace Overlay

variable {o o' : Overlay}

/-- What of an overlay goes into its daemon set, the customer apart. -/
structure SameWork (healthContainer : Bool) (o o' : Overlay) : Prop where
  clusterId : o.clusterId = o'.clusterId
  runDirectory : o.body.network.runDirectory = o'.body.network.runDirectory
  vni : o.body.network.vni = o'.body.network.vni
  image : o.body.bridge.image = o'.body.bridge.image
  interface : o.body.bridge.interface = o'.body.bridge.interface
  privateNetwork : o.body.bridge.privateNetwork = o'.body.bridge.privateNetwork
  dnsBlock : o.dnsBlock = o'.dnsBlock
  ntpBlock : o.ntpBlock = o'.ntpBlock
  healthImage : healthContainer = true → o.body.healthImage = o'.body.healthImage

section Names

lemma clusterId_of_bridgeName (h : o.bridgeName = o'.bridgeName) : o.clusterId = o'.clusterId :=
  (String.append_right_inj _).1 h

/-- Of one cluster, different directories have different files. -/
lemma runDirectory_of_environmentFile (same : o.clusterId = o'.clusterId)
    (h : o.environmentFile = o'.environmentFile) :
    o.body.network.runDirectory = o'.body.network.runDirectory := by
  unfold environmentFile bridgeName at h
  rw [same, String.append_left_inj, String.append_left_inj, String.append_left_inj] at h
  exact h

lemma vni_of_flannelDevice (h : o.flannelDevice = o'.flannelDevice) :
    o.body.network.vni = o'.body.network.vni :=
  UInt32.toNat_inj.1 (Text.toString_injective ((String.append_right_inj _).1 h))

end Names

section Compared

variable {c : DaemonConfig} {p p' : Nat}

/-- What is compared of the containers tells what goes into the daemon set. -/
lemma SameWork.of_fingerprint
    (h : Daemon.fingerprint (o.daemonSetAt c p) = Daemon.fingerprint (o'.daemonSetAt c p')) :
    SameWork c.healthContainer o o' := by
  replace h : (o.networkContainers c p).map (fun x => (x.name, x.image, x.command, x.env)) =
      (o'.networkContainers c p').map fun x => (x.name, x.image, x.command, x.env) := h
  unfold networkContainers at h
  rw [List.map_append, List.map_append] at h
  -- To see that the lengths agree by computing them would compare the containers themselves.
  obtain ⟨always, health⟩ := List.append_inj h (by simp only [List.length_map, List.length_cons])
  simp only [daemonContainer, bridgeContainer, bridgeEnvironment, EnvVar.of, List.map_cons, List.map_nil,
    List.cons.injEq, Prod.mk.injEq, Option.some.injEq, EnvVar.mk.injEq, true_and, and_true] at always
  obtain ⟨-, image, privateNetwork, bridgeName, dnsBlock, file, device, interface, ntpBlock, -⟩ := always
  have clusterId := clusterId_of_bridgeName bridgeName
  exact {
    clusterId, image, interface, privateNetwork, dnsBlock, ntpBlock
    runDirectory := runDirectory_of_environmentFile clusterId file
    vni := vni_of_flannelDevice device
    healthImage := fun deployed => by
      rw [if_pos deployed, if_pos deployed] at health
      simp only [healthContainer, List.map_cons, List.cons.injEq, Prod.mk.injEq, Option.some.injEq] at health
      exact health.1.2.1 }

/-- Without the customer the labels of a workload name the application and the cluster. -/
lemma erase_customer_workloadLabels (o : Overlay) (app : String) :
    (o.workloadLabels app).erase customerLabel = .ofList [("app", app), ("cluster", o.clusterId)] := by
  apply SortedMap.ext
  intro k
  have app_ne : "app" ≠ customerLabel := by decide
  have cluster_ne : "cluster" ≠ customerLabel := by decide
  simp only [workloadLabels, SortedMap.ofList, List.foldl_cons, List.foldl_nil, SortedMap.get?_erase,
    SortedMap.get?_insert, SortedMap.get?_empty]
  by_cases e : customerLabel = k
  · subst e
    rw [if_pos rfl, if_neg cluster_ne, if_neg app_ne]
  · rw [if_neg e, if_neg (show "customer" ≠ k from e)]

/-- What goes into a daemon set determines it, but for the customer. -/
lemma SameWork.withoutCustomer_eq (h : SameWork c.healthContainer o o') :
    (o.daemonSetAt c p).withoutCustomer = (o'.daemonSetAt c p).withoutCustomer := by
  have bridgeName : o.bridgeName = o'.bridgeName := congrArg ("br-" ++ ·) h.clusterId
  have tapName : o.tapName = o'.tapName := congrArg ("tap-" ++ ·) h.clusterId
  have file : o.environmentFile = o'.environmentFile := by
    unfold environmentFile
    rw [h.runDirectory, bridgeName]
  have device : o.flannelDevice = o'.flannelDevice := by
    unfold flannelDevice
    rw [h.vni]
  have key : o.daemonStorePath = o'.daemonStorePath := by
    unfold daemonStorePath storePath
    rw [bridgeName]
  have environment : o.bridgeEnvironment = o'.bridgeEnvironment := by
    unfold bridgeEnvironment
    rw [h.privateNetwork, bridgeName, h.dnsBlock, file, device, h.interface, h.ntpBlock, tapName]
  have containers : o.networkContainers c p = o'.networkContainers c p := by
    unfold networkContainers
    congr 1
    · unfold daemonContainer bridgeContainer
      rw [key, bridgeName, file, h.interface, h.image, environment]
    · split
      · next deployed =>
        unfold healthContainer
        rw [h.healthImage deployed, bridgeName, file, device]
      · rfl
  have volumes : o.hostVolumes = o'.hostVolumes := by
    unfold hostVolumes
    rw [h.runDirectory]
  have namespaceName : o.networkNamespace = o'.networkNamespace :=
    congrArg (networkApp ++ "-" ++ ·) h.clusterId
  unfold daemonSetAt DaemonSet.withoutCustomer Metadata.withoutCustomer serviceAccount
  simp only [Option.map_some, erase_customer_workloadLabels]
  rw [namespaceName, h.clusterId, containers, volumes]

end Compared

end Overlay

namespace Daemon

/-- The label that names the customer is not compared. -/
lemma needsUpdate_withoutCustomer (d d' : DaemonSet) :
    needsUpdate d.withoutCustomer d'.withoutCustomer = needsUpdate d d' := by
  have compared (d : DaemonSet) : fingerprint d.withoutCustomer = fingerprint d := by
    unfold fingerprint DaemonSet.withoutCustomer
    cases d.body.spec <;> rfl
  unfold needsUpdate
  rw [compared, compared]
  rfl

end Daemon

/-- The daemon sets of one configuration for two overlays need no update exactly when they are equal in all but
the label that names the customer. -/
theorem daemonSet_drift_detected {c : DaemonConfig} {o o' : Overlay} {d d' : DaemonSet}
    (built : o.daemonSet c = .ok d) (built' : o'.daemonSet c = .ok d') :
    Daemon.needsUpdate d d' = false ↔ d.withoutCustomer = d'.withoutCustomer := by
  constructor
  · intro current
    obtain ⟨p, port, e⟩ := Result.bind_eq_ok_iff.1 built
    obtain ⟨p', port', e'⟩ := Result.bind_eq_ok_iff.1 built'
    cases e
    cases e'
    obtain ⟨-, compared⟩ := Bool.or_eq_false_iff.1 current
    have same := Overlay.SameWork.of_fingerprint (bne_eq_false_iff_eq.1 compared)
    -- The port of the probes is not compared, but it follows from the identifier of the network.
    obtain rfl : p = p' := by
      unfold Overlay.probePort at port port'
      rw [same.vni, port'] at port
      exact (Except.ok.inj port).symm
    exact same.withoutCustomer_eq
  · intro equal
    rw [← Daemon.needsUpdate_withoutCustomer, equal]
    simp [Daemon.needsUpdate]

/-- The sample keeps its daemon set when it goes to another customer, although the labels change. When its
files go to another directory, the daemon set is replaced. -/
theorem daemonSet_drift_detected_sold :
    let o := Overlay.sample "a"
    let sold : Overlay :=
      { o with body := { o.body with cluster := { o.body.cluster with customer := "b" } } }
    let moved : Overlay :=
      { o with body := { o.body with network := { o.body.network with runDirectory := "/run" } } }
    ∃ d d' d'' : DaemonSet, o.daemonSet .withHealth = .ok d ∧ sold.daemonSet .withHealth = .ok d' ∧
      moved.daemonSet .withHealth = .ok d'' ∧
      (d ≠ d' ∧ Daemon.needsUpdate d d' = false ∧ d.withoutCustomer = d'.withoutCustomer) ∧
      (Daemon.needsUpdate d d'' = true ∧ d.withoutCustomer ≠ d''.withoutCustomer) := by
  intro o sold moved
  have kept : Daemon.needsUpdate (o.daemonSetAt .withHealth 21026)
      (sold.daemonSetAt .withHealth 21026) = false := by
    have compared : Daemon.fingerprint (o.daemonSetAt .withHealth 21026) =
        Daemon.fingerprint (sold.daemonSetAt .withHealth 21026) := rfl
    unfold Daemon.needsUpdate
    rw [compared]
    exact Bool.or_eq_false_iff.2 ⟨by decide, bne_self_eq_false _⟩
  have replaced : Daemon.needsUpdate (o.daemonSetAt .withHealth 21026)
      (moved.daemonSetAt .withHealth 21026) = true := by
    refine Bool.or_eq_true_iff.2 (.inr (bne_iff_ne.2 fun compared => ?_))
    exact absurd (Overlay.SameWork.of_fingerprint compared).runDirectory (by decide)
  refine ⟨_, _, _, rfl, rfl, rfl, ⟨?_, kept, ?_⟩, replaced, ?_⟩
  · exact fun e => absurd (congrArg (fun d => d.metadata.label? customerLabel) e) (by decide)
  · exact (@daemonSet_drift_detected .withHealth o sold _ _ rfl rfl).1 kept
  · intro e
    have current := (@daemonSet_drift_detected .withHealth o moved _ _ rfl rfl).2 e
    exact absurd (replaced.symm.trans current) (by decide)

end TenantOverlay
