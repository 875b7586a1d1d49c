import Mathlib.Data.List.Basic
import Mathlib.Tactic.SplitIfs
import TenantOverlay.Proofs.Operator.Generations

/-!
# What the handlers want for an overlay

What a handler wants is a function of the overlay. `OverlaySpec.validate_eq_ok_iff` says which
specifications are valid, and `probePort_eq_ok_iff` where their probes go. From a valid one every handler
can build what it wants; in the daemon set all containers agree on the port that belongs to the identifier of
the network (`Overlay.probedAt_daemonSet`). Without a port the daemon set is the one thing that cannot be
built (`daemon_desired_of_outOfRange`).
-/

namespace TenantOverlay

/-- The identifiers whose networks have a port to probe. -/
def HasProbePort (vni : UInt32) : Prop := 1 ≤ vni.toNat ∧ vni.toNat ≤ 44535

section Ports

variable {vni : UInt32}

/-- A port is the base and the identifier, where that is a port at all. -/
lemma probePort_eq_ok_iff {port : Nat} :
    probePort vni = .ok port ↔ HasProbePort vni ∧ port = 21000 + vni.toNat := by
  have limits : maxVni = 16777215 ∧ maxPort = 65535 ∧ probePortBase = 21000 := ⟨rfl, rfl, rfl⟩
  obtain ⟨wide, high, base⟩ := limits
  unfold probePort HasProbePort
  rw [wide, high, base]
  split_ifs with outside above
  · exact ⟨nofun, fun h => by omega⟩
  · exact ⟨nofun, fun h => by omega⟩
  · rw [Except.ok.injEq]
    exact ⟨fun e => ⟨by omega, e.symm⟩, fun h => h.2.symm⟩

/-- Without a port the configuration is invalid, which no repetition cures. -/
lemma probePort_of_outOfRange (outside : ¬ HasProbePort vni) :
    ∃ fault, probePort vni = .error (.invalidConfig fault) := by
  cases e : probePort vni with
  | ok port => exact absurd (probePort_eq_ok_iff.1 e).1 outside
  | error err =>
    unfold probePort at e
    split_ifs at e
    · cases e
      exact ⟨_, rfl⟩
    · cases e
      exact ⟨_, rfl⟩

/-- Networks with different identifiers are probed at different ports. -/
lemma probePort_injective {vni' : UInt32} {port : Nat} (h : probePort vni = .ok port)
    (h' : probePort vni' = .ok port) : vni = vni' := by
  obtain ⟨-, rfl⟩ := probePort_eq_ok_iff.1 h
  obtain ⟨-, e⟩ := probePort_eq_ok_iff.1 h'
  exact UInt32.toNat_inj.1 (Nat.add_left_cancel e)

/-- The sum is only formed for identifiers of networks, and then it fits into 32 bits. -/
lemma probePort_exact (inRange : vni.toNat ≤ maxVni) :
    (UInt32.ofNat probePortBase + vni).toNat = probePortBase + vni.toNat := by
  have small : probePortBase + maxVni < UInt32.size := by decide
  rw [UInt32.toNat_add, UInt32.toNat_ofNat']
  unfold probePortBase at *
  have : UInt32.size = 4294967296 := rfl
  omega

end Ports

/-- A specification is valid when it names a cluster, a network and a directory, and its network has a
port to probe. -/
theorem OverlaySpec.validate_eq_ok_iff {s : OverlaySpec} : s.validate = .ok () ↔
    s.cluster.id ≠ "" ∧ s.network.network ≠ "" ∧ s.network.runDirectory ≠ "" ∧
      HasProbePort s.network.vni := by
  have port : (∃ port, probePort s.network.vni = .ok port) ↔ HasProbePort s.network.vni := by
    simp only [probePort_eq_ok_iff, exists_and_left, exists_eq, and_true]
  simp only [OverlaySpec.validate, Result.check_bind_eq_ok_iff, Result.require_eq_ok_iff, bne_iff_ne, ne_eq,
    Result.bind_eq_ok_iff (r := probePort _), ← port, pure, Except.pure, and_true]

section Containers

/-- The port at which a container is probed. -/
def Container.probedPort? (c : Container) : Option IntOrText :=
  (c.livenessProbe.bind fun p => p.http).map fun h => h.port

/-- The value of a variable in a container's environment. -/
def Container.variable? (c : Container) (name : String) : Option String :=
  ((c.env.getD []).find? fun v => v.name == name).bind fun v => v.value

/-- The containers of a daemon set. -/
def DaemonSet.containers (d : DaemonSet) : List Container :=
  ((d.body.spec.bind fun s => s.template.spec).map fun p => p.containers).getD []

/-- The containers of a daemon set by name, and the port that all of them agree on. -/
structure DaemonSet.ProbedAt (d : DaemonSet) (healthContainer : Bool) (port : Nat) : Prop where
  names : d.containers.map (·.name) =
    ["flanneld", "k8s-network-bridge"] ++ if healthContainer then ["flannel-network-health"] else []
  probes {c : Container} : c ∈ d.containers → c.name = "flanneld" ∨ c.name = "k8s-network-bridge" →
    c.probedPort? = some (.int port)
  listens {c : Container} : c ∈ d.containers → c.name = "flannel-network-health" →
    c.variable? "LISTEN_ADDRESS" = some ("http://127.0.0.1:" ++ toString port)

variable {o : Overlay} {config : DaemonConfig} {port : Nat}

private lemma health_ne : "flannel-network-health" ≠ "flanneld" ∧
    "flannel-network-health" ≠ "k8s-network-bridge" := by decide

/-- The daemon set of a network is probed at one port, wherever that is. -/
lemma Overlay.probedAt_daemonSet : (o.daemonSetAt config port).ProbedAt config.healthContainer port where
  names := by
    show (o.networkContainers config port).map (·.name) = _
    unfold Overlay.networkContainers
    cases config.healthContainer <;> rfl
  probes {c} m named := by
    replace m : c ∈ o.networkContainers config port := m
    unfold Overlay.networkContainers at m
    rcases List.mem_append.1 m with m | m
    · rcases List.mem_pair.1 m with rfl | rfl
      · rfl
      · rfl
    · -- The health container answers probes, and is not probed itself.
      split at m
      · obtain rfl := List.mem_singleton.1 m
        exact named.elim (absurd · health_ne.1) (absurd · health_ne.2)
      · cases m
  listens {c} m named := by
    replace m : c ∈ o.networkContainers config port := m
    unfold Overlay.networkContainers at m
    rcases List.mem_append.1 m with m | m
    · rcases List.mem_pair.1 m with rfl | rfl
      · exact absurd named health_ne.1.symm
      · exact absurd named health_ne.2.symm
    · split at m
      · obtain rfl := List.mem_singleton.1 m
        rfl
      · cases m

end Containers

section Desired

variable {o : Overlay}

/-- A resource wants a state that is not empty, and knows it without a call. -/
def Resource.Wants (r : Resource services Overlay) (isEmpty : r.State → Bool) (o : Overlay) : Prop :=
  ∃ wanted, r.desired o = pure wanted ∧ isEmpty wanted = false

/-- An entry for a network is not the empty entry. -/
lemma Overlay.networkEntry_nonempty : o.networkEntry.isEmpty = false :=
  beq_eq_false_iff_ne.2 fun e => absurd (congrArg (·.backend.type) e) (by decide : "vxlan" ≠ "")

/-- What a living overlay wants of the daemon is its daemon set, probed at a port. -/
lemma daemon_desired (live : o.isDeleted = false) {config : DaemonConfig} {own : Version} {counted : Bool}
    {port : Nat} (h : probePort o.body.network.vni = .ok port) :
    (daemonResource config own counted).desired o = pure (some (o.daemonSetAt config port)) := by
  have wanted : o.daemonSet config = .ok (o.daemonSetAt config port) := by
    unfold Overlay.daemonSet Overlay.probePort
    rw [h]
    rfl
  show (if o.isDeleted then _ else _) = _
  rw [live, wanted]
  rfl

/-- Without a port to probe there is no daemon set, and what the configuration lacks is said. -/
lemma daemon_desired_of_outOfRange (live : o.isDeleted = false) {config : DaemonConfig} {own : Version}
    {counted : Bool} (outside : ¬ HasProbePort o.body.network.vni) :
    ∃ fault, (daemonResource config own counted).desired o = throw (.invalidConfig fault) := by
  obtain ⟨fault, e⟩ := probePort_of_outOfRange outside
  have failed : o.daemonSet config = .error (.invalidConfig fault) := by
    unfold Overlay.daemonSet Overlay.probePort
    rw [e]
    rfl
  refine ⟨fault, ?_⟩
  show (if o.isDeleted then _ else _) = _
  rw [live, failed]
  rfl

end Desired

/-- Validation is all that the objects of a network need. It accepts what names a cluster, a network and a
directory, with an identifier that has a port to probe. For what it accepts every handler knows something
that it wants, and the daemon set has one port in all its containers, another one for every network. For
every other identifier there is no daemon set, and repetition does not help. The port is a sum that 32 bits
hold: it is not formed for what is no identifier. -/
theorem valid_overlay_buildable :
    (∀ s : OverlaySpec, s.validate = .ok () ↔ s.cluster.id ≠ "" ∧ s.network.network ≠ "" ∧
      s.network.runDirectory ≠ "" ∧ 1 ≤ s.network.vni.toNat ∧ s.network.vni.toNat ≤ 44535) ∧
    (∀ (o : Overlay) (teardown : BackoffPolicy) (config : DaemonConfig) (counted : Bool)
        (daemon : Resource services Overlay), o.isDeleted = false →
        Daemon.build config counted = .ok daemon →
        ∃ own, Version.parse config.bundleVersion = .ok own ∧ daemon = daemonResource config own counted ∧
      (o.body.validate = .ok () →
        roleBindingsResource.Wants List.isEmpty o ∧ storedNetworkResource.Wants NetworkEntry.isEmpty o ∧
        networkNamespaceResource.Wants Option.isNone o ∧ (cleanupResource teardown).Wants Option.isNone o ∧
        ∃ d port, (daemonResource config own counted).desired o = pure (some d) ∧
          d.ProbedAt config.healthContainer port ∧ port = 21000 + o.body.network.vni.toNat ∧
          21001 ≤ port ∧ port ≤ 65535) ∧
      (¬ (1 ≤ o.body.network.vni.toNat ∧ o.body.network.vni.toNat ≤ 44535) →
        ∃ fault, (daemonResource config own counted).desired o = throw (.invalidConfig fault) ∧
          (Error.invalidConfig fault).isRetryable = false)) ∧
    (∀ (vni vni' : UInt32) (port : Nat), probePort vni = .ok port → probePort vni' = .ok port →
      vni = vni') ∧
    (∀ vni : UInt32, vni.toNat ≤ maxVni →
      (UInt32.ofNat probePortBase + vni).toNat = probePortBase + vni.toNat) ∧
    ∀ vni : UInt32, maxVni < vni.toNat →
      probePort vni = .error (.invalidConfig (.vniOutOfRange vni.toNat)) := by
  refine ⟨fun s => OverlaySpec.validate_eq_ok_iff, fun o teardown config counted daemon live built => ?_,
    fun _ _ _ => probePort_injective, fun _ => probePort_exact, fun vni above => if_pos (.inr above)⟩
  obtain ⟨own, parsed, rfl⟩ := Daemon.build_eq_ok built
  refine ⟨own, parsed, rfl, fun valid => ?_, fun outside => ?_⟩
  · obtain ⟨-, -, -, hasPort⟩ := OverlaySpec.validate_eq_ok_iff.1 valid
    have port := probePort_eq_ok_iff.2 ⟨hasPort, rfl⟩
    refine ⟨⟨_, rfl, rfl⟩, ⟨_, rfl, Overlay.networkEntry_nonempty⟩, ⟨_, rfl, rfl⟩, ⟨_, rfl, rfl⟩, _, _,
      daemon_desired live port, Overlay.probedAt_daemonSet, rfl, ?_⟩
    unfold HasProbePort at hasPort
    omega
  · obtain ⟨fault, failed⟩ := daemon_desired_of_outOfRange live outside
    exact ⟨fault, failed, rfl⟩

/-- The daemon of the second generation, with the store on the host. -/
def DaemonConfig.withHealth : DaemonConfig where
  bundleVersion := Bundle.secondVersion
  image := flannelImage "0.10.0"
  storeEndpoints := [localStoreEndpoint]
  authorityFile := "ca.pem"
  certificateFile := "crt.pem"
  keyFile := "key.pem"
  healthContainer := true

/-- The network of the sample is probed at the port for its identifier; one whose identifier is one above the
last that has a port gets no daemon set. -/
theorem valid_overlay_buildable_sample :
    let o := Overlay.sample "a"
    let unprobed : Overlay :=
      { o with body := { o.body with network := { o.body.network with vni := 44536 } } }
    ∃ own, Daemon.build .withHealth true = .ok (daemonResource .withHealth own true) ∧
      o.isDeleted = false ∧ o.body.validate = .ok () ∧
      (∃ d, (daemonResource .withHealth own true).desired o = pure (some d) ∧ d.ProbedAt true 21026) ∧
      unprobed.isDeleted = false ∧
      (∃ fault, (daemonResource .withHealth own true).desired unprobed = throw (.invalidConfig fault)) ∧
      probePort 26 = .ok 21026 ∧ (∀ vni, probePort vni = .ok 21026 → vni = 26) ∧
      (UInt32.ofNat probePortBase + 44536).toNat = 65536 ∧
      probePort 16777216 = .error (.invalidConfig (.vniOutOfRange 16777216)) := by
  intro o unprobed
  obtain ⟨-, desired, injective, sums, above⟩ := valid_overlay_buildable
  have built : Daemon.build .withHealth true = .ok (daemonResource .withHealth ⟨0, 2, 0⟩ true) := rfl
  have valid : o.body.validate = .ok () := by decide
  obtain ⟨own, parsed, same, ofValid, -⟩ := desired o (.within 5) .withHealth true _ rfl built
  obtain ⟨own', parsed', -, -, ofOthers⟩ := desired unprobed (.within 5) .withHealth true _ rfl built
  obtain rfl : own = own' := Except.ok.inj (parsed.symm.trans parsed')
  obtain ⟨-, -, -, -, d, port, wanted, probed, rfl, -⟩ := ofValid valid
  obtain ⟨fault, failed, -⟩ := ofOthers (by decide)
  exact ⟨own, built.trans (congrArg _ same), rfl, valid, ⟨d, wanted, probed⟩, rfl, ⟨fault, failed⟩, rfl,
    fun vni h => injective vni 26 21026 h rfl, sums 44536 (by decide), above 16777216 (by decide)⟩

end TenantOverlay
