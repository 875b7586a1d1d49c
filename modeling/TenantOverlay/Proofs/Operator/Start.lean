import Mathlib.Data.List.Forall2
import TenantOverlay.Operator.Lifecycle
import TenantOverlay.Proofs.Bundle
import TenantOverlay.Proofs.Config.Validation
import TenantOverlay.Proofs.Operator.Generations
import TenantOverlay.Proofs.Reconcile.Routing

/-!
# What the operator starts with

The start goes through the checks of every part: of the daemon's configuration in both generations, and of
the two policies. `exists_operatorRouters_iff` says what they come to for a configuration as a whole
(`SetConfig.Accepted`), and `OperatorConfig.validate` asks for no less (`SetConfig.accepted_of_validate`).
What has been built is one router for the two generations, so that it is known which versions have a set
(`exists_route_iff`), and which set that is (`route_eq_some`).
-/

namespace TenantOverlay

section Success

variable {α β : Type}

/-- One thing after another succeeds when the first does and the second does with its result. -/
lemma Result.exists_bind_iff {r : Result α} {f : α → Result β} :
    (∃ b, (r >>= f) = .ok b) ↔ ∃ a, r = .ok a ∧ ∃ b, f a = .ok b := by
  constructor
  · rintro ⟨b, h⟩
    obtain ⟨a, first, second⟩ := Result.bind_eq_ok_iff.1 h
    exact ⟨a, first, b, second⟩
  · rintro ⟨a, first, b, second⟩
    exact ⟨b, Result.bind_eq_ok_iff.2 ⟨a, first, second⟩⟩

/-- What is known succeeds. -/
lemma Result.exists_pure_iff {a : α} : (∃ b, (pure a : Result α) = .ok b) ↔ True :=
  iff_of_true ⟨a, rfl⟩ trivial

/-- All elements of a list are turned into something when each of them is. -/
lemma Result.mapM_eq_ok_iff {f : α → Result β} {as : List α} {bs : List β} :
    as.mapM f = .ok bs ↔ List.Forall₂ (fun a b => f a = .ok b) as bs := by
  induction as generalizing bs with
  | nil =>
    rw [List.mapM_nil, List.forall₂_nil_left_iff]
    exact ⟨fun h => (Except.ok.inj h).symm, fun h => congrArg Except.ok h.symm⟩
  | cons a as ih =>
    simp only [List.mapM_cons, bind_eq_ok_iff, List.forall₂_cons_left_iff, ← ih]
    constructor
    · rintro ⟨b, first, rest, others, h⟩
      exact ⟨b, rest, first, others, (Except.ok.inj h).symm⟩
    · rintro ⟨b, rest, first, others, rfl⟩
      exact ⟨b, first, rest, others, rfl⟩

end Success

section Parts

/-- What the configuration of the daemon has to give. -/
lemma DaemonConfig.validate_eq_ok_iff {c : DaemonConfig} : c.validate = .ok () ↔
    (∃ own, Version.parse c.bundleVersion = .ok own) ∧ c.image ≠ "" ∧ c.storeEndpoints ≠ [] ∧
      c.authorityFile ≠ "" ∧ c.certificateFile ≠ "" ∧ c.keyFile ≠ "" := by
  simp only [DaemonConfig.validate, Result.bind_eq_ok_iff (r := Version.parse _),
    Result.check_bind_eq_ok_iff, Result.require_eq_ok_iff, exists_and_right, bne_iff_ne, ne_eq,
    Bool.not_eq_true', List.isEmpty_eq_false_iff]

variable {policy : BackoffPolicy}

lemma Resource.exists_guarded_iff {r : Result (Resource services Overlay)} :
    (∃ h, Resource.guarded policy r = .ok h) ↔ (∃ r', r = .ok r') ∧ policy.validate = .ok () := by
  cases r with
  | error e => simp [Resource.guarded]
  | ok r =>
    unfold Resource.guarded Resource.retrying
    cases policy.validate with
    | error e => simp
    | ok _ => simp

lemma Cleanup.exists_build_iff : (∃ r, Cleanup.build policy = .ok r) ↔ policy.validate = .ok () := by
  unfold Cleanup.build
  cases policy.validate with
  | error e => simp
  | ok _ => simp

lemma Daemon.exists_build_iff {daemon : DaemonConfig} {counted : Bool} :
    (∃ r, Daemon.build daemon counted = .ok r) ↔ daemon.validate = .ok () := by
  unfold Daemon.build
  cases valid : daemon.validate with
  | error e => simp
  | ok _ =>
    -- A valid configuration has a version that can be read.
    obtain ⟨⟨own, parsed⟩, -⟩ := DaemonConfig.validate_eq_ok_iff.1 valid
    simp [parsed]

end Parts

/-- What resource sets can be built from. -/
structure SetConfig.Accepted (c : SetConfig) : Prop where
  endpoints : c.store.endpoints ≠ []
  authorityFile : c.store.authorityFile ≠ ""
  certificateFile : c.store.certificateFile ≠ ""
  keyFile : c.store.keyFile ≠ ""
  retry : c.retry.validate = .ok ()
  teardown : c.teardown.validate = .ok ()

/-- A valid configuration of the operator has parts from which its resource sets can be built. -/
lemma SetConfig.accepted_of_validate {config : OperatorConfig} (h : config.validate = .ok ()) :
    (Operator.setConfig config).Accepted := by
  have valid := OperatorConfig.validate_eq_ok_iff.1 h
  exact ⟨valid.endpoints, valid.authorityFile, valid.certificateFile, valid.keyFile, valid.retry,
    valid.teardown⟩

namespace Generation

variable {g : Generation} {c : SetConfig}

/-- How a generation that is shipped deploys its daemon. -/
lemma daemonConfig_of_known {store : StoreConfig} {flannel : String}
    (known : Bundle.flannelVersion? g.version = some flannel) :
    g.daemonConfig store = .ok {
      bundleVersion := g.version
      image := flannelImage flannel
      storeEndpoints := g.storeEndpoints
      authorityFile := store.authorityFile
      certificateFile := store.certificateFile
      keyFile := store.keyFile
      healthContainer := g.healthContainer } := by
  unfold daemonConfig
  rw [known]

/-- A generation that is shipped has handlers when its daemon is given endpoints and certificates of the
store, and both policies are valid. -/
lemma exists_handlers_iff {flannel : String} {own : Version}
    (known : Bundle.flannelVersion? g.version = some flannel) (parsed : Version.parse g.version = .ok own) :
    (∃ handlers, g.handlers c = .ok handlers) ↔ g.storeEndpoints ≠ [] ∧ c.store.authorityFile ≠ "" ∧
      c.store.certificateFile ≠ "" ∧ c.store.keyFile ≠ "" ∧ c.retry.validate = .ok () ∧
        c.teardown.validate = .ok () := by
  have image : flannelImage flannel ≠ "" := by
    refine ne_of_apply_ne String.length ?_
    simp [flannelImage, imageRepository, String.length_append]
  -- Each handler needs the policy of repetitions, the cleanup a policy of its own, the daemon its configuration.
  simp only [handlers, Result.exists_bind_iff, daemonConfig_of_known known, Except.ok.injEq,
    exists_eq_left', exists_eq', Result.exists_pure_iff, and_true, exists_and_right,
    Resource.exists_guarded_iff, Cleanup.exists_build_iff, Daemon.exists_build_iff,
    DaemonConfig.validate_eq_ok_iff, parsed, image, ne_eq, not_false_eq_true, true_and]
  constructor
  · rintro ⟨retry, -, -, ⟨teardown, -⟩, ⟨endpoints, authority, certificate, key⟩, -⟩
    exact ⟨endpoints, authority, certificate, key, retry, teardown⟩
  · rintro ⟨endpoints, authority, certificate, key, retry, teardown⟩
    exact ⟨retry, retry, retry, ⟨teardown, retry⟩, ⟨endpoints, authority, certificate, key⟩, retry⟩

lemma handlers_ne_nil {handlers : List (Handler services Overlay)} (h : g.handlers c = .ok handlers) :
    handlers ≠ [] := by
  simp only [Generation.handlers, Result.bind_eq_ok_iff] at h
  obtain ⟨_, -, bindings, -, _, -, _, -, _, -, _, -, listed⟩ := h
  cases listed
  exact List.cons_ne_nil bindings _

/-- A generation that has a version has a resource set if it has handlers. -/
lemma exists_resourceSet_iff (named : g.version ≠ "") :
    (∃ set, g.resourceSet c = .ok set) ↔ ∃ handlers, g.handlers c = .ok handlers := by
  refine Result.exists_bind_iff.trans (exists_congr fun handlers => and_iff_left_of_imp fun built => ?_)
  exact ⟨_, ResourceSet.build_eq_ok_iff.2 ⟨named, handlers_ne_nil built, rfl⟩⟩

/-- The set of a generation has the version of that generation, and its handlers in their order. -/
lemma resourceSet_named {set : ResourceSet services Overlay} (h : g.resourceSet c = .ok set) :
    set.version = g.version ∧
      set.handlerNames = ["clusterrolebindings", "networkconfig", "namespace", "legacy", "flanneld"] := by
  obtain ⟨daemon, own, config, version, handlers⟩ := resourceSet_eq_ok h
  refine ⟨version.symm.trans (daemonConfig_version config), ?_⟩
  unfold ResourceSet.handlerNames
  rw [handlers]
  rfl

end Generation

/-- The registry after the metrics of the handlers and the generations have been added to an empty one. -/
def Registry.ofHandlers : Registry := ⟨[.operations, .durations, .versions], []⟩

section Routers

variable {c : SetConfig}

/-- The set of each generation of the operator. -/
def SetConfig.Builds (c : SetConfig) (sets : List (ResourceSet services Overlay)) : Prop :=
  List.Forall₂ (fun (g : Generation) set => g.resourceSet c = .ok set) (Generation.all c.store) sets

namespace SetConfig.Builds

/-- There is a set for each of the two generations, under the version of that generation. -/
lemma exists_pair {sets : List (ResourceSet services Overlay)} (h : c.Builds sets) :
    ∃ first second, sets = [first, second] ∧ first.version = Bundle.firstVersion ∧
      second.version = Bundle.secondVersion := by
  simp only [SetConfig.Builds, Generation.all, List.forall₂_cons_left_iff,
    List.forall₂_nil_left_iff] at h
  obtain ⟨first, _, built, ⟨second, _, built', rfl, rfl⟩, rfl⟩ := h
  exact ⟨first, second, rfl, (Generation.resourceSet_named built).1,
    (Generation.resourceSet_named built').1⟩

/-- Both sets have the same handlers by name, in the order in which they run on a living overlay. -/
lemma handlerNames {sets : List (ResourceSet services Overlay)} (h : c.Builds sets)
    {set : ResourceSet services Overlay} (m : set ∈ sets) :
    set.handlerNames = ["clusterrolebindings", "networkconfig", "namespace", "legacy", "flanneld"] := by
  obtain ⟨g, -, built⟩ := mapM_mem (Result.mapM_eq_ok_iff.2 h) m
  exact (Generation.resourceSet_named built).2

end SetConfig.Builds

/-- Sets under the two shipped versions make up a router, with the first as its default. -/
lemma router_eq_ok {first second : ResourceSet services Overlay}
    (one : first.version = Bundle.firstVersion) (two : second.version = Bundle.secondVersion) :
    (ResourceRouter.build [first, second] >>= fun r => r.withDefault Bundle.firstVersion) =
      .ok ⟨[first, second], some Bundle.firstVersion⟩ := by
  have distinct : ResourceRouter.repeatedVersion? [] [first.version, second.version] = none := by
    rw [one, two]
    rfl
  have known : ([first, second].any fun s => s.version == Bundle.firstVersion) = true := by
    simp [one]
  unfold ResourceRouter.build
  rw [List.map_cons, List.map_cons, List.map_nil, distinct]
  refine Result.check_bind_eq_ok_iff.2 ⟨?_, rfl⟩
  exact Result.require_eq_ok_iff.2 known

/-- What is built for the operator is one router, for the sets of the two generations. -/
lemma operatorRouters_eq_ok_iff {routers : List (ResourceRouter services Overlay)} {registry : Registry} :
    operatorRouters c .empty = .ok (routers, registry) ↔
      registry = .ofHandlers ∧ ∃ sets, c.Builds sets ∧ routers = [⟨sets, some Bundle.firstVersion⟩] := by
  have opened : operatorRouters c .empty = ((Generation.all c.store).mapM (·.resourceSet c) >>= fun sets =>
      (ResourceRouter.build sets >>= fun r => r.withDefault Bundle.firstVersion) >>= fun router =>
        .ok ([router], .ofHandlers)) := by
    unfold operatorRouters
    simp only [bind_assoc]
    rfl
  rw [opened, Result.bind_eq_ok_iff]
  constructor
  · rintro ⟨sets, built, routed⟩
    have builds : c.Builds sets := Result.mapM_eq_ok_iff.1 built
    obtain ⟨first, second, rfl, one, two⟩ := builds.exists_pair
    rw [router_eq_ok one two] at routed
    cases routed
    exact ⟨rfl, _, builds, rfl⟩
  · rintro ⟨rfl, sets, builds, rfl⟩
    obtain ⟨first, second, rfl, one, two⟩ := builds.exists_pair
    refine ⟨_, Result.mapM_eq_ok_iff.2 builds, ?_⟩
    rw [router_eq_ok one two]
    rfl

/-- A generation that is shipped has a resource set when its daemon is given endpoints and certificates of
the store, and both policies are valid. -/
lemma Generation.exists_resourceSet_shipped_iff {g : Generation}
    (shipped : g.version = Bundle.firstVersion ∨ g.version = Bundle.secondVersion) :
    (∃ set, g.resourceSet c = .ok set) ↔ g.storeEndpoints ≠ [] ∧ c.store.authorityFile ≠ "" ∧
      c.store.certificateFile ≠ "" ∧ c.store.keyFile ≠ "" ∧ c.retry.validate = .ok () ∧
        c.teardown.validate = .ok () := by
  have known : ∃ flannel own, Bundle.flannelVersion? g.version = some flannel ∧
      Version.parse g.version = .ok own ∧ g.version ≠ "" := by
    rcases shipped with e | e
    · rw [e]
      exact ⟨"0.9.0", ⟨0, 1, 0⟩, rfl, rfl, by decide⟩
    · rw [e]
      exact ⟨"0.10.0", ⟨0, 2, 0⟩, rfl, rfl, by decide⟩
  obtain ⟨flannel, own, known, parsed, named⟩ := known
  exact (exists_resourceSet_iff named).trans (exists_handlers_iff known parsed)

/-- Routers can be built from endpoints and certificates of the store, and valid policies. -/
lemma exists_operatorRouters_iff :
    (∃ routers registry, operatorRouters c .empty = .ok (routers, registry)) ↔ c.Accepted := by
  have built : (∃ routers registry, operatorRouters c .empty = .ok (routers, registry)) ↔
      ∃ sets, c.Builds sets := by
    simp only [operatorRouters_eq_ok_iff]
    exact ⟨fun ⟨_, _, _, sets, builds, _⟩ => ⟨sets, builds⟩,
      fun ⟨sets, builds⟩ => ⟨_, _, rfl, sets, builds, rfl⟩⟩
  rw [built]
  constructor
  · rintro ⟨sets, builds⟩
    simp only [SetConfig.Builds, Generation.all, List.forall₂_cons_left_iff] at builds
    obtain ⟨_, _, -, ⟨second, _, hs, -, -⟩, -⟩ := builds
    -- Only the second generation takes the endpoints from the configuration.
    obtain ⟨endpoints, authority, certificate, key, retry, teardown⟩ :=
      (Generation.exists_resourceSet_shipped_iff (.inr rfl)).1 ⟨second, hs⟩
    exact ⟨endpoints, authority, certificate, key, retry, teardown⟩
  · rintro ⟨endpoints, authority, certificate, key, retry, teardown⟩
    obtain ⟨first, hf⟩ := (Generation.exists_resourceSet_shipped_iff (c := c)
      (g := ⟨Bundle.firstVersion, [localStoreEndpoint], false⟩) (.inl rfl)).2
        ⟨List.cons_ne_nil _ _, authority, certificate, key, retry, teardown⟩
    obtain ⟨second, hs⟩ := (Generation.exists_resourceSet_shipped_iff (c := c)
      (g := ⟨Bundle.secondVersion, c.store.endpoints, true⟩) (.inr rfl)).2
        ⟨endpoints, authority, certificate, key, retry, teardown⟩
    exact ⟨[first, second], .cons hf (.cons hs .nil)⟩

/-- The version that a text asks for: the first for none. -/
def Bundle.wanted (version : String) : String := if version = "" then firstVersion else version

lemma route_eq_find? {sets : List (ResourceSet services Overlay)} {version : String} :
    route [⟨sets, some Bundle.firstVersion⟩] version =
      sets.find? fun s => s.version == Bundle.wanted version := by
  have selected : route [⟨sets, some Bundle.firstVersion⟩] version =
      ResourceRouter.select ⟨sets, some Bundle.firstVersion⟩ version := by
    rw [route, List.findSome?_singleton]
  rw [selected]
  unfold ResourceRouter.select Bundle.wanted
  split_ifs <;> rfl

/-- The router of the operator has a set for every shipped version, and for overlays that ask for none. -/
lemma exists_route_iff {sets : List (ResourceSet services Overlay)} (h : c.Builds sets) {version : String} :
    (∃ set, route [⟨sets, some Bundle.firstVersion⟩] version = some set) ↔
      version = "" ∨ ∃ b ∈ Bundle.shipped, b.version = version := by
  obtain ⟨first, second, rfl, one, two⟩ := h.exists_pair
  rw [route_eq_find?, ← Option.isSome_iff_exists, List.find?_isSome, List.exists_mem_cons_iff,
    List.exists_mem_cons_iff, one, two, Bundle.exists_shipped_iff]
  simp only [List.not_mem_nil, false_and, exists_false, or_false, beq_iff_eq]
  unfold Bundle.wanted
  split
  · simp [*]
  · simp only [*, false_or, eq_comm]

/-- What the router of the operator gives for a version is the set of that version, the first for none. -/
lemma route_eq_some {sets : List (ResourceSet services Overlay)} {version : String}
    {set : ResourceSet services Overlay}
    (h : route [⟨sets, some Bundle.firstVersion⟩] version = some set) :
    set ∈ sets ∧ set.version = Bundle.wanted version := by
  rw [route_eq_find?] at h
  have wanted := List.find?_some h
  exact ⟨List.mem_of_find?_eq_some h, eq_of_beq wanted⟩

end Routers

/-- The operator starts from every configuration with endpoints and certificates of the store and with
valid policies, and so from every configuration that is valid as a whole. The engine it starts with has a
set for the versions of the shipped bundles and for no version at all, and for no other text: the set of that
version, of the first for none, with its five handlers in order. -/
theorem operator_starts (c : SetConfig) :
    ((∃ routers registry, operatorRouters c .empty = .ok (routers, registry)) ↔ c.Accepted) ∧
    (∀ config : OperatorConfig, config.validate = .ok () → ∃ routers registry,
      operatorRouters (Operator.setConfig config) .empty = .ok (routers, registry)) ∧
    ∀ routers registry, operatorRouters c .empty = .ok (routers, registry) →
      ∃ engine counted registry', Engine.build routers = .ok engine ∧
        engine.withRegistry registry = .ok (counted, registry') ∧
        ∀ o : Overlay,
          ((∃ set, counted.resolve o = some set) ↔
            o.bundleVersion = "" ∨ ∃ b ∈ Bundle.shipped, b.version = o.bundleVersion) ∧
          ∀ set, counted.resolve o = some set →
            set.version = (if o.bundleVersion = "" then "0.1.0" else o.bundleVersion) ∧
            set.handlerNames =
              ["clusterrolebindings", "networkconfig", "namespace", "legacy", "flanneld"] := by
  refine ⟨exists_operatorRouters_iff, fun config valid => ?_, fun routers registry built => ?_⟩
  · exact exists_operatorRouters_iff.2 (SetConfig.accepted_of_validate valid)
  · obtain ⟨rfl, sets, builds, rfl⟩ := operatorRouters_eq_ok_iff.1 built
    refine ⟨⟨[⟨sets, some Bundle.firstVersion⟩], false⟩, ⟨[⟨sets, some Bundle.firstVersion⟩], true⟩, _,
      rfl, rfl, fun o => ⟨exists_route_iff builds, fun set resolved => ?_⟩⟩
    obtain ⟨mem, version⟩ := route_eq_some resolved
    exact ⟨version, builds.handlerNames mem⟩

/-- The default configuration is valid, and the routers of one start are the engine of an overlay of the
second generation. -/
theorem operator_starts_sample :
    OperatorConfig.default.validate = .ok () ∧
    (∃ routers registry, operatorRouters (Operator.setConfig .default) .empty = .ok (routers, registry)) ∧
    ∃ routers registry, ∃ counted : Engine services Overlay, ∃ set,
      operatorRouters .sample .empty = .ok (routers, registry) ∧
      (Overlay.sample "a").bundleVersion = "0.2.0" ∧
      Engine.resolve counted (Overlay.sample "a") = some set ∧ set.version = "0.2.0" ∧
      set.handlerNames = ["clusterrolebindings", "networkconfig", "namespace", "legacy", "flanneld"] := by
  have valid : OperatorConfig.default.validate = .ok () := by rfl
  have accepted : SetConfig.sample.Accepted := ⟨by decide, by decide, by decide, by decide, rfl, rfl⟩
  obtain ⟨routers, registry, built⟩ := (operator_starts .sample).1.2 accepted
  obtain ⟨_, counted, _, -, -, resolved⟩ := (operator_starts .sample).2.2 routers registry built
  obtain ⟨known, named⟩ := resolved (Overlay.sample "a")
  obtain ⟨set, found⟩ := known.2 (.inr (Bundle.exists_shipped_iff.2 (.inr rfl)))
  exact ⟨valid, (operator_starts .sample).2.1 .default valid, routers, registry, counted, set, built, rfl,
    found, named set found⟩

end TenantOverlay
