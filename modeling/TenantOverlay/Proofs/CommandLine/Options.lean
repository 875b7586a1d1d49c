import TenantOverlay.CommandLine.Run
import TenantOverlay.Proofs.Config.SocketAddress
import TenantOverlay.Proofs.Config.Validation
import TenantOverlay.Proofs.Operator.Servers
import TenantOverlay.Proofs.Operator.Start

/-!
# Options over the configuration

The daemon runs with the merged configuration in which each option that is given has replaced its field
(`DaemonOptions.Overrides`). That configuration has to be valid, and the merged one has to be valid by itself,
before the options are put over it. For most fields this asks for nothing more: three of the four options are for
fields that are valid with any value, as the port of an address does not matter. But where the merged configuration
has no endpoints it is refused, whatever the options say (`options_override_configuration`).
-/

namespace TenantOverlay

section Success

variable {ε δ α β : Type} {r : Except ε α}

/-- Whether something succeeds, and with what, does not depend on how its errors are put. -/
lemma Result.mapError_eq_ok_iff {f : ε → δ} {a : α} : r.mapError f = .ok a ↔ r = .ok a := by
  cases r with
  | error e => exact ⟨nofun, nofun⟩
  | ok b => rw [Except.mapError, Except.ok.injEq, Except.ok.injEq]

lemma Result.exists_eq_ok (h : r.isOk = true) : ∃ a, r = .ok a := by
  cases r with
  | error e => cases h
  | ok a => exact ⟨a, rfl⟩

/-- Something that succeeds, known by what can be evaluated of it. -/
lemma Result.exists_of_map_toOption {f : α → β} {b : β} (h : r.toOption.map f = some b) :
    ∃ a, r = .ok a ∧ f a = b := by
  cases r with
  | error e => cases h
  | ok a => exact ⟨a, rfl, Option.some.inj h⟩

end Success

namespace DaemonOptions

/-- What becomes of a field: what is given replaces it, and without that it is kept. -/
inductive Replaces {α : Type} (old : α) : Option α → α → Prop where
  | given (new : α) : Replaces old (some new) new
  | kept : Replaces old none old

/-- A configuration is another one in which each option that is given has replaced its field. -/
structure Overrides (o : DaemonOptions) (c c' : OperatorConfig) : Prop where
  endpoints_given : o.endpoints ≠ [] → c'.store.endpoints = o.endpoints
  endpoints_kept : o.endpoints = [] → c'.store.endpoints = c.store.endpoints
  labelSelector : Replaces c.controller.labelSelector o.labelSelector c'.controller.labelSelector
  metricsPort : Replaces c.metrics.port o.metricsPort c'.metrics.port
  logLevel : Replaces c.logLevel o.logLevel c'.logLevel
  /-- No other field differs. -/
  others : { c' with
    store.endpoints := c.store.endpoints
    controller.labelSelector := c.controller.labelSelector
    metrics.port := c.metrics.port
    logLevel := c.logLevel } = c

variable {o : DaemonOptions} {c c' : OperatorConfig}

lemma replaces_iff {α : Type} {old new : α} {given : Option α} :
    Replaces old given new ↔ new = given.getD old := by
  constructor
  · intro h
    cases h <;> rfl
  · rintro rfl
    cases given with
    | none => exact .kept
    | some new => exact .given new

/-- There is one such configuration. -/
lemma overrides_iff : o.Overrides c c' ↔ c' = o.apply c := by
  constructor
  · rintro ⟨given, kept, labelSelector, metricsPort, logLevel, others⟩
    rw [replaces_iff] at labelSelector metricsPort logLevel
    obtain ⟨⟨_, _, _, _⟩, ⟨_, _, _, _⟩, _, ⟨_, _⟩, _⟩ := c
    obtain ⟨⟨_, _, _, _⟩, ⟨_, _, _, _⟩, _, ⟨_, _⟩, _⟩ := c'
    cases others
    dsimp only at given kept labelSelector metricsPort logLevel
    subst labelSelector metricsPort logLevel
    unfold apply
    cases none_given : o.endpoints with
    | nil =>
      rw [kept none_given]
      rfl
    | cons e es =>
      rw [given (by simp [none_given]), none_given]
      rfl
  · rintro rfl
    unfold apply
    refine ⟨fun given => ?_, fun kept => ?_, replaces_iff.2 rfl, replaces_iff.2 rfl, replaces_iff.2 rfl, ?_⟩
    · rw [if_neg (by simpa using given)]
    · rw [if_pos (by simpa using kept)]
    · split <;> rfl

end DaemonOptions

/-- There is an address for metrics when the text of address and port is one. -/
lemma MetricsConfig.exists_address_iff {m : MetricsConfig} :
    (∃ a, m.address = .ok a) ↔
      ∃ a, SocketAddress.parse? (m.listenAddress ++ ":" ++ toString m.port) = some a := by
  unfold MetricsConfig.address
  cases SocketAddress.parse? (m.listenAddress ++ ":" ++ toString m.port) with
  | none => exact ⟨nofun, nofun⟩
  | some a => exact ⟨fun _ => ⟨a, rfl⟩, fun _ => ⟨a, rfl⟩⟩

namespace OperatorConfig

variable {o : DaemonOptions} {c : OperatorConfig} {files : String → Option String}
  {environment : List (String × String)} {path : Option String}

/-- The port of a configuration that is read from settings has 16 bits. -/
lemma port_of_ofSetting? {settings : Setting} (h : ofSetting? settings = some c) : c.metrics.port < 65536 := by
  simp only [ofSetting?, MetricsConfig.ofSetting?, Option.bind_eq_bind, Option.bind_eq_some_iff, Option.pure_def,
    Option.some_inj] at h
  obtain ⟨_, -, _, -, _, -, _, -, _, ⟨_, -, _, -, _, -, port, ⟨_, -, read⟩, rfl⟩, _, -, rfl⟩ := h
  obtain ⟨n, -, rfl⟩ := Option.map_eq_some_iff.1 read
  exact Nat.mod_lt n (by decide)

/-- What is put together has been read from settings. -/
lemma port_of_merge (merged : merge files environment path = .ok c) : c.metrics.port < 65536 := by
  obtain ⟨file, -, read⟩ := Result.bind_eq_ok_iff.1 merged
  dsimp only at read
  split at read
  · next found =>
    cases read
    exact port_of_ofSetting? found
  · cases read

/-- Of what the options can change, only the endpoints of the store matter for validity. -/
lemma valid_of_apply (port : c.metrics.port < 65536) (endpoints : c.store.endpoints ≠ [])
    (h : (o.apply c).Valid) : c.Valid := by
  obtain ⟨-, authority, certificate, key, resync, short, retry, teardown, address⟩ := h
  have files : (o.apply c).store.authorityFile = c.store.authorityFile ∧
      (o.apply c).store.certificateFile = c.store.certificateFile ∧
      (o.apply c).store.keyFile = c.store.keyFile := by
    unfold DaemonOptions.apply
    split <;> exact ⟨rfl, rfl, rfl⟩
  rw [files.1] at authority
  rw [files.2.1] at certificate
  rw [files.2.2] at key
  -- The host is the same, and what the port is does not matter.
  have found : ∃ a, c.metrics.address = .ok a := by
    rw [MetricsConfig.exists_address_iff] at address ⊢
    exact SocketAddress.exists_parse?_of_port port address
  exact ⟨endpoints, authority, certificate, key, resync, short, retry, teardown, found⟩

/-- Missing endpoints are what is found first. -/
lemma validate_of_endpoints_eq_nil (h : c.store.endpoints = []) :
    c.validate = .error (.invalid (.invalidConfig (.emptyField "etcd.endpoints"))) := by
  unfold validate validateValues
  rw [h]
  rfl

/-- What is loaded has been put together, and is valid. -/
lemma load_eq_ok_iff :
    load files environment path = .ok c ↔ merge files environment path = .ok c ∧ c.validate = .ok () := by
  unfold load
  rw [Result.bind_eq_ok_iff]
  simp only [Result.check_bind_eq_ok_iff]
  constructor
  · rintro ⟨_, merged, valid, h⟩
    cases h
    exact ⟨merged, valid⟩
  · rintro ⟨merged, valid⟩
    exact ⟨c, merged, valid, rfl⟩

end OperatorConfig

namespace Operator

/-- The engine of the operator can be built from what its resource sets can be built from. -/
lemma exists_operatorEngine {c : SetConfig} (h : c.Accepted) :
    ∃ built, operatorEngine c .empty = .ok built := by
  obtain ⟨routers, registry, routed⟩ := exists_operatorRouters_iff.2 h
  obtain ⟨rfl, sets, -, rfl⟩ := operatorRouters_eq_ok_iff.1 routed
  unfold operatorEngine
  rw [routed]
  exact ⟨_, rfl⟩

/-- An operator can be put together from a valid configuration when the cluster can be accessed and a connection
to the store can be set up. -/
lemma exists_build {config : OperatorConfig} {read : String → Option String} {client : StoreClient}
    (valid : config.validate = .ok ())
    (connected : StoreClient.connect config.store.endpoints config.store.tls read = .ok client) :
    ∃ notices, build config true read = .ok (fresh config, notices) := by
  obtain ⟨⟨engine, registry⟩, built⟩ := exists_operatorEngine (SetConfig.accepted_of_validate valid)
  unfold build
  rw [valid, connected, built]
  exact ⟨_, rfl⟩

/-- An operator that has never been started can be, when its configuration is valid. -/
lemma start_fresh {config : OperatorConfig} (valid : config.validate = .ok ()) (binds : Bool) :
    ((fresh config).start binds).result = .ok () := by
  obtain ⟨a, found⟩ := (OperatorConfig.validate_eq_ok_iff.1 valid).address
  rcases (fresh config).start_cases binds with ⟨e, failed, -⟩ | ⟨result, -⟩
  · rw [show (fresh config).config.metrics.address = .ok a from found] at failed
    cases failed
  · rw [result]
    rfl

/-- A start leaves the configuration as it is. -/
lemma start_config (o : Operator) (binds : Bool) : (o.start binds).state.config = o.config := by
  rcases o.start_cases binds with ⟨-, -, -, same⟩ | ⟨-, state⟩
  · rw [same]
  · rw [state]

end Operator

namespace Surroundings

variable {s : Surroundings} {o : DaemonOptions} {c c' : OperatorConfig} {d : Daemon.Running}

/-- The configuration to run with is the loaded one under the options, if that is valid. -/
lemma configure_eq_ok_iff (merged : OperatorConfig.merge s.files s.environment o.configPath = .ok c) :
    s.configure o = .ok c' ↔ c' = o.apply c ∧ c.validate = .ok () ∧ c'.validate = .ok () := by
  unfold configure
  rw [Result.bind_eq_ok_iff]
  simp only [Result.check_bind_eq_ok_iff, OperatorConfig.load_eq_ok_iff, merged]
  constructor
  · rintro ⟨_, ⟨h, loaded⟩, valid, h'⟩
    cases h
    cases h'
    exact ⟨rfl, loaded, valid⟩
  · rintro ⟨rfl, loaded, valid⟩
    exact ⟨c, ⟨rfl, loaded⟩, valid, rfl⟩

/-- A daemon serves once an operator has been put together from the configuration and has been started. -/
lemma serve_eq_ok_iff : s.serve o = .ok d ↔ ∃ config made, s.configure o = .ok config ∧
    Operator.build config (ClusterAccess.isConfigured s.files s.environment) s.files = .ok made ∧
    (made.1.start s.isAddressFree).result = .ok () ∧
    d = ⟨(made.1.start s.isAddressFree).state,
      .operatorStarting :: made.2 ++ (made.1.start s.isAddressFree).notices, LogFilter.shows config.logLevel⟩ := by
  unfold serve
  simp only [Result.bind_eq_ok_iff, Result.mapError_eq_ok_iff]
  constructor
  · rintro ⟨config, configured, made, built, _, started, h⟩
    exact ⟨config, made, configured, built, started, (Except.ok.inj h).symm⟩
  · rintro ⟨config, made, configured, built, started, rfl⟩
    exact ⟨config, configured, made, built, (), started, rfl⟩

lemma run_eq_serving_iff : s.run (.run (.daemon o)) = .serving d ↔ s.serve o = .ok d := by
  unfold run
  dsimp only
  cases s.serve o with
  | error e => exact ⟨nofun, nofun⟩
  | ok d' => rw [Run.serving.injEq, Except.ok.injEq]

/-- A daemon that serves has the configuration that the options and the other sources give. -/
lemma configure_of_run (h : s.run (.run (.daemon o)) = .serving d) : s.configure o = .ok d.operator.config := by
  obtain ⟨config, ⟨operator, notices⟩, configured, built, -, rfl⟩ := serve_eq_ok_iff.1 (run_eq_serving_iff.1 h)
  rw [Operator.eq_fresh_of_build built, Operator.start_config]
  exact configured

/-- A daemon serves with its configuration when the cluster and the store can be reached. -/
lemma exists_run_of_configure {client : StoreClient} (configured : s.configure o = .ok c)
    (valid : c.validate = .ok ()) (access : ClusterAccess.isConfigured s.files s.environment = true)
    (connected : StoreClient.connect c.store.endpoints c.store.tls s.files = .ok client) :
    ∃ d, s.run (.run (.daemon o)) = .serving d ∧ d.operator.config = c := by
  obtain ⟨notices, built⟩ := Operator.exists_build valid connected
  rw [← access] at built
  refine ⟨_, run_eq_serving_iff.2 (serve_eq_ok_iff.2
    ⟨c, _, configured, built, Operator.start_fresh valid _, rfl⟩), ?_⟩
  exact Operator.start_config _ _

/-- A merged configuration that is not valid is refused, whatever the options are. -/
lemma configure_of_invalid {e : StartError}
    (merged : OperatorConfig.merge s.files s.environment o.configPath = .ok c) (invalid : c.validate = .error e) :
    s.configure o = .error e := by
  unfold configure OperatorConfig.load
  rw [merged]
  show ((c.validate >>= fun _ => Except.ok c) >>= _) = _
  rw [invalid]
  rfl

/-- Without a configuration the program ends. -/
lemma run_of_refused {e : StartError} (refused : s.configure o = .error e) :
    s.run (.run (.daemon o)) = Run.failed (.start e) := by
  have ended : s.serve o = .error (.start e) := by
    unfold serve
    rw [refused]
    rfl
  unfold run
  dsimp only
  rw [ended]

end Surroundings

/-- The configuration that the daemon runs with is the merged one with the options over it. It is accepted when
it is valid, except that the merged configuration has to have endpoints of its own. -/
theorem options_override_configuration {s : Surroundings} {o : DaemonOptions} {c : OperatorConfig}
    (merged : OperatorConfig.merge s.files s.environment o.configPath = .ok c) :
    (∃! c', o.Overrides c c') ∧
    (∀ c', s.configure o = .ok c' ↔
      o.Overrides c c' ∧ c'.validate = .ok () ∧ c.store.endpoints ≠ []) ∧
    (c.store.endpoints = [] →
      s.run (.run (.daemon o)) = Run.failed (.start (.invalid (.invalidConfig (.emptyField "etcd.endpoints"))))) ∧
    (∀ d, s.run (.run (.daemon o)) = .serving d → s.configure o = .ok d.operator.config) ∧
    ∀ c' client, s.configure o = .ok c' → ClusterAccess.isConfigured s.files s.environment = true →
      StoreClient.connect c'.store.endpoints c'.store.tls s.files = .ok client →
      ∃ d, s.run (.run (.daemon o)) = .serving d ∧ d.operator.config = c' := by
  have accepted (c' : OperatorConfig) : s.configure o = .ok c' ↔
      o.Overrides c c' ∧ c'.validate = .ok () ∧ c.store.endpoints ≠ [] := by
    rw [Surroundings.configure_eq_ok_iff merged, DaemonOptions.overrides_iff]
    constructor
    · rintro ⟨rfl, loaded, valid⟩
      exact ⟨rfl, valid, (OperatorConfig.validate_eq_ok_iff.1 loaded).endpoints⟩
    · rintro ⟨rfl, valid, endpoints⟩
      have loaded := OperatorConfig.valid_of_apply (OperatorConfig.port_of_merge merged) endpoints
        (OperatorConfig.validate_eq_ok_iff.1 valid)
      exact ⟨rfl, OperatorConfig.validate_eq_ok_iff.2 loaded, valid⟩
  refine ⟨?_, accepted, fun endpoints => ?_, fun d => Surroundings.configure_of_run, ?_⟩
  · exact ⟨o.apply c, DaemonOptions.overrides_iff.2 rfl, fun c' h => DaemonOptions.overrides_iff.1 h⟩
  · have invalid := OperatorConfig.validate_of_endpoints_eq_nil endpoints
    exact Surroundings.run_of_refused (Surroundings.configure_of_invalid merged invalid)
  · intro c' client configured
    exact Surroundings.exists_run_of_configure configured ((accepted c').1 configured).2.1

/-- Surroundings in which a cluster and the store can be reached, with a variable for the port of metrics and a
file without endpoints. -/
def Surroundings.sample : Surroundings where
  files path :=
    if path = "cluster.yaml" then
      some ("current-context: a\n" ++
        "contexts:\n- name: a\n  context:\n    cluster: b\n    user: c\n" ++
        "clusters:\n- name: b\n  cluster:\n    server: https://10.0.0.1:6443\n" ++
        "users:\n- name: c\n  user:\n")
    else if path = "a.yaml" then some "etcd:\n  endpoints: []\n"
    else Operator.credentialFile path
  environment := [("KUBECONFIG", "cluster.yaml"), ("FLANNEL_OPERATOR__METRICS__PORT", "9000")]

/-- Options for the store and the log. -/
def DaemonOptions.sample (configPath : Option String) : DaemonOptions where
  configPath := configPath
  endpoints := ["https://10.0.0.2:2379"]
  logLevel := some "debug"

/-- A port from the environment and an endpoint from the options: the daemon runs with both. -/
theorem options_override_configuration_sample :
    ∃ c, OperatorConfig.merge Surroundings.sample.files Surroundings.sample.environment none = .ok c ∧
      ∃ d, Surroundings.sample.run (.run (.daemon (.sample none))) = .serving d ∧
        (DaemonOptions.sample none).Overrides c d.operator.config ∧
        d.operator.config.metrics.port = 9000 ∧
        d.operator.config.store.endpoints = ["https://10.0.0.2:2379"] := by
  have access : ClusterAccess.isConfigured Surroundings.sample.files Surroundings.sample.environment = true := by
    decide +kernel
  have evaluated : ((OperatorConfig.merge Surroundings.sample.files Surroundings.sample.environment
      none).toOption.map fun c =>
        let c' := (DaemonOptions.sample none).apply c
        (c.metrics.port, c.store.endpoints.isEmpty, c'.validate.isOk,
          (StoreClient.connect c'.store.endpoints c'.store.tls Surroundings.sample.files).isOk)) =
      some (9000, false, true, true) := by
    decide +kernel
  obtain ⟨c, merged, found⟩ := Result.exists_of_map_toOption evaluated
  simp only [Prod.mk.injEq] at found
  obtain ⟨port, endpoints, valid, connected⟩ := found
  obtain ⟨_, valid⟩ := Result.exists_eq_ok valid
  obtain ⟨client, connected⟩ := Result.exists_eq_ok connected
  have overrides : (DaemonOptions.sample none).Overrides c _ := DaemonOptions.overrides_iff.2 rfl
  obtain ⟨-, accepted, -, -, serves⟩ := options_override_configuration (o := .sample none) merged
  have configured := (accepted _).2 ⟨overrides, valid, List.isEmpty_eq_false_iff.1 endpoints⟩
  obtain ⟨d, served, config⟩ := serves _ client configured access connected
  rw [← config] at overrides
  have port : d.operator.config.metrics.port = 9000 := by
    rw [config]
    exact port
  exact ⟨c, merged, d, served, overrides, port, overrides.endpoints_given (List.cons_ne_nil _ _)⟩

/-- With an endpoint from the options the configuration is valid, and still the daemon ends, for want of
endpoints in the file. -/
theorem options_override_configuration_refused :
    ∃ c c', OperatorConfig.merge Surroundings.sample.files Surroundings.sample.environment (some "a.yaml") = .ok c ∧
      (DaemonOptions.sample (some "a.yaml")).Overrides c c' ∧ c'.validate = .ok () ∧
      (Surroundings.sample.configure (.sample (some "a.yaml"))).isOk = false ∧
      Surroundings.sample.run (.run (.daemon (.sample (some "a.yaml")))) =
        .ended 1 "" (some "Error: 配置无效: etcd.endpoints 不能为空") := by
  have evaluated : ((OperatorConfig.merge Surroundings.sample.files Surroundings.sample.environment
      (some "a.yaml")).toOption.map fun c =>
        (c.store.endpoints, ((DaemonOptions.sample (some "a.yaml")).apply c).validate.isOk)) =
      some ([], true) := by
    decide +kernel
  obtain ⟨c, merged, found⟩ := Result.exists_of_map_toOption evaluated
  simp only [Prod.mk.injEq] at found
  obtain ⟨endpoints, valid⟩ := found
  obtain ⟨_, valid⟩ := Result.exists_eq_ok valid
  have refused : Surroundings.sample.configure (.sample (some "a.yaml")) = _ :=
    Surroundings.configure_of_invalid merged (OperatorConfig.validate_of_endpoints_eq_nil endpoints)
  refine ⟨c, _, merged, DaemonOptions.overrides_iff.2 rfl, valid, ?_, ?_⟩
  · rw [refused]
    rfl
  · rw [Surroundings.run_of_refused refused]
    exact congrArg (fun text => Run.ended 1 "" (some text)) (by decide +kernel)

end TenantOverlay
