import TenantOverlay.Config.Basic

/-!
# Valid configurations

`OperatorConfig.Valid` has a field for each thing that `OperatorConfig.validate` asks for, and
`OperatorConfig.validate_eq_ok_iff` says that it asks for no more. Of the three intervals at which
overlays are looked at again two have to be positive; the one after a failure is not asked for.
-/

namespace TenantOverlay

namespace OperatorConfig

/-- A configuration that the operator accepts. -/
structure Valid (c : OperatorConfig) : Prop where
  endpoints : c.store.endpoints ≠ []
  authorityFile : c.store.authorityFile ≠ ""
  certificateFile : c.store.certificateFile ≠ ""
  keyFile : c.store.keyFile ≠ ""
  resync : 0 < c.controller.resyncSeconds
  shortRequeue : 0 < c.controller.shortRequeueSeconds
  retry : c.retry.policy.validate = .ok ()
  teardown : c.retry.teardownPolicy.validate = .ok ()
  address : ∃ a, c.metrics.address = .ok a

variable {c : OperatorConfig}

/-- A configuration is accepted when its values are, and its address for metrics can be read. -/
theorem validate_eq_ok_iff_values :
    c.validate = .ok () ↔ c.validateValues = .ok () ∧ ∃ a, c.metrics.address = .ok a := by
  unfold validate
  cases c.validateValues with
  | error e => exact ⟨nofun, nofun⟩
  | ok _ =>
    cases c.metrics.address with
    | error e => exact ⟨nofun, nofun⟩
    | ok a => exact ⟨fun _ => ⟨rfl, a, rfl⟩, fun _ => rfl⟩

theorem validate_eq_ok_iff : c.validate = .ok () ↔ c.Valid := by
  rw [validate_eq_ok_iff_values]
  simp only [validateValues, Result.check_bind_eq_ok_iff, Result.require_eq_ok_iff, Bool.not_eq_true',
    List.isEmpty_eq_false_iff, bne_iff_ne, Bool.and_eq_true, ← Nat.pos_iff_ne_zero]
  constructor
  · rintro ⟨⟨endpoints, authority, certificate, key, ⟨resync, short⟩, retry, teardown⟩, address⟩
    exact ⟨endpoints, authority, certificate, key, resync, short, retry, teardown, address⟩
  · rintro ⟨endpoints, authority, certificate, key, resync, short, retry, teardown, address⟩
    exact ⟨⟨endpoints, authority, certificate, key, ⟨resync, short⟩, retry, teardown⟩, address⟩

end OperatorConfig

end TenantOverlay
