import TenantOverlay.Operator.Generations
import TenantOverlay.Proofs.Reconcile.Handler

/-!
# The sets that the operator is built with

`Generation.resourceSet_shipped` opens a resource set: it holds the five handlers of its generation in
their order, each with repetition and counting. `operatorEngine_resolve` says that the engine of the
operator resolves versions to such sets only. So what every pass over such handlers does is what the
engine does (`operatorEngine_ensures`).
-/

namespace TenantOverlay

/-- A configuration to start from. -/
def SetConfig.sample : SetConfig where
  store := ⟨[localStoreEndpoint], "ca.pem", "crt.pem", "key.pem"⟩
  retry := .within 5
  teardown := .within 5

/-- The engine of that configuration. -/
def Engine.sample : Engine services Overlay :=
  ((operatorEngine .sample .empty).toOption.map (·.1)).getD { routers := [] }

lemma operatorEngine_sample : ∃ registry, operatorEngine .sample .empty = .ok (.sample, registry) :=
  ⟨_, rfl⟩

namespace Generation

/-- The handlers of a generation whose daemon is deployed in one way. -/
def shippedHandlers (c : SetConfig) (daemon : DaemonConfig) (own : Version) :
    List (Handler services Overlay) := [
  (roleBindingsResource.underPolicy c.retry).handler,
  (storedNetworkResource.underPolicy c.retry).handler,
  (networkNamespaceResource.underPolicy c.retry).handler,
  ((cleanupResource c.teardown).underPolicy c.retry).handler,
  ((daemonResource daemon own true).underPolicy c.retry).handler]

lemma daemonConfig_version {g : Generation} {store : StoreConfig} {daemon : DaemonConfig}
    (h : g.daemonConfig store = .ok daemon) : daemon.bundleVersion = g.version := by
  unfold daemonConfig at h
  split at h
  · cases h
  · cases h
    rfl

end Generation

lemma Resource.guarded_eq_ok {policy : BackoffPolicy} {r : Result (Resource services Overlay)}
    {h : Handler services Overlay} (e : Resource.guarded policy r = .ok h) :
    ∃ r', r = .ok r' ∧ h = (r'.underPolicy policy).handler := by
  cases r with
  | error _ => cases e
  | ok r =>
    refine ⟨r, rfl, ?_⟩
    unfold Resource.guarded Resource.retrying at e
    cases v : policy.validate with
    | error _ =>
      rw [v] at e
      cases e
    | ok _ =>
      rw [v] at e
      cases e
      rfl

lemma Cleanup.build_eq_ok {teardown : BackoffPolicy} {r : Resource services Overlay}
    (e : Cleanup.build teardown = .ok r) : r = cleanupResource teardown := by
  unfold Cleanup.build at e
  split at e
  · cases e
    rfl
  · cases e

lemma Daemon.build_eq_ok {daemon : DaemonConfig} {counted : Bool} {r : Resource services Overlay}
    (e : Daemon.build daemon counted = .ok r) :
    ∃ own, Version.parse daemon.bundleVersion = .ok own ∧ r = daemonResource daemon own counted := by
  unfold Daemon.build at e
  split at e
  · cases e
    exact ⟨_, ‹_›, rfl⟩
  · cases e
  · cases e

namespace Generation

variable {g : Generation} {c : SetConfig}

/-- The set of a generation has its version and its five handlers. The handler of the daemon knows
that version. -/
theorem resourceSet_shipped {set : ResourceSet services Overlay} (h : g.resourceSet c = .ok set) :
    ∃ daemon own, g.daemonConfig c.store = .ok daemon ∧ daemon.bundleVersion = set.version ∧
      Version.parse daemon.bundleVersion = .ok own ∧ set.handlers = shippedHandlers c daemon own := by
  obtain ⟨handlers, hh, hb⟩ := Result.bind_eq_ok_iff.1 h
  obtain ⟨_, -, hb⟩ := Result.bind_eq_ok_iff.1 hb
  obtain ⟨_, -, hb⟩ := Result.bind_eq_ok_iff.1 hb
  cases hb
  -- The five handlers are built one after another.
  obtain ⟨daemon, hd, hh⟩ := Result.bind_eq_ok_iff.1 hh
  obtain ⟨_, h1, hh⟩ := Result.bind_eq_ok_iff.1 hh
  obtain ⟨_, h2, hh⟩ := Result.bind_eq_ok_iff.1 hh
  obtain ⟨_, h3, hh⟩ := Result.bind_eq_ok_iff.1 hh
  obtain ⟨_, h4, hh⟩ := Result.bind_eq_ok_iff.1 hh
  obtain ⟨_, h5, hh⟩ := Result.bind_eq_ok_iff.1 hh
  cases hh
  obtain ⟨_, e, rfl⟩ := Resource.guarded_eq_ok h1
  cases e
  obtain ⟨_, e, rfl⟩ := Resource.guarded_eq_ok h2
  cases e
  obtain ⟨_, e, rfl⟩ := Resource.guarded_eq_ok h3
  cases e
  obtain ⟨_, e, rfl⟩ := Resource.guarded_eq_ok h4
  obtain rfl := Cleanup.build_eq_ok e
  obtain ⟨_, e, rfl⟩ := Resource.guarded_eq_ok h5
  obtain ⟨own, parsed, rfl⟩ := Daemon.build_eq_ok e
  exact ⟨daemon, own, hd, daemonConfig_version hd, parsed, rfl⟩

/-- The set of a generation has its version and its five handlers. -/
theorem resourceSet_eq_ok {set : ResourceSet services Overlay} (h : g.resourceSet c = .ok set) :
    ∃ daemon own, g.daemonConfig c.store = .ok daemon ∧ daemon.bundleVersion = set.version ∧
      set.handlers = shippedHandlers c daemon own := by
  obtain ⟨daemon, own, config, version, -, handlers⟩ := resourceSet_shipped h
  exact ⟨daemon, own, config, version, handlers⟩

end Generation

lemma ResourceRouter.select_mem {S : Signature} {O : Type} {r : ResourceRouter S O} {version : String}
    {set : ResourceSet S O} (h : r.select version = some set) : set ∈ r.sets := by
  unfold ResourceRouter.select at h
  dsimp only at h
  split at h
  · obtain ⟨_, -, h⟩ := Option.bind_eq_some_iff.1 h
    exact List.mem_of_find?_eq_some h
  · exact List.mem_of_find?_eq_some h

lemma mapM_mem {α β : Type} {f : α → Result β} {as : List α} {bs : List β}
    (h : as.mapM f = .ok bs) {b : β} (m : b ∈ bs) : ∃ a ∈ as, f a = .ok b := by
  induction as generalizing bs with
  | nil =>
    cases h
    cases m
  | cons a as ih =>
    rw [List.mapM_cons] at h
    obtain ⟨b', hb, h⟩ := Result.bind_eq_ok_iff.1 h
    obtain ⟨bs', hbs, h⟩ := Result.bind_eq_ok_iff.1 h
    cases h
    rcases List.mem_cons.1 m with rfl | m
    · exact ⟨a, List.mem_cons_self, hb⟩
    · obtain ⟨a', ha, e⟩ := ih hbs m
      exact ⟨a', List.mem_cons_of_mem _ ha, e⟩

/-- The engine of the operator has the sets of the shipped generations. -/
theorem operatorEngine_resolve {c : SetConfig} {registry registry' : Registry}
    {engine : Engine services Overlay} (h : operatorEngine c registry = .ok (engine, registry'))
    {o : Overlay} {set : ResourceSet services Overlay} (r : engine.resolve o = some set) :
    ∃ g ∈ Generation.all c.store, g.resourceSet c = .ok set := by
  obtain ⟨⟨routers, _⟩, hr, h⟩ := Result.bind_eq_ok_iff.1 h
  obtain ⟨_, he, h⟩ := Result.bind_eq_ok_iff.1 h
  obtain ⟨_, -, he⟩ := Result.bind_eq_ok_iff.1 he
  cases he
  obtain ⟨_, -, h⟩ := Result.bind_eq_ok_iff.1 h
  cases h
  obtain ⟨_, -, hr⟩ := Result.bind_eq_ok_iff.1 hr
  obtain ⟨_, -, hr⟩ := Result.bind_eq_ok_iff.1 hr
  obtain ⟨sets, hs, hr⟩ := Result.bind_eq_ok_iff.1 hr
  obtain ⟨router, hb, hr⟩ := Result.bind_eq_ok_iff.1 hr
  obtain ⟨_, hd, hr⟩ := Result.bind_eq_ok_iff.1 hr
  cases hr
  obtain ⟨_, -, hd⟩ := Result.bind_eq_ok_iff.1 hd
  cases hd
  have m : set ∈ router.sets := by
    unfold Engine.resolve route at r
    obtain ⟨_, hm, hs⟩ := List.exists_of_findSome?_eq_some r
    rw [List.mem_singleton] at hm
    subst hm
    have selected := ResourceRouter.select_mem hs
    exact selected
  unfold ResourceRouter.build at hb
  split at hb
  · cases hb
  · cases hb
    obtain ⟨g, hg, e⟩ := mapM_mem hs m
    exact ⟨g, hg, e⟩

/-- The handlers that the engine of the operator has for an overlay are those of a generation that
knows its own version. -/
lemma operatorEngine_shipped {c : SetConfig} {registry registry' : Registry}
    {engine : Engine services Overlay} (h : operatorEngine c registry = .ok (engine, registry'))
    {o : Overlay} {set : ResourceSet services Overlay} (r : engine.resolve o = some set) :
    ∃ daemon own, Version.parse daemon.bundleVersion = .ok own ∧
      set.handlers = Generation.shippedHandlers c daemon own := by
  obtain ⟨g, -, e⟩ := operatorEngine_resolve h r
  obtain ⟨daemon, own, -, -, parsed, handlers⟩ := Generation.resourceSet_shipped e
  exact ⟨daemon, own, parsed, handlers⟩

section Passes

open Fallible

variable {σ : Type} {s : σ}

/-- What the engine does with an object is the pass over the handlers that it resolves to. -/
lemma Engine.ensures_reconcile {S : Signature} {O : Type} [Managed O] {env : Environment S σ}
    {allowed : S.Call → σ → Prop} {e : Engine S O} {o : O} {post : PassOutcome → σ → Prop}
    {fail : PassError → σ → Prop}
    (pass : ∀ set, e.resolve o = some set → Ensures env allowed post fail
      (runPass set.handlers o (Managed.isDeleted o)) s) :
    Ensures env allowed (fun r t => ∀ outcome, r = some outcome → post outcome t) fail (e.reconcile o) s := by
  unfold Engine.reconcile
  cases resolved : e.resolve o with
  | none => exact ensures_pure nofun
  | some set =>
    refine Program.ensures_bind (Program.Ensures.post (pass set resolved) fun r t p => ?_)
    have counted : Outcome (fun r t => ∀ outcome, r = some outcome → post outcome t) fail (r.map some) t := by
      cases r with
      | error e => exact p
      | ok outcome =>
        intro _ e
        cases e
        exact p
    split
    · exact counted
    · exact counted

/-- What the engine of the operator does with an overlay is what a pass over the handlers of its
generation does. -/
theorem operatorEngine_ensures {c : SetConfig} {registry registry' : Registry}
    {engine : Engine services Overlay} (built : operatorEngine c registry = .ok (engine, registry'))
    {env : Environment services σ} {allowed : OperatorCall → σ → Prop} {o : Overlay}
    {post : PassOutcome → σ → Prop} {fail : PassError → σ → Prop}
    (pass : ∀ g daemon own, g ∈ Generation.all c.store → g.daemonConfig c.store = .ok daemon →
      (engine.resolve o).map (·.version) = some daemon.bundleVersion →
      Ensures env allowed post fail (runPass (Generation.shippedHandlers c daemon own) o o.isDeleted) s) :
    Ensures env allowed (fun r t => ∀ outcome, r = some outcome → post outcome t) fail
      (engine.reconcile o) s := by
  refine Engine.ensures_reconcile fun set resolved => ?_
  obtain ⟨g, mem, e⟩ := operatorEngine_resolve built resolved
  obtain ⟨daemon, own, config, version, handlers⟩ := Generation.resourceSet_eq_ok e
  rw [handlers]
  refine pass g daemon own mem config ?_
  rw [resolved, version]
  rfl

end Passes

end TenantOverlay
