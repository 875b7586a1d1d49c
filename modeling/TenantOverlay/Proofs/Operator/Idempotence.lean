import TenantOverlay.Proofs.Handlers.Rest
import TenantOverlay.Proofs.Operator.Convergence

/-!
# What a second pass does

A creation pass that is done leaves the services where each of its handlers rests (`Satisfied`): what
the handlers write is what they compare with afterwards. So the pass, run again at once, is done again
and changes nothing, not even the version of an object.
-/

namespace TenantOverlay

open Program MemoryServices StoredNetwork

/-- No handler has anything to do for a living overlay. -/
structure Satisfied (daemon : DaemonConfig) (o : Overlay) (s : MemoryServices) : Prop where
  filed : (s.cluster.table .roleBindings).Filed
  converged : Converged daemon o s
  entry : Stands o s.store

section Passes

open Fallible

variable {fault : Error → Prop} {o : Overlay} {s : MemoryServices}

/-- A creation pass that is done leaves an entry that stands. -/
lemma ensures_creationPass_entry (c : SetConfig) (daemon : DaemonConfig) (own : Version) (o : Overlay)
    (s : MemoryServices) :
    Ensures (environment Error.IsSilent nobody) (fun _ _ => True)
      (fun r t => r = .done → Stands o t.store) (fun _ _ => True)
      (runPass (Generation.shippedHandlers c daemon own) o false) s := by
  have kept := keeps_store quiet_nobody (Stands o)
  have bindings : Ensures (environment Error.IsSilent nobody) (fun _ _ => True)
      (fun f _ => f = .continue () → True) (fun _ _ => True)
      ((roleBindingsResource.underPolicy c.retry).handler.ensure false o) s :=
    ensures_anything.post (fun _ _ _ _ => trivial) fun _ _ _ => trivial
  refine ensures_runHandlers_next bindings fun t _ => ?_
  refine ensures_runHandlers_next ((storedNetwork_settles (fun _ h => h) o t).ensure c.retry rfl)
    fun u complete => ?_
  -- The handlers after that of the entry do not reach the store.
  refine ensures_runHandlers_next (((networkNamespace_createsOnly o).ensure c.retry kept
    complete.stands).allow fun _ _ _ => trivial) fun u entry => ?_
  refine ensures_runHandlers_next (((cleanup_createsOnly o c.teardown).ensure c.retry kept entry).allow
    fun _ _ _ => trivial) fun u entry => ?_
  refine ensures_runHandlers_next (((daemon_createsOnly daemon own true o).ensure c.retry kept
    entry).allow fun _ _ _ => trivial) fun u entry => ?_
  exact ensures_runHandlers_nil entry

/-- A creation pass rests where nothing is left to do. -/
lemma rests_creationPass (silent : ∀ e, fault e → e.IsSilent) (c : SetConfig) {daemon : DaemonConfig}
    {own : Version} (parsed : Version.parse daemon.bundleVersion = .ok own)
    (live : o.isDeleted = false) (h : Satisfied daemon o s) :
    Rests (environment fault nobody) (∃ e, fault e) s
      (runPass (Generation.shippedHandlers c daemon own) o false) .done := by
  obtain ⟨_, bindings⟩ := roleBindings_atRest fault h.filed h.converged.bindings
  obtain ⟨_, _, entry⟩ := storedNetwork_atRest silent h.entry
  obtain ⟨_, _, namespace_⟩ := networkNamespace_atRest fault h.converged.namespace_
  obtain ⟨_, _, account⟩ := cleanup_atRest fault c.teardown h.converged.account
  obtain ⟨wanted, asked, current⟩ := h.converged.daemonSet
  have recorded := Daemon.recordedVersion?_daemonSet asked
  obtain ⟨_, daemonSet⟩ := daemon_atRest fault true live asked recorded parsed current
  show Rests _ _ _ (runHandlers false o (Generation.shippedHandlers c daemon own)) _
  refine rests_runHandlers fun handler m => ?_
  simp only [Generation.shippedHandlers, List.mem_cons, List.not_mem_nil, or_false] at m
  obtain rfl | rfl | rfl | rfl | rfl := m
  · exact bindings.ensure c.retry
  · exact entry.ensure c.retry
  · exact namespace_.ensure c.retry
  · exact account.ensure c.retry
  · exact daemonSet.ensure c.retry

/-- A pass that is done was one over the handlers of a generation, and leaves them nothing to do. -/
lemma satisfied_after_creation {c : SetConfig} {registry registry' : Registry}
    {engine : Engine services Overlay} (built : operatorEngine c registry = .ok (engine, registry'))
    (live : o.isDeleted = false) {t : MemoryServices} (start : s.Reachable)
    (reached : Reaches (environment Error.IsSilent nobody) ((engine.reconcile o).run, s)
      (.done (.ok (some .done)), t)) :
    ∃ set daemon own, engine.resolve o = some set ∧ Version.parse daemon.bundleVersion = .ok own ∧
      set.handlers = Generation.shippedHandlers c daemon own ∧ Satisfied daemon o t := by
  cases resolved : engine.resolve o with
  | none =>
    have nothing : Ensures (environment Error.IsSilent nobody) (fun _ _ => True)
        (fun r _ => r = none) (fun _ _ => True) (engine.reconcile o) s := by
      unfold Engine.reconcile
      rw [resolved]
      exact ensures_pure rfl
    exact nomatch result_of_reaches nothing (fun _ => settled_nobody) reached
  | some set =>
    obtain ⟨daemon, own, parsed, handlers⟩ := operatorEngine_shipped built resolved
    have converges := ensures_creationPass quiet_nobody c daemon own o live (start.filed .roleBindings)
    have pass := converges.and (ensures_creationPass_entry c daemon own o s)
    have done : Ensures (environment Error.IsSilent nobody) (fun _ _ => True)
        (fun r t => ∀ outcome, r = some outcome →
          (outcome = .done → Converged daemon o t) ∧ (outcome = .done → Stands o t.store))
        (fun _ _ => True) (engine.reconcile o) s := by
      refine Engine.ensures_reconcile fun set' resolved' => ?_
      cases resolved.symm.trans resolved'
      rw [handlers, show Managed.isDeleted o = false from live]
      exact pass.mono (fun _ _ _ => trivial) (fun _ _ p => p) fun _ _ _ => trivial
    obtain ⟨converged, entry⟩ := result_of_reaches done (fun _ => settled_nobody) reached .done rfl
    exact ⟨set, daemon, own, rfl, parsed, handlers,
      (start.reaches reached).filed .roleBindings, converged rfl, entry rfl⟩

/-- What the engine does with an overlay after a creation pass that is done leaves everything as it
is. -/
lemma rests_after_creation {c : SetConfig} {registry registry' : Registry}
    {engine : Engine services Overlay} (built : operatorEngine c registry = .ok (engine, registry'))
    (live : o.isDeleted = false) {t : MemoryServices} (start : s.Reachable)
    (reached : Reaches (environment Error.IsSilent nobody) ((engine.reconcile o).run, s)
      (.done (.ok (some .done)), t))
    (silent : ∀ e, fault e → e.IsSilent) :
    Rests (environment fault nobody) (∃ e, fault e) t (engine.reconcile o) (some .done) := by
  obtain ⟨set, daemon, own, resolved, parsed, handlers, satisfied⟩ :=
    satisfied_after_creation built live start reached
  refine Engine.rests_reconcile resolved ?_
  rw [handlers, show Managed.isDeleted o = false from live]
  exact rests_creationPass silent c parsed live satisfied

end Passes

/-- A creation pass that is done, run again at once, is done again and leaves the cluster and the
store exactly as they are. If its calls fail it may fail, but neither then does it change anything. -/
theorem creation_idempotent {c : SetConfig} {registry registry' : Registry}
    {engine : Engine services Overlay} (built : operatorEngine c registry = .ok (engine, registry'))
    {o : Overlay} (live : o.isDeleted = false) {s t : MemoryServices} (start : s.Reachable)
    (reached : Reaches (environment Error.IsSilent nobody) ((engine.reconcile o).run, s)
      (.done (.ok (some .done)), t)) :
    Reaches reliable ((engine.reconcile o).run, t) (.done (.ok (some .done)), t) ∧
    (∀ r u, Reaches reliable ((engine.reconcile o).run, t) (.done r, u) →
      r = .ok (some .done) ∧ u = t) ∧
    ∀ r u, Reaches (environment Error.IsSilent nobody) ((engine.reconcile o).run, t) (.done r, u) →
      u = t ∧ ∀ outcome, r = .ok outcome → outcome = some .done := by
  have again (r : Except PassError (Option PassOutcome)) (u : MemoryServices)
      (again : Reaches reliable ((engine.reconcile o).run, t) (.done r, u)) :
      r = .ok (some .done) ∧ u = t := by
    have outcome := outcome_of_reaches
      (rests_after_creation built live start reached fun _ no => no.elim) again
    cases r with
    | ok x => exact ⟨congrArg _ outcome.1, outcome.2⟩
    | error e => exact absurd outcome.1 (by simp)
  refine ⟨?_, again, fun r u failing => ?_⟩
  · obtain ⟨r, u, run⟩ := exists_reaches_reliable (engine.reconcile o).run t
    obtain ⟨rfl, rfl⟩ := again r u run
    exact run
  · have outcome := outcome_of_reaches
      (rests_after_creation built live start reached fun _ silent => silent) failing
    cases r with
    | ok x =>
      refine ⟨outcome.2, fun y e => ?_⟩
      cases e
      exact outcome.1
    | error e => exact ⟨outcome.2, nofun⟩

/-- The pass over a network whose namespace is missing and whose daemon set was made by the generation
before, and the same pass once more. -/
theorem creation_idempotent_outdated :
    ∃ (o : Overlay) (s t : MemoryServices), o = Overlay.sample "a" ∧ s.Reachable ∧
      s.object? o.networkNamespacePlace = none ∧
      ((s.object? o.daemonSetPlace).bind Daemon.recordedVersion?) = some "0.1.0" ∧
      Reaches (environment Error.IsSilent nobody) ((Engine.sample.reconcile o).run, s)
        (.done (.ok (some .done)), t) ∧
      ((t.object? o.daemonSetPlace).bind Daemon.recordedVersion?) = some "0.2.0" ∧
      Reaches reliable ((Engine.sample.reconcile o).run, t) (.done (.ok (some .done)), t) ∧
      (∀ r u, Reaches reliable ((Engine.sample.reconcile o).run, t) (.done r, u) →
        r = .ok (some .done) ∧ u = t) ∧
      ∀ r u, Reaches (environment Error.IsSilent nobody) ((Engine.sample.reconcile o).run, t)
        (.done r, u) → u = t ∧ ∀ outcome, r = .ok outcome → outcome = some .done := by
  obtain ⟨_, built⟩ := operatorEngine_sample
  let o := Overlay.sample "a"
  let before : Overlay := { o with body := { o.body with bundleVersion := "0.1.0" } }
  let s := ((undisturbed (Engine.sample.reconcile before).run {}).2.answer
    (.cluster .namespaces (.delete none o.networkNamespace))).2
  have start : s.Reachable := Reachable.empty.undisturbed.answer _
  have done : (undisturbed (Engine.sample.reconcile o).run s).1.result? = some (.ok (some .done)) := by
    decide +kernel
  have missing : (s.object? o.networkNamespacePlace).isNone = true := by decide +kernel
  have reached : Reaches (environment Error.IsSilent nobody) _ _ := reaches_undisturbed done
  have again := creation_idempotent built (by decide) start reached
  exact ⟨o, s, _, rfl, start, Option.isNone_iff_eq_none.1 missing, by decide +kernel, reached,
    by decide +kernel, again⟩

end TenantOverlay
