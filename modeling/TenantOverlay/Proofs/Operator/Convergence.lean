import TenantOverlay.Proofs.Operator.Passes

/-!
# What a living overlay comes to

A creation pass that is done has brought about the network of its overlay as its generation has it,
whatever was there before: `Overlay.Established` says what that is, object by object. All other
objects are as they were.
-/

namespace TenantOverlay

open Program MemoryServices RoleBindings

/-- The network of an overlay is there, with the daemon as a generation deploys it. -/
structure Overlay.Established (o : Overlay) (daemon : DaemonConfig) (s : MemoryServices) : Prop where
  bindings (b : RoleBinding) : b ∈ o.networkBindings →
    ∃ found, s.object? (bindingPlace (bindingName b)) = some found ∧ AsDesired b found
  namespace_ : ∃ n : Namespace, s.object? o.networkNamespacePlace = some n ∧ n.isTerminating = false
  account : (s.object? (o.accountPlace o.networkNamespace)).isSome = true
  daemonSet : ∃ (d : DaemonSet) (port : Nat), s.object? o.daemonSetPlace = some d ∧
    o.probePort = .ok port ∧ d.metadata.annotation? versionMark = some daemon.bundleVersion ∧
      Daemon.fingerprint d =
        (o.networkContainers daemon port).map fun c => (c.name, c.image, c.command, c.env)

variable {o : Overlay} {daemon : DaemonConfig} {s : MemoryServices}

/-- A daemon set that is not outdated has the annotation and the containers of its generation. -/
lemma Daemon.Current.spelled {d : DaemonSet} (wanted : o.daemonSet daemon = .ok d)
    (h : Current o d s) :
    ∃ (d : DaemonSet) (port : Nat), s.object? o.daemonSetPlace = some d ∧
      o.probePort = .ok port ∧ d.metadata.annotation? versionMark = some daemon.bundleVersion ∧
        fingerprint d =
          (o.networkContainers daemon port).map fun c => (c.name, c.image, c.command, c.env) := by
  have recorded := recordedVersion?_daemonSet wanted
  obtain ⟨port, hp, e⟩ := Result.bind_eq_ok_iff.1 wanted
  cases e
  obtain ⟨found, there, same⟩ := h
  -- What is compared is the generation and the containers.
  simp only [needsUpdate, Bool.or_eq_false_iff, bne_eq_false_iff_eq] at same
  exact ⟨found, port, there, hp, same.1.trans recorded, same.2⟩

lemma Converged.established (h : Converged daemon o s) : o.Established daemon s where
  bindings b m := by
    obtain ⟨missing, -⟩ | drifted | ⟨found, there, desired⟩ := h.bindings b m
    · cases missing
    · cases drifted
    · exact ⟨found, there, desired⟩
  namespace_ := h.namespace_
  account := h.account
  daemonSet := by
    obtain ⟨d, wanted, current⟩ := h.daemonSet
    exact current.spelled wanted

/-- After a creation pass that is done, the network is there as the generation of the overlay has it,
and all other objects are as they were. -/
theorem creation_converges {c : SetConfig} {registry registry' : Registry}
    {engine : Engine services Overlay} (built : operatorEngine c registry = .ok (engine, registry'))
    {o : Overlay} (live : o.isDeleted = false) {s t : MemoryServices} (start : s.Reachable)
    (reached : Reaches (environment Error.IsSilent nobody) ((engine.reconcile o).run, s)
      (.done (.ok (some .done)), t)) :
    (∃ g ∈ Generation.all c.store, ∃ daemon, g.daemonConfig c.store = .ok daemon ∧
      (engine.resolve o).map (·.version) = some daemon.bundleVersion ∧ o.Established daemon t) ∧
    SameOutside o.networkPlaces s t := by
  have pass : Fallible.Ensures (environment Error.IsSilent nobody)
      (fun c _ => o.creationFootprint.Covers c)
      (fun r t => ∀ outcome, r = some outcome → outcome = .done →
        (∃ g ∈ Generation.all c.store, ∃ daemon, g.daemonConfig c.store = .ok daemon ∧
          (engine.resolve o).map (·.version) = some daemon.bundleVersion ∧ o.Established daemon t) ∧
        SameOutside o.networkPlaces s t)
      (fun _ _ => True) (engine.reconcile o) s := by
    refine operatorEngine_ensures built fun g daemon own mem config version => ?_
    rw [live]
    have done := ensures_creationPass quiet_nobody c daemon own o live (start.filed .roleBindings)
    refine (done.carry (keeps_sameOutside settled_nobody (List.Subset.refl _)
      o.creationFootprint_deletes) fun _ _ => rfl).post ?_ fun _ _ _ => trivial
    rintro _ t ⟨converged, same⟩ e
    exact ⟨⟨g, mem, daemon, config, version, (converged e).established⟩, same⟩
  exact result_of_reaches pass (fun _ => settled_nobody) reached .done rfl rfl

/-- The pass over a network of which one role binding is missing and all else was made by the
generation before. -/
theorem creation_converges_outdated :
    ∃ (o : Overlay) (s t : MemoryServices), o = Overlay.sample "a" ∧ s.Reachable ∧
      s.object? (Overlay.bindingPlace o.roleBinding) = none ∧
      ((s.object? o.daemonSetPlace).bind Daemon.recordedVersion?) = some "0.1.0" ∧
      Reaches (environment Error.IsSilent nobody) ((Engine.sample.reconcile o).run, s)
        (.done (.ok (some .done)), t) ∧
      (∃ g ∈ Generation.all SetConfig.sample.store, ∃ daemon,
        g.daemonConfig SetConfig.sample.store = .ok daemon ∧
        (Engine.sample.resolve o).map (·.version) = some daemon.bundleVersion ∧
          o.Established daemon t) ∧
      SameOutside o.networkPlaces s t := by
  obtain ⟨_, built⟩ := operatorEngine_sample
  let o := Overlay.sample "a"
  let before : Overlay := { o with body := { o.body with bundleVersion := "0.1.0" } }
  obtain ⟨s, start, missing, outdated, done⟩ : ∃ s : MemoryServices, s.Reachable ∧
      (s.object? (Overlay.bindingPlace o.roleBinding)).isNone = true ∧
      ((s.object? o.daemonSetPlace).bind Daemon.recordedVersion?) = some "0.1.0" ∧
      (undisturbed (Engine.sample.reconcile o).run s).1.result? = some (.ok (some .done)) :=
    ⟨((undisturbed (Engine.sample.reconcile before).run {}).2.answer
        (.cluster .roleBindings (.delete none o.roleBinding))).2,
      Reachable.empty.undisturbed.answer _, by decide +kernel, by decide +kernel, by decide +kernel⟩
  have reached : Reaches (environment Error.IsSilent nobody) ((Engine.sample.reconcile o).run, s)
      (.done (.ok (some .done)), (undisturbed (Engine.sample.reconcile o).run s).2) :=
    reaches_undisturbed done
  exact ⟨o, s, _, rfl, start, Option.isNone_iff_eq_none.1 missing, outdated, reached,
    creation_converges built rfl start reached⟩

end TenantOverlay
