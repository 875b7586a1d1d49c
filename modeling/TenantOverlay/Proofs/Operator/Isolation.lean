import TenantOverlay.Proofs.Handlers.Ownership

/-!
# Isolation of tenants

What one of two overlays owns, the other does without (`Overlay.Owns.spares`), if the identifiers of
their clusters are apart. So a pass over the one leaves the other alone, whoever else is at work and
whatever calls fail (`tenants_isolated`). It does not if the identifiers are only different: all names
are made from the identifier without setting it off from what comes after it
(`namesakes_not_isolated`).
-/

namespace TenantOverlay

open MemoryServices Program

/-- A call changes nothing that belongs to an overlay. -/
structure OperatorCall.Spares (c : OperatorCall) (o : Overlay) : Prop where
  stores {p : Place} : c.stores? = some p → p ∉ o.places
  deletes {p : Place} : c.deletes? = some p → p ∉ o.places
  writes {w : String × String} : c.writes? = some w → ¬ o.HasKey w.1
  clears {key k : String} : c.clears? = some key → AtOrBelow key k → ¬ o.HasKey k

variable {o o' : Overlay} {c : OperatorCall} {s : MemoryServices}

/-- The objects and the keys of an overlay are the same in two states. -/
structure Overlay.Unchanged (o : Overlay) (s t : MemoryServices) : Prop where
  objects (p : Place) : p ∈ o.places → t.object? p = s.object? p
  values (k : String) : o.HasKey k → t.store.get? k = s.store.get? k

namespace OperatorCall.Spares

/-- The objects of an overlay that is spared are as they were. -/
theorem object? (h : c.Spares o) {p : Place} (m : p ∈ o.places) : (s.answer c).2.object? p = s.object? p :=
  object?_answer (fun e => h.stores e m) fun e => h.deletes e m

/-- The values of an overlay that is spared are as they were. -/
theorem value (h : c.Spares o) {k : String} (own : o.HasKey k) :
    (s.answer c).2.store.get? k = s.store.get? k := by
  cases c with
  | cluster kind request => rfl
  | store request =>
    cases request with
    | «exists» | list | search => rfl
    | create key value =>
      refine (KeyTree.get?_answer_create s.store key value k).trans (if_neg ?_)
      rintro rfl
      exact h.writes rfl own
    | delete key =>
      have apart : ¬ AtOrBelow (normalizeKey key) k := fun below => h.clears rfl below own
      obtain ⟨other, above⟩ := not_or.1 apart
      exact KeyTree.get?_answer_delete_of_not other (Bool.eq_false_iff.2 above)

lemma unchanged (h : c.Spares o) (s : MemoryServices) : o.Unchanged s (s.answer c).2 :=
  ⟨fun _ => h.object?, fun _ => h.value⟩

end OperatorCall.Spares

/-- What belongs to one of two overlays does not belong to the other. -/
theorem Overlay.Owns.spares (h : o.Owns c) (apart : IdsApart o.clusterId o'.clusterId) : c.Spares o' where
  stores e := places_disjoint apart (h.stores e)
  deletes e := places_disjoint apart (h.deletes e)
  writes e := keys_disjoint apart (h.writes e)
  clears e below := by
    have own := h.clears e
    subst own
    exact keys_disjoint apart below

namespace MemoryServices

variable {fault : Error → Prop}

/-- What is found under a name in memory has that name. -/
lemma named_of_answers {others : MemoryServices → MemoryServices → Prop} {t : MemoryServices}
    {x : services.Answer c} (h : s.Reachable) (a : (environment fault others).answers c s x t) :
    Exchange.Named ⟨c, x⟩ := by
  intro k ns name v e
  cases e
  rcases a with answered | ⟨_, -, failed, -⟩
  · rw [answer_get] at answered
    have found : s.object? ⟨k, .of ns name⟩ = some v :=
      (Except.ok.inj (congrArg Prod.fst answered)).symm
    exact (h.filed k _ v found).1
  · cases failed

end MemoryServices

/-- A pass over an overlay, living or deleted, makes no call that changes anything of an overlay of
another cluster, if the identifiers of the two are apart. Calls may fail, and others may do anything in
between. -/
theorem tenants_isolated {config : SetConfig} {registry registry' : Registry}
    {engine : Engine services Overlay} (built : operatorEngine config registry = .ok (engine, registry'))
    (apart : IdsApart o.clusterId o'.clusterId) {fault : Error → Prop} {t : MemoryServices}
    (start : s.Reachable) {next : services.Answer c → Program services.withRuntime _}
    (reached : Reaches (environment fault anyone) ((engine.reconcile o).run, s)
      (.call (.outside c) next, t)) : c.Spares o' ∧ o'.Unchanged t (t.answer c).2 := by
  have confined : Fallible.Ensures (.logged Exchange.Named) (fun c _ => o.Owns c)
      (fun r _ => ∀ outcome : PassOutcome, r = some outcome → True) (fun _ _ => True)
      (engine.reconcile o) [] := by
    refine operatorEngine_ensures built fun _ daemon own _ _ _ => ?_
    exact (o.confines_pass config daemon own o.isDeleted []).post (fun _ _ _ => trivial)
      fun _ _ _ => trivial
  have keeps : (environment fault anyone).Keeps (fun _ _ => True) Reachable :=
    environment_keeps (settled_anyone fun _ c h => h.answer c) fun c _ _ h => h.answer c
  have inMemory := Ensures.transfer confined keeps named_of_answers start
  have owned : o.Owns c := inMemory.call_allowed reached
  have spares := owned.spares apart
  exact ⟨spares, spares.unchanged t⟩

/-- A deletion pass clears the keys of its own network, and not those of one whose identifier only
begins in the same way. -/
theorem tenants_isolated_clearing :
    ∃ (o o' : Overlay) (s t : MemoryServices) (c : OperatorCall)
      (next : services.Answer c → Program services.withRuntime _),
      o = (Overlay.sample "a").markedDeleted { seconds := 0 } ∧ o' = Overlay.sample "ab" ∧
      s.Reachable ∧ IdsApart o.clusterId o'.clusterId ∧
      Reaches (environment Error.IsSilent anyone) ((Engine.sample.reconcile o).run, s)
        (.call (.outside c) next, t) ∧
      c.clears? = some "coreos.com/network/br-a" ∧ c.Spares o' ∧ o'.Unchanged t (t.answer c).2 := by
  obtain ⟨_, built⟩ := operatorEngine_sample
  let o := (Overlay.sample "a").markedDeleted { seconds := 0 }
  let s := (undisturbed (Engine.sample.reconcile (Overlay.sample "a")).run {}).2
  have start : s.Reachable := Reachable.empty.undisturbed
  have apart : IdsApart o.clusterId (Overlay.sample "ab").clusterId := by decide +kernel
  have clears : ((Engine.sample.reconcile o).run.runTo MemoryServices.answer
      (fun c : OperatorCall => c.clears?.isSome) s).1.nextCall?.bind OperatorCall.clears? =
        some "coreos.com/network/br-a" := by decide +kernel
  obtain ⟨c, stops, e⟩ := Option.bind_eq_some_iff.1 clears
  obtain ⟨next, reached⟩ := reaches_nextCall answers_answer stops
  exact ⟨o, _, s, _, c, next, rfl, rfl, start, apart, reached, e,
    tenants_isolated built apart start reached⟩

/-- A pass over one overlay comes to a call that changes something of another. -/
def Overlay.Trespasses (o o' : Overlay) : Prop :=
  ∃ (s t : MemoryServices) (c : OperatorCall) (next : services.Answer c → Program services.withRuntime _),
    s.Reachable ∧
    Reaches reliable ((Engine.sample.reconcile o).run, s) (.call (.outside c) next, t) ∧ ¬ c.Spares o'

/-- Overlays that are valid and of different clusters are not isolated if the identifier of one is that
of the other with the ending of a role binding, or if it goes on after that of the other with a slash:
the first deletes the second's role binding to make it its own, and the keys of the third are cleared
together with those of the first. -/
theorem namesakes_not_isolated :
    ∃ a b c : Overlay, a.body.validate = .ok () ∧ b.body.validate = .ok () ∧ c.body.validate = .ok () ∧
      a.clusterId ≠ b.clusterId ∧ a.clusterId ≠ c.clusterId ∧ b.Trespasses a ∧ a.Trespasses c := by
  let deleted := (Overlay.sample "a").markedDeleted { seconds := 0 }
  let s := (undisturbed (Engine.sample.reconcile (Overlay.sample "a")).run {}).2
  have start : s.Reachable := Reachable.empty.undisturbed
  refine ⟨deleted, Overlay.sample "a-psp", Overlay.sample "a/b", rfl, rfl, rfl, by decide, by decide, ?_, ?_⟩
  · have deletes : ((Engine.sample.reconcile (Overlay.sample "a-psp")).run.runTo MemoryServices.answer
        (fun c : OperatorCall => c.deletes?.isSome) s).1.nextCall?.bind OperatorCall.deletes? =
          some (Overlay.bindingPlace deleted.pspRoleBinding) := by decide +kernel
    obtain ⟨c, stops, e⟩ := Option.bind_eq_some_iff.1 deletes
    obtain ⟨next, reached⟩ := reaches_nextCall answers_answer stops
    refine ⟨s, _, c, next, start, reached, fun spares => spares.deletes e ?_⟩
    simp [Overlay.places, Overlay.networkPlaces]
  · have clears : ((Engine.sample.reconcile deleted).run.runTo MemoryServices.answer
        (fun c : OperatorCall => c.clears?.isSome) s).1.nextCall?.bind OperatorCall.clears? =
          some (normalizeKey deleted.storePath) := by decide +kernel
    obtain ⟨c, stops, e⟩ := Option.bind_eq_some_iff.1 clears
    obtain ⟨next, reached⟩ := reaches_nextCall answers_answer stops
    have below : AtOrBelow (normalizeKey deleted.storePath)
        (normalizeKey (Overlay.sample "a/b").storePath) := by decide +kernel
    refine ⟨s, _, c, next, start, reached, fun spares => ?_⟩
    exact spares.clears e below (atOrBelow_self _)

end TenantOverlay
