import TenantOverlay.Proofs.Operator.Passes
import TenantOverlay.Proofs.Operator.Teardown

/-!
# What a deletion leaves

A deletion pass that is done has left nothing of the network and of its cleanup, whatever was there
before, and it has left every other object as it was. Meanwhile the cluster may run the cleanup's job
(`Overlay.JobStatusChanged`). No deletion pass, whatever it comes to, brings back anything of the
network.
-/

namespace TenantOverlay

open Program MemoryServices

/-- The cluster has changed the status of the cleanup's job. -/
def Overlay.JobStatusChanged (o : Overlay) (s t : MemoryServices) : Prop :=
  ∃ job status, s.object? o.jobPlace = some job ∧
    t = { s with cluster := s.cluster.withTable .jobs ((s.cluster.table .jobs).store
      (some o.destroyerNamespace) destroyerApp { job with body := { job.body with status := status } }) }

variable {o : Overlay}

lemma Overlay.JobStatusChanged.object? {s t : MemoryServices} (h : o.JobStatusChanged s t) {p : Place}
    (elsewhere : p ≠ o.jobPlace) : t.object? p = s.object? p := by
  obtain ⟨job, status, -, rfl⟩ := h
  obtain ⟨k, key⟩ := p
  unfold MemoryServices.object?
  -- Only the table of jobs has changed, and only in the place of the job.
  by_cases isJob : k = .jobs
  · subst isJob
    dsimp only
    rw [Cluster.table_withTable, ObjectTable.get?_store_of_ne]
    exact fun e => elsewhere (congrArg (Place.mk .jobs) e.symm)
  · dsimp only
    rw [Cluster.table_withTable_of_ne _ _ isJob]

lemma Overlay.quiet_jobStatusChanged (o : Overlay) : Quiet Error.IsSilent o.JobStatusChanged where
  notFound e := e.1
  alreadyExists e := e.2
  table {s t k} h network := by
    obtain ⟨job, status, -, rfl⟩ := h
    refine Cluster.table_withTable_of_ne _ _ fun e => ?_
    subst e
    cases network
  store {s t} h := by
    obtain ⟨job, status, -, rfl⟩ := h
    rfl

lemma settled_sameOutside (s : MemoryServices) :
    Settled o.JobStatusChanged (SameOutside o.places s) := by
  intro t u changed h p outside
  refine (changed.object? fun e => outside ?_).trans (h p outside)
  simp [e, Overlay.places, Overlay.jobPlaces]

lemma settled_lacks : Settled o.JobStatusChanged fun s => s.Lacks (o.networkPlaces ++ o.cleanupPlaces) := by
  intro s t changed h p m
  rw [o.quiet_jobStatusChanged.object? ?_ changed]
  · exact h p m
  · revert p m
    simp [Kind.isOfNetwork, Overlay.networkPlaces, Overlay.cleanupPlaces]

/-- What a deletion pass has left of the state that it began in. -/
structure Overlay.LeftBy (o : Overlay) (outcome : PassOutcome) (s t : MemoryServices) : Prop where
  lacks : outcome = .done → t.Lacks (o.networkPlaces ++ o.cleanupPlaces)
  same : SameOutside o.places s t

lemma settled_leftBy (outcome : PassOutcome) (s : MemoryServices) :
    Settled o.JobStatusChanged (o.LeftBy outcome s) := fun t u changed h =>
  ⟨fun e => settled_lacks t u changed (h.lacks e), settled_sameOutside s t u changed h.same⟩

/-- After a deletion pass that is done, nothing of the network and of the cleanup is left, and all
other objects are as they were; and no deletion pass stores anything of the network. -/
theorem deletion_leaves_nothing {c : SetConfig} {registry registry' : Registry}
    {engine : Engine services Overlay} (built : operatorEngine c registry = .ok (engine, registry'))
    {o : Overlay} (deleted : o.isDeleted = true) :
    (∀ s t : MemoryServices, s.Reachable →
      Reaches (environment Error.IsSilent o.JobStatusChanged)
        ((engine.reconcile o).run, s) (.done (.ok (some .done)), t) →
      t.Lacks (o.networkPlaces ++ o.cleanupPlaces) ∧ SameOutside o.places s t) ∧
    ∀ call next log,
      Reaches (.logged fun _ => True) ((engine.reconcile o).run, []) (.call (.outside call) next, log) →
      (∀ p ∈ o.networkPlaces, call.stores? ≠ some p) ∧ call.writes? = none := by
  refine ⟨fun s t start reached => ?_, fun call next log reached => ?_⟩
  · have pass : Fallible.Ensures (environment Error.IsSilent o.JobStatusChanged)
        (fun c _ => o.deletionFootprint.Covers c)
        (fun r t => ∀ outcome, r = some outcome → o.LeftBy outcome s t) (fun _ _ => True)
        (engine.reconcile o) s := by
      refine operatorEngine_ensures built fun g daemon own _ _ _ => ?_
      rw [deleted]
      have done := ensures_deletionPass o.quiet_jobStatusChanged c daemon own o False
        (start.filed .namespaces) (start.filed .roleBindings) nofun
      refine (done.carry (keeps_sameOutside (settled_sameOutside s) o.deletionFootprint_stores
        o.deletionFootprint_deletes) fun _ _ => rfl).post ?_ fun _ _ _ => trivial
      exact fun _ _ p => ⟨fun e => (p.1 e).1, p.2⟩
    have settled (r : Option PassOutcome) :
        Settled o.JobStatusChanged fun t => ∀ outcome, r = some outcome → o.LeftBy outcome s t :=
      fun t u changed h outcome e => settled_leftBy outcome s t u changed (h outcome e)
    obtain ⟨gone, rest⟩ := result_of_reaches pass settled reached .done rfl
    exact ⟨gone rfl, rest⟩
  · have pass : Fallible.Ensures (.logged fun _ => True) (Orderly o)
        (fun r _ => ∀ outcome : PassOutcome, r = some outcome → True) (fun _ _ => True)
        (engine.reconcile o) [] := by
      refine operatorEngine_ensures built fun g daemon own _ _ _ => ?_
      rw [deleted]
      exact ensures_orderly c daemon own deleted
    have orderly : Orderly o call log := Program.Ensures.call_allowed pass reached
    exact ⟨fun p m e => o.not_mem_of_mem_networkPlaces m (orderly.stores e), orderly.writes⟩

/-- The creation of the cleanup's namespace. -/
def Overlay.destroyerNamespaceCreation (o : Overlay) : OperatorCall :=
  .cluster .namespaces (.create none (o.namespaceManifest o.destroyerNamespace destroyerApp))

/-- The deletion of an overlay whose network has been created before. What it stores first is the
namespace of the cleanup. -/
theorem deletion_leaves_nothing_created :
    ∃ (o : Overlay) (s t : MemoryServices), o = (Overlay.sample "a").markedDeleted { seconds := 0 } ∧
      s.Reachable ∧ (∀ p ∈ o.networkPlaces, (s.object? p).isSome = true) ∧
      Reaches (environment Error.IsSilent o.JobStatusChanged)
        ((Engine.sample.reconcile o).run, s) (.done (.ok (some .done)), t) ∧
      t.Lacks (o.networkPlaces ++ o.cleanupPlaces) ∧ SameOutside o.places s t ∧
      ∃ next log, Reaches (.logged fun _ => True) ((Engine.sample.reconcile o).run, [])
          (.call (.outside o.destroyerNamespaceCreation) next, log) ∧
        (∀ p ∈ o.networkPlaces, o.destroyerNamespaceCreation.stores? ≠ some p) ∧
        o.destroyerNamespaceCreation.writes? = none := by
  obtain ⟨_, built⟩ := operatorEngine_sample
  let o := (Overlay.sample "a").markedDeleted { seconds := 0 }
  obtain ⟨s, start, present, done⟩ : ∃ s : MemoryServices, s.Reachable ∧
      (∀ p ∈ o.networkPlaces, (s.object? p).isSome = true) ∧
      (undisturbed (Engine.sample.reconcile o).run s).1.result? = some (.ok (some .done)) :=
    ⟨(undisturbed (Engine.sample.reconcile (Overlay.sample "a")).run {}).2,
      Reachable.empty.undisturbed, by decide +kernel, by decide +kernel⟩
  have reached : Reaches (environment Error.IsSilent o.JobStatusChanged)
      ((Engine.sample.reconcile o).run, s)
      (.done (.ok (some .done)), (undisturbed (Engine.sample.reconcile o).run s).2) :=
    reaches_undisturbed done
  have stops : ((Engine.sample.reconcile o).run.runTo emptyLogged (fun c : OperatorCall => c.stores?.isSome)
      []).1.nextCall? = some o.destroyerNamespaceCreation := rfl
  have answers (c : OperatorCall) (log : List (Exchange services)) :
      (Environment.logged fun _ => True).answers c log (emptyLogged c log).1 (emptyLogged c log).2 :=
    ⟨trivial, rfl⟩
  obtain ⟨next, stored⟩ := reaches_nextCall answers stops
  obtain ⟨ofDone, ofAny⟩ := deletion_leaves_nothing built (o := o) rfl
  obtain ⟨gone, rest⟩ := ofDone s _ start reached
  exact ⟨o, s, _, rfl, start, present, reached, gone, rest, next, _, stored, ofAny _ _ _ stored⟩

end TenantOverlay
