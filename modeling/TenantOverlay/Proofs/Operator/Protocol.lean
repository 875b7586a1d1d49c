import TenantOverlay.Operator.Reconciler
import TenantOverlay.Proofs.Operator.Teardown
import TenantOverlay.Proofs.Program.Runs

/-!
# The protocol of the finalizer

What one look at an overlay does besides the pass, whatever the engine is, whatever its handlers do and
whatever they are answered. `Reconciler.Protocol` has one field for each situation in which an overlay
can be found; `reconcile_protocol` says that every run keeps to it. What is written is the overlay as it was
found under other finalizers (`Overlay.Under`). That no handler is called is said in two ways: nothing is
asked by any, and with another engine the run would be the same (`Reconciler.Regardless`).
-/

namespace TenantOverlay

open Fallible

namespace Overlay

/-- The replacement of an overlay as it was found, and the answer. -/
def replacement (o written : Overlay) (reply : Result Overlay) : Exchange services :=
  ⟨.cluster .overlays (.replace o.metadata.namespaceName written), reply⟩

/-- An overlay is another one under certain finalizers, and the same in all else. -/
structure Under (finalizers : List String) (o written : Overlay) : Prop where
  finalizers : written.metadata.finalizers = some finalizers
  others : { written with metadata.finalizers := o.metadata.finalizers } = o

/-- The finalizer is among those of an overlay. -/
def IsMarked (o : Overlay) : Prop := finalizer ∈ o.metadata.finalizers.getD []

variable {o written : Overlay}

lemma hasFinalizer_iff : o.hasFinalizer = true ↔ o.IsMarked := List.contains_iff_mem

lemma hasFinalizer_eq_false_iff : o.hasFinalizer = false ↔ ¬ o.IsMarked := by
  rw [← hasFinalizer_iff, Bool.not_eq_true]

/-- There is one such overlay. -/
lemma under_iff {finalizers : List String} : Under finalizers o written ↔ written = o.withFinalizers finalizers := by
  constructor
  · rintro ⟨same, others⟩
    obtain ⟨⟨⟩, _⟩ := o
    obtain ⟨⟨⟩, _⟩ := written
    cases same
    cases others
    rfl
  · rintro rfl
    exact ⟨rfl, rfl⟩

lemma under_addFinalizer : Under (o.metadata.finalizers.getD [] ++ [finalizer]) o o.addFinalizer := under_iff.2 rfl

lemma under_removeFinalizer :
    Under ((o.metadata.finalizers.getD []).filter (· ≠ finalizer)) o o.removeFinalizer := by
  refine under_iff.2 (congrArg o.withFinalizers (List.filter_congr fun f _ => ?_))
  rw [decide_not, bne, beq_eq_decide]

lemma isDeleted_iff : o.isDeleted = true ↔ o.metadata.deletionTimestamp ≠ none := Option.isSome_iff_ne_none

lemma isDeleted_eq_false_iff : o.isDeleted = false ↔ o.metadata.deletionTimestamp = none :=
  Option.isSome_eq_false_iff.trans Option.isNone_iff_eq_none

end Overlay

namespace Reconciler

variable {r : Reconciler} {o : Overlay} {log : List (Exchange services)}
  {result : Except ReconcileError NextLook}

/-- What comes of a pass. After one that is done the overlay is looked at again as `done` says. -/
def verdict (r : Reconciler) (done : NextLook) :
    Except PassError (Option PassOutcome) → Except ReconcileError NextLook
  | .error e => .error (.pass e)
  | .ok none => .ok .onChange
  | .ok (some .done) => .ok done
  | .ok (some (.canceled _)) | .ok (some (.finalizerKept _)) =>
    .ok (.after r.controller.shortRequeueSeconds)

/-- What comes of taking the finalizer off. An overlay that is gone has none. -/
def released : Result Overlay → Except ReconcileError NextLook
  | .ok _ => .ok .onChange
  | .error e => if e.isNotFound then .ok .onChange else .error (.object e)

/-- A run that any other engine would have led to as well. -/
def Regardless (r : Reconciler) (o : Overlay) (log : List (Exchange services))
    (result : Except ReconcileError NextLook) : Prop :=
  ∀ engine, Runs (reconcile { r with engine := engine } o) log result

/-- All that is asked apart from one pass is at most one replacement of the overlay. -/
def ReplacesOnce (r : Reconciler) (o : Overlay) (log : List (Exchange services)) : Prop :=
  ∃ before passed after, log = before ++ passed ++ after ∧ (before ++ after).length ≤ 1 ∧
    (∀ e ∈ before ++ after, ∃ written reply, e = o.replacement written reply) ∧
    (passed = [] ∨ ∃ v outcome, Runs (r.engine.reconcile v) passed outcome)

/-- What one look at an overlay keeps to, in each situation in which the overlay can be found. -/
structure Protocol (r : Reconciler) (o : Overlay) (log : List (Exchange services))
    (result : Except ReconcileError NextLook) : Prop where
  once : r.ReplacesOnce o log
  /-- A living overlay that is not valid: nothing is called. -/
  invalid (e : Error) : o.metadata.deletionTimestamp = none → o.body.validate = .error e →
    log = [] ∧ result = .error (.object e) ∧ r.Regardless o log result
  /-- A living overlay without the finalizer: it is put on first, after those that are there, and the pass is
  over the overlay as it is stored then. If that fails there is no pass. -/
  marking : o.metadata.deletionTimestamp = none → o.body.validate = .ok () → ¬ o.IsMarked →
    ∃ written reply rest, Overlay.Under (o.metadata.finalizers.getD [] ++ [finalizer]) o written ∧
      log = o.replacement written reply :: rest ∧
      (∀ e, reply = .error e → rest = [] ∧ result = .error (.object e) ∧ r.Regardless o log result) ∧
      ∀ v, reply = .ok v → ∃ outcome, Runs (r.engine.reconcile v) rest outcome ∧
        result = r.verdict (.after r.controller.resyncSeconds) outcome
  /-- A living overlay with the finalizer: there is nothing but the pass. -/
  marked : o.metadata.deletionTimestamp = none → o.body.validate = .ok () → o.IsMarked →
    ∃ outcome, Runs (r.engine.reconcile o) log outcome ∧
      result = r.verdict (.after r.controller.resyncSeconds) outcome
  /-- A deleted overlay without the finalizer: nothing is called. -/
  unmarked : o.metadata.deletionTimestamp ≠ none → ¬ o.IsMarked →
    log = [] ∧ result = .ok .onChange ∧ r.Regardless o log result
  /-- A deleted overlay without an identifier: the finalizer is taken off wherever it stands, the others are
  kept in their order, and nothing else is done. -/
  nameless : o.metadata.deletionTimestamp ≠ none → o.IsMarked → o.body.cluster.id = "" →
    ∃ written reply, Overlay.Under ((o.metadata.finalizers.getD []).filter (· ≠ finalizer)) o written ∧
      log = [o.replacement written reply] ∧ result = released reply ∧ r.Regardless o log result
  /-- A deleted overlay with the finalizer: it is taken off after the pass if that is done, and only
  then. -/
  deleted : o.metadata.deletionTimestamp ≠ none → o.IsMarked → o.body.cluster.id ≠ "" →
    ∃ passed outcome after, log = passed ++ after ∧ Runs (r.engine.reconcile o) passed outcome ∧
      (outcome = .ok (some .done) → ∃ written reply,
        Overlay.Under ((o.metadata.finalizers.getD []).filter (· ≠ finalizer)) o written ∧
          after = [o.replacement written reply] ∧ result = released reply) ∧
      (outcome ≠ .ok (some .done) → after = [] ∧ result = r.verdict .onChange outcome)

/-- The pass over a living overlay that has the finalizer. -/
def passLive (r : Reconciler) (o : Overlay) : Fallible services ReconcileError NextLook := do
  match ← r.pass o with
  | none => return .onChange
  | some .done => return .after r.controller.resyncSeconds
  | some _ => return .after r.controller.shortRequeueSeconds

/-- The finalizer is taken off an overlay, which is then not looked at again. -/
def release (o : Overlay) : Fallible services ReconcileError NextLook := do
  onObject (removeFinalizer o)
  return .onChange

/-- The pass over a deleted overlay that has the finalizer. -/
def passDeleted (r : Reconciler) (o : Overlay) : Fallible services ReconcileError NextLook := do
  match ← r.pass o with
  | none => return .onChange
  | some outcome =>
    if outcome.mayRemoveFinalizer then release o
    else return .after r.controller.shortRequeueSeconds

section Parts

/-- A living overlay that is not valid is an error at once. -/
lemma reconcile_invalid {e : Error} (live : o.isDeleted = false) (invalid : o.body.validate = .error e) :
    r.reconcile o = throw (.object e) := by
  unfold reconcile reconcileLive
  rw [live, invalid]
  rfl

lemma reconcile_marking (live : o.isDeleted = false) (valid : o.body.validate = .ok ())
    (unmarked : o.hasFinalizer = false) :
    r.reconcile o = onObject (addFinalizer o) >>= r.passLive := by
  unfold reconcile reconcileLive
  rw [live, valid, unmarked]
  rfl

lemma reconcile_marked (live : o.isDeleted = false) (valid : o.body.validate = .ok ())
    (marked : o.hasFinalizer = true) : r.reconcile o = r.passLive o := by
  unfold reconcile reconcileLive
  rw [live, valid, marked]
  rfl

lemma reconcile_unmarked (deleted : o.isDeleted = true) (unmarked : o.hasFinalizer = false) :
    r.reconcile o = pure .onChange := by
  unfold reconcile reconcileDeleted
  rw [deleted, unmarked]
  rfl

lemma reconcile_nameless (deleted : o.isDeleted = true) (marked : o.hasFinalizer = true)
    (nameless : o.clusterId = "") : r.reconcile o = release o := by
  unfold reconcile reconcileDeleted
  rw [deleted, marked, nameless]
  rfl

lemma reconcile_deleted (deleted : o.isDeleted = true) (marked : o.hasFinalizer = true)
    (named : o.clusterId ≠ "") : r.reconcile o = r.passDeleted o := by
  unfold reconcile reconcileDeleted
  rw [deleted, marked, if_pos rfl, if_neg (by decide), if_neg named]
  rfl

lemma runs_passLive_iff : Runs (r.passLive o) log result ↔
    ∃ outcome, Runs (r.engine.reconcile o) log outcome ∧
      result = r.verdict (.after r.controller.resyncSeconds) outcome := by
  rw [← runs_mapped_iff]
  refine iff_of_eq (congrArg (fun p => Program.Runs p log result) ?_)
  refine (Program.bind_bind (r.engine.reconcile o).run _ _).trans ?_
  refine congrArg ((r.engine.reconcile o).run.bind ·) (funext fun q => ?_)
  rcases q with e | _ | _ | _ | _ <;> rfl

lemma runs_addFinalizer_iff {v : Except ReconcileError Overlay} :
    Runs (onObject (addFinalizer o)) log v ↔ ∃ reply : Result Overlay,
      log = [o.replacement o.addFinalizer reply] ∧ v = reply.mapError .object := by
  refine runs_adapt_iff.trans (exists_congr fun reply => and_congr_left' ?_)
  exact OperatorAction.runs_ofObject_iff

/-- To take the finalizer off is one call. -/
lemma run_release (o : Overlay) : (release o).run =
    .call (.outside (.cluster .overlays (.replace o.metadata.namespaceName o.removeFinalizer)))
      fun reply : Result Overlay => .done (released reply) := by
  refine congrArg (Program.call (S := services.withRuntime) (.outside _))
    (funext fun reply : Result Overlay => ?_)
  cases reply with
  | ok v => rfl
  | error e =>
    have known : released (.error e) = if e.isNotFound then .ok .onChange else .error (.object e) := rfl
    rw [known]
    show Program.bind (Program.bind (Program.done (if e.isNotFound then _ else _)) _) _ = _
    split
    · rfl
    · rfl

lemma runs_release_iff : Runs (release o) log result ↔
    ∃ reply, log = [o.replacement o.removeFinalizer reply] ∧ result = released reply := by
  unfold Runs
  rw [run_release]
  constructor
  · intro run
    cases run with
    | outside reply run =>
      obtain ⟨rfl, rfl⟩ := Program.runs_done_iff.1 run
      exact ⟨reply, rfl, rfl⟩
  · rintro ⟨reply, rfl, rfl⟩
    exact Program.Runs.outside (S := services)
      (c := .cluster .overlays (.replace o.metadata.namespaceName o.removeFinalizer)) reply (.done _)

/-- The pass over a deleted overlay is done, and then the finalizer is taken off; or nothing more is
done. -/
lemma runs_passDeleted (run : Runs (r.passDeleted o) log result) :
    ∃ passed outcome after, log = passed ++ after ∧ Runs (r.engine.reconcile o) passed outcome ∧
      (outcome = .ok (some .done) → Runs (release o) after result) ∧
      (outcome ≠ .ok (some .done) → after = [] ∧ result = r.verdict .onChange outcome) := by
  have opened : (r.passDeleted o).run = (r.engine.reconcile o).run >>= fun q =>
      if q = .ok (some .done) then (release o).run else .done (r.verdict .onChange q) := by
    refine (Program.bind_bind (r.engine.reconcile o).run _ _).trans ?_
    refine congrArg ((r.engine.reconcile o).run.bind ·) (funext fun q => ?_)
    rcases q with e | _ | _ | _ | _ <;> rfl
  unfold Runs at run
  rw [opened] at run
  obtain ⟨outcome, passed, after, split, pass, rest⟩ := Program.runs_bind_iff.1 run
  refine ⟨passed, outcome, after, split, pass, ?_, ?_⟩
  · rintro rfl
    exact rest
  · intro unfinished
    rw [if_neg unfinished] at rest
    exact Program.runs_done_iff.1 rest

end Parts

section Once

variable {passed : List (Exchange services)} {v : Overlay} {outcome : Except PassError (Option PassOutcome)}

lemma replacesOnce_pass (pass : Runs (r.engine.reconcile v) passed outcome) : r.ReplacesOnce o passed := by
  refine ⟨[], passed, [], (List.append_nil _).symm, Nat.zero_le _, fun e m => ?_, .inr ⟨v, outcome, pass⟩⟩
  exact absurd m List.not_mem_nil

lemma replacesOnce_nothing : r.ReplacesOnce o [] :=
  ⟨[], [], [], rfl, Nat.zero_le _, fun _ m => absurd m List.not_mem_nil, .inl rfl⟩

lemma replacesOnce_alone (written : Overlay) (reply : Result Overlay) :
    r.ReplacesOnce o [o.replacement written reply] := by
  refine ⟨[_], [], [], rfl, Nat.le_refl _, fun e m => ?_, .inl rfl⟩
  exact ⟨written, reply, List.mem_singleton.1 m⟩

lemma replacesOnce_before (written : Overlay) (reply : Result Overlay)
    (pass : Runs (r.engine.reconcile v) passed outcome) :
    r.ReplacesOnce o (o.replacement written reply :: passed) := by
  refine ⟨[_], passed, [], (List.append_nil _).symm, Nat.le_refl _, fun e m => ?_, .inr ⟨v, outcome, pass⟩⟩
  exact ⟨written, reply, List.mem_singleton.1 m⟩

lemma replacesOnce_after (written : Overlay) (reply : Result Overlay)
    (pass : Runs (r.engine.reconcile v) passed outcome) :
    r.ReplacesOnce o (passed ++ [o.replacement written reply]) := by
  refine ⟨[], passed, [_], rfl, Nat.le_refl _, fun e m => ?_, .inr ⟨v, outcome, pass⟩⟩
  exact ⟨written, reply, List.mem_singleton.1 m⟩

end Once

section Situations

lemma invalid_of_runs {e : Error} (live : o.isDeleted = false) (invalid : o.body.validate = .error e)
    (run : Runs (r.reconcile o) log result) :
    log = [] ∧ result = .error (.object e) ∧ r.Regardless o log result := by
  have regardless (engine : Engine services Overlay) :
      reconcile { r with engine := engine } o = throw (.object e) := reconcile_invalid live invalid
  rw [regardless r.engine] at run
  obtain ⟨rfl, rfl⟩ := Program.runs_done_iff.1 run
  refine ⟨rfl, rfl, fun engine => ?_⟩
  rw [regardless engine]
  exact run

lemma marking_of_runs (live : o.isDeleted = false) (valid : o.body.validate = .ok ())
    (unmarked : o.hasFinalizer = false) (run : Runs (r.reconcile o) log result) :
    ∃ reply rest, log = o.replacement o.addFinalizer reply :: rest ∧
      (∀ e, reply = .error e → rest = [] ∧ result = .error (.object e) ∧ r.Regardless o log result) ∧
      ∀ v, reply = .ok v → ∃ outcome, Runs (r.engine.reconcile v) rest outcome ∧
        result = r.verdict (.after r.controller.resyncSeconds) outcome := by
  have regardless (engine : Engine services Overlay) : reconcile { r with engine := engine } o =
      onObject (addFinalizer o) >>= passLive { r with engine := engine } :=
    reconcile_marking live valid unmarked
  rw [regardless r.engine] at run
  rcases runs_bind_iff.1 run with ⟨e, refused, rfl⟩ | ⟨v, first, rest, rfl, stored, later⟩
  · obtain ⟨reply, rfl, failed⟩ := runs_addFinalizer_iff.1 refused
    cases reply with
    | ok v => cases failed
    | error err =>
      cases failed
      refine ⟨.error err, [], rfl, fun e same => ?_, fun v same => ?_⟩
      · cases same
        refine ⟨rfl, rfl, fun engine => ?_⟩
        rw [regardless engine]
        exact runs_bind_iff.2 (.inl ⟨_, refused, rfl⟩)
      · cases same
  · obtain ⟨reply, rfl, answered⟩ := runs_addFinalizer_iff.1 stored
    cases reply with
    | error err => cases answered
    | ok w =>
      cases answered
      refine ⟨.ok v, rest, rfl, fun e same => ?_, fun w same => ?_⟩
      · cases same
      · cases same
        exact runs_passLive_iff.1 later

lemma unmarked_of_runs (deleted : o.isDeleted = true) (unmarked : o.hasFinalizer = false)
    (run : Runs (r.reconcile o) log result) :
    log = [] ∧ result = .ok .onChange ∧ r.Regardless o log result := by
  have regardless (engine : Engine services Overlay) :
      reconcile { r with engine := engine } o = pure .onChange := reconcile_unmarked deleted unmarked
  rw [regardless r.engine] at run
  obtain ⟨rfl, rfl⟩ := runs_pure_iff.1 run
  refine ⟨rfl, rfl, fun engine => ?_⟩
  rw [regardless engine]
  exact run

lemma nameless_of_runs (deleted : o.isDeleted = true) (marked : o.hasFinalizer = true)
    (nameless : o.clusterId = "") (run : Runs (r.reconcile o) log result) :
    ∃ reply, log = [o.replacement o.removeFinalizer reply] ∧ result = released reply ∧
      r.Regardless o log result := by
  have regardless (engine : Engine services Overlay) :
      reconcile { r with engine := engine } o = release o := reconcile_nameless deleted marked nameless
  rw [regardless r.engine] at run
  obtain ⟨reply, e, comes⟩ := runs_release_iff.1 run
  refine ⟨reply, e, comes, fun engine => ?_⟩
  rw [regardless engine]
  exact run

lemma deleted_of_runs (deleted : o.isDeleted = true) (marked : o.hasFinalizer = true)
    (named : o.clusterId ≠ "") (run : Runs (r.reconcile o) log result) :
    ∃ passed outcome after, log = passed ++ after ∧ Runs (r.engine.reconcile o) passed outcome ∧
      (outcome = .ok (some .done) →
        ∃ reply, after = [o.replacement o.removeFinalizer reply] ∧ result = released reply) ∧
      (outcome ≠ .ok (some .done) → after = [] ∧ result = r.verdict .onChange outcome) := by
  rw [reconcile_deleted deleted marked named] at run
  obtain ⟨passed, outcome, after, split, pass, finished, unfinished⟩ := runs_passDeleted run
  exact ⟨passed, outcome, after, split, pass, fun e => runs_release_iff.1 (finished e), unfinished⟩

/-- In every situation the overlay is replaced once at most. -/
lemma replacesOnce_of_runs (run : Runs (r.reconcile o) log result) : r.ReplacesOnce o log := by
  cases alive : o.isDeleted with
  | false =>
    cases valid : o.body.validate with
    | error e =>
      obtain ⟨rfl, -, -⟩ := invalid_of_runs alive valid run
      exact replacesOnce_nothing
    | ok =>
      cases marked : o.hasFinalizer with
      | false =>
        obtain ⟨reply, rest, rfl, refused, stored⟩ := marking_of_runs alive valid marked run
        cases reply with
        | error e =>
          obtain ⟨rfl, -, -⟩ := refused e rfl
          exact replacesOnce_alone _ _
        | ok v =>
          obtain ⟨outcome, pass, -⟩ := stored v rfl
          exact replacesOnce_before _ _ pass
      | true =>
        rw [reconcile_marked alive valid marked] at run
        obtain ⟨outcome, pass, -⟩ := runs_passLive_iff.1 run
        exact replacesOnce_pass pass
  | true =>
    cases marked : o.hasFinalizer with
    | false =>
      obtain ⟨rfl, -, -⟩ := unmarked_of_runs alive marked run
      exact replacesOnce_nothing
    | true =>
      by_cases named : o.clusterId = ""
      · obtain ⟨reply, rfl, -, -⟩ := nameless_of_runs alive marked named run
        exact replacesOnce_alone _ _
      · obtain ⟨passed, outcome, after, rfl, pass, finished, unfinished⟩ :=
          deleted_of_runs alive marked named run
        by_cases done : outcome = .ok (some .done)
        · obtain ⟨reply, rfl, -⟩ := finished done
          exact replacesOnce_after _ _ pass
        · obtain ⟨rfl, -⟩ := unfinished done
          rw [List.append_nil]
          exact replacesOnce_pass pass

end Situations

/-- Every run of a look at an overlay keeps to the protocol, whatever the engine and its handlers do and
whatever is answered. -/
theorem reconcile_protocol (r : Reconciler) (o : Overlay) {log : List (Exchange services)}
    {result : Except ReconcileError NextLook} (run : Runs (r.reconcile o) log result) :
    r.Protocol o log result where
  once := replacesOnce_of_runs run
  invalid _ live invalid := invalid_of_runs (Overlay.isDeleted_eq_false_iff.2 live) invalid run
  marking live valid unmarked := by
    rw [← Overlay.isDeleted_eq_false_iff] at live
    rw [← Overlay.hasFinalizer_eq_false_iff] at unmarked
    obtain ⟨reply, rest, rfl, comes⟩ := marking_of_runs live valid unmarked run
    exact ⟨_, reply, rest, Overlay.under_addFinalizer, rfl, comes⟩
  marked live valid marked := by
    rw [← Overlay.isDeleted_eq_false_iff] at live
    rw [← Overlay.hasFinalizer_iff] at marked
    rw [reconcile_marked live valid marked] at run
    exact runs_passLive_iff.1 run
  unmarked deleted unmarked :=
    unmarked_of_runs (Overlay.isDeleted_iff.2 deleted) (Overlay.hasFinalizer_eq_false_iff.2 unmarked) run
  nameless deleted marked nameless := by
    rw [← Overlay.isDeleted_iff] at deleted
    rw [← Overlay.hasFinalizer_iff] at marked
    obtain ⟨reply, rfl, comes⟩ := nameless_of_runs deleted marked nameless run
    exact ⟨_, reply, Overlay.under_removeFinalizer, rfl, comes⟩
  deleted deleted marked named := by
    rw [← Overlay.isDeleted_iff] at deleted
    rw [← Overlay.hasFinalizer_iff] at marked
    obtain ⟨passed, outcome, after, split, pass, finished, unfinished⟩ :=
      deleted_of_runs deleted marked named run
    refine ⟨passed, outcome, after, split, pass, fun done => ?_, unfinished⟩
    obtain ⟨reply, last, comes⟩ := finished done
    exact ⟨_, reply, Overlay.under_removeFinalizer, last, comes⟩

/-- The finalizers under which an overlay is written back. -/
def rewritten? : Exchange services → Option (Option (List String))
  | ⟨.cluster .overlays (.replace _ written), _⟩ => some written.metadata.finalizers
  | ⟨.cluster .., _⟩ | ⟨.store _, _⟩ => none

/-- Where there are neither pods nor nodes, a deletion ends with taking the finalizer off, and keeps the other
one. A living overlay gets the finalizer after the one that it has. -/
theorem reconcile_protocol_emptyAnswer :
    ∃ (r : Reconciler) (o deleted : Overlay) (log log' : List (Exchange services)), r.engine = .sample ∧
      o = (Overlay.sample "a").withFinalizers ["other"] ∧
      deleted = ((Overlay.sample "a").markedDeleted { seconds := 0 }).withFinalizers
        ["other", "flannel-operator.giantswarm.io/flannel-network"] ∧
      Runs (r.reconcile o) log (.ok (.after 300)) ∧ r.Protocol o log (.ok (.after 300)) ∧
      log.filterMap rewritten? = [some ["other", "flannel-operator.giantswarm.io/flannel-network"]] ∧
      Runs (r.reconcile deleted) log' (.ok .onChange) ∧ r.Protocol deleted log' (.ok .onChange) ∧
      log'.filterMap rewritten? = [some ["other"]] := by
  let r : Reconciler := ⟨.sample, ⟨"", 300, 60, 5⟩⟩
  let o := (Overlay.sample "a").withFinalizers ["other"]
  let deleted := ((Overlay.sample "a").markedDeleted { seconds := 0 }).withFinalizers ["other", finalizer]
  have run := Program.runs_answered emptyAnswer (r.reconcile o).run
  have comes : ((r.reconcile o).run.answered emptyAnswer).2 = .ok (.after 300) := by decide +kernel
  rw [comes] at run
  have run' := Program.runs_answered emptyAnswer (r.reconcile deleted).run
  have comes' : ((r.reconcile deleted).run.answered emptyAnswer).2 = .ok .onChange := by decide +kernel
  rw [comes'] at run'
  exact ⟨r, o, deleted, _, _, rfl, rfl, rfl, run, reconcile_protocol r o run, by decide +kernel, run',
    reconcile_protocol r deleted run', by decide +kernel⟩

end Reconciler

end TenantOverlay
