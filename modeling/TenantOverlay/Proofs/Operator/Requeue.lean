import TenantOverlay.Proofs.Config.Validation
import TenantOverlay.Proofs.Operator.Protocol

/-!
# When overlays are looked at again

A look that succeeds ends in one of three ways (`Reconciler.look_of_runs`): the overlay is looked at again
when it changes, after the interval for overlays that are done, or after the short one. A configuration that
is accepted has positive numbers for both. The interval after a failure is not looked at when a configuration
is checked, so that it alone decides whether an operator can be kept busy without a pause
(`next_look_waits`); with `OperatorConfig.restless` it is.
-/

namespace TenantOverlay

open Fallible

/-- If a time is set for the next look, it is not at once. -/
def NextLook.Waits (look : NextLook) : Prop := ∀ seconds, look = .after seconds → 0 < seconds

lemma NextLook.waits_onChange : onChange.Waits := nofun

lemma NextLook.waits_after_iff {seconds : Nat} : (after seconds).Waits ↔ 0 < seconds := by
  constructor
  · exact fun waits => waits seconds rfl
  · rintro pos _ ⟨⟩
    exact pos

namespace Reconciler

variable {r : Reconciler} {o : Overlay} {log : List (Exchange services)} {look : NextLook}

/-- When an overlay is looked at again after a look has come to a result. -/
def nextLook (r : Reconciler) : Except ReconcileError NextLook → NextLook
  | .ok look => look
  | .error _ => r.afterError

/-- The looks that are decided on when nothing fails. -/
def Decides (r : Reconciler) (look : NextLook) : Prop :=
  look = .onChange ∨ look = .after r.controller.resyncSeconds ∨
    look = .after r.controller.shortRequeueSeconds

lemma decides_of_verdict {done : NextLook} {outcome : Except PassError (Option PassOutcome)}
    (h : r.Decides done) (e : r.verdict done outcome = .ok look) : r.Decides look := by
  unfold verdict at e
  split at e
  · cases e
  · cases e
    exact .inl rfl
  · cases e
    exact h
  · cases e
    exact .inr (.inr rfl)
  · cases e
    exact .inr (.inr rfl)

lemma decides_of_released {reply : Result Overlay} (e : released reply = .ok look) : r.Decides look := by
  unfold released at e
  split at e
  · cases e
    exact .inl rfl
  · split at e
    · cases e
      exact .inl rfl
    · cases e

/-- Whatever is answered, a look that succeeds decides on one of the three. -/
theorem look_of_runs (run : Runs (r.reconcile o) log (.ok look)) : r.Decides look := by
  have resync : r.Decides (.after r.controller.resyncSeconds) := .inr (.inl rfl)
  cases alive : o.isDeleted with
  | false =>
    cases valid : o.body.validate with
    | error e =>
      obtain ⟨-, failed, -⟩ := invalid_of_runs alive valid run
      cases failed
    | ok =>
      cases marked : o.hasFinalizer with
      | false =>
        obtain ⟨reply, rest, -, refused, stored⟩ := marking_of_runs alive valid marked run
        cases reply with
        | error e =>
          obtain ⟨-, failed, -⟩ := refused e rfl
          cases failed
        | ok v =>
          obtain ⟨outcome, -, e⟩ := stored v rfl
          exact decides_of_verdict resync e.symm
      | true =>
        rw [reconcile_marked alive valid marked] at run
        obtain ⟨outcome, -, e⟩ := runs_passLive_iff.1 run
        exact decides_of_verdict resync e.symm
  | true =>
    cases marked : o.hasFinalizer with
    | false =>
      obtain ⟨-, e, -⟩ := unmarked_of_runs alive marked run
      cases e
      exact .inl rfl
    | true =>
      by_cases named : o.clusterId = ""
      · obtain ⟨reply, -, e, -⟩ := nameless_of_runs alive marked named run
        exact decides_of_released e.symm
      · obtain ⟨passed, outcome, after, -, -, finished, unfinished⟩ :=
          deleted_of_runs alive marked named run
        by_cases done : outcome = .ok (some .done)
        · obtain ⟨reply, -, e⟩ := finished done
          exact decides_of_released e.symm
        · exact decides_of_verdict (.inl rfl) (unfinished done).2.symm

/-- What is decided on under an accepted configuration waits. -/
lemma Decides.waits {engine : Engine services Overlay} {c : OperatorConfig} (valid : c.Valid)
    (h : Decides ⟨engine, c.controller⟩ look) : look.Waits := by
  obtain rfl | rfl | rfl := h
  · exact NextLook.waits_onChange
  · exact NextLook.waits_after_iff.2 valid.resync
  · exact NextLook.waits_after_iff.2 valid.shortRequeue

/-- A living overlay without an identifier fails its check before any engine is asked about it. -/
lemma runs_nameless : Runs (r.reconcile (Overlay.sample "")) []
    (.error (.object (.invalidConfig (.emptyField "spec.cluster.id")))) := by
  rw [reconcile_invalid rfl rfl]
  exact .done _

end Reconciler

open Reconciler

/-- Under an accepted configuration a look that succeeds is never followed by another one at once, whatever
the engine and the overlay are and whatever is answered. The same holds of looks that fail exactly when the
interval after failures is positive, which is not asked for. -/
theorem next_look_waits (c : OperatorConfig) (accepted : c.validate = .ok ())
    (engine : Engine services Overlay) :
    (∀ (o : Overlay) (log : List (Exchange services)) (look : NextLook),
      Runs (reconcile ⟨engine, c.controller⟩ o) log (.ok look) → look.Waits) ∧
    ((∀ (o : Overlay) (log : List (Exchange services)) (result : Except ReconcileError NextLook),
        Runs (reconcile ⟨engine, c.controller⟩ o) log result →
          (nextLook ⟨engine, c.controller⟩ result).Waits) ↔
      0 < c.controller.errorRequeueSeconds) := by
  have valid := OperatorConfig.validate_eq_ok_iff.1 accepted
  have succeeds (o : Overlay) (log : List (Exchange services)) (look : NextLook)
      (run : Runs (reconcile ⟨engine, c.controller⟩ o) log (.ok look)) : look.Waits :=
    (look_of_runs run).waits valid
  refine ⟨succeeds, fun waits => ?_, fun pos o log result run => ?_⟩
  · exact NextLook.waits_after_iff.1 (waits _ _ _ runs_nameless)
  · cases result with
    | ok look => exact succeeds o log look run
    | error e => exact NextLook.waits_after_iff.2 pos

/-- With the default configuration an overlay that has all it needs is looked at again after five minutes,
and no look, failed or not, is followed by another one at once. -/
theorem next_look_waits_default :
    OperatorConfig.default.validate = .ok () ∧
    ∃ r : Reconciler, r = ⟨.sample, OperatorConfig.default.controller⟩ ∧
      (∃ log, Runs (r.reconcile (Overlay.sample "a").addFinalizer) log (.ok (.after 300)) ∧
        (NextLook.after 300).Waits) ∧
      ∀ o log result, Runs (r.reconcile o) log result → (r.nextLook result).Waits := by
  have accepted : OperatorConfig.default.validate = .ok () := by rfl
  obtain ⟨succeeds, fails⟩ := next_look_waits .default accepted .sample
  let r : Reconciler := ⟨.sample, OperatorConfig.default.controller⟩
  have run := Program.runs_answered emptyAnswer (r.reconcile (Overlay.sample "a").addFinalizer).run
  have comes : ((r.reconcile (Overlay.sample "a").addFinalizer).run.answered emptyAnswer).2 =
      .ok (.after 300) := by decide +kernel
  rw [comes] at run
  exact ⟨accepted, r, rfl, ⟨_, run, succeeds _ _ _ run⟩, fails.2 (by decide)⟩

/-- The default configuration with no pause after failures. -/
def OperatorConfig.restless : OperatorConfig :=
  { OperatorConfig.default with controller := ⟨"", 300, 0, 10⟩ }

/-- This configuration is accepted. An overlay without an identifier fails the check that comes first, and is
looked at again at once, with every engine. -/
theorem restless_looks_at_once :
    OperatorConfig.restless.validate = .ok () ∧
    ∀ engine : Engine services Overlay, ∃ r : Reconciler, r = ⟨engine, OperatorConfig.restless.controller⟩ ∧
      ∃ e, Runs (r.reconcile (Overlay.sample "")) [] (.error e) ∧ r.nextLook (.error e) = .after 0 := by
  exact ⟨by rfl, fun engine => ⟨_, rfl, _, runs_nameless, rfl⟩⟩

end TenantOverlay
