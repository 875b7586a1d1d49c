import TenantOverlay.Proofs.Reconcile.Handler
import TenantOverlay.Proofs.Reconcile.Runs
import TenantOverlay.Reconcile.Engine

/-!
# The deletion of two objects

What the deletion of an object depends on. A handler computes a desired state and a patch even when it
deletes. If both are known without asking and without failing, and the patch does not depend on the desired
state (`Resource.PlansAlike`), then the handler fails at no other stage than those at which it makes calls
(`PlansAlike.ensures_stage`). Two objects whose current states are found out alike and that are removed
alike are then deleted alike, whatever their desired states are (`DeletesAlike.ensureDeleted`), and an engine
with such handlers treats them alike (`Engine.alike_reconcile`).
-/

namespace TenantOverlay

open Fallible
open Program (Congruence)

variable {S : Signature} {O σ : Type}

/-- What a resource plans to delete of two objects is the same, whatever their desired states are, and
known without any call. -/
structure Resource.PlansAlike (r : Resource S O) (o o' : O) : Prop where
  desired : ∃ d d', r.desired o = pure d ∧ r.desired o' = pure d'
  deletePatch (v d d' : r.State) : ∃ p, r.deletePatch o v d = pure p ∧ r.deletePatch o' v d' = pure p

/-- A resource goes through related operations when it deletes two objects. -/
structure Resource.DeletesAlike (R : Congruence S.withRuntime) (r : Resource S O) (o o' : O) : Prop
    extends r.PlansAlike o o' where
  current : R.Alike (r.current o) (r.current o')
  delete (v : r.State) : R.Alike (r.delete o v) (r.delete o' v)

namespace Program.Congruence

variable {R : Congruence S.withRuntime} {α β ε : Type} {a b : Action S α} {g g' : α → Fallible S ε β}

/-- What comes after a known result is related if it is for that result. -/
lemma known {f : Error → ε} {x : α} (left : a = Pure.pure x) (right : b = Pure.pure x)
    (h : R.Alike (g x) (g' x)) : R.Alike (ExceptT.adapt f a >>= g) (ExceptT.adapt f b >>= g') := by
  subst left right
  exact h

/-- Known results that are repeated and counted may differ: the runtime is asked and told the same. -/
lemma Timed.known (timed : R.Timed) {f : Error → ε} {policy : BackoffPolicy} {name : String}
    {operation : Operation} {x y : α} (left : a = Pure.pure x) (right : b = Pure.pure y)
    (h : R.Alike (g x) (g' y)) :
    R.Alike (ExceptT.adapt f ((a.retry policy).counted name operation) >>= g)
      (ExceptT.adapt f ((b.retry policy).counted name operation) >>= g') := by
  have run (x : α) (g : α → Fallible S ε β) :
      (ExceptT.adapt f (((Pure.pure x : Action S α).retry policy).counted name operation) >>= g).run =
        (ask (S := S.withRuntime) (.repetitions policy) >>= fun _ =>
          ask (S := S.withRuntime) (.record (.operation name operation true)) >>= fun _ => (g x).run) := by
    refine congrArg (Program.call (S := S.withRuntime) (.repetitions policy)) (funext fun (left : Nat) => ?_)
    cases left with
    | zero => rfl
    | succ left => rfl
  subst left right
  show R.Rel (ExceptT.run _) (ExceptT.run _)
  rw [run x g, run y g']
  exact R.bind (timed.repetitions policy) fun _ => R.bind (timed.record _) fun _ => h

end Program.Congruence

section Stages

variable {env : Environment S σ} {r : Resource S O} {o o' : O}

/-- The failure of a step is a failure at its stage. -/
lemma Resource.ensures_failedAt {α : Type} (stage : Stage) (a : Action S α) (s : σ) :
    Ensures env (fun _ _ => True) (fun _ _ => True) (fun e _ => e.stage = stage) (r.atStage stage a) s :=
  ensures_adapt (ensures_anything.post (fun _ _ _ => trivial) fun _ _ _ => rfl)

/-- A handler whose plans are known fails only while it makes calls. -/
theorem Resource.PlansAlike.ensures_stage (h : r.PlansAlike o o') (policy : BackoffPolicy) (s : σ) :
    Ensures env (fun _ _ => True) (fun _ _ => True)
      (fun e _ => e.stage = .fetchingCurrent ∨ e.stage = .applying)
      ((r.underPolicy policy).ensureDeleted o) s := by
  obtain ⟨d, -, desired, -⟩ := h.desired
  have known (t : σ) : Ensures env (fun _ _ => True) (fun _ _ => True) (fun _ _ => False)
      ((r.underPolicy policy).desired o) t := by
    have attempt (t : σ) : True → Ensures env (fun _ _ => True) (fun _ _ => True) (fun _ _ => False)
        (r.desired o) t := by
      intro _
      rw [desired]
      exact ensures_pure trivial
    exact Action.ensures_counted (Action.ensures_retry_again attempt nofun trivial)
  have planned (v d : r.State) (t : σ) : Ensures env (fun _ _ => True) (fun _ _ => True)
      (fun _ _ => False) (r.deletePatch o v d) t := by
    obtain ⟨p, patch, -⟩ := h.deletePatch v d d
    rw [patch]
    exact ensures_pure trivial
  refine ensures_bind ((ensures_failedAt .fetchingCurrent _ s).post ?_ fun _ _ => .inl)
  rintro (v | _ | _) t -
  case cancel => exact ensures_pure trivial
  case keepFinalizer => exact ensures_pure trivial
  case «continue» =>
    refine ensures_bind (ensures_adapt ((known t).post ?_ fun _ _ => False.elim))
    intro d t _
    refine ensures_bind (ensures_adapt ((planned v d t).post ?_ fun _ _ => False.elim))
    intro p t _
    cases p.delete with
    | none => exact ensures_pure trivial
    | some w => exact (ensures_failedAt .applying _ t).post (fun _ _ _ => trivial) fun _ _ => .inr

end Stages

variable {R : Congruence S.withRuntime} {o o' : O}

/-- Two objects that are deleted by related operations are deleted alike. -/
theorem Resource.DeletesAlike.ensureDeleted {r : Resource S O} (h : r.DeletesAlike R o o') (timed : R.Timed)
    (policy : BackoffPolicy) :
    R.Alike ((r.underPolicy policy).ensureDeleted o) ((r.underPolicy policy).ensureDeleted o') := by
  have guarded {α : Type} {a b : Action S α} (operation : Operation) (h : R.Alike a b) :
      R.Alike ((a.retry policy).counted r.name operation) ((b.retry policy).counted r.name operation) :=
    timed.counted r.name operation (timed.retry policy h)
  refine Congruence.fallible_bind (Congruence.adapt _ (guarded .currentState h.current)) fun flow => ?_
  cases flow with
  | cancel => exact Congruence.pure _
  | keepFinalizer => exact Congruence.pure _
  | «continue» v =>
    obtain ⟨d, d', desired, desired'⟩ := h.desired
    obtain ⟨p, patch, patch'⟩ := h.deletePatch v d d'
    have applied : R.Alike ((r.underPolicy policy).apply ((r.underPolicy policy).delete o) p.delete)
        ((r.underPolicy policy).apply ((r.underPolicy policy).delete o') p.delete) := by
      cases p.delete with
      | none => exact Congruence.pure _
      | some w => exact Congruence.adapt _ (guarded .delete (h.delete w))
    refine timed.known desired desired' ?_
    exact Congruence.known patch patch' applied

/-- An engine treats two objects alike if they ask for the same generation and its passes over them are
related. -/
theorem Engine.alike_reconcile [Managed O] {e : Engine S O} (timed : R.Timed)
    (version : Managed.version o = Managed.version o')
    (pass : ∀ set, e.resolve o = some set → R.Alike (runPass set.handlers o (Managed.isDeleted o))
      (runPass set.handlers o' (Managed.isDeleted o'))) :
    R.Alike (e.reconcile o) (e.reconcile o') := by
  have resolve : e.resolve o' = e.resolve o := congrArg (route e.routers) version.symm
  unfold Engine.reconcile
  rw [resolve]
  cases resolved : e.resolve o with
  | none => exact Congruence.pure _
  | some set =>
    refine R.bind (pass set resolved) fun result => ?_
    split
    · exact R.bind (timed.recorded _) fun _ => R.done _
    · exact R.done _

end TenantOverlay
