import TenantOverlay.Proofs.Reconcile.Handler
import TenantOverlay.Reconcile.Engine

/-!
# Passes that have nothing to do

`Fallible.Rests` is the judgment on a program that leaves the state as it is and whose result is known
beforehand. It may fail, if anything in its environment can, but then too it leaves the state as it
is, so that repetition does not matter (`Rests.retry`). A resource is at rest where all operations of
a creation are (`Resource.AtRest`): nothing has to be changed, or every change that is made finds its
work done. What the resource does is then the same with repetition and counting, in a pass
(`rests_runHandlers`) and in an engine (`Engine.rests_reconcile`).
-/

namespace TenantOverlay

variable {S : Signature} {O σ α β ε δ : Type} {env : Environment S σ} {mayFail : Prop} {s : σ}

namespace Fallible

/-- A program comes to one result, or fails where something may fail, and leaves the state as it
is. -/
def Rests (env : Environment S σ) (mayFail : Prop) (s : σ) (a : Fallible S ε α) (x : α) : Prop :=
  Ensures env (fun _ _ => True) (fun y t => y = x ∧ t = s) (fun _ t => mayFail ∧ t = s) a s

lemma rests_pure {x : α} : Rests env mayFail s (pure x : Fallible S ε α) x := ensures_pure ⟨rfl, rfl⟩

lemma rests_pure_of_eq {x y : α} (h : x = y) : Rests env mayFail s (pure x : Fallible S ε α) y :=
  ensures_pure ⟨h, rfl⟩

lemma Rests.bind {a : Fallible S ε α} {f : α → Fallible S ε β} {x : α} {y : β}
    (ha : Rests env mayFail s a x) (hf : Rests env mayFail s (f x) y) :
    Rests env mayFail s (a >>= f) y := by
  refine ensures_bind (ha.post ?_ fun _ _ p => p)
  rintro _ _ ⟨rfl, rfl⟩
  exact hf

lemma Rests.adapt {a : Fallible S ε α} {f : ε → δ} {x : α} (h : Rests env mayFail s a x) :
    Rests env mayFail s (ExceptT.adapt f a) x :=
  ensures_adapt h

lemma rests_ofResult {x : α} : Rests env mayFail s (Action.ofResult (.ok x) : Action S α) x :=
  Action.ensures_ofResult ⟨rfl, rfl⟩

lemma rests_record {sample : Sample} :
    Rests env mayFail s (Action.record sample : Action S Unit) () :=
  Action.ensures_record ⟨rfl, rfl⟩

lemma Rests.retry {a : Action S α} {policy : BackoffPolicy} {x : α} (h : Rests env mayFail s a x) :
    Rests env mayFail s (a.retry policy) x := by
  have attempt : ∀ t, t = s →
      Ensures env (fun _ _ => True) (fun y t => y = x ∧ t = s) (fun _ t => mayFail ∧ t = s) a t := by
    rintro _ rfl
    exact h
  exact Action.ensures_retry_again attempt (fun _ _ p => p.2) rfl

lemma Rests.counted {a : Action S α} {resource : String} {operation : Operation} {x : α}
    (h : Rests env mayFail s a x) : Rests env mayFail s (a.counted resource operation) x :=
  Action.ensures_counted h

end Fallible

open Fallible

/-- The operations that the creation of a resource goes through rest: what is found and what is wanted
are known, and carrying out the patch changes nothing. -/
structure Resource.AtRest (env : Environment S σ) (mayFail : Prop) (s : σ) (r : Resource S O) (o : O)
    (found wanted : r.State) (planned : Patch r.State) : Prop where
  current : Rests env mayFail s (r.current o) (.continue found)
  desired : Rests env mayFail s (r.desired o) wanted
  patch : Rests env mayFail s (r.updatePatch o found wanted) planned
  create (w : r.State) : planned.create = some w → Rests env mayFail s (r.create o w) .proceed
  update (w : r.State) : planned.update = some w → Rests env mayFail s (r.update o w) .proceed

namespace Resource

variable {r : Resource S O} {o : O} {found wanted : r.State} {planned : Patch r.State}

/-- No change has to be made. -/
lemma AtRest.unchanged (current : Rests env mayFail s (r.current o) (.continue found))
    (desired : Rests env mayFail s (r.desired o) wanted)
    (patch : Rests env mayFail s (r.updatePatch o found wanted) {}) :
    r.AtRest env mayFail s o found wanted {} where
  current := current
  desired := desired
  patch := patch
  create _ e := nomatch e
  update _ e := nomatch e

lemma AtRest.guarded (h : r.AtRest env mayFail s o found wanted planned) (policy : BackoffPolicy) :
    (r.underPolicy policy).AtRest env mayFail s o found wanted planned where
  current := h.current.retry.counted
  desired := h.desired.retry.counted
  patch := h.patch
  create w e := (h.create w e).retry.counted
  update w e := (h.update w e).retry.counted

/-- A change that there is or is not to make. -/
lemma rests_apply {change : r.State → Action S (Flow Unit)} {due : Option r.State}
    (h : ∀ w, due = some w → Rests env mayFail s (change w) .proceed) :
    Rests env mayFail s (r.apply change due) .proceed := by
  cases due with
  | none => exact rests_pure
  | some w => exact (h w rfl).adapt

lemma AtRest.ensureCreated (h : r.AtRest env mayFail s o found wanted planned) :
    Rests env mayFail s (r.ensureCreated o) .proceed := by
  refine h.current.adapt.bind ?_
  refine h.desired.adapt.bind ?_
  refine h.patch.adapt.bind ?_
  refine (rests_apply h.create).bind ?_
  exact rests_apply h.update

lemma AtRest.ensure (h : r.AtRest env mayFail s o found wanted planned) (policy : BackoffPolicy) :
    Rests env mayFail s ((r.underPolicy policy).handler.ensure false o) .proceed :=
  (h.guarded policy).ensureCreated

end Resource

/-- A pass over handlers that all rest. -/
theorem rests_runHandlers {deleting : Bool} {o : O} {handlers : List (Handler S O)}
    (h : ∀ handler ∈ handlers, Rests env mayFail s (handler.ensure deleting o) .proceed) :
    Rests env mayFail s (runHandlers deleting o handlers) .done := by
  induction handlers with
  | nil => exact rests_pure
  | cons first rest ih =>
    refine (h first List.mem_cons_self).bind ?_
    exact ih fun handler m => h handler (List.mem_cons_of_mem _ m)

/-- What an engine does with an object rests where the pass does. -/
theorem Engine.rests_reconcile [Managed O] {e : Engine S O} {o : O} {set : ResourceSet S O}
    {outcome : PassOutcome} (resolved : e.resolve o = some set)
    (pass : Rests env mayFail s (runPass set.handlers o (Managed.isDeleted o)) outcome) :
    Rests env mayFail s (e.reconcile o) (some outcome) := by
  unfold Engine.reconcile
  rw [resolved]
  refine Program.ensures_bind (Program.Ensures.post pass fun r t p => ?_)
  have counted : Outcome (fun y t => y = some outcome ∧ t = s) (fun _ t => mayFail ∧ t = s)
      (r.map some) t := by
    cases r with
    | error e => exact p
    | ok x => exact ⟨congrArg some p.1, p.2⟩
  split
  · exact counted
  · exact counted

end TenantOverlay
