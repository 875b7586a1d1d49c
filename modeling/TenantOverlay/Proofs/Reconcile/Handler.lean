import TenantOverlay.Proofs.Program.Fallible
import TenantOverlay.Reconcile.Pass

/-!
# Rules for handlers and passes

What a handler's run comes to, from what its operations come to. `Resource.Deletes` and
`Resource.Creates` collect the conditions that hold between the operations of one resource; each
operation that fails has to leave its precondition true, which is what makes it repeatable. They
give the judgment on the whole run (`Deletes.ensureDeleted`, `Creates.ensureCreated`), and they hold
of the resource with repetition and counting when they hold of the resource itself (`guarded`).
`Resource.CreatesOnly` asks only which calls the operations make. `ensures_runHandlers_cons` adds a
handler in front of a pass.
-/

namespace TenantOverlay

open Fallible

variable {S : Signature} {O σ : Type} {env : Environment S σ} {allowed : S.Call → σ → Prop} {s : σ}

lemma Patch.remove_delete_eq_none {State : Type} [ResourceState State] {v : State}
    (h : (Patch.remove v).delete = none) : ResourceState.isEmpty v = true := by
  unfold Patch.remove at h
  split at h
  · assumption
  · cases h

lemma Patch.remove_delete_eq_some {State : Type} [ResourceState State] {v w : State}
    (h : (Patch.remove v).delete = some w) : w = v := by
  unfold Patch.remove at h
  split at h
  · cases h
  · cases h
    rfl

/-- A resource with repetition and counting. -/
def Resource.underPolicy (r : Resource S O) (policy : BackoffPolicy) : Resource S O :=
  (r.repeated policy).measured

/-- The operations of a resource on a deleted object lead from `pre` to `after`. In between, `found`
relates the current state to the world. -/
structure Resource.Deletes (env : Environment S σ) (allowed : S.Call → σ → Prop)
    (r : Resource S O) (o : O) (pre : σ → Prop) (found : r.State → σ → Prop)
    (after : σ → Prop) : Prop where
  current (s : σ) : pre s → Ensures env allowed (fun f t => ∀ v, f = .continue v → found v t)
    (fun _ => pre) (r.current o) s
  desired (v : r.State) (s : σ) : found v s → Ensures env allowed (fun _ => found v) (fun _ => found v)
    (r.desired o) s
  patch (v d : r.State) (s : σ) : found v s → Ensures env allowed
    (fun p t => (p.delete = none → after t) ∧ ∀ w, p.delete = some w → found w t)
    (fun _ _ => True) (r.deletePatch o v d) s
  delete (v : r.State) (s : σ) : found v s → Ensures env allowed (fun f t => f = .continue () → after t)
    (fun _ => found v) (r.delete o v) s

/-- The operations of a resource on a living object lead from `pre` to `after`. In between, `found`
relates the current state to the world, `planned` the patch, and `made` the patch of which the
first half has been carried out. -/
structure Resource.Creates (env : Environment S σ) (allowed : S.Call → σ → Prop)
    (r : Resource S O) (o : O) (pre : σ → Prop) (found : r.State → σ → Prop)
    (planned made : Patch r.State → σ → Prop) (after : σ → Prop) : Prop where
  current (s : σ) : pre s → Ensures env allowed (fun f t => ∀ v, f = .continue v → found v t)
    (fun _ => pre) (r.current o) s
  desired (v : r.State) (s : σ) : found v s → Ensures env allowed
    (fun d t => Ensures env allowed planned (fun _ _ => True) (r.updatePatch o v d) t)
    (fun _ => found v) (r.desired o) s
  nothingToCreate (p : Patch r.State) (s : σ) : planned p s → p.create = none → made p s
  create (p : Patch r.State) (w : r.State) (s : σ) : planned p s → p.create = some w →
    Ensures env allowed (fun f t => f = .continue () → made p t) (fun _ => planned p) (r.create o w) s
  nothingToUpdate (p : Patch r.State) (s : σ) : made p s → p.update = none → after s
  update (p : Patch r.State) (w : r.State) (s : σ) : made p s → p.update = some w →
    Ensures env allowed (fun f t => f = .continue () → after t) (fun _ => made p) (r.update o w) s

/-- The operations of a resource on a living object make only calls of a kind. -/
structure Resource.CreatesOnly (env : Environment S σ) (allowed : S.Call → Prop) (r : Resource S O)
    (o : O) : Prop where
  current : CallsOnly env allowed (r.current o)
  desired : CallsOnly env allowed (r.desired o)
  patch (v d : r.State) : CallsOnly env allowed (r.updatePatch o v d)
  create (w : r.State) : CallsOnly env allowed (r.create o w)
  update (w : r.State) : CallsOnly env allowed (r.update o w)

/-- A repeated and counted operation, of which every failed attempt leaves its precondition true. -/
lemma ensures_underPolicy {α : Type} {a : Action S α} {policy : BackoffPolicy} {name : String}
    {operation : Operation} {ok : α → σ → Prop} {pre : σ → Prop}
    (h : ∀ t, pre t → Ensures env allowed ok (fun _ => pre) a t) (hs : pre s) :
    Ensures env allowed ok (fun _ => pre) ((a.retry policy).counted name operation) s :=
  Action.ensures_counted (Action.ensures_retry h hs)

namespace Resource

variable {r : Resource S O} {o : O} {pre after : σ → Prop} {found : r.State → σ → Prop}
  {planned made : Patch r.State → σ → Prop}

lemma ensures_atStage {α : Type} {stage : Stage} {a : Action S α} {ok : α → σ → Prop}
    {fail : Error → σ → Prop} (h : Ensures env allowed ok fail a s) :
    Ensures env allowed ok (fun _ _ => True) (r.atStage stage a) s :=
  ensures_adapt (h.post (fun _ _ p => p) fun _ _ _ => trivial)

lemma Deletes.guarded (d : r.Deletes env allowed o pre found after) (policy : BackoffPolicy) :
    (r.underPolicy policy).Deletes env allowed o pre found after where
  current _ h := ensures_underPolicy d.current h
  desired v _ h := ensures_underPolicy (d.desired v) h
  patch := d.patch
  delete v _ h := ensures_underPolicy (d.delete v) h

lemma Creates.guarded (c : r.Creates env allowed o pre found planned made after)
    (policy : BackoffPolicy) :
    (r.underPolicy policy).Creates env allowed o pre found planned made after where
  current _ h := ensures_underPolicy c.current h
  desired v _ h := ensures_underPolicy (c.desired v) h
  nothingToCreate := c.nothingToCreate
  create p w _ h e := ensures_underPolicy (fun t h => c.create p w t h e) h
  nothingToUpdate := c.nothingToUpdate
  update p w _ h e := ensures_underPolicy (fun t h => c.update p w t h e) h

/-- A handler that goes on after a deletion has done its part. -/
theorem Deletes.ensureDeleted (d : r.Deletes env allowed o pre found after) (hs : pre s) :
    Ensures env allowed (fun f t => f = .continue () → after t) (fun _ _ => True)
      (r.ensureDeleted o) s := by
  refine ensures_bind ((ensures_atStage (d.current s hs)).post ?_ fun _ _ _ => trivial)
  rintro (v | _ | _) t h
  case cancel => exact ensures_pure nofun
  case keepFinalizer => exact ensures_pure nofun
  case «continue» =>
    have found := h v rfl
    refine ensures_bind ((ensures_atStage (d.desired v t found)).post ?_ fun _ _ _ => trivial)
    intro w t found
    refine ensures_bind ((ensures_atStage (d.patch v w t found)).post ?_ fun _ _ _ => trivial)
    intro p t h
    cases e : p.delete with
    | none => exact ensures_pure fun _ => h.1 e
    | some w => exact ensures_atStage (d.delete w t (h.2 w e))

/-- A handler that goes on after creation and update has done its part. -/
theorem Creates.ensureCreated (c : r.Creates env allowed o pre found planned made after)
    (hs : pre s) :
    Ensures env allowed (fun f t => f = .continue () → after t) (fun _ _ => True)
      (r.ensureCreated o) s := by
  -- Where the creation goes on, whether it was made or not, the update comes next.
  have update {p : Patch r.State} {t : σ} (h : made p t) :
      Ensures env allowed (fun f t => f = .continue () → after t) (fun _ _ => True)
        (r.apply (r.update o) p.update) t := by
    cases e : p.update with
    | none => exact ensures_pure fun _ => c.nothingToUpdate p t h e
    | some w => exact ensures_atStage (c.update p w t h e)
  refine ensures_bind ((ensures_atStage (c.current s hs)).post ?_ fun _ _ _ => trivial)
  rintro (v | _ | _) t h
  case cancel => exact ensures_pure nofun
  case keepFinalizer => exact ensures_pure nofun
  case «continue» =>
    refine ensures_bind ((ensures_atStage (c.desired v t (h v rfl))).post ?_ fun _ _ _ => trivial)
    intro w t planned
    refine ensures_bind ((ensures_atStage planned).post ?_ fun _ _ _ => trivial)
    intro p t planned
    have created : Ensures env allowed (fun f t => f = .continue () → made p t) (fun _ _ => True)
        (r.apply (r.create o) p.create) t := by
      cases e : p.create with
      | none => exact ensures_pure fun _ => c.nothingToCreate p t planned e
      | some w => exact ensures_atStage (c.create p w t planned e)
    refine ensures_bind (created.post ?_ fun _ _ _ => trivial)
    rintro (_ | _ | _) t h
    case cancel => exact ensures_pure nofun
    case keepFinalizer => exact ensures_pure nofun
    case «continue» => exact update (h rfl)

lemma Deletes.ensure (d : r.Deletes env allowed o pre found after) (policy : BackoffPolicy)
    (hs : pre s) :
    Ensures env allowed (fun f t => f = .continue () → after t) (fun _ _ => True)
      ((r.underPolicy policy).handler.ensure true o) s :=
  (d.guarded policy).ensureDeleted hs

lemma Creates.ensure (c : r.Creates env allowed o pre found planned made after)
    (policy : BackoffPolicy) (hs : pre s) :
    Ensures env allowed (fun f t => f = .continue () → after t) (fun _ _ => True)
      ((r.underPolicy policy).handler.ensure false o) s :=
  (c.guarded policy).ensureCreated hs

lemma CreatesOnly.creates {allowed : S.Call → Prop} (c : r.CreatesOnly env allowed o) :
    r.Creates env (fun c _ => allowed c) o (fun _ => True) (fun _ _ => True) (fun _ _ => True)
      (fun _ _ => True) fun _ => True where
  current s _ := (c.current s).post (fun _ _ _ _ _ => trivial) fun _ _ p => p
  desired v s _ := (c.desired s).post (fun d t _ => c.patch v d t) fun _ _ p => p
  nothingToCreate _ _ _ _ := trivial
  create _ w s _ _ := (c.create w s).post (fun _ _ _ _ => trivial) fun _ _ p => p
  nothingToUpdate _ _ _ _ := trivial
  update _ w s _ _ := (c.update w s).post (fun _ _ _ _ => trivial) fun _ _ p => p

/-- What the calls of one kind leave as it is, the handler does. -/
lemma CreatesOnly.ensure {allowed : S.Call → Prop} {I : σ → Prop} (c : r.CreatesOnly env allowed o)
    (policy : BackoffPolicy) (k : env.Keeps (fun c _ => allowed c) I) (h : I s) :
    Ensures env (fun c _ => allowed c) (fun f t => f = .continue () → I t) (fun _ _ => True)
      ((r.underPolicy policy).handler.ensure false o) s :=
  ((c.creates.ensure policy trivial).carry k h).post (fun _ _ p _ => p.2) fun _ _ _ => trivial

end Resource

variable {o : O} {deleting : Bool}

/-- What each handler ensures wherever it starts, a pass over all of them ensures. -/
lemma ensures_runHandlers {handlers : List (Handler S O)} {fail : PassError → σ → Prop}
    (h : ∀ x ∈ handlers, ∀ t, Ensures env allowed (fun _ _ => True) fail (x.ensure deleting o) t) :
    Ensures env allowed (fun _ _ => True) fail (runHandlers deleting o handlers) s := by
  induction handlers generalizing s with
  | nil => exact ensures_pure trivial
  | cons x rest ih =>
    refine ensures_bind ((h x List.mem_cons_self s).post (fun flow t _ => ?_) fun _ _ p => p)
    cases flow with
    | «continue» => exact ih fun y m => h y (List.mem_cons_of_mem _ m)
    | cancel => exact ensures_pure trivial
    | keepFinalizer => exact ensures_pure trivial

/-- A pass over no handlers is done. -/
lemma ensures_runHandlers_nil {post : σ → Prop} (h : post s) :
    Ensures env allowed (fun r t => r = .done → post t) (fun _ _ => True)
      (runHandlers (S := S) deleting o []) s :=
  ensures_pure fun _ => h

/-- A pass whose later handlers need no more than what the first one has done. -/
lemma ensures_runHandlers_next {h : Handler S O} {rest : List (Handler S O)} {after post : σ → Prop}
    (first : Ensures env allowed (fun f t => f = .continue () → after t) (fun _ _ => True)
      (h.ensure deleting o) s)
    (others : ∀ t, after t → Ensures env allowed (fun r t => r = .done → post t)
      (fun _ _ => True) (runHandlers deleting o rest) t) :
    Ensures env allowed (fun r t => r = .done → post t) (fun _ _ => True)
      (runHandlers deleting o (h :: rest)) s := by
  refine ensures_bind (first.post ?_ fun _ _ _ => trivial)
  rintro (_ | _ | _) t m
  case cancel => exact ensures_pure nofun
  case keepFinalizer => exact ensures_pure nofun
  case «continue» => exact others t (m rfl)

/-- A pass is done when its first handler goes on and the pass over the others is done. The first
handler, within what it may do itself, leaves a condition as it is. -/
lemma ensures_runHandlers_cons {allowed' : S.Call → σ → Prop} {h : Handler S O}
    {rest : List (Handler S O)} {I after post : σ → Prop}
    (first : Ensures env allowed' (fun f t => f = .continue () → after t) (fun _ _ => True)
      (h.ensure deleting o) s)
    (ha : ∀ c s, allowed' c s → allowed c s) (k : env.Keeps allowed' I) (hI : I s)
    (others : ∀ t, after t → I t → Ensures env allowed (fun r t => r = .done → post t)
      (fun _ _ => True) (runHandlers deleting o rest) t) :
    Ensures env allowed (fun r t => r = .done → post t) (fun _ _ => True)
      (runHandlers deleting o (h :: rest)) s := by
  have both : Ensures env allowed (fun f t => f = .continue () → after t ∧ I t) (fun _ _ => True)
      (h.ensure deleting o) s :=
    ((first.carry k hI).allow ha).post (fun _ _ p e => ⟨p.1 e, p.2⟩) fun _ _ _ => trivial
  exact ensures_runHandlers_next both fun t p => others t p.1 p.2

end TenantOverlay
