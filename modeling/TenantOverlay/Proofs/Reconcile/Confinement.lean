import TenantOverlay.Proofs.Program.Log
import TenantOverlay.Proofs.Reconcile.Handler

/-!
# Handlers that keep to a kind of calls

A resource is `Confined` when its operations make only calls of a kind, as long as they are given the
states that its other operations come to. Then its handler makes only calls of that kind, on living
and on deleted objects (`Confined.ensure`), and so does a pass over such handlers
(`callsOnly_runPass`). What holds whatever the answers, as long as they are likely, holds in every
environment that gives likely answers (`Program.Ensures.transfer`).
-/

namespace TenantOverlay

open Fallible

variable {S : Signature} {O σ : Type} {env : Environment S σ} {allowed : S.Call → Prop}

/-- The operations of a resource make only calls of a kind, as long as changes are made with the states
that are `wanted`, and deletions with those that are `found`. -/
structure Resource.Confined (env : Environment S σ) (allowed : S.Call → Prop) (r : Resource S O) (o : O)
    (found wanted : r.State → Prop) : Prop where
  current (s : σ) : Ensures env (fun c _ => allowed c) (fun f _ => ∀ v, f = .continue v → found v)
    (fun _ _ => True) (r.current o) s
  desired (s : σ) : Ensures env (fun c _ => allowed c) (fun d _ => wanted d) (fun _ _ => True)
    (r.desired o) s
  updatePatch {v d : r.State} (s : σ) : found v → wanted d → Ensures env (fun c _ => allowed c)
    (fun p _ => ∀ w, p.create = some w ∨ p.update = some w → wanted w) (fun _ _ => True)
    (r.updatePatch o v d) s
  deletePatch {v d : r.State} (s : σ) : found v → Ensures env (fun c _ => allowed c)
    (fun p _ => ∀ w, p.delete = some w → found w) (fun _ _ => True) (r.deletePatch o v d) s
  create {w : r.State} : wanted w → CallsOnly env allowed (r.create o w)
  update {w : r.State} : wanted w → CallsOnly env allowed (r.update o w)
  delete {w : r.State} : found w → CallsOnly env allowed (r.delete o w)

namespace Resource

variable {r : Resource S O} {o : O} {found wanted : r.State → Prop}

lemma Confined.creates (h : r.Confined env allowed o found wanted) :
    r.Creates env (fun c _ => allowed c) o (fun _ => True) (fun v _ => found v)
      (fun p _ => ∀ w, p.create = some w ∨ p.update = some w → wanted w)
      (fun p _ => ∀ w, p.create = some w ∨ p.update = some w → wanted w) fun _ => True where
  current s _ := (h.current s).post (fun _ _ p => p) fun _ _ _ => trivial
  desired _ s hv := (h.desired s).post (fun _ t hd => h.updatePatch t hv hd) fun _ _ _ => hv
  nothingToCreate _ _ planned _ := planned
  create _ w s planned e :=
    (h.create (planned w (.inl e)) s).post (fun _ _ _ _ => planned) fun _ _ _ => planned
  nothingToUpdate _ _ _ _ := trivial
  update _ w s planned e :=
    (h.update (planned w (.inr e)) s).post (fun _ _ _ _ => trivial) fun _ _ _ => planned

lemma Confined.deletes (h : r.Confined env allowed o found wanted) :
    r.Deletes env (fun c _ => allowed c) o (fun _ => True) (fun v _ => found v) fun _ => True where
  current s _ := (h.current s).post (fun _ _ p => p) fun _ _ _ => trivial
  desired _ s hv := (h.desired s).post (fun _ _ _ => hv) fun _ _ _ => hv
  patch _ _ s hv := (h.deletePatch s hv).post (fun _ _ p => ⟨fun _ => trivial, p⟩) fun _ _ _ => trivial
  delete _ s hv := (h.delete hv s).post (fun _ _ _ _ => trivial) fun _ _ _ => hv

/-- The handler of a confined resource makes only calls of its kind. -/
theorem Confined.ensure (h : r.Confined env allowed o found wanted) (policy : BackoffPolicy) (deleting : Bool) :
    CallsOnly env allowed ((r.underPolicy policy).handler.ensure deleting o) := by
  intro s
  cases deleting with
  | true => exact (h.deletes.ensure policy trivial).post (fun _ _ _ => trivial) fun _ _ _ => trivial
  | false => exact (h.creates.ensure policy trivial).post (fun _ _ _ => trivial) fun _ _ _ => trivial

end Resource

variable {o : O} {deleting : Bool}

lemma callsOnly_runHandlers {handlers : List (Handler S O)}
    (h : ∀ x ∈ handlers, CallsOnly env allowed (x.ensure deleting o)) :
    CallsOnly env allowed (runHandlers deleting o handlers) := fun _ =>
  ensures_runHandlers h

/-- A pass makes only calls of the kind that its handlers make. -/
theorem callsOnly_runPass {handlers : List (Handler S O)}
    (h : ∀ x ∈ handlers, CallsOnly env allowed (x.ensure deleting o)) :
    CallsOnly env allowed (runPass handlers o deleting) := by
  refine callsOnly_runHandlers fun x m => h x ?_
  cases deleting with
  | true => exact List.mem_reverse.1 m
  | false => exact m

/-- What is ensured whatever likely answers are given is ensured where answers are likely. -/
theorem Program.Ensures.transfer {α : Type} {likely : Exchange S → Prop} {p : Program S.withRuntime α}
    {log : List (Exchange S)} {post : α → List (Exchange S) → Prop} {I : σ → Prop} {s : σ}
    (e : p.Ensures (.logged likely) (fun c _ => allowed c) post log)
    (keeps : env.Keeps (fun _ _ => True) I)
    (gives : ∀ {c t x u}, I t → env.answers c t x u → likely ⟨c, x⟩) (h : I s) :
    p.Ensures env (fun c _ => allowed c) (fun _ _ => True) s := by
  induction p generalizing log s with
  | done a => trivial
  | call c next ih =>
    cases c with
    | outside c =>
      intro t m
      have ht := keeps.meanwhile m h
      obtain ⟨a, e⟩ := e log rfl
      exact ⟨a, fun x u r => ih x (e x _ ⟨gives ht r, rfl⟩) (keeps.call trivial r ht)⟩
    | repetitions policy => exact fun n => ih n (e n) h
    | record sample => exact ih () e h

end TenantOverlay
