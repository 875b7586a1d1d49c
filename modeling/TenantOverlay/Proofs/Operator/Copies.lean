import TenantOverlay.Proofs.Operator.Isolation
import TenantOverlay.Proofs.Operator.Edits
import TenantOverlay.Proofs.Operator.Versions

/-!
# Reconciliation from copies

A reconciliation is given a copy of an overlay, and by the time it writes the overlay may have been
changed, deleted or created again. `Traffic` is any number of reconciliations, each with a copy taken at
some earlier moment, among calls of others in any order. What a reconciliation writes of overlays is its
copy with other finalizers (`Overlay.Rewrites`), and its copy is told by its version from whatever else is
stored (`MemoryServices.Knows`). So it overwrites its copy or nothing (`reconcile_overwrites_copy`).
-/

namespace TenantOverlay

open Fallible MemoryServices

namespace Overlay

/-- The overlay with other finalizers, as it is stored under a version. -/
def rewritten (o : Overlay) (finalizers : List String) (version : String) : Overlay :=
  { o with metadata := { o.metadata with
      finalizers := some finalizers
      resourceVersion := some version } }

/-- The finalizers that a reconciliation gives to an overlay: its own one after those that are there, or
those that are there without its own. -/
def Refinalized (o : Overlay) (finalizers : List String) : Prop :=
  finalizers = o.finalizers ++ [finalizer] ∨ finalizers = o.finalizers.filter (· != finalizer)

/-- A call changes an overlay only by replacing a copy of it with the same copy under other
finalizers. -/
def Rewrites (copy : Overlay) (c : OperatorCall) : Prop :=
  ∀ key, c.stores? = some (overlayPlace key) ∨ c.deletes? = some (overlayPlace key) →
    ∃ finalizers, copy.Refinalized finalizers ∧
      c = .cluster .overlays (.replace copy.metadata.namespaceName (copy.withFinalizers finalizers))

/-- What comes of the replacement of a copy by the same copy under other finalizers. -/
inductive Replaced (copy : Overlay) (key : ObjectKey) (finalizers : List String) (s : MemoryServices) :
    Result Overlay × MemoryServices → Prop where
  /-- The copy is what is stored. Nothing else is changed, and what takes its place has another
  version. -/
  | stored {version : String} {t : MemoryServices} : s.overlay? key = some copy →
    copy.metadata.resourceVersion ≠ some version →
    t.overlay? key = some (copy.rewritten finalizers version) →
    (∀ p, p ≠ overlayPlace key → t.object? p = s.object? p) → t.store = s.store →
    Replaced copy key finalizers s (.ok (copy.rewritten finalizers version), t)
  /-- No overlay is stored any more. -/
  | gone {reason message : String} : s.overlay? key = none →
    Replaced copy key finalizers s (.error (.api (.refused 404 reason message)), s)
  /-- The overlay that is stored has another version than the copy. -/
  | outdated {o : Overlay} {reason message : String} : s.overlay? key = some o →
    o.metadata.resourceVersion ≠ copy.metadata.resourceVersion →
    Replaced copy key finalizers s (.error (.api (.refused 409 reason message)), s)

variable {o copy : Overlay} {c : OperatorCall}

lemma overlayPlace_not_mem_places (o : Overlay) (key : ObjectKey) : overlayPlace key ∉ o.places := by
  simp [places, networkPlaces, cleanupPlaces, jobPlaces]

/-- What belongs to an overlay is not an overlay. -/
lemma Owns.rewrites (h : o.Owns c) : copy.Rewrites c := by
  rintro key (e | e)
  · exact absurd (h.stores e) (o.overlayPlace_not_mem_places key)
  · exact absurd (h.deletes e) (o.overlayPlace_not_mem_places key)

lemma rewrites_replace {finalizers : List String} (h : copy.Refinalized finalizers) :
    copy.Rewrites
      (.cluster .overlays (.replace copy.metadata.namespaceName (copy.withFinalizers finalizers))) :=
  fun _ _ => ⟨finalizers, h, rfl⟩

end Overlay

section Calls

variable {config : SetConfig} {registry registry' : Registry} {r : Reconciler} {copy : Overlay}

/-- Whatever the answers, a program changes overlays only by replacing a copy. -/
abbrev Overlay.Writes {ε α : Type} (copy : Overlay) (a : Fallible services ε α) : Prop :=
  CallsOnly (.logged Exchange.Named) copy.Rewrites a

lemma Reconciler.writes_onObject {α : Type} {a : OperatorAction α} (h : copy.Writes a) :
    copy.Writes (onObject a) := fun log => ensures_adapt (h log)

lemma Reconciler.writes_addFinalizer : copy.Writes (onObject (addFinalizer copy)) := by
  apply writes_onObject
  exact OperatorAction.callsOnly_ofObject (Overlay.rewrites_replace (.inl rfl))

lemma Reconciler.writes_removeFinalizer : copy.Writes (onObject (removeFinalizer copy)) := by
  apply writes_onObject
  have replaced : copy.Writes (Kind.replace .overlays copy.metadata.namespaceName copy.removeFinalizer) :=
    OperatorAction.callsOnly_ofObject (Overlay.rewrites_replace (.inr rfl))
  exact (replaced.bind fun _ => callsOnly_pure).orElseIf

variable (built : operatorEngine config registry = .ok (r.engine, registry'))

include built

/-- The handlers write no overlays. -/
lemma Reconciler.writes_pass (o : Overlay) : copy.Writes (r.pass o) := by
  intro log
  have owned : Ensures (.logged Exchange.Named) (fun c _ => o.Owns c)
      (fun r _ => ∀ outcome : PassOutcome, r = some outcome → True) (fun _ _ => True)
      (r.engine.reconcile o) log := by
    refine operatorEngine_ensures built fun _ daemon own _ _ _ => ?_
    exact (o.confines_pass config daemon own o.isDeleted log).post (fun _ _ _ => trivial)
      fun _ _ _ => trivial
  apply ensures_adapt
  exact (owned.allow fun _ _ own => own.rewrites).post (fun _ _ _ => trivial) fun _ _ _ => trivial

lemma Reconciler.writes_reconcileDeleted : copy.Writes (r.reconcileDeleted copy) := by
  unfold reconcileDeleted
  split
  · exact callsOnly_pure
  · split
    · exact writes_removeFinalizer.bind fun _ => callsOnly_pure
    · refine (writes_pass built copy).bind fun outcome => ?_
      cases outcome with
      | none => exact callsOnly_pure
      | some outcome =>
        dsimp only
        split
        · exact writes_removeFinalizer.bind fun _ => callsOnly_pure
        · exact callsOnly_pure

lemma Reconciler.writes_reconcileLive : copy.Writes (r.reconcileLive copy) := by
  unfold reconcileLive
  refine (writes_onObject callsOnly_ofResult).bind fun _ => ?_
  dsimp only
  split
  · refine callsOnly_pure.bind fun o => (writes_pass built o).bind fun outcome => ?_
    rcases outcome with _ | _ | _ | _ <;> exact callsOnly_pure
  · refine writes_addFinalizer.bind fun o => (writes_pass built o).bind fun outcome => ?_
    rcases outcome with _ | _ | _ | _ <;> exact callsOnly_pure

/-- A reconciliation changes overlays only by replacing the copy that it was given. -/
theorem Reconciler.writes_reconcile (copy : Overlay) : copy.Writes (r.reconcile copy) := by
  unfold reconcile
  split
  · exact writes_reconcileDeleted built
  · exact writes_reconcileLive built

end Calls

namespace MemoryServices

variable {s t : MemoryServices} {fault : Error → Prop} {o copy : Overlay}

/-- A copy of an overlay is told by its version from any other overlay that stands at its place. -/
def Knows (s : MemoryServices) (o : Overlay) : Prop :=
  ∃ name, o.metadata.name = some name ∧ s.Known (overlayPlace (.of o.metadata.namespaceName name)) o

lemma Reachable.knows {key : ObjectKey} (h : s.Reachable) (found : s.overlay? key = some o) : s.Knows o := by
  obtain ⟨named, placed⟩ := h.filed .overlays key o found
  have known : s.Known (overlayPlace key) o := (h.versioned .overlays).known (p := overlayPlace key) found
  refine ⟨key.name, named, ?_⟩
  rwa [show ObjectKey.of o.metadata.namespaceName key.name = key by rw [ObjectKey.of, placed]]

/-- What has been known goes on to be known, whatever others call. -/
lemma Knows.meanwhile (h : s.Knows o) (moved : (environment fault anyone).meanwhile s t) : t.Knows o := by
  have settled : Settled anyone fun s => s.Knows o := settled_anyone fun s c h => by
    obtain ⟨name, named, known⟩ := h
    exact ⟨name, named, known.answer c⟩
  exact settled.meanwhile moved h

lemma Reachable.meanwhile (h : s.Reachable) (moved : (environment fault anyone).meanwhile s t) :
    t.Reachable := (settled_anyone fun _ c h => h.answer c).meanwhile moved h

/-- The replacement of a copy overwrites the copy or is refused. -/
lemma Knows.replaced {finalizers : List String} {key : ObjectKey} (h : s.Knows copy)
    (there : (OperatorCall.cluster .overlays
      (.replace copy.metadata.namespaceName (copy.withFinalizers finalizers))).stores? =
        some (overlayPlace key)) :
    copy.Replaced key finalizers s (s.answer (.cluster .overlays
      (.replace copy.metadata.namespaceName (copy.withFinalizers finalizers)))) := by
  obtain ⟨name, named, known⟩ := h
  have written : (copy.withFinalizers finalizers).metadata.name = some name := named
  obtain rfl : ObjectKey.of copy.metadata.namespaceName name = key := by
    have e := there
    simp only [OperatorCall.stores?, ObjectRequest.stores?, written, Option.map_some] at e
    cases e
    rfl
  obtain ⟨found, answered, stored⟩ | ⟨gone, refused⟩ | ⟨v, found, other, refused⟩ :=
    known.answer_replace written rfl
  · let c : OperatorCall := .cluster .overlays
      (.replace copy.metadata.namespaceName (copy.withFinalizers finalizers))
    have replaced : s.answer c = (.ok _, (s.answer c).2) := Prod.ext answered rfl
    rw [replaced]
    refine .stored found known.fresh stored (fun p apart => ?_) rfl
    have others : c.stores? ≠ some p := fun e => apart (Option.some.inj (e.symm.trans there))
    exact object?_answer others (Option.some_ne_none p).symm
  · rw [refused]
    exact .gone gone
  · rw [refused]
    exact .outdated found other

/-- Whatever a program does is what others do. -/
lemma moved_of_step {α : Type} {p q : Program services.withRuntime α}
    (step : Program.Step (environment fault nobody) (p, s) (q, t)) :
    (environment fault anyone).meanwhile s t := by
  cases step with
  | meanwhile m =>
    obtain rfl : t = s := eq_of_meanwhile m
    exact .refl
  | outside a =>
    rcases state_of_answers a with rfl | rfl
    · exact .refl
    · exact .single ⟨_, rfl⟩
  | repetitions n => exact .refl
  | record => exact .refl

end MemoryServices

/-- A reconciliation that has begun, and the copy that it was given. -/
structure Look where
  copy : Overlay
  program : Program services.withRuntime (Except ReconcileError NextLook)

/-- The services in memory, the states that they have been in, and the reconciliations at work on
them. -/
structure Traffic where
  world : MemoryServices := {}
  past : List MemoryServices := []
  looks : List Look := []

/-- Others make a call, a reconciliation begins with a copy of what is stored or has been stored, or one
that has begun makes its next step. -/
inductive Traffic.Step (r : Reconciler) (fault : Error → Prop) : Traffic → Traffic → Prop where
  | others {s : MemoryServices} {past : List MemoryServices} {looks : List Look} (c : OperatorCall) :
    Step r fault ⟨s, past, looks⟩ ⟨(s.answer c).2, s :: past, looks⟩
  | begin {s t : MemoryServices} {past : List MemoryServices} {looks : List Look} {key : ObjectKey}
    {copy : Overlay} : t ∈ s :: past → t.overlay? key = some copy →
    Step r fault ⟨s, past, looks⟩ ⟨s, past, ⟨copy, (r.reconcile copy).run⟩ :: looks⟩
  | go {s t : MemoryServices} {past : List MemoryServices} {before after : List Look} {copy : Overlay}
    {p q : Program services.withRuntime (Except ReconcileError NextLook)} :
    Program.Step (environment fault nobody) (p, s) (q, t) →
    Step r fault ⟨s, past, before ++ ⟨copy, p⟩ :: after⟩ ⟨t, s :: past, before ++ ⟨copy, q⟩ :: after⟩

/-- What a reconciler and others come to from the start, in any order of their steps. -/
def Traffic.Reachable (r : Reconciler) (fault : Error → Prop) : Traffic → Prop :=
  Relation.ReflTransGen (Traffic.Step r fault) {}

section Run

variable {config : SetConfig} {registry registry' : Registry} {r : Reconciler} {fault : Error → Prop}
  {s t : MemoryServices} {past : List MemoryServices} {looks : List Look} {l : Look} {x y : Traffic}

/-- A reconciliation knows its copy, and will change no overlay but by replacing that. -/
structure Look.Sound (fault : Error → Prop) (l : Look) (s : MemoryServices) : Prop where
  knows : s.Knows l.copy
  writes : l.program.Ensures (environment fault anyone) (fun c _ => l.copy.Rewrites c) (fun _ _ => True) s

lemma Look.Sound.meanwhile (h : l.Sound fault s) (moved : (environment fault anyone).meanwhile s t) :
    l.Sound fault t :=
  ⟨h.knows.meanwhile moved, h.writes.meanwhile (fun _ _ _ _ _ => trivial) moved⟩

lemma Look.Sound.step {copy : Overlay} {p q : Program services.withRuntime (Except ReconcileError NextLook)}
    (h : Look.Sound fault ⟨copy, p⟩ s)
    (step : Program.Step (environment fault nobody) (p, s) (q, t)) : Look.Sound fault ⟨copy, q⟩ t := by
  refine ⟨h.knows.meanwhile (moved_of_step step), ?_⟩
  refine h.writes.step (fun _ _ _ _ _ => trivial) (step.mono (fun _ _ _ _ answered => answered) ?_)
  intro s t m
  obtain rfl : t = s := eq_of_meanwhile m
  exact .refl

/-- Every overlay that has ever been stored is known, and so every reconciliation is sound. -/
structure Traffic.Sound (fault : Error → Prop) (x : Traffic) : Prop where
  reachable : x.world.Reachable
  past : ∀ t ∈ x.past, ∀ key o, t.overlay? key = some o → x.world.Knows o
  looks : ∀ l ∈ x.looks, l.Sound fault x.world

/-- The services change, and the state that they have been in is remembered. -/
lemma Traffic.Sound.moved (h : Traffic.Sound fault ⟨s, past, looks⟩)
    (moved : (environment fault anyone).meanwhile s t) : Traffic.Sound fault ⟨t, s :: past, looks⟩ where
  reachable := h.reachable.meanwhile moved
  past u m key o found := by
    obtain rfl | m := List.mem_cons.1 m
    · exact (h.reachable.knows found).meanwhile moved
    · exact (h.past u m key o found).meanwhile moved
  looks l m := (h.looks l m).meanwhile moved

/-- A reconciliation that begins is sound. -/
lemma Look.sound_start (built : operatorEngine config registry = .ok (r.engine, registry'))
    {copy : Overlay} (start : s.Reachable) (knows : s.Knows copy) :
    Look.Sound fault ⟨copy, (r.reconcile copy).run⟩ s := by
  refine ⟨knows, ?_⟩
  have keeps : (environment fault anyone).Keeps (fun _ _ => True) MemoryServices.Reachable :=
    environment_keeps (settled_anyone fun _ c h => h.answer c) fun c _ _ h => h.answer c
  exact Program.Ensures.transfer (Reconciler.writes_reconcile built copy []) keeps named_of_answers start

lemma Traffic.Sound.step (built : operatorEngine config registry = .ok (r.engine, registry'))
    (h : x.Sound fault) (step : Traffic.Step r fault x y) : y.Sound fault := by
  cases step with
  | others c => exact h.moved (.single ⟨c, rfl⟩)
  | @begin s t past looks key copy m found =>
    have knows : s.Knows copy := by
      obtain rfl | m := List.mem_cons.1 m
      · exact h.reachable.knows found
      · exact h.past t m key copy found
    refine ⟨h.reachable, h.past, fun l m => ?_⟩
    obtain rfl | m := List.mem_cons.1 m
    · exact Look.sound_start built h.reachable knows
    · exact h.looks l m
  | @go s t past before after copy p q step =>
    have others := h.moved (moved_of_step step)
    refine ⟨others.reachable, others.past, fun l m => ?_⟩
    obtain m | m := List.mem_append.1 m
    · exact others.looks l (List.mem_append_left _ m)
    · obtain rfl | m := List.mem_cons.1 m
      · exact (h.looks _ (List.mem_append_right _ List.mem_cons_self)).step step
      · exact others.looks l (List.mem_append_right _ (List.mem_cons_of_mem _ m))

lemma Traffic.Reachable.sound (built : operatorEngine config registry = .ok (r.engine, registry'))
    (h : x.Reachable r fault) : x.Sound fault := by
  induction h with
  | refl => exact ⟨.empty, nofun, fun _ m => (List.not_mem_nil m).elim⟩
  | tail _ step ih => exact ih.step built step

/-- Whatever reconciliations and others do in any order: a call by which a reconciliation may put an
overlay somewhere or take one away replaces its copy, with its own finalizer appended to those of the
copy or removed from them. The copy is overwritten if it is what is stored, in the same version. If
anything else is stored by then, or nothing, the call is refused and changes nothing. -/
theorem reconcile_overwrites_copy (built : operatorEngine config registry = .ok (r.engine, registry'))
    (reached : x.Reachable r fault) (m : l ∈ x.looks) {c : OperatorCall}
    {next : services.Answer c → Program services.withRuntime _}
    (calls : l.program = .call (.outside c) next) {key : ObjectKey}
    (changes : c.stores? = some (overlayPlace key) ∨ c.deletes? = some (overlayPlace key)) :
    ∃ finalizers, l.copy.Refinalized finalizers ∧
      c = .cluster .overlays (.replace l.copy.metadata.namespaceName (l.copy.withFinalizers finalizers)) ∧
      l.copy.Replaced key finalizers x.world (x.world.answer (.cluster .overlays
        (.replace l.copy.metadata.namespaceName (l.copy.withFinalizers finalizers)))) := by
  have sound := (reached.sound built).looks l m
  have writes := sound.writes
  rw [calls] at writes
  obtain ⟨finalizers, refinalized, rfl⟩ := (writes x.world ((environment fault anyone).refl _)).1 key changes
  obtain there | nowhere := changes
  · exact ⟨finalizers, refinalized, rfl, sound.knows.replaced there⟩
  · cases nowhere

/-- An overlay is created, deleted and created again. Of two reconciliations that begin then, one with
what is stored and one with a copy of what has been stored before, each comes to the replacement of its
copy. -/
theorem reconcile_overwrites_copy_recreated :
    ∃ (r : Reconciler) (registry : Registry) (x : Traffic) (fresh stale : Look) (key : ObjectKey),
      operatorEngine .sample .empty = .ok (r.engine, registry) ∧ x.Reachable r (fun _ => False) ∧
      x.world.overlay? key = some fresh.copy ∧
      stale.copy.metadata.resourceVersion ≠ fresh.copy.metadata.resourceVersion ∧
      ∀ l ∈ [fresh, stale], l ∈ x.looks ∧ ∃ c next, l.program = .call (.outside c) next ∧
        c.stores? = some (overlayPlace key) ∧
        ∃ finalizers, l.copy.Refinalized finalizers ∧
          c = .cluster .overlays (.replace l.copy.metadata.namespaceName (l.copy.withFinalizers finalizers)) ∧
          l.copy.Replaced key finalizers x.world (x.world.answer (.cluster .overlays
            (.replace l.copy.metadata.namespaceName (l.copy.withFinalizers finalizers)))) := by
  obtain ⟨registry, built⟩ := operatorEngine_sample
  let r : Reconciler := ⟨Engine.sample, ⟨"", 300, 60, 5⟩⟩
  let key : ObjectKey := .of (some "default") "a"
  let creation : OperatorCall := .cluster .overlays (.create (some "default") (Overlay.sample "a"))
  let created : MemoryServices := (answer creation {}).2
  let deleted : MemoryServices := (answer (.cluster .overlays (.delete (some "default") "a")) created).2
  let recreated : MemoryServices := (answer creation deleted).2
  obtain ⟨old, stored, first, writesOld⟩ : ∃ old, created.overlay? key = some old ∧
      old.metadata.resourceVersion = some "1" ∧
      (r.reconcile old).run.nextCall?.bind OperatorCall.stores? = some (overlayPlace key) := by
    refine ⟨(created.overlay? key).get (by decide +kernel), (Option.some_get _).symm, ?_⟩
    decide +kernel
  obtain ⟨new, restored, second, writesNew⟩ : ∃ new, recreated.overlay? key = some new ∧
      new.metadata.resourceVersion = some "2" ∧
      (r.reconcile new).run.nextCall?.bind OperatorCall.stores? = some (overlayPlace key) := by
    refine ⟨(recreated.overlay? key).get (by decide +kernel), (Option.some_get _).symm, ?_⟩
    decide +kernel
  let fresh : Look := ⟨new, (r.reconcile new).run⟩
  let stale : Look := ⟨old, (r.reconcile old).run⟩
  let x : Traffic := ⟨recreated, [deleted, created, {}], [stale, fresh]⟩
  have written : Relation.ReflTransGen (Traffic.Step r fun _ => False) {}
      ⟨recreated, [deleted, created, {}], []⟩ :=
    .tail (.tail (.single (.others creation)) (.others _)) (.others creation)
  have earlier : created ∈ [recreated, deleted, created, {}] :=
    .tail _ (.tail _ (.head _))
  have reached : x.Reachable r fun _ => False :=
    .tail (.tail written (.begin (.head _) restored)) (.begin earlier stored)
  have outdated : old.metadata.resourceVersion ≠ new.metadata.resourceVersion := by
    rw [first, second]
    decide
  refine ⟨r, registry, x, fresh, stale, key, built, reached, restored, outdated, ?_⟩
  have both : ∀ l ∈ [fresh, stale], l ∈ x.looks ∧
      l.program.nextCall?.bind OperatorCall.stores? = some (overlayPlace key) := by
    intro l m
    rcases m with _ | ⟨_, _ | ⟨_, m⟩⟩
    · exact ⟨.tail _ (.head _), writesNew⟩
    · exact ⟨.head _, writesOld⟩
    · cases m
  intro l m
  obtain ⟨m, writes⟩ := both l m
  obtain ⟨c, calls, there⟩ := Option.bind_eq_some_iff.1 writes
  obtain ⟨next, e⟩ := Program.eq_call_of_nextCall? calls
  exact ⟨m, c, next, e, there, reconcile_overwrites_copy built reached m e (.inl there)⟩

end Run

end TenantOverlay
