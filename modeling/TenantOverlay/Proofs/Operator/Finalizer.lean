import TenantOverlay.Proofs.NetworkEntry
import TenantOverlay.Proofs.Operator.Edits
import TenantOverlay.Proofs.Operator.Passes

/-!
# The finalizer marks what exists

As long as anything of a network exists, its overlay is stored and carries the finalizer, at every
moment of every run (`network_not_orphaned`). The invariant is `Guarded`; each call of a
reconciliation keeps it, whatever comes of the call and whatever others do in between.
-/

namespace TenantOverlay

open Fallible MemoryServices

section Invariant

variable (key : ObjectKey) (home : Overlay)

/-- The overlay is stored and carries the finalizer. -/
def Held (s : MemoryServices) : Prop := ∃ o, s.overlay? key = some o ∧ o.hasFinalizer = true

/-- Nothing of a network exists. -/
structure Bare (s : MemoryServices) : Prop where
  lacks : s.Lacks home.networkPlaces
  noValue : s.store.get? home.entryPath = none

/-- Objects stand under their names, the overlay has kept the identifier of its cluster, and the
network's entry can be read and has nothing below it. -/
structure Sound (s : MemoryServices) : Prop where
  filed (k : Kind) : (s.cluster.table k).Filed
  same (o : Overlay) : s.overlay? key = some o → o.clusterId = home.clusterId
  readable : StoredNetwork.Readable home s.store
  leaf (k : String) : isBelow home.entryPath k = true → s.store.get? k = none

/-- Either the overlay carries the finalizer, or nothing of its network exists. Without an identifier
of its cluster there is no network at all. -/
structure Guarded (s : MemoryServices) : Prop where
  sound : Sound key home s
  held : Held key s ∨ Bare home s
  named : home.clusterId = "" → Bare home s

end Invariant

variable {key : ObjectKey} {home : Overlay} {s t : MemoryServices} {c : OperatorCall}

/-- A call that leaves alone the overlay and writes nothing but a readable entry. -/
lemma Sound.answer (h : Sound key home s) (untouched : (s.answer c).2.overlay? key = s.overlay? key)
    (written : ∀ k text, c.writes? = some (k, text) →
      k = home.entryPath ∧ ∃ e, NetworkEntry.parse text = .ok e ∧ e.isEmpty = false) :
    Sound key home (s.answer c).2 where
  filed k := filed_answer (h.filed k) c
  same o stored := h.same o (untouched ▸ stored)
  readable text e := by
    rcases store_get?_answer_eq_some e with before | new
    · exact h.readable text before
    · exact (written _ text new).2
  leaf k below := by
    rw [Option.eq_none_iff_forall_ne_some]
    intro text e
    rcases store_get?_answer_eq_some e with before | new
    · exact absurd ((h.leaf k below).symm.trans before) nofun
    · obtain ⟨rfl, -⟩ := written k text new
      rw [isBelow_self] at below
      cases below

/-- Nothing of the network comes about by a call on something else. -/
lemma Bare.answer {k : Kind} (h : Bare home s) (other : k.isOfNetwork = false)
    (request : ObjectRequest k.Body) : Bare home (s.answer (.cluster k request)).2 where
  lacks p m := by
    have network := home.isOfNetwork_of_mem m
    have ne : p.kind ≠ k := by
      rintro rfl
      exact absurd (network.symm.trans other) (by decide)
    unfold MemoryServices.object?
    rw [table_answer_of_ne request ne]
    exact h.lacks p m
  noValue := h.noValue

/-- A stored overlay stands at the place that its metadata say. -/
lemma Sound.place (h : Sound key home s) {o : Overlay} (stored : s.overlay? key = some o) :
    o.metadata.name = some key.name ∧ ObjectKey.of o.metadata.namespaceName key.name = key := by
  obtain ⟨name, ns⟩ := h.filed .overlays key o stored
  exact ⟨name, congrArg (ObjectKey.mk · key.name) ns⟩

/-- What a replacement of the overlay comes to: nothing, or the new overlay is stored. -/
lemma overlay?_replace {ns : Option String} {o : Overlay} (hn : o.metadata.name = some key.name)
    (hk : ObjectKey.of ns key.name = key) (s : MemoryServices) :
    (∃ e, s.answer (.cluster .overlays (.replace ns o)) = (.error e, s)) ∨
      ∃ v : Overlay, (s.answer (.cluster .overlays (.replace ns o))).1 = .ok v ∧
        (s.answer (.cluster .overlays (.replace ns o))).2.overlay? key = some v ∧
        v.clusterId = o.clusterId ∧ v.hasFinalizer = o.hasFinalizer ∧ v.isDeleted = o.isDeleted := by
  obtain refused | ⟨answer, stored⟩ := answer_replace_cases s (k := .overlays) ns hn
  · exact .inl refused
  · rw [hk] at stored
    exact .inr ⟨_, answer, stored, rfl, rfl, rfl⟩

/-- A call on another kind of objects leaves the overlay alone. -/
lemma overlay?_answer_of_ne {k : Kind} (other : k ≠ .overlays) (request : ObjectRequest k.Body) :
    (s.answer (.cluster k request)).2.overlay? key = s.overlay? key := by
  unfold MemoryServices.overlay? MemoryServices.object?
  rw [table_answer_of_ne request other.symm]

section Others

variable (allowed : Permitted key s c)

include allowed

lemma Sound.permitted (h : Sound key home s) : Sound key home (s.answer c).2 := by
  cases allowed with
  | work request free => exact h.answer (overlay?_answer_of_ne (of_mem_work free).1 request) nofun
  | @edit o o' stored name id _ =>
    obtain ⟨hn, hk⟩ := h.place stored
    refine ⟨fun k => filed_answer (h.filed k) _, fun w e => ?_, h.readable, h.leaf⟩
    obtain ⟨_, refused⟩ | ⟨v, -, replaced, same, -, -⟩ := overlay?_replace (name.trans hn) hk s
    · rw [refused] at e
      exact h.same w e
    · rw [replaced] at e
      cases e
      exact same.trans (id.trans (h.same o stored))
  | @delete o stored _ _ =>
    obtain ⟨-, hk⟩ := h.place stored
    refine ⟨fun k => filed_answer (h.filed k) _, fun w e => ?_, h.readable, h.leaf⟩
    have gone := s.object?_answer_delete .overlays o.metadata.namespaceName key.name
    rw [hk] at gone
    exact absurd (gone.symm.trans e) nofun

/-- Others do not take the finalizer off. -/
lemma Held.permitted (sound : Sound key home s) (h : Held key s) : Held key (s.answer c).2 := by
  obtain ⟨v, there, finalizer⟩ := h
  cases allowed with
  | work request free =>
    exact ⟨v, (overlay?_answer_of_ne (of_mem_work free).1 request).trans there, finalizer⟩
  | @edit o o' stored name _ finalizers =>
    obtain ⟨hn, hk⟩ := sound.place stored
    obtain rfl : o = v := Option.some.inj (stored.symm.trans there)
    obtain ⟨_, refused⟩ | ⟨w, -, replaced, -, kept, -⟩ := overlay?_replace (name.trans hn) hk s
    · rw [refused]
      exact ⟨o, there, finalizer⟩
    · refine ⟨w, replaced, kept.trans ?_⟩
      unfold Overlay.hasFinalizer at finalizer ⊢
      rw [finalizers]
      exact finalizer
  | @delete o stored _ none =>
    obtain rfl : o = v := Option.some.inj (stored.symm.trans there)
    unfold Overlay.hasFinalizer at finalizer
    rw [none] at finalizer
    cases finalizer

lemma Bare.permitted (h : Bare home s) : Bare home (s.answer c).2 := by
  obtain ⟨k, request, rfl, other⟩ := allowed.about
  exact h.answer other request

end Others

/-- Others leave the invariant true. -/
lemma settled_guarded : Settled (Outside key) (Guarded key home) := by
  rintro s t ⟨c, permitted, rfl⟩ h
  refine ⟨h.sound.permitted permitted, ?_, fun unnamed => (h.named unnamed).permitted permitted⟩
  -- Others neither take the finalizer off nor make anything of the network.
  rcases h.held with held | bare
  · exact .inl (Held.permitted permitted h.sound held)
  · exact .inr (bare.permitted permitted)

lemma settled_bare : Settled (Outside key) (Bare home) := by
  rintro s t ⟨c, permitted, rfl⟩ h
  exact h.permitted permitted

lemma settled_held : Settled (Outside key) fun s => Sound key home s ∧ Held key s := by
  rintro s t ⟨c, permitted, rfl⟩ ⟨sound, held⟩
  exact ⟨sound.permitted permitted, Held.permitted permitted sound held⟩

/-- A replacement of the overlay that carries the finalizer on, unless nothing exists. -/
lemma Guarded.replace (h : Guarded key home s) {ns : Option String} {o : Overlay}
    (hn : o.metadata.name = some key.name) (hk : ObjectKey.of ns key.name = key)
    (same : o.clusterId = home.clusterId) (carries : o.hasFinalizer = true ∨ Bare home s) :
    Guarded key home (s.answer (.cluster .overlays (.replace ns o))).2 := by
  obtain ⟨_, e⟩ | ⟨v, -, stored, id, finalizer, -⟩ := overlay?_replace hn hk s
  · rw [e]
    exact h
  · refine ⟨⟨fun k => filed_answer (h.sound.filed k) _, ?_, h.sound.readable, h.sound.leaf⟩,
      ?_, ?_⟩
    · intro w e
      rw [stored] at e
      cases e
      exact id.trans same
    · exact carries.imp (fun f => ⟨v, stored, finalizer.trans f⟩) fun bare => bare.answer rfl _
    · exact fun unnamed => (h.named unnamed).answer rfl _

section Calls

/-- The services, while calls fail without telling anything and others work on the overlay. -/
abbrev shared (key : ObjectKey) : Environment services MemoryServices :=
  environment Error.IsSilent (Outside key)

variable (key home) in
/-- Whatever comes of a call, the invariant holds after it. -/
def Harmless (c : OperatorCall) (s : MemoryServices) : Prop :=
  ∀ x t, (shared key).answers c s x t → Guarded key home t

lemma Guarded.harmless (h : Guarded key home s) (h' : Guarded key home (s.answer c).2) :
    Harmless key home c s := by
  intro x t a
  rcases state_of_answers a with rfl | rfl
  · exact h
  · exact h'

variable {o : Overlay}

/-- A footprint without overlays leaves the overlay alone. -/
lemma overlay?_answer_of_covers {f : Footprint} (a : f.Covers c) (hs : overlayPlace key ∉ f.stores)
    (hd : overlayPlace key ∉ f.deletes) : (s.answer c).2.overlay? key = s.overlay? key :=
  object?_answer (fun e => hs (a.stores e)) fun e => hd (a.deletes e)

/-- While the finalizer is on, a creation pass changes nothing about that. -/
lemma keeps_creation (key : ObjectKey) (same : o.clusterId = home.clusterId) :
    (shared key).Keeps (fun c _ => o.creationFootprint.Covers c)
      fun s => Sound key home s ∧ Held key s := by
  refine environment_keeps settled_held fun c s a ⟨sound, held⟩ => ?_
  have untouched : (s.answer c).2.overlay? key = s.overlay? key := by
    apply overlay?_answer_of_covers a
    · simp [Overlay.creationFootprint, Overlay.networkPlaces]
    · simp [Overlay.creationFootprint]
  refine ⟨sound.answer untouched fun k text e => ?_, ?_⟩
  · have written := List.mem_singleton.1 (a.writes e)
    obtain ⟨rfl, rfl⟩ := Prod.mk.inj written
    refine ⟨Overlay.entryPath_congr same, o.networkEntry, NetworkEntry.parse_render _, ?_⟩
    simp [NetworkEntry.isEmpty, NetworkEntry.empty, Overlay.networkEntry, NetworkEntry.vxlan]
  · unfold Held
    rw [untouched]
    exact held

/-- Calls that store nothing of the network and write nothing leave it away. -/
lemma Bare.answer_of_covers (h : Bare home s) {f : Footprint} (a : f.Covers c)
    (hs : ∀ p ∈ home.networkPlaces, p ∉ f.stores) (hw : f.writes = []) :
    Bare home (s.answer c).2 where
  lacks p m := object?_answer_of_none (fun e => hs p m (a.stores e)) (h.lacks p m)
  noValue := by
    rw [Option.eq_none_iff_forall_ne_some]
    intro text e
    rcases store_get?_answer_eq_some e with before | new
    · exact absurd (h.noValue.symm.trans before) nofun
    · have written := a.writes new
      rw [hw] at written
      cases written

/-- A deletion pass leaves the invariant true. -/
lemma keeps_deletion (key : ObjectKey) (same : o.clusterId = home.clusterId) :
    (shared key).Keeps (fun c _ => o.deletionFootprint.Covers c) (Guarded key home) := by
  refine environment_keeps settled_guarded fun c s a h => ?_
  have untouched : (s.answer c).2.overlay? key = s.overlay? key := by
    apply overlay?_answer_of_covers a
    · simp [Overlay.deletionFootprint, Overlay.cleanupPlaces, Overlay.jobPlaces]
    · simp [Overlay.deletionFootprint, Overlay.networkPlaces, Overlay.cleanupPlaces]
  have bare (b : Bare home s) : Bare home (s.answer c).2 := by
    -- A deletion pass stores nothing but what the cleanup needs.
    refine b.answer_of_covers a (fun p m => ?_) rfl
    rw [← Overlay.networkPlaces_congr same] at m
    exact o.not_mem_of_mem_networkPlaces m
  refine ⟨h.sound.answer untouched fun _ _ e => ?_, ?_, fun unnamed => bare (h.named unnamed)⟩
  · exact absurd (a.writes e) List.not_mem_nil
  · refine h.held.imp (fun held => ?_) bare
    unfold Held
    rw [untouched]
    exact held

end Calls

section Reconciliation

variable {config : SetConfig} {registry registry' : Registry} {engine : Engine services Overlay}
  {o : Overlay}

/-- A creation pass is harmless once the finalizer is on. -/
lemma harmless_creationPass (built : operatorEngine config registry = .ok (engine, registry'))
    (named : home.clusterId ≠ "") (same : o.clusterId = home.clusterId) (live : o.isDeleted = false)
    (h : Sound key home s ∧ Held key s) :
    Ensures (shared key) (Harmless key home) (fun _ _ => True) (fun _ _ => True)
      (engine.reconcile o) s := by
  have keeps := keeps_creation key same
  have pass : Ensures (shared key) (Harmless key home) (fun r _ => ∀ x : PassOutcome, r = some x → True)
      (fun _ _ => True) (engine.reconcile o) s := by
    refine operatorEngine_ensures built fun g daemon own _ _ _ => ?_
    rw [live]
    have done := ensures_creationPass (quiet_outside key) config daemon own o live (h.1.filed .roleBindings)
    refine (done.keep keeps h).mono ?_ (fun _ _ _ => trivial) fun _ _ _ => trivial
    rintro c t ⟨covered, owned⟩ x u r
    obtain ⟨sound, held⟩ := keeps.call covered r owned
    exact ⟨sound, .inl held, fun e => absurd e named⟩
  exact pass.post (fun _ _ _ => trivial) fun _ _ _ => trivial

/-- A deletion pass is harmless, and nothing of the network exists when it is done. -/
lemma harmless_deletionPass (built : operatorEngine config registry = .ok (engine, registry'))
    (same : o.clusterId = home.clusterId) (deleted : o.isDeleted = true) (h : Guarded key home s) :
    Ensures (shared key) (Harmless key home)
      (fun r t => ∀ x, r = some x → Guarded key home t ∧ (x = .done → Bare home t)) (fun _ _ => True)
      (engine.reconcile o) s := by
  have keeps := keeps_deletion key same
  refine operatorEngine_ensures built fun g daemon own _ _ _ => ?_
  rw [deleted]
  have readable : StoredNetwork.Readable o s.store := by
    unfold StoredNetwork.Readable
    rw [Overlay.entryPath_congr same]
    exact h.sound.readable
  -- The entry is readable, so the pass does not take it for missing.
  have done := ensures_deletionPass (quiet_outside key) config daemon own o True
    (h.sound.filed .namespaces) (h.sound.filed .roleBindings) fun _ => readable
  refine (done.keep keeps h).mono ?_ ?_ fun _ _ _ => trivial
  · rintro c t ⟨covered, guarded⟩ x u r
    exact keeps.call covered r guarded
  · rintro x t ⟨post, guarded⟩
    refine ⟨guarded, fun e => ?_⟩
    obtain ⟨gone, noValue⟩ := post e
    rw [Overlay.networkPlaces_congr same] at gone
    rw [Overlay.entryPath_congr same] at noValue
    exact ⟨gone.subset (List.subset_append_left _ _), noValue trivial⟩

lemma hasFinalizer_addFinalizer : o.addFinalizer.hasFinalizer = true := by
  simp [Overlay.addFinalizer, Overlay.hasFinalizer, Overlay.finalizers, Overlay.withFinalizers]

/-- After the finalizer has been put on, the overlay is stored with it. -/
lemma harmless_addFinalizer (h : Guarded key home s) (stored : s.overlay? key = some o) :
    Ensures (shared key) (Harmless key home)
      (fun v t => (Sound key home t ∧ Held key t) ∧ v.clusterId = o.clusterId ∧
        v.isDeleted = o.isDeleted) (fun _ _ => True) (Reconciler.addFinalizer o) s := by
  obtain ⟨hn, hk⟩ := h.sound.place stored
  have same := h.sound.same o stored
  have replaced (t : MemoryServices) (ht : Guarded key home t) :=
    ht.replace (o := o.addFinalizer) hn hk same (.inl hasFinalizer_addFinalizer)
  refine ensures_request settled_guarded h (fun t ht => ht.harmless (replaced t ht)) ?_
    fun _ _ _ _ => ⟨trivial, trivial⟩
  intro t ht
  have after := replaced t ht
  obtain ⟨_, e⟩ | ⟨v, answer, stored, id, finalizer, deleted⟩ :=
    overlay?_replace (o := o.addFinalizer) hn hk t
  · rw [e]
    trivial
  · rw [answer]
    exact ⟨⟨after.sound, v, stored, finalizer.trans hasFinalizer_addFinalizer⟩, id, deleted⟩

/-- The finalizer can be taken off when nothing of the network exists. -/
lemma harmless_removeFinalizer (h : Guarded key home s ∧ Bare home s)
    (hn : o.metadata.name = some key.name)
    (hk : ObjectKey.of o.metadata.namespaceName key.name = key) (same : o.clusterId = home.clusterId) :
    Ensures (shared key) (Harmless key home) (fun _ _ => True) (fun _ _ => True)
      (Reconciler.removeFinalizer o) s := by
  have settled : Settled (Outside key) fun s => Guarded key home s ∧ Bare home s :=
    settled_guarded.and settled_bare
  refine Action.ensures_orElseIf (ensures_bind (ensures_request settled h ?_ ?_ ?_))
  · rintro t ⟨guarded, bare⟩
    exact guarded.harmless (guarded.replace (o := o.removeFinalizer) hn hk same (.inr bare))
  · intro t _
    cases (t.answer (.cluster .overlays (.replace o.metadata.namespaceName o.removeFinalizer))).1 with
    | ok v => exact ensures_pure trivial
    | error e =>
      show if e.isNotFound then True else True
      simp only [ite_self]
  · intro e t _ _
    simp only [ite_self, and_self]

variable {r : Reconciler}

lemma OverlaySpec.clusterId_ne_of_validate {spec : OverlaySpec} (valid : spec.validate = .ok ()) :
    spec.cluster.id ≠ "" := by
  unfold OverlaySpec.validate at valid
  obtain ⟨_, named, -⟩ := Result.bind_eq_ok_iff.1 valid
  exact bne_iff_ne.1 (Result.require_eq_ok_iff.1 named)

/-- What a living overlay is reconciled with, once the finalizer is on. -/
lemma harmless_pass (built : operatorEngine config registry = .ok (r.engine, registry'))
    (named : home.clusterId ≠ "") (same : o.clusterId = home.clusterId) (live : o.isDeleted = false)
    (h : Sound key home s ∧ Held key s) :
    Ensures (shared key) (Harmless key home) (fun _ _ => True) (fun _ _ => True)
      (do match ← r.pass o with
          | none => return .onChange
          | some .done => return .after r.controller.resyncSeconds
          | some _ => return .after r.controller.shortRequeueSeconds :
        Fallible services ReconcileError NextLook) s := by
  refine ensures_bind (ensures_adapt ?_)
  refine (harmless_creationPass built named same live h).post ?_ fun _ _ _ => trivial
  rintro (_ | _ | _ | _) t -
  all_goals exact ensures_pure trivial

/-- The reconciliation of a living overlay puts the finalizer on before the first handler runs. -/
lemma harmless_reconcileLive (built : operatorEngine config registry = .ok (r.engine, registry'))
    (live : o.isDeleted = false) (h : Guarded key home s) (stored : s.overlay? key = some o) :
    Ensures (shared key) (Harmless key home) (fun _ _ => True) (fun _ _ => True) (r.reconcileLive o)
      s := by
  refine ensures_bind (ensures_adapt (Action.ensures_ofResult ?_))
  cases valid : o.body.validate with
  | error e => trivial
  | ok _ =>
    have same := h.sound.same o stored
    have named : home.clusterId ≠ "" := by
      rw [← same]
      exact OverlaySpec.clusterId_ne_of_validate valid
    show Ensures (shared key) (Harmless key home) _ _ (if o.hasFinalizer then _ else _) s
    split
    · refine ensures_bind (ensures_pure ?_)
      exact harmless_pass built named same live ⟨h.sound, o, stored, ‹_›⟩
    · refine ensures_bind (ensures_adapt ((harmless_addFinalizer h stored).post ?_ fun _ _ _ => trivial))
      rintro v t ⟨held, id, deleted⟩
      exact harmless_pass built named (id.trans same) (deleted.trans live) held

/-- The reconciliation of a deleted overlay takes the finalizer off when nothing exists. -/
lemma harmless_reconcileDeleted (built : operatorEngine config registry = .ok (r.engine, registry'))
    (deleted : o.isDeleted = true) (h : Guarded key home s) (stored : s.overlay? key = some o) :
    Ensures (shared key) (Harmless key home) (fun _ _ => True) (fun _ _ => True)
      (r.reconcileDeleted o) s := by
  obtain ⟨hn, hk⟩ := h.sound.place stored
  have same := h.sound.same o stored
  unfold Reconciler.reconcileDeleted
  split
  · exact ensures_pure trivial
  · split
    -- Without an identifier there was never anything to clean up.
    · have bare := h.named (same.symm.trans ‹_›)
      refine ensures_bind (ensures_adapt ?_)
      exact (harmless_removeFinalizer ⟨h, bare⟩ hn hk same).post (fun _ _ _ => ensures_pure trivial)
        fun _ _ _ => trivial
    · refine ensures_bind (ensures_adapt ?_)
      refine (harmless_deletionPass built same deleted h).post ?_ fun _ _ _ => trivial
      rintro (_ | outcome) t post
      · exact ensures_pure trivial
      · obtain ⟨guarded, bare⟩ := post outcome rfl
        dsimp only
        split
        · rename_i finishes
          have finished : outcome = .done := by
            simpa only [PassOutcome.mayRemoveFinalizer, beq_iff_eq] using finishes
          refine ensures_bind (ensures_adapt ?_)
          exact (harmless_removeFinalizer ⟨guarded, bare finished⟩ hn hk same).post
            (fun _ _ _ => ensures_pure trivial) fun _ _ _ => trivial
        · exact ensures_pure trivial

/-- Each call of a reconciliation leaves the invariant true. -/
lemma harmless_reconcile (built : operatorEngine config registry = .ok (r.engine, registry'))
    (h : Guarded key home s) (stored : s.overlay? key = some o) :
    Ensures (shared key) (Harmless key home) (fun _ _ => True) (fun _ _ => True) (r.reconcile o) s := by
  unfold Reconciler.reconcile
  split
  · exact harmless_reconcileDeleted built ‹_› h stored
  · exact harmless_reconcileLive built (Bool.eq_false_iff.2 ‹_›) h stored

end Reconciliation

/-- The services, and the reconciliation that is under way, if one is. -/
structure Activity where
  world : MemoryServices
  running : Option (Program services.withRuntime (Except ReconcileError NextLook)) := none

/-- One step around the overlay under a key. A reconciliation begins with the overlay as it is stored
and can be given up at any time, also when it has come to its end. Others work on the overlay
between reconciliations, and while one is under way. -/
inductive Activity.Step (r : Reconciler) (key : ObjectKey) : Activity → Activity → Prop where
  | meanwhile {s t : MemoryServices} : Outside key s t → Step r key ⟨s, none⟩ ⟨t, none⟩
  | start {s : MemoryServices} {o} : s.overlay? key = some o →
    Step r key ⟨s, none⟩ ⟨s, some (r.reconcile o).run⟩
  | go {s t : MemoryServices} {p q} : Program.Step (shared key) (p, s) (q, t) →
    Step r key ⟨s, some p⟩ ⟨t, some q⟩
  | stop {s : MemoryServices} {p} : Step r key ⟨s, some p⟩ ⟨s, none⟩

section Run

variable {config : SetConfig} {registry registry' : Registry} {r : Reconciler} {x y : Activity}

variable (key home) in
/-- The invariant holds, and what is under way will leave it true. -/
structure Activity.Safe (x : Activity) : Prop where
  guarded : Guarded key home x.world
  harmless {p : Program services.withRuntime (Except ReconcileError NextLook)} :
    x.running = some p → p.Ensures (shared key) (Harmless key home) (fun _ _ => True) x.world

/-- A harmless program takes no step that breaks the invariant. -/
lemma Guarded.step {α : Type} {p q : Program services.withRuntime α} {post : α → MemoryServices → Prop}
    (h : Guarded key home s) (harmless : p.Ensures (shared key) (Harmless key home) post s)
    (step : Program.Step (shared key) (p, s) (q, t)) : Guarded key home t := by
  cases step with
  | meanwhile m => exact settled_guarded.meanwhile m h
  | outside a => exact (harmless s ((shared key).refl s)).1 _ t a
  | repetitions n => exact h
  | record => exact h

lemma Activity.Safe.step (built : operatorEngine config registry = .ok (r.engine, registry'))
    (h : x.Safe key home) (step : x.Step r key y) : y.Safe key home := by
  cases step with
  | meanwhile others => exact ⟨settled_guarded _ _ others h.guarded, nofun⟩
  -- A reconciliation begins with the overlay as it is stored, so the guard holds of it.
  | @start s o stored =>
    refine ⟨h.guarded, fun e => ?_⟩
    cases e
    have reconciled := harmless_reconcile built h.guarded stored
    exact Program.Ensures.post reconciled fun _ _ _ => trivial
  | go step =>
    refine ⟨h.guarded.step (h.harmless rfl) step, fun e => ?_⟩
    cases e
    exact (h.harmless rfl).step (fun _ _ _ _ _ => trivial) step
  | stop => exact ⟨h.guarded, nofun⟩

lemma Activity.Safe.run (built : operatorEngine config registry = .ok (r.engine, registry'))
    (h : x.Safe key home) (run : Relation.ReflTransGen (Activity.Step r key) x y) :
    y.Safe key home := by
  induction run with
  | refl => exact h
  | tail _ step ih => exact ih.step built step

/-- Where nothing of a network exists, the invariant holds. -/
lemma MemoryServices.Reachable.guarded (start : s.Reachable) (stored : s.overlay? key = some home)
    (absent : s.Lacks home.networkPlaces) (noEntry : s.store.holds home.entryPath = false) :
    Guarded key home s := by
  have nothing (k : String) (covered : k = home.entryPath ∨ isBelow home.entryPath k = true) :
      s.store.get? k = none := by
    rw [← Option.not_isSome_iff_eq_none]
    intro present
    exact Bool.false_ne_true (noEntry.symm.trans (KeyTree.holds_eq_true_iff.2 ⟨k, covered, present⟩))
  have bare : Bare home s := ⟨absent, nothing _ (.inl rfl)⟩
  refine ⟨⟨start.filed, fun o e => ?_, fun text e => ?_, fun k below => nothing k (.inr below)⟩,
    .inr bare, fun _ => bare⟩
  · exact congrArg Overlay.clusterId (Option.some.inj (e.symm.trans stored))
  · exact absurd (bare.noValue.symm.trans e) nofun

/-- At every moment of a run that begins without a network, if anything of the network exists, the
overlay is stored and carries the finalizer. -/
theorem network_not_orphaned (built : operatorEngine config registry = .ok (r.engine, registry'))
    {o : Overlay} (start : s.Reachable) (stored : s.overlay? key = some o)
    (absent : s.Lacks o.networkPlaces) (noEntry : s.store.holds o.entryPath = false)
    (run : Relation.ReflTransGen (Activity.Step r key) ⟨s, none⟩ x)
    (present : (∃ p ∈ o.networkPlaces, (x.world.object? p).isSome = true) ∨
      x.world.store.holds o.entryPath = true) :
    ∃ v, x.world.overlay? key = some v ∧ v.hasFinalizer = true := by
  have safe : Activity.Safe key o ⟨s, none⟩ := ⟨start.guarded stored absent noEntry, nofun⟩
  obtain ⟨sound, held | bare, -⟩ := (safe.run built run).guarded
  · exact held
  · rcases present with ⟨p, m, there⟩ | holds
    · rw [bare.lacks p m] at there
      cases there
    · obtain ⟨k, rfl | below, there⟩ := KeyTree.holds_eq_true_iff.1 holds
      · rw [bare.noValue] at there
        cases there
      · rw [sound.leaf k below] at there
        cases there

/-- A reconciliation up to the first call that is to stop it, where it is given up. -/
lemma Activity.run_runTo (stored : s.overlay? key = some home) (stop : OperatorCall → Bool) :
    Relation.ReflTransGen (Activity.Step r key) ⟨s, none⟩
      ⟨((r.reconcile home).run.runTo answer stop s).2, none⟩ := by
  have reached : Program.Reaches (shared key) ((r.reconcile home).run, s)
      ((r.reconcile home).run.runTo answer stop s) := by
    apply Program.reaches_runTo
    exact answers_answer
  let underWay (z : Program services.withRuntime (Except ReconcileError NextLook) × MemoryServices) :
      Activity := ⟨z.2, some z.1⟩
  have steps := reached.lift underWay fun _ _ step => Activity.Step.go (r := r) step
  exact .head (.start stored) (.tail steps .stop)

/-- A run in which the creation of a network is given up before there is a daemon set. -/
theorem network_not_orphaned_interrupted :
    ∃ (r : Reconciler) (key : ObjectKey) (o : Overlay) (s : MemoryServices) (x : Activity),
      r.engine = Engine.sample ∧ s.Reachable ∧ s.overlay? key = some o ∧ o.finalizers = [] ∧
      s.Lacks o.networkPlaces ∧ s.store.holds o.entryPath = false ∧
      Relation.ReflTransGen (Activity.Step r key) ⟨s, none⟩ x ∧
      x.world.object? o.daemonSetPlace = none ∧
      (x.world.object? o.networkNamespacePlace).isSome = true ∧
      ∃ v, x.world.overlay? key = some v ∧ v.hasFinalizer = true := by
  obtain ⟨_, built⟩ := operatorEngine_sample
  let r : Reconciler := ⟨Engine.sample, ⟨"", 300, 60, 5⟩⟩
  let key : ObjectKey := .of (some "default") "a"
  let s : MemoryServices :=
    (answer (.cluster .overlays (.create (some "default") (Overlay.sample "a"))) {}).2
  let interrupted (o : Overlay) : MemoryServices :=
    ((r.reconcile o).run.runTo answer (fun c : OperatorCall => c.stores?.any (·.kind == .daemonSets)) s).2
  obtain ⟨o, stored, new, absent, noEntry, noDaemonSet, there⟩ : ∃ o, s.overlay? key = some o ∧
      o.finalizers = [] ∧ (∀ p ∈ o.networkPlaces, (s.object? p).isNone = true) ∧
      s.store.holds o.entryPath = false ∧
      ((interrupted o).object? o.daemonSetPlace).isNone = true ∧
      ((interrupted o).object? o.networkNamespacePlace).isSome = true := by
    refine ⟨(s.overlay? key).get (by decide +kernel), (Option.some_get _).symm, ?_⟩
    decide +kernel
  have start : s.Reachable := Reachable.empty.answer _
  have lacks : s.Lacks o.networkPlaces := fun p m => Option.isNone_iff_eq_none.1 (absent p m)
  have run : Relation.ReflTransGen (Activity.Step r key) ⟨s, none⟩ ⟨interrupted o, none⟩ :=
    Activity.run_runTo stored _
  have place : o.networkNamespacePlace ∈ o.networkPlaces := by simp [Overlay.networkPlaces]
  exact ⟨r, key, o, s, _, rfl, start, stored, new, lacks, noEntry, run,
    Option.isNone_iff_eq_none.1 noDaemonSet, there,
    network_not_orphaned built start stored lacks noEntry run (.inl ⟨_, place, there⟩)⟩

end Run

end TenantOverlay
