import TenantOverlay.Handlers.Cleanup
import TenantOverlay.Proofs.Operator.Environment
import TenantOverlay.Proofs.Overlay.Naming
import TenantOverlay.Proofs.Reconcile.Handler

/-!
# What the handler of the account and the cleanup does

A cleanup that goes on has taken away what it made, except for what goes with its namespace, and the
account of the network (`cleanup_deletes`). While the overlay lives the account is there
(`cleanup_creates`).
-/

namespace TenantOverlay

open Fallible MemoryServices Overlay

variable {fault : Error → Prop} {others : MemoryServices → MemoryServices → Prop} {o : Overlay}
  {s : MemoryServices}

namespace Cleanup

/-- What the removal at the end of a cleanup may change. -/
def removal (o : Overlay) : Footprint where
  deletes := o.cleanupPlaces ++ [o.accountPlace o.networkNamespace]

/-- What a cleanup may change. -/
def deletion (o : Overlay) : Footprint where
  stores := o.cleanupPlaces ++ o.jobPlaces
  deletes := o.cleanupPlaces ++ [o.accountPlace o.networkNamespace]

/-- What a creation may change. -/
def creation (o : Overlay) : Footprint := { stores := [o.accountPlace o.networkNamespace] }

/-- After the removal there is nothing left. -/
lemma ensures_removeAll (q : Quiet fault others) :
    Ensures (environment fault others) (fun c _ => (removal o).Covers c)
      (fun _ t => t.Lacks (o.cleanupPlaces ++ [o.accountPlace o.networkNamespace]))
      (fun _ _ => True) (removeAll o) s := by
  have before : s.Lacks [] := fun _ m => absurd m List.not_mem_nil
  refine ensures_bind ((q.ensures_deleteNext (by simp) rfl ?_ before).post ?_ fun _ _ _ => trivial)
  · simp [removal, cleanupPlaces]
  intro _ t gone
  refine ensures_bind ((q.ensures_deleteNext (by simp [Kind.isOfNetwork]) rfl ?_ gone).post ?_
    fun _ _ _ => trivial)
  · simp [removal, cleanupPlaces]
  intro _ t gone
  refine ensures_bind ((q.ensures_deleteNext (by simp [Kind.isOfNetwork]) rfl ?_ gone).post ?_
    fun _ _ _ => trivial)
  · simp [removal, cleanupPlaces]
  intro _ t gone
  refine ensures_bind ((q.ensures_deleteNext (by simp [Kind.isOfNetwork]) rfl ?_ gone).post ?_
    fun _ _ _ => trivial)
  · simp [removal, cleanupPlaces]
  exact fun _ t gone => ensures_pure gone

/-- An operation only has to stay within its footprint. -/
abbrev Stays (fault : Error → Prop) (others : MemoryServices → MemoryServices → Prop)
    (f : Footprint) {α : Type} (a : OperatorAction α) (s : MemoryServices) : Prop :=
  Ensures (environment fault others) (fun c _ => f.Covers c) (fun _ _ => True) (fun _ _ => True) a s

lemma Stays.bind {f : Footprint} {α β : Type} {a : OperatorAction α} {b : α → OperatorAction β}
    {ok : β → MemoryServices → Prop} (ha : Stays fault others f a s)
    (hb : ∀ x t, Ensures (environment fault others) (fun c _ => f.Covers c) ok (fun _ _ => True)
      (b x) t) :
    Ensures (environment fault others) (fun c _ => f.Covers c) ok (fun _ _ => True) (a >>= b) s :=
  ensures_bind (ha.post (fun x t _ => hb x t) fun _ _ _ => trivial)

lemma stays_get {f : Footprint} {k : Kind} {ns : Option String} {name : String} :
    Stays fault others f (k.get ns name) s :=
  (ensures_get settled_true trivial fun _ _ => Footprint.covers_get).post (fun _ _ _ => trivial)
    fun _ _ _ => trivial

lemma stays_list {f : Footprint} {k : Kind} {ns selector : Option String} :
    Stays fault others f (k.list ns selector) s :=
  ensures_list settled_true trivial fun _ _ => Footprint.covers_list

lemma stays_create (q : Quiet fault others) {f : Footprint} {k : Kind} {ns : Option String}
    {v : k.Object} {name : String} (hn : v.metadata.name = some name)
    (h : ⟨k, .of ns name⟩ ∈ f.stores) : Stays fault others f (k.createIfMissing ns v) s := by
  have created : Ensures (environment fault others) (fun c _ => f.Covers c) _ _
      (k.createIfMissing ns v) s :=
    ensures_createIfMissing (fun _ _ _ _ _ _ => trivial) (fun _ => q.alreadyExists) hn
      (fun _ => trivial) (fun _ => Footprint.covers_create hn h) fun _ _ => trivial
  exact created.post (fun _ _ _ => trivial) fun _ _ _ => trivial

lemma stays_prepareNamespace (q : Quiet fault others) :
    Stays fault others (deletion o) (prepareNamespace o) s := by
  refine Stays.bind stays_get fun v t => ?_
  cases v with
  | some n => exact ensures_pure trivial
  | none =>
    refine Stays.bind (stays_create q rfl ?_) fun _ _ => ensures_pure trivial
    simp [deletion, cleanupPlaces]

lemma stays_createBindings (q : Quiet fault others) {bindings : List RoleBinding}
    (h : ∀ b ∈ bindings, ∃ name, b.metadata.name = some name ∧
      bindingPlace name ∈ (deletion o).stores) :
    Stays fault others (deletion o) (createBindings bindings) s := by
  induction bindings generalizing s with
  | nil => exact ensures_pure trivial
  | cons b rest ih =>
    obtain ⟨name, hn, mem⟩ := h b List.mem_cons_self
    exact Stays.bind (stays_create q hn mem) fun _ _ => ih fun b m => h b (List.mem_cons_of_mem _ m)

lemma stays_checkJob {hosts : Int} : Stays fault others (deletion o) (checkJob o hosts) s := by
  refine Stays.bind stays_get fun v t => ?_
  cases v with
  | none => exact ensures_throw trivial
  | some job =>
    dsimp only
    split
    · exact ensures_throw trivial
    · exact ensures_pure trivial

lemma stays_runJob (q : Quiet fault others) {policy : BackoffPolicy} :
    Stays fault others (deletion o) (runJob policy o) s := by
  refine Stays.bind stays_get fun v t => ?_
  cases v with
  | some job => exact ensures_pure trivial
  | none =>
    dsimp only
    refine Stays.bind ?_ ?_
    · exact stays_list
    refine fun nodes t => ?_
    generalize schedulableNodes nodes = hosts
    by_cases h : hosts ≠ 0
    · rw [if_pos h]
      refine Stays.bind (stays_create q rfl ?_) fun _ t => ?_
      · simp [deletion, jobPlaces]
      -- Waiting for the job only looks at it.
      refine Stays.bind ?_ fun _ _ => ensures_pure trivial
      exact Action.ensures_retry (fun _ _ => stays_checkJob) trivial
    · rw [if_neg h]
      exact ensures_pure trivial

/-- A cleanup that goes on leaves nothing behind. -/
lemma ensures_teardown (q : Quiet fault others) {policy : BackoffPolicy} :
    Ensures (environment fault others) (fun c _ => (deletion o).Covers c)
      (fun f t => f = .continue () →
        t.Lacks (o.cleanupPlaces ++ [o.accountPlace o.networkNamespace]))
      (fun _ _ => True) (teardown policy o) s := by
  refine Stays.bind stays_list fun pods t => ?_
  split
  · exact ensures_pure nofun
  refine Stays.bind (stays_prepareNamespace q) fun terminating t => ?_
  split
  · exact ensures_pure nofun
  refine Stays.bind (stays_createBindings q ?_) fun _ t => ?_
  · simp [deletionBindings, bindingManifest, deletion, cleanupPlaces]
  refine Stays.bind (stays_create q rfl ?_) fun _ t => ?_
  · simp [deletion, jobPlaces]
  refine Stays.bind (stays_runJob q) fun complete t => ?_
  split
  · exact ensures_pure nofun
  have within : (removal o).Within (deletion o) :=
    ⟨List.nil_subset _, List.Subset.refl _, List.Subset.refl _⟩
  refine ensures_bind (((ensures_removeAll q).allow fun _ _ h => h.within within).post ?_
    fun _ _ _ => trivial)
  exact fun _ t gone => ensures_pure fun _ => gone

end Cleanup

open Cleanup

/-- A deletion takes away what the cleanup made and the account of the network. -/
theorem cleanup_deletes (q : Quiet fault others) (o : Overlay) (policy : BackoffPolicy) :
    (cleanupResource policy).Deletes (environment fault others)
      (fun c _ => (Cleanup.deletion o).Covers c) o (fun _ => True) (fun _ _ => True)
      (fun s => s.Lacks (o.cleanupPlaces ++ [o.accountPlace o.networkNamespace])) where
  current s _ := by
    refine Stays.bind stays_get fun v t => ensures_pure fun _ _ => trivial
  desired v s _ := ensures_pure trivial
  patch v d s _ := ensures_pure ⟨nofun, fun _ _ => trivial⟩
  delete v s _ := ensures_teardown q

/-- Creation leaves an account for the network. -/
theorem cleanup_creates (q : Quiet fault others) (o : Overlay) (policy : BackoffPolicy) :
    (cleanupResource policy).Creates (environment fault others)
      (fun c _ => (Cleanup.creation o).Covers c) o (fun _ => True)
      (fun v s => s.object? (o.accountPlace o.networkNamespace) = v)
      (fun p s => p.update = none ∧
        (p.create = some (some (o.accountManifest o.networkNamespace)) ∨
          (p.create = none ∧ (s.object? (o.accountPlace o.networkNamespace)).isSome = true)))
      (fun p s => p.update = none ∧ (s.object? (o.accountPlace o.networkNamespace)).isSome = true)
      (fun s => (s.object? (o.accountPlace o.networkNamespace)).isSome = true) where
  current s _ := by
    refine ensures_bind ((ensures_get settled_true trivial fun _ _ => Footprint.covers_get).post ?_
      fun _ _ _ => trivial)
    rintro v t ⟨e, -⟩
    refine ensures_pure fun w eq => ?_
    cases eq
    exact e.symm
  desired v s h := by
    refine ensures_pure (ensures_pure ?_)
    cases v with
    | none => exact ⟨rfl, .inl rfl⟩
    | some a => exact ⟨rfl, .inr ⟨rfl, h ▸ rfl⟩⟩
  nothingToCreate p s h e := by
    obtain ⟨noUpdate, create | ⟨-, is⟩⟩ := h
    · exact nomatch create.symm.trans e
    · exact ⟨noUpdate, is⟩
  create p w s h e := by
    obtain ⟨noUpdate, create | ⟨noCreate, -⟩⟩ := h
    · cases create.symm.trans e
      have created : Ensures (environment fault others)
          (fun c _ => (Cleanup.creation o).Covers c) _ _
          (Kind.createIfMissing .serviceAccounts (some o.networkNamespace)
            (o.accountManifest o.networkNamespace)) s :=
        ensures_createIfMissing (fun _ _ _ _ _ _ => trivial) (fun _ => q.alreadyExists) rfl
          (fun _ => trivial) (fun _ => Footprint.covers_create rfl List.mem_cons_self)
          fun _ _ => trivial
      refine ensures_bind (created.post ?_ fun _ _ _ => ⟨noUpdate, .inl create⟩)
      rintro _ t ⟨v, e, -⟩
      exact ensures_pure fun _ => ⟨noUpdate, e ▸ rfl⟩
    · exact nomatch noCreate.symm.trans e
  nothingToUpdate p s h _ := h.2
  update p w s h e := nomatch h.1.symm.trans e

end TenantOverlay
