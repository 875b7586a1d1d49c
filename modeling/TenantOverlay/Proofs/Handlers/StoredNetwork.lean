import TenantOverlay.Handlers.StoredNetwork
import TenantOverlay.Proofs.Operator.Environment
import TenantOverlay.Proofs.Overlay.Naming
import TenantOverlay.Proofs.Reconcile.Handler

/-!
# What the handler of the stored network does

A deletion leaves the network's entry without a value, provided that the value, if there was one,
could be read as an entry in which something is set (`Readable`): a value that reads as the empty
entry is taken for none. A creation writes no value but the rendered entry of the overlay.
-/

namespace TenantOverlay

open Fallible MemoryServices Overlay

variable {fault : Error → Prop} {others : MemoryServices → MemoryServices → Prop} {o : Overlay}

namespace StoredNetwork

/-- The value of the network's entry, if it has one, is an entry in which something is set. -/
def Readable (o : Overlay) (t : KeyTree) : Prop :=
  ∀ text, t.get? o.entryPath = some text → ∃ e, NetworkEntry.parse text = .ok e ∧ e.isEmpty = false

/-- An entry that was found, if it is empty, says that there is no value. -/
def Found (o : Overlay) (e : NetworkEntry) (t : KeyTree) : Prop :=
  e.isEmpty = true → t.get? o.entryPath = none

/-- A search finds the value of the entry, if it has one. -/
lemma search_entryPath {t : KeyTree} {r : Result String} (h : t.search o.entryPath = r)
    {text : String} (e : t.get? o.entryPath = some text) : r = .ok text := by
  rw [← o.normalizeKey_entryPath] at e
  exact h.symm.trans (KeyTree.search_of_get? e)

/-- The entry that is found says whether there is a value, if that value is readable. -/
lemma ensures_fetch (q : Quiet fault others) {P : Prop} {s : MemoryServices}
    (h : P → Readable o s.store) :
    Ensures (environment fault others) (fun c _ => Footprint.Covers {} c)
      (fun e t => P → Found o e t.store) (fun _ t => P → Readable o t.store) (fetch o) s := by
  have settled := q.settled_store fun t => P → Readable o t
  have searched : Ensures (environment fault others) (fun c _ => Footprint.Covers {} c)
      (fun v t => (P → Readable o t.store) ∧ ∀ w, t.store.get? o.entryPath = some w → v = some w)
      (fun _ t => P → Readable o t.store)
      ((Option.some <$> OperatorAction.ofStore (.search o.entryPath)).orElseIf Error.isNotFound none)
      s := by
    refine Action.ensures_orElseIf (ensures_map (ensures_storeRequest settled h
      (fun _ _ => Footprint.covers_search) (fun t ht => ?_) fun e t he ht => ?_))
    · show Outcome _ _ (t.store.search o.entryPath) t
      cases r : t.store.search o.entryPath with
      | ok v =>
        refine ⟨ht, fun w e => ?_⟩
        cases search_entryPath r e
        rfl
      | error e =>
        show if e.isNotFound then _ else _
        split
        · exact ⟨ht, fun w e => nomatch search_entryPath r e⟩
        · exact ht
    · simp only [q.notFound he, Bool.false_eq_true, if_false]
      exact ⟨ht, ht⟩
  -- Either there is no value, or the text that was found is the value that there is.
  refine ensures_bind (searched.post ?_ fun _ _ p => p)
  rintro (_ | text) t ⟨readable, own⟩
  · refine ensures_pure fun _ _ => ?_
    cases e : t.store.get? o.entryPath with
    | none => rfl
    | some w => exact nomatch own w e
  · refine Action.ensures_ofResult ?_
    cases parsed : NetworkEntry.parse text with
    | error e => exact readable
    | ok entry =>
      intro p empty
      cases e : t.store.get? o.entryPath with
      | none => rfl
      | some w =>
        cases own w e
        obtain ⟨entry', parsed', set⟩ := readable p text e
        cases parsed.symm.trans parsed'
        exact nomatch empty.symm.trans set

/-- The network's key is cleared together with the entry below it. -/
lemma ensures_clear (q : Quiet fault others) {f : Footprint} {s : MemoryServices} :
    Ensures (environment fault others) (fun c _ => f.Covers c)
      (fun _ t => t.store.get? o.entryPath = none) (fun _ _ => True) (clear o) s := by
  have cleared (t : MemoryServices) :
      (t.answer (.store (.delete o.storePath))).2.store.get? o.entryPath = none :=
    KeyTree.get?_answer_delete (.inr o.isBelow_entryPath)
  refine Action.ensures_orElseIf (ensures_storeRequest (r := .delete o.storePath) settled_true trivial
    (fun _ _ => Footprint.covers_clear) (fun t _ => ?_) fun e t he _ => ?_)
  · have gone := cleared t
    cases (t.answer (.store (.delete o.storePath))).1 with
    | ok _ => exact gone
    | error e =>
      show if e.isNotFound then _ else True
      split
      · exact gone
      · trivial
  · simp only [q.notFound he, Bool.false_eq_true, if_false, and_self]

/-- What a creation may change. -/
def creation (o : Overlay) : Footprint := { writes := [(o.entryPath, o.networkEntry.render)] }

lemma ensures_write {s : MemoryServices} :
    Ensures (environment fault others) (fun c _ => (creation o).Covers c) (fun _ _ => True)
      (fun _ _ => True) (write o o.networkEntry) s := by
  have covered : (creation o).Covers (.store (.create o.entryPath o.networkEntry.render)) := by
    refine Footprint.covers_write ?_
    rw [o.normalizeKey_entryPath]
    exact List.mem_cons_self
  refine Action.ensures_orElseIf (ensures_storeRequest
    (r := .create o.entryPath o.networkEntry.render) settled_true trivial (fun _ _ => covered)
    (fun t _ => ?_) fun e t _ _ => ?_)
  · cases (t.answer (.store (.create o.entryPath o.networkEntry.render))).1 with
    | ok _ => trivial
    | error e =>
      show if e.isAlreadyExists then True else True
      simp only [ite_self]
  · simp only [ite_self, and_self]

/-- What is written is the entry that is asked for. -/
lemma updatePatch_entry {current desired e : NetworkEntry}
    (h : (updatePatch current desired).create = some e ∨
      (updatePatch current desired).update = some e) : e = desired := by
  unfold updatePatch at h
  split at h
  · split at h
    · simp at h
    · simpa [eq_comm] using h
  · split at h
    · simp at h
    · simpa [eq_comm] using h

end StoredNetwork

open StoredNetwork

/-- A deletion leaves the entry without a value, if the one it had was readable. -/
theorem storedNetwork_deletes (q : Quiet fault others) (o : Overlay) (P : Prop) :
    storedNetworkResource.Deletes (environment fault others) (fun c _ => Footprint.Covers {} c) o
      (fun s => P → Readable o s.store) (fun e s => P → Found o e s.store)
      (fun s => P → s.store.get? o.entryPath = none) where
  current s h := by
    refine ensures_bind ((ensures_fetch q h).post ?_ fun _ _ p => p)
    intro e t found
    refine ensures_pure fun w eq => ?_
    cases eq
    exact found
  desired v s h := ensures_pure h
  patch v d s h := by
    refine ensures_pure ⟨fun e p => ?_, fun w e => ?_⟩
    · exact h p (@Patch.remove_delete_eq_none NetworkEntry _ v e)
    · obtain rfl := @Patch.remove_delete_eq_some NetworkEntry _ v w e
      exact h
  delete v s h := by
    have kept : (environment fault others).Keeps (fun c _ => Footprint.Covers {} c)
        fun s => P → Found o v s.store := ((q.keeps_noValue rfl).imp _).imp P
    refine ensures_bind (((ensures_clear q).carry kept h).post ?_ fun _ _ p => p.2)
    exact fun _ t gone => ensures_pure fun _ _ => gone.1

/-- Creation and update write the entry of the overlay and nothing else. -/
theorem storedNetwork_creates (q : Quiet fault others) (o : Overlay) :
    storedNetworkResource.Creates (environment fault others) (fun c _ => (creation o).Covers c) o
      (fun _ => True) (fun _ _ => True)
      (fun p _ => ∀ e, p.create = some e ∨ p.update = some e → e = o.networkEntry)
      (fun p _ => ∀ e, p.update = some e → e = o.networkEntry) (fun _ => True) where
  current s _ := by
    have fetched := ensures_fetch (o := o) (s := s) q (P := False) nofun
    refine ensures_bind ((fetched.allow fun _ _ => Footprint.Covers.of_empty).post ?_ ?_)
    · exact fun e t _ => ensures_pure fun _ _ => trivial
    · exact fun _ _ _ => trivial
  desired v s _ := by
    refine ensures_pure (ensures_pure fun e h => ?_)
    exact updatePatch_entry h
  nothingToCreate p s h _ := fun e u => h e (.inr u)
  create p w s h e := by
    obtain rfl := h w (.inl e)
    refine ensures_bind (ensures_write.post ?_ fun _ _ _ => h)
    exact fun _ t _ => ensures_pure fun _ e u => h e (.inr u)
  nothingToUpdate _ _ _ _ := trivial
  update p w s h e := by
    obtain rfl := h w e
    refine ensures_bind ((ensures_clear q).post ?_ fun _ _ _ => h)
    intro _ t _
    refine ensures_bind (ensures_write.post ?_ fun _ _ _ => h)
    exact fun _ t _ => ensures_pure fun _ => trivial

end TenantOverlay
