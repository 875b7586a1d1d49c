import TenantOverlay.Handlers.Daemon
import TenantOverlay.Proofs.Operator.Environment
import TenantOverlay.Proofs.Overlay.Naming
import TenantOverlay.Proofs.Reconcile.Handler

/-!
# What the handler of flannel's daemon does

A deletion takes the daemon set away. After creation and update there is one that needs no update
(`Daemon.Current`): a replacement writes the wanted one whatever it finds, and a creation is only
made when nothing was found.
-/

namespace TenantOverlay

open Fallible MemoryServices Overlay

variable {fault : Error → Prop} {others : MemoryServices → MemoryServices → Prop} {o : Overlay}
  {s : MemoryServices}

namespace Daemon

/-- What a deletion may change. -/
def deletion (o : Overlay) : Footprint := { deletes := [o.daemonSetPlace] }

/-- What a creation may change. -/
def creation (o : Overlay) : Footprint := { stores := [o.daemonSetPlace] }

/-- There is a daemon set, and it is as the wanted one in all that is compared. -/
def Current (o : Overlay) (wanted : DaemonSet) (s : MemoryServices) : Prop :=
  ∃ d : DaemonSet, s.object? o.daemonSetPlace = some d ∧ needsUpdate d wanted = false

/-- If there is a daemon set, it is as the wanted one. -/
def NotOutdated (o : Overlay) (wanted : DaemonSet) (s : MemoryServices) : Prop :=
  ∀ d : DaemonSet, s.object? o.daemonSetPlace = some d → needsUpdate d wanted = false

/-- The daemon set is to be created or replaced, or it is as it is wanted. -/
def Planned (o : Overlay) (wanted : DaemonSet) (p : Patch (Option DaemonSet)) (s : MemoryServices) :
    Prop :=
  (p.create = some (some wanted) ∧ p.update = none ∧ NotOutdated o wanted s) ∨
    (p.create = none ∧ p.update = some (some wanted)) ∨
    (p.create = none ∧ p.update = none ∧ Current o wanted s)

/-- The daemon set is to be replaced, or it is as it is wanted. -/
def Made (o : Overlay) (wanted : DaemonSet) (p : Patch (Option DaemonSet)) (s : MemoryServices) :
    Prop :=
  p.update = some (some wanted) ∨ (p.update = none ∧ Current o wanted s)

lemma needsUpdate_self (d : DaemonSet) : needsUpdate d d = false := by
  simp [needsUpdate]

/-- What finds out whether the daemon is in use changes nothing. -/
lemma ensures_inUse {f : Footprint} :
    Ensures (environment fault others) (fun c _ => f.Covers c) (fun _ _ => True) (fun _ _ => True)
      (inUse o) s := by
  unfold inUse
  split
  · refine ensures_bind ((ensures_list settled_true trivial fun _ _ => Footprint.covers_list).post
      ?_ fun _ _ _ => trivial)
    exact fun _ _ _ => ensures_pure trivial
  · exact ensures_pure trivial

lemma ensures_found {f : Footprint} :
    Ensures (environment fault others) (fun c _ => f.Covers c)
      (fun v t => t.object? o.daemonSetPlace = v) (fun _ _ => True) (Daemon.get o) s := by
  have found : Ensures (environment fault others) (fun c _ => f.Covers c) _ _
      (Kind.get .daemonSets (some o.networkNamespace) networkApp) s :=
    ensures_get settled_true trivial fun _ _ => Footprint.covers_get
  exact found.post (fun _ _ p => p.1.symm) fun _ _ _ => trivial

/-- To count a generation changes nothing, and does not fail. -/
lemma ensures_recordGeneration {σ : Type} {env : Environment services σ}
    {allowed : OperatorCall → σ → Prop} {counted : Bool} {d : DaemonSet} {P : σ → Prop} {s : σ}
    (h : P s) :
    Ensures env allowed (fun _ => P) (fun _ _ => False) (recordGeneration counted d) s := by
  unfold recordGeneration
  split
  · exact Action.ensures_record h
  · exact ensures_pure h

lemma callsOnly_recordGeneration {σ : Type} {env : Environment services σ} {allowed : OperatorCall → Prop}
    {counted : Bool} {d : DaemonSet} : CallsOnly env allowed (recordGeneration counted d) := fun _ =>
  (ensures_recordGeneration (P := fun _ => True) trivial).post (fun _ _ p => p) fun _ _ => False.elim

/-- What is wanted is known without a call: nothing of a deleted overlay, and of a living one the daemon
set that it asks for. -/
lemma ensures_desired {σ : Type} {env : Environment services σ} {allowed : OperatorCall → σ → Prop}
    {config : DaemonConfig} {own : Version} {counted : Bool} {ok : Option DaemonSet → σ → Prop}
    {fail : Error → σ → Prop} {s : σ} (gone : o.isDeleted = true → ok none s)
    (wanted : ∀ d, o.isDeleted = false → o.daemonSet config = .ok d → ok (some d) s)
    (failed : ∀ e, fail e s) :
    Ensures env allowed ok fail ((daemonResource config own counted).desired o) s := by
  show Ensures _ _ _ _ (if o.isDeleted then _ else _) s
  split
  · exact ensures_pure (gone ‹_›)
  · have live := Bool.eq_false_iff.2 ‹_›
    refine ensures_bind (Action.ensures_ofResult ?_)
    cases e : o.daemonSet config with
    | ok d => exact ensures_pure (wanted d live e)
    | error err => exact failed err

/-- What is to be created or replaced is what is wanted. -/
lemma eq_of_updatePatch {v d w : Option DaemonSet}
    (e : (updatePatch v d).create = some w ∨ (updatePatch v d).update = some w) : w = d := by
  unfold updatePatch at e
  split at e
  · obtain e | e := e
    · cases e
      rfl
    · cases e
  · split at e
    · obtain e | e := e
      · cases e
      · cases e
        rfl
    · obtain e | e := e
      · cases e
      · cases e
  · obtain e | e := e
    · cases e
    · cases e

/-- The daemon set that is found is the one that there is. -/
lemma ensures_current {f : Footprint} {own : Version} {counted : Bool} :
    Ensures (environment fault others) (fun c _ => f.Covers c)
      (fun r t => ∀ v, r = .continue v → t.object? o.daemonSetPlace = v) (fun _ _ => True)
      (current own counted o) s := by
  refine ensures_bind (ensures_inUse.post ?_ fun _ _ _ => trivial)
  intro used t _
  cases used with
  | true =>
    refine ensures_pure fun v eq => ?_
    cases eq
  | false =>
    refine ensures_bind (ensures_found.post ?_ fun _ _ _ => trivial)
    intro v t found
    cases v with
    | none =>
      refine ensures_pure fun w eq => ?_
      cases eq
      exact found
    | some d =>
      refine ensures_bind ((ensures_recordGeneration
        (P := fun t => t.object? o.daemonSetPlace = some d) found).post ?_ fun _ _ _ => trivial)
      intro _ t found
      refine ensures_pure fun w eq => ?_
      split at eq
      · cases eq
      · cases eq
        exact found

lemma ensures_create (q : Quiet fault others) {d wanted : DaemonSet}
    (hd : d.metadata.name = some networkApp) (hw : needsUpdate d wanted = false)
    (h : NotOutdated o wanted s) :
    Ensures (environment fault others) (fun c _ => (creation o).Covers c)
      (fun _ => Current o wanted) (fun _ => NotOutdated o wanted) (Daemon.create o d) s := by
  have created : Ensures (environment fault others) (fun c _ => (creation o).Covers c)
      (fun _ => Current o wanted) (fun _ => NotOutdated o wanted)
      (Kind.createIfMissing .daemonSets (some o.networkNamespace) d) s :=
    ensures_createIfMissing (q.settled_object o.daemonSetPlace
        (fun v => ∀ d, v = some d → needsUpdate d wanted = false) rfl)
      (fun _ => q.alreadyExists) hd (fun _ => hw)
      (fun _ => Footprint.covers_create hd List.mem_cons_self) h
  exact ensures_bind (created.post (fun _ _ is => ensures_pure is) fun _ _ p => p)

/-- A replacement writes what is wanted, whatever it finds. -/
lemma ensures_update (q : Quiet fault others) {d wanted : DaemonSet}
    (hd : d.metadata.name = some networkApp) (hw : needsUpdate d wanted = false) :
    Ensures (environment fault others) (fun c _ => (creation o).Covers c)
      (fun _ => Current o wanted) (fun _ _ => True) (Daemon.update o d) s := by
  refine ensures_bind (ensures_found.post ?_ fun _ _ _ => trivial)
  intro v t found
  cases v with
  -- There is nothing to replace any more.
  | none =>
    refine (ensures_create q hd hw ?_).post (fun _ _ p => p) fun _ _ _ => trivial
    intro d e
    exact nomatch found.symm.trans e
  | some existing =>
    have covered : (creation o).Covers (.cluster .daemonSets (.replace (some o.networkNamespace)
        { d with metadata := { d.metadata with
            resourceVersion := existing.metadata.resourceVersion } })) :=
      Footprint.covers_replace hd List.mem_cons_self
    refine ensures_bind ((ensures_replace hd fun _ => covered).post ?_ fun _ _ _ => trivial)
    rintro _ t ⟨stored, table, rfl⟩
    exact ensures_pure ⟨_, stored, hw⟩

end Daemon

open Daemon

/-- A deletion takes the daemon set away. -/
theorem daemon_deletes (q : Quiet fault others) (config : DaemonConfig) (own : Version)
    (counted : Bool) (o : Overlay) :
    (daemonResource config own counted).Deletes (environment fault others)
      (fun c _ => (Daemon.deletion o).Covers c) o (fun _ => True)
      (fun v s => v = none → s.Lacks [o.daemonSetPlace])
      (fun s => s.Lacks [o.daemonSetPlace]) where
  current s _ := by
    refine ensures_current.post (fun f t found v e none p m => ?_) fun _ _ _ => trivial
    obtain rfl := List.mem_singleton.1 m
    exact none ▸ found v e
  desired v s h := ensures_desired (fun _ => h) (fun _ _ _ => h) fun _ => h
  patch v d s h := by
    refine ensures_pure ⟨fun e => ?_, fun w e => ?_⟩
    · exact h (Option.isNone_iff_eq_none.1 (@Patch.remove_delete_eq_none (Option DaemonSet) _ v e))
    · obtain rfl := @Patch.remove_delete_eq_some (Option DaemonSet) _ v w e
      exact h
  delete v s h := by
    have kept := ((q.keeps_lacks (f := Daemon.deletion o) [o.daemonSetPlace]
      (by simp [Kind.isOfNetwork]) fun _ _ => List.not_mem_nil).imp (v = none))
    have deleted : Ensures (environment fault others) (fun c _ => (Daemon.deletion o).Covers c) _ _
        (Kind.deleteIfExists .daemonSets (some o.networkNamespace) networkApp) s :=
      ensures_deleteIfExists (fun _ => q.notFound) fun _ => Footprint.covers_delete List.mem_cons_self
    refine ensures_bind ((deleted.carry kept h).post ?_ fun _ _ p => p.2)
    rintro _ t ⟨gone, -⟩
    refine ensures_pure fun _ p m => ?_
    obtain rfl := List.mem_singleton.1 m
    exact gone

lemma daemonSet_name {config : DaemonConfig} {d : DaemonSet} (h : o.daemonSet config = .ok d) :
    d.metadata.name = some networkApp := by
  obtain ⟨port, -, e⟩ := Result.bind_eq_ok_iff.1 h
  cases e
  rfl

/-- A generation records itself on its daemon set. -/
lemma Daemon.recordedVersion?_daemonSet {config : DaemonConfig} {d : DaemonSet}
    (h : o.daemonSet config = .ok d) : recordedVersion? d = some config.bundleVersion := by
  obtain ⟨port, -, e⟩ := Result.bind_eq_ok_iff.1 h
  cases e
  show (SortedMap.insert .empty versionMark config.bundleVersion).get? versionMark = _
  rw [SortedMap.get?_insert, if_pos rfl]

/-- When a daemon set has been found, or none has, the patch says what there is to do. -/
lemma planned {v : Option DaemonSet} {d : DaemonSet} (h : s.object? o.daemonSetPlace = v) :
    Planned o d (updatePatch v (some d)) s := by
  cases v with
  | none => exact .inl ⟨rfl, rfl, fun d e => nomatch h.symm.trans e⟩
  | some c =>
    cases e : needsUpdate c d with
    | true =>
      refine .inr (.inl ⟨?_, ?_⟩)
      · simp only [updatePatch, e, if_true]
      · simp only [updatePatch, e, if_true]
    | false =>
      refine .inr (.inr ⟨?_, ?_, c, h, e⟩)
      · simp only [updatePatch, e, Bool.false_eq_true, if_false]
      · simp only [updatePatch, e, Bool.false_eq_true, if_false]

/-- After creation and update the daemon set needs no update. -/
theorem daemon_creates (q : Quiet fault others) (config : DaemonConfig) (own : Version)
    (counted : Bool) (o : Overlay) (live : o.isDeleted = false) :
    (daemonResource config own counted).Creates (environment fault others)
      (fun c _ => (Daemon.creation o).Covers c) o (fun _ => True)
      (fun v s => s.object? o.daemonSetPlace = v)
      (fun p s => ∃ d, o.daemonSet config = .ok d ∧ Planned o d p s)
      (fun p s => ∃ d, o.daemonSet config = .ok d ∧ Made o d p s)
      (fun s => ∃ d, o.daemonSet config = .ok d ∧ Current o d s) where
  current s _ := ensures_current
  desired v s h := by
    refine ensures_desired (fun gone => ?_) (fun d _ e => ?_) fun _ => h
    · cases live.symm.trans gone
    · exact ensures_pure ⟨d, e, planned h⟩
  nothingToCreate p s h e := by
    obtain ⟨d, hd, ⟨create, -⟩ | ⟨-, update⟩ | ⟨-, is⟩⟩ := h
    · exact nomatch create.symm.trans e
    · exact ⟨d, hd, .inl update⟩
    · exact ⟨d, hd, .inr is⟩
  create p w s h e := by
    obtain ⟨d, hd, ⟨create, noUpdate, fresh⟩ | ⟨noCreate, -⟩ | ⟨noCreate, -⟩⟩ := h
    · cases create.symm.trans e
      refine ensures_bind ((ensures_create q (daemonSet_name hd) (needsUpdate_self d) fresh).post ?_ ?_)
      · exact fun _ t is => ensures_pure fun _ => ⟨d, hd, .inr ⟨noUpdate, is⟩⟩
      · exact fun _ t fresh => ⟨d, hd, .inl ⟨create, noUpdate, fresh⟩⟩
    · exact nomatch noCreate.symm.trans e
    · exact nomatch noCreate.symm.trans e
  nothingToUpdate p s h e := by
    obtain ⟨d, hd, update | ⟨-, is⟩⟩ := h
    · exact nomatch update.symm.trans e
    · exact ⟨d, hd, is⟩
  update p w s h e := by
    obtain ⟨d, hd, update | ⟨noUpdate, -⟩⟩ := h
    · cases update.symm.trans e
      refine ensures_bind ((ensures_update q (daemonSet_name hd) (needsUpdate_self d)).post ?_ ?_)
      · exact fun _ t is => ensures_pure fun _ => ⟨d, hd, is⟩
      · exact fun _ t _ => ⟨d, hd, .inl update⟩
    · exact nomatch noUpdate.symm.trans e

end TenantOverlay
