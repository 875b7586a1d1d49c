import TenantOverlay.Handlers.Cleanup
import TenantOverlay.Proofs.Handlers.Daemon
import TenantOverlay.Proofs.Handlers.NetworkNamespace
import TenantOverlay.Proofs.Handlers.RoleBindings
import TenantOverlay.Proofs.Handlers.StoredEntry

/-!
# Changes that are interrupted and repeated

Carrying out a change of a patch that a resource has computed has `Effects` that depend on the payload
alone, and every failure interrupts these effects (`Resource.Resumes`). So a repeated operation comes to
what it comes to without failures, however often it was cut off and whether or not the calls that
failed had done their work (`retried_change_agrees`). The versions of objects count the attempts; all
else is the same.
-/

namespace TenantOverlay

open Fallible MemoryServices Overlay

/-- The slots of a patch, one for each kind of change. -/
inductive Slot where
  | create
  | update
  | delete
  deriving DecidableEq, Repr

def Patch.slot {State : Type} (p : Patch State) : Slot → Option State
  | .create => p.create
  | .update => p.update
  | .delete => p.delete

/-- What exists is deleted, and nothing else is done. -/
lemma Patch.slot_remove {State : Type} [ResourceState State] {slot : Slot} {v w : State}
    (h : (Patch.remove v).slot slot = some w) : slot = .delete := by
  unfold Patch.remove at h
  cases slot with
  | delete => rfl
  | create | update =>
    split at h
    · cases h
    · cases h

namespace Resource

section Plans

variable {S : Signature} {O : Type}

/-- The operation that makes the change of a slot. -/
def change (r : Resource S O) : Slot → O → r.State → Action S (Flow Unit)
  | .create => r.create
  | .update => r.update
  | .delete => r.delete

lemma change_repeated (r : Resource S O) (policy : BackoffPolicy) (slot : Slot) (o : O)
    (w : r.State) : (r.repeated policy).change slot o w = (r.change slot o w).retry policy := by
  cases slot <;> rfl

/-- The patch for an object that lives or is deleted. -/
def patch (r : Resource S O) (deleting : Bool) (o : O) (current desired : r.State) :
    Action S (Patch r.State) :=
  if deleting then r.deletePatch o current desired else r.updatePatch o current desired

/-- What has to be done about an object: the patch from its current to its desired state. -/
def plan (r : Resource S O) (deleting : Bool) (o : O) : Action S (Flow (Patch r.State)) := do
  match ← r.current o with
  | .cancel => return .cancel
  | .keepFinalizer => return .keepFinalizer
  | .continue current =>
    let desired ← r.desired o
    return .continue (← r.patch deleting o current desired)

end Plans

variable {r : Resource services Overlay} {slot : Slot} {o : Overlay}

/-- What the resource computes in a state. -/
def Plans (r : Resource services Overlay) (deleting : Bool) (o : Overlay) (s : MemoryServices)
    (p : Patch r.State) : Prop :=
  ∃ t, Program.Reaches reliable ((r.plan deleting o).run, s) (.done (.ok (.continue p)), t)

/-- Patches that a resource computes have payloads of some kind in a slot, and carrying out such a
payload has effects that depend on it alone, whatever fails. -/
structure Resumes (r : Resource services Overlay) (slot : Slot) (o : Overlay)
    (payload : r.State → Prop) (effects : r.State → Effects) : Prop where
  planned (deleting : Bool) (s : MemoryServices) : Ensures reliable (fun _ _ => True)
    (fun f _ => ∀ p, f = .continue p → ∀ w, p.slot slot = some w → payload w) (fun _ _ => True)
    (r.plan deleting o) s
  makes (w : r.State) : payload w → ∀ fault : Error → Prop, (∀ e, fault e → e.IsSilent) →
    Makes fault (effects w) (· = .proceed) (r.change slot o w)

/-- Where every payload will do, nothing has to be known of the patches. -/
lemma Resumes.of_makes {effects : r.State → Effects}
    (h : ∀ (w : r.State) (fault : Error → Prop), (∀ e, fault e → e.IsSilent) →
      Makes fault (effects w) (· = .proceed) (r.change slot o w)) :
    r.Resumes slot o (fun _ => True) effects where
  planned _ _ := ensures_anything.post (fun _ _ _ _ _ _ _ => trivial) fun _ _ _ => trivial
  makes w _ := h w

/-- Payloads come from the desired state by way of a patch. -/
lemma ensures_plan {D P : r.State → Prop}
    (desired : ∀ t, Ensures reliable (fun _ _ => True) (fun d _ => D d) (fun _ _ => True)
      (r.desired o) t)
    (update : ∀ v d t, D d → Ensures reliable (fun _ _ => True)
      (fun p _ => ∀ w, p.slot slot = some w → P w) (fun _ _ => True) (r.updatePatch o v d) t)
    (delete : ∀ v d t, Ensures reliable (fun _ _ => True)
      (fun p _ => ∀ w, p.slot slot = some w → P w) (fun _ _ => True) (r.deletePatch o v d) t)
    (deleting : Bool) (s : MemoryServices) :
    Ensures reliable (fun _ _ => True)
      (fun f _ => ∀ p, f = .continue p → ∀ w, p.slot slot = some w → P w) (fun _ _ => True)
      (r.plan deleting o) s := by
  refine ensures_bind (ensures_anything.post ?_ fun _ _ _ => trivial)
  rintro (v | _ | _) t -
  case cancel => exact ensures_pure nofun
  case keepFinalizer => exact ensures_pure nofun
  case «continue» =>
    refine ensures_bind ((desired t).post ?_ fun _ _ _ => trivial)
    intro d u hd
    have computed : Ensures reliable (fun _ _ => True)
        (fun p _ => ∀ w, p.slot slot = some w → P w) (fun _ _ => True)
        (r.patch deleting o v d) u := by
      cases deleting with
      | true => exact delete v d u
      | false => exact update v d u hd
    refine ensures_bind (computed.post ?_ fun _ _ _ => trivial)
    intro p _ found
    refine ensures_pure fun p' e => ?_
    cases e
    exact found

end Resource

/-! ### The changes of the handlers -/

section Bindings

open RoleBindings

variable {fault : Error → Prop} (silent : ∀ e, fault e → e.IsSilent)

/-- Bindings are created where there are none. -/
def RoleBindings.filled : List RoleBinding → Effects
  | [] => .nothing
  | b :: rest => (Effects.atPlace (bindingPlace (bindingName b)) (.fill (b.placedIn none))).andThen
    (filled rest)

/-- Bindings are taken away. -/
def RoleBindings.emptied : List RoleBinding → Effects
  | [] => .nothing
  | b :: rest => (Effects.atPlace (bindingPlace (bindingName b)) (.set none)).andThen (emptied rest)

/-- Bindings are taken away, each before it is created. -/
def RoleBindings.refilled : List RoleBinding → Effects
  | [] => .nothing
  | b :: rest => (Effects.atPlace (bindingPlace (bindingName b)) (.set none)).andThen
    ((Effects.atPlace (bindingPlace (bindingName b)) (.fill (b.placedIn none))).andThen (refilled rest))

/-- Every binding has a name. -/
def RoleBindings.AllNamed (bs : List RoleBinding) : Prop :=
  ∀ b ∈ bs, b.metadata.name = some (bindingName b)

include silent

lemma RoleBindings.makes_createAll {bs : List RoleBinding} (named : AllNamed bs) :
    Makes fault (filled bs) (fun _ => True) (createAll bs) := by
  induction bs with
  | nil => exact .pure trivial
  | cons b rest ih =>
    refine (makes_createIfMissing silent (named b List.mem_cons_self)).next fun _ _ => ?_
    exact ih fun c m => named c (List.mem_cons_of_mem b m)

lemma RoleBindings.makes_deleteAll (bs : List RoleBinding) :
    Makes fault (emptied bs) (fun _ => True) (deleteAll bs) := by
  induction bs with
  | nil => exact .pure trivial
  | cons b rest ih => exact (makes_deleteIfExists silent).next fun _ _ => ih

lemma RoleBindings.makes_recreateAll {bs : List RoleBinding} (named : AllNamed bs) :
    Makes fault (refilled bs) (fun _ => True) (recreateAll bs) := by
  induction bs with
  | nil => exact .pure trivial
  | cons b rest ih =>
    refine (makes_deleteIfExists silent).next fun _ _ => ?_
    refine (makes_createIfMissing silent (named b List.mem_cons_self)).next fun _ _ => ?_
    exact ih fun c m => named c (List.mem_cons_of_mem b m)

end Bindings

section Resources

open RoleBindings

variable {slot : Slot} {o : Overlay}

lemma roleBindings_planned (h : slot ≠ .delete) (deleting : Bool) (s : MemoryServices) :
    Ensures reliable (fun _ _ => True)
      (fun f _ => ∀ p, f = .continue p → ∀ w, p.slot slot = some w → AllNamed w) (fun _ _ => True)
      (roleBindingsResource.plan deleting o) s := by
  refine Resource.ensures_plan (D := (· = o.networkBindings)) ?_ ?_ ?_ deleting s
  · exact fun t => ensures_pure rfl
  · rintro v d t rfl
    refine ensures_pure fun w e b m => (named_networkBindings o).name b ?_
    -- What is to be created or recreated is among the bindings that are wanted.
    cases slot with
    | create =>
      obtain rfl := nonEmpty_eq_some e
      exact (mem_missing.1 m).1
    | update =>
      obtain rfl := nonEmpty_eq_some e
      exact (mem_drifted.1 m).1
    | delete => contradiction
  · exact fun v d t => ensures_pure fun w e =>
      absurd (@Patch.slot_remove (List RoleBinding) _ _ _ _ e) h

lemma roleBindings_resumes (slot : Slot) (o : Overlay) :
    ∃ payload effects, roleBindingsResource.Resumes slot o payload effects := by
  cases slot with
  | create =>
    exact ⟨AllNamed, filled, roleBindings_planned nofun,
      fun w named _ silent => (makes_createAll silent named).result rfl⟩
  | update =>
    exact ⟨AllNamed, refilled, roleBindings_planned nofun,
      fun w named _ silent => (makes_recreateAll silent named).result rfl⟩
  | delete => exact ⟨_, emptied, .of_makes fun w _ silent => (makes_deleteAll silent w).result rfl⟩

lemma storedNetwork_resumes (slot : Slot) (o : Overlay) :
    ∃ payload effects, storedNetworkResource.Resumes slot o payload effects := by
  cases slot with
  | create => exact ⟨_, _, .of_makes fun w _ silent => StoredNetwork.makes_create silent o w⟩
  | update => exact ⟨_, _, .of_makes fun w _ silent => StoredNetwork.makes_update silent o w⟩
  | delete => exact ⟨_, _, .of_makes fun w _ silent => StoredNetwork.makes_delete silent o w⟩

/-- What is to be created, if anything, has a name. -/
def NamedAs {k : Kind} (name : String) (w : Option k.Object) : Prop :=
  ∀ v, w = some v → v.metadata.name = some name

/-- An object, if there is to be one, fills its place. -/
def MemoryServices.filled (k : Kind) (ns : Option String) (name : String) : Option k.Object → Effects
  | none => .nothing
  | some v => .atPlace ⟨k, .of ns name⟩ (.fill (v.placedIn ns))

lemma networkNamespace_resumes (slot : Slot) (o : Overlay) :
    ∃ payload effects, networkNamespaceResource.Resumes slot o payload effects := by
  cases slot with
  | create =>
    refine ⟨NamedAs (k := .namespaces) o.networkNamespace, filled .namespaces none o.networkNamespace,
      Resource.ensures_plan (D := NamedAs (k := .namespaces) o.networkNamespace) ?_ ?_ ?_, ?_⟩
    · refine fun t => ensures_pure fun v e => ?_
      cases e
      rfl
    · refine fun v d t named => ensures_pure fun w e => ?_
      unfold NetworkNamespace.updatePatch at e
      split at e
      · cases e
        exact named
      · cases e
    · exact fun v d t => ensures_pure fun w e =>
        nomatch @Patch.slot_remove (Option Namespace) _ _ _ _ e
    · intro w named fault silent
      cases w with
      | none => exact .pure rfl
      | some n => exact (makes_createIfMissing silent (named n rfl)).result rfl
  | update => exact ⟨_, fun _ => .nothing, .of_makes fun w _ _ => .pure rfl⟩
  | delete =>
    refine ⟨_, fun w => ((w.bind fun n => n.metadata.name).map fun name =>
      Effects.atPlace ⟨.namespaces, .of none name⟩ (.set none)).getD .nothing, .of_makes ?_⟩
    intro w fault silent
    show Makes fault _ _ (networkNamespaceResource.delete o w)
    cases named : Option.bind w fun n : Namespace => n.metadata.name with
    | none =>
      rw [NetworkNamespace.delete_unnamed named]
      exact .pure rfl
    | some name =>
      rw [NetworkNamespace.delete_named named]
      exact (makes_deleteIfExists silent).result rfl

lemma cleanup_resumes (teardown : BackoffPolicy) (o : Overlay) :
    ∃ payload effects, (cleanupResource teardown).Resumes .create o payload effects := by
  refine ⟨NamedAs (k := .serviceAccounts) o.serviceAccount,
    filled .serviceAccounts (some o.networkNamespace) o.serviceAccount,
    Resource.ensures_plan (D := NamedAs (k := .serviceAccounts) o.serviceAccount) ?_ ?_ ?_, ?_⟩
  · refine fun t => ensures_pure fun v e => ?_
    cases e
    rfl
  · refine fun v d t named => ensures_pure fun w e => ?_
    unfold Cleanup.updatePatch at e
    split at e
    · cases e
      exact named
    · cases e
  · exact fun v d t => ensures_pure fun _ e => nomatch e
  · intro w named fault silent
    cases w with
    | none => exact .pure rfl
    | some account => exact (makes_createIfMissing silent (named account rfl)).result rfl

namespace Daemon

/-- A daemon set, if there is to be one, takes its place whatever is there. -/
def replaced (o : Overlay) : Option DaemonSet → Effects
  | none => .nothing
  | some d => .atPlace o.daemonSetPlace (.set (some (d.placedIn (some o.networkNamespace))))

lemma updatePatch_slot {v d w : Option DaemonSet} (h : (Daemon.updatePatch v d).slot slot = some w) :
    w = d := by
  cases slot with
  | create => exact Daemon.eq_of_updatePatch (.inl h)
  | update => exact Daemon.eq_of_updatePatch (.inr h)
  | delete =>
    have kept : (Daemon.updatePatch v d).delete = none := by
      unfold Daemon.updatePatch
      split
      · rfl
      · split
        · rfl
        · rfl
      · rfl
    cases kept.symm.trans h

lemma planned_named (slot : Slot) (h : slot ≠ .delete) (config : DaemonConfig) (own : Version)
    (counted : Bool) (deleting : Bool) (s : MemoryServices) :
    Ensures reliable (fun _ _ => True)
      (fun f _ => ∀ p, f = .continue p → ∀ w, p.slot slot = some w →
        NamedAs (k := .daemonSets) networkApp w) (fun _ _ => True)
      ((daemonResource config own counted).plan deleting o) s := by
  refine Resource.ensures_plan (D := NamedAs (k := .daemonSets) networkApp) ?_ ?_ ?_ deleting s
  · intro t
    refine Daemon.ensures_desired (fun _ _ e => nomatch e) (fun d _ e v e' => ?_) fun _ => trivial
    cases e'
    exact daemonSet_name e
  · refine fun v d t named => ensures_pure fun w e => ?_
    obtain rfl := updatePatch_slot e
    exact named
  · exact fun v d t => ensures_pure fun w e =>
      absurd (@Patch.slot_remove (Option DaemonSet) _ _ _ _ e) h

variable {fault : Error → Prop} (silent : ∀ e, fault e → e.IsSilent)

include silent

lemma makes_create {d : DaemonSet} (named : d.metadata.name = some networkApp) :
    Makes fault (filled .daemonSets (some o.networkNamespace) networkApp (some d)) (fun _ => True)
      (Daemon.create o d) :=
  (makes_createIfMissing silent named).result trivial

/-- What is replaced is read first, so that its version is the one that is expected. -/
lemma makes_update {d : DaemonSet} (named : d.metadata.name = some networkApp) :
    Makes fault (replaced o (some d)) (fun _ => True) (Daemon.update o d) := by
  intro s
  have found : Ensures (environment fault nobody) (fun _ _ => True) _ _
      (Kind.get .daemonSets (some o.networkNamespace) networkApp) s :=
    ensures_getAlone fun _ => trivial
  refine ensures_bind (found.post ?_ ?_)
  · rintro v t ⟨e, rfl⟩
    cases v with
    | none =>
      -- There is none any more, so that to create it comes to the same as to replace it.
      have free : t.view.object o.daemonSetPlace = none := congrArg (Option.map _) e.symm
      exact ensures_bind ((ensures_created silent named (Effects.act_fill_of_none free)).post
        (fun _ _ made => ensures_pure made) fun _ _ p => p)
    | some existing =>
      have stored : Ensures (environment fault nobody) (fun _ _ => True) _ _
          (Kind.replace .daemonSets (some o.networkNamespace) { d with metadata := { d.metadata with
            resourceVersion := existing.metadata.resourceVersion } }) t :=
        ensures_replaced (fun _ => trivial) named e.symm rfl
      exact ensures_bind (stored.post (fun _ _ made => ensures_pure ⟨trivial, made⟩) fun _ _ p => p)
  · rintro err t ⟨he, rfl⟩
    exact ⟨he, .none⟩

end Daemon

lemma daemon_resumes (config : DaemonConfig) (own : Version) (counted : Bool) (slot : Slot)
    (o : Overlay) :
    ∃ payload effects, (daemonResource config own counted).Resumes slot o payload effects := by
  cases slot with
  | create =>
    refine ⟨NamedAs (k := .daemonSets) networkApp,
      filled .daemonSets (some o.networkNamespace) networkApp,
      Daemon.planned_named .create nofun config own counted, fun w named fault silent => ?_⟩
    cases w with
    | none => exact .pure rfl
    | some d => exact (Daemon.makes_create silent (named d rfl)).result rfl
  | update =>
    refine ⟨NamedAs (k := .daemonSets) networkApp, Daemon.replaced o,
      Daemon.planned_named .update nofun config own counted, fun w named fault silent => ?_⟩
    cases w with
    | none => exact .pure rfl
    | some d => exact (Daemon.makes_update silent (named d rfl)).result rfl
  | delete =>
    exact ⟨_, fun _ => .atPlace o.daemonSetPlace (.set none),
      .of_makes fun w _ silent => (makes_deleteIfExists silent).result rfl⟩

end Resources

/-- The changes of the operator's resources that come down to changes of single objects and values. -/
inductive Resource.Resumable : Resource services Overlay → Slot → Prop where
  | roleBindings (slot : Slot) : Resumable roleBindingsResource slot
  | storedNetwork (slot : Slot) : Resumable storedNetworkResource slot
  | networkNamespace (slot : Slot) : Resumable networkNamespaceResource slot
  | daemon (config : DaemonConfig) (own : Version) (counted : Bool) (slot : Slot) :
    Resumable (daemonResource config own counted) slot
  | cleanup (teardown : BackoffPolicy) : Resumable (cleanupResource teardown) .create

lemma Resource.Resumable.resumes {r : Resource services Overlay} {slot : Slot} (h : r.Resumable slot)
    (o : Overlay) : ∃ payload effects, r.Resumes slot o payload effects := by
  cases h with
  | roleBindings slot => exact roleBindings_resumes slot o
  | storedNetwork slot => exact storedNetwork_resumes slot o
  | networkNamespace slot => exact networkNamespace_resumes slot o
  | daemon config own counted slot => exact daemon_resumes config own counted slot o
  | cleanup teardown => exact cleanup_resumes teardown o

/-- A repeated change that has a result, after whatever failures, comes to what it comes to without
any: the same result, and the same objects and values but for the versions of objects. -/
theorem retried_change_agrees {r : Resource services Overlay} {slot : Slot}
    (resumable : r.Resumable slot) {deleting : Bool} {o : Overlay} {s : MemoryServices} {p : Patch r.State} {w : r.State}
    (planned : r.Plans deleting o s p) (payload : p.slot slot = some w) {policy : BackoffPolicy}
    {f : Flow Unit} {t : MemoryServices}
    (reached : Program.Reaches (environment Error.IsSilent nobody)
      (((r.repeated policy).change slot o w).run, s) (.done (.ok f), t)) :
    (∃ u, Program.Reaches reliable (((r.repeated policy).change slot o w).run, s)
      (.done (.ok f), u)) ∧
    ∀ x u, Program.Reaches reliable (((r.repeated policy).change slot o w).run, s) (.done x, u) →
      x = .ok f ∧ u.view = t.view := by
  obtain ⟨sound, _, resumes⟩ := resumable.resumes o
  obtain ⟨_, computed⟩ := planned
  have hw : sound w := outcome_of_reaches (resumes.planned deleting s) computed p rfl w payload
  rw [Resource.change_repeated] at reached ⊢
  obtain ⟨hf, made⟩ := outcome_of_reaches ((resumes.makes w hw _ fun _ h => h).retry policy s) reached
  -- Without failures there is a result, and it is the same.
  have undisturbed : ∀ x u, Program.Reaches reliable (((r.change slot o w).retry policy).run, s)
      (.done x, u) → x = .ok f ∧ u.view = t.view := by
    intro x u alone
    have outcome := outcome_of_reaches ((resumes.makes w hw _ nofun).retry policy s) alone
    cases x with
    | error e => exact outcome.elim
    | ok g =>
      obtain ⟨hg, made'⟩ := outcome
      exact ⟨congrArg Except.ok (hg.trans hf.symm), made'.trans made.symm⟩
  obtain ⟨x, u, alone⟩ := exists_reaches_reliable ((r.change slot o w).retry policy).run s
  obtain ⟨rfl, -⟩ := undisturbed x u alone
  exact ⟨⟨u, alone⟩, undisturbed⟩

/-- Every deletion of an object that there is does its work, and fails nevertheless. -/
def MemoryServices.answerLate (c : OperatorCall) (s : MemoryServices) :
    services.Answer c × MemoryServices :=
  if c.deletes?.any fun p => (s.object? p).isSome then (c.failed (.timeout "deletion"), (s.answer c).2)
  else s.answer c

instance : DecidableEq roleBindingsResource.State := inferInstanceAs (DecidableEq (List RoleBinding))

/-- Two bindings without subjects are recreated while deletions fail. Three attempts fail: the first
and the third have deleted the first binding, the second has recreated it and deleted the other. -/
theorem retried_change_agrees_late :
    ∃ (o : Overlay) (s t u : MemoryServices), o = Overlay.sample "a" ∧ s.Reachable ∧
      roleBindingsResource.Plans false o s { update := some o.networkBindings } ∧
      Program.Reaches (environment Error.IsSilent nobody)
        (((roleBindingsResource.repeated (.within 5)).change .update o o.networkBindings).run, s)
        (.done (.ok (.continue ())), t) ∧
      Program.Reaches reliable
        (((roleBindingsResource.repeated (.within 5)).change .update o o.networkBindings).run, s)
        (.done (.ok (.continue ())), u) ∧
      u.view = t.view ∧ (u.cluster.table .roleBindings).nextVersion = 5 ∧
      (t.cluster.table .roleBindings).nextVersion = 6 := by
  let o := Overlay.sample "a"
  let creation (b : RoleBinding) : OperatorCall :=
    .cluster .roleBindings (.create none { b with body := { b.body with subjects := none } })
  let s := o.networkBindings.foldl (fun s b => (MemoryServices.answer (creation b) s).2) {}
  have start : s.Reachable := (Reachable.empty.answer _).answer _
  have computed : (undisturbed (roleBindingsResource.plan false o).run s).1.result? =
      some (.ok (.continue { update := some o.networkBindings })) := by decide +kernel
  have planned : roleBindingsResource.Plans false o s { update := some o.networkBindings } :=
    ⟨_, reaches_undisturbed computed⟩
  have done : (undisturbed ((roleBindingsResource.repeated (.within 5)).change .update o
      o.networkBindings).run s).1.result? = some (.ok (.continue ())) := by decide +kernel
  have late : (Program.runTo answerLate (fun _ => false) ((roleBindingsResource.change .update o
      o.networkBindings).attempts 3).run s).1.result? = some (.ok (.continue ())) := by decide +kernel
  have answers (c : OperatorCall) (s : MemoryServices) :
      (environment Error.IsSilent nobody).answers c s (answerLate c s).1 (answerLate c s).2 := by
    unfold answerLate
    split
    · exact .inr ⟨_, ⟨rfl, rfl⟩, rfl, .inr rfl⟩
    · exact .inl rfl
  have reached : Program.Reaches (environment Error.IsSilent nobody)
      (((roleBindingsResource.repeated (.within 5)).change .update o o.networkBindings).run, s) _ :=
    .head (.repetitions 3) (Program.reaches_result answers late)
  have alone : Program.Reaches reliable _ _ := reaches_undisturbed done
  obtain ⟨-, same⟩ := (retried_change_agrees (.roleBindings .update) planned rfl reached).2 _ _ alone
  exact ⟨o, s, _, _, rfl, start, planned, reached, alone, same, by decide +kernel, by decide +kernel⟩

end TenantOverlay
