import Mathlib.Tactic.Lemma
import TenantOverlay.Handlers.Cleanup
import TenantOverlay.Handlers.Daemon
import TenantOverlay.Handlers.NetworkNamespace
import TenantOverlay.Handlers.RoleBindings
import TenantOverlay.Handlers.StoredNetwork
import TenantOverlay.Proofs.NetworkEntry

/-!
# What patches hold

`Patch.Plans` says what an update patch is: it creates what is missing, and replaces what is there and outdated,
by what is wanted; it never does both and deletes nothing. `Patch.Removes` says what a delete patch is. Of role
bindings, which come in lists, some are created and some are replaced (`RoleBindings.Plans`). Every handler
computes such patches from any two states (`patches_planned`), with one exception: the network's entry is
replaced also when the wanted entry is the empty one (`storedNetwork_replaced_by_empty`).
-/

namespace TenantOverlay

section Lists

variable {α : Type}

/-- The members of a list that satisfy a condition, in their order. -/
inductive Selects (P : α → Prop) : List α → List α → Prop where
  | nil : Selects P [] []
  | take {a : α} {as chosen : List α} : P a → Selects P as chosen → Selects P (a :: as) (a :: chosen)
  | skip {a : α} {as chosen : List α} : ¬ P a → Selects P as chosen → Selects P (a :: as) chosen

lemma selects_filter {P : α → Prop} {p : α → Bool} (h : ∀ a, p a = true ↔ P a) (as : List α) :
    Selects P as (as.filter p) := by
  induction as with
  | nil => exact .nil
  | cons a as ih =>
    by_cases holds : p a = true
    · rw [List.filter_cons_of_pos holds]
      exact .take ((h a).1 holds) ih
    · rw [List.filter_cons_of_neg holds]
      exact .skip (fun e => holds ((h a).2 e)) ih

end Lists

namespace Patch

variable {State : Type} {isEmpty : State → Bool} {current desired : State}

/-- An update patch: it creates what is missing and replaces what is outdated. -/
structure Plans (isEmpty : State → Bool) (current desired : State) (outdated : Bool) (p : Patch State) :
    Prop where
  creates {s : State} : p.create = some s ↔ isEmpty current = true ∧ isEmpty desired = false ∧ s = desired
  updates {s : State} : p.update = some s ↔
    isEmpty current = false ∧ isEmpty desired = false ∧ outdated = true ∧ s = desired
  differs : p.update ≠ none → current ≠ desired
  once : p.create = none ∨ p.update = none
  keeps : p.delete = none

/-- A delete patch: under a condition it deletes what there is. -/
structure Removes (current : State) (condition : Prop) (p : Patch State) : Prop where
  deletes {s : State} : p.delete = some s ↔ condition ∧ s = current
  creates : p.create = none
  updates : p.update = none

/-- The patch that creates what is missing and replaces what is outdated. -/
def planned (isEmpty : State → Bool) (current desired : State) (outdated : Bool) : Patch State :=
  if isEmpty desired then {}
  else if isEmpty current then { create := some desired }
  else if outdated then { update := some desired }
  else {}

lemma plans_planned {outdated : Bool} (differs : outdated = true → current ≠ desired) :
    (planned isEmpty current desired outdated).Plans isEmpty current desired outdated := by
  unfold planned
  cases wanted : isEmpty desired with
  | true => exact ⟨by simp [wanted], by simp [wanted], nofun, .inl rfl, rfl⟩
  | false =>
    cases found : isEmpty current with
    | true => exact ⟨by simp [found, wanted, eq_comm], by simp [found], nofun, .inr rfl, rfl⟩
    | false =>
      cases outdated with
      | true => exact ⟨by simp [found], by simp [found, wanted, eq_comm], fun _ => differs rfl, .inl rfl, rfl⟩
      | false => exact ⟨by simp [found], by simp, nofun, .inl rfl, rfl⟩

lemma removes_remove [ResourceState State] :
    (remove current).Removes current (ResourceState.isEmpty current = false) := by
  unfold remove
  cases found : ResourceState.isEmpty current with
  | true => exact ⟨by simp, rfl, rfl⟩
  | false => exact ⟨by simp [eq_comm], rfl, rfl⟩

lemma plans_createOrUpdate [ResourceState State] [DecidableEq State] :
    (createOrUpdate current desired).Plans ResourceState.isEmpty current desired (current != desired) := by
  have planned : createOrUpdate current desired =
      planned ResourceState.isEmpty current desired (current != desired) := by
    unfold createOrUpdate Patch.planned
    cases ResourceState.isEmpty desired <;> cases ResourceState.isEmpty current <;> rfl
  rw [planned]
  exact plans_planned bne_iff_ne.1

end Patch

namespace StoredNetwork

variable {current desired : NetworkEntry}

/-- The empty entry is wanted in place of one for another network. -/
def ReplacedByEmpty (current desired : NetworkEntry) : Prop :=
  current.isEmpty = false ∧ desired.isEmpty = true ∧ current.sameNetwork desired = false

instance : Decidable (ReplacedByEmpty current desired) := inferInstanceAs (Decidable (_ ∧ _))

/-- Otherwise an entry for another network is outdated. -/
lemma plans_updatePatch (h : ¬ ReplacedByEmpty current desired) : (updatePatch current desired).Plans
    NetworkEntry.isEmpty current desired (!current.sameNetwork desired) := by
  have planned : updatePatch current desired =
      Patch.planned NetworkEntry.isEmpty current desired (!current.sameNetwork desired) := by
    unfold updatePatch Patch.planned
    cases found : current.isEmpty with
    | true => cases desired.isEmpty <;> rfl
    | false =>
      cases same : current.sameNetwork desired with
      | true => cases desired.isEmpty <;> rfl
      | false =>
        cases wanted : desired.isEmpty with
        | true => exact absurd ⟨found, wanted, same⟩ h
        | false => rfl
  rw [planned]
  refine Patch.plans_planned ?_
  rintro other rfl
  rw [current.sameNetwork_self] at other
  cases other

/-- The entry for another network is then replaced, although nothing is wanted. -/
lemma updatePatch_of_replacedByEmpty (h : ReplacedByEmpty current desired) :
    updatePatch current desired = { update := some desired } := by
  obtain ⟨found, -, other⟩ := h
  unfold updatePatch
  rw [found, other]
  rfl

end StoredNetwork

namespace Daemon

/-- Both daemon sets exist, and the one is not as the other should be. -/
def outdated : Option DaemonSet → Option DaemonSet → Bool
  | some c, some d => needsUpdate c d
  | _, _ => false

lemma plans_updatePatch {current desired : Option DaemonSet} :
    (updatePatch current desired).Plans Option.isNone current desired (outdated current desired) := by
  have planned : updatePatch current desired =
      Patch.planned Option.isNone current desired (outdated current desired) := by
    cases current <;> cases desired <;> rfl
  rw [planned]
  refine Patch.plans_planned ?_
  rintro h rfl
  cases current with
  | none => cases h
  | some d => simp [outdated, needsUpdate] at h

end Daemon

/-- A namespace is never outdated. -/
lemma NetworkNamespace.plans_updatePatch {current desired : Option Namespace} :
    (updatePatch current desired).Plans Option.isNone current desired false := by
  have planned : updatePatch current desired = Patch.planned Option.isNone current desired false := by
    cases current <;> cases desired <;> rfl
  rw [planned]
  exact Patch.plans_planned nofun

/-- An account is never outdated. -/
lemma Cleanup.plans_updatePatch {current desired : Option ServiceAccount} :
    (updatePatch current desired).Plans Option.isNone current desired false := by
  have planned : updatePatch current desired = Patch.planned Option.isNone current desired false := by
    cases current <;> cases desired <;> rfl
  rw [planned]
  exact Patch.plans_planned nofun

namespace RoleBindings

variable {current desired : List RoleBinding} {b c : RoleBinding}

/-- The first of some bindings that has the name of a given one. -/
def IsFirstNamesake (bindings : List RoleBinding) (b c : RoleBinding) : Prop :=
  ∃ before after, bindings = before ++ c :: after ∧ bindingName c = bindingName b ∧
    ∀ x ∈ before, bindingName x ≠ bindingName b

/-- A binding grants another role, or grants it to others, or has other labels than a given one. -/
def Differs (c b : RoleBinding) : Prop :=
  c.body.roleRef ≠ b.body.roleRef ∨ c.body.subjects ≠ b.body.subjects ∨ c.metadata.labels ≠ b.metadata.labels

/-- An update patch of bindings: those whose names are new are created, and those that differ from their first
namesakes are replaced. -/
structure PlansEach (current desired : List RoleBinding) (p : Patch (List RoleBinding)) : Prop where
  creates : Selects (fun b => ∀ c ∈ current, bindingName c ≠ bindingName b) desired (p.create.getD [])
  updates : Selects (fun b => ∃ c, IsFirstNamesake current b c ∧ Differs c b) desired (p.update.getD [])
  create_ne : p.create ≠ some []
  update_ne : p.update ≠ some []
  keeps : p.delete = none

lemma differs_iff : differs c b = true ↔ Differs c b := by
  simp [differs, Differs, or_assoc]

lemma namesake?_eq_some_iff : namesake? current b = some c ↔ IsFirstNamesake current b c := by
  unfold namesake? IsFirstNamesake
  rw [List.find?_eq_some_iff_append]
  simp only [beq_iff_eq, Bool.not_eq_true', beq_eq_false_iff_ne, ne_eq]
  constructor
  · rintro ⟨named, before, after, split, others⟩
    exact ⟨before, after, split, named, others⟩
  · rintro ⟨before, after, split, named, others⟩
    exact ⟨named, before, after, split, others⟩

lemma isNone_namesake?_iff : (namesake? current b).isNone = true ↔ ∀ c ∈ current, bindingName c ≠ bindingName b := by
  simp [namesake?]

lemma any_namesake?_iff : ((namesake? current b).any fun c => differs c b) = true ↔
    ∃ c, IsFirstNamesake current b c ∧ Differs c b := by
  simp only [Option.any_eq_true, namesake?_eq_some_iff, differs_iff]

lemma getD_nonEmpty (bindings : List RoleBinding) : (nonEmpty bindings).getD [] = bindings := by
  cases bindings <;> rfl

lemma nonEmpty_ne (bindings : List RoleBinding) : nonEmpty bindings ≠ some [] := by
  cases bindings <;> simp [nonEmpty]

lemma plansEach_updatePatch : PlansEach current desired (updatePatch current desired) where
  creates := by
    show Selects _ _ ((nonEmpty _).getD [])
    rw [getD_nonEmpty]
    exact selects_filter (fun b => isNone_namesake?_iff) desired
  updates := by
    show Selects _ _ ((nonEmpty _).getD [])
    rw [getD_nonEmpty]
    exact selects_filter (fun b => any_namesake?_iff) desired
  create_ne := nonEmpty_ne _
  update_ne := nonEmpty_ne _
  keeps := rfl

end RoleBindings

/-- A resource computes an update patch from any two states, and a delete patch from any state. -/
structure Resource.Patches (r : Resource services Overlay) (isEmpty : r.State → Bool)
    (outdated : r.State → r.State → Bool) (removed : r.State → Prop) : Prop where
  update (o : Overlay) (current desired : r.State) : ∃ p, r.updatePatch o current desired = pure p ∧
    p.Plans isEmpty current desired (outdated current desired)
  delete (o : Overlay) (current desired : r.State) : ∃ p, r.deletePatch o current desired = pure p ∧
    p.Removes current (removed current)

lemma networkNamespace_patches :
    networkNamespaceResource.Patches Option.isNone (fun _ _ => false) (fun n => n.isNone = false) where
  update _ _ _ := ⟨_, rfl, NetworkNamespace.plans_updatePatch⟩
  delete _ current _ := ⟨_, rfl, @Patch.removes_remove (Option Namespace) current _⟩

lemma cleanup_patches (teardown : BackoffPolicy) :
    (cleanupResource teardown).Patches Option.isNone (fun _ _ => false) (fun _ => True) where
  update _ _ _ := ⟨_, rfl, Cleanup.plans_updatePatch⟩
  delete _ current _ := ⟨{ delete := some current }, rfl, by simp [eq_comm], rfl, rfl⟩

lemma daemon_patches (config : DaemonConfig) (own : Version) (counted : Bool) :
    (daemonResource config own counted).Patches Option.isNone Daemon.outdated (fun d => d.isNone = false) where
  update _ _ _ := ⟨_, rfl, Daemon.plans_updatePatch⟩
  delete _ current _ := ⟨_, rfl, @Patch.removes_remove (Option DaemonSet) current _⟩

/-- Whatever the states are, every handler's patches hold what they should. An update patch creates the wanted state
where there is none, and puts it in the place of one that is outdated; what is outdated differs from what is
wanted, and is known to the handler. A delete patch deletes what there is, and the cleanup has something to do
even without an account. Of role bindings those of new names are created, and those that differ from their
namesakes are replaced. The one exception is the entry of a network when nothing is wanted in its place: then it
is replaced by the empty entry. -/
theorem patches_planned (o : Overlay) (current desired : NetworkEntry) (bindings wanted : List RoleBinding) :
    (∀ (State : Type) [ResourceState State] [DecidableEq State] (s s' : State),
      (Patch.createOrUpdate s s').Plans ResourceState.isEmpty s s' (s != s') ∧
      (Patch.remove s).Removes s (ResourceState.isEmpty s = false)) ∧
    networkNamespaceResource.Patches Option.isNone (fun _ _ => false) (fun n => n.isNone = false) ∧
    (∀ teardown, (cleanupResource teardown).Patches Option.isNone (fun _ _ => false) fun _ => True) ∧
    (∀ config own counted, (daemonResource config own counted).Patches Option.isNone Daemon.outdated
      fun d => d.isNone = false) ∧
    (∃ p q : Patch NetworkEntry,
      storedNetworkResource.updatePatch o current desired = pure p ∧
      storedNetworkResource.deletePatch o current desired = pure q ∧
      (¬ StoredNetwork.ReplacedByEmpty current desired →
        p.Plans NetworkEntry.isEmpty current desired (!current.sameNetwork desired)) ∧
      (StoredNetwork.ReplacedByEmpty current desired → p = { update := some desired }) ∧
      q.Removes current (current.isEmpty = false)) ∧
    ∃ p q : Patch (List RoleBinding),
      roleBindingsResource.updatePatch o bindings wanted = pure p ∧
      roleBindingsResource.deletePatch o bindings wanted = pure q ∧
      RoleBindings.PlansEach bindings wanted p ∧ q.Removes bindings (bindings.isEmpty = false) := by
  refine ⟨fun _ _ _ _ _ => ⟨Patch.plans_createOrUpdate, Patch.removes_remove⟩, networkNamespace_patches, cleanup_patches,
    daemon_patches, ?network, ?bindings⟩
  case network =>
    exact ⟨_, _, rfl, rfl, StoredNetwork.plans_updatePatch, StoredNetwork.updatePatch_of_replacedByEmpty,
      @Patch.removes_remove NetworkEntry current _⟩
  case bindings =>
    exact ⟨_, _, rfl, rfl, RoleBindings.plansEach_updatePatch, @Patch.removes_remove (List RoleBinding) bindings _⟩

/-- An entry for another network is replaced by the one that the sample asks for, and by the empty one if that
is wanted. -/
theorem patches_planned_otherNetwork :
    let o := Overlay.sample "a"
    let other := NetworkEntry.vxlan "10.1.0.0/16" 24 1
    ¬ StoredNetwork.ReplacedByEmpty other o.networkEntry ∧ StoredNetwork.ReplacedByEmpty other .empty ∧
      ∃ p q : Patch NetworkEntry, storedNetworkResource.updatePatch o other o.networkEntry = pure p ∧
        p.update = some o.networkEntry ∧
        storedNetworkResource.updatePatch o other .empty = pure q ∧ q = { update := some .empty } := by
  intro o other
  have network := fun desired => (patches_planned o other desired [] []).2.2.2.2.1
  obtain ⟨p, -, replaced, -, plans, -⟩ := network o.networkEntry
  obtain ⟨q, -, cleared, -, -, exception, -⟩ := network .empty
  have wanted : ¬ StoredNetwork.ReplacedByEmpty other o.networkEntry := by decide
  have unwanted : StoredNetwork.ReplacedByEmpty other .empty := by decide
  exact ⟨wanted, unwanted, p, q, replaced,
    (plans wanted).updates.2 ⟨by decide, by decide, by decide, rfl⟩, cleared, exception unwanted⟩

/-- The update slot is filled although the wanted entry is empty, where the default leaves both states alone. -/
theorem storedNetwork_replaced_by_empty :
    let current := NetworkEntry.vxlan "172.26.0.0/16" 30 26
    let p : Patch NetworkEntry := { update := some .empty }
    storedNetworkResource.updatePatch (.sample "abc12") current .empty = pure p ∧
      NetworkEntry.empty.isEmpty = true ∧
      (∀ outdated, ¬ p.Plans NetworkEntry.isEmpty current .empty outdated) ∧
      Patch.createOrUpdate current .empty = {} := by
  intro current p
  refine ⟨rfl, rfl, fun outdated plans => ?_, by decide⟩
  obtain ⟨-, wanted, -⟩ := plans.updates.1 rfl
  exact absurd wanted (by decide)

end TenantOverlay
