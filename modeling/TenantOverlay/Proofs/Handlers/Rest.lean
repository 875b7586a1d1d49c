import TenantOverlay.Proofs.Handlers.Cleanup
import TenantOverlay.Proofs.Handlers.Daemon
import TenantOverlay.Proofs.Handlers.NetworkNamespace
import TenantOverlay.Proofs.Handlers.RoleBindings
import TenantOverlay.Proofs.Handlers.StoredEntry
import TenantOverlay.Proofs.Reconcile.Rest

/-!
# Where the handlers have nothing to do

Each handler compares what it finds with what it wants in its own way, and rests where its comparison
says that they agree: `roleBindings_atRest`, `storedNetwork_atRest`, `networkNamespace_atRest`,
`cleanup_atRest`, `daemon_atRest`. The entry in the store is compared only if something is set in it.
One that reads as the empty entry is created again and again, and each time found to be there.

The handlers of the namespace, of the account and of the daemon talk to the cluster alone, and so
leave the store as it is (`keeps_store`).
-/

namespace TenantOverlay

open Fallible MemoryServices Overlay

variable {fault : Error → Prop} {others : MemoryServices → MemoryServices → Prop} {o : Overlay}
  {s : MemoryServices}

section StoreSpared

/-- A call to the cluster. -/
def OperatorCall.IsToCluster : OperatorCall → Prop
  | .cluster .. => True
  | .store _ => False

/-- Calls to the cluster leave the store as it is. -/
lemma keeps_store (q : Quiet fault others) (P : KeyTree → Prop) :
    (environment fault others).Keeps (fun c _ => c.IsToCluster) fun s => P s.store := by
  refine environment_keeps (q.settled_store P) fun c s a h => ?_
  cases c with
  | cluster k request => exact h
  | store request => exact a.elim

variable {σ : Type} {env : Environment services σ}

lemma callsOnly_ofObject {k : Kind} {request : ObjectRequest k.Body} :
    CallsOnly env OperatorCall.IsToCluster (OperatorAction.ofObject k request) :=
  OperatorAction.callsOnly_ofObject trivial

lemma callsOnly_createIfMissing {k : Kind} {ns : Option String} {v : k.Object} :
    CallsOnly env OperatorCall.IsToCluster (k.createIfMissing ns v) :=
  OperatorAction.callsOnly_createIfMissing trivial

lemma networkNamespace_createsOnly (o : Overlay) :
    networkNamespaceResource.CreatesOnly env OperatorCall.IsToCluster o where
  current := callsOnly_ofObject.bind fun _ => callsOnly_pure
  desired := callsOnly_pure
  patch _ _ := callsOnly_pure
  create
    | none => callsOnly_pure
    | some _ => callsOnly_createIfMissing.bind fun _ => callsOnly_pure
  update _ := callsOnly_pure

lemma cleanup_createsOnly (o : Overlay) (policy : BackoffPolicy) :
    (cleanupResource policy).CreatesOnly env OperatorCall.IsToCluster o where
  current := callsOnly_ofObject.bind fun _ => callsOnly_pure
  desired := callsOnly_pure
  patch _ _ := callsOnly_pure
  create
    | none => callsOnly_pure
    | some _ => callsOnly_createIfMissing.bind fun _ => callsOnly_pure
  update _ := callsOnly_pure

namespace Daemon

lemma callsOnly_inUse : CallsOnly env OperatorCall.IsToCluster (inUse o) := by
  unfold inUse
  split
  · exact callsOnly_ofObject.bind fun _ => callsOnly_pure
  · exact callsOnly_pure

lemma callsOnly_current (own : Version) (counted : Bool) (o : Overlay) :
    CallsOnly env OperatorCall.IsToCluster (current own counted o) := by
  refine callsOnly_inUse.bind fun used => ?_
  cases used with
  | true => exact callsOnly_pure
  | false =>
    refine CallsOnly.bind callsOnly_ofObject fun found => ?_
    cases found with
    | none => exact callsOnly_pure
    | some d =>
      exact callsOnly_recordGeneration.bind fun _ => callsOnly_pure

lemma callsOnly_create {d : DaemonSet} : CallsOnly env OperatorCall.IsToCluster (create o d) :=
  callsOnly_createIfMissing.bind fun _ => callsOnly_pure

lemma callsOnly_update {d : DaemonSet} : CallsOnly env OperatorCall.IsToCluster (update o d) := by
  refine CallsOnly.bind callsOnly_ofObject fun found => ?_
  cases found with
  | none => exact callsOnly_create
  | some existing => exact callsOnly_ofObject.bind fun _ => callsOnly_pure

end Daemon

lemma daemon_createsOnly (config : DaemonConfig) (own : Version) (counted : Bool) (o : Overlay) :
    (daemonResource config own counted).CreatesOnly env OperatorCall.IsToCluster o where
  current := Daemon.callsOnly_current own counted o
  desired _ := Daemon.ensures_desired (fun _ => trivial) (fun _ _ _ => trivial) fun _ => trivial
  patch _ _ := callsOnly_pure
  create
    | none => callsOnly_pure
    | some _ => Daemon.callsOnly_create.bind fun _ => callsOnly_pure
  update
    | none => callsOnly_pure
    | some _ => Daemon.callsOnly_update.bind fun _ => callsOnly_pure

end StoreSpared

section AtRest

/-- An operation rests while nobody else is at work, except that its calls may fail. -/
abbrev Resting (fault : Error → Prop) (s : MemoryServices) {α : Type} (a : OperatorAction α) (x : α) :
    Prop :=
  Rests (environment fault nobody) (∃ e, fault e) s a x

/-- A resource is at rest while nobody else is at work, except that calls may fail. -/
abbrev Resource.Resting (fault : Error → Prop) (s : MemoryServices) (r : Resource services Overlay)
    (o : Overlay) (found wanted : r.State) (planned : Patch r.State) : Prop :=
  r.AtRest (environment fault nobody) (∃ e, fault e) s o found wanted planned

lemma resting_get {k : Kind} {ns : Option String} {name : String} :
    Resting fault s (k.get ns name) (s.object? ⟨k, .of ns name⟩) :=
  (ensures_getAlone fun _ => trivial).post (fun _ _ p => p) fun e _ p => ⟨⟨e, p.1⟩, p.2⟩

namespace RoleBindings

/-- The bindings are fetched as they stand. -/
lemma exists_resting_fetch (fault : Error → Prop) (filed : (s.cluster.table .roleBindings).Filed)
    {names : List String} (nodup : names.Nodup) :
    ∃ v, Resting fault s (fetch names) v ∧ Fetched names v s := by
  induction names with
  | nil => exact ⟨[], rests_pure, fun _ m => absurd m List.not_mem_nil, nofun⟩
  | cons n rest ih =>
    have ⟨fresh, nodup⟩ := List.nodup_cons.1 nodup
    obtain ⟨v, resting, fetched⟩ := ih nodup
    refine ⟨_, resting_get.bind (resting.bind rests_pure), ?_⟩
    exact fetched.cons fresh rfl fun b e => bindingName_eq filed e

lemma AsDesired.not_differs {desired b : RoleBinding} (h : AsDesired desired b) :
    differs b desired = false := by
  simp only [differs, h.roleRef, h.subjects, h.labels, bne_self_eq_false, Bool.or_self]

/-- When no work is left on the bindings, none of those fetched is missing or differs. -/
lemma updatePatch_eq_empty {wanted v : List RoleBinding}
    (fetched : Fetched (wanted.map bindingName) v s) (done : Pending wanted [] [] s) :
    RoleBindings.updatePatch v wanted = {} := by
  have desired (b : RoleBinding) (m : b ∈ wanted) : ∃ c, namesake? v b = some c ∧ AsDesired b c := by
    obtain ⟨missing, -⟩ | drifted | ⟨c, found, desired⟩ := done b m
    · cases missing
    · cases drifted
    · exact ⟨c, (fetched.found _ (List.mem_map_of_mem m)).symm.trans found, desired⟩
  have nothingMissing : RoleBindings.missing v wanted = [] := by
    refine List.eq_nil_iff_forall_not_mem.2 fun b m => ?_
    obtain ⟨m, none⟩ := mem_missing.1 m
    obtain ⟨c, found, -⟩ := desired b m
    exact nomatch none.symm.trans found
  have nothingDrifted : RoleBindings.drifted v wanted = [] := by
    refine List.eq_nil_iff_forall_not_mem.2 fun b m => ?_
    obtain ⟨m, c, found, differ⟩ := mem_drifted.1 m
    obtain ⟨c', found', desired⟩ := desired b m
    cases found.symm.trans found'
    exact nomatch desired.not_differs.symm.trans differ
  unfold RoleBindings.updatePatch
  rw [nothingMissing, nothingDrifted]
  rfl

end RoleBindings

open RoleBindings in
/-- Both bindings are as they are wanted. -/
theorem roleBindings_atRest (fault : Error → Prop) (filed : (s.cluster.table .roleBindings).Filed)
    (done : Pending o.networkBindings [] [] s) :
    ∃ v, roleBindingsResource.Resting fault s o v o.networkBindings {} := by
  have nodup : [o.roleBinding, o.pspRoleBinding].Nodup :=
    o.bindings_nodup.sublist (List.prefix_append _ _).sublist
  obtain ⟨v, resting, fetched⟩ := exists_resting_fetch fault filed nodup
  have nothing : RoleBindings.updatePatch v o.networkBindings = {} :=
    updatePatch_eq_empty (show Fetched (o.networkBindings.map bindingName) v s from fetched) done
  exact ⟨v, .unchanged (resting.bind rests_pure) rests_pure (rests_pure_of_eq nothing)⟩

namespace StoredNetwork

lemma Fetched.unique {t : KeyTree} {e e' : NetworkEntry} (h : Fetched o t e) (h' : Fetched o t e') :
    e = e' := by
  cases h with
  | found searched parsed =>
    cases h' with
    | found searched' parsed' =>
      cases searched.symm.trans searched'
      exact Except.ok.inj (parsed.symm.trans parsed')
    | missing searched' => exact nomatch searched.symm.trans searched'
  | missing searched =>
    cases h' with
    | found searched' => exact nomatch searched.symm.trans searched'
    | missing => rfl

lemma resting_fetch (silent : ∀ e, fault e → e.IsSilent) {e : NetworkEntry}
    (fetched : Fetched o s.store e) : Resting fault s (fetch o) e := by
  refine (ensures_fetched silent s).post ?_ ?_
  · rintro e' t ⟨rfl, fetched'⟩
    exact ⟨fetched'.unique fetched, rfl⟩
  · rintro err t ⟨rfl, failed | none⟩
    · exact ⟨⟨err, failed⟩, rfl⟩
    · exact absurd fetched (none e)

/-- A value is not written over, and an attempt to do so is no failure. -/
lemma resting_write (silent : ∀ e, fault e → e.IsSilent) {text : String}
    (own : s.store.get? o.entryPath = some text) (e : NetworkEntry) :
    Resting fault s (write o e) () := by
  have refused : s.store.create o.entryPath e.render =
      (.error (.alreadyExists (normalizeKey o.entryPath)), s.store) := by
    obtain ⟨-, h⟩ | ⟨free, -⟩ := s.store.create_cases o.entryPath e.render
    · exact h
    · rw [o.normalizeKey_entryPath, own] at free
      cases free
  have answered : s.answer (.store (.create o.entryPath e.render)) =
      (.error (.alreadyExists (normalizeKey o.entryPath)), s) := by
    show ((s.store.create o.entryPath e.render).1,
      { s with store := (s.store.create o.entryPath e.render).2 }) = _
    rw [refused]
    rfl
  refine Action.ensures_orElseIf (ensures_storeRequest (r := .create o.entryPath e.render)
    (I := (· = s)) settled_nobody rfl (fun _ _ => trivial) ?_ ?_)
  · rintro t rfl
    rw [answered]
    exact ⟨rfl, rfl⟩
  · rintro err t failed rfl
    rw [answered]
    simp only [(silent err failed).2, Bool.false_eq_true, if_false]
    exact ⟨⟨⟨err, failed⟩, trivial⟩, ⟨err, failed⟩, trivial⟩

end StoredNetwork

open StoredNetwork in
/-- What is in the store is not touched any more. -/
theorem storedNetwork_atRest (silent : ∀ e, fault e → e.IsSilent) (h : Stands o s.store) :
    ∃ v planned, storedNetworkResource.Resting fault s o v o.networkEntry planned := by
  obtain ⟨text, own, parsed⟩ | ⟨text, e, searched, parsed, set, same⟩ := h
  · have searched : s.store.search o.entryPath = .ok text := search_entryPath rfl own
    have again : StoredNetwork.updatePatch .empty o.networkEntry =
        { create := some o.networkEntry } := by
      unfold StoredNetwork.updatePatch
      rw [networkEntry_isEmpty]
      rfl
    exact ⟨.empty, { create := some o.networkEntry }, {
      current := (resting_fetch silent (.found searched parsed)).bind rests_pure
      desired := rests_pure
      patch := rests_pure_of_eq again
      create := fun w _ => (resting_write silent own w).bind rests_pure
      update := fun _ e => nomatch e }⟩
  · have nothing : StoredNetwork.updatePatch e o.networkEntry = {} := by
      unfold StoredNetwork.updatePatch
      rw [set, same]
      rfl
    exact ⟨e, {}, .unchanged ((resting_fetch silent (.found searched parsed)).bind rests_pure)
      rests_pure (rests_pure_of_eq nothing)⟩

/-- There is a namespace that takes new objects. -/
theorem networkNamespace_atRest (fault : Error → Prop) (h : NetworkNamespace.Open o s) :
    ∃ v wanted, networkNamespaceResource.Resting fault s o v wanted {} := by
  obtain ⟨n, found, takes⟩ := h
  have got : Resting fault s (Kind.get .namespaces none o.networkNamespace) (some n) :=
    found ▸ resting_get
  have goesOn : (if Option.any Manifest.isTerminating (some n) then Flow.cancel
      else Flow.continue (some n)) = .continue (some n) := by
    rw [Option.any_some, takes]
    rfl
  exact ⟨some n, some (o.namespaceManifest o.networkNamespace networkApp),
    .unchanged (got.bind (rests_pure_of_eq goesOn)) rests_pure rests_pure⟩

/-- The account of the network is there. -/
theorem cleanup_atRest (fault : Error → Prop) (policy : BackoffPolicy)
    (h : (s.object? (o.accountPlace o.networkNamespace)).isSome = true) :
    ∃ v wanted, (cleanupResource policy).Resting fault s o v wanted {} := by
  obtain ⟨account, found⟩ := Option.isSome_iff_exists.1 h
  have got : Resting fault s (Kind.get .serviceAccounts (some o.networkNamespace) o.serviceAccount)
      (some account) := found ▸ resting_get
  exact ⟨some account, some (o.accountManifest o.networkNamespace),
    .unchanged (got.bind rests_pure) rests_pure rests_pure⟩

namespace Daemon

/-- Nothing of its own generation is newer. -/
lemma isNewer_own {own : Version} {version : String} {d : DaemonSet}
    (recorded : recordedVersion? d = some version) (parsed : Version.parse version = .ok own) :
    isNewer own d = false := by
  have equal : generation? d = some own := by
    unfold generation?
    rw [recorded, Option.bind_some, parsed]
    rfl
  unfold isNewer
  rw [equal]
  simp only [Option.any_some, decide_eq_false_iff_not]
  intro h
  change Version.lt own own at h
  simp only [Version.lt, UInt64.lt_irrefl, and_false, or_self] at h

end Daemon

open Daemon in
/-- The daemon set is as its generation wants it. -/
theorem daemon_atRest (fault : Error → Prop) {config : DaemonConfig} {own : Version} (counted : Bool)
    {wanted : DaemonSet} (live : o.isDeleted = false) (asked : o.daemonSet config = .ok wanted)
    (recorded : recordedVersion? wanted = some config.bundleVersion)
    (parsed : Version.parse config.bundleVersion = .ok own) (h : Daemon.Current o wanted s) :
    ∃ v, (daemonResource config own counted).Resting fault s o v (some wanted) {} := by
  obtain ⟨d, found, same⟩ := h
  have newer : isNewer own d = false := by
    refine isNewer_own ?_ parsed
    simp only [needsUpdate, Bool.or_eq_false_iff, bne_eq_false_iff_eq] at same
    exact same.1.trans recorded
  have notUsed : Resting fault s (inUse o) false := by
    unfold inUse
    rw [if_neg (by simp [live])]
    exact rests_pure
  have got : Resting fault s (Daemon.get o) (some d) := found ▸ resting_get
  have counts : Resting fault s (recordGeneration counted d) () := by
    unfold recordGeneration
    split
    · exact rests_record
    · exact rests_pure
  have goesOn : (if !o.isDeleted && isNewer own d then Flow.cancel else Flow.continue (some d)) =
      .continue (some d) := by
    rw [newer, Bool.and_false]
    rfl
  have wants : Resting fault s ((daemonResource config own counted).desired o) (some wanted) := by
    show Rests _ _ _ (if o.isDeleted then _ else _) _
    rw [live, asked]
    exact rests_ofResult.bind rests_pure
  have nothing : Daemon.updatePatch (some d) (some wanted) = {} := by
    simp only [Daemon.updatePatch, same, Bool.false_eq_true, if_false]
  exact ⟨some d, .unchanged (notUsed.bind (got.bind (counts.bind (rests_pure_of_eq goesOn)))) wants
    (rests_pure_of_eq nothing)⟩

end AtRest

end TenantOverlay
