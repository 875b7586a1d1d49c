import Mathlib.Algebra.Group.Nat.Defs
import TenantOverlay.Proofs.Handlers.Daemon
import TenantOverlay.Proofs.Handlers.NetworkNamespace
import TenantOverlay.Proofs.Operator.Generations
import TenantOverlay.Proofs.Overlay.Naming
import TenantOverlay.Proofs.Program.Log

/-!
# The order of a teardown

What a deletion pass has seen when it deletes something, whatever the cluster and the store answer.
The daemon set goes only when no pods of the tenant cluster are left (`Overlay.NotInUse`), and
everything else only when moreover flannel's own pods are gone (`Overlay.DaemonGone`) and the
cleanup has run on every host (`Overlay.CleanupSeen`). `Orderly` says so of a single call, and
`ensures_teardown` of all calls of a pass. A pass creates nothing but what the cleanup needs.
-/

namespace TenantOverlay

open Fallible

/-- Whether a call deletes something. -/
def OperatorCall.isDeletion : OperatorCall → Bool
  | .cluster _ (.delete ..) | .store (.delete _) => true
  | .cluster _ _ | .store _ => false

/-- A request to the cluster and its answer. -/
def Exchange.cluster (k : Kind) (request : ObjectRequest k.Body) (answer : Result request.Reply) :
    Exchange services :=
  ⟨.cluster k request, answer⟩

namespace Overlay

variable (o : Overlay)

/-- The list of the tenant cluster's pods. -/
def clusterPods (answer : Result (List Pod)) : Exchange services :=
  .cluster .pods (.list (some o.clusterNamespace) none) answer

/-- The list of the pods of flannel's daemon. -/
def daemonPods (answer : Result (List Pod)) : Exchange services :=
  .cluster .pods (.list (some o.networkNamespace) (some Cleanup.daemonSelector)) answer

/-- A look at the job of the cleanup. -/
def jobLook (answer : Result (Option Job)) : Exchange services :=
  .cluster .jobs (.get (some o.destroyerNamespace) destroyerApp) answer

/-- The list of the nodes. -/
def nodeList (answer : Result (List Node)) : Exchange services :=
  .cluster .nodes (.list none none) answer

/-- The creation of the job for a number of hosts. -/
def jobStart (hosts : Int) (answer : Result Job) : Exchange services :=
  .cluster .jobs (.create (some o.destroyerNamespace) (o.cleanupJob hosts)) answer

/-- The deletion of the daemon set. -/
def daemonSetDeletion : OperatorCall :=
  .cluster .daemonSets (.delete (some o.networkNamespace) networkApp)

/-- No pods of the tenant cluster have been found. -/
def NotInUse (log : List (Exchange services)) : Prop :=
  o.clusterNamespace = "" ∨ o.clusterPods (.ok []) ∈ log

/-- No pods of flannel's daemon have been found. -/
def DaemonGone (log : List (Exchange services)) : Prop := o.daemonPods (.ok []) ∈ log

/-- The cleanup has been found to be complete: a job has run on as many hosts as it has to, or there
are no hosts to run it on, or the job has been started and then found to have run on all hosts.
`hosts` is the number of nodes on which pods can be placed. -/
inductive CleanupSeen (hosts : List Node → Int) (log : List (Exchange services)) : Prop where
  | complete (job : Job) : o.jobLook (.ok (some job)) ∈ log →
    Cleanup.succeeded job = Cleanup.completions job → CleanupSeen hosts log
  | noHosts (nodes : List Node) :
    [o.jobLook (.ok none), nodeList (.ok nodes)].Sublist log →
    hosts nodes = 0 → CleanupSeen hosts log
  | started (nodes : List Node) (reply : Result Job) (job : Job) :
    [o.jobLook (.ok none), nodeList (.ok nodes), o.jobStart (hosts nodes) reply,
      o.jobLook (.ok (some job))].Sublist log →
    hosts nodes ≠ 0 → Cleanup.succeeded job = hosts nodes → CleanupSeen hosts log

/-- The daemon is gone from all hosts, and so is what it has left there. -/
def CleanedUp (log : List (Exchange services)) : Prop :=
  o.DaemonGone log ∧ o.CleanupSeen Cleanup.schedulableNodes log

end Overlay

variable {o : Overlay} {log : List (Exchange services)} {likely : Exchange services → Prop}

lemma lasting_notInUse : Lasting o.NotInUse :=
  fun log e h => h.imp_right (lasting_mem _ log e)

lemma lasting_daemonGone : Lasting o.DaemonGone := lasting_mem _

lemma lasting_cleanupSeen {hosts : List Node → Int} : Lasting (o.CleanupSeen hosts) := by
  intro log e h
  cases h with
  | complete job seen done => exact .complete job (lasting_mem _ log e seen) done
  | noHosts nodes seen none => exact .noHosts nodes (lasting_sublist _ log e seen) none
  | started nodes reply job seen some done =>
    exact .started nodes reply job (lasting_sublist _ log e seen) some done

lemma lasting_cleanedUp : Lasting o.CleanedUp := lasting_daemonGone.and lasting_cleanupSeen

/-- A call fits into the order of a teardown: it creates nothing but what the cleanup needs, and
deletes nothing that may still be needed. -/
structure Orderly (o : Overlay) (c : OperatorCall) (log : List (Exchange services)) : Prop where
  stores {p : Place} : c.stores? = some p → p ∈ o.cleanupPlaces ++ o.jobPlaces
  writes : c.writes? = none
  inUse : c.isDeletion = true → o.NotInUse log
  cleanedUp : c.isDeletion = true → c ≠ o.daemonSetDeletion → o.CleanedUp log

namespace Orderly

variable {k : Kind} {ns : Option String} {name : String}

lemma get : Orderly o (.cluster k (.get ns name)) log := ⟨nofun, rfl, nofun, nofun⟩

lemma list {selector : Option String} : Orderly o (.cluster k (.list ns selector)) log :=
  ⟨nofun, rfl, nofun, nofun⟩

lemma search {key : String} : Orderly o (.store (.search key)) log := ⟨nofun, rfl, nofun, nofun⟩

lemma create {v : k.Object} (hn : v.metadata.name = some name)
    (h : ⟨k, .of ns name⟩ ∈ o.cleanupPlaces ++ o.jobPlaces) :
    Orderly o (.cluster k (.create ns v)) log := by
  refine ⟨fun e => ?_, rfl, nofun, nofun⟩
  simp only [OperatorCall.stores?, ObjectRequest.stores?, hn, Option.map_some] at e
  cases e
  exact h

lemma delete (h : o.NotInUse log) (cleaned : o.CleanedUp log) :
    Orderly o (.cluster k (.delete ns name)) log :=
  ⟨nofun, rfl, fun _ => h, fun _ _ => cleaned⟩

lemma deleteDaemonSet (h : o.NotInUse log) : Orderly o o.daemonSetDeletion log :=
  ⟨nofun, rfl, fun _ => h, fun _ different => absurd rfl different⟩

lemma clear {key : String} (h : o.NotInUse log) (cleaned : o.CleanedUp log) :
    Orderly o (.store (.delete key)) log :=
  ⟨nofun, rfl, fun _ => h, fun _ _ => cleaned⟩

end Orderly

section Rules

variable {k : Kind} {ns : Option String} {name : String} {I : List (Exchange services) → Prop}

/-- A request, which is then seen with its answer. -/
lemma logged_request {request : ObjectRequest k.Body}
    {ok : request.Reply → List (Exchange services) → Prop}
    {fail : Error → List (Exchange services) → Prop} (ha : Orderly o (.cluster k request) log)
    (hok : ∀ x, ok x (log ++ [.cluster k request (.ok x)]))
    (hf : ∀ e, fail e (log ++ [.cluster k request (.error e)])) :
    Ensures (.logged likely) (Orderly o) ok fail (OperatorAction.ofObject k request) log := by
  refine OperatorAction.ensures_ofObject fun t m => ?_
  cases m
  refine ⟨ha, ?_⟩
  rintro (e | x) u ⟨-, rfl⟩
  · exact hf e
  · exact hok x

lemma logged_storeRequest {request : StoreRequest} (ha : Orderly o (.store request) log)
    (hI : Lasting I) (h : I log) :
    Ensures (.logged likely) (Orderly o) (fun _ => I) (fun _ => I)
      (OperatorAction.ofStore request) log := by
  refine OperatorAction.ensures_ofStore fun t m => ?_
  cases m
  refine ⟨ha, ?_⟩
  rintro (e | x) u ⟨-, rfl⟩
  · exact hI _ _ h
  · exact hI _ _ h

lemma logged_get (hI : Lasting I) (h : I log) :
    Ensures (.logged likely) (Orderly o) (fun _ => I) (fun _ => I) (k.get ns name) log :=
  logged_request Orderly.get (fun _ => hI _ _ h) fun _ => hI _ _ h

lemma logged_createIfMissing {v : k.Object} (hn : v.metadata.name = some name)
    (hp : ⟨k, .of ns name⟩ ∈ o.cleanupPlaces ++ o.jobPlaces) (hI : Lasting I) (h : I log) :
    Ensures (.logged likely) (Orderly o)
      (fun _ t => I t ∧ ∃ reply, t = log ++ [.cluster k (.create ns v) reply]) (fun _ => I)
      (k.createIfMissing ns v) log := by
  refine Action.ensures_orElseIf (ensures_bind (logged_request (.create hn hp) ?_ ?_))
  · exact fun x => ensures_pure ⟨hI _ _ h, _, rfl⟩
  · intro e
    split
    · exact ⟨hI _ _ h, _, rfl⟩
    · exact hI _ _ h

lemma logged_deleteIfExists (ha : Orderly o (.cluster k (.delete ns name)) log) (hI : Lasting I)
    (h : I log) :
    Ensures (.logged likely) (Orderly o) (fun _ => I) (fun _ => I) (k.deleteIfExists ns name)
      log := by
  refine Action.ensures_orElseIf (ensures_bind (logged_request ha ?_ ?_))
  · exact fun x => ensures_pure (hI _ _ h)
  · intro e
    simp only [ite_self]
    exact hI _ _ h

end Rules

section Daemon

open Daemon

/-- The daemon is found not to be in use, or the pass ends. -/
lemma logged_inUse (deleted : o.isDeleted = true) :
    Ensures (.logged likely) (Orderly o) (fun used t => used = false → o.NotInUse t)
      (fun _ _ => True) (inUse o) log := by
  unfold inUse
  split
  · refine ensures_bind (logged_request Orderly.list ?_ fun _ => trivial)
    intro pods
    refine ensures_pure fun none => .inr ?_
    obtain rfl : pods = [] := by simpa using none
    exact List.mem_append_right _ List.mem_cons_self
  · rename_i h
    refine ensures_pure fun _ => .inl ?_
    simpa [deleted] using h

/-- The daemon set is deleted only when it is not in use. -/
lemma daemon_orderly (config : DaemonConfig) (own : Version) (counted : Bool)
    (deleted : o.isDeleted = true) :
    (daemonResource config own counted).Deletes (.logged likely) (Orderly o) o (fun _ => True)
      (fun _ => o.NotInUse) o.NotInUse where
  current log _ := by
    refine ensures_bind ((logged_inUse deleted).post ?_ fun _ _ _ => trivial)
    intro used t notInUse
    cases used with
    | true =>
      refine ensures_pure fun v eq => ?_
      cases eq
    | false =>
      have found : Ensures (.logged likely) (Orderly o) _ _
          (Kind.get .daemonSets (some o.networkNamespace) networkApp) t :=
        logged_get lasting_notInUse (notInUse rfl)
      refine ensures_bind (found.post ?_ fun _ _ _ => trivial)
      intro v t notInUse
      cases v with
      | none => exact ensures_pure fun _ _ => notInUse
      | some d =>
        refine ensures_bind ((ensures_recordGeneration notInUse).post ?_ fun _ _ _ => trivial)
        exact fun _ t notInUse => ensures_pure fun _ _ => notInUse
  desired v log h := ensures_desired (fun _ => h) (fun _ _ _ => h) fun _ => h
  patch v d log h := ensures_pure ⟨fun _ => h, fun _ _ => h⟩
  delete v log h := by
    refine ensures_bind ((logged_deleteIfExists (.deleteDaemonSet h) lasting_notInUse h).post ?_
      fun _ _ p => p)
    exact fun _ _ h => ensures_pure fun _ => h

end Daemon

section Cleanup

open Cleanup

variable {I : List (Exchange services) → Prop}

/-- One more exchange after some that have been seen. -/
lemma seen_snoc {seen : List (Exchange services)} (h : seen.Sublist log) (e : Exchange services) :
    (seen ++ [e]).Sublist (log ++ [e]) :=
  h.append (List.Sublist.refl _)

lemma logged_prepareNamespace (hI : Lasting I) (h : I log) :
    Ensures (.logged likely) (Orderly o) (fun _ => I) (fun _ => I) (prepareNamespace o) log := by
  refine ensures_bind ((logged_get hI h).post ?_ fun _ _ p => p)
  intro v t h
  cases v with
  | some n => exact ensures_pure h
  | none =>
    refine ensures_bind ((logged_createIfMissing rfl ?_ hI h).post ?_ fun _ _ p => p)
    · simp [Overlay.cleanupPlaces]
    · exact fun _ t p => ensures_pure p.1

lemma logged_createBindings {bindings : List RoleBinding}
    (hb : ∀ b ∈ bindings, ∃ name, b.metadata.name = some name ∧
      Overlay.bindingPlace name ∈ o.cleanupPlaces ++ o.jobPlaces) (hI : Lasting I) (h : I log) :
    Ensures (.logged likely) (Orderly o) (fun _ => I) (fun _ => I) (createBindings bindings)
      log := by
  induction bindings generalizing log with
  | nil => exact ensures_pure h
  | cons b rest ih =>
    obtain ⟨name, hn, mem⟩ := hb b List.mem_cons_self
    refine ensures_bind ((logged_createIfMissing hn mem hI h).post ?_ fun _ _ p => p)
    exact fun _ t p => ih (fun b m => hb b (List.mem_cons_of_mem _ m)) p.1

/-- The check of a started job succeeds when the job is found to have run on all hosts. -/
lemma logged_checkJob {hosts : Int} {seen : List (Exchange services)} (hI : Lasting I)
    (h : I log ∧ seen.Sublist log) :
    Ensures (.logged likely) (Orderly o)
      (fun _ t => I t ∧ ∃ job, (seen ++ [o.jobLook (.ok (some job))]).Sublist t ∧
        succeeded job = hosts)
      (fun _ t => I t ∧ seen.Sublist t) (checkJob o hosts) log := by
  have lasting := hI.and (lasting_sublist seen)
  refine ensures_bind (logged_request Orderly.get ?_ fun _ => lasting _ _ h)
  intro v
  cases v with
  | none => exact ensures_throw (lasting _ _ h)
  | some job =>
    by_cases done : succeeded job = hosts
    · dsimp only
      rw [if_neg fun different => different done]
      exact ensures_pure ⟨hI _ _ h.1, job, seen_snoc h.2 _, done⟩
    · dsimp only
      rw [if_pos done]
      exact ensures_throw (lasting _ _ h)

lemma logged_retry_checkJob {policy : BackoffPolicy} {hosts : Int}
    {seen : List (Exchange services)} (hI : Lasting I) (h : I log ∧ seen.Sublist log) :
    Ensures (.logged likely) (Orderly o)
      (fun _ t => I t ∧ ∃ job, (seen ++ [o.jobLook (.ok (some job))]).Sublist t ∧
        succeeded job = hosts)
      (fun _ t => I t ∧ seen.Sublist t) (Action.retry policy (checkJob o hosts)) log :=
  Action.ensures_retry (fun _ p => logged_checkJob hI p) h

/-- A run of the job that is complete has been seen to be. -/
lemma logged_runJob {policy : BackoffPolicy} (hI : Lasting I) (h : I log) :
    Ensures (.logged likely) (Orderly o)
      (fun complete t => I t ∧ (complete = true → o.CleanupSeen schedulableNodes t))
      (fun _ => I) (runJob policy o) log := by
  refine ensures_bind (logged_request Orderly.get ?_ fun _ => hI _ _ h)
  intro v
  have h := hI _ (o.jobLook (.ok v)) h
  cases v with
  | some job =>
    refine ensures_pure ⟨h, fun complete => ?_⟩
    exact .complete job (List.mem_append_right _ List.mem_cons_self) (by simpa using complete)
  | none =>
    dsimp only
    refine ensures_bind (logged_request Orderly.list ?_ fun _ => hI _ _ h)
    refine fun nodes => ?_
    -- What is seen is a list that grows by one exchange at a time.
    have look : [o.jobLook (.ok none)].Sublist (log ++ [o.jobLook (.ok none)]) :=
      List.sublist_append_right _ _
    have seen := seen_snoc look (Overlay.nodeList (.ok nodes))
    have h := hI _ (Overlay.nodeList (.ok nodes)) h
    -- The number is kept as it is: to compare it with zero does not need its value.
    generalize number : schedulableNodes nodes = hosts
    by_cases some : hosts ≠ 0
    · rw [if_pos some]
      refine ensures_bind ((logged_createIfMissing rfl ?_ hI h).post ?_ fun _ _ p => p)
      · simp [Overlay.jobPlaces]
      rintro _ t ⟨h, reply, rfl⟩
      have seen := seen_snoc seen (o.jobStart hosts reply)
      refine ensures_bind ((logged_retry_checkJob hI ⟨h, seen⟩).post ?_ fun _ _ p => p.1)
      rintro _ t ⟨kept, job, looked, done⟩
      subst number
      exact ensures_pure ⟨kept, fun _ => .started nodes reply job looked some done⟩
    · rw [if_neg some]
      exact ensures_pure ⟨h, fun _ => .noHosts nodes seen (number.trans (not_not.1 some))⟩

lemma logged_removeAll (hI : Lasting I) (hn : ∀ t, I t → o.NotInUse t)
    (hc : ∀ t, I t → o.CleanedUp t) (h : I log) :
    Ensures (.logged likely) (Orderly o) (fun _ => I) (fun _ => I) (removeAll o) log := by
  have deleteNext {k : Kind} {ns : Option String} {name : String} {t : List (Exchange services)}
      (h : I t) : Ensures (.logged likely) (Orderly o) (fun _ => I) (fun _ => I)
        (k.deleteIfExists ns name) t :=
    logged_deleteIfExists (.delete (hn t h) (hc t h)) hI h
  refine ensures_bind ((deleteNext h).post (fun _ t h => ?_) fun _ _ p => p)
  refine ensures_bind ((deleteNext h).post (fun _ t h => ?_) fun _ _ p => p)
  refine ensures_bind ((deleteNext h).post (fun _ t h => ?_) fun _ _ p => p)
  exact ensures_bind ((deleteNext h).post (fun _ t h => ensures_pure h) fun _ _ p => p)

/-- A cleanup that goes on has been seen to be complete, and removes nothing before. -/
lemma logged_teardown {policy : BackoffPolicy} (h : o.NotInUse log) :
    Ensures (.logged likely) (Orderly o)
      (fun f t => f = .continue () → o.NotInUse t ∧ o.CleanedUp t) (fun _ => o.NotInUse)
      (teardown policy o) log := by
  refine ensures_bind (logged_request Orderly.list ?_ fun _ => lasting_notInUse _ _ h)
  intro pods
  -- As long as there are pods of the daemon, the cleanup waits.
  have notInUse := lasting_notInUse _ (o.daemonPods (.ok pods)) h
  split
  · exact ensures_pure nofun
  rename_i none
  obtain rfl : pods = [] := by simpa using none
  have lasting : Lasting fun log => o.NotInUse log ∧ o.DaemonGone log :=
    lasting_notInUse.and lasting_daemonGone
  have h : o.NotInUse (log ++ [o.daemonPods (.ok [])]) ∧ o.DaemonGone (log ++ [o.daemonPods (.ok [])]) :=
    ⟨notInUse, List.mem_append_right log List.mem_cons_self⟩
  refine ensures_bind ((logged_prepareNamespace lasting h).post ?_ fun _ _ p => p.1)
  intro terminating t h
  split
  · exact ensures_pure nofun
  -- Nothing of the cleanup is deleted before its job is complete.
  refine ensures_bind ((logged_createBindings ?_ lasting h).post ?_ fun _ _ p => p.1)
  · simp [Overlay.deletionBindings, Overlay.bindingManifest, Overlay.cleanupPlaces]
  intro _ t h
  refine ensures_bind ((logged_createIfMissing rfl ?_ lasting h).post ?_ fun _ _ p => p.1)
  · simp [Overlay.jobPlaces]
  rintro _ t ⟨h, -⟩
  refine ensures_bind ((logged_runJob lasting h).post ?_ fun _ _ p => p.1)
  rintro complete t ⟨h, seen⟩
  split
  · exact ensures_pure nofun
  rename_i done
  have cleaned : o.NotInUse t ∧ o.CleanedUp t := ⟨h.1, h.2, seen (by simpa using done)⟩
  refine ensures_bind ((logged_removeAll (lasting_notInUse.and lasting_cleanedUp) (fun _ p => p.1)
    (fun _ p => p.2) cleaned).post ?_ fun _ _ p => p.1)
  exact fun _ t cleaned => ensures_pure fun _ => cleaned

/-- What the cleanup made and the account of the network are deleted only after the cleanup. -/
lemma cleanup_orderly (policy : BackoffPolicy) :
    (cleanupResource policy).Deletes (.logged likely) (Orderly o) o o.NotInUse
      (fun _ => o.NotInUse) (fun t => o.NotInUse t ∧ o.CleanedUp t) where
  current log h := by
    have found : Ensures (.logged likely) (Orderly o) _ _
        (Kind.get .serviceAccounts (some o.networkNamespace) o.serviceAccount) log :=
      logged_get lasting_notInUse h
    exact ensures_bind (found.post (fun v t h => ensures_pure fun _ _ => h) fun _ _ p => p)
  desired v log h := ensures_pure h
  patch v d log h := ensures_pure ⟨nofun, fun _ _ => h⟩
  delete v log h := logged_teardown h

end Cleanup

section AfterCleanup

/-- Everything but the daemon set may be deleted. -/
def Overlay.Released (o : Overlay) (log : List (Exchange services)) : Prop :=
  o.NotInUse log ∧ o.CleanedUp log

lemma lasting_released : Lasting o.Released := lasting_notInUse.and lasting_cleanedUp

lemma Overlay.Released.delete {k : Kind} {ns : Option String} {name : String}
    (h : o.Released log) :
    Ensures (.logged likely) (Orderly o) (fun _ => o.Released) (fun _ => o.Released)
      (k.deleteIfExists ns name) log :=
  logged_deleteIfExists (.delete h.1 h.2) lasting_released h

lemma networkNamespace_orderly :
    networkNamespaceResource.Deletes (.logged likely) (Orderly o) o o.Released
      (fun _ => o.Released) o.Released where
  current log h := by
    refine ensures_bind ((logged_get lasting_released h).post ?_ fun _ _ p => p)
    exact fun v t h => ensures_pure fun _ _ => h
  desired v log h := ensures_pure h
  patch v d log h := ensures_pure ⟨fun _ => h, fun _ _ => h⟩
  delete v log h := by
    cases named : Option.bind v fun n : Namespace => n.metadata.name with
    | none =>
      rw [NetworkNamespace.delete_unnamed named]
      exact ensures_pure fun _ => h
    | some name =>
      rw [NetworkNamespace.delete_named named]
      exact ensures_bind (h.delete.post (fun _ t h => ensures_pure fun _ => h) fun _ _ p => p)

lemma storedNetwork_orderly :
    storedNetworkResource.Deletes (.logged likely) (Orderly o) o o.Released
      (fun _ => o.Released) o.Released where
  current log h := by
    have searched : Ensures (.logged likely) (Orderly o) (fun _ => o.Released)
        (fun _ => o.Released)
        ((Option.some <$> OperatorAction.ofStore (.search o.entryPath)).orElseIf Error.isNotFound none)
        log := by
      refine Action.ensures_orElseIf (ensures_map
        ((logged_storeRequest Orderly.search lasting_released h).post (fun _ _ p => p) ?_))
      intro e t h
      simpa only [ite_self] using h
    have fetched : Ensures (.logged likely) (Orderly o) (fun _ => o.Released)
        (fun _ => o.Released) (StoredNetwork.fetch o) log := by
      refine ensures_bind (searched.post ?_ fun _ _ p => p)
      intro v t h
      cases v with
      | none => exact ensures_pure h
      | some text =>
        refine Action.ensures_ofResult ?_
        cases NetworkEntry.parse text with
        | ok e => exact h
        | error e => exact h
    exact ensures_bind (fetched.post (fun v t h => ensures_pure fun _ _ => h) fun _ _ p => p)
  desired v log h := ensures_pure h
  patch v d log h := ensures_pure ⟨fun _ => h, fun _ _ => h⟩
  delete v log h := by
    have cleared : Ensures (.logged likely) (Orderly o) (fun _ => o.Released)
        (fun _ => o.Released) (StoredNetwork.clear o) log := by
      refine Action.ensures_orElseIf ((logged_storeRequest (.clear h.1 h.2) lasting_released h).post
        (fun _ _ p => p) ?_)
      intro e t h
      simpa only [ite_self] using h
    exact ensures_bind (cleared.post (fun _ t h => ensures_pure fun _ => h) fun _ _ p => p)

lemma logged_fetch {names : List String} (h : o.Released log) :
    Ensures (.logged likely) (Orderly o) (fun _ => o.Released) (fun _ => o.Released)
      (RoleBindings.fetch names) log := by
  induction names generalizing log with
  | nil => exact ensures_pure h
  | cons n rest ih =>
    refine ensures_bind ((logged_get lasting_released h).post (fun _ t h => ?_) fun _ _ p => p)
    exact ensures_bind ((ih h).post (fun _ t h => ensures_pure h) fun _ _ p => p)

lemma logged_deleteAll {bindings : List RoleBinding} (h : o.Released log) :
    Ensures (.logged likely) (Orderly o) (fun _ => o.Released) (fun _ => o.Released)
      (RoleBindings.deleteAll bindings) log := by
  induction bindings generalizing log with
  | nil => exact ensures_pure h
  | cons b rest ih => exact ensures_bind (h.delete.post (fun _ t h => ih h) fun _ _ p => p)

lemma roleBindings_orderly :
    roleBindingsResource.Deletes (.logged likely) (Orderly o) o o.Released
      (fun _ => o.Released) o.Released where
  current log h := by
    exact ensures_bind ((logged_fetch h).post (fun v t h => ensures_pure fun _ _ => h) fun _ _ p => p)
  desired v log h := ensures_pure h
  patch v d log h := ensures_pure ⟨fun _ => h, fun _ _ => h⟩
  delete v log h := by
    exact ensures_bind ((logged_deleteAll h).post (fun _ t h => ensures_pure fun _ => h) fun _ _ p => p)

end AfterCleanup

/-- Every call of a deletion pass fits into the order of a teardown, whatever is answered. -/
theorem ensures_orderly (c : SetConfig) (daemon : DaemonConfig) (own : Version)
    (deleted : o.isDeleted = true) :
    Ensures (.logged likely) (Orderly o) (fun _ _ => True) (fun _ _ => True)
      (runPass (Generation.shippedHandlers c daemon own) o true) log := by
  have pass : Ensures (.logged likely) (Orderly o) (fun r t => r = .done → o.Released t)
      (fun _ _ => True) (runPass (Generation.shippedHandlers c daemon own) o true) log := by
    -- The handlers run in reverse order.
    refine ensures_runHandlers_next
      ((daemon_orderly daemon own true deleted).ensure c.retry trivial) fun t h => ?_
    refine ensures_runHandlers_next ((cleanup_orderly c.teardown).ensure c.retry h) fun t h => ?_
    refine ensures_runHandlers_next (networkNamespace_orderly.ensure c.retry h) fun t h => ?_
    refine ensures_runHandlers_next (storedNetwork_orderly.ensure c.retry h) fun t h => ?_
    refine ensures_runHandlers_next (roleBindings_orderly.ensure c.retry h) fun t h => ?_
    exact ensures_runHandlers_nil h
  exact pass.post (fun _ _ _ => trivial) fun _ _ _ => trivial

/-- A list of nodes is shorter than the numbers of 31 bits reach. -/
def FewNodes (e : Exchange services) : Prop :=
  ∀ nodes, e = Overlay.nodeList (.ok nodes) → nodes.length < 2 ^ 31

/-- The number of nodes on which pods can be placed, if it fits. -/
lemma schedulableNodes_eq {nodes : List Node} (h : nodes.length < 2 ^ 31) :
    Cleanup.schedulableNodes nodes = (nodes.countP Cleanup.isSchedulable : Int) := by
  have le : nodes.countP Cleanup.isSchedulable ≤ nodes.length := List.countP_le_length
  have size : UInt32.size = 2 ^ 32 := rfl
  unfold Cleanup.schedulableNodes
  refine Int.bmod_eq_of_le_mul_two ?_ ?_
  · omega
  · omega

/-- Where no list of nodes was too long, the cleanup has been seen on as many hosts as there are. -/
lemma Overlay.CleanupSeen.counted (few : ∀ e ∈ log, FewNodes e)
    (h : o.CleanupSeen Cleanup.schedulableNodes log) :
    o.CleanupSeen (fun nodes => (nodes.countP Cleanup.isSchedulable : Int)) log := by
  have number {nodes : List Node} (m : Overlay.nodeList (.ok nodes) ∈ log) :
      Cleanup.schedulableNodes nodes = (nodes.countP Cleanup.isSchedulable : Int) :=
    schedulableNodes_eq (few _ m nodes rfl)
  cases h with
  | complete job seen done => exact .complete job seen done
  | noHosts nodes seen none =>
    have listed := seen.subset (List.mem_cons_of_mem _ List.mem_cons_self)
    exact .noHosts nodes seen ((number listed).symm.trans none)
  | started nodes reply job seen some done =>
    have listed := seen.subset (List.mem_cons_of_mem _ List.mem_cons_self)
    rw [number listed] at seen some done
    exact .started nodes reply job seen some done

/-- Whatever is answered, a deletion pass deletes the daemon set only after it has found the network
not to be in use, and anything else only after it has moreover found flannel's daemon to be gone and
the cleanup to be complete. -/
theorem teardown_in_order {c : SetConfig} {g : Generation} {set : ResourceSet services Overlay}
    (shipped : g.resourceSet c = .ok set) {o : Overlay} (deleted : o.isDeleted = true)
    {call : OperatorCall}
    {next : services.Answer call → Program services.withRuntime (Except PassError PassOutcome)}
    {log : List (Exchange services)}
    (reached : Program.Reaches (.logged FewNodes) ((runPass set.handlers o true).run, [])
      (.call (.outside call) next, log))
    (deletion : call.isDeletion = true) :
    o.NotInUse log ∧ (call ≠ o.daemonSetDeletion → o.DaemonGone log ∧
      o.CleanupSeen (fun nodes => (nodes.countP Cleanup.isSchedulable : Int)) log) := by
  obtain ⟨daemon, own, -, -, handlers⟩ := Generation.resourceSet_eq_ok shipped
  rw [handlers] at reached
  have orderly : Ensures (.logged FewNodes) (Orderly o) _ _ _ [] :=
    ensures_orderly c daemon own deleted
  -- At the start nothing has been answered, so no answer was unlikely.
  have nothing : ∀ e ∈ ([] : List (Exchange services)), FewNodes e := fun _ m =>
    absurd m List.not_mem_nil
  obtain ⟨fits, few⟩ := (Program.Ensures.keep orderly keeps_likely nothing).call_allowed reached
  refine ⟨fits.inUse deletion, fun other => ?_⟩
  obtain ⟨gone, seen⟩ := fits.cleanedUp deletion other
  exact ⟨gone, seen.counted few⟩

/-- Nothing is there, and every change is made. -/
def emptyAnswer : (c : OperatorCall) → services.Answer c
  | .cluster _ (.get ..) => .ok none
  | .cluster _ (.list ..) => .ok []
  | .cluster _ (.create _ o) | .cluster _ (.replace _ o) => .ok o
  | .cluster _ (.delete ..) => .ok ()
  | .store (.create ..) | .store (.delete _) => .ok ()
  | .store (.exists _) => .ok false
  | .store (.list _) => .ok []
  | .store (.search key) => .error (.notFound key)

/-- Such an answer, and the list of what has been asked and answered. -/
def emptyLogged (c : OperatorCall) (log : List (Exchange services)) :
    services.Answer c × List (Exchange services) :=
  (emptyAnswer c, log ++ [⟨c, emptyAnswer c⟩])

/-- Where there are neither pods nor nodes, the namespace of the cleanup is deleted first. -/
theorem teardown_in_order_emptyAnswer :
    ∃ (o : Overlay) (set : ResourceSet services Overlay) (log : List (Exchange services)),
      o = (Overlay.sample "a").markedDeleted { seconds := 0 } ∧
      (⟨Bundle.firstVersion, [localStoreEndpoint], false⟩ : Generation).resourceSet .sample = .ok set ∧
      (∃ next, Program.Reaches (.logged FewNodes) ((runPass set.handlers o true).run, [])
        (.call (.outside (.cluster .namespaces (.delete none o.destroyerNamespace))) next, log)) ∧
      o.NotInUse log ∧ o.DaemonGone log ∧
      o.CleanupSeen (fun nodes => (nodes.countP Cleanup.isSchedulable : Int)) log := by
  let o := (Overlay.sample "a").markedDeleted { seconds := 0 }
  have few (c : OperatorCall) (log : List (Exchange services)) :
      (Environment.logged FewNodes).answers c log (emptyLogged c log).1 (emptyLogged c log).2 := by
    refine ⟨fun nodes e => ?_, rfl⟩
    unfold Overlay.nodeList Exchange.cluster at e
    cases e
    decide
  obtain ⟨set, shipped, stops⟩ : ∃ set : ResourceSet services Overlay,
      (⟨Bundle.firstVersion, [localStoreEndpoint], false⟩ : Generation).resourceSet .sample = .ok set ∧
      ((runPass set.handlers o true).run.runTo emptyLogged OperatorCall.isDeletion []).1.nextCall? =
        some (.cluster .namespaces (.delete none o.destroyerNamespace)) := ⟨_, rfl, rfl⟩
  obtain ⟨next, reached⟩ := Program.reaches_nextCall few stops
  obtain ⟨notInUse, others⟩ := teardown_in_order shipped rfl reached rfl
  obtain ⟨gone, seen⟩ := others nofun
  exact ⟨o, set, _, rfl, shipped, ⟨next, reached⟩, notInUse, gone, seen⟩

end TenantOverlay
