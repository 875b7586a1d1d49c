import TenantOverlay.Handlers.Cleanup
import TenantOverlay.Proofs.Cluster.Alike
import TenantOverlay.Proofs.Operator.Memory
import TenantOverlay.Proofs.Overlay.Naming
import TenantOverlay.Proofs.Program.Congruence
import TenantOverlay.Rehearsal.Basic

/-!
# Two runs in the same circumstances

`Circumstances` are what a run depends on besides the services: what others do before a call, with which
failure a call ends, and how often the runtime leaves time for repetitions, all by the number of calls made
so far. `Circumstances.alikeButJob` relates programs that come to the same results in the same
circumstances, on services that are the same but for one job: the cleanup's, if it has been created in the
run, may be the one of either of two overlays (`MemoryServices.AlikeButJob`). Of such services every call
makes such services again, and only a look at the jobs can tell them apart (`AlikeButJob.answer`,
`alike_ofObject`).
-/

namespace TenantOverlay

open Program (Congruence)

/-- The services with other jobs. -/
def MemoryServices.withJobs (s : MemoryServices) (jobs : ObjectTable JobBody) : MemoryServices :=
  { s with cluster := { s.cluster with jobs := jobs } }

/-- The jobs with the progress of one of them reported. A report about a job that does not exist is lost. -/
def ObjectTable.report (jobs : ObjectTable JobBody) (namespaceName : Option String) (name : String)
    (status : Option JobStatus) : ObjectTable JobBody :=
  match jobs.get? namespaceName name with
  | none => jobs
  | some job => jobs.store namespaceName name { job with body := { job.body with status := status } }

/-- What others do to the services. -/
inductive Deed where
  | request (c : OperatorCall)
  | progress (namespaceName : Option String) (name : String) (status : Option JobStatus)

def Deed.apply : Deed → MemoryServices → MemoryServices
  | .request c, s => (s.answer c).2
  | .progress ns name status, s => s.withJobs (s.cluster.jobs.report ns name status)

/-- What a run depends on besides the services. -/
structure Circumstances where
  /-- What others do before a call. -/
  others : Nat → List Deed := fun _ => []
  /-- The failure with which a call ends, and whether it has done its work nevertheless. -/
  fault : Nat → Option (Error × Bool) := fun _ => none
  repetitions : Nat → BackoffPolicy → Nat := fun _ _ => 0

/-- The place at which a call puts an object where there has been none. -/
def MemoryServices.creates? (s : MemoryServices) (c : OperatorCall) : Option Place :=
  c.stores?.filter fun p => (s.object? p).isNone && ((s.answer c).2.object? p).isSome

/-- The state of a run. -/
structure Moment where
  services : MemoryServices
  /-- The number of calls that have been made. -/
  time : Nat := 0
  /-- The places at which calls of the run have created objects. -/
  created : List Place := []

namespace Circumstances

variable (w : Circumstances)

/-- The services as a call finds them. -/
def before (m : Moment) : MemoryServices := (w.others m.time).foldl (fun s d => d.apply s) m.services

/-- The state after a call that has done its work. -/
def after (c : OperatorCall) (m : Moment) : Moment where
  services := ((w.before m).answer c).2
  time := m.time + 1
  created := ((w.before m).creates? c).toList ++ m.created

/-- Answers a call to a service. -/
def answerCall (c : OperatorCall) (m : Moment) : services.Answer c × Moment :=
  match w.fault m.time with
  | none => (((w.before m).answer c).1, w.after c m)
  | some (e, true) => (c.failed e, w.after c m)
  | some (e, false) => (c.failed e, { m with services := w.before m, time := m.time + 1 })

/-- Answers a call to a service or to the runtime. -/
def answer : (c : services.withRuntime.Call) → Moment → services.withRuntime.Answer c × Moment
  | .outside c, m => w.answerCall c m
  | .repetitions policy, m => (w.repetitions m.time policy, { m with time := m.time + 1 })
  | .record _, m => ((), m)

/-- Runs an operation. -/
def run {ε α : Type} (a : Fallible services ε α) (s : MemoryServices) : Except ε α × Moment :=
  Program.run w.answer (ExceptT.run a) { services := s }

end Circumstances

/-! ### Services that are the same but for a job -/

namespace Overlay

/-- The creation of the cleanup's job in a namespace. -/
abbrev jobCreation (o : Overlay) (namespaceName : String) (hosts : Int) : OperatorCall :=
  .cluster .jobs (.create (some namespaceName) (o.cleanupJob hosts))

variable {o o' : Overlay} {made made' : Prop} {key : ObjectKey} {job job' : Job}

/-- Two jobs with the same state, each made for one of two overlays and for the same number of hosts. -/
structure JobsAlike (o o' : Overlay) (job job' : Job) : Prop where
  metadata : job.metadata = job'.metadata
  status : job.body.status = job'.body.status
  spec : ∃ hosts, job.body.spec = (o.cleanupJob hosts).body.spec ∧
    job'.body.spec = (o'.cleanupJob hosts).body.spec

/-- The jobs under a key are the same, or they are the cleanup's, which has been made for one of two
overlays. -/
def SameOrMade (o o' : Overlay) (made : Prop) (key : ObjectKey) (job job' : Job) : Prop :=
  job = job' ∨ made ∧ key = o.jobPlace.key ∧ o.JobsAlike o' job job'

lemma SameOrMade.mono (imp : made → made') (key : ObjectKey) (job job' : Job)
    (h : o.SameOrMade o' made key job job') : o.SameOrMade o' made' key job job' :=
  h.imp_right fun h => ⟨imp h.1, h.2⟩

lemma SameOrMade.refl (key : ObjectKey) (job : Job) : o.SameOrMade o' made key job job := .inl rfl

lemma SameOrMade.metadata (key : ObjectKey) (job job' : Job) (h : o.SameOrMade o' made key job job') :
    job.metadata = job'.metadata := by
  obtain rfl | ⟨-, -, h⟩ := h
  · rfl
  · exact h.metadata

/-- Both jobs have run on the same number of hosts. -/
lemma SameOrMade.succeeded (h : o.SameOrMade o' made key job job') :
    Cleanup.succeeded job = Cleanup.succeeded job' := by
  obtain rfl | ⟨-, -, h⟩ := h
  · rfl
  · unfold Cleanup.succeeded
    rw [h.status]

/-- Both jobs have to run on the same number of hosts. -/
lemma SameOrMade.completions (h : o.SameOrMade o' made key job job') :
    Cleanup.completions job = Cleanup.completions job' := by
  obtain rfl | ⟨-, -, h⟩ := h
  · rfl
  · obtain ⟨hosts, left, right⟩ := h.spec
    unfold Cleanup.completions
    rw [left, right]
    rfl

/-- What two looks at a job find: the same failure, no job, or jobs that are the same or made for one of two
overlays. -/
inductive FoundAlike (o o' : Overlay) (key : ObjectKey) :
    Result (Option Job) → Result (Option Job) → Prop where
  | failed (e : Error) : FoundAlike o o' key (.error e) (.error e)
  | found {x y : Option Job} : Option.Rel (o.SameOrMade o' True key) x y → FoundAlike o o' key (.ok x) (.ok y)

end Overlay

namespace MemoryServices

variable {o o' : Overlay} {made : Prop} {s t : MemoryServices}

/-- Services that are the same, except that the job of the cleanup, if it has been made, may be made for one
or the other of two overlays. -/
structure AlikeButJob (o o' : Overlay) (made : Prop) (s t : MemoryServices) : Prop where
  store : s.store = t.store
  table {k : Kind} : k ≠ .jobs → s.cluster.table k = t.cluster.table k
  jobs : ObjectTable.Alike (o.SameOrMade o' made) s.cluster.jobs t.cluster.jobs

/-- The job of the cleanup is created where there is none. -/
lemma creates?_job {hosts : Int} (vacant : s.object? o.jobPlace = none) :
    s.creates? (o.jobCreation o.destroyerNamespace hosts) = some o.jobPlace := by
  have stored : (s.answer (o.jobCreation o.destroyerNamespace hosts)).2.object? o.jobPlace = some _ :=
    object?_answer_create rfl
  unfold creates?
  show Option.filter _ (some o.jobPlace) = some o.jobPlace
  rw [Option.filter_some, vacant, stored]
  rfl

namespace AlikeButJob

lemma refl (s : MemoryServices) : s.AlikeButJob o o' made s where
  store := rfl
  table _ := rfl
  jobs := {
    nextVersion := rfl
    objects key := by
      cases s.cluster.jobs.objects.get? key with
      | none => exact .none
      | some job => exact .some (.inl rfl) }

lemma mono {made' : Prop} (h : s.AlikeButJob o o' made t) (imp : made → made') :
    s.AlikeButJob o o' made' t where
  store := h.store
  table := h.table
  jobs := h.jobs.mono (Overlay.SameOrMade.mono imp)

/-- Requests about the store are answered the same. -/
lemma reply_store (h : s.AlikeButJob o o' made t) (request : StoreRequest) :
    (s.answer (.store request)).1 = (t.answer (.store request)).1 := by
  show (s.store.answer request).1 = (t.store.answer request).1
  rw [h.store]

/-- Requests about other objects than jobs are answered the same. -/
lemma reply_cluster (h : s.AlikeButJob o o' made t) {k : Kind} (other : k ≠ .jobs)
    (request : ObjectRequest k.Body) :
    (s.answer (.cluster k request)).1 = (t.answer (.cluster k request)).1 := by
  show ((s.cluster.table k).answer request).1 = ((t.cluster.table k).answer request).1
  rw [h.table other]

/-- Jobs that are alike leave the services alike. -/
lemma withJobs (h : s.AlikeButJob o o' made t) {jobs jobs' : ObjectTable JobBody}
    (alike : ObjectTable.Alike (o.SameOrMade o' made) jobs jobs') :
    (s.withJobs jobs).AlikeButJob o o' made (t.withJobs jobs') where
  store := h.store
  table {k} other := by
    have same : s.cluster.table k = t.cluster.table k := h.table other
    cases k with
    | jobs => exact absurd rfl other
    | namespaces | serviceAccounts | roleBindings | daemonSets | pods | nodes | overlays => exact same
  jobs := alike

/-- Calls leave services alike. -/
theorem answer (h : s.AlikeButJob o o' made t) (c : OperatorCall) :
    (s.answer c).2.AlikeButJob o o' made (t.answer c).2 := by
  cases c with
  | store request =>
    exact {
      store := congrArg (fun tree : KeyTree => (tree.answer request).2) h.store
      table := h.table
      jobs := h.jobs }
  | cluster k request =>
    by_cases e : k = .jobs
    · subst e
      -- Related jobs have the same metadata, which is all that a request depends on.
      exact h.withJobs (h.jobs.answer Overlay.SameOrMade.refl Overlay.SameOrMade.metadata request)
    · have jobs (s : MemoryServices) : (s.answer (.cluster k request)).2.cluster.jobs = s.cluster.jobs :=
        table_answer_of_ne (k := k) (l := .jobs) request (Ne.symm e)
      refine { store := h.store, table := fun {l} ne => ?_, jobs := ?_ }
      · by_cases same : l = k
        · subst same
          rw [table_answer, table_answer, h.table ne]
        · rw [table_answer_of_ne _ same, table_answer_of_ne _ same, h.table ne]
      · rw [jobs, jobs]
        exact h.jobs

/-- Whichever of the two overlays it is made for, the job of the cleanup is created or refused, for the same
reason. -/
lemma createJob (h : s.AlikeButJob o o' made t) {hosts : Int}
    (metadata : (o.cleanupJob hosts).metadata = (o'.cleanupJob hosts).metadata) :
    (s.answer (o.jobCreation o.destroyerNamespace hosts)).1.map (fun _ => ()) =
        (t.answer (o'.jobCreation o.destroyerNamespace hosts)).1.map (fun _ => ()) ∧
      (s.answer (o.jobCreation o.destroyerNamespace hosts)).2.AlikeButJob o o'
        (s.creates? (o.jobCreation o.destroyerNamespace hosts) = some o.jobPlace ∨ made)
        (t.answer (o'.jobCreation o.destroyerNamespace hosts)).2 := by
  have named : (o.cleanupJob hosts).metadata.name = (o'.cleanupJob hosts).metadata.name := rfl
  have later : s.AlikeButJob o o'
      (s.creates? (o.jobCreation o.destroyerNamespace hosts) = some o.jobPlace ∨ made) t := h.mono .inr
  obtain ⟨reply, alike⟩ := later.jobs.create (some o.destroyerNamespace) named fun name given vacant => by
    -- Where there is no job yet, the two that are created may differ from now on.
    cases given
    refine .inr ⟨.inl (creates?_job vacant), rfl, ?_, rfl, ⟨hosts, rfl, rfl⟩⟩
    unfold ObjectTable.stamped
    dsimp only
    rw [metadata, h.jobs.nextVersion]
  exact ⟨reply, later.withJobs alike⟩

/-- Reports leave jobs alike. -/
lemma report (h : s.AlikeButJob o o' made t) (ns : Option String) (name : String)
    (status : Option JobStatus) :
    ObjectTable.Alike (o.SameOrMade o' made) (s.cluster.jobs.report ns name status)
      (t.cluster.jobs.report ns name status) := by
  unfold ObjectTable.report
  obtain ⟨left, right⟩ | ⟨job, job', left, right, related⟩ := h.jobs.get?_cases ns name
  · rw [left, right]
    exact h.jobs
  · rw [left, right]
    refine h.jobs.store ?_
    obtain rfl | ⟨made, place, alike⟩ := related
    · refine .inl ?_
      rw [h.jobs.stamped]
    · refine .inr ⟨made, place, ?_, rfl, alike.spec⟩
      unfold ObjectTable.stamped
      dsimp only
      rw [alike.metadata, h.jobs.nextVersion]

/-- What others do leaves services alike. -/
lemma deed (h : s.AlikeButJob o o' made t) (d : Deed) : (d.apply s).AlikeButJob o o' made (d.apply t) := by
  cases d with
  | request c => exact h.answer c
  | progress ns name status => exact h.withJobs (h.report ns name status)

end AlikeButJob

end MemoryServices

/-! ### Runs -/

/-- The same time, with services that are alike. -/
structure Moment.AlikeButJob (o o' : Overlay) (m m' : Moment) : Prop where
  time : m.time = m'.time
  services : m.services.AlikeButJob o o' (o.jobPlace ∈ m.created) m'.services

namespace Circumstances

variable {w : Circumstances} {o o' : Overlay} {m m' : Moment} {k : Kind}

/-- Programs that come to the same results in the same circumstances, on services that are alike. -/
def alikeButJob (w : Circumstances) (o o' : Overlay) : Congruence services.withRuntime :=
  .ofRuns w.answer (Moment.AlikeButJob o o')

lemma timed : (w.alikeButJob o o').Timed where
  repetitions policy m m' h := by
    refine ⟨?_, congrArg (· + 1) h.time, h.services⟩
    show w.repetitions m.time policy = w.repetitions m'.time policy
    rw [h.time]
  record sample m m' h := ⟨rfl, h⟩

/-- Others leave services alike. -/
lemma before_alike (h : m.AlikeButJob o o' m') :
    (w.before m).AlikeButJob o o' (o.jobPlace ∈ m.created) (w.before m') := by
  unfold before
  rw [h.time]
  have deeds (ds : List Deed) : ∀ s t : MemoryServices, s.AlikeButJob o o' (o.jobPlace ∈ m.created) t →
      (ds.foldl (fun s d => d.apply s) s).AlikeButJob o o' (o.jobPlace ∈ m.created)
        (ds.foldl (fun s d => d.apply s) t) := by
    induction ds with
    | nil => exact fun _ _ h => h
    | cons d ds ih => exact fun s t h => ih _ _ (h.deed d)
  exact deeds _ _ _ h.services

/-- Two calls are answered alike, whether or not the job of the cleanup has been made before. -/
structure CallsAlike (o o' : Overlay) (c c' : OperatorCall)
    (Answers : services.Answer c → services.Answer c' → Prop) : Prop where
  failed (e : Error) : Answers (c.failed e) (c'.failed e)
  called {made : Prop} {s t : MemoryServices} : s.AlikeButJob o o' made t →
    Answers (s.answer c).1 (t.answer c').1 ∧
      (s.answer c).2.AlikeButJob o o' (s.creates? c = some o.jobPlace ∨ made) (t.answer c').2

variable {α : Type} {c c' : OperatorCall} {Answers : services.Answer c → services.Answer c' → Prop}

/-- Programs with calls that are answered alike are related if they go on alike. -/
lemma CallsAlike.alike (h : CallsAlike o o' c c' Answers)
    {next : services.Answer c → Program services.withRuntime α}
    {next' : services.Answer c' → Program services.withRuntime α}
    (rest : ∀ x y, Answers x y → (w.alikeButJob o o').Rel (next x) (next' y)) :
    (w.alikeButJob o o').Rel (.call (.outside c) next) (.call (.outside c') next') := by
  refine Congruence.ofRuns_call Answers (fun m m' alike => ?_) rest
  obtain ⟨answers, after⟩ := h.called (before_alike (w := w) alike)
  have worked : (w.after c m).AlikeButJob o o' (w.after c' m') := by
    refine ⟨congrArg (· + 1) alike.time, after.mono fun made => ?_⟩
    obtain created | before := made
    · exact List.mem_append_left _ (Option.mem_toList.2 created)
    · exact List.mem_append_right _ before
  show Answers (w.answerCall c m).1 (w.answerCall c' m').1 ∧
    (w.answerCall c m).2.AlikeButJob o o' (w.answerCall c' m').2
  unfold answerCall
  rw [← alike.time]
  match w.fault m.time with
  | none => exact ⟨answers, worked⟩
  | some (e, true) => exact ⟨h.failed e, worked⟩
  | some (e, false) => exact ⟨h.failed e, rfl, before_alike alike⟩

/-- A request about other objects than jobs. -/
lemma alike_ofObject (other : k ≠ .jobs) (request : ObjectRequest k.Body) :
    (w.alikeButJob o o').Alike (OperatorAction.ofObject k request) (OperatorAction.ofObject k request) := by
  have same : CallsAlike o o' (.cluster k request) (.cluster k request) Eq :=
    ⟨fun _ => rfl, fun h => ⟨h.reply_cluster other request, (h.answer _).mono .inr⟩⟩
  refine same.alike ?_
  rintro x _ rfl
  exact Congruence.ofResult x

/-- A request to the store. -/
lemma alike_ofStore (request : StoreRequest) :
    (w.alikeButJob o o').Alike (OperatorAction.ofStore request) (OperatorAction.ofStore request) := by
  have same : CallsAlike o o' (.store request) (.store request) Eq :=
    ⟨fun _ => rfl, fun h => ⟨h.reply_store request, (h.answer _).mono .inr⟩⟩
  refine same.alike ?_
  rintro x _ rfl
  exact Congruence.ofResult x

lemma alike_createIfMissing (other : k ≠ .jobs) (ns : Option String) (v : k.Object) :
    (w.alikeButJob o o').Alike (k.createIfMissing ns v) (k.createIfMissing ns v) :=
  Congruence.orElseIf _ _ (Congruence.fallible_bind (alike_ofObject other _) fun _ => Congruence.pure _)

lemma alike_deleteIfExists (other : k ≠ .jobs) (ns : Option String) (name : String) :
    (w.alikeButJob o o').Alike (k.deleteIfExists ns name) (k.deleteIfExists ns name) :=
  Congruence.orElseIf _ _ (Congruence.fallible_bind (alike_ofObject other _) fun _ => Congruence.pure _)

/-- A look at a job, after which programs go on alike whichever overlay it is made for. -/
lemma alike_getJob {f g : Option Job → OperatorAction α} {ns : Option String} {name : String}
    (none : (w.alikeButJob o o').Alike (f none) (g none))
    (some : ∀ job job', o.SameOrMade o' True (.of ns name) job job' →
      (w.alikeButJob o o').Alike (f (some job)) (g (some job'))) :
    (w.alikeButJob o o').Alike (Kind.get .jobs ns name >>= f) (Kind.get .jobs ns name >>= g) := by
  have looks : CallsAlike o o' (.cluster .jobs (.get ns name)) (.cluster .jobs (.get ns name))
      (o.FoundAlike o' (.of ns name)) :=
    ⟨.failed, fun h => ⟨.found ((h.mono fun _ => trivial).jobs.objects _), (h.answer _).mono .inr⟩⟩
  refine looks.alike fun x y related => ?_
  cases related with
  | failed e => exact Congruence.ofResult (.error e)
  | found related =>
    cases related with
    | none => exact none
    | some related => exact some _ _ related

/-- The creation of the cleanup's job. -/
lemma alike_createJob {hosts : Int}
    (metadata : (o.cleanupJob hosts).metadata = (o'.cleanupJob hosts).metadata) :
    (w.alikeButJob o o').Alike
      (Kind.createIfMissing .jobs (some o.destroyerNamespace) (o.cleanupJob hosts))
      (Kind.createIfMissing .jobs (some o.destroyerNamespace) (o'.cleanupJob hosts)) := by
  have creations : CallsAlike o o' (o.jobCreation o.destroyerNamespace hosts)
      (o'.jobCreation o.destroyerNamespace hosts) fun x y => x.map (fun _ => ()) = y.map (fun _ => ()) :=
    ⟨fun _ => rfl, fun h => h.createJob metadata⟩
  refine Congruence.orElseIf _ _ (creations.alike ?_)
  rintro (e | x) (e' | y) same
  all_goals cases same
  · exact Congruence.ofResult (.error e)
  · exact Congruence.pure true

end Circumstances

end TenantOverlay
