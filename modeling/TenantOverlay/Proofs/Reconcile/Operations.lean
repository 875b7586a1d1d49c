import TenantOverlay.Proofs.Program.Courses
import TenantOverlay.Reconcile.Pass

/-!
# The operations of a handler

A handler of a resource consists of operations of that resource, its `Task`s: it asks for the current
state, for the desired one and for a patch, and then makes the changes that are `due`. `Handler.ensure` is
the same for a living and for a deleted object but for the patch that is asked for and the changes that are
due (`Resource.ensure_eq`). So a course of a handler is a list of operations with their results, in the order
that `Follows` states (`course_ensureBy_iff`): the first one that fails or gives a signal is the last.
-/

namespace TenantOverlay

open Fallible

/-- A change of a resource, made with a state. -/
inductive Patch.Change (State : Type) where
  | create (s : State)
  | update (s : State)
  | delete (s : State)

/-- What a resource is asked to do for a handler. -/
inductive Task (State : Type) where
  | current
  | desired
  /-- The patch of a living or of a deleted object. -/
  | patch (deleting : Bool) (current desired : State)
  | change (c : Patch.Change State)

namespace Task

variable {State : Type}

/-- What comes of a task that does not fail. -/
def Answer : Task State → Type
  | current => Flow State
  | desired => State
  | patch .. => Patch State
  | change _ => Flow Unit

/-- The stage of a handler at which it gives out a task. -/
def stage : Task State → Stage
  | current => .fetchingCurrent
  | desired => .fetchingDesired
  | patch .. => .computingPatch
  | change _ => .applying

/-- The operation as which a task is counted. Patches are not counted. -/
def operation? : Task State → Option Operation
  | current => some .currentState
  | desired => some .desiredState
  | patch .. => none
  | change (.create _) => some .create
  | change (.update _) => some .update
  | change (.delete _) => some .delete

/-- A task is one of a pass over a living object, or of one over a deleted object. -/
def Fits (deleting : Bool) : Task State → Prop
  | current | desired => True
  | patch d _ _ => d = deleting
  | change (.create _) | change (.update _) => deleting = false
  | change (.delete _) => deleting = true

end Task

/-- The changes that are due: those of a living object are created and then updated, and those of a deleted
one are deleted. -/
def Patch.due {State : Type} (deleting : Bool) (p : Patch State) : List (Patch.Change State) :=
  if deleting then (p.delete.map .delete).toList
  else (p.create.map .create).toList ++ (p.update.map .update).toList

section Handler

variable {S : Signature} {O State : Type}

/-- A resource does what it is asked to do for an object. -/
def Resource.perform (r : Resource S O) (o : O) : (t : Task r.State) → Action S t.Answer
  | .current => r.current o
  | .desired => r.desired o
  | .patch false current desired => r.updatePatch o current desired
  | .patch true current desired => r.deletePatch o current desired
  | .change (.create s) => r.create o s
  | .change (.update s) => r.update o s
  | .change (.delete s) => r.delete o s

/-- A step of a handler of a name, at a stage. -/
def atStage {α : Type} (name : String) (stage : Stage) (a : Action S α) : Fallible S PassError α :=
  ExceptT.adapt (fun e => ⟨name, stage, e⟩) a

/-- Makes changes up to the first one that gives a signal. -/
def makeAll (name : String) (perform : (t : Task State) → Action S t.Answer) :
    List (Patch.Change State) → Fallible S PassError (Flow Unit)
  | [] => pure .proceed
  | c :: rest => do
    match ← atStage name .applying (perform (.change c)) with
    | .continue () => makeAll name perform rest
    | .cancel => return .cancel
    | .keepFinalizer => return .keepFinalizer

/-- What a handler of a name does, given how each task is performed. -/
def ensureBy (name : String) (deleting : Bool) (perform : (t : Task State) → Action S t.Answer) :
    Fallible S PassError (Flow Unit) := do
  match ← atStage name .fetchingCurrent (perform .current) with
  | .cancel => return .cancel
  | .keepFinalizer => return .keepFinalizer
  | .continue current =>
    let desired ← atStage name .fetchingDesired (perform .desired)
    let patch ← atStage name .computingPatch (perform (.patch deleting current desired))
    makeAll name perform (Patch.due deleting patch)

/-- What the last change gives is passed on. -/
lemma makeAll_singleton (name : String) (perform : (t : Task State) → Action S t.Answer)
    (c : Patch.Change State) : makeAll name perform [c] = atStage name .applying (perform (.change c)) := by
  refine Eq.trans ?_ (bind_pure _)
  unfold makeAll
  refine congrArg (bind _) (funext fun flow => ?_)
  cases flow <;> rfl

variable {r : Resource S O} {o : O}

lemma Resource.apply_delete (p : Patch r.State) :
    r.apply (r.delete o) p.delete = makeAll r.name (r.perform o) (p.due true) := by
  unfold Patch.due
  cases p.delete with
  | none => rfl
  | some s => exact (makeAll_singleton r.name (r.perform o) (.delete s)).symm

lemma Resource.apply_update (p : Patch r.State) :
    r.apply (r.update o) p.update = makeAll r.name (r.perform o) (p.update.map .update).toList := by
  cases p.update with
  | none => rfl
  | some s => exact (makeAll_singleton r.name (r.perform o) (.update s)).symm

/-- What a handler does for a living and for a deleted object. -/
theorem Resource.ensure_eq (r : Resource S O) (deleting : Bool) (o : O) :
    r.handler.ensure deleting o = ensureBy r.name deleting (r.perform o) := by
  cases deleting with
  | true =>
    refine congrArg (bind (r.atStage .fetchingCurrent (r.current o))) (funext fun flow => ?_)
    cases flow with
    | cancel | keepFinalizer => rfl
    | «continue» current =>
      refine congrArg (bind _) (funext fun desired => congrArg (bind _) (funext fun patch => ?_))
      exact apply_delete patch
  | false =>
    refine congrArg (bind (r.atStage .fetchingCurrent (r.current o))) (funext fun flow => ?_)
    cases flow with
    | cancel | keepFinalizer => rfl
    | «continue» current =>
      refine congrArg (bind _) (funext fun desired => congrArg (bind _) (funext fun patch => ?_))
      unfold Patch.due
      -- The update follows the creation, if there is one and it goes on.
      cases patch.create with
      | none => exact apply_update patch
      | some s =>
        refine congrArg (bind _) (funext fun flow => ?_)
        cases flow with
        | cancel | keepFinalizer => rfl
        | «continue» _ => exact apply_update patch

/-- An operation, repeated if there is a policy for it. -/
def Action.under {α : Type} (policy? : Option BackoffPolicy) (a : Action S α) : Action S α :=
  match policy? with
  | none => a
  | some policy => a.retry policy

/-- All tasks of a handler are repeated but the patches. -/
lemma Resource.ensure_repeated (r : Resource S O) (policy : BackoffPolicy) (deleting : Bool) (o : O) :
    (r.repeated policy).handler.ensure deleting o =
      ensureBy r.name deleting fun t => (r.perform o t).under (t.operation?.map fun _ => policy) := by
  refine (ensure_eq _ deleting o).trans (congrArg (ensureBy r.name deleting) (funext fun t => ?_))
  rcases t with _ | _ | ⟨_ | _⟩ | ⟨_ | _⟩ <;> rfl

end Handler

/-- A task that has been performed, what has come of it, and a note of what was done for it. -/
structure Performed (State Note : Type) where
  task : Task State
  result : Result task.Answer
  note : Note

section Order

variable {State Note : Type}

/-- Changes are made one after the other, up to the first one that fails or gives a signal. -/
inductive MakesAll (name : String) :
    List (Patch.Change State) → List (Performed State Note) → Except PassError (Flow Unit) → Prop where
  | all : MakesAll name [] [] (.ok .proceed)
  | next {c rest steps v n} : MakesAll name rest steps v →
    MakesAll name (c :: rest) (⟨.change c, .ok .proceed, n⟩ :: steps) v
  | canceled {c rest n} : MakesAll name (c :: rest) [⟨.change c, .ok .cancel, n⟩] (.ok .cancel)
  | kept {c rest n} : MakesAll name (c :: rest) [⟨.change c, .ok .keepFinalizer, n⟩] (.ok .keepFinalizer)
  | failed {c rest e n} :
    MakesAll name (c :: rest) [⟨.change c, .error e, n⟩] (.error ⟨name, .applying, e⟩)

/-- The tasks that a handler of a name has performed, in their order, and what it has come to. -/
inductive Follows (name : String) (deleting : Bool) :
    List (Performed State Note) → Except PassError (Flow Unit) → Prop where
  | currentFailed {e n} :
    Follows name deleting [⟨.current, .error e, n⟩] (.error ⟨name, .fetchingCurrent, e⟩)
  | canceled {n} : Follows name deleting [⟨.current, .ok .cancel, n⟩] (.ok .cancel)
  | kept {n} : Follows name deleting [⟨.current, .ok .keepFinalizer, n⟩] (.ok .keepFinalizer)
  | desiredFailed {current e n m} :
    Follows name deleting [⟨.current, .ok (.continue current), n⟩, ⟨.desired, .error e, m⟩]
      (.error ⟨name, .fetchingDesired, e⟩)
  | patchFailed {current desired e n m k} :
    Follows name deleting [⟨.current, .ok (.continue current), n⟩, ⟨.desired, .ok desired, m⟩,
      ⟨.patch deleting current desired, .error e, k⟩] (.error ⟨name, .computingPatch, e⟩)
  | changes {current desired steps v n m k} {p : Patch State} : MakesAll name (p.due deleting) steps v →
    Follows name deleting (⟨.current, .ok (.continue current), n⟩ :: ⟨.desired, .ok desired, m⟩ ::
      ⟨.patch deleting current desired, .ok p, k⟩ :: steps) v

/-- A handler has failed if a task has failed: with its name, at the stage of that task. -/
lemma MakesAll.failed_iff {name : String} {changes : List (Patch.Change State)}
    {steps : List (Performed State Note)} {v : Except PassError (Flow Unit)}
    (h : MakesAll name changes steps v) {e : PassError} :
    v = .error e ↔ e.resource = name ∧ ∃ s ∈ steps, s.task.stage = e.stage ∧ s.result = .error e.cause := by
  obtain ⟨resource, stage, cause⟩ := e
  induction h with
  | all => simp
  | next _ ih => simp [ih]
  | canceled | kept => simp
  | failed => simp [Task.stage, eq_comm]

/-- No change is made that is not due. -/
lemma MakesAll.fits {name : String} {deleting : Bool} {p : Patch State} {changes : List (Patch.Change State)}
    {steps : List (Performed State Note)} {v : Except PassError (Flow Unit)}
    (h : MakesAll name changes steps v) (due : changes ⊆ p.due deleting) : ∀ s ∈ steps, s.task.Fits deleting := by
  have fits : ∀ c ∈ p.due deleting, (Task.change c).Fits deleting := by
    intro c m
    cases deleting <;> simp [Patch.due] at m <;> grind [Task.Fits]
  induction h with
  | all => simp
  | next _ ih =>
    intro s m
    obtain rfl | m := List.mem_cons.1 m
    · exact fits _ (due List.mem_cons_self)
    · exact ih (fun c m => due (List.mem_cons_of_mem _ m)) s m
  | canceled | kept | failed =>
    intro s m
    obtain rfl := List.mem_singleton.1 m
    exact fits _ (due List.mem_cons_self)

lemma Follows.failed_iff {name : String} {deleting : Bool} {steps : List (Performed State Note)}
    {v : Except PassError (Flow Unit)} (h : Follows name deleting steps v) {e : PassError} :
    v = .error e ↔ e.resource = name ∧ ∃ s ∈ steps, s.task.stage = e.stage ∧ s.result = .error e.cause := by
  obtain ⟨resource, stage, cause⟩ := e
  cases h with
  | canceled | kept => simp
  | changes made => simp [made.failed_iff]
  | _ => simp [Task.stage, eq_comm]

/-- A handler of a living object deletes nothing, and one of a deleted object creates and updates
nothing. -/
lemma Follows.fits {name : String} {deleting : Bool} {steps : List (Performed State Note)}
    {v : Except PassError (Flow Unit)} (h : Follows name deleting steps v) :
    ∀ s ∈ steps, s.task.Fits deleting := by
  cases h with
  | changes made =>
    have fits := made.fits (List.Subset.refl _)
    simpa [Task.Fits] using fits
  | _ => simp [Task.Fits]

end Order

section Courses

variable {S : Signature} {O State Note : Type}

/-- The courses of tasks are those that some notes stand for. -/
def Described (perform : (t : Task State) → Action S t.Answer)
    (valid : (t : Task State) → Result t.Answer → Note → Prop)
    (log : Task State → Note → List (Exchange S.withRuntime)) : Prop :=
  ∀ t l x, Course (perform t) l x ↔ ∃ n, valid t x n ∧ l = log t n

variable {name : String} {deleting : Bool} {perform : (t : Task State) → Action S t.Answer}
  {valid : (t : Task State) → Result t.Answer → Note → Prop}
  {log : Task State → Note → List (Exchange S.withRuntime)} {l : List (Exchange S.withRuntime)}
  {v : Except PassError (Flow Unit)}

variable (valid log) in
/-- Performed tasks, as valid notes say, and the course that they make. -/
structure Noted (steps : List (Performed State Note)) (l : List (Exchange S.withRuntime)) : Prop where
  valid : ∀ s ∈ steps, valid s.task s.result s.note
  log : l = steps.flatMap fun s => log s.task s.note

variable {steps : List (Performed State Note)}

lemma noted_nil_iff : Noted valid log [] l ↔ l = [] :=
  ⟨fun h => h.log, fun h => ⟨nofun, h⟩⟩

lemma noted_cons_iff {s : Performed State Note} : Noted valid log (s :: steps) l ↔
    ∃ rest, valid s.task s.result s.note ∧ l = log s.task s.note ++ rest ∧ Noted valid log steps rest := by
  constructor
  · rintro ⟨each, rfl⟩
    obtain ⟨first, others⟩ := List.forall_mem_cons.1 each
    exact ⟨_, first, rfl, others, rfl⟩
  · rintro ⟨_, first, rfl, others, rfl⟩
    exact ⟨List.forall_mem_cons.2 ⟨first, others⟩, rfl⟩

variable {t : Task State} {stage : Stage} {f : t.Answer → Fallible S PassError (Flow Unit)}

/-- A course that begins with a task: the task fails and is the last one, or something goes on with what
has come of it. -/
lemma Described.begins (h : Described perform valid log)
    (course : Course (atStage name stage (perform t) >>= f) l v) :
    (∃ e n, Noted valid log [⟨t, .error e, n⟩] l ∧ v = .error ⟨name, stage, e⟩) ∨
      ∃ x n rest, Course (f x) rest v ∧
        ∀ steps, Noted valid log steps rest → Noted valid log (⟨t, .ok x, n⟩ :: steps) l := by
  obtain ⟨e, failed, rfl⟩ | ⟨x, first, rest, rfl, done, later⟩ := course_bind_iff.1 course
  · obtain ⟨r, performed, mapped⟩ := course_adapt_iff.1 failed
    obtain ⟨n, noted, rfl⟩ := (h t l r).1 performed
    cases r with
    | error e =>
      cases mapped
      refine .inl ⟨e, n, noted_cons_iff.2 ⟨[], noted, (List.append_nil _).symm, noted_nil_iff.2 rfl⟩, rfl⟩
    | ok x => cases mapped
  · obtain ⟨r, performed, mapped⟩ := course_adapt_iff.1 done
    obtain ⟨n, noted, rfl⟩ := (h t first r).1 performed
    cases r with
    | error e => cases mapped
    | ok x =>
      cases mapped
      exact .inr ⟨x, n, rest, later, fun steps others => noted_cons_iff.2 ⟨rest, noted, rfl, others⟩⟩

/-- After a task that has failed there is nothing. -/
lemma Noted.failed {e : Error} {n : Note} (noted : Noted valid log [⟨t, .error e, n⟩] l)
    (h : Described perform valid log) :
    Course (atStage name stage (perform t) >>= f) l (.error ⟨name, stage, e⟩) := by
  obtain ⟨rest, first, rfl, none⟩ := noted_cons_iff.1 noted
  obtain rfl := noted_nil_iff.1 none
  have performed := (h t _ _).2 ⟨n, first, rfl⟩
  rw [List.append_nil]
  exact course_bind_iff.2 (.inl ⟨_, course_adapt_iff.2 ⟨_, performed, rfl⟩, rfl⟩)

/-- After any other task something goes on with what has come of it. -/
lemma Noted.goesOn {x : t.Answer} {n : Note} (noted : Noted valid log (⟨t, .ok x, n⟩ :: steps) l)
    (h : Described perform valid log) (later : ∀ rest, Noted valid log steps rest → Course (f x) rest v) :
    Course (atStage name stage (perform t) >>= f) l v := by
  obtain ⟨rest, first, rfl, others⟩ := noted_cons_iff.1 noted
  have performed := (h t _ _).2 ⟨n, first, rfl⟩
  exact course_bind_iff.2 (.inr ⟨x, _, rest, rfl, course_adapt_iff.2 ⟨_, performed, rfl⟩, later rest others⟩)

lemma course_makeAll_iff (h : Described perform valid log) {changes : List (Patch.Change State)} :
    Course (makeAll name perform changes) l v ↔
      ∃ steps, MakesAll name changes steps v ∧ Noted valid log steps l := by
  induction changes generalizing l with
  | nil =>
    rw [makeAll, course_pure_iff]
    constructor
    · rintro ⟨rfl, rfl⟩
      exact ⟨[], .all, noted_nil_iff.2 rfl⟩
    · rintro ⟨_, made, noted⟩
      cases made
      exact ⟨noted_nil_iff.1 noted, rfl⟩
  | cons c rest ih =>
    constructor
    · intro course
      obtain ⟨e, n, noted, rfl⟩ | ⟨flow, n, rest, course, noted⟩ := h.begins course
      · exact ⟨_, .failed, noted⟩
      cases flow with
      | «continue» _ =>
        obtain ⟨steps, made, others⟩ := ih.1 course
        exact ⟨_, .next made, noted steps others⟩
      | cancel =>
        obtain ⟨rfl, rfl⟩ := course_pure_iff.1 course
        exact ⟨_, .canceled, noted [] (noted_nil_iff.2 rfl)⟩
      | keepFinalizer =>
        obtain ⟨rfl, rfl⟩ := course_pure_iff.1 course
        exact ⟨_, .kept, noted [] (noted_nil_iff.2 rfl)⟩
    · rintro ⟨_, made, noted⟩
      cases made with
      | next made => exact noted.goesOn h fun _ others => ih.2 ⟨_, made, others⟩
      | canceled => exact noted.goesOn h fun _ none => course_pure_iff.2 ⟨noted_nil_iff.1 none, rfl⟩
      | kept => exact noted.goesOn h fun _ none => course_pure_iff.2 ⟨noted_nil_iff.1 none, rfl⟩
      | failed => exact noted.failed h

/-- The courses of a handler are the tasks that it may perform, in their order. -/
theorem course_ensureBy_iff (h : Described perform valid log) :
    Course (ensureBy name deleting perform) l v ↔
      ∃ steps, Follows name deleting steps v ∧ Noted valid log steps l := by
  constructor
  · intro course
    obtain ⟨e, n, noted, rfl⟩ | ⟨flow, n, rest, course, current⟩ := h.begins course
    · exact ⟨_, .currentFailed, noted⟩
    cases flow with
    | cancel =>
      obtain ⟨rfl, rfl⟩ := course_pure_iff.1 course
      exact ⟨_, .canceled, current [] (noted_nil_iff.2 rfl)⟩
    | keepFinalizer =>
      obtain ⟨rfl, rfl⟩ := course_pure_iff.1 course
      exact ⟨_, .kept, current [] (noted_nil_iff.2 rfl)⟩
    | «continue» _ =>
      obtain ⟨e, m, noted, rfl⟩ | ⟨_, m, rest, course, desired⟩ := h.begins course
      · exact ⟨_, .desiredFailed, current _ noted⟩
      obtain ⟨e, k, noted, rfl⟩ | ⟨p, k, rest, course, planned⟩ := h.begins course
      · exact ⟨_, .patchFailed, current _ (desired _ noted)⟩
      obtain ⟨steps, made, noted⟩ := (course_makeAll_iff h).1 course
      exact ⟨_, .changes made, current _ (desired _ (planned _ noted))⟩
  · rintro ⟨steps, follows, noted⟩
    cases follows with
    | currentFailed => exact noted.failed h
    | canceled => exact noted.goesOn h fun _ none => course_pure_iff.2 ⟨noted_nil_iff.1 none, rfl⟩
    | kept => exact noted.goesOn h fun _ none => course_pure_iff.2 ⟨noted_nil_iff.1 none, rfl⟩
    | desiredFailed => exact noted.goesOn h fun _ noted => noted.failed h
    | patchFailed => exact noted.goesOn h fun _ noted => noted.goesOn h fun _ noted => noted.failed h
    | changes made =>
      refine noted.goesOn h fun _ noted => noted.goesOn h fun _ noted => noted.goesOn h fun _ noted => ?_
      exact (course_makeAll_iff h).2 ⟨_, made, noted⟩

end Courses

end TenantOverlay
