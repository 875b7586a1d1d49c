import Mathlib.Data.List.TakeWhile
import Mathlib.Logic.Function.Basic
import TenantOverlay.Proofs.Reconcile.Runs

/-!
# Repeated operations

The handlers of players do what scripts say: a call fails without an effect, or it has some effect and an
answer. If the operations of all handlers are repeated, the failures that a repetition can cure are
invisible: a run of passes goes as if they were not in the scripts (`Scripts.cured`), but for the calls that
are repeated (`stretch`). The runs simulate each other (`Simulates`) task by task, and so as a whole
(`retry_invisible`).
-/

namespace TenantOverlay

open Fallible

variable {ι σ O : Type}

/-- All steps of a handler are repeated but the patches. -/
def HandlerStep.repeated : HandlerStep → Bool
  | updatePatch | deletePatch => false
  | current | desired | create | update | delete => true

/-- The step that a task is. -/
def Task.step {State : Type} : Task State → HandlerStep
  | current => .current
  | desired => .desired
  | patch false _ _ => .updatePatch
  | patch true _ _ => .deletePatch
  | change (.create _) => .create
  | change (.update _) => .update
  | change (.delete _) => .delete

lemma Task.repeated_step {State : Type} (t : Task State) : t.step.repeated = t.operation?.isSome := by
  rcases t with _ | _ | ⟨_ | _⟩ | ⟨_ | _⟩ <;> rfl

/-- What comes of the calls of each step of each handler. -/
abbrev Scripts (ι : Type) := ι × HandlerStep → List (Result (Flow Unit))

namespace Scripts

/-- A failure that a repetition can cure. -/
def curable : Result (Flow Unit) → Bool
  | .error e => e.isRetryable
  | .ok _ => false

/-- What comes of the next call. A step goes on when its script is used up. -/
def outcome (scripts : Scripts ι) (key : ι × HandlerStep) : Result (Flow Unit) :=
  (scripts key).head?.getD (.ok .proceed)

/-- The scripts without the failures of repeated steps that a repetition can cure. -/
def cured (scripts : Scripts ι) : Scripts ι := fun key =>
  if key.2.repeated then (scripts key).filter fun x => !curable x else scripts key

/-- The number of failures before the next outcome that no repetition can cure. -/
def leading (scripts : Scripts ι) (key : ι × HandlerStep) : Nat := ((scripts key).takeWhile curable).length

/-- The number of failures that are cured by repetitions before the next outcome. -/
def failures (scripts : Scripts ι) (key : ι × HandlerStep) : Nat :=
  if key.2.repeated then scripts.leading key else 0

lemma leading_of_not_curable {scripts : Scripts ι} {key : ι × HandlerStep}
    (h : ¬curable (scripts.outcome key) = true) : scripts.leading key = 0 := by
  unfold outcome at h
  unfold leading
  cases script : scripts key with
  | nil => rfl
  | cons x rest =>
    rw [script] at h
    exact congrArg List.length (List.takeWhile_cons_of_neg h)

/-- The failures before an outcome are some of those in a script. -/
lemma leading_le_countP {scripts : Scripts ι} {key : ι × HandlerStep} :
    scripts.leading key ≤ (scripts key).countP curable := by
  have all : ((scripts key).takeWhile curable).countP curable = scripts.leading key :=
    List.countP_eq_length.2 fun x m => List.mem_takeWhile_imp m
  rw [← all]
  exact (List.takeWhile_sublist _).countP_le

lemma failures_le {scripts : Scripts ι} {key : ι × HandlerStep} {n : Nat}
    (h : key.2.repeated = true → (scripts key).countP curable ≤ n) : scripts.failures key ≤ n := by
  unfold failures
  split
  · exact leading_le_countP.trans (h ‹_›)
  · exact Nat.zero_le n

variable [DecidableEq ι]

/-- The scripts after some calls of a step. -/
def drop (scripts : Scripts ι) (key : ι × HandlerStep) (n : Nat) : Scripts ι :=
  Function.update scripts key ((scripts key).drop n)

variable {scripts : Scripts ι} {key : ι × HandlerStep} {m n : Nat}

@[simp] lemma drop_self : scripts.drop key n key = (scripts key).drop n := Function.update_self ..

lemma drop_of_ne {other : ι × HandlerStep} (h : other ≠ key) : scripts.drop key n other = scripts other :=
  Function.update_of_ne h ..

@[simp] lemma drop_zero : scripts.drop key 0 = scripts := Function.update_eq_self ..

@[simp] lemma drop_drop : (scripts.drop key m).drop key n = scripts.drop key (m + n) := by
  unfold drop
  rw [Function.update_idem, Function.update_self, List.drop_drop]

lemma leading_of_curable (h : curable (scripts.outcome key) = true) :
    scripts.leading key = (scripts.drop key 1).leading key + 1 := by
  unfold outcome at h
  unfold leading
  rw [drop_self]
  cases script : scripts key with
  | nil =>
    rw [script] at h
    cases h
  | cons x rest =>
    rw [script] at h
    exact congrArg List.length (List.takeWhile_cons_of_pos h)

/-- The first outcome that no repetition can cure is the first one without the others. -/
lemma filter_curable (script : List (Result (Flow Unit))) :
    (script.filter fun x => !curable x).head? = (script.drop (script.takeWhile curable).length).head? ∧
      (script.filter fun x => !curable x).drop 1 =
        (script.drop ((script.takeWhile curable).length + 1)).filter fun x => !curable x := by
  induction script with
  | nil => exact ⟨rfl, rfl⟩
  | cons x rest ih =>
    by_cases h : curable x = true
    · simpa [h] using ih
    · simp [h]

lemma outcome_cured : scripts.cured.outcome key = (scripts.drop key (scripts.failures key)).outcome key := by
  unfold outcome cured failures leading
  split
  · rw [drop_self, (filter_curable _).1]
  · rw [drop_zero]

lemma cured_drop : scripts.cured.drop key 1 = (scripts.drop key (scripts.failures key + 1)).cured := by
  funext other
  by_cases same : other = key
  · subst same
    unfold cured failures leading
    rw [drop_self, drop_self]
    split
    · exact (filter_curable _).2
    · rfl
  · unfold cured
    rw [drop_of_ne same, drop_of_ne same]

lemma countP_drop_le (other : ι × HandlerStep) :
    (scripts.drop key n other).countP curable ≤ (scripts other).countP curable := by
  by_cases same : other = key
  · subst same
    rw [drop_self]
    exact (List.drop_sublist _ _).countP_le
  · rw [drop_of_ne same]

end Scripts

/-- A handler whose steps do what scripts say: what it answers to a task, and what becomes of the world, if
the task does not fail. -/
structure Player (σ O : Type) where
  State : Type
  name : String
  act : O → (t : Task State) → Flow Unit → σ → t.Answer × σ

/-- A call of a player. -/
structure Cue (team : ι → Player σ O) where
  player : ι
  object : O
  task : Task (team player).State

/-- The script that a call follows. -/
def Cue.key {team : ι → Player σ O} (c : Cue team) : ι × HandlerStep := (c.player, c.task.step)

/-- The calls of players. -/
def cues (team : ι → Player σ O) : Signature where
  Call := Cue team
  Answer c := Result c.task.Answer

namespace Player

variable (team : ι → Player σ O) (i : ι) (o : O)

/-- A task is one call. -/
def perform (t : Task (team i).State) : Action (cues team) t.Answer := do
  Action.ofResult (← Action.ask (S := cues team) ⟨i, o, t⟩)

/-- The resource of a player. -/
def resource : Resource (cues team) O where
  State := (team i).State
  name := (team i).name
  current o := perform team i o .current
  desired o := perform team i o .desired
  updatePatch o current desired := perform team i o (.patch false current desired)
  deletePatch o current desired := perform team i o (.patch true current desired)
  create o s := perform team i o (.change (.create s))
  update o s := perform team i o (.change (.update s))
  delete o s := perform team i o (.change (.delete s))

lemma perform_resource : (resource team i).perform o = perform team i o := by
  funext t
  rcases t with _ | _ | ⟨_ | _⟩ | ⟨_ | _⟩ <;> rfl

end Player

/-- Where players are: the world, what their scripts say from now on, and the calls so far. -/
structure Play (team : ι → Player σ O) where
  world : σ
  scripts : Scripts ι
  calls : List (Cue team)

variable [DecidableEq ι] {team : ι → Player σ O}

namespace Play

/-- A call that fails has no effect on the world. -/
def answerCue (s : Play team) (c : Cue team) : Result c.task.Answer × Play team :=
  match s.scripts.outcome c.key with
  | .error e => (.error e, ⟨s.world, s.scripts.drop c.key 1, s.calls ++ [c]⟩)
  | .ok flow =>
    let acted := (team c.player).act c.object c.task flow s.world
    (.ok acted.1, ⟨acted.2, s.scripts.drop c.key 1, s.calls ++ [c]⟩)

/-- Some calls that have failed. -/
def skip (s : Play team) (c : Cue team) (n : Nat) : Play team :=
  ⟨s.world, s.scripts.drop c.key n, s.calls ++ List.replicate n c⟩

/-- Answers calls as scripts say, with so many repetitions as a policy leaves. -/
def answer (patience : BackoffPolicy → Nat) :
    (c : (cues team).withRuntime.Call) → Play team → (cues team).withRuntime.Answer c × Play team :=
  answerWithRuntime (fun c s => s.answerCue c) fun policy s => (patience policy, s)

variable {patience : BackoffPolicy → Nat} {s : Play team}

lemma run_perform (i : ι) (o : O) (t : Task (team i).State) :
    Program.run (answer patience) (Player.perform team i o t).run s = s.answerCue ⟨i, o, t⟩ := rfl

@[simp] lemma skip_zero {c : Cue team} : s.skip c 0 = s := by
  unfold skip
  rw [Scripts.drop_zero, List.replicate_zero, List.append_nil]

@[simp] lemma skip_skip {c : Cue team} {m n : Nat} : (s.skip c m).skip c n = s.skip c (m + n) := by
  unfold skip
  rw [Scripts.drop_drop, List.append_assoc, List.replicate_append_replicate]

/-- What comes of a call, by its outcome. -/
lemma answerCue_error {c : Cue team} {e : Error} (h : s.scripts.outcome c.key = .error e) :
    s.answerCue c = (.error e, s.skip c 1) := by
  unfold answerCue
  rw [h]
  rfl

lemma answerCue_ok {c : Cue team} {flow : Flow Unit} (h : s.scripts.outcome c.key = .ok flow) :
    s.answerCue c = (.ok ((team c.player).act c.object c.task flow s.world).1,
      { s.skip c 1 with world := ((team c.player).act c.object c.task flow s.world).2 }) := by
  unfold answerCue
  rw [h]
  rfl

/-- Attempts go through the failures that can be cured, as long as there are repetitions. -/
lemma run_attempts {i : ι} {o : O} {t : Task (team i).State} {left : Nat}
    (enough : s.scripts.leading (i, t.step) ≤ left) :
    Program.run (answer patience) ((Player.perform team i o t).attempts left).run s =
      (s.skip ⟨i, o, t⟩ (s.scripts.leading (i, t.step))).answerCue ⟨i, o, t⟩ := by
  induction left generalizing s with
  | zero =>
    rw [Nat.le_zero.1 enough, skip_zero]
    rfl
  | succ left ih =>
    show Program.run _ (_ >>= _) s = _
    rw [Program.run_bind, run_perform]
    cases outcome : s.scripts.outcome (i, t.step) with
    | ok flow =>
      rw [Scripts.leading_of_not_curable (by rw [outcome]; nofun), skip_zero, answerCue_ok outcome]
      rfl
    | error e =>
      rw [answerCue_error outcome]
      show Program.run _ (if e.isRetryable = true then _ else _) _ = _
      split
      · have first : s.scripts.leading (i, t.step) =
            ((s.skip ⟨i, o, t⟩ 1).scripts.leading (i, t.step)) + 1 :=
          Scripts.leading_of_curable (by rwa [outcome])
        rw [first] at enough ⊢
        refine (ih (Nat.le_of_succ_le_succ enough)).trans ?_
        rw [skip_skip, Nat.add_comm]
      · rw [Scripts.leading_of_not_curable (by rwa [outcome]), skip_zero, answerCue_error outcome]
        rfl

/-- A task that is repeated goes through the failures that can be cured. -/
lemma run_under {i : ι} {o : O} {t : Task (team i).State} {policy : BackoffPolicy}
    (enough : s.scripts.failures (i, t.step) ≤ patience policy) :
    Program.run (answer patience)
        ((Player.perform team i o t).under (t.operation?.map fun _ => policy)).run s =
      (s.skip ⟨i, o, t⟩ (s.scripts.failures (i, t.step))).answerCue ⟨i, o, t⟩ := by
  unfold Scripts.failures at *
  rw [t.repeated_step] at *
  cases counted : t.operation? with
  | none =>
    rw [Option.isSome_none, if_neg nofun, skip_zero]
    rfl
  | some operation =>
    rw [counted, Option.isSome_some, if_pos rfl] at enough
    exact run_attempts enough

end Play

/-- The calls of a log, each of which follows its repetitions: as many calls of its own as failures are
cured. -/
def stretch (scripts : Scripts ι) : List (Cue team) → List (Cue team)
  | [] => []
  | c :: calls =>
    let made := scripts.failures c.key + 1
    List.replicate made c ++ stretch (scripts.drop c.key made) calls

/-- What scripts say after the calls of a log with their repetitions. -/
def Scripts.after (scripts : Scripts ι) : List (Cue team) → Scripts ι
  | [] => scripts
  | c :: calls => (scripts.drop c.key (scripts.failures c.key + 1)).after calls

lemma after_append {scripts : Scripts ι} {calls : List (Cue team)} {c : Cue team} :
    scripts.after (calls ++ [c]) =
      (scripts.after calls).drop c.key ((scripts.after calls).failures c.key + 1) := by
  induction calls generalizing scripts with
  | nil => rfl
  | cons _ _ ih => exact ih

lemma stretch_append {scripts : Scripts ι} {calls : List (Cue team)} {c : Cue team} :
    stretch scripts (calls ++ [c]) =
      stretch scripts calls ++ List.replicate ((scripts.after calls).failures c.key + 1) c := by
  induction calls generalizing scripts with
  | nil => exact List.append_nil _
  | cons d calls ih => exact (congrArg (_ ++ ·) ih).trans (List.append_assoc ..).symm

/-- With repetitions the players are where they are without them, if the failures that are cured are not in
the scripts. -/
structure Simulates (start : Scripts ι) (players : List ι) (bound : ι → Nat) (s plain : Play team) :
    Prop where
  world : s.world = plain.world
  scripts : plain.scripts = s.scripts.cured
  calls : s.calls = stretch start plain.calls
  after : s.scripts = start.after plain.calls
  /-- There are repetitions for all the failures that are left. -/
  enough : ∀ i ∈ players, ∀ step : HandlerStep, step.repeated = true →
    (s.scripts (i, step)).countP Scripts.curable ≤ bound i

/-- The next call does not end this. -/
lemma Simulates.answerCue {start : Scripts ι} {players : List ι} {bound : ι → Nat} {s plain : Play team}
    (h : Simulates start players bound s plain) (c : Cue team) :
    ((s.skip c (s.scripts.failures c.key)).answerCue c).1 = (plain.answerCue c).1 ∧
      Simulates start players bound ((s.skip c (s.scripts.failures c.key)).answerCue c).2
        (plain.answerCue c).2 := by
  have same : plain.scripts.outcome c.key =
      (s.skip c (s.scripts.failures c.key)).scripts.outcome c.key := by
    rw [h.scripts, Scripts.outcome_cured]
    rfl
  have next : Simulates start players bound (s.skip c (s.scripts.failures c.key + 1)) (plain.skip c 1) := {
    world := h.world
    scripts := by
      show plain.scripts.drop c.key 1 = _
      rw [h.scripts, Scripts.cured_drop]
      rfl
    calls := by
      show s.calls ++ _ = stretch start (plain.calls ++ [c])
      rw [stretch_append, ← h.after, h.calls]
    after := by
      show s.scripts.drop _ _ = start.after (plain.calls ++ [c])
      rw [after_append, ← h.after]
    enough := fun i m step repeated => (Scripts.countP_drop_le _).trans (h.enough i m step repeated) }
  cases outcome : plain.scripts.outcome c.key with
  | error e =>
    rw [Play.answerCue_error outcome, Play.answerCue_error (same ▸ outcome), Play.skip_skip]
    exact ⟨rfl, next⟩
  | ok flow =>
    rw [Play.answerCue_ok outcome, Play.answerCue_ok (same ▸ outcome), Play.skip_skip]
    have world : (s.skip c (s.scripts.failures c.key)).world = plain.world := h.world
    rw [world]
    exact ⟨rfl, rfl, next.scripts, next.calls, next.after, next.enough⟩

/-- Programs that go alike with repetitions and without. -/
def alikeWithRetries (start : Scripts ι) (players : List ι) (policy : ι → BackoffPolicy)
    (patience : BackoffPolicy → Nat) : Program.Congruence (cues team).withRuntime :=
  .ofRuns (Play.answer patience) (Simulates start players fun i => patience (policy i))

section Handlers

variable {policy : ι → BackoffPolicy} {patience : BackoffPolicy → Nat} {players : List ι} {start : Scripts ι}
  {i : ι} {o : O}

lemma alike_perform (m : i ∈ players) (t : Task (team i).State) :
    (alikeWithRetries start players policy patience).Alike
      ((Player.perform team i o t).under (t.operation?.map fun _ => policy i))
      (Player.perform team i o t) := by
  intro s plain sim
  rw [Play.run_under (Scripts.failures_le (sim.enough i m t.step)), Play.run_perform]
  exact sim.answerCue ⟨i, o, t⟩

lemma alike_ensure (m : i ∈ players) (deleting : Bool) :
    (alikeWithRetries start players policy patience).Alike
      (((Player.resource team i).repeated (policy i)).handler.ensure deleting o)
      ((Player.resource team i).handler.ensure deleting o) := by
  rw [Resource.ensure_repeated, Resource.ensure_eq, Player.perform_resource]
  exact Program.Congruence.ensureBy (alike_perform m) deleting

end Handlers

/-- Repetition is invisible but for the calls that are repeated. If there are repetitions enough, a run of
passes comes to the same results, the same world and the same rest of the scripts as one without repetition
in which the scripts do not have the failures that a repetition can cure. -/
theorem retry_invisible (team : ι → Player σ O) (policy : ι → BackoffPolicy) (patience : BackoffPolicy → Nat)
    (players : List ι) (scripts : Scripts ι)
    (enough : ∀ i ∈ players, ∀ step : HandlerStep, step.repeated = true →
      (scripts (i, step)).countP Scripts.curable ≤ patience (policy i))
    (jobs : List (O × Bool)) (world : σ) :
    let wrapped := Program.run (Play.answer patience)
      (runPasses (players.map fun i => ((Player.resource team i).repeated (policy i)).handler) jobs)
      ⟨world, scripts, []⟩
    let plain := Program.run (Play.answer patience)
      (runPasses (players.map fun i => (Player.resource team i).handler) jobs) ⟨world, scripts.cured, []⟩
    wrapped.1 = plain.1 ∧ wrapped.2.world = plain.2.world ∧ wrapped.2.scripts.cured = plain.2.scripts ∧
      wrapped.2.calls = stretch scripts plain.2.calls := by
  have begins : Simulates scripts players (fun i => patience (policy i)) ⟨world, scripts, []⟩
      (⟨world, scripts.cured, []⟩ : Play team) := ⟨rfl, rfl, rfl, rfl, enough⟩
  have alike := (alikeWithRetries scripts players policy patience).runPasses
    (fun i => ((Player.resource team i).repeated (policy i)).handler)
    (fun i => (Player.resource team i).handler) (fun _ _ => rfl)
    (fun i m deleting o => alike_ensure m deleting) jobs
  obtain ⟨results, sim⟩ := alike _ _ begins
  exact ⟨results, sim.world, sim.scripts.symm, sim.calls⟩

/-- A player whose world is the state of one resource, which is to be that of the object. -/
def Player.keeper (name : String) : Player (Option String) (Option String) where
  State := Option String
  name := name
  act o t flow world :=
    match t with
    | .current => (flow.map fun _ => world, world)
    | .desired => (o, world)
    | .patch false current desired => (Patch.createOrUpdate current desired, world)
    | .patch true current _ => (Patch.remove current, world)
    | .change (.create s) | .change (.update s) => (flow, if flow.isContinue then s else world)
    | .change (.delete _) => (flow, if flow.isContinue then none else world)

/-- Scripts with failures that a repetition can cure and one that it cannot, and with a signal. -/
def Scripts.sample : Scripts Unit := fun key =>
  match key.2 with
  | .current => [.error (.timeout "t"), .error (.timeout "t"), .ok .proceed, .error (.wrongType .document)]
  | .updatePatch => [.error (.timeout "t")]
  | .create => [.error (.timeout "t"), .ok .keepFinalizer]
  | .desired | .deletePatch | .update | .delete => []

/-- Passes over a resource that fail at a patch and at the current state, keep the finalizer, and are done. -/
theorem retry_invisible_keeper :
    let team := fun _ : Unit => Player.keeper "network"
    let jobs := [(some "x", false), (some "x", false), (some "x", false), (some "x", true)]
    let wrapped := Program.run (Play.answer fun _ => 2)
      (runPasses ([()].map fun i => ((Player.resource team i).repeated default).handler) jobs)
      ⟨none, Scripts.sample, []⟩
    let plain := Program.run (Play.answer fun _ => 2)
      (runPasses ([()].map fun i => (Player.resource team i).handler) jobs) ⟨none, Scripts.sample.cured, []⟩
    (∀ i ∈ [()], ∀ step : HandlerStep, step.repeated = true →
        (Scripts.sample (i, step)).countP Scripts.curable ≤ 2) ∧
      wrapped.1 = [.error ⟨"network", .computingPatch, .timeout "t"⟩,
        .error ⟨"network", .fetchingCurrent, .wrongType .document⟩, .ok (.finalizerKept "network"),
        .ok .done] ∧
      wrapped.1 = plain.1 ∧
      plain.2.calls.map (·.task.step) = [.current, .desired, .updatePatch, .current, .current, .desired,
        .updatePatch, .create, .current, .desired, .deletePatch] ∧
      wrapped.2.calls.map (·.task.step) = [.current, .current, .current, .desired, .updatePatch, .current,
        .current, .desired, .updatePatch, .create, .create, .current, .desired, .deletePatch] ∧
      wrapped.2.calls = stretch Scripts.sample plain.2.calls := by
  intro team jobs
  dsimp only
  have enough : ∀ i ∈ [()], ∀ step : HandlerStep, step.repeated = true →
      (Scripts.sample (i, step)).countP Scripts.curable ≤ 2 := by
    rintro ⟨⟩ _ step _
    cases step <;> decide
  obtain ⟨results, -, -, calls⟩ :=
    retry_invisible team (fun _ => default) (fun _ => 2) [()] Scripts.sample enough jobs none
  refine ⟨enough, ?_, results, ?_, ?_, calls⟩
  · decide +kernel
  · decide +kernel
  · decide +kernel

end TenantOverlay
