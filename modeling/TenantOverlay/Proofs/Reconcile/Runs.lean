import TenantOverlay.Proofs.Program.Congruence
import TenantOverlay.Proofs.Reconcile.Order

/-!
# Runs of passes

`runPasses` is a run of passes over objects, living and deleted. What holds of two ways to perform the
tasks of each handler holds of the runs of passes, if it is kept when programs are put together
(`Program.Congruence.runPasses`). A course of a run is a list of courses of passes
(`course_runPasses_iff`).
-/

namespace TenantOverlay

open Fallible

variable {S : Signature} {O State : Type}

/-- Passes over objects, one after the other. Each pass is one over a living or over a deleted object. -/
def runPasses (handlers : List (Handler S O)) :
    List (O × Bool) → Program S.withRuntime (List (Except PassError PassOutcome))
  | [] => return []
  | (o, deleting) :: rest => do
    let result ← (runPass handlers o deleting).run
    let results ← runPasses handlers rest
    return result :: results

namespace Program.Congruence

variable {R : Program.Congruence S.withRuntime} {name : String}
  {perform perform' : (t : Task State) → Action S t.Answer}

lemma makeAll (h : ∀ t, R.Alike (perform t) (perform' t)) (changes : List (Patch.Change State)) :
    R.Alike (makeAll name perform changes) (makeAll name perform' changes) := by
  induction changes with
  | nil => exact pure _
  | cons c rest ih =>
    refine fallible_bind (adapt _ (h _)) fun flow => ?_
    cases flow with
    | «continue» _ => exact ih
    | cancel => exact pure _
    | keepFinalizer => exact pure _

lemma ensureBy (h : ∀ t, R.Alike (perform t) (perform' t)) (deleting : Bool) :
    R.Alike (ensureBy name deleting perform) (ensureBy name deleting perform') := by
  refine fallible_bind (adapt _ (h _)) fun flow => ?_
  cases flow with
  | cancel => exact pure _
  | keepFinalizer => exact pure _
  | «continue» current =>
    refine fallible_bind (adapt _ (h _)) fun desired => fallible_bind (adapt _ (h _)) fun patch => ?_
    exact makeAll h _

variable {ι : Type*} {handler handler' : ι → Handler S O} {is : List ι} {o o' : O}

lemma runHandlers {deleting : Bool} (named : ∀ i ∈ is, (handler i).name = (handler' i).name)
    (h : ∀ i ∈ is, R.Alike ((handler i).ensure deleting o) ((handler' i).ensure deleting o')) :
    R.Alike (runHandlers deleting o (is.map handler)) (runHandlers deleting o' (is.map handler')) := by
  induction is with
  | nil => exact pure _
  | cons i is ih =>
    refine fallible_bind (h i List.mem_cons_self) fun flow => ?_
    cases flow with
    | «continue» _ =>
      exact ih (fun j m => named j (List.mem_cons_of_mem _ m)) fun j m => h j (List.mem_cons_of_mem _ m)
    | cancel =>
      rw [named i List.mem_cons_self]
      exact pure _
    | keepFinalizer =>
      rw [named i List.mem_cons_self]
      exact pure _

/-- Passes over two objects are related if their handlers are. -/
lemma runPass {deleting : Bool} (named : ∀ i ∈ is, (handler i).name = (handler' i).name)
    (h : ∀ i ∈ is, R.Alike ((handler i).ensure deleting o) ((handler' i).ensure deleting o')) :
    R.Alike (runPass (is.map handler) o deleting) (runPass (is.map handler') o' deleting) := by
  have all : ∀ i ∈ if deleting then is.reverse else is, i ∈ is := by
    cases deleting with
    | false => exact fun i m => m
    | true => exact fun i m => List.mem_reverse.1 m
  rw [runPass_map, runPass_map]
  exact runHandlers (fun i m => named i (all i m)) fun i m => h i (all i m)

/-- Runs of passes are related if their handlers are. -/
theorem runPasses (handler handler' : ι → Handler S O) (named : ∀ i ∈ is, (handler i).name = (handler' i).name)
    (h : ∀ i ∈ is, ∀ deleting o, R.Alike ((handler i).ensure deleting o) ((handler' i).ensure deleting o))
    (jobs : List (O × Bool)) :
    R.Rel (runPasses (is.map handler) jobs) (runPasses (is.map handler') jobs) := by
  induction jobs with
  | nil => exact R.done _
  | cons job jobs ih =>
    refine R.bind (runPass named fun i m => h i m _ _) fun result => ?_
    exact R.bind ih fun results => R.done _

end Program.Congruence

section Courses

universe u

/-- A pass of a run: the parts of its handlers, and its result. -/
structure PassAccount (ι : Type u) (State : ι → Type) (Note : Type) where
  parts : List (Part ι State Note)
  result : Except PassError PassOutcome

variable {ι : Type u} {State : ι → Type} {Note : Type}

/-- The course that a pass makes, given what each note stands for. -/
def PassAccount.course (log : (i : ι) → Task (State i) → Note → List (Exchange S.withRuntime))
    (pass : PassAccount ι State Note) : List (Exchange S.withRuntime) :=
  pass.parts.flatMap fun p => p.steps.flatMap fun s => log p.handler s.task s.note

variable {name : ι → String} {handler : ι → Handler S O}
  {valid : O → (i : ι) → (t : Task (State i)) → Result t.Answer → Note → Prop}
  {log : (i : ι) → Task (State i) → Note → List (Exchange S.withRuntime)}
  {handlers : List ι} {jobs : List (O × Bool)} {l : List (Exchange S.withRuntime)}
  {results : List (Except PassError PassOutcome)}

variable (name valid handlers) in
/-- A pass over an object, with valid notes. -/
structure PassAccount.Of (job : O × Bool) (pass : PassAccount ι State Note) : Prop where
  isPass : IsPass name job.2 (if job.2 then handlers.reverse else handlers) pass.parts pass.result
  valid : ∀ p ∈ pass.parts, ∀ s ∈ p.steps, valid job.1 p.handler s.task s.result s.note

/-- The courses of a run are lists of passes, one for each object. -/
theorem course_runPasses_iff (named : ∀ i, (handler i).name = name i)
    (each : ∀ deleting o i l v, Course ((handler i).ensure deleting o) l v ↔
      ∃ steps, Follows (name i) deleting steps v ∧ Noted (valid o i) (log i) steps l) :
    (runPasses (handlers.map handler) jobs).Course l results ↔
      ∃ passes, List.Forall₂ (PassAccount.Of name valid handlers) jobs passes ∧
        results = passes.map (·.result) ∧ l = passes.flatMap (PassAccount.course log) := by
  induction jobs generalizing l results with
  | nil =>
    constructor
    · intro course
      obtain ⟨rfl, rfl⟩ := Program.course_done_iff.1 course
      exact ⟨[], .nil, rfl, rfl⟩
    · rintro ⟨passes, all, rfl, rfl⟩
      cases all
      exact Program.course_done_iff.2 ⟨rfl, rfl⟩
  | cons job jobs ih =>
    constructor
    · intro course
      obtain ⟨result, first, rest, rfl, pass, course⟩ := Program.course_bind_iff.1 course
      obtain ⟨others, later, none, rfl, run, course⟩ := Program.course_bind_iff.1 course
      obtain ⟨rfl, rfl⟩ := Program.course_done_iff.1 course
      obtain ⟨parts, isPass, noted⟩ := (course_runPass_iff named (each job.2 job.1)).1 pass
      obtain ⟨passes, all, rfl, rfl⟩ := ih.1 run
      refine ⟨⟨parts, result⟩ :: passes, .cons ⟨isPass, noted.valid⟩ all, rfl, ?_⟩
      rw [List.append_nil, noted.log]
      rfl
    · rintro ⟨_, all, rfl, rfl⟩
      cases all with
      | @cons _ pass _ passes first all =>
        have ran := (course_runPass_iff named (each job.2 job.1)).2
          ⟨pass.parts, first.isPass, first.valid, rfl⟩
        have run := ih.2 ⟨passes, all, rfl, rfl⟩
        refine Program.course_bind_iff.2 ⟨pass.result, _, _, rfl, ran, ?_⟩
        exact Program.course_bind_iff.2 ⟨_, _, [], (List.append_nil _).symm, run, .done _⟩

end Courses

end TenantOverlay
