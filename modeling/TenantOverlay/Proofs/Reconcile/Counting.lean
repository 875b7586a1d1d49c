import TenantOverlay.Proofs.Reconcile.Runs

/-!
# Counted operations

Counting can be put around the operations of a resource alone, around their repetition, or below it
(`Nesting`). In either case a task is carried out as without counting, in one or more attempts that a
`Conduct` notes down; what is added are reports, one of the whole operation, or one of each attempt if the
repetition is outermost. So a run of passes with counting asks the same and comes to the same results as one
without, in whatever environment, and the counts grow by exactly the numbers of results
(`metrics_account`).
-/

namespace TenantOverlay

open Fallible

universe u

variable {S : Signature} {O α σ : Type}

/-- How counting is put around the operations of a resource. -/
inductive Nesting where
  /-- Nothing is repeated. -/
  | alone
  /-- An operation is counted once, however often it is repeated. -/
  | outside (policy : BackoffPolicy)
  /-- Every attempt is counted. -/
  | inside (policy : BackoffPolicy)

namespace Nesting

/-- A resource with counting, and with repetition if there is any. -/
def metered (n : Nesting) (r : Resource S O) : Resource S O :=
  match n with
  | alone => r.measured
  | outside policy => (r.repeated policy).measured
  | inside policy => r.measured.repeated policy

/-- The resource without counting. -/
def bare (n : Nesting) (r : Resource S O) : Resource S O :=
  match n with
  | alone => r
  | outside policy | inside policy => r.repeated policy

/-- How a task is repeated, if it is an operation and there is any repetition. -/
def policy? (n : Nesting) (counted : Option Operation) : Option BackoffPolicy :=
  match n with
  | alone => none
  | outside policy | inside policy => counted.map fun _ => policy

/-- A task of a resource, counted if it is an operation. -/
def meter (n : Nesting) (resource : String) (counted : Option Operation) (a : Action S α) : Action S α :=
  match counted with
  | none => a
  | some operation =>
    match n with
    | alone => a.counted resource operation
    | outside policy => (a.retry policy).counted resource operation
    | inside policy => (a.counted resource operation).retry policy

/-- Counting is put around each task. -/
lemma ensure_metered (n : Nesting) (r : Resource S O) (deleting : Bool) (o : O) :
    (n.metered r).handler.ensure deleting o =
      ensureBy r.name deleting fun t => n.meter r.name t.operation? (r.perform o t) := by
  cases n with
  | alone | outside policy | inside policy =>
    refine (Resource.ensure_eq _ deleting o).trans (congrArg (ensureBy r.name deleting) (funext fun t => ?_))
    rcases t with _ | _ | ⟨_ | _⟩ | ⟨_ | _⟩ <;> rfl

lemma ensure_bare (n : Nesting) (r : Resource S O) (deleting : Bool) (o : O) :
    (n.bare r).handler.ensure deleting o =
      ensureBy r.name deleting fun t => (r.perform o t).under (n.policy? t.operation?) := by
  cases n with
  | alone => exact r.ensure_eq deleting o
  | outside policy | inside policy => exact r.ensure_repeated policy deleting o

end Nesting

/-- How a task was carried out: what was asked before the first attempt, what was asked in each attempt and
whether it succeeded, and whether the task did in the end. -/
structure Conduct (S : Signature) where
  opening : List (Exchange S.withRuntime)
  attempts : List (List (Exchange S.withRuntime) × Bool)
  ok : Bool

namespace Conduct

/-- All that was asked for a task. -/
def log (c : Conduct S) : List (Exchange S.withRuntime) := c.opening ++ c.attempts.flatMap (·.1)

/-- The report of an operation or of an attempt. -/
def report (resource : String) (operation : Operation) (ok : Bool) : Exchange S.withRuntime :=
  ⟨.record (.operation resource operation ok), ()⟩

/-- All that was asked for a task, with the reports. -/
def reported (c : Conduct S) (n : Nesting) (resource : String) (counted : Option Operation) :
    List (Exchange S.withRuntime) :=
  match counted with
  | none => c.log
  | some operation =>
    match n with
    | .alone | .outside _ => c.log ++ [report resource operation c.ok]
    | .inside _ => c.opening ++ c.attempts.flatMap fun a => a.1 ++ [report resource operation a.2]

/-- The results that are counted: that of the operation, or that of each attempt. -/
def results (c : Conduct S) : Nesting → List Bool
  | .alone | .outside _ => [c.ok]
  | .inside _ => c.attempts.map (·.2)

end Conduct

/-- A task is carried out at once, or it is repeated under a policy. -/
inductive Conducted (a : Action S α) (x : Result α) : Option BackoffPolicy → Conduct S → Prop where
  | once {l : List (Exchange S.withRuntime)} : Course a l x → Conducted a x none ⟨[], [(l, x.isOk)], x.isOk⟩
  | repeated {policy : BackoffPolicy} {left : Nat} {attempts : List (Action.Attempt S α)} :
    Action.Attempted a left attempts x →
    Conducted a x (some policy)
      ⟨[⟨.repetitions policy, left⟩], attempts.map fun t => (t.log, t.result.isOk), x.isOk⟩

section Tasks

variable {a : Action S α} {x : Result α} {l : List (Exchange S.withRuntime)} {resource : String}
  {operation : Operation} {policy? : Option BackoffPolicy}

lemma Conducted.ok_eq {c : Conduct S} (h : Conducted a x policy? c) : c.ok = x.isOk := by
  cases h <;> rfl

lemma course_under_iff (policy? : Option BackoffPolicy) :
    Course (a.under policy?) l x ↔ ∃ c, Conducted a x policy? c ∧ l = c.log := by
  cases policy? with
  | none =>
    constructor
    · intro course
      exact ⟨_, .once course, (List.append_nil l).symm⟩
    · rintro ⟨_, conducted, rfl⟩
      cases conducted with
      | @once l course =>
        show Course a (l ++ []) x
        rwa [List.append_nil]
  | some policy =>
    refine Action.course_retry_iff.trans ⟨?_, ?_⟩
    · rintro ⟨left, attempts, attempted, rfl⟩
      exact ⟨_, .repeated attempted, by simp [Conduct.log, List.flatMap_map]⟩
    · rintro ⟨_, conducted, rfl⟩
      cases conducted with
      | @repeated _ left attempts attempted =>
        exact ⟨left, attempts, attempted, by simp [Conduct.log, List.flatMap_map]⟩

/-- Counting outside adds a report of the whole operation. -/
lemma course_counted_under_iff (policy? : Option BackoffPolicy) :
    Course ((a.under policy?).counted resource operation) l x ↔
      ∃ c, Conducted a x policy? c ∧ l = c.log ++ [Conduct.report resource operation c.ok] := by
  refine Action.course_counted_iff.trans ⟨?_, ?_⟩
  · rintro ⟨first, course, rfl⟩
    obtain ⟨c, conducted, rfl⟩ := (course_under_iff policy?).1 course
    exact ⟨c, conducted, by rw [conducted.ok_eq]; rfl⟩
  · rintro ⟨c, conducted, rfl⟩
    exact ⟨c.log, (course_under_iff policy?).2 ⟨c, conducted, rfl⟩, by rw [conducted.ok_eq]; rfl⟩

/-- An attempt with a report of it. -/
def Action.Attempt.counted (resource : String) (operation : Operation) (t : Action.Attempt S α) :
    Action.Attempt S α :=
  ⟨t.log ++ [Conduct.report resource operation t.result.isOk], t.result⟩

/-- The attempts of an operation that is counted are those of the operation, with a report of each. -/
lemma attempted_counted_iff {left : Nat} {counted : List (Action.Attempt S α)} :
    Action.Attempted (a.counted resource operation) left counted x ↔
      ∃ attempts, Action.Attempted a left attempts x ∧
        counted = attempts.map (·.counted resource operation) := by
  constructor
  · intro attempted
    induction attempted with
    | last course final =>
      obtain ⟨first, performed, rfl⟩ := Action.course_counted_iff.1 course
      exact ⟨_, .last performed final, rfl⟩
    | again course curable _ ih =>
      obtain ⟨first, performed, rfl⟩ := Action.course_counted_iff.1 course
      obtain ⟨attempts, attempted, rfl⟩ := ih
      exact ⟨_, .again performed curable attempted, rfl⟩
  · rintro ⟨attempts, attempted, rfl⟩
    induction attempted with
    | last course final => exact .last (Action.course_counted_iff.2 ⟨_, course, rfl⟩) final
    | again course curable _ ih => exact .again (Action.course_counted_iff.2 ⟨_, course, rfl⟩) curable ih

/-- A task that is counted is carried out like one that is not. -/
theorem course_meter_iff {n : Nesting} {counted : Option Operation} :
    Course (n.meter resource counted a) l x ↔
      ∃ c, Conducted a x (n.policy? counted) c ∧ l = c.reported n resource counted := by
  cases counted with
  | none =>
    have once : n.policy? none = none := by cases n <;> rfl
    rw [once]
    exact course_under_iff none
  | some operation =>
    cases n with
    | alone => exact course_counted_under_iff none
    | outside policy => exact course_counted_under_iff (some policy)
    | inside policy =>
      refine Action.course_retry_iff.trans ⟨?_, ?_⟩
      · rintro ⟨left, counted, attempted, rfl⟩
        obtain ⟨attempts, performed, rfl⟩ := attempted_counted_iff.1 attempted
        refine ⟨_, .repeated performed, ?_⟩
        simp [Conduct.reported, Action.Attempt.counted, List.flatMap_map]
      · rintro ⟨_, conducted, rfl⟩
        cases conducted with
        | @repeated _ left attempts attempted =>
          refine ⟨left, _, attempted_counted_iff.2 ⟨attempts, attempted, rfl⟩, ?_⟩
          simp [Conduct.reported, Action.Attempt.counted, List.flatMap_map]

end Tasks

section Unreported

/-- What is asked, without what is reported. -/
def unreported (log : List (Exchange S.withRuntime)) : List (Exchange S.withRuntime) :=
  log.filter (·.sample?.isNone)

variable {outside : (c : S.Call) → σ → S.Answer c × σ} {repetitions : BackoffPolicy → σ → Nat × σ}
  {log : List (Exchange S.withRuntime)} {s t : σ}

/-- Reports change nothing for the environment. -/
lemma played_unreported_iff : Program.Played (answerWithRuntime outside repetitions) (unreported log) s t ↔
    Program.Played (answerWithRuntime outside repetitions) log s t := by
  induction log generalizing s with
  | nil => rfl
  | cons e log ih =>
    obtain ⟨c, x⟩ := e
    cases c with
    | outside c | repetitions policy =>
      constructor
      · intro played
        cases played with
        | cons played => exact .cons (ih.1 played)
      · intro played
        cases played with
        | cons played => exact .cons (ih.2 played)
    | record sample =>
      refine ih.trans ⟨fun played => ?_, fun played => ?_⟩
      · exact Program.Played.cons (S := S.withRuntime) (c := .record sample) played
      · cases played with
        | cons played => exact played

lemma unreported_append (log rest : List (Exchange S.withRuntime)) :
    unreported (log ++ rest) = unreported log ++ unreported rest :=
  List.filter_append _ _

lemma unreported_flatMap {β : Type*} {f g : β → List (Exchange S.withRuntime)} {l : List β}
    (h : ∀ x ∈ l, unreported (f x) = unreported (g x)) :
    unreported (l.flatMap f) = unreported (l.flatMap g) := by
  induction l with
  | nil => rfl
  | cons x l ih =>
    obtain ⟨first, others⟩ := List.forall_mem_cons.1 h
    rw [List.flatMap_cons, List.flatMap_cons, unreported_append, unreported_append, first, ih others]

/-- A report is not among what is asked. -/
lemma unreported_report {resource : String} {operation : Operation} {ok : Bool} :
    unreported (log ++ [Conduct.report resource operation ok]) = unreported log := by
  rw [unreported_append]
  exact List.append_nil _

lemma Conduct.unreported_reported (c : Conduct S) (n : Nesting) (resource : String)
    (counted : Option Operation) : unreported (c.reported n resource counted) = unreported c.log := by
  cases counted with
  | none => rfl
  | some operation =>
    cases n with
    | alone | outside policy => exact unreported_report
    | inside policy =>
      show unreported (_ ++ _) = unreported (_ ++ _)
      rw [unreported_append, unreported_append]
      exact congrArg (_ ++ ·) (unreported_flatMap fun a _ => unreported_report)

end Unreported

section Counts

variable {β : Type*} {resource : String} {operation : Operation} {ok : Bool}

/-- The number of reports that an operation of a resource has succeeded or failed. -/
def reports (resource : String) (operation : Operation) (ok : Bool) (log : List (Exchange S.withRuntime)) :
    Nat :=
  (samples log).count (.operation resource operation ok)

lemma reports_append (log rest : List (Exchange S.withRuntime)) :
    reports resource operation ok (log ++ rest) =
      reports resource operation ok log + reports resource operation ok rest := by
  unfold reports
  rw [samples_append, List.count_append]

/-- Numbers of reports add up, and so do those of results. -/
lemma reports_flatMap {f g : β → List (Exchange S.withRuntime)} {results : β → List Bool} {l : List β}
    (h : ∀ x ∈ l, reports resource operation ok (f x) =
      reports resource operation ok (g x) + (results x).count ok) :
    reports resource operation ok (l.flatMap f) =
      reports resource operation ok (l.flatMap g) + (l.flatMap results).count ok := by
  induction l with
  | nil => rfl
  | cons x l ih =>
    obtain ⟨first, others⟩ := List.forall_mem_cons.1 h
    simp only [List.flatMap_cons, reports_append, List.count_append, first, ih others]
    omega

/-- A report is one of its operation. -/
lemma reports_report {log : List (Exchange S.withRuntime)} {resource' : String} {operation' : Operation}
    {ok' : Bool} :
    reports resource operation ok (log ++ [Conduct.report resource' operation' ok']) =
      reports resource operation ok log +
        (if resource' = resource ∧ operation' = operation then [ok'] else []).count ok := by
  rw [reports_append, Nat.add_left_cancel_iff]
  show List.count _ [Sample.operation resource' operation' ok'] = _
  by_cases same : resource' = resource ∧ operation' = operation
  · simp [same.1, same.2, List.count_singleton]
  · simp [same, List.count_singleton]
    grind

/-- The results of an operation of a resource that are counted, if a task is that operation. -/
def Conduct.resultsOf (resource : String) (operation : Operation) (c : Conduct S) (n : Nesting)
    (resource' : String) (counted : Option Operation) : List Bool :=
  if resource' = resource ∧ counted = some operation then c.results n else []

lemma Conduct.reports_reported (c : Conduct S) (n : Nesting) (resource' : String)
    (counted : Option Operation) : reports resource operation ok (c.reported n resource' counted) =
      reports resource operation ok c.log +
        (c.resultsOf resource operation n resource' counted).count ok := by
  cases counted with
  | none => simp [resultsOf, reported]
  | some operation' =>
    simp only [resultsOf, Option.some.injEq]
    cases n with
    | alone | outside policy => exact reports_report
    | inside policy =>
      show reports _ _ _ (_ ++ _) = reports _ _ _ (_ ++ _) + _
      rw [reports_append, reports_append, reports_flatMap fun a _ => reports_report, Nat.add_assoc]
      split
      · rw [← List.map_eq_flatMap]
        rfl
      · rw [List.flatMap_eq_nil_iff.2 fun _ _ => rfl]

end Counts

/-- A resource, and how it is counted. -/
structure Counted (S : Signature) (O : Type) where
  resource : Resource S O
  nesting : Nesting

namespace Counted

/-- The handler of the resource with counting. -/
def metered (c : Counted S O) : Handler S O := (c.nesting.metered c.resource).handler

/-- The handler of the resource without counting. -/
def bare (c : Counted S O) : Handler S O := (c.nesting.bare c.resource).handler

def name (c : Counted S O) : String := c.resource.name

/-- How a task of the resource is carried out for an object. -/
def Carries (o : O) (c : Counted S O) (t : Task c.resource.State) (x : Result t.Answer)
    (n : Conduct S) : Prop :=
  Conducted (c.resource.perform o t) x (c.nesting.policy? t.operation?) n

/-- What is asked for a task, with the reports. -/
def reported (c : Counted S O) (t : Task c.resource.State) (n : Conduct S) : List (Exchange S.withRuntime) :=
  n.reported c.nesting c.name t.operation?

lemma metered_name (c : Counted S O) : c.metered.name = c.name := by
  obtain ⟨r, n⟩ := c
  cases n <;> rfl

lemma bare_name (c : Counted S O) : c.bare.name = c.name := by
  obtain ⟨r, n⟩ := c
  cases n <;> rfl

variable {c : Counted S O} {deleting : Bool} {o : O} {l : List (Exchange S.withRuntime)}
  {v : Except PassError (Flow Unit)}

lemma course_metered_iff : Course (c.metered.ensure deleting o) l v ↔
    ∃ steps, Follows c.name deleting steps v ∧ Noted (c.Carries o) c.reported steps l := by
  unfold metered
  rw [Nesting.ensure_metered]
  exact course_ensureBy_iff fun t l x => course_meter_iff

lemma course_bare_iff : Course (c.bare.ensure deleting o) l v ↔
    ∃ steps, Follows c.name deleting steps v ∧ Noted (c.Carries o) (fun _ n => n.log) steps l := by
  unfold bare
  rw [Nesting.ensure_bare]
  exact course_ensureBy_iff fun t l x => course_under_iff _

end Counted

section Accounts

/-- The passes of a run, with notes of how each task was carried out. -/
abbrev Account (S : Signature) (O : Type) : Type 1 :=
  List (PassAccount (Counted S O) (fun c => c.resource.State) (Conduct S))

/-- The results of an operation of the resources of a name that are counted in a run. -/
def Account.resultsOf (resource : String) (operation : Operation) (passes : Account S O) : List Bool :=
  passes.flatMap fun pass => pass.parts.flatMap fun p => p.steps.flatMap fun s =>
    s.note.resultsOf resource operation p.handler.nesting p.handler.name s.task.operation?

/-- Counting is a mere observer of a run of passes, and its accounts are exact. In any environment a run comes
to the same results and the same state as without counting, and asks the same but for the reports. For each
operation of the resources of a name, the counts of successes and failures grow by the numbers of such
results in the run: of whole operations, or of attempts where the repetition is outermost. -/
theorem metrics_account (cs : List (Counted S O)) (jobs : List (O × Bool))
    (outside : (c : S.Call) → σ → S.Answer c × σ) (repetitions : BackoffPolicy → σ → Nat × σ) (s : σ) :
    let answer := answerWithRuntime outside repetitions
    let metered := runPasses (cs.map Counted.metered) jobs
    let bare := runPasses (cs.map Counted.bare) jobs
    metered.run answer s = bare.run answer s ∧
      ∃ passes : Account S O,
        List.Forall₂ (PassAccount.Of Counted.name Counted.Carries cs) jobs passes ∧
          (metered.run answer s).1 = passes.map (·.result) ∧
          metered.trace answer s = passes.flatMap (PassAccount.course Counted.reported) ∧
          bare.trace answer s = passes.flatMap (PassAccount.course fun _ _ n => n.log) ∧
          ∀ (registry : Registry) (resource : String) (operation : Operation) (ok : Bool),
            (registry.recordAll (samples (metered.trace answer s))).value
                (.ofOperation resource operation ok) =
              (registry.recordAll (samples (bare.trace answer s))).value
                  (.ofOperation resource operation ok) +
                (passes.resultsOf resource operation).count ok := by
  intro answer metered bare
  have course := Program.course_of_run answer metered s
  have played := Program.played_trace answer metered s
  obtain ⟨passes, all, results, log⟩ :=
    (course_runPasses_iff Counted.metered_name fun _ _ _ _ _ => Counted.course_metered_iff).1 course
  -- Without the reports this is a course without counting, of which there is only one in this environment.
  have course' : bare.Course (passes.flatMap (PassAccount.course fun _ _ n => n.log))
      (metered.run answer s).1 :=
    (course_runPasses_iff Counted.bare_name fun _ _ _ _ _ => Counted.course_bare_iff).2
      ⟨passes, all, results, rfl⟩
  have same : unreported (metered.trace answer s) =
      unreported (passes.flatMap (PassAccount.course fun _ _ n => n.log)) := by
    rw [log]
    refine unreported_flatMap fun pass _ => unreported_flatMap fun p _ => unreported_flatMap fun s _ => ?_
    exact s.note.unreported_reported _ _ _
  have played' : Program.Played answer (passes.flatMap (PassAccount.course fun _ _ n => n.log)) s
      (metered.run answer s).2 := by
    refine played_unreported_iff.1 ?_
    rw [← same]
    exact played_unreported_iff.2 played
  obtain ⟨trace, run⟩ := course'.eq_of_played played'
  refine ⟨run.symm, passes, all, results, log, trace.symm, fun registry resource operation ok => ?_⟩
  rw [Registry.value_recordAll, Registry.value_recordAll, log, ← trace, Nat.add_assoc, Nat.add_left_cancel_iff]
  refine reports_flatMap fun pass _ => reports_flatMap fun p _ => reports_flatMap fun s _ => ?_
  exact s.note.reports_reported _ _ _

end Accounts

/-- Two failures that can be cured by a repetition: an operation that is counted outside has succeeded, and
one that is counted inside has failed twice as well. -/
example :
    let r := (ScriptedHandler.mk "network" (some "x") [] none .plain (.within 5)).resource 0
    let start : ScriptState :=
      ⟨[((0, .current), [.fail (.timeout "t"), .fail (.timeout "t")])], .empty, .empty, []⟩
    let answer := answerWithRuntime (fun c => ScriptState.answer (.outside c)) fun _ s => (5, s)
    let counts (n : Nesting) :=
      let run := runPasses [Counted.metered ⟨r, n⟩] [(⟨"o", "1", false⟩, false)]
      let registry := Registry.empty.recordAll (samples (run.trace answer start))
      [true, false].map fun ok => registry.value (.ofOperation "network" .currentState ok)
    counts (.outside (.within 5)) = [1, 0] ∧ counts (.inside (.within 5)) = [1, 2] := by
  decide +kernel

end TenantOverlay
