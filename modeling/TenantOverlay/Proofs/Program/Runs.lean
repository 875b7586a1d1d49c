import TenantOverlay.Proofs.Program.Courses

/-!
# Runs to the end

`Program.Runs` relates a program to what it asks the outside and is answered on its way to a result, whatever
the answers: it is a course of which only the calls to the outside are seen (`runs_iff_course`). It is what
`Program.Reaches` says of executions in which nothing is known of the answers (`runs_iff_reaches`). There is a run for any way of answering (`runs_answered`). The runs of a composed
program are put together from the runs of its parts (`runs_bind_iff`, and `Fallible.runs_bind_iff`
for programs that can fail), so that a run of a whole operation can be taken apart again.
-/

namespace TenantOverlay

variable {S : Signature} {α β ε δ : Type}

/-- What an exchange asks the outside. -/
def Exchange.outside? : Exchange S.withRuntime → Option (Exchange S)
  | ⟨.outside c, x⟩ => some ⟨c, x⟩
  | ⟨.repetitions _, _⟩ | ⟨.record _, _⟩ => none

/-- What the outside sees of a course. -/
def outsideOf (log : List (Exchange S.withRuntime)) : List (Exchange S) := log.filterMap Exchange.outside?

lemma outsideOf_append {log rest : List (Exchange S.withRuntime)} :
    outsideOf (log ++ rest) = outsideOf log ++ outsideOf rest :=
  List.filterMap_append

namespace Program

/-- A run of a program: what it asks and is answered, and its result. -/
inductive Runs : Program S.withRuntime α → List (Exchange S) → α → Prop where
  | done (a : α) : Runs (.done a) [] a
  | outside {c : S.Call} {next : S.Answer c → Program S.withRuntime α} {log a} (x : S.Answer c) :
    Runs (next x) log a → Runs (.call (.outside c) next) (⟨c, x⟩ :: log) a
  | repetitions {policy} {next : Nat → Program S.withRuntime α} {log a} (n : Nat) :
    Runs (next n) log a → Runs (.call (.repetitions policy) next) log a
  | record {sample} {next : Unit → Program S.withRuntime α} {log a} :
    Runs (next ()) log a → Runs (.call (.record sample) next) log a

variable {p : Program S.withRuntime α} {f : α → Program S.withRuntime β} {log : List (Exchange S)}
  {a : α} {b : β}

lemma runs_done_iff {b : α} : (done b : Program S.withRuntime α).Runs log a ↔ log = [] ∧ a = b := by
  constructor
  · intro run
    cases run
    exact ⟨rfl, rfl⟩
  · rintro ⟨rfl, rfl⟩
    exact .done _

/-- A run is what is seen of a course from the outside. -/
theorem runs_iff_course : p.Runs log a ↔ ∃ l, p.Course l a ∧ log = outsideOf l := by
  constructor
  · intro run
    induction run with
    | done a => exact ⟨[], .done a, rfl⟩
    | @outside c _ _ _ x _ ih =>
      obtain ⟨l, course, rfl⟩ := ih
      exact ⟨_, .call (S := S.withRuntime) (c := .outside c) x course, rfl⟩
    | @repetitions policy _ _ _ n _ ih =>
      obtain ⟨l, course, rfl⟩ := ih
      exact ⟨_, .call (S := S.withRuntime) (c := .repetitions policy) n course, rfl⟩
    | @record sample _ _ _ _ ih =>
      obtain ⟨l, course, rfl⟩ := ih
      exact ⟨_, .call (S := S.withRuntime) (c := .record sample) () course, rfl⟩
  · rintro ⟨l, course, rfl⟩
    induction course with
    | done a => exact .done a
    | @call c _ _ _ x _ ih =>
      cases c with
      | outside c => exact .outside (c := c) x ih
      | repetitions policy => exact .repetitions x ih
      | record sample => exact .record ih

/-- A run of one program after another is a run of the one and then a run of the other. -/
theorem runs_bind_iff : (p >>= f).Runs log b ↔
    ∃ a first rest, log = first ++ rest ∧ p.Runs first a ∧ (f a).Runs rest b := by
  constructor
  · intro run
    obtain ⟨_, course, rfl⟩ := runs_iff_course.1 run
    obtain ⟨a, first, rest, rfl, h, h'⟩ := course_bind_iff.1 course
    exact ⟨a, _, _, outsideOf_append, runs_iff_course.2 ⟨first, h, rfl⟩, runs_iff_course.2 ⟨rest, h', rfl⟩⟩
  · rintro ⟨a, _, _, rfl, run, run'⟩
    obtain ⟨first, h, rfl⟩ := runs_iff_course.1 run
    obtain ⟨rest, h', rfl⟩ := runs_iff_course.1 run'
    exact runs_iff_course.2 ⟨_, h.bind h', outsideOf_append.symm⟩

/-- The run in which every call has a certain answer. Nothing is repeated in it. -/
def answered (answer : (c : S.Call) → S.Answer c) : Program S.withRuntime α → List (Exchange S) × α
  | .done a => ([], a)
  | .call (.outside c) next =>
    let (log, a) := (next (answer c)).answered answer
    (⟨c, answer c⟩ :: log, a)
  | .call (.repetitions _) next => (next (0 : Nat)).answered answer
  | .call (.record _) next => (next ()).answered answer

/-- However calls are answered, a program comes to a result. -/
theorem runs_answered (answer : (c : S.Call) → S.Answer c) (p : Program S.withRuntime α) :
    p.Runs (p.answered answer).1 (p.answered answer).2 := by
  induction p with
  | done a => exact .done a
  | call c next ih =>
    cases c with
    | outside c => exact .outside _ (ih _)
    | repetitions policy => exact .repetitions 0 (ih _)
    | record sample => exact .record (ih _)

/-- Runs are the executions that come to an end when any answer is possible. -/
theorem runs_iff_reaches : p.Runs log a ↔
    Reaches (.logged fun _ => True) (p, []) (.done a, log) := by
  constructor
  · intro run
    -- What has been seen before a run does not matter to it.
    suffices seen : ∀ before, Reaches (.logged fun _ => True) (p, before) (.done a, before ++ log) from seen []
    induction run with
    | done a =>
      intro before
      rw [List.append_nil]
    | @outside c _ log _ x _ ih =>
      intro before
      have later := ih (before ++ [⟨c, x⟩])
      rw [List.append_assoc] at later
      exact .head (.outside ⟨trivial, rfl⟩) later
    | repetitions n _ ih => exact fun before => .head (.repetitions n) (ih before)
    | record _ ih => exact fun before => .head .record (ih before)
  · intro reached
    suffices seen : ∀ q : Program S.withRuntime α × List (Exchange S),
        Reaches (.logged fun _ => True) q (.done a, log) → ∃ rest, log = q.2 ++ rest ∧ q.1.Runs rest a by
      obtain ⟨rest, rfl, run⟩ := seen _ reached
      exact run
    intro q reached
    induction reached using Relation.ReflTransGen.head_induction_on with
    | refl => exact ⟨[], (List.append_nil _).symm, .done a⟩
    | @head q q' st _ ih =>
      obtain ⟨rest, e, run⟩ := ih
      cases st with
      | meanwhile m =>
        cases m
        exact ⟨rest, e, run⟩
      | @outside c _ x _ _ answered =>
        obtain ⟨-, rfl⟩ := answered
        rw [List.append_assoc] at e
        exact ⟨_, e, .outside x run⟩
      | repetitions n => exact ⟨rest, e, .repetitions n run⟩
      | record => exact ⟨rest, e, .record run⟩

end Program

namespace Fallible

/-- A run of a program that can fail. -/
abbrev Runs (a : Fallible S ε α) (log : List (Exchange S)) (r : Except ε α) : Prop :=
  Program.Runs a.run log r

variable {a : Fallible S ε α} {log : List (Exchange S)}

lemma runs_pure_iff {x : α} {r : Except ε α} :
    Runs (pure x : Fallible S ε α) log r ↔ log = [] ∧ r = .ok x := Program.runs_done_iff

/-- A run of one program after another: the first fails, or the second is run with its result. -/
theorem runs_bind_iff {f : α → Fallible S ε β} {r : Except ε β} : Runs (a >>= f) log r ↔
    (∃ e, Runs a log (.error e) ∧ r = .error e) ∨
      ∃ x first rest, log = first ++ rest ∧ Runs a first (.ok x) ∧ Runs (f x) rest r := by
  constructor
  · intro run
    obtain ⟨_, course, rfl⟩ := Program.runs_iff_course.1 run
    obtain ⟨e, failed, rfl⟩ | ⟨x, first, rest, rfl, h, h'⟩ := course_bind_iff.1 course
    · exact .inl ⟨e, Program.runs_iff_course.2 ⟨_, failed, rfl⟩, rfl⟩
    · refine .inr ⟨x, _, _, outsideOf_append, Program.runs_iff_course.2 ⟨first, h, rfl⟩, ?_⟩
      exact Program.runs_iff_course.2 ⟨rest, h', rfl⟩
  · rintro (⟨e, run, rfl⟩ | ⟨x, _, _, rfl, run, run'⟩)
    · obtain ⟨l, failed, rfl⟩ := Program.runs_iff_course.1 run
      exact Program.runs_iff_course.2 ⟨l, course_bind_iff.2 (.inl ⟨e, failed, rfl⟩), rfl⟩
    · obtain ⟨first, h, rfl⟩ := Program.runs_iff_course.1 run
      obtain ⟨rest, h', rfl⟩ := Program.runs_iff_course.1 run'
      refine Program.runs_iff_course.2 ⟨first ++ rest, ?_, outsideOf_append.symm⟩
      exact course_bind_iff.2 (.inr ⟨x, first, rest, rfl, h, h'⟩)

/-- What is made of a program's outcome does not change its runs. -/
lemma runs_mapped_iff {γ : Type} {g : Except ε α → γ} {r : γ} :
    Program.Runs (a.run >>= fun q => pure (g q)) log r ↔ ∃ q, Runs a log q ∧ r = g q := by
  constructor
  · intro run
    obtain ⟨l, course, rfl⟩ := Program.runs_iff_course.1 run
    obtain ⟨q, went, rfl⟩ := course_mapped_iff.1 course
    exact ⟨q, Program.runs_iff_course.2 ⟨l, went, rfl⟩, rfl⟩
  · rintro ⟨q, run, rfl⟩
    obtain ⟨l, course, rfl⟩ := Program.runs_iff_course.1 run
    exact Program.runs_iff_course.2 ⟨l, course_mapped_iff.2 ⟨q, course, rfl⟩, rfl⟩

/-- A failure under another name. -/
lemma runs_adapt_iff {f : ε → δ} {r : Except δ α} :
    Runs (ExceptT.adapt f a) log r ↔ ∃ q, Runs a log q ∧ r = q.mapError f := runs_mapped_iff

end Fallible

/-- A request to the cluster is answered. -/
lemma OperatorAction.runs_ofObject_iff {k : Kind} {request : ObjectRequest k.Body}
    {log : List (Exchange services)} {r : Result request.Reply} :
    Fallible.Runs (OperatorAction.ofObject k request) log r ↔ log = [⟨.cluster k request, r⟩] := by
  constructor
  · intro run
    cases run with
    | outside x run =>
      obtain ⟨rfl, rfl⟩ := Program.runs_done_iff.1 run
      rfl
  · rintro rfl
    exact Program.Runs.outside (S := services) (c := .cluster k request) r (Program.Runs.done r)

end TenantOverlay
