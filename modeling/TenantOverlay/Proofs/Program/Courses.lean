import TenantOverlay.Proofs.Program.Log

/-!
# Courses of programs

A course of a program is one way in which it can go: all that it asks, of the outside and of its runtime,
with the answers, up to its result. `Program.Course` leaves every answer open, so a program has a course in
whatever environment it is run (`course_of_run`), and only one with the answers of that environment
(`Course.eq_of_played`). The courses of a composed program are put together from
those of its parts: `Fallible.course_bind_iff` for one program after another,
`Action.course_counted_iff` for an operation that is counted, and `Action.course_retry_iff` for one that
is repeated, which goes through some failed attempts and a last one (`Action.Attempted`).
-/

namespace TenantOverlay

variable {S : Signature} {α β γ ε δ σ : Type}

/-- What an exchange with the runtime has reported. -/
def Exchange.sample? : Exchange S.withRuntime → Option Sample
  | ⟨.record sample, _⟩ => some sample
  | ⟨.outside _, _⟩ | ⟨.repetitions _, _⟩ => none

/-- What has been reported in the course of a program. -/
def samples (log : List (Exchange S.withRuntime)) : List Sample := log.filterMap Exchange.sample?

lemma samples_append (log rest : List (Exchange S.withRuntime)) :
    samples (log ++ rest) = samples log ++ samples rest :=
  List.filterMap_append

namespace Program

/-- A course of a program: what it asks and is answered, and its result. -/
inductive Course : Program S α → List (Exchange S) → α → Prop where
  | done (a : α) : Course (.done a) [] a
  | call {c : S.Call} {next : S.Answer c → Program S α} {log a} (x : S.Answer c) :
    Course (next x) log a → Course (.call c next) (⟨c, x⟩ :: log) a

variable {p : Program S α} {f : α → Program S β} {log : List (Exchange S)} {a : α} {b : β}

lemma course_done_iff {b : α} : (done b : Program S α).Course log a ↔ log = [] ∧ a = b := by
  constructor
  · intro course
    cases course
    exact ⟨rfl, rfl⟩
  · rintro ⟨rfl, rfl⟩
    exact .done _

lemma Course.bind {rest : List (Exchange S)} (first : p.Course log a) (second : (f a).Course rest b) :
    (p >>= f).Course (log ++ rest) b := by
  induction first with
  | done a => exact second
  | call x _ ih => exact .call x (ih second)

/-- A course of one program after another is a course of the one and then a course of the other. -/
theorem course_bind_iff : (p >>= f).Course log b ↔
    ∃ a first rest, log = first ++ rest ∧ p.Course first a ∧ (f a).Course rest b := by
  constructor
  · intro course
    induction p generalizing log with
    | done a => exact ⟨a, [], log, rfl, .done a, course⟩
    | call c next ih =>
      cases course with
      | call x course =>
        obtain ⟨a, first, rest, rfl, h, h'⟩ := ih x course
        exact ⟨a, _ :: first, rest, rfl, .call x h, h'⟩
  · rintro ⟨a, first, rest, rfl, h, h'⟩
    exact h.bind h'

/-- The calls and answers of a run. -/
def trace (answer : (c : S.Call) → σ → S.Answer c × σ) : Program S α → σ → List (Exchange S)
  | .done _, _ => []
  | .call c next, s => ⟨c, (answer c s).1⟩ :: (next (answer c s).1).trace answer (answer c s).2

/-- A run in any environment is a course. -/
theorem course_of_run (answer : (c : S.Call) → σ → S.Answer c × σ) (p : Program S α) (s : σ) :
    p.Course (p.trace answer s) (p.run answer s).1 := by
  induction p generalizing s with
  | done a => exact .done a
  | call c next ih => exact .call _ (ih _ _)

/-- The answers of a log are those of an environment, on its way from one state to another. -/
inductive Played (answer : (c : S.Call) → σ → S.Answer c × σ) : List (Exchange S) → σ → σ → Prop where
  | nil (s : σ) : Played answer [] s s
  | cons {c : S.Call} {log s t} : Played answer log (answer c s).2 t →
    Played answer (⟨c, (answer c s).1⟩ :: log) s t

variable {answer : (c : S.Call) → σ → S.Answer c × σ} {s t : σ}

lemma played_trace (answer : (c : S.Call) → σ → S.Answer c × σ) (p : Program S α) (s : σ) :
    Played answer (p.trace answer s) s (p.run answer s).2 := by
  induction p generalizing s with
  | done a => exact .nil s
  | call c next ih => exact .cons (ih _ _)

/-- There is one course with the answers of an environment, that of the run. -/
theorem Course.eq_of_played (course : p.Course log a) (played : Played answer log s t) :
    log = p.trace answer s ∧ p.run answer s = (a, t) := by
  induction course generalizing s with
  | done a =>
    cases played
    exact ⟨rfl, rfl⟩
  | @call c next log a x _ ih =>
    cases played with
    | cons played =>
      obtain ⟨trace, run⟩ := ih played
      exact ⟨congrArg (_ :: ·) trace, run⟩

end Program

/-- Answers calls to the outside and questions for repetitions. A report changes nothing. -/
def answerWithRuntime (outside : (c : S.Call) → σ → S.Answer c × σ)
    (repetitions : BackoffPolicy → σ → Nat × σ) :
    (c : S.withRuntime.Call) → σ → S.withRuntime.Answer c × σ
  | .outside c, s => outside c s
  | .repetitions policy, s => repetitions policy s
  | .record _, s => ((), s)

namespace Fallible

/-- A course of a program that can fail. -/
abbrev Course (a : Fallible S ε α) (log : List (Exchange S.withRuntime)) (r : Except ε α) : Prop :=
  Program.Course a.run log r

variable {a : Fallible S ε α} {log : List (Exchange S.withRuntime)}

lemma course_pure_iff {x : α} {r : Except ε α} :
    Course (pure x : Fallible S ε α) log r ↔ log = [] ∧ r = .ok x := Program.course_done_iff

/-- A course of one program after another: the first fails, or the second goes on with its result. -/
theorem course_bind_iff {f : α → Fallible S ε β} {r : Except ε β} : Course (a >>= f) log r ↔
    (∃ e, Course a log (.error e) ∧ r = .error e) ∨
      ∃ x first rest, log = first ++ rest ∧ Course a first (.ok x) ∧ Course (f x) rest r := by
  constructor
  · intro course
    obtain ⟨q, first, rest, rfl, h, h'⟩ := Program.course_bind_iff.1 course
    cases q with
    | error e =>
      obtain ⟨rfl, rfl⟩ := Program.course_done_iff.1 h'
      rw [List.append_nil]
      exact .inl ⟨e, h, rfl⟩
    | ok x => exact .inr ⟨x, first, rest, rfl, h, h'⟩
  · rintro (⟨e, h, rfl⟩ | ⟨x, first, rest, rfl, h, h'⟩)
    · have course := Program.Course.bind (f := ExceptT.bindCont f) h (Program.Course.done (Except.error e))
      rwa [List.append_nil] at course
    · exact Program.Course.bind (f := ExceptT.bindCont f) h h'

/-- What is made of a program's outcome does not change its courses. -/
lemma course_mapped_iff {g : Except ε α → γ} {r : γ} :
    Program.Course (a.run >>= fun q => pure (g q)) log r ↔ ∃ q, Course a log q ∧ r = g q := by
  constructor
  · intro course
    obtain ⟨q, first, rest, rfl, h, h'⟩ := Program.course_bind_iff.1 course
    obtain ⟨rfl, rfl⟩ := Program.course_done_iff.1 h'
    rw [List.append_nil]
    exact ⟨q, h, rfl⟩
  · rintro ⟨q, h, rfl⟩
    have course := Program.Course.bind (f := fun q => pure (g q)) h (Program.Course.done (g q))
    rwa [List.append_nil] at course

/-- A failure under another name. -/
lemma course_adapt_iff {f : ε → δ} {r : Except δ α} :
    Course (ExceptT.adapt f a) log r ↔ ∃ q, Course a log q ∧ r = q.mapError f := course_mapped_iff

end Fallible

namespace Action

open Fallible

variable {a : Action S α} {log : List (Exchange S.withRuntime)} {r : Result α}

/-- An operation is counted once, after its end. -/
lemma course_counted_iff {resource : String} {operation : Operation} :
    Course (a.counted resource operation) log r ↔ ∃ first, Course a first r ∧
      log = first ++ [⟨.record (.operation resource operation r.isOk), ()⟩] := by
  constructor
  · intro course
    obtain ⟨q, first, rest, rfl, h, h'⟩ := Program.course_bind_iff.1 course
    cases h' with
    | call x h' =>
      obtain ⟨rfl, rfl⟩ := Program.course_done_iff.1 h'
      exact ⟨first, h, rfl⟩
  · rintro ⟨first, h, rfl⟩
    refine h.bind ?_
    exact Program.Course.call (S := S.withRuntime)
      (c := .record (.operation resource operation r.isOk)) () (Program.Course.done r)

/-- An attempt of an operation: what it asks and is answered, and its result. -/
structure Attempt (S : Signature) (α : Type) where
  log : List (Exchange S.withRuntime)
  result : Result α

/-- The attempts of an operation while some repetitions are left, and the result of the last one. An
attempt is followed by another one if its failure can be cured by that, and a repetition is left. -/
inductive Attempted (a : Action S α) : Nat → List (Attempt S α) → Result α → Prop where
  | last {left : Nat} {log : List (Exchange S.withRuntime)} {r : Result α} : Course a log r →
    (∀ e, r = .error e → e.isRetryable = true → left = 0) → Attempted a left [⟨log, r⟩] r
  | again {left : Nat} {log : List (Exchange S.withRuntime)} {e : Error} {rest : List (Attempt S α)}
    {r : Result α} : Course a log (.error e) → e.isRetryable = true → Attempted a left rest r →
    Attempted a (left + 1) (⟨log, .error e⟩ :: rest) r

lemma course_attempts_iff {left : Nat} : Course (a.attempts left) log r ↔
    ∃ attempts, Attempted a left attempts r ∧ log = attempts.flatMap (·.log) := by
  induction left generalizing log with
  | zero =>
    constructor
    · intro course
      exact ⟨[⟨log, r⟩], .last course fun _ _ _ => rfl, (List.append_nil log).symm⟩
    · rintro ⟨_, attempted, rfl⟩
      cases attempted with
      | last course _ => rwa [List.flatMap_cons, List.flatMap_nil, List.append_nil]
  | succ left ih =>
    constructor
    · intro course
      obtain ⟨q, first, rest, rfl, h, h'⟩ := Program.course_bind_iff.1 course
      cases q with
      | ok x =>
        obtain ⟨rfl, rfl⟩ := Program.course_done_iff.1 h'
        exact ⟨[⟨first, .ok x⟩], .last h nofun, rfl⟩
      | error e =>
        dsimp only at h'
        split at h'
        · obtain ⟨attempts, attempted, rfl⟩ := ih.1 h'
          exact ⟨⟨first, .error e⟩ :: attempts, .again h ‹_› attempted, rfl⟩
        · obtain ⟨rfl, rfl⟩ := Program.course_done_iff.1 h'
          refine ⟨[⟨first, .error e⟩], .last h fun e' same curable => ?_, rfl⟩
          cases same
          contradiction
    · rintro ⟨_, attempted, rfl⟩
      cases attempted with
      | @last _ log r course final =>
        refine Program.course_bind_iff.2 ⟨r, log, [], rfl, course, ?_⟩
        cases r with
        | ok x => exact .done _
        | error e =>
          dsimp only
          split
          · exact absurd (final e rfl ‹_›) (Nat.succ_ne_zero left)
          · exact .done _
      | @again _ log e rest _ course curable attempted =>
        refine Program.course_bind_iff.2 ⟨.error e, log, rest.flatMap (·.log), rfl, course, ?_⟩
        dsimp only
        rw [if_pos curable]
        exact ih.2 ⟨rest, attempted, rfl⟩

/-- A repeated operation asks how many repetitions are left, and makes its attempts. -/
theorem course_retry_iff {policy : BackoffPolicy} : Course (a.retry policy) log r ↔
    ∃ left attempts, Attempted a left attempts r ∧
      log = ⟨.repetitions policy, left⟩ :: attempts.flatMap (·.log) := by
  constructor
  · intro course
    cases course with
    | call left course =>
      obtain ⟨attempts, attempted, rfl⟩ := course_attempts_iff.1 course
      exact ⟨left, attempts, attempted, rfl⟩
  · rintro ⟨left, attempts, attempted, rfl⟩
    have course : Course (a.attempts left) (attempts.flatMap (·.log)) r :=
      course_attempts_iff.2 ⟨attempts, attempted, rfl⟩
    exact Program.Course.call (S := S.withRuntime) (c := .repetitions policy) left course

end Action

end TenantOverlay
