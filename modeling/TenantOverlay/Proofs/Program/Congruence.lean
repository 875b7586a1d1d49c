import Mathlib.Tactic.Lemma
import TenantOverlay.Program.Runtime

/-!
# Relations that programs keep

A `Program.Congruence` relates programs with the same results, and is kept when one program is put after
another. So two operations that are put together in the same way are related if their parts are, whatever
the relation is; one is that the runs of two programs simulate each other (`ofRuns`).
-/

namespace TenantOverlay

variable {S : Signature} {α β ε δ σ : Type}

/-- A relation between programs that is kept when programs are put together. -/
structure Program.Congruence (S : Signature) where
  Rel {α : Type} : Program S α → Program S α → Prop
  done {α : Type} (a : α) : Rel (.done a) (.done a)
  bind {α β : Type} {p q : Program S α} {f g : α → Program S β} :
    Rel p q → (∀ a, Rel (f a) (g a)) → Rel (p >>= f) (q >>= g)

namespace Program.Congruence

/-- Programs whose runs come to the same results and keep a relation between the states of an environment. -/
def ofRuns (answer : (c : S.Call) → σ → S.Answer c × σ) (Sim : σ → σ → Prop) : Program.Congruence S where
  Rel p q := ∀ s t, Sim s t →
    (p.run answer s).1 = (q.run answer t).1 ∧ Sim (p.run answer s).2 (q.run answer t).2
  done _ _ _ sim := ⟨rfl, sim⟩
  bind {_ _ p q f g} first second s t sim := by
    obtain ⟨same, sim⟩ := first s t sim
    rw [run_bind, run_bind, same]
    exact second _ _ _ sim

/-- Two programs simulate each other if their first calls do, and then what comes after related answers. -/
lemma ofRuns_call {answer : (c : S.Call) → σ → S.Answer c × σ} {Sim : σ → σ → Prop} {c c' : S.Call}
    {next : S.Answer c → Program S α} {next' : S.Answer c' → Program S α}
    (Answers : S.Answer c → S.Answer c' → Prop)
    (first : ∀ s t, Sim s t →
      Answers (answer c s).1 (answer c' t).1 ∧ Sim (answer c s).2 (answer c' t).2)
    (rest : ∀ x y, Answers x y → (ofRuns answer Sim).Rel (next x) (next' y)) :
    (ofRuns answer Sim).Rel (.call c next) (.call c' next') := by
  intro s t sim
  obtain ⟨related, sim⟩ := first s t sim
  exact rest _ _ related _ _ sim

variable (R : Program.Congruence S.withRuntime)

/-- The calls to the runtime are related to themselves. -/
structure Timed : Prop where
  repetitions (policy : BackoffPolicy) :
    R.Rel (ask (S := S.withRuntime) (.repetitions policy)) (ask (S := S.withRuntime) (.repetitions policy))
  record (sample : Sample) :
    R.Rel (ask (S := S.withRuntime) (.record sample)) (ask (S := S.withRuntime) (.record sample))

/-- The relation for programs that can fail. -/
abbrev Alike (a b : Fallible S ε α) : Prop := R.Rel a.run b.run

variable {R}

lemma pure (x : α) : R.Alike (Pure.pure x : Fallible S ε α) (Pure.pure x) :=
  R.done (Except.ok x)

/-- One program after another. -/
lemma fallible_bind {a b : Fallible S ε α} {f g : α → Fallible S ε β}
    (first : R.Alike a b) (second : ∀ x, R.Alike (f x) (g x)) : R.Alike (a >>= f) (b >>= g) := by
  refine R.bind first fun r => ?_
  cases r with
  | ok x => exact second x
  | error e => exact R.done _

lemma map {a b : Fallible S ε α} (f : α → β) (h : R.Alike a b) : R.Alike (f <$> a) (f <$> b) := by
  rw [map_eq_pure_bind, map_eq_pure_bind]
  exact fallible_bind h fun _ => pure _

/-- A failure under another name. -/
lemma adapt {a b : Fallible S ε α} (f : ε → δ) (h : R.Alike a b) :
    R.Alike (ExceptT.adapt f a) (ExceptT.adapt f b) :=
  R.bind h fun _ => R.done _

variable {a b : Action S α}

lemma ofResult (r : Result α) : R.Alike (Action.ofResult r : Action S α) (Action.ofResult r) :=
  R.done r

/-- A failure that is an answer as well. -/
lemma orElseIf (p : Error → Bool) (x : α) (h : R.Alike a b) : R.Alike (a.orElseIf p x) (b.orElseIf p x) := by
  refine R.bind h fun r => ?_
  cases r with
  | ok y => exact R.done _
  | error e => exact R.done _

lemma attempts (h : R.Alike a b) (left : Nat) : R.Alike (a.attempts left) (b.attempts left) := by
  induction left with
  | zero => exact h
  | succ left ih =>
    refine R.bind h fun r => ?_
    cases r with
    | ok y => exact R.done _
    | error e =>
      dsimp only
      split
      · exact ih
      · exact R.done _

/-- Repetition, as often as the runtime says. -/
lemma Timed.retry (timed : R.Timed) (policy : BackoffPolicy) (h : R.Alike a b) :
    R.Alike (a.retry policy) (b.retry policy) := by
  have asked : R.Alike (ExceptT.lift (ask (S := S.withRuntime) (.repetitions policy)) : Action S Nat)
      (ExceptT.lift (ask (S := S.withRuntime) (.repetitions policy))) :=
    R.bind (timed.repetitions policy) fun _ => R.done _
  exact fallible_bind asked fun left => attempts h left

lemma Timed.recorded (timed : R.Timed) (sample : Sample) :
    R.Alike (Action.record sample : Action S Unit) (Action.record sample) :=
  R.bind (timed.record sample) fun _ => R.done _

lemma Timed.counted (timed : R.Timed) (resource : String) (operation : Operation) (h : R.Alike a b) :
    R.Alike (a.counted resource operation) (b.counted resource operation) :=
  R.bind h fun _ => R.bind (timed.recorded _) fun _ => R.done _

end Program.Congruence

end TenantOverlay
