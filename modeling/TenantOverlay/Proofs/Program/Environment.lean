import Mathlib.Logic.Relation
import Mathlib.Tactic.Lemma
import TenantOverlay.Program.Runtime

/-!
# Programs in an environment

What can be said of a program whose calls are answered by an environment that is not fully known.
An `Environment` says which answers a call can have, what it does to a state, and what others may do
to the state between two calls. `Program.Ensures` is the judgment on programs: whatever the answers,
only allowed calls are made, and the result satisfies a postcondition. `Program.Step` is one step of
an execution, and `Ensures.reaches` carries the judgment along every execution.

The rules follow the constructors of a program: `ensures_bind` for one program after another,
`Ensures.mono` for a weaker judgment, `Ensures.and` for two judgments, and `Ensures.keep` for what the
allowed calls leave as it is.
-/

namespace TenantOverlay

/-- What programs are run against. -/
structure Environment (S : Signature) (σ : Type) where
  /-- The answers that a call can have in a state, and the states after it. -/
  answers : (c : S.Call) → σ → S.Answer c → σ → Prop
  /-- What others may do to the state between two calls. -/
  meanwhile : σ → σ → Prop
  refl (s : σ) : meanwhile s s
  trans {s t u : σ} : meanwhile s t → meanwhile t u → meanwhile s u

variable {S : Signature} {σ α β : Type}

namespace Environment

/-- The calls that are allowed, and what others do, leave a condition on the state true. -/
structure Keeps (env : Environment S σ) (allowed : S.Call → σ → Prop) (I : σ → Prop) : Prop where
  meanwhile {s t : σ} : env.meanwhile s t → I s → I t
  call {c : S.Call} {s t : σ} {x : S.Answer c} : allowed c s → env.answers c s x t → I s → I t

lemma Keeps.and {env : Environment S σ} {allowed : S.Call → σ → Prop} {I J : σ → Prop}
    (kI : env.Keeps allowed I) (kJ : env.Keeps allowed J) :
    env.Keeps allowed fun s => I s ∧ J s where
  meanwhile m h := ⟨kI.meanwhile m h.1, kJ.meanwhile m h.2⟩
  call a e h := ⟨kI.call a e h.1, kJ.call a e h.2⟩

lemma Keeps.imp {env : Environment S σ} {allowed : S.Call → σ → Prop} {I : σ → Prop}
    (k : env.Keeps allowed I) (P : Prop) : env.Keeps allowed fun s => P → I s where
  meanwhile m h p := k.meanwhile m (h p)
  call a e h p := k.call a e (h p)

end Environment

namespace Program

variable {env : Environment S σ} {allowed allowed' : S.Call → σ → Prop}

/-- Whatever the answers, a program makes only allowed calls, and its result satisfies `post` in the
state at its end. The runtime may leave time for any number of repetitions. -/
def Ensures (env : Environment S σ) (allowed : S.Call → σ → Prop) (post : α → σ → Prop) :
    Program S.withRuntime α → σ → Prop
  | .done a, s => post a s
  | .call (.outside c) next, s => ∀ t, env.meanwhile s t →
      allowed c t ∧ ∀ x u, env.answers c t x u → Ensures env allowed post (next x) u
  | .call (.repetitions _) next, s => ∀ n : Nat, Ensures env allowed post (next n) s
  | .call (.record _) next, s => Ensures env allowed post (next ()) s

/-- One step: others do something, or the program makes its next call. -/
inductive Step (env : Environment S σ) :
    Program S.withRuntime α × σ → Program S.withRuntime α × σ → Prop where
  | meanwhile {p s t} : env.meanwhile s t → Step env (p, s) (p, t)
  | outside {c s x t} {next : S.Answer c → Program S.withRuntime α} :
    env.answers c s x t → Step env (.call (.outside c) next, s) (next x, t)
  | repetitions {policy s} {next : Nat → Program S.withRuntime α} (n : Nat) :
    Step env (.call (.repetitions policy) next, s) (next n, s)
  | record {sample s} {next : Unit → Program S.withRuntime α} :
    Step env (.call (.record sample) next, s) (next (), s)

/-- Some steps. -/
abbrev Reaches (env : Environment S σ) :
    Program S.withRuntime α × σ → Program S.withRuntime α × σ → Prop :=
  Relation.ReflTransGen (Step env)

/-- A step is one in any environment that gives the same answers and more. -/
lemma Step.mono {env' : Environment S σ} {x y : Program S.withRuntime α × σ} (step : Step env x y)
    (ha : ∀ c s x t, env.answers c s x t → env'.answers c s x t)
    (hm : ∀ s t, env.meanwhile s t → env'.meanwhile s t) : Step env' x y := by
  cases step with
  | meanwhile m => exact .meanwhile (hm _ _ m)
  | outside a => exact .outside (ha _ _ _ _ a)
  | repetitions n => exact .repetitions n
  | record => exact .record

lemma Ensures.mono {p : Program S.withRuntime α} {s : σ} {post post' : α → σ → Prop}
    (e : p.Ensures env allowed post s) (ha : ∀ c s, allowed c s → allowed' c s)
    (hp : ∀ a s, post a s → post' a s) : p.Ensures env allowed' post' s := by
  induction p generalizing s with
  | done a => exact hp a s e
  | call c next ih =>
    cases c with
    | outside c =>
      intro t m
      obtain ⟨a, e⟩ := e t m
      exact ⟨ha c t a, fun x u r => ih x (e x u r)⟩
    | repetitions policy => exact fun n => ih n (e n)
    | record sample => exact ih () e

/-- A weaker postcondition. -/
lemma Ensures.post {p : Program S.withRuntime α} {s : σ} {post post' : α → σ → Prop}
    (e : p.Ensures env allowed post s) (hp : ∀ a s, post a s → post' a s) :
    p.Ensures env allowed post' s :=
  e.mono (fun _ _ h => h) hp

lemma ensures_bind {p : Program S.withRuntime α} {f : α → Program S.withRuntime β} {s : σ}
    {post : β → σ → Prop}
    (e : p.Ensures env allowed (fun a t => (f a).Ensures env allowed post t) s) :
    (p >>= f).Ensures env allowed post s := by
  induction p generalizing s with
  | done a => exact e
  | call c next ih =>
    cases c with
    | outside c =>
      intro t m
      obtain ⟨a, e⟩ := e t m
      exact ⟨a, fun x u r => ih x (e x u r)⟩
    | repetitions policy => exact fun n => ih n (e n)
    | record sample => exact ih () e

/-- What the allowed calls and the others leave true is true at every call and at the end. -/
lemma Ensures.keep {p : Program S.withRuntime α} {s : σ} {post : α → σ → Prop} {I : σ → Prop}
    (e : p.Ensures env allowed post s) (k : env.Keeps allowed I) (h : I s) :
    p.Ensures env (fun c t => allowed c t ∧ I t) (fun a t => post a t ∧ I t) s := by
  induction p generalizing s with
  | done a => exact ⟨e, h⟩
  | call c next ih =>
    cases c with
    | outside c =>
      intro t m
      obtain ⟨a, e⟩ := e t m
      have hI := k.meanwhile m h
      exact ⟨⟨a, hI⟩, fun x u r => ih x (e x u r) (k.call a r hI)⟩
    | repetitions policy => exact fun n => ih n (e n) h
    | record sample => exact ih () e h

/-- Two judgments on one program. -/
lemma Ensures.and {p : Program S.withRuntime α} {s : σ} {post post' : α → σ → Prop}
    (e : p.Ensures env allowed post s) (e' : p.Ensures env allowed' post' s) :
    p.Ensures env (fun c t => allowed c t ∧ allowed' c t) (fun a t => post a t ∧ post' a t) s := by
  induction p generalizing s with
  | done a => exact ⟨e, e'⟩
  | call c next ih =>
    cases c with
    | outside c =>
      intro t m
      obtain ⟨a, e⟩ := e t m
      obtain ⟨a', e'⟩ := e' t m
      exact ⟨⟨a, a'⟩, fun x u r => ih x (e x u r) (e' x u r)⟩
    | repetitions policy => exact fun n => ih n (e n) (e' n)
    | record sample => exact ih () e e'

/-- Nothing is asked of a program. -/
lemma ensures_anything (p : Program S.withRuntime α) (s : σ) :
    p.Ensures env (fun _ _ => True) (fun _ _ => True) s := by
  induction p generalizing s with
  | done a => trivial
  | call c next ih =>
    cases c with
    | outside c => exact fun t _ => ⟨trivial, fun x u _ => ih x u⟩
    | repetitions policy => exact fun n => ih n s
    | record sample => exact ih () s

/-- Others cannot make a judgment false, unless they make the postcondition false. -/
lemma Ensures.meanwhile {p : Program S.withRuntime α} {s t : σ} {post : α → σ → Prop}
    (e : p.Ensures env allowed post s) (stable : ∀ a s t, env.meanwhile s t → post a s → post a t)
    (m : env.meanwhile s t) : p.Ensures env allowed post t := by
  induction p with
  | done a => exact stable a s t m e
  | call c next ih =>
    cases c with
    | outside c => exact fun u m' => e u (env.trans m m')
    | repetitions policy => exact fun n => ih n (e n)
    | record sample => exact ih () e

lemma Ensures.step {p q : Program S.withRuntime α} {s t : σ} {post : α → σ → Prop}
    (e : p.Ensures env allowed post s) (stable : ∀ a s t, env.meanwhile s t → post a s → post a t)
    (st : Step env (p, s) (q, t)) : q.Ensures env allowed post t := by
  cases st with
  | meanwhile m => exact e.meanwhile stable m
  | outside r => exact (e s (env.refl s)).2 _ _ r
  | repetitions n => exact e n
  | record => exact e

/-- The judgment holds all along an execution, so the postcondition holds at its end. -/
theorem Ensures.reaches {p q : Program S.withRuntime α} {s t : σ} {post : α → σ → Prop}
    (e : p.Ensures env allowed post s) (stable : ∀ a s t, env.meanwhile s t → post a s → post a t)
    (r : Reaches env (p, s) (q, t)) : q.Ensures env allowed post t := by
  -- The induction is on the steps, so the end of the execution has to be a variable.
  generalize hb : (q, t) = b at r
  induction r generalizing q t with
  | refl =>
    cases hb
    exact e
  | @tail b d _ st ih =>
    subst hb
    obtain ⟨p', s'⟩ := b
    exact (ih rfl).step stable st

/-- A program makes no call but allowed ones, however it is executed. -/
theorem Ensures.call_allowed {p : Program S.withRuntime α} {s t : σ} {post : α → σ → Prop} {c : S.Call}
    {next : S.Answer c → Program S.withRuntime α} (e : p.Ensures env allowed post s)
    (r : Reaches env (p, s) (.call (.outside c) next, t)) : allowed c t := by
  -- What holds at the end does not matter at a call.
  have anyway : p.Ensures env allowed (fun _ _ => True) s := e.post fun _ _ _ => trivial
  exact (anyway.reaches (fun _ _ _ _ _ => trivial) r t (env.refl t)).1

/-- The execution that some answers lead to, up to the first call at which it is to stop. Nothing is
repeated in it. -/
def runTo (answer : (c : S.Call) → σ → S.Answer c × σ) (stop : S.Call → Bool) :
    Program S.withRuntime α → σ → Program S.withRuntime α × σ
  | .done a, s => (.done a, s)
  | .call (.outside c) next, s =>
    if stop c then (.call (.outside c) next, s)
    else (next (answer c s).1).runTo answer stop (answer c s).2
  | .call (.repetitions _) next, s => (next (0 : Nat)).runTo answer stop s
  | .call (.record _) next, s => (next ()).runTo answer stop s

lemma reaches_runTo {answer : (c : S.Call) → σ → S.Answer c × σ}
    (h : ∀ c s, env.answers c s (answer c s).1 (answer c s).2) (stop : S.Call → Bool)
    (p : Program S.withRuntime α) (s : σ) : Reaches env (p, s) (p.runTo answer stop s) := by
  induction p generalizing s with
  | done a => exact .refl
  | call c next ih =>
    cases c with
    | outside c =>
      unfold Program.runTo
      split
      · exact .refl
      · exact .head (.outside (h c s)) (ih _ _)
    | repetitions policy => exact .head (.repetitions 0) (ih _ _)
    | record sample => exact .head .record (ih _ _)

/-- The execution that some answers lead to, up to a number of calls. Nothing is repeated in it. -/
def runCalls (answer : (c : S.Call) → σ → S.Answer c × σ) :
    Nat → Program S.withRuntime α → σ → Program S.withRuntime α × σ
  | _, .done a, s => (.done a, s)
  | 0, .call (.outside c) next, s => (.call (.outside c) next, s)
  | n + 1, .call (.outside c) next, s => (next (answer c s).1).runCalls answer n (answer c s).2
  | n, .call (.repetitions _) next, s => (next (0 : Nat)).runCalls answer n s
  | n, .call (.record _) next, s => (next ()).runCalls answer n s

lemma reaches_runCalls {answer : (c : S.Call) → σ → S.Answer c × σ}
    (h : ∀ c s, env.answers c s (answer c s).1 (answer c s).2) (n : Nat)
    (p : Program S.withRuntime α) (s : σ) : Reaches env (p, s) (p.runCalls answer n s) := by
  induction p generalizing n s with
  | done a =>
    unfold Program.runCalls
    exact .refl
  | call c next ih =>
    cases c with
    | outside c =>
      cases n with
      | zero => exact .refl
      | succ n => exact .head (.outside (h c s)) (ih _ _ _)
    | repetitions policy =>
      cases n <;> exact .head (.repetitions 0) (ih _ _ _)
    | record sample =>
      cases n <;> exact .head .record (ih _ _ _)

/-- An execution that nothing stops comes to a result. -/
lemma exists_result (answer : (c : S.Call) → σ → S.Answer c × σ) (p : Program S.withRuntime α) (s : σ) :
    ∃ a t, p.runTo answer (fun _ => false) s = (.done a, t) := by
  induction p generalizing s with
  | done a => exact ⟨a, s, rfl⟩
  | call c next ih =>
    cases c with
    | outside c => exact ih _ _
    | repetitions policy => exact ih _ _
    | record sample => exact ih _ _

/-- The call that a program makes next. -/
def nextCall? : Program S.withRuntime α → Option S.Call
  | .call (.outside c) _ => some c
  | .call (.repetitions _) _ | .call (.record _) _ | .done _ => none

/-- The result of a program that has come to its end. -/
def result? : Program S.withRuntime α → Option α
  | .done a => some a
  | .call .. => none

lemma eq_call_of_nextCall? {p : Program S.withRuntime α} {c : S.Call} (h : p.nextCall? = some c) :
    ∃ next, p = .call (.outside c) next := by
  cases p with
  | done a => cases h
  | call c next =>
    cases c with
    | outside c =>
      cases h
      exact ⟨next, rfl⟩
    | repetitions policy => cases h
    | record sample => cases h

lemma reaches_nextCall {answer : (c : S.Call) → σ → S.Answer c × σ}
    (h : ∀ c s, env.answers c s (answer c s).1 (answer c s).2) {stop : S.Call → Bool}
    {p : Program S.withRuntime α} {s : σ} {c : S.Call}
    (stops : (p.runTo answer stop s).1.nextCall? = some c) :
    ∃ next, Reaches env (p, s) (.call (.outside c) next, (p.runTo answer stop s).2) := by
  have reached := reaches_runTo h stop p s
  obtain ⟨next, e⟩ := eq_call_of_nextCall? stops
  rw [← Prod.eta (p.runTo answer stop s), e] at reached
  exact ⟨next, reached⟩

lemma reaches_result {answer : (c : S.Call) → σ → S.Answer c × σ}
    (h : ∀ c s, env.answers c s (answer c s).1 (answer c s).2) {stop : S.Call → Bool}
    {p : Program S.withRuntime α} {s : σ} {a : α}
    (done : (p.runTo answer stop s).1.result? = some a) :
    Reaches env (p, s) (.done a, (p.runTo answer stop s).2) := by
  have reached := reaches_runTo h stop p s
  revert reached done
  generalize p.runTo answer stop s = q
  obtain ⟨q, t⟩ := q
  intro done reached
  cases q with
  | done b =>
    cases done
    exact reached
  | call c next => cases done

end Program

end TenantOverlay
