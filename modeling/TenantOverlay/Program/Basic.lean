/-!
# Programs that call an environment

A program either has a result or makes a call and goes on with the answer. What a call does is left
to an environment, so that the same program can be run against a simulated world, followed call by
call, or studied under every possible sequence of answers.
-/

namespace TenantOverlay

/-- The calls that programs can make, and what each is answered with. -/
structure Signature where
  Call : Type
  Answer : Call → Type

inductive Program (S : Signature) (α : Type) where
  | done (a : α)
  | call (c : S.Call) (next : S.Answer c → Program S α)

namespace Program

variable {S : Signature} {α β γ σ : Type}

/-- First one program, then another that depends on its result. -/
def bind : Program S α → (α → Program S β) → Program S β
  | done a, f => f a
  | call c next, f => call c fun x => (next x).bind f

instance : Monad (Program S) where
  pure := done
  bind := bind

@[simp] theorem done_bind (a : α) (f : α → Program S β) : (done a >>= f) = f a := rfl

@[simp] theorem call_bind (c : S.Call) (next : S.Answer c → Program S α)
    (f : α → Program S β) : (call c next >>= f) = call c fun x => next x >>= f := rfl

theorem bind_done (p : Program S α) : p.bind done = p := by
  induction p with
  | done a => rfl
  | call c next ih => exact congrArg (call c) (funext ih)

theorem bind_bind (p : Program S α) (f : α → Program S β) (g : β → Program S γ) :
    (p.bind f).bind g = p.bind fun a => (f a).bind g := by
  induction p with
  | done a => rfl
  | call c next ih => exact congrArg (call c) (funext ih)

instance : LawfulMonad (Program S) := LawfulMonad.mk' _ bind_done (fun _ _ => rfl) bind_bind

/-- A single call. -/
def ask (c : S.Call) : Program S (S.Answer c) := call c done

/-- Runs a program in an environment with a state. -/
def run (answer : (c : S.Call) → σ → S.Answer c × σ) : Program S α → σ → α × σ
  | done a, s => (a, s)
  | call c next, s =>
    let (x, s') := answer c s
    (next x).run answer s'

@[simp] theorem run_done (answer : (c : S.Call) → σ → S.Answer c × σ) (a : α) (s : σ) :
    (done a : Program S α).run answer s = (a, s) := rfl

@[simp] theorem run_bind (answer : (c : S.Call) → σ → S.Answer c × σ) (p : Program S α)
    (f : α → Program S β) (s : σ) :
    (p >>= f).run answer s = (f (p.run answer s).1).run answer (p.run answer s).2 := by
  induction p generalizing s with
  | done a => rfl
  | call c next ih =>
    show ((next (answer c s).1) >>= f).run answer (answer c s).2 = _
    rw [ih]
    rfl

end Program

end TenantOverlay
