import TenantOverlay.Backoff
import TenantOverlay.Metrics.Registry
import TenantOverlay.Program.Basic

/-!
# Operations

An operation is a program that can fail. Besides its calls to the outside it asks its runtime how
often it may be repeated, and reports what is to be counted. `Operation.retry` repeats an operation
as long as its failures can be cured by that.
-/

namespace TenantOverlay

/-- A call to the outside or to the runtime. -/
inductive RuntimeCall (S : Signature) where
  | outside (c : S.Call)
  /-- How many repetitions a policy leaves time for. -/
  | repetitions (policy : BackoffPolicy)
  /-- Something to be counted. -/
  | record (sample : Sample)

/-- The calls to the outside together with those to the runtime. -/
def Signature.withRuntime (S : Signature) : Signature where
  Call := RuntimeCall S
  Answer
    | .outside c => S.Answer c
    | .repetitions _ => Nat
    | .record _ => Unit

/-- A program that fails with an error of some type. -/
abbrev Fallible (S : Signature) (ε α : Type) := ExceptT ε (Program S.withRuntime) α

/-- A program that fails with an error of the operator. -/
abbrev Action (S : Signature) (α : Type) := Fallible S Error α

namespace Action

variable {S : Signature} {α : Type}

/-- A call to the outside that cannot fail. -/
def ask (c : S.Call) : Action S (S.Answer c) :=
  ExceptT.lift (Program.ask (S := S.withRuntime) (.outside c))

/-- A result that is known. -/
def ofResult (r : Result α) : Action S α := ExceptT.mk (.done r)

/-- Reports what is to be counted. -/
def record (sample : Sample) : Action S Unit :=
  ExceptT.lift (Program.ask (S := S.withRuntime) (.record sample))

/-- One attempt, and as many repetitions of a failed one as are left, as long as the failure can be
cured by that. -/
def attempts (a : Action S α) : Nat → Action S α
  | 0 => a
  | left + 1 => ExceptT.mk do
    match ← a.run with
    | .ok x => pure (.ok x)
    | .error e => if e.isRetryable then (attempts a left).run else pure (.error e)

/-- Repeats an operation as a policy allows. -/
def retry (policy : BackoffPolicy) (a : Action S α) : Action S α := do
  let left ← ExceptT.lift (Program.ask (S := S.withRuntime) (.repetitions policy))
  a.attempts left

/-- Counts an operation by its result, which stays the same. -/
def counted (resource : String) (operation : Operation) (a : Action S α) : Action S α :=
  ExceptT.mk do
    let result ← a.run
    let _ ← (record (S := S) (.operation resource operation result.isOk)).run
    pure result

/-- The result of an operation, where one kind of failure is an answer as well. -/
def orElseIf (a : Action S α) (p : Error → Bool) (answer : α) : Action S α :=
  ExceptT.mk do
    match ← a.run with
    | .ok x => pure (.ok x)
    | .error e => pure (if p e then .ok answer else .error e)

end Action

end TenantOverlay
