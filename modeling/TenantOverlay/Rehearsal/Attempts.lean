import TenantOverlay.Rehearsal.Basic

/-!
# Rehearsed attempts

An operation whose attempts come to given results, and how often it is attempted under a policy.
-/

namespace TenantOverlay

/-- An operation whose attempts are made outside. -/
def attemptCalls (α : Type) : Signature where
  Call := Unit
  Answer _ := Result α

namespace Attempts

variable {α : Type}

/-- The results that are left and the number of attempts made. -/
structure State (α : Type) where
  results : List (Result α)
  made : Nat := 0

/-- The next result, and the results that are left; the last one repeats. -/
def next : List (Result α) → Result α × List (Result α)
  | [] => (.error (.unknown ""), [])
  | [r] => (r, [r])
  | r :: rest => (r, rest)

def answer : (c : (attemptCalls α).withRuntime.Call) → State α →
    (attemptCalls α).withRuntime.Answer c × State α
  | .outside (), s =>
    let (result, rest) := next s.results
    (result, ⟨rest, s.made + 1⟩)
  | .repetitions policy, s => (Rehearsal.repetitions policy, s)
  | .record _, s => ((), s)

/-- One attempt. -/
def attempt : Action (attemptCalls α) α := do
  Action.ofResult (← Action.ask (S := attemptCalls α) ())

/-- The result of the operation under a policy, and the number of attempts. -/
def run (policy : BackoffPolicy) (results : List (Result α)) : Result α × Nat :=
  let (result, s) := Program.run answer (ExceptT.run (attempt.retry policy)) { results := results }
  (result, s.made)

end Attempts

end TenantOverlay
