import TenantOverlay.Error

/-!
# Repetition policies

How long to wait between the attempts of an operation, and when to give up. Times are in
nanoseconds.
-/

namespace TenantOverlay

structure BackoffPolicy where
  initialInterval : Nat
  maxInterval : Nat
  multiplier : Float
  maxElapsed : Nat

namespace BackoffPolicy

def millisecond : Nat := 1000000
def second : Nat := 1000000000

/-- The usual intervals, for a time in which attempts may be made. -/
def within (maxElapsed : Nat) : BackoffPolicy where
  initialInterval := 500 * millisecond
  maxInterval := 60 * second
  multiplier := 1.5
  maxElapsed := maxElapsed

instance : Inhabited BackoffPolicy := ⟨within (300 * second)⟩

/-- Intervals are not zero and do not shrink. -/
def validate (p : BackoffPolicy) : Result Unit := do
  Result.require (p.initialInterval != 0) .zeroInitialInterval
  Result.require (p.initialInterval ≤ p.maxInterval) .maxIntervalBelowInitial
  Result.require (!(p.multiplier < 1.0)) .multiplierBelowOne

end BackoffPolicy

end TenantOverlay
