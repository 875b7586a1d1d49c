/-!
# Control flow of a pass

What a step of a handler says about the rest of the pass.
-/

namespace TenantOverlay

inductive Flow (α : Type) where
  /-- Go on, with the step's result. -/
  | continue (a : α)
  /-- End the pass here. -/
  | cancel
  /-- End the pass here, and keep the finalizer on the object. -/
  | keepFinalizer
  deriving DecidableEq, Repr

namespace Flow

variable {α β : Type}

def isContinue : Flow α → Bool
  | .continue _ => true
  | _ => false

def map (f : α → β) : Flow α → Flow β
  | .continue a => .continue (f a)
  | .cancel => .cancel
  | .keepFinalizer => .keepFinalizer

/-- The result, or the signal that ends the pass. -/
def value : Flow α → Except (Flow Unit) α
  | .continue a => .ok a
  | .cancel => .error .cancel
  | .keepFinalizer => .error .keepFinalizer

/-- Go on, with nothing. -/
def proceed : Flow Unit := .continue ()

end Flow

end TenantOverlay
