import TenantOverlay.Cluster.Request
import TenantOverlay.Kubernetes.Kinds
import TenantOverlay.Program.Runtime
import TenantOverlay.Store.Request

/-!
# The operator's calls

The operator reaches two outside services, the cluster and the key-value store. `createIfMissing`
and `deleteIfExists` are the changes that may find their work done already.
-/

namespace TenantOverlay

inductive OperatorCall where
  | cluster (k : Kind) (request : ObjectRequest k.Body)
  | store (request : StoreRequest)

/-- The services of the operator. -/
def services : Signature where
  Call := OperatorCall
  Answer
    | .cluster _ request => Result request.Reply
    | .store request => Result request.Reply

/-- An operation of the operator. -/
abbrev OperatorAction := Action services

/-- A request to the cluster. -/
def OperatorAction.ofObject (k : Kind) (request : ObjectRequest k.Body) : OperatorAction request.Reply := do
  Action.ofResult (← Action.ask (S := services) (.cluster k request))

/-- A request to the store. -/
def OperatorAction.ofStore (request : StoreRequest) : OperatorAction request.Reply := do
  Action.ofResult (← Action.ask (S := services) (.store request))

namespace Kind

/-- The object of a name, if there is one. -/
def get (k : Kind) (namespaceName : Option String) (name : String) : OperatorAction (Option k.Object) :=
  OperatorAction.ofObject k (.get namespaceName name)

/-- The objects in a namespace, or in all, that a selector covers. -/
def list (k : Kind) (namespaceName selector : Option String) : OperatorAction (List k.Object) :=
  OperatorAction.ofObject k (.list namespaceName selector)

/-- Creates an object. -/
def create (k : Kind) (namespaceName : Option String) (o : k.Object) : OperatorAction k.Object :=
  OperatorAction.ofObject k (.create namespaceName o)

/-- Replaces the object of the same name. -/
def replace (k : Kind) (namespaceName : Option String) (o : k.Object) : OperatorAction k.Object :=
  OperatorAction.ofObject k (.replace namespaceName o)

/-- Deletes the object of a name. -/
def delete (k : Kind) (namespaceName : Option String) (name : String) : OperatorAction Unit :=
  OperatorAction.ofObject k (.delete namespaceName name)

/-- Creates an object, and says whether it did not exist yet. -/
def createIfMissing (k : Kind) (namespaceName : Option String) (o : k.Object) : OperatorAction Bool :=
  Action.orElseIf (do let _ ← k.create namespaceName o; return true) Error.isAlreadyExists false

/-- Deletes an object, and says whether it existed. -/
def deleteIfExists (k : Kind) (namespaceName : Option String) (name : String) : OperatorAction Bool :=
  Action.orElseIf (do k.delete namespaceName name; return true) Error.isNotFound false

end Kind

end TenantOverlay
