import TenantOverlay.Error
import TenantOverlay.Kubernetes.Metadata

/-!
# Requests to the cluster

What can be asked about the objects of one kind, and what the answer to each request holds.
-/

namespace TenantOverlay

/-- A request about objects of one kind. Without a namespace, a list covers all of them. -/
inductive ObjectRequest (Body : Type) where
  | get (namespaceName : Option String) (name : String)
  | list (namespaceName : Option String) (selector : Option String)
  | create (namespaceName : Option String) (object : Manifest Body)
  | replace (namespaceName : Option String) (object : Manifest Body)
  | delete (namespaceName : Option String) (name : String)

namespace ObjectRequest

variable {Body : Type}

/-- What a successful answer holds. -/
abbrev Reply : ObjectRequest Body → Type
  | get .. => Option (Manifest Body)
  | list .. => List (Manifest Body)
  | create .. | replace .. => Manifest Body
  | delete .. => Unit

/-- Whether the request can change the cluster. -/
def isWrite : ObjectRequest Body → Bool
  | get .. | list .. => false
  | create .. | replace .. | delete .. => true

end ObjectRequest

namespace ApiFault

def nameRequired : ApiFault := refused 422 "Invalid" "name is required"
def alreadyExists (name : String) : ApiFault := refused 409 "AlreadyExists" (name ++ " already exists")
def notFound (name : String) : ApiFault := refused 404 "NotFound" (name ++ " not found")
def modified (name : String) : ApiFault := refused 409 "Conflict" (name ++ " has been modified")

end ApiFault

end TenantOverlay
