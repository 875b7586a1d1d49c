import TenantOverlay.Cluster.Request
import TenantOverlay.Json.Parser
import TenantOverlay.Json.Printer
import TenantOverlay.Kubernetes.Kinds
import TenantOverlay.Text.Visible
import TenantOverlay.Web.Message
import TenantOverlay.Web.Target

/-!
# The cluster over the network

How requests about objects are written as messages to the cluster's API, `ObjectRequest.message`, and
how the answers are read, `ObjectRequest.readAnswer`.
-/

namespace TenantOverlay

open Web (Method Target)

/-- A message to the API of the cluster. -/
structure ApiMessage where
  method : Method
  target : Target
  body : Option Json := none

namespace Kind

/-- The path of the objects of a kind, in a namespace or in all. Kinds that do not live in
namespaces have one path. -/
def path (k : Kind) (namespaceName : Option String) : String :=
  let root := if k.apiVersion.contains '/' then "/apis/" else "/api/"
  let inside := match namespaceName with
    | some n => if k.isNamespaced then "namespaces/" ++ n ++ "/" else ""
    | none => ""
  root ++ k.apiVersion ++ "/" ++ inside ++ k.plural

/-- The fields of a list besides its items. -/
def listMeta : Schema :=
  .record [Schema.opt "continue" .text, Schema.opt "remainingItemCount" .int64,
    Schema.opt "resourceVersion" .text, Schema.opt "selfLink" .text]

/-- A list of objects; null stands for no items. -/
def decodeList? (k : Kind) (j : Json) : Option (List k.Object) := do
  let fields ← j.record? ["metadata", "items"]
  let _ ← fields.required "metadata" listMeta.normalize?
  fields.required "items" fun
    | .null => some []
    | j => j.list? k.decode?

end Kind

/-! ### Statuses -/

namespace ApiFault

/-- A failure that the API describes. -/
def ofJson? (j : Json) : Option ApiFault := do
  let fields ← j.record? ["status", "message", "reason", "code"]
  let _ ← fields.required "status" Json.text?
  let message ← fields.withDefault "message" "" Json.text?
  let reason ← fields.withDefault "reason" "" Json.text?
  let code ← fields.required "code" (Json.nat? UInt16.size)
  return .refused code reason message

/-- The failure that a status and a body report; a body that is no description of it is quoted. -/
def ofAnswer (status : Nat) (body : String) : ApiFault :=
  ((Json.parse? body).bind ofJson?).getD
    (.refused status "Failed to parse error data" (Text.visible body))

end ApiFault

/-- The outcome that a status reports. -/
def Json.isOutcome (j : Json) : Bool :=
  match j with
  | .null | .str "Success" | .str "Failure" => true
  | .obj [("Success", .null)] | .obj [("Failure", .null)] => true
  | _ => false

/-- Whether a value has the form of a status, all of whose fields may be missing. -/
def Json.isStatus (j : Json) : Bool :=
  let text (fields : Json.Fields) (name : String) : Option Unit :=
    (fields.withDefault name "" Json.text?).map fun _ => ()
  let cause (j : Json) : Option Unit := do
    let fields ← j.record? ["reason", "message", "field"]
    ["reason", "message", "field"].forM (text fields)
  let details (j : Json) : Option Unit := do
    let fields ← j.record? ["name", "group", "kind", "uid", "causes", "retryAfterSeconds"]
    ["name", "group", "kind", "uid"].forM (text fields)
    let _ ← fields.withDefault "causes" [] (Json.list? cause)
    let _ ← fields.withDefault "retryAfterSeconds" 0 Json.uint32?
  Option.isSome do
    let fields ← j.record? ["status", "code", "message", "reason", "details"]
    if !(fields "status").all Json.isOutcome then none
    let _ ← fields.withDefault "code" 0 (Json.nat? UInt16.size)
    ["message", "reason"].forM (text fields)
    fields.withDefault "details" () fun
      | .null => some ()
      | j => details j

/-! ### Requests and answers -/

namespace ObjectRequest

/-- A message to a target as it stands. -/
def messageTo (method : Method) (text : String) (body : Option Json) : Result ApiMessage :=
  match Target.parse? text with
  | some target => .ok ⟨method, target, body⟩
  | none => .error (.api .unformed)

/-- What a list asks for besides its path. -/
def selection : Option String → String
  | some selector => "&" ++ Web.Percent.form [("labelSelector", selector)]
  | none => ""

/-- The message that carries out a request. Objects that depend on a deleted one are deleted after
it. -/
def message (k : Kind) : ObjectRequest k.Body → Result ApiMessage
  | .get ns name => messageTo .get (k.path ns ++ "/" ++ name) none
  | .list ns selector => messageTo .get (k.path ns ++ "?" ++ selection selector) none
  | .create ns o => messageTo .post (k.path ns ++ "?") (some (k.encode o))
  | .replace ns o =>
    match o.metadata.name with
    | none => .error (.invalidConfig .replacedWithoutName)
    | some name => messageTo .put (k.path ns ++ "/" ++ name ++ "?") (some (k.encode o))
  | .delete ns name =>
    messageTo .delete (k.path ns ++ "/" ++ name ++ "?")
      (some (.obj [("propagationPolicy", .str "Background")]))

/-- The value of a body that has a given form. -/
def decoded {α : Type} (read : Json → Option α) (body : String) : Result α :=
  match (Json.parse? body).bind read with
  | some a => .ok a
  | none => .error (.api .undecodable)

/-- The reason of a failure that says that there is no such object. -/
def missing : String := "NotFound"

/-- What an answer means for a request. A deletion is answered with the object or with a status. -/
def readAnswer (k : Kind) (status : Nat) (body : String) : (r : ObjectRequest k.Body) → Result r.Reply
  | .get .. =>
    if Web.isFailure status then
      match ApiFault.ofAnswer status body with
      | .refused code reason m =>
        if reason = missing then .ok none else .error (.api (.refused code reason m))
      | fault => .error (.api fault)
    else (decoded k.decode? body).map some
  | .list .. =>
    if Web.isFailure status then .error (.api (ApiFault.ofAnswer status body))
    else decoded k.decodeList? body
  | .create .. | .replace .. =>
    if Web.isFailure status then .error (.api (ApiFault.ofAnswer status body))
    else decoded k.decode? body
  | .delete .. =>
    if Web.isFailure status then .error (.api (ApiFault.ofAnswer status body))
    else decoded (fun j => do
      let whole ← j.canonical?
      if whole.get? "kind" = some (.str "Status") then if j.isStatus then some () else none
      else (k.decode? j).map fun _ => ()) body

end ObjectRequest

end TenantOverlay
