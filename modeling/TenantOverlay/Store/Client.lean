import TenantOverlay.Json.Parser
import TenantOverlay.Store.Request
import TenantOverlay.Web.Message

/-!
# The store over the network

The store is a tree of nodes that is reached over HTTP at one of several endpoints. A message goes
to the endpoints in turn until one can be reached, and what that one answers decides. `StoreNode` is
what an answer holds, `StoreClient.readAnswer` makes a node or an error of a status and a body, and
`StoreClient.perform` carries out the requests to the store.
-/

namespace TenantOverlay

open Web (Method Message Outcome Url)

/-- A node of the store: a file with a value, or a directory with the nodes directly below it. -/
structure StoreNode where
  value : Option String := none
  isDirectory : Bool := false
  children : List StoreNode := []

namespace StoreNode

/-- A node with at most so many nodes inside each other, itself included. -/
def ofJsonWithin? : Nat → Json → Option StoreNode
  | 0, _ => none
  | depth + 1, j => do
    let fields ← j.record? ["value", "dir", "nodes"]
    let value ← fields.withDefault "value" none fun
      | .null => some none
      | j => j.text?.map some
    let isDirectory ← fields.withDefault "dir" false Json.bool?
    let children ← fields.withDefault "nodes" [] (Json.list? (ofJsonWithin? depth))
    return ⟨value, isDirectory, children⟩

/-- How many nodes can stand inside each other in an answer: with the list that each stands in they
stay below 128 arrays and objects. -/
def maxDepth : Nat := 63

def ofJson? (j : Json) : Option StoreNode := ofJsonWithin? maxDepth j

/-- The values directly below a node. -/
def childValues (n : StoreNode) : List String := n.children.filterMap (·.value)

/-- The value of a file, or the only one directly below a directory. -/
def single (n : StoreNode) (key : String) : Result String :=
  if n.isDirectory then
    match n.childValues with
    | [] => .error (.notFound key)
    | [v] => .ok v
    | _ => .error (.multipleValues key)
  else match n.value with
    | some v => .ok v
    | none => .error (.notFound key)

end StoreNode

/-- The endpoints at which a store can be reached. -/
structure StoreClient where
  endpoints : List Url

namespace StoreClient

/-- The node of an answer that reports success; without one it is an empty file. -/
def nodeOfJson? (j : Json) : Option StoreNode := do
  let fields ← j.record? ["node"]
  match fields "node" with
  | none => if j = .arr [] then none else some {}
  | some .null => some {}
  | some n => StoreNode.ofJson? n

/-- The cause of a failure as the store names it: a code, a message and a detail. -/
def faultOfJson? (j : Json) : Option (Nat × String × String) := do
  let fields ← j.record? ["errorCode", "message", "cause"]
  let code ← fields.required "errorCode" (Json.nat? UInt32.size)
  let message ← fields.withDefault "message" "" Json.text?
  let cause ← fields.withDefault "cause" "" fun
    | .null => some ""
    | j => j.text?
  return (code, message, cause)

/-- The code of a key that does not exist. -/
def missingKey : Nat := 100

/-- The code of a key that exists already. -/
def existingKey : Nat := 105

/-- What an answer says about a key. -/
def readAnswer (status : Nat) (body key : String) : Result StoreNode :=
  if Web.isSuccess status then
    match (Json.parse? body).bind nodeOfJson? with
    | some n => .ok n
    | none => .error (.wrongType .document)
  else match (Json.parse? body).bind faultOfJson? with
    | none => .error (.store (.unexpected status body))
    | some (code, message, cause) =>
      if code = missingKey then .error (.notFound key)
      else if code = existingKey then .error (.alreadyExists key)
      else .error (.store (.refused code message cause))

/-- A message about a normalised key. -/
structure Form where
  method : Method
  key : String
  query : List (String × String) := []
  fields : Option (List (String × String)) := none
  deriving DecidableEq, Repr

/-- The message to one endpoint. -/
def message? (endpoint : Url) (f : Form) : Option Message :=
  (endpoint.follow? ("v2/keys/" ++ f.key)).map fun url =>
    ⟨f.method, url.withFields f.query, f.fields.map Web.Percent.form⟩

/-- Whether messages can be sent to URLs of a scheme. -/
def isSendable (u : Url) : Bool := u.scheme == "http" || u.scheme == "https"

/-- Goes through the endpoints up to the first that can be reached. The result is that of the last
one tried, and `last` when there is none. -/
def tryEach (f : Form) (last : Error) : List Url → Program Web.network (Result StoreNode)
  | [] => pure (.error last)
  | endpoint :: rest =>
    match message? endpoint f with
    | none => pure (.error (.invalidConfig (.endpointWithoutPaths f.key)))
    | some m =>
      if isSendable m.url then do
        match ← Web.send m with
        | .unreachable => tryEach f (.store (.unreachable m.url.render)) rest
        | .broken => pure (.error (.store (.unreachable m.url.render)))
        | .answer _ none => pure (.error (.store .unreadableBody))
        | .answer status (some body) => pure (readAnswer status body f.key)
      else pure (.error (.store (.unsendable m.url.render)))

/-- Asks for the node that a message leads to. -/
def node (c : StoreClient) (f : Form) : Program Web.network (Result StoreNode) :=
  tryEach f (.store .noEndpoint) c.endpoints

/-- The message that carries out a request. -/
def form : StoreRequest → Form
  | .create key value => ⟨.put, normalizeKey key, [("prevExist", "false")], some [("value", value)]⟩
  | .delete key => ⟨.delete, normalizeKey key, [("recursive", "true")], none⟩
  | .exists key | .list key | .search key => ⟨.get, normalizeKey key, [], none⟩

/-- What a node, or the error in its place, means for a request. -/
def reply : (r : StoreRequest) → Result StoreNode → Result r.Reply
  | .create .., n => n.map fun _ => ()
  | .delete _, n => n.map fun _ => ()
  | .exists _, .ok _ => .ok true
  | .exists _, .error e => if e.isNotFound then .ok false else .error e
  | .list _, n => n.map StoreNode.childValues
  | .search key, n => n.bind fun n => n.single (normalizeKey key)

/-- Carries out a request. -/
def perform (c : StoreClient) (r : StoreRequest) : Program Web.network (Result r.Reply) := do
  return reply r (← c.node (form r))

end StoreClient

end TenantOverlay
