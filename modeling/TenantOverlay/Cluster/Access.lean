import TenantOverlay.Text.Split
import TenantOverlay.Yaml.Reader

/-!
# Access to the cluster

The files that describe clusters, users and contexts. `ClusterAccess.isConfigured` says whether the
current context names a cluster that can be reached as a user.
-/

namespace TenantOverlay.ClusterAccess

/-- What the files say together. -/
structure Contexts where
  current : Option String := none
  contexts : List Yaml := []
  clusters : List Yaml := []
  users : List Yaml := []

namespace Contexts

/-- A field that holds a list; nothing stands for an empty one. -/
def listOf? (y : Yaml) (field : String) : Option (List Yaml) :=
  match y.get? field with
  | none | some .null => some []
  | some (.seq items) => if items.all fun i => ((i.get? "name").bind Yaml.text?).isSome then some items else none
  | some _ => none

def ofYaml? (y : Yaml) : Option Contexts := do
  let contexts ← listOf? y "contexts"
  let clusters ← listOf? y "clusters"
  let users ← listOf? y "users"
  return ⟨(y.get? "current-context").bind Yaml.text?, contexts, clusters, users⟩

/-- Two files together; of two entries of one name the earlier counts. -/
def append (a b : Contexts) : Contexts :=
  ⟨a.current <|> b.current, a.contexts ++ b.contexts, a.clusters ++ b.clusters, a.users ++ b.users⟩

/-- The content of the first entry of a name. -/
def entry? (name field : String) (entries : List Yaml) : Option Yaml :=
  (entries.find? fun e => (e.get? "name").bind Yaml.text? == some name).bind (·.get? field)

/-- Whether a server's address can be used. -/
def isAddress (s : String) : Bool :=
  !s.isEmpty && s.toList.all fun c => 0x20 < c.toNat && c.toNat < 0x7F

/-- The current context names a cluster with an address, and a user. -/
def isComplete (c : Contexts) : Bool :=
  Option.isSome do
    let context ← entry? (← c.current) "context" c.contexts
    let cluster ← entry? (← (context.get? "cluster").bind Yaml.text?) "cluster" c.clusters
    let server ← (cluster.get? "server").bind Yaml.text?
    let _ ← entry? (← (context.get? "user").bind Yaml.text?) "user" c.users
    if isAddress server then some () else none

end Contexts

/-- The value of a variable of the environment. -/
def valueOf? (environment : List (String × String)) (name : String) : Option String :=
  (environment.find? fun v => v.1 == name).map (·.2)

/-- The files that are read: those that the environment names, or the one in the home directory. -/
def paths (environment : List (String × String)) : List String :=
  let named := ((valueOf? environment "KUBECONFIG").map fun v =>
    ((Text.splitOn ':' v.toList).filter (!·.isEmpty)).map String.ofList).getD []
  if named.isEmpty then
    ((valueOf? environment "HOME").map (· ++ "/.kube/config")).toList
  else named

/-- All files can be read, and together they give a complete current context. -/
def isConfigured (files : String → Option String) (environment : List (String × String)) : Bool :=
  let read (path : String) : Option Contexts := do
    let y ← Yaml.read? (← files path)
    Contexts.ofYaml? (← y)
  match (paths environment).mapM read with
  | some found => (found.foldl Contexts.append {}).isComplete
  | none => false

end TenantOverlay.ClusterAccess
