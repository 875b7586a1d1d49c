import TenantOverlay.Error
import TenantOverlay.Json.Parser
import TenantOverlay.Json.Printer

/-!
# Network entries

The entry that flannel's daemon reads from the key-value store: the network it hands out subnets
of, the length of their prefix, and the backend that carries the packets. An entry is stored as a
JSON text, written by `NetworkEntry.render` and read by `NetworkEntry.parse`.
-/

namespace TenantOverlay

/-- How packets between hosts are carried. -/
structure Backend where
  type : String
  vni : UInt32
  deriving DecidableEq, Repr

structure NetworkEntry where
  network : String
  subnetLength : UInt32
  backend : Backend
  deriving DecidableEq, Repr

namespace NetworkEntry

/-- The entry in which nothing is set. -/
def empty : NetworkEntry := ⟨"", 0, ⟨"", 0⟩⟩

instance : Inhabited NetworkEntry := ⟨empty⟩

/-- An entry for a VXLAN network. -/
def vxlan (network : String) (subnetLength vni : UInt32) : NetworkEntry :=
  ⟨network, subnetLength, ⟨"vxlan", vni⟩⟩

def isEmpty (e : NetworkEntry) : Bool := e == empty

/-- Same network, same subnet length and same network identifier, whatever the backend's type. -/
def sameNetwork (a b : NetworkEntry) : Bool :=
  a.network == b.network && a.subnetLength == b.subnetLength && a.backend.vni == b.backend.vni

end NetworkEntry

namespace Backend

def ofJson? (j : Json) : Option Backend := do
  let fields ← j.record? ["Type", "VNI"]
  let type ← fields.withDefault "Type" "" Json.text?
  let vni ← fields.withDefault "VNI" 0 Json.uint32?
  return ⟨type, vni⟩

def toJson (b : Backend) : Json := .obj [("Type", .str b.type), ("VNI", .int b.vni.toNat)]

end Backend

namespace NetworkEntry

def ofJson? (j : Json) : Option NetworkEntry := do
  let fields ← j.record? ["Network", "SubnetLen", "Backend"]
  let network ← fields.withDefault "Network" "" Json.text?
  let subnetLength ← fields.withDefault "SubnetLen" 0 Json.uint32?
  let backend ← fields.withDefault "Backend" empty.backend Backend.ofJson?
  return ⟨network, subnetLength, backend⟩

def toJson (e : NetworkEntry) : Json :=
  .obj [("Network", .str e.network), ("SubnetLen", .int e.subnetLength.toNat),
    ("Backend", e.backend.toJson)]

/-- The stored text of an entry. -/
def render (e : NetworkEntry) : String := e.toJson.toText

/-- Reads a stored text. -/
def parse (text : String) : Result NetworkEntry :=
  match (Json.parse? text).bind ofJson? with
  | some e => .ok e
  | none => .error (.wrongType .document)

end NetworkEntry

end TenantOverlay
