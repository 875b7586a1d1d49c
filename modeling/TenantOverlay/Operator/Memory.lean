import TenantOverlay.Cluster.Memory
import TenantOverlay.Operator.Calls
import TenantOverlay.Store.Memory

/-!
# The operator's services in memory

A cluster and a store that answer the operator's calls.
-/

namespace TenantOverlay

structure MemoryServices where
  cluster : Cluster := {}
  store : KeyTree := .empty

/-- Answers a call. -/
def MemoryServices.answer : (c : OperatorCall) → MemoryServices →
    services.Answer c × MemoryServices
  | .cluster k request, s =>
    let (reply, cluster) := s.cluster.answer k request
    (reply, { s with cluster := cluster })
  | .store request, s =>
    let (reply, store) := s.store.answer request
    (reply, { s with store := store })

end TenantOverlay
