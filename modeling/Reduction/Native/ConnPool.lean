import Reduction.ForStd.Concurrent
import Reduction.Native.Backend

/-!
# Connection permits

Model of the per-backend connection limits in `src/proxy/pool.rs`.  A semaphore
is the number of permits that it still has; nothing ever removes one from the
map, so a permit always goes back to where it was taken.
-/

namespace Reduction

/-- The part of `ConnPool` that counts connections. -/
structure ConnPool where
  connLimits : DashMap BackendId Nat

namespace ConnPool

def new : ConnPool := { connLimits := ∅ }

/-- `entry(id).or_insert_with`: a semaphore is created with the limit of its first use. -/
def semaphore (pool : ConnPool) (backend : BackendConfig) : Nat :=
  (pool.connLimits.get backend.id).getD backend.maxConnections.toNat

def tryAcquireConnPermit (pool : ConnPool) (backend : BackendConfig) :
    ConnPool × Except ReductionError Unit :=
  match pool.semaphore backend with
  | 0 => ({ connLimits := pool.connLimits.insert backend.id 0 }, .error .backendUnavailable)
  | available + 1 => ({ connLimits := pool.connLimits.insert backend.id available }, .ok ())

/-- `Drop for OwnedSemaphorePermit`. -/
def release (pool : ConnPool) (id : BackendId) : ConnPool :=
  { connLimits := pool.connLimits.modify id (· + 1) }

/-- `connection_pressure`: the share of the given limit that is in use. -/
def connectionPressure (pool : ConnPool) (backendId : Bytes) (maxConnections : UInt32) : F64 :=
  let max := maxConnections.toNat
  if max = 0 then
    .one
  else
    let available := ((ArrayString.from? backendId).bind pool.connLimits.get).getD max
    let inUse := max - available
    (F64.ofNat inUse).div (.ofNat max)

end ConnPool

end Reduction
