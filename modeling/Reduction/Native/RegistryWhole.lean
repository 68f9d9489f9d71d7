import Reduction.Native.Registry

/-!
# Whole registry calls

The methods of `TunnelRegistry` in `src/tunnel/registry.rs` as they are when no
other call comes between their stages.  The order in which an iteration over the
map visits the buckets is not specified; here they are visited by a rank.
-/

namespace Reduction

namespace TunnelRegistry

variable (reg : TunnelRegistry)

/-- `is_tunnel_backend`. -/
def isTunnelBackend (id : BackendId) : Bool :=
  ((reg.sessions.get id).map fun entry => !entry.isEmpty).getD false

def register (s : TunnelSession) : TunnelRegistry × Except ReductionError Unit :=
  match reg.pushSession s with
  | (reg, .error e) => (reg, .error e)
  | (reg, .ok ()) =>
    let reg :=
      if s.isControlPeer then
        { reg with controlPeers := reg.controlPeers.insert s.sessionId s.connection }
      else reg
    (reg.notifySessionWaiters s.backendId, .ok ())

def deregister (id : BackendId) (sid : SessionId) : TunnelRegistry × Bool :=
  let reg := { reg with controlPeers := reg.controlPeers.remove sid }
  match reg.sessions.get id with
  | none => (reg, false)
  | some entry =>
    let kept := entry.filter fun s => s.sessionId ≠ sid
    let removed := decide (kept.length < entry.length)
    if kept.isEmpty then
      ({ reg with sessions := (reg.sessions.insert id kept).remove id }, removed)
    else
      ({ reg with sessions := reg.sessions.insert id kept }, removed)

/-- `deregister_all`. -/
def deregisterAll (id : BackendId) : TunnelRegistry × Nat :=
  ({ reg with sessions := reg.sessions.remove id }, reg.sessionCount id)

/-- The buckets in the order of an iteration. -/
def visitOrder (rank : BackendId → Nat) : List BackendId :=
  reg.sessions.keys.mergeSort fun a b => rank a ≤ rank b

end TunnelRegistry

namespace TunnelState

variable (st : TunnelState)

/-- The loop of `revoke_matching`. -/
def revokeBuckets (set : RevocationSet) : TunnelState → Nat → List BackendId → TunnelState × Nat
  | st, revoked, [] => (st, revoked)
  | st, revoked, id :: rest =>
    revokeBuckets set (st.revokeBucket set id).1 (revoked + (st.revokeBucket set id).2) rest

def revokeMatching (set : RevocationSet) (rank : BackendId → Nat) : TunnelState × Nat :=
  let (st, revoked) := revokeBuckets set st 0 (st.registry.visitOrder rank)
  ({ st with
      registry := { st.registry with
        sessions := st.registry.sessions.retain fun _ sessions => !sessions.isEmpty } },
    revoked)

def shutdownAll (rank : BackendId → Nat) : TunnelState :=
  let st := (st.registry.visitOrder rank).foldl closeBucket st
  { st with registry := { st.registry with sessions := ∅ } }

end TunnelState

/-- A call that no other call interrupts. -/
inductive WholeCall where
  | register (s : TunnelSession)
  | deregister (id : BackendId) (sid : SessionId)
  | deregisterAll (id : BackendId)
  | recordHeartbeat (id : BackendId) (sid : SessionId) (now : Instant)
  | revokeMatching (set : RevocationSet) (rank : BackendId → Nat)
  | shutdownAll (rank : BackendId → Nat)

namespace TunnelState

def new (maxSessionsPerBackend : UInt32) : TunnelState :=
  { registry := .new maxSessionsPerBackend, closed := [], shutdowns := [] }

def call (st : TunnelState) : WholeCall → TunnelState × CallResult
  | .register s =>
    let (registry, result) := st.registry.register s
    ({ st with registry }, .registered result)
  | .deregister id sid =>
    let (registry, found) := st.registry.deregister id sid
    ({ st with registry }, .removed found)
  | .deregisterAll id =>
    let (registry, count) := st.registry.deregisterAll id
    ({ st with registry }, .count count)
  | .recordHeartbeat id sid now =>
    let (registry, found) := st.registry.recordHeartbeat id sid now
    ({ st with registry }, .stamped found)
  | .revokeMatching set rank =>
    let (st, revoked) := st.revokeMatching set rank
    (st, .count revoked)
  | .shutdownAll rank => (st.shutdownAll rank, .finished)

/-- The state after a sequence of calls on a new registry. -/
def afterCalls (maxSessionsPerBackend : UInt32) (calls : List WholeCall) : TunnelState :=
  calls.foldl (fun st c => (st.call c).1) (.new maxSessionsPerBackend)

end TunnelState

end Reduction
