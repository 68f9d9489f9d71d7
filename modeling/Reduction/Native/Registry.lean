import Reduction.ForStd.Concurrent
import Reduction.Native.Backend
import Reduction.Native.Revocation

/-!
# The tunnel registry

Model of `TunnelRegistry` in `src/tunnel/registry.rs`.  Its methods run
concurrently and take no lock beyond the one that each single `DashMap`
operation takes, so a method is a sequence of stages, one for each operation,
and other tasks may run between any two of them.

The steps below do one stage.  Whatever a stage learns from outside is in its
`CallInput`.  The registry holds handles only: what it does to the connections
and the control channels behind them is in `TunnelState`.
-/

namespace Reduction

/-- `SessionId`, a text of 21 bytes. -/
abbrev SessionId := Vector UInt8 21

/-- A handle of a `quinn::Connection`. -/
abbrev ConnectionId := Nat

structure TunnelSession where
  /-- The control channel `control_tx` is the one of this id. -/
  sessionId : SessionId
  backendId : BackendId
  pool : ArrayString 32
  remoteAddr : SocketAddr
  connectedAt : Instant
  lastHeartbeat : Instant
  connection : ConnectionId
  identity : PeerIdentity
  isControlPeer : Bool

/-- `tokio::sync::Notify`, as the number of `notify_waiters` calls so far. -/
abbrev Notify := Nat

structure TunnelRegistry where
  sessions : DashMap BackendId (List TunnelSession)
  rrCounter : UInt64
  maxSessionsPerBackend : UInt32
  wakeNotify : DashMap BackendId Notify
  controlPeers : DashMap SessionId ConnectionId

/-- The registry and what its sessions' handles lead to. -/
structure TunnelState where
  registry : TunnelRegistry
  /-- The connections that have a `close_reason`. -/
  closed : List ConnectionId
  /-- The `Shutdown` frames offered to control channels, with their reasons. -/
  shutdowns : List (SessionId × ArrayString 64)

/-- Either the next stage of a call or its result. -/
inductive Progress (σ ρ : Type) where
  | more (stage : σ)
  | done (result : ρ)

/-- What a stage meets. -/
structure CallInput where
  now : Instant
  /-- The bucket that an iteration over the map visits next; none if it has come to its end. -/
  bucket : Option BackendId
  /-- The error of `open_bi`, if it fails. -/
  openError : Option String

namespace TunnelRegistry

def new (maxSessionsPerBackend : UInt32) : TunnelRegistry :=
  { sessions := ∅, rrCounter := 0, maxSessionsPerBackend, wakeNotify := ∅, controlPeers := ∅ }

/-- `session_count`. -/
def sessionCount (reg : TunnelRegistry) (id : BackendId) : Nat := (reg.sessions.bucket id).length

/-- `total_sessions`. -/
def totalSessions (reg : TunnelRegistry) : Nat :=
  (reg.sessions.entries.map fun e => e.2.length).sum

/-- `notify_session_waiters`. -/
def notifySessionWaiters (reg : TunnelRegistry) (id : BackendId) : TunnelRegistry :=
  { reg with wakeNotify := reg.wakeNotify.modify id (· + 1) }

/-! ## `register` -/

inductive RegisterStage where
  | push
  | insertPeer
  | notify

/-- The session goes to the end of its backend's bucket, unless that is full.  Either way the bucket
    exists afterwards. -/
def pushSession (reg : TunnelRegistry) (s : TunnelSession) :
    TunnelRegistry × Except ReductionError Unit :=
  let entry := reg.sessions.bucket s.backendId
  if reg.maxSessionsPerBackend.toNat ≤ entry.length then
    -- `entry(..).or_default()` has made the bucket before the cap is looked at
    ({ reg with sessions := reg.sessions.insert s.backendId entry },
      .error (.tunnel ("max sessions (" ++ toString reg.maxSessionsPerBackend.toNat ++
        ") reached for backend " ++ s.backendId.asStr)))
  else
    ({ reg with sessions := reg.sessions.insert s.backendId (entry ++ [s]) }, .ok ())

def registerStep (reg : TunnelRegistry) (s : TunnelSession) :
    RegisterStage → TunnelRegistry × Progress RegisterStage (Except ReductionError Unit)
  | .push =>
    match reg.pushSession s with
    | (reg, .ok ()) => (reg, .more .insertPeer)
    | (reg, .error e) => (reg, .done (.error e))
  | .insertPeer =>
    (if s.isControlPeer then
      { reg with controlPeers := reg.controlPeers.insert s.sessionId s.connection }
    else reg, .more .notify)
  | .notify => (reg.notifySessionWaiters s.backendId, .done (.ok ()))

/-! ## `deregister` -/

inductive DeregisterStage where
  | peers
  | retain
  /-- The bucket was empty when its guard was dropped; whether the session had been in it. -/
  | removeBucket (removed : Bool)

def deregisterStep (reg : TunnelRegistry) (id : BackendId) (sid : SessionId) :
    DeregisterStage → TunnelRegistry × Progress DeregisterStage Bool
  | .peers => ({ reg with controlPeers := reg.controlPeers.remove sid }, .more .retain)
  | .retain =>
    match reg.sessions.get id with
    | none => (reg, .done false)
    | some entry =>
      let kept := entry.filter fun s => s.sessionId ≠ sid
      let removed := decide (kept.length < entry.length)
      ({ reg with sessions := reg.sessions.insert id kept },
        if kept.isEmpty then .more (.removeBucket removed) else .done removed)
  -- unconditional: what was pushed since the guard was dropped goes as well
  | .removeBucket removed => ({ reg with sessions := reg.sessions.remove id }, .done removed)

/-! ## `record_heartbeat` and `acquire_stream` -/

/-- Stamp the first session of that id. -/
def stampFirst (sid : SessionId) (now : Instant) : List TunnelSession → List TunnelSession
  | [] => []
  | s :: rest =>
    if s.sessionId = sid then { s with lastHeartbeat := now } :: rest
    else s :: stampFirst sid now rest

/-- `record_heartbeat`. -/
def recordHeartbeat (reg : TunnelRegistry) (id : BackendId) (sid : SessionId) (now : Instant) :
    TunnelRegistry × Bool :=
  ({ reg with sessions := reg.sessions.modify id (stampFirst sid now) },
    (reg.sessions.bucket id).any fun s => s.sessionId = sid)

/-- The round-robin choice of `acquire_stream`. -/
def nextSession (reg : TunnelRegistry) (id : BackendId) : TunnelRegistry × Option TunnelSession :=
  let entry := reg.sessions.bucket id
  if entry.isEmpty then (reg, none)
  else
    -- the counter is shared by all backends
    ({ reg with rrCounter := reg.rrCounter + 1 }, entry[reg.rrCounter.toNat % entry.length]?)

end TunnelRegistry

namespace TunnelState

/-! ## `revoke_matching` -/

inductive RevokeStage where
  | start
  /-- The iteration: the buckets that it still has to visit, and how many sessions are gone. -/
  | buckets (todo : List BackendId) (revoked : Nat)
  | dropEmpty (revoked : Nat)

/-- The body of the loop: offer the revoked sessions of a bucket their `Shutdown` and drop them. -/
def revokeBucket (st : TunnelState) (set : RevocationSet) (id : BackendId) : TunnelState × Nat :=
  let gone := (st.registry.sessions.bucket id).filter fun s => set.isRevoked s.identity
  let reason : ArrayString 64 := (ArrayString.from? (Bytes.ascii "revoked")).getD .empty
  ({ st with
      registry := { st.registry with
        sessions := st.registry.sessions.modify id
          (List.filter fun s => !set.isRevoked s.identity) }
      shutdowns := st.shutdowns ++ gone.map fun s => (s.sessionId, reason) },
    gone.length)

/-- An iteration visits every bucket that is there all along; one that is inserted meanwhile it may
    visit or not. -/
def revokeStep (st : TunnelState) (set : RevocationSet) (input : CallInput) :
    RevokeStage → TunnelState × Progress RevokeStage Nat
  | .start => (st, .more (.buckets st.registry.sessions.keys 0))
  | .buckets todo revoked =>
    match input.bucket with
    | some id =>
      let (st, n) := st.revokeBucket set id
      (st, .more (.buckets (todo.erase id) (revoked + n)))
    | none => (st, .more (if todo.isEmpty then .dropEmpty revoked else .buckets todo revoked))
  | .dropEmpty revoked =>
    ({ st with
        registry := { st.registry with
          sessions := st.registry.sessions.retain fun _ sessions => !sessions.isEmpty } },
      .done revoked)

/-! ## `shutdown_all` -/

inductive ShutdownStage where
  | start
  | buckets (todo : List BackendId)
  | clear

def closeBucket (st : TunnelState) (id : BackendId) : TunnelState :=
  let sessions := st.registry.sessions.bucket id
  let reason : ArrayString 64 := (ArrayString.from? (Bytes.ascii "proxy shutting down")).getD .empty
  { st with
    closed := st.closed ++ sessions.map (·.connection)
    shutdowns := st.shutdowns ++ sessions.map fun s => (s.sessionId, reason) }

def shutdownStep (st : TunnelState) (input : CallInput) :
    ShutdownStage → TunnelState × Progress ShutdownStage Unit
  | .start => (st, .more (.buckets st.registry.sessions.keys))
  | .buckets todo =>
    match input.bucket with
    | some id => (st.closeBucket id, .more (.buckets (todo.erase id)))
    | none => (st, .more (if todo.isEmpty then .clear else .buckets todo))
  -- sessions that came after the iteration are dropped without a `Shutdown`
  | .clear => ({ st with registry := { st.registry with sessions := ∅ } }, .done ())

end TunnelState

/-! ## Calls -/

inductive CallResult where
  | registered (result : Except ReductionError Unit)
  | removed (found : Bool)
  | stamped (found : Bool)
  | count (sessions : Nat)
  | stream (result : Except ReductionError ConnectionId)
  | finished

/-- A call other than `register`, at one of its stages. -/
inductive RegistryOp where
  | deregister (id : BackendId) (sid : SessionId) (stage : TunnelRegistry.DeregisterStage)
  | deregisterAll (id : BackendId)
  | recordHeartbeat (id : BackendId) (sid : SessionId)
  | acquireStream (id : BackendId)
  /-- `acquire_stream` chose a session whose connection is closed, and deregisters it. -/
  | dropClosed (id : BackendId) (sid : SessionId) (stage : TunnelRegistry.DeregisterStage)
  /-- `acquire_stream` opens a stream; it holds no guard while it waits. -/
  | openStream (conn : ConnectionId)
  | revokeMatching (set : RevocationSet) (stage : TunnelState.RevokeStage)
  | shutdownAll (stage : TunnelState.ShutdownStage)

namespace RegistryOp

/-- The stage in which a call begins. -/
def isEntry : RegistryOp → Bool
  | deregister _ _ .peers | deregisterAll _ | recordHeartbeat _ _ | acquireStream _
  | revokeMatching _ .start | shutdownAll .start => true
  | _ => false

/-- One stage of a call. -/
def step (st : TunnelState) (input : CallInput) :
    RegistryOp → TunnelState × Progress RegistryOp CallResult
  | deregister id sid stage =>
    match st.registry.deregisterStep id sid stage with
    | (reg, .more stage) => ({ st with registry := reg }, .more (deregister id sid stage))
    | (reg, .done found) => ({ st with registry := reg }, .done (.removed found))
  | deregisterAll id =>
    ({ st with registry := { st.registry with sessions := st.registry.sessions.remove id } },
      .done (.count (st.registry.sessionCount id)))
  | recordHeartbeat id sid =>
    let (reg, found) := st.registry.recordHeartbeat id sid input.now
    ({ st with registry := reg }, .done (.stamped found))
  | acquireStream id =>
    match st.registry.nextSession id with
    | (reg, none) =>
      ({ st with registry := reg }, .done (.stream (.error (.noBackendSession id.asStr))))
    | (reg, some s) =>
      ({ st with registry := reg },
        .more (if st.closed.contains s.connection then dropClosed id s.sessionId .peers
          else openStream s.connection))
  | dropClosed id sid stage =>
    match st.registry.deregisterStep id sid stage with
    | (reg, .more stage) => ({ st with registry := reg }, .more (dropClosed id sid stage))
    | (reg, .done _) =>
      ({ st with registry := reg }, .done (.stream (.error (.tunnel "tunnel connection closed"))))
  | openStream conn =>
    (st, .done (.stream (match input.openError with
      | none => .ok conn
      | some e => .error (.tunnel ("open stream: " ++ e)))))
  | revokeMatching set stage =>
    match st.revokeStep set input stage with
    | (st, .more stage) => (st, .more (revokeMatching set stage))
    | (st, .done revoked) => (st, .done (.count revoked))
  | shutdownAll stage =>
    match st.shutdownStep input stage with
    | (st, .more stage) => (st, .more (shutdownAll stage))
    | (st, .done ()) => (st, .done .finished)

end RegistryOp

/-! ## Interleaved calls -/

/-- What one task is at. -/
inductive RegistryCall where
  | register (s : TunnelSession) (stage : TunnelRegistry.RegisterStage)
  | op (o : RegistryOp)
  | done (result : CallResult)

/-- The registry and its callers. -/
structure RegistrySystem where
  state : TunnelState
  calls : Nat → RegistryCall

inductive RegistryAction where
  /-- An idle task calls `register`. -/
  | register (i : Nat) (s : TunnelSession)
  /-- An idle task calls another method. -/
  | call (i : Nat) (o : RegistryOp)
  /-- A task does the next stage of its call. -/
  | advance (i : Nat) (input : CallInput)
  /-- A connection gets a `close_reason` from outside. -/
  | connectionLost (conn : ConnectionId)

namespace RegistrySystem

def init (maxSessionsPerBackend : UInt32) : RegistrySystem :=
  { state := { registry := .new maxSessionsPerBackend, closed := [], shutdowns := [] }
    calls := fun _ => .done .finished }

def idle (sys : RegistrySystem) (i : Nat) : Bool :=
  match sys.calls i with
  | .done _ => true
  | _ => false

def setCall (sys : RegistrySystem) (i : Nat) (call : RegistryCall) : RegistrySystem :=
  { sys with calls := Function.update sys.calls i call }

/-- The next stage of the call of task `i`. -/
def advance (sys : RegistrySystem) (i : Nat) (input : CallInput) : RegistrySystem :=
  match sys.calls i with
  | .register s stage =>
    match sys.state.registry.registerStep s stage with
    | (reg, .more stage) =>
      { sys with state := { sys.state with registry := reg } }.setCall i (.register s stage)
    | (reg, .done result) =>
      { sys with state := { sys.state with registry := reg } }.setCall i
        (.done (.registered result))
  | .op o =>
    match o.step sys.state input with
    | (st, .more o) => { sys with state := st }.setCall i (.op o)
    | (st, .done result) => { sys with state := st }.setCall i (.done result)
  | .done _ => sys

/-- An action that the state does not permit changes nothing. -/
def step (sys : RegistrySystem) : RegistryAction → RegistrySystem
  | .register i s => if sys.idle i then sys.setCall i (.register s .push) else sys
  | .call i o => if sys.idle i && o.isEntry then sys.setCall i (.op o) else sys
  | .advance i input => sys.advance i input
  | .connectionLost conn =>
    { sys with state := { sys.state with closed := sys.state.closed ++ [conn] } }

end RegistrySystem

end Reduction
