import Reduction.Native.Registry

/-!
# The tunnel listener

Model of the registration pipeline in `src/tunnel/listener/registration.rs`
(`admit_registration`, `commit_registration`, the session's end) and of the
revocation sweep in `src/startup/background.rs`, with everything else that uses
the registry.

Registrations, the sweeper and the publishers of denylists share the registry
and the revocation channel only.  One step of the system is one registry map
operation, or one read or write of the channel; the sweeper's read and its pass
over the registry are separate steps, and a publication may fall between them.
-/

namespace Reduction

/-- The fields of `TunnelConfig` that a registration reads. -/
structure TunnelConfig where
  allowedBackendIds : List BackendId
  maxTotalSessions : Option NonZeroU32
deriving DecidableEq

/-- A connection that has sent its `Register` frame. -/
structure Established where
  connection : ConnectionId
  identity : PeerIdentity
  remoteAddr : SocketAddr
  backendId : BackendId
  pool : ArrayString 32
  capabilities : List (ArrayString 8)

/-- What `reject_registration` counts, sends to the client and returns. -/
structure Rejection where
  reason : String
  closeMsg : String
  err : ReductionError

def exceedsSessionCap (currentTotal : Nat) : Option NonZeroU32 → Bool
  | none => false
  | some limit => decide (limit.val.toNat ≤ currentTotal)

namespace Established

/-- The gates of `admit_registration` up to the allowlist; `revocation` is the denylist that the
    second one reads. -/
def admitIdentity (est : Established) (config : TunnelConfig) (revocation : RevocationSet) :
    Except Rejection Unit :=
  if est.backendId.bytes ≠ est.identity.commonName.bytes then
    .error { reason := "cn_mismatch"
             closeMsg := "backend_id does not match certificate"
             err := .tunnel "backend_id does not match certificate CN" }
  else if revocation.isRevoked est.identity then
    .error { reason := "revoked", closeMsg := "revoked", err := .tunnel "identity revoked" }
  else if !config.allowedBackendIds.isEmpty && !config.allowedBackendIds.contains est.backendId then
    .error { reason := "allowlist"
             closeMsg := "not in allowlist"
             err := .tunnel "backend not in allowlist" }
  else .ok ()

/-- The last gate of `admit_registration`, the global session cap. -/
def admitCapacity (config : TunnelConfig) (totalSessions : Nat) : Except Rejection Unit :=
  if exceedsSessionCap totalSessions config.maxTotalSessions then
    .error { reason := "global_cap"
             closeMsg := "at capacity"
             err := .tunnel "global session cap reached" }
  else .ok ()

/-- The session that `commit_registration` registers. -/
def session (est : Established) (sessionId : SessionId) (now : Instant) : TunnelSession :=
  { sessionId
    backendId := est.backendId
    pool := est.pool
    remoteAddr := est.remoteAddr
    connectedAt := now
    lastHeartbeat := now
    connection := est.connection
    identity := est.identity
    isControlPeer := est.capabilities.any fun c => c.bytes = Bytes.ascii "control" }

end Established

/-! ## Tasks -/

/-- What a task is at. -/
inductive ListenerTask where
  | idle
  /-- `admit_registration`: the read of the denylist and the gates up to the allowlist. -/
  | precheck (est : Established)
  /-- `admit_registration`: the count of the sessions. -/
  | capacity (est : Established)
  /-- `commit_registration`: the session id. -/
  | commit (est : Established)
  | register (s : TunnelSession) (stage : TunnelRegistry.RegisterStage)
  /-- `commit_registration`: the second read of the denylist. -/
  | recheck (s : TunnelSession)
  /-- The denylist has the identity, so that the session is deregistered again. -/
  | rollback (s : TunnelSession) (stage : TunnelRegistry.DeregisterStage)
  | ack (s : TunnelSession)
  /-- The control loop, until it ends. -/
  | serve (s : TunnelSession)
  /-- The session is deregistered because its ack failed or its control loop has ended. -/
  | leave (s : TunnelSession) (stage : TunnelRegistry.DeregisterStage)
      (result : Except ReductionError Unit)
  /-- Another user of the registry. -/
  | op (o : RegistryOp)
  | rejected (r : Rejection)
  | ended (result : Except ReductionError Unit)

inductive Sweeper where
  /-- In `changed`, having seen the denylist of that version. -/
  | waiting (seen : Nat)
  /-- In `revoke_matching` with the denylist that was read. -/
  | sweeping (seen : Nat) (set : RevocationSet) (stage : TunnelState.RevokeStage)

structure Listener where
  config : TunnelConfig
  state : TunnelState
  revocation : Watch RevocationSet
  tasks : Nat → ListenerTask
  sweeper : Sweeper

/-- What a step meets. -/
structure ListenerInput extends CallInput where
  /-- `SessionId::generate`. -/
  generated : Except ReductionError SessionId
  /-- `bounded_control_write` of the ack succeeds. -/
  acked : Bool

inductive ListenerAction where
  | connect (i : Nat) (est : Established)
  | call (i : Nat) (o : RegistryOp)
  | advance (i : Nat) (input : ListenerInput)
  | publish (set : RevocationSet)
  | sweep (input : CallInput)
  | connectionLost (conn : ConnectionId)

namespace Listener

/-- At startup the denylist is empty, and the sweeper has seen that one. -/
def init (config : TunnelConfig) (maxSessionsPerBackend : UInt32) : Listener :=
  { config
    state := { registry := .new maxSessionsPerBackend, closed := [], shutdowns := [] }
    revocation := .channel .default
    tasks := fun _ => .idle
    sweeper := .waiting 0 }

def setTask (l : Listener) (i : Nat) (task : ListenerTask) : Listener :=
  { l with tasks := Function.update l.tasks i task }

def setRegistry (l : Listener) (reg : TunnelRegistry) : Listener :=
  { l with state := { l.state with registry := reg } }

/-- A task that is idle or has come to its end can take up something new. -/
def free (l : Listener) (i : Nat) : Bool :=
  match l.tasks i with
  | .idle | .rejected _ | .ended _ => true
  | _ => false

/-- The next step of task `i`. -/
def advance (l : Listener) (i : Nat) (input : ListenerInput) : Listener :=
  match l.tasks i with
  | .idle | .rejected _ | .ended _ => l
  | .precheck est =>
    match est.admitIdentity l.config l.revocation.value with
    | .ok () => l.setTask i (.capacity est)
    | .error r => l.setTask i (.rejected r)
  | .capacity est =>
    match Established.admitCapacity l.config l.state.registry.totalSessions with
    | .ok () => l.setTask i (.commit est)
    | .error r => l.setTask i (.rejected r)
  | .commit est =>
    match input.generated with
    | .ok sessionId => l.setTask i (.register (est.session sessionId input.now) .push)
    | .error e => l.setTask i (.ended (.error e))
  | .register s stage =>
    match l.state.registry.registerStep s stage with
    | (reg, .more stage) => (l.setRegistry reg).setTask i (.register s stage)
    | (reg, .done (.ok ())) => (l.setRegistry reg).setTask i (.recheck s)
    | (reg, .done (.error e)) =>
      (l.setRegistry reg).setTask i
        (.rejected { reason := "backend_cap", closeMsg := "at capacity", err := e })
  -- the value is read again: the one that `precheck` read may be out of date
  | .recheck s =>
    if l.revocation.value.isRevoked s.identity then l.setTask i (.rollback s .peers)
    else l.setTask i (.ack s)
  | .rollback s stage =>
    match l.state.registry.deregisterStep s.backendId s.sessionId stage with
    | (reg, .more stage) => (l.setRegistry reg).setTask i (.rollback s stage)
    | (reg, .done _) =>
      (l.setRegistry reg).setTask i
        (.rejected { reason := "revoked", closeMsg := "revoked", err := .tunnel "identity revoked" })
  | .ack s =>
    if input.acked then l.setTask i (.serve s)
    else l.setTask i (.leave s .peers (.error (.tunnel "register ack write failed or stalled")))
  -- the control loop ends for whatever reason: the peer left, or the session was swept
  | .serve s => l.setTask i (.leave s .peers (.ok ()))
  | .leave s stage result =>
    match l.state.registry.deregisterStep s.backendId s.sessionId stage with
    | (reg, .more stage) => (l.setRegistry reg).setTask i (.leave s stage result)
    | (reg, .done _) => (l.setRegistry reg).setTask i (.ended result)
  | .op o =>
    match o.step l.state input.toCallInput with
    | (st, .more o) => { l with state := st }.setTask i (.op o)
    | (st, .done _) => { l with state := st }.setTask i .idle

/-- The next step of the sweeper: `borrow_and_update` when there is a new denylist, then the stages
    of `revoke_matching`. -/
def sweep (l : Listener) (input : CallInput) : Listener :=
  match l.sweeper with
  | .waiting seen =>
    if l.revocation.changed seen then
      -- value and version are read together, under the lock of the channel
      { l with sweeper := .sweeping l.revocation.version l.revocation.value .start }
    else l
  | .sweeping seen set stage =>
    match l.state.revokeStep set input stage with
    | (st, .more stage) => { l with state := st, sweeper := .sweeping seen set stage }
    | (st, .done _) => { l with state := st, sweeper := .waiting seen }

/-- An action that the state does not permit changes nothing. -/
def step (l : Listener) : ListenerAction → Listener
  | .connect i est => if l.free i then l.setTask i (.precheck est) else l
  | .call i o => if l.free i && o.isEntry then l.setTask i (.op o) else l
  | .advance i input => l.advance i input
  | .publish set => { l with revocation := l.revocation.send set }
  | .sweep input => l.sweep input
  | .connectionLost conn => { l with state := { l.state with closed := l.state.closed ++ [conn] } }

end Listener

end Reduction
