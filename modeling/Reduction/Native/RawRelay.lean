import Reduction.Native.RawAuthz
import Reduction.Native.Relay

/-!
# Raw relay

Model of `src/proxy/raw_relay/admission.rs`, what a raw stream has to pass before
a backend is looked for, and of `handle_raw_stream` in `src/proxy/raw_relay.rs`,
which dials the backend and relays.
-/

namespace Reduction

open Traced

/-- The reasons under which a refused stream is counted. -/
inductive RejectReason where
  | acl
  | rateLimit
  | noIdentity
  | revoked
deriving DecidableEq

/-- `check_admission`; a nameless peer is always refused here. -/
def checkAdmission (acl : AccessControl) (rateLimited : Bool) (clientIp : IpAddr)
    (identity : Option PeerIdentity) (revocation : RevocationSet) : Except RejectReason Unit :=
  if !(acl.check clientIp).toBool then
    .error .acl
  else if rateLimited then
    .error .rateLimit
  else
    match identity with
    | none => .error .noIdentity
    | some identity => if revocation.isRevoked identity then .error .revoked else .ok ()

/-! ## Streams -/

/-- Why a raw stream is turned away. -/
inductive RawRefusal where
  | admission (reason : RejectReason)
  | unauthorized
  | noBackend
  | circuitOpen
  | connectionLimit
deriving DecidableEq

/-- What a raw stream meets. -/
structure RawStreamEnv where
  acl : AccessControl
  rateLimited : Bool
  clientIp : IpAddr
  identity : Option PeerIdentity
  revocation : RevocationSet
  /-- `read_routing_header`. -/
  routingHeader : Except ReductionError Bytes
  authz : RawRelayAuthz
  backendPools : Bytes → Option BackendPool
  balancer : BalancerEnv
  /-- The answer of `circuit_breakers.check`. -/
  circuit : BackendId → CircuitState × Option HalfOpenGuard
  /-- `try_acquire_conn_permit` succeeds. -/
  permit : BackendConfig → Bool
  /-- `acquire_raw_stream` fails with this error. -/
  acquireError : BackendConfig → Option ReductionError
  relay : RelayEnv

/-- `authorize_raw_edge`: the backend that the stream may reach, or nothing if it is turned away. -/
def authorizeRawEdge (env : RawStreamEnv) :
    Traced (RelayEvent RawRefusal) (Except ReductionError (Option (PeerIdentity × Bytes))) :=
  match checkAdmission env.acl env.rateLimited env.clientIp env.identity env.revocation with
  | .error reason => do
    emit (.rejected (.admission reason))
    pure (.ok none)
  | .ok () =>
    match env.identity with
    | none => pure (.ok none)
    | some identity =>
      match env.routingHeader with
      | .error e => pure (.error e)
      | .ok backendId =>
        if env.authz.isAllowed backendId identity then
          pure (.ok (some (identity, backendId)))
        else do
          emit (.rejected .unauthorized)
          pure (.ok none)

/-- `record_relay_outcome`. -/
def recordRelayOutcome (backend : BackendConfig) (result : Except ReductionError RelayStats) :
    Traced (RelayEvent RawRefusal) Unit :=
  match result with
  | .ok stats => do
    emit (.recordSuccess backend.id)
    emit (.relayed stats.total)
  | .error _ => do
    emit (.recordFailure backend.id)
    emit .relayError

/-- `handle_raw_stream` behind the gates: dial and relay. -/
def relayRawStream (env : RawStreamEnv) (backend : BackendConfig) :
    Traced (RelayEvent RawRefusal) (Except ReductionError Unit) := do
  emit (.dialed backend)
  match env.acquireError backend with
  | some e =>
    emit (.recordFailure backend.id)
    pure (.error e)
  | none =>
    emit (.relaying backend)
    recordRelayOutcome backend (relayBidirectional env.relay)
    pure (.ok ())

/-- `handle_raw_stream` from the choice of a backend on. -/
def gateRawStream (env : RawStreamEnv) (pool : BackendPool) :
    Traced (RelayEvent RawRefusal) (Except ReductionError Unit) :=
  match pool.selectWithPressureExcluding env.clientIp env.balancer [] with
  | none => do
    emit (.rejected .noBackend)
    pure (.ok ())
  | some backend => do
    let (answer, guard) := env.circuit backend.id
    emit (.checked backend.id answer guard)
    if answer = .open then
      emit (.rejected .circuitOpen)
      dropHalfOpen guard
      pure (.ok ())
    else if env.permit backend then
      emit (.permitAcquired backend.id)
      let result ← relayRawStream env backend
      emit (.permitReleased backend.id)
      dropHalfOpen guard
      pure result
    else
      emit (.rejected .connectionLimit)
      dropHalfOpen guard
      pure (.ok ())

def handleRawStream (env : RawStreamEnv) :
    Traced (RelayEvent RawRefusal) (Except ReductionError Unit) := do
  match ← authorizeRawEdge env with
  | .error e => pure (.error e)
  | .ok none => pure (.ok ())
  | .ok (some (_, backendId)) =>
    match env.backendPools backendId with
    | none =>
      pure (.error (.forward ("unknown backend pool for raw relay: " ++ displayText backendId)))
    | some pool => gateRawStream env pool

end Reduction
