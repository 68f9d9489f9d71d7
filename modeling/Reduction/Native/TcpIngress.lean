import Reduction.Native.Config
import Reduction.Native.Relay

/-!
# TCP ingress

Model of `src/ingress/tcp.rs`: the start and the admission of an accept loop that
works with what it was started with, and does not follow the configuration, and
`handle_connection`, which relays one connection.
-/

namespace Reduction

open Traced

inductive TcpDropReason where
  | acl
  | rateLimit
  | capacity
  | noBackend
  | circuitOpen
  | protocol
deriving DecidableEq

/-- `admit`: the access rules, then the rate limit. -/
def admitConnection (acl : AccessControl) (rateLimited : Bool) (peer : IpAddr) :
    Except TcpDropReason Unit :=
  if !(acl.check peer).toBool then
    .error .acl
  else if rateLimited then
    .error .rateLimit
  else
    .ok ()

/-- The arguments of `run_accept_loop`, as far as admission and selection read them. -/
structure TcpIngress where
  acl : AccessControl
  pool : BackendPool
  ingressId : ArrayString 64

structure TcpIngressParams where
  config : IngressConfig
  backends : List BackendConfig
  acl : AccessControl
  maxBackends : UInt32

/-- `spawn_tcp_ingress`; the socket is bound. -/
def TcpIngressParams.spawnTcpIngress (params : TcpIngressParams) :
    Except ReductionError TcpIngress := do
  let pool ← BackendPool.withMax params.backends params.maxBackends
  .ok { acl := params.acl, pool, ingressId := params.config.id }

/-! ## Connections -/

/-- What a connection meets. -/
structure TcpConnEnv where
  weightFactor : Bytes → F64
  ln : F64 → F64
  /-- The answer of `circuit.check`. -/
  circuit : BackendId → CircuitState × Option HalfOpenGuard
  /-- `open_backend_stream` fails with this error. -/
  openError : BackendConfig → Option ReductionError
  relay : RelayEnv

/-- `handle_connection` behind the gates: open a stream to the backend and relay. -/
def relayConnection (env : TcpConnEnv) (backend : BackendConfig) :
    Traced (RelayEvent TcpDropReason) Unit := do
  emit (.dialed backend)
  match env.openError backend with
  | some _ =>
    emit (.recordFailure backend.id)
    emit (.rejected .protocol)
  | none =>
    emit (.relaying backend)
    match relayBidirectional env.relay with
    | .ok stats =>
      emit (.recordSuccess backend.id)
      emit (.relayed stats.total)
    | .error _ =>
      emit (.recordFailure backend.id)
      emit (.rejected .protocol)

def handleConnection (pool : BackendPool) (peer : SocketAddr) (env : TcpConnEnv) :
    Traced (RelayEvent TcpDropReason) Unit :=
  match pool.select peer.ip env.weightFactor env.ln with
  | none => emit (.rejected .noBackend)
  | some backend => do
    let (answer, guard) := env.circuit backend.id
    emit (.checked backend.id answer guard)
    if answer = .open then
      emit (.rejected .circuitOpen)
      dropHalfOpen guard
    else
      relayConnection env backend
      dropHalfOpen guard

end Reduction
