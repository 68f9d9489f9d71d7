import Reduction.Native.RawAuthz
import Reduction.Native.Startup

/-!
# The running proxy

Model of `run` in `src/startup/mod.rs`, with `build_tls_setup`,
`build_balancing`, `build_proxy_state`, `spawn_background_tasks` and
`serve_transport`: the parts of the process, each with the configuration values
that it was given, and what a reload replaces of them.

Files can be read and sockets can be bound; what the files hold is left out.
-/

namespace Reduction

/-! ## TLS -/

/-- The files of the backend-facing identity. -/
structure ClientTls where
  certPath : PathBuf
  keyPath : PathBuf
  caCertPath : PathBuf

/-- What client certificates are verified with. -/
structure ClientVerifier where
  caCertPath : PathBuf
  crlPath : Option PathBuf
  mandatory : Bool

structure ServerTls where
  certPath : PathBuf
  keyPath : PathBuf
  verifier : Option ClientVerifier

namespace ClientAuthPolicy

def buildsVerifier (policy : ClientAuthPolicy) : Bool := policy ≠ .disabled

def isMandatory (policy : ClientAuthPolicy) : Bool := policy = .required

end ClientAuthPolicy

namespace ReductionConfig

variable (config : ReductionConfig)

/-- Some backend is dialled with a TLS handshake. -/
def needsClientTls : Bool := config.backends.any BackendConfig.needsClientTls

/-- `build_client_tls`: without such a backend nothing is loaded. -/
def buildClientTls : Except ReductionError (Option ClientTls) :=
  if !config.needsClientTls then
    .ok none
  else
    match config.tls.client with
    | none =>
      .error (.config ("a backend requires a TLS client identity but [tls.client] is absent " ++
        "(should be rejected at validation)"))
    | some identity =>
      .ok (some
        { certPath := identity.certPath
          keyPath := identity.keyPath
          caCertPath := identity.caCertPath })

/-- `build_manual_server_tls`. -/
def buildServerTls : ServerTls :=
  match config.tls.server with
  | .manual identity =>
    { certPath := identity.certPath
      keyPath := identity.keyPath
      verifier :=
        if config.listen.clientAuth.buildsVerifier then
          some
            { caCertPath := identity.caCertPath
              crlPath := identity.crlPath
              mandatory := config.listen.clientAuth.isMandatory }
        else
          none }

end ReductionConfig

/-! ## Limits -/

structure RateLimit where
  requestsPerSecond : NonZeroU32

def RateLimit.new (requestsPerSecond : UInt32) : Except ReductionError RateLimit :=
  if h : requestsPerSecond ≠ 0 then .ok { requestsPerSecond := ⟨requestsPerSecond, h⟩ }
  else .error (.config "rate limit must be > 0")

/-- What `with_pool_config` and `with_tunnel_registry` set. -/
structure PoolConfig where
  h2ConnsPerBackend : UInt32
  maxIdleQuicPerHost : UInt32
  h2StreamWindow : UInt32
  h2ConnWindow : UInt32
  tunnelRegistry : Bool

def ReductionConfig.poolConfig (config : ReductionConfig) : PoolConfig :=
  { h2ConnsPerBackend := config.proxy.h2ConnectionsPerBackend.val
    maxIdleQuicPerHost := config.proxy.maxIdleQuicPerHost
    h2StreamWindow := config.proxy.h2StreamWindow
    h2ConnWindow := config.proxy.h2ConnWindow
    tunnelRegistry := config.tunnel.enabled }

/-! ## Ingress listeners -/

/-- `DEFAULT_TCP_MAX_CONNECTIONS`. -/
def defaultTcpMaxConnections : UInt32 := 10000

/-- `DEFAULT_TCP_IDLE_TIMEOUT_SECS`. -/
def defaultTcpIdleTimeoutSecs : UInt64 := 300

/-- What all listeners are given. -/
structure IngressCommon where
  connPool : PoolConfig
  circuitBreaker : CircuitBreakerConfig
  clientTls : Option ClientTls
  rateLimit : RateLimit
  connectSecs : NonZeroU64

/-- A UDP listener.  Its workers differ in their numbers only, so that one stands for all. -/
structure UdpListener where
  listen : SocketAddr
  recvBufferBytes : UInt32
  workers : Nat
  ingressId : ArrayString 64
  queueDepth : UInt32
  /-- The backends that have a writer. -/
  backends : List BackendConfig
  retry : RetryConfig
  common : IngressCommon
  worker : Worker

structure TcpListener where
  listen : SocketAddr
  ingress : TcpIngress
  maxConnections : UInt32
  idleTimeoutSecs : UInt64
  common : IngressCommon

inductive IngressListener where
  | udp (l : UdpListener)
  | tcp (l : TcpListener)

def IngressListener.listen : IngressListener → SocketAddr
  | udp l => l.listen
  | tcp l => l.listen

/-- The receive loop that `spawn_worker` starts. -/
def UdpIngressParams.ingress (params : UdpIngressParams) (pool : BackendPool) : UdpIngress :=
  { acl := params.acl
    pool
    limits := params.limits
    maxDatagramBytes := params.config.maxDatagramBytes
    batches := ∅
    ingressId := params.config.id }

def IngressConfig.tcpListener (entry : IngressConfig) (common : IngressCommon)
    (ingress : TcpIngress) : TcpListener :=
  { listen := entry.listen
    ingress
    maxConnections := entry.maxConnections.getD defaultTcpMaxConnections
    idleTimeoutSecs := entry.idleTimeoutSecs.getD defaultTcpIdleTimeoutSecs
    common }

namespace ReductionConfig

variable (config : ReductionConfig)

def udpParams (entry : IngressConfig) : UdpIngressParams :=
  { config := entry
    backends := config.ingressBackends entry
    acl := config.acl
    circuit := .new config.circuitBreaker
    retry := config.retry
    maxBackends := config.balancer.maxBackends }

def tcpParams (entry : IngressConfig) : TcpIngressParams :=
  { config := entry
    backends := config.ingressBackends entry
    acl := config.acl
    maxBackends := config.balancer.maxBackends }

def udpListener (common : IngressCommon) (parallelism : Nat) (entry : IngressConfig)
    (pool : BackendPool) : UdpListener :=
  { listen := entry.listen
    recvBufferBytes := entry.recvBufferBytes
    workers := resolveWorkerCount entry.workers parallelism
    ingressId := entry.id
    queueDepth := entry.queueDepthPerBackend
    backends := config.ingressBackends entry
    retry := config.retry
    common
    worker := UdpIngressParams.startWorker ((config.udpParams entry).ingress pool) }

/-- One round of `spawn_ingress_listeners`, with all that a listener is given. -/
def spawnListener (common : IngressCommon) (parallelism : Nat) (entry : IngressConfig) :
    Except ReductionError IngressListener :=
  match entry.protocol with
  | .udp => do
    let params := config.udpParams entry
    let pool ← BackendPool.withMax params.backends params.maxBackends
    .ok (.udp (config.udpListener common parallelism entry pool))
  | .tcp => do
    let ingress ← (config.tcpParams entry).spawnTcpIngress
    .ok (.tcp (entry.tcpListener common ingress))

end ReductionConfig

/-- The `config_rx` branch of a worker: the timer is started anew if the linger interval changed, and
    panics on a period of zero. -/
def Worker.reload (config : ReductionConfig) : Worker → Worker
  | .running ui =>
    if (ui.applyReload config).2 && (ui.applyReload config).1.limits.linger = 0 then .panicked
    else .running (ui.applyReload config).1
  | worker => worker

/-- A TCP listener does not follow the configuration. -/
def IngressListener.reload (config : ReductionConfig) : IngressListener → IngressListener
  | udp l => .udp { l with worker := l.worker.reload config }
  | tcp l => .tcp l

/-! ## The process -/

/-- The machine that the proxy runs on. -/
structure StartEnv where
  zstd : Zstd
  parallelism : Nat

structure RunningProxy where
  tracing : TracingConfig
  metrics : MetricsConfig
  clientTls : Option ClientTls
  serverTls : ServerTls
  address : SocketAddr
  transport : TransportKind
  reloadable : ReloadableState
  health : HealthState
  rateLimit : RateLimit
  retainIntervalSecs : NonZeroU64
  circuitBreaker : CircuitBreakerConfig
  state : ProxyState
  connPool : PoolConfig
  /-- The size of the semaphores that were created so far; `conn_limits`. -/
  connLimits : DashMap BackendId UInt32
  queueDepth : UInt32
  maxSessionsPerBackend : NonZeroU32
  revocationPath : Option PathBuf
  tunnelListener : Option (SocketAddr × TunnelSection)
  ingress : List IngressListener
  httpRedirect : Option (SocketAddr × Bytes)
  healthEndpoint : Option SocketAddr
  rawRelayAuthz : RawRelayAuthz
  /-- How long shutdown waits for connections. -/
  drainTimeoutSecs : UInt64

namespace ReductionConfig

variable (config : ReductionConfig)

/-- `build_proxy_state`. -/
def proxyState (zstd : Zstd) : ProxyState :=
  { timeouts := config.timeouts
    proxyConfig := config.proxy
    compressionConfig := config.compression
    retryConfig := config.retry
    cacheConfig := config.cache
    clientAuth := config.listen.clientAuth
    zstd }

/-- `spawn_tunnel_listener`. -/
def tunnelListener : Option (SocketAddr × TunnelSection) :=
  if config.tunnel.enabled then config.tunnel.listenAddress.map fun addr => (addr, config.tunnel)
  else none

/-- `spawn_http_redirect`. -/
def redirectListener : Option (SocketAddr × Bytes) :=
  if config.httpRedirect.enabled then some (config.httpRedirect.listen, config.httpRedirect.toHost)
  else none

/-- `spawn_health_endpoint`. -/
def endpointListener : Option SocketAddr :=
  if config.healthEndpoint.enabled then some config.healthEndpoint.listen else none

def ingressCommon (clientTls : Option ClientTls) (rateLimit : RateLimit) : IngressCommon :=
  { connPool := config.poolConfig
    circuitBreaker := config.circuitBreaker
    clientTls
    rateLimit
    connectSecs := config.timeouts.connectSecs }

/-- The process that is made of the parts that can fail to be built. -/
def running (env : StartEnv) (clientTls : Option ClientTls) (reloadable : ReloadableState)
    (rateLimit : RateLimit) (ingress : List IngressListener) (rawRelayAuthz : RawRelayAuthz) :
    RunningProxy :=
  { tracing := config.tracing
    metrics := config.metrics
    clientTls
    serverTls := config.buildServerTls
    address := config.listen.address
    transport := config.listen.transport
    reloadable
    health := config.initialHealth
    rateLimit
    retainIntervalSecs := config.ratelimit.retainIntervalSecs
    circuitBreaker := config.circuitBreaker
    state := config.proxyState env.zstd
    connPool := config.poolConfig
    connLimits := ∅
    queueDepth := config.balancer.queueDepth
    maxSessionsPerBackend := config.tunnel.maxSessionsPerBackend
    revocationPath := config.tunnel.revocationPath
    tunnelListener := config.tunnelListener
    ingress
    httpRedirect := config.redirectListener
    healthEndpoint := config.endpointListener
    rawRelayAuthz
    drainTimeoutSecs := config.balancer.drainTimeoutSecs }

/-- `run`, up to the point where it serves. -/
def start (env : StartEnv) : Except ReductionError RunningProxy := do
  let clientTls ← config.buildClientTls
  let reloadable ← config.reloadableState
  let rateLimit ← RateLimit.new config.ratelimit.requestsPerSecond
  let ingress ← config.ingress.mapM
    (config.spawnListener (config.ingressCommon clientTls rateLimit) env.parallelism)
  let rawRelayAuthz ← RawRelayAuthz.new config.rawRelayAuthz reloadable.backendPools.keys
  .ok (config.running env clientTls reloadable rateLimit ingress rawRelayAuthz)

end ReductionConfig

namespace RunningProxy

/-- A request takes a permit of a backend: a semaphore is created on its first use, and stays. -/
def usePermit (p : RunningProxy) (backend : BackendConfig) : RunningProxy :=
  { p with
    connLimits :=
      if (p.connLimits.get backend.id).isSome then p.connLimits
      else p.connLimits.insert backend.id backend.maxConnections }

/-- All that follows the configuration has followed: `apply_config_reload`, and the UDP workers. -/
def reload (p : RunningProxy) (config : ReductionConfig) : RunningProxy :=
  { p with
    reloadable :=
      match config.reloadableState with
      | .ok state => state
      | .error _ => p.reloadable
    ingress := p.ingress.map fun l => l.reload config }

end RunningProxy

end Reduction
