import Reduction.Native.Acl
import Reduction.Native.Attempt
import Reduction.Native.Listener
import Reduction.Native.Protocol

/-!
# Configuration

Model of `src/config/types.rs` with its sections, and of
`ReductionConfig::validate`.

What deserialization checks field by field is a field of the structure it is
checked for.  The checks of the ACME sections belong to a feature that is off
by default, and are left out with it.
-/

namespace Reduction

/-! ## Sections -/

structure ListenConfig where
  address : SocketAddr
  transport : TransportKind
  clientAuth : ClientAuthPolicy

structure TlsIdentity where
  certPath : PathBuf
  keyPath : PathBuf
  caCertPath : PathBuf
  crlPath : Option PathBuf
deriving DecidableEq

inductive ServerTlsConfig where
  | manual (identity : TlsIdentity)
deriving DecidableEq

structure TlsConfig where
  server : ServerTlsConfig
  client : Option TlsIdentity

structure RouteConfig where
  pathPrefix : ArrayString 64
  backendId : BackendId
  timeoutSecs : Option UInt64
deriving DecidableEq

/-- `validate_weight` and `validate_max_connections`. -/
def BackendConfig.fieldsValid (b : BackendConfig) : Bool :=
  (match b.weight with
    | .fin q => 0 ≤ q
    | _ => false) &&
  b.maxConnections ≠ 0

/-- `HARD_MAX_BACKENDS`. -/
def hardMaxBackends : UInt32 := 256

structure BalancerConfig where
  queueDepth : UInt32
  drainTimeoutSecs : UInt64
  maxBackends : UInt32
  /-- `validate_max_backends`. -/
  pos : 1 ≤ maxBackends
  bounded : maxBackends ≤ hardMaxBackends

structure HealthConfig where
  stalenessTtlSecs : UInt64
  latencyThresholdMs : UInt32
deriving DecidableEq

structure AccessControlConfig where
  allow : List IpNet
  deny : List IpNet

structure RateLimitConfig where
  requestsPerSecond : UInt32
  retainIntervalSecs : NonZeroU64
deriving DecidableEq

structure MetricsConfig where
  otlpEndpoint : Option Bytes
deriving DecidableEq

structure TracingConfig where
  otlpEndpoint : Option Bytes
  sampleRatio : F64

/-- The whole section; a registration reads two of its fields. -/
structure TunnelSection extends TunnelConfig where
  enabled : Bool
  listenAddress : Option SocketAddr
  heartbeatTimeoutSecs : UInt64
  maxSessionsPerBackend : NonZeroU32
  registrationTimeoutSecs : UInt64
  controlChannelCapacity : NonZeroU32
  revocationPath : Option PathBuf
  maxAcceptsPerSecondPerIp : Option NonZeroU32
  controlPlaneHealth : Bool
deriving DecidableEq

/-- Who may open a raw relay to a backend. -/
structure RawRelayAuthzEntry where
  backendId : BackendId
  allowedCns : List (ArrayString 64)
  allowedSpkis : List Bytes
deriving DecidableEq

inductive IngressKind where
  | udp
  | tcp
deriving DecidableEq

structure IngressConfig where
  id : ArrayString 64
  protocol : IngressKind
  listen : SocketAddr
  workers : UInt32
  recvBufferBytes : UInt32
  maxDatagramBytes : UInt32
  backendIds : List BackendId
  batchMaxDatagrams : UInt32
  batchMaxBytes : UInt32
  lingerMs : UInt64
  queueDepthPerBackend : UInt32
  /-- TCP only, as the next one. -/
  maxConnections : Option UInt32
  idleTimeoutSecs : Option UInt64

structure HttpRedirectConfig where
  enabled : Bool
  listen : SocketAddr
  toHost : Bytes

structure HealthEndpointConfig where
  enabled : Bool
  listen : SocketAddr

structure ReductionConfig where
  listen : ListenConfig
  tls : TlsConfig
  backends : List BackendConfig
  routes : List RouteConfig
  balancer : BalancerConfig
  proxy : ProxyConfig
  compression : CompressionConfig
  health : HealthConfig
  access : AccessControlConfig
  ratelimit : RateLimitConfig
  metrics : MetricsConfig
  circuitBreaker : CircuitBreakerConfig
  timeouts : TimeoutConfig
  retry : RetryConfig
  tracing : TracingConfig
  tunnel : TunnelSection
  cache : CacheConfig
  rawRelayAuthz : List RawRelayAuthzEntry
  ingress : List IngressConfig
  httpRedirect : HttpRedirectConfig
  healthEndpoint : HealthEndpointConfig
  backends_fieldsValid : ∀ b ∈ backends, b.fieldsValid = true

/-! ## Validation -/

/-- ASCII text, for a message. -/
def displayText (text : Bytes) : String := String.ofList (text.map fun b => Char.ofNat b.toNat)

/-- `Display for SocketAddr`. -/
def SocketAddr.display (addr : SocketAddr) : String :=
  match addr.ip with
  | .v4 _ => displayText addr.ip.toText ++ ":" ++ toString addr.port
  | .v6 _ => "[" ++ displayText addr.ip.toText ++ "]:" ++ toString addr.port

/-- `MAX_UDP_DATAGRAM_BYTES`. -/
def maxUdpDatagramBytes : UInt32 := 65507

/-- `is_private_listen_addr`. -/
def isPrivateListenAddr : IpAddr → Bool
  | .v4 octets =>
    -- private, then loopback, then link-local
    octets[0] == 10 || (octets[0] == 172 && (16 : UInt8) ≤ octets[1] && octets[1] ≤ (31 : UInt8)) ||
      (octets[0] == 192 && octets[1] == 168) || octets[0] == 127 ||
      (octets[0] == 169 && octets[1] == 254)
  | .v6 segments =>
    let high := (segments[0] >>> 8).toUInt8
    let low := segments[0].toUInt8
    segments.toList == [0, 0, 0, 0, 0, 0, 0, 1] || high &&& 0xfe == 0xfc ||
      (high == 0xfe && low &&& 0xc0 == 0x80)

namespace BackendConfig

/-- Dialling the backend takes a TLS handshake. -/
def needsClientTls (b : BackendConfig) : Bool := b.transport = .quic || b.scheme ≠ .http

end BackendConfig

namespace ReductionConfig

variable (c : ReductionConfig)

/-- `[tls.client]` is present. -/
def tlsClient : Bool := c.tls.client.isSome

/-- One round of `validate_no_duplicate_backend_ids`: the ids seen so far. -/
def checkBackendId (seen : List BackendId) (b : BackendConfig) :
    Except ReductionError (List BackendId) :=
  if seen.contains b.id then
    .error (.config ("duplicate backend id '" ++ b.id.asStr ++ "': each backend id must be unique " ++
      "(health, circuit-breaker, and balancer state are keyed by id)"))
  else
    .ok (b.id :: seen)

def validateNoDuplicateBackendIds : Except ReductionError Unit := do
  let _ ← c.backends.foldlM checkBackendId []
  .ok ()

/-- One round of `validate_routes`: the path prefixes seen so far. -/
def checkRoute (seen : List (ArrayString 64)) (route : RouteConfig) :
    Except ReductionError (List (ArrayString 64)) :=
  if route.pathPrefix.bytes.head? ≠ some 47 then
    .error (.config ("route path_prefix '" ++ route.pathPrefix.asStr ++ "' must start with '/': " ++
      "request paths always begin with '/', so this route can never match"))
  else if seen.contains route.pathPrefix then
    .error (.config ("duplicate route path_prefix '" ++ route.pathPrefix.asStr ++ "': two routes " ++
      "with the same prefix make backend selection ambiguous"))
  else if c.backends.any fun b => b.pool.bytes == route.backendId.bytes then
    .ok (route.pathPrefix :: seen)
  else
    .error (.config ("route path_prefix '" ++ route.pathPrefix.asStr ++ "' references backend_id '" ++
      route.backendId.asStr ++ "' with no matching backend pool: define a backend whose pool " ++
      "(defaulting to its id) is '" ++ route.backendId.asStr ++ "'"))

def validateRoutes : Except ReductionError Unit := do
  let _ ← c.routes.foldlM c.checkRoute []
  .ok ()

def validateRetryBackoff : Except ReductionError Unit :=
  if c.retry.baseDelayMs > c.retry.maxDelayMs then
    .error (.config ("retry.base_delay_ms (" ++ toString c.retry.baseDelayMs ++
      ") must not exceed retry.max_delay_ms (" ++ toString c.retry.maxDelayMs ++
      "): the exponential backoff would be clamped to the cap on the first attempt"))
  else
    .ok ()

def validateIngressCaps (ingress : IngressConfig) : Except ReductionError Unit :=
  let frameCeiling := UInt32.ofNat IngressProtocol.maxEnvelopeFrame
  if ingress.maxDatagramBytes = 0 || ingress.batchMaxDatagrams = 0 || ingress.batchMaxBytes = 0 ||
      ingress.queueDepthPerBackend = 0 || ingress.recvBufferBytes = 0 then
    .error (.config ("ingress '" ++ ingress.id.asStr ++ "' has a zero cap: max_datagram_bytes, " ++
      "batch_max_datagrams, batch_max_bytes, queue_depth_per_backend, and recv_buffer_bytes must " ++
      "all be non-zero"))
  else if ingress.maxDatagramBytes > maxUdpDatagramBytes then
    .error (.config ("ingress '" ++ ingress.id.asStr ++ "' max_datagram_bytes " ++
      toString ingress.maxDatagramBytes ++ " exceeds the largest possible UDP payload (" ++
      toString maxUdpDatagramBytes ++ ")"))
  else if ingress.batchMaxBytes < ingress.maxDatagramBytes then
    .error (.config ("ingress '" ++ ingress.id.asStr ++ "' batch_max_bytes " ++
      toString ingress.batchMaxBytes ++ " cannot fit one max_datagram_bytes payload (" ++
      toString ingress.maxDatagramBytes ++ "): a single datagram would never batch"))
  else if ingress.batchMaxBytes > frameCeiling then
    .error (.config ("ingress '" ++ ingress.id.asStr ++ "' batch_max_bytes " ++
      toString ingress.batchMaxBytes ++ " exceeds the envelope frame ceiling (" ++
      toString frameCeiling ++ ")"))
  else
    .ok ()

/-- The loop over `backend_ids` in `validate_ingress`. -/
def checkIngressBackends (ingress : IngressConfig) : List BackendId → Except ReductionError Unit
  | [] => .ok ()
  | backendId :: rest =>
    if c.backends.any fun b => b.transport == .quic && b.id == backendId then
      checkIngressBackends ingress rest
    else
      .error (.config ("ingress '" ++ ingress.id.asStr ++ "' references backend_id '" ++
        backendId.asStr ++ "' which is not a transport = quic backend: ingress dials backends over " ++
        "QUIC+mTLS raw streams"))

/-- One round of `validate_ingress`: the listen addresses seen so far. -/
def checkIngress (seen : List SocketAddr) (ingress : IngressConfig) :
    Except ReductionError (List SocketAddr) := do
  if ingress.backendIds.isEmpty then
    .error (.config ("ingress '" ++ ingress.id.asStr ++ "' has no backend_ids: an ingress must fan " ++
      "out to at least one backend"))
  else do
    c.checkIngressBackends ingress ingress.backendIds
    validateIngressCaps ingress
    if seen.contains ingress.listen then
      .error (.config ("duplicate ingress listen address '" ++ ingress.listen.display ++
        "': two listeners cannot bind the same port"))
    else if !isPrivateListenAddr ingress.listen.ip && c.access.allow.isEmpty then
      .error (.config ("ingress '" ++ ingress.id.asStr ++ "' listens on non-private address '" ++
        ingress.listen.display ++ "' without an [access] allow list: a routable ingress must be " ++
        "gated by a CIDR allowlist"))
    else
      .ok (ingress.listen :: seen)

def validateIngress : Except ReductionError Unit := do
  let _ ← c.ingress.foldlM c.checkIngress []
  .ok ()

/-- One round of `validate_backend_schemes`. -/
def checkBackendScheme (_ : Unit) (b : BackendConfig) : Except ReductionError Unit :=
  if b.scheme = .http && b.transport ≠ .tcp then
    .error (.config ("backend '" ++ b.id.asStr ++ "' has scheme = \"http\" (cleartext) but " ++
      "transport = \"quic\": plain HTTP is only valid over TCP (QUIC always uses TLS)"))
  else
    .ok ()

def validateBackendSchemes : Except ReductionError Unit := c.backends.foldlM checkBackendScheme ()

/-- One round of `validate_client_identity`. -/
def checkClientIdentity (_ : Unit) (b : BackendConfig) : Except ReductionError Unit :=
  if b.needsClientTls then
    let reason :=
      if b.transport = .quic then "transport = \"quic\" (QUIC always uses mTLS)"
      else "scheme = \"https\" (TLS to the backend)"
    .error (.config ("backend '" ++ b.id.asStr ++ "' requires a TLS client identity (" ++ reason ++
      ") but [tls.client] is absent: add [tls.client], or set the backend to transport = \"tcp\" " ++
      "with scheme = \"http\""))
  else
    .ok ()

def validateClientIdentity : Except ReductionError Unit :=
  if c.tlsClient then .ok () else c.backends.foldlM checkClientIdentity ()

def validateHttpRedirect : Except ReductionError Unit :=
  let redirect := c.httpRedirect
  let host := redirect.toHost.trim
  if !redirect.enabled then
    .ok ()
  else if host.isEmpty then
    .error (.config ("http_redirect.enabled = true requires a non-empty to_host (the canonical " ++
      "HTTPS hostname to redirect to)"))
  else if decide (Bytes.ascii "://" <:+: host) || host.contains 47 then
    .error (.config ("http_redirect.to_host '" ++ displayText host ++ "' must be a bare host " ++
      "(optionally host:port), not a URL or path"))
  else if redirect.listen = c.listen.address then
    .error (.config ("http_redirect.listen '" ++ redirect.listen.display ++ "' collides with the " ++
      "main listen address: the redirect listener needs its own port (typically 80)"))
  else
    .ok ()

def validateHealthEndpoint : Except ReductionError Unit :=
  let listen := c.healthEndpoint.listen
  if !c.healthEndpoint.enabled then
    .ok ()
  else if listen = c.listen.address then
    .error (.config ("health_endpoint.listen '" ++ listen.display ++ "' collides with the main " ++
      "listen address: the health endpoint needs its own port"))
  else if c.httpRedirect.enabled && listen = c.httpRedirect.listen then
    .error (.config ("health_endpoint.listen '" ++ listen.display ++ "' collides with " ++
      "http_redirect.listen: the health endpoint needs its own port"))
  else
    .ok ()

/-- `validate`, on load and on every reload. -/
def validate : Except ReductionError Unit := do
  c.validateNoDuplicateBackendIds
  c.validateRoutes
  c.validateRetryBackoff
  c.validateIngress
  c.validateBackendSchemes
  c.validateClientIdentity
  c.validateHttpRedirect
  c.validateHealthEndpoint

end ReductionConfig

end Reduction
