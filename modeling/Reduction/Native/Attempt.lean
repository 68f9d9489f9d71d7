import Reduction.ForStd.Traced
import Reduction.Native.Balancer
import Reduction.Native.Cache
import Reduction.Native.Circuit
import Reduction.Native.Headers

/-!
# One attempt of the retry loop

Model of `src/proxy/handler/attempt.rs` with its submodules `wake.rs` and
`respond.rs`, and of `forward_request` in `src/proxy/handler.rs`: select and
gate a backend, rebuild the request, forward it and interpret the result.

Everything an attempt learns from outside is in its `AttemptEnv`: the health
and pressure readings of the balancer, the answers of the connection pool and
of the circuit breakers, what the backend sends back and whether a wake
succeeds.  What the attempt does to the outside is its trace of `Event`s.
-/

namespace Reduction

open Http Traced

/-! ## Configuration and context -/

structure ProxyConfig where
  maxResponseBodyBytes : UInt32
  maxRequestBodyBytes : UInt32
  h2ConnectionsPerBackend : NonZeroU32
  maxIdleQuicPerHost : UInt32
  h2StreamWindow : UInt32
  h2ConnWindow : UInt32
  inlineCompressThreshold : UInt32
  quicChannelCapacity : NonZeroU32
  wakeTimeoutSecs : NonZeroU64
deriving DecidableEq

structure TimeoutConfig where
  connectSecs : NonZeroU64
  handshakeSecs : NonZeroU64
  requestSecs : NonZeroU64
  responseIdleSecs : NonZeroU64
deriving DecidableEq

inductive ClientAuthPolicy where
  | required
  | optional
  | disabled
deriving DecidableEq

def ClientAuthPolicy.allowsAnonymous (p : ClientAuthPolicy) : Bool := p ≠ .required

/-- The part of `ProxyState` that does not change while a request runs. -/
structure ProxyState where
  timeouts : TimeoutConfig
  proxyConfig : ProxyConfig
  compressionConfig : CompressionConfig
  retryConfig : RetryConfig
  cacheConfig : CacheConfig
  clientAuth : ClientAuthPolicy
  zstd : Zstd

structure RequestCtx where
  state : ProxyState
  pool : BackendPool
  clientIp : IpAddr
  clientIdentity : Option PeerIdentity
  backendId : BackendId
  cacheIdentity : Bytes
  maxAttempts : Nat
  isCacheableMethod : Bool
  requestHasCookie : Bool
  acceptsZstd : Bool

/-- A buffered copy of the body, which replays, or a body that streams once. -/
structure ReplayBody where
  bodyBytes : Option Bytes
  streamingBody : Option Body
  reqParts : Parts

/-- What the loop keeps between attempts. -/
structure RetryState where
  failedBackends : List BackendId
  lastResponse : Option Response
  lastErrorMsg : Option String

def RetryState.new : RetryState :=
  { failedBackends := [], lastResponse := none, lastErrorMsg := none }

/-- A backend that passed selection and gating, with the guards of the attempt. -/
structure Selected where
  backend : BackendConfig
  halfOpen : Option HalfOpenGuard

inductive AttemptOutcome where
  | continue
  | break
  | return (response : Response)
  /-- A response whose body takes over the connection permit and the probe guard. -/
  | stream (response : Response) (conn : BackendId) (halfOpen : Option HalfOpenGuard)

inductive Skip where
  | break
  | continue

/-! ## Environment and events -/

/-- What one attempt meets. -/
structure AttemptEnv where
  /-- The clock at the head of the loop. -/
  now : Instant
  /-- What the selection of an untried backend reads. -/
  untried : BalancerEnv
  /-- What the selection among all backends reads. -/
  anyBackend : BalancerEnv
  /-- `try_acquire_conn_permit` succeeds. -/
  permit : BackendConfig → Bool
  /-- The answer of `circuit_breakers.check`. -/
  circuit : BackendId → CircuitState × Option HalfOpenGuard
  /-- `conn_pool.acquire` fails with this error. -/
  acquireError : BackendConfig → Option ReductionError
  trace : Option TraceContext
  /-- The response to a request within the given time, or the message of the failure. -/
  send : BackendConfig → Request → Duration → Except String Response
  /-- `await_reachable_or_refused`: a parked request is released. -/
  wake : BackendConfig → Bool
  /-- The random draw of the backoff. -/
  draw : Nat

/-- What the handler does to the rest of the system. -/
inductive Event where
  /-- `response_cache.get`. -/
  | lookup (key : CacheKeyRef)
  | queueAcquired (id : BackendId)
  | selected (id : BackendId)
  | permitDenied (id : BackendId)
  | permitAcquired (id : BackendId)
  | permitReleased (id : BackendId)
  | checked (id : BackendId) (answer : CircuitState)
  | guardDropped (guard : HalfOpenGuard)
  /-- A call of `forward_request`. -/
  | forward (backend : BackendConfig) (req : Request)
  /-- A copy of the request handed to a backend connection. -/
  | sent (backend : BackendConfig) (req : Request) (timeout : Duration)
  /-- The result of `forward_request`. -/
  | answered (backend : BackendConfig) (result : Except ReductionError Response)
  | recordFailure (id : BackendId)
  | recordSuccess (id : BackendId)
  | parked (id : BackendId) (released : Bool)
  | slept (d : Duration)
  /-- `record_completion`. -/
  | completed (status : StatusCode) (backend : Bytes)
  /-- `response_cache.put`. -/
  | put (key : CacheKeyRef) (status : StatusCode) (headers : HeaderMap) (body : Bytes)
      (directives : CacheDirectives)

/-! ## Select and gate -/

/-- The guards of an attempt go out of scope. -/
def Selected.dropGuards (s : Selected) : Traced Event Unit := do
  match s.halfOpen with
  | some g => emit (.guardDropped g)
  | none => pure ()
  emit (.permitReleased s.backend.id)

/-- The balancer's choice: an untried backend if there is one, else any. -/
def selectBackend (pool : BackendPool) (clientIp : IpAddr) (env : AttemptEnv)
    (failed : List BackendId) : Except ReductionError BackendConfig :=
  match selectBackendExcluding pool clientIp env.untried failed with
  | .ok b => .ok b
  | .error _ => selectBackendExcluding pool clientIp env.anyBackend []

def selectAndGate (ctx : RequestCtx) (env : AttemptEnv) (retry : RetryState) :
    Traced Event (Except Skip Selected × RetryState) :=
  match selectBackend ctx.pool ctx.clientIp env retry.failedBackends with
  | .error e => pure (.error .break, { retry with lastErrorMsg := some e.display })
  | .ok backend => do
    emit (.selected backend.id)
    if env.permit backend then
      emit (.permitAcquired backend.id)
      -- the permit is taken before the breaker is asked, and given back if the circuit is open
      let (answer, guard) := env.circuit backend.id
      emit (.checked backend.id answer)
      match answer with
      | .open => do
        emit (.permitReleased backend.id)
        pure (.error .continue,
          { retry with
            lastErrorMsg := some "circuit open"
            failedBackends := markFailed retry.failedBackends backend.id })
      | .halfOpen => pure (.ok { backend, halfOpen := guard }, retry)
      -- `check` hands out a guard in the half-open state only
      | .closed => pure (.ok { backend, halfOpen := none }, retry)
    else
      emit (.permitDenied backend.id)
      pure (.error .continue,
        { retry with
          lastErrorMsg := some "backend connection limit reached"
          failedBackends := markFailed retry.failedBackends backend.id })

/-! ## Forward -/

/-- `build_retry_req`: a buffered body is cloned, a streaming body is taken. -/
def buildRetryReq (replay : ReplayBody) : Option Request × ReplayBody :=
  match replay.bodyBytes with
  | some bytes => (some { parts := replay.reqParts, body := .ofBytes bytes }, replay)
  | none =>
    match replay.streamingBody with
    -- `take`: the next attempt finds the body gone
    | some body => (some { parts := replay.reqParts, body }, { replay with streamingBody := none })
    | none => (none, replay)

/-- The headers that `forward_request` sends, before trace injection. -/
def rewriteHeaders (headers : HeaderMap) (backend : BackendConfig) (clientIp : IpAddr)
    (identity : Option PeerIdentity) : Except ReductionError HeaderMap := do
  let headers := stripHopByHopHeaders headers
  let hostValue ← headerValueOr "host" backend.host
  let headers ← applyForwardedHeaders (headers.insert host hostValue) clientIp
  applyIdentityHeaders headers identity

/-- What `forward_request` makes of the backend's answer. -/
def receiveResponse (state : ProxyState) : Except String Response → Except ReductionError Response
  | .error msg => .error (.forward ("send request: " ++ msg))
  | .ok response => .ok
      { response with
        headers := stripHopByHopHeaders response.headers
        body := response.body.limited state.proxyConfig.maxResponseBodyBytes.toNat }

def forwardRequest (state : ProxyState) (env : AttemptEnv) (req : Request) (backend : BackendConfig)
    (requestTimeout : Duration) (identity : Option PeerIdentity) (clientIp : IpAddr) :
    Traced Event (Except ReductionError Response) := do
  emit (.forward backend req)
  match env.acquireError backend with
  | some e => pure (.error e)
  | none =>
    match rewriteHeaders req.parts.headers backend clientIp identity with
    | .error e => pure (.error e)
    | .ok headers => do
      -- the trace context goes in last, over whatever the client sent
      let backendReq := { req with parts.headers := injectContext headers env.trace }
      emit (.sent backend backendReq requestTimeout)
      pure (receiveResponse state (env.send backend backendReq requestTimeout))

/-! ## Interpret the result -/

/-- `wake_timeout_response`. -/
def wakeTimeoutResponse (wakeSecs : UInt64) : Response :=
  let response := errorResponse .serviceUnavailable "backend waking; retry shortly"
  match HeaderValue.fromStr? (Bytes.decimal wakeSecs.toNat) with
  | some value => { response with headers := response.headers.insert retryAfter value }
  | none => response

def parkForWake (ctx : RequestCtx) (env : AttemptEnv) (backend : BackendConfig) :
    Traced Event AttemptOutcome := do
  let released := env.wake backend
  emit (.parked backend.id released)
  if released then
    pure .continue
  else
    emit (.completed .serviceUnavailable ctx.backendId.bytes)
    pure (.return (wakeTimeoutResponse ctx.state.proxyConfig.wakeTimeoutSecs))

def handleForwardError (ctx : RequestCtx) (env : AttemptEnv) (attempt : Nat)
    (backend : BackendConfig) (e : ReductionError) (retry : RetryState) :
    Traced Event (AttemptOutcome × RetryState) := do
  if backend.wakeable && e.isTransportMiss then
    -- a cold start, not a failure: nothing is recorded and nothing is excluded
    let outcome ← parkForWake ctx env backend
    pure (outcome, retry)
  else
    emit (.recordFailure backend.id)
    if attempt + 1 < ctx.maxAttempts then
      emit (.slept (backoffDelay attempt ctx.state.retryConfig env.draw))
      pure (.continue,
        { retry with
          failedBackends := markFailed retry.failedBackends backend.id
          lastErrorMsg := some e.display })
    else
      emit (.completed .badGateway ctx.backendId.bytes)
      pure (.return (errorResponse .badGateway "backend error"), retry)

def shouldCacheResponse (ctx : RequestCtx) (response : Response) (status : StatusCode)
    (directives : CacheDirectives) : Bool :=
  ctx.state.cacheConfig.enabled && ctx.isCacheableMethod && isCacheableStatus status &&
    !responseIsEncoded response && varyPermitsCaching response.headers &&
    responsePermitsSharedCaching ctx.requestHasCookie directives

def storeAndRespond (ctx : RequestCtx) (response : Response) (status : StatusCode)
    (directives : CacheDirectives) (reqParts : Parts) : Traced Event AttemptOutcome :=
  match response.body.collect with
  | .error _ => do
    emit (.completed status ctx.backendId.bytes)
    pure (.return (errorResponse .badGateway "failed to read response"))
  | .ok bodyBytes => do
    let key : CacheKeyRef :=
      { method := reqParts.method.asStr
        path := reqParts.pathAndQuery
        identity := ctx.cacheIdentity }
    emit (.put key status response.headers bodyBytes directives)
    emit (.completed status ctx.backendId.bytes)
    pure (.return (maybeCompress ctx.state.zstd { response with body := .ofBytes bodyBytes }
      ctx.acceptsZstd directives ctx.state.compressionConfig))

/-- The end of `handle_response`: record the outcome and hand the response to the client. -/
def deliverResponse (ctx : RequestCtx) (selected : Selected) (response : Response)
    (reqParts : Parts) : Traced Event AttemptOutcome := do
  let status := response.status
  if status.isServerError then
    emit (.recordFailure selected.backend.id)
  else
    emit (.recordSuccess selected.backend.id)
  let directives := CacheDirectives.fromResponse response.headers
  if shouldCacheResponse ctx response status directives then
    let outcome ← storeAndRespond ctx response status directives reqParts
    selected.dropGuards
    pure outcome
  else
    -- the guards are not dropped here: they go with the body that is still to be streamed
    emit (.completed status ctx.backendId.bytes)
    pure (.stream (maybeCompress ctx.state.zstd response ctx.acceptsZstd directives
      ctx.state.compressionConfig) selected.backend.id selected.halfOpen)

def handleResponse (ctx : RequestCtx) (env : AttemptEnv) (attempt : Nat) (selected : Selected)
    (result : Except ReductionError Response) (reqParts : Parts) (retry : RetryState) :
    Traced Event (AttemptOutcome × RetryState) :=
  match result with
  | .error e => do
    let outcome ← handleForwardError ctx env attempt selected.backend e retry
    selected.dropGuards
    pure outcome
  | .ok response =>
    if isRetryableStatus response.status then do
      emit (.recordFailure selected.backend.id)
      if attempt + 1 < ctx.maxAttempts then
        emit (.slept (backoffDelay attempt ctx.state.retryConfig env.draw))
        selected.dropGuards
        pure (.continue,
          { retry with
            failedBackends := markFailed retry.failedBackends selected.backend.id
            lastResponse := some response })
      else
        -- the final attempt falls through and returns this response
        let outcome ← deliverResponse ctx selected response reqParts
        pure (outcome, retry)
    else do
      let outcome ← deliverResponse ctx selected response reqParts
      pure (outcome, retry)

/-- `run_attempt`, with the replay body and the retry state after it. -/
def runAttempt (ctx : RequestCtx) (env : AttemptEnv) (attempt : Nat) (remaining : Duration)
    (replay : ReplayBody) (retry : RetryState) :
    Traced Event (AttemptOutcome × ReplayBody × RetryState) := do
  let (gated, retry) ← selectAndGate ctx env retry
  match gated with
  | .error .break => pure (.break, replay, retry)
  | .error .continue => pure (.continue, replay, retry)
  | .ok selected =>
    match buildRetryReq replay with
    -- a body that streams once, and an earlier attempt has it
    | (none, replay) => do
      selected.dropGuards
      pure (.break, replay, retry)
    | (some req, replay) => do
      let result ← forwardRequest ctx.state env req selected.backend remaining ctx.clientIdentity
        ctx.clientIp
      emit (.answered selected.backend result)
      let (outcome, retry) ← handleResponse ctx env attempt selected result replay.reqParts retry
      pure (outcome, replay, retry)

end Reduction
