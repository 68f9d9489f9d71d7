import Reduction.Native.Attempt

/-!
# The request handler

Model of `src/proxy/handler.rs` with its submodules `cache.rs`, `body.rs` and
`selection.rs`: admit the client, serve from the cache, route and queue, prepare
the replay body, and drive the retry loop.
-/

namespace Reduction

open Http Traced

/-! ## What a request meets -/

structure RouteMatch where
  backendId : BackendId
  timeoutSecs : Option UInt64

/-- The answers of the rest of the system to one request. -/
structure HandlerEnv where
  start : Instant
  /-- The peer's address and its handshake-proven identity. -/
  connectAddr : Option (IpAddr × Option PeerIdentity)
  shuttingDown : Bool
  aclDenies : IpAddr → Bool
  rateLimited : IpAddr → Bool
  isRevoked : PeerIdentity → Bool
  cached : CacheKeyRef → Option Response
  matchRoute : Bytes → Option RouteMatch
  backendPools : BackendId → Option BackendPool
  queueFull : BackendId → Bool
  /-- The blocking decompression task panics. -/
  decompressPanics : Bool
  attempts : Nat → AttemptEnv

/-! ## Admission -/

def admitClient (env : HandlerEnv) : Except Response (IpAddr × Option PeerIdentity) :=
  let clientIp := (env.connectAddr.map Prod.fst).getD .localhost
  let clientIdentity := env.connectAddr.bind Prod.snd
  if env.shuttingDown then
    let response := errorResponse .serviceUnavailable "server is shutting down"
    .error { response with headers := response.headers.insert retryAfter (.lit "5" (by decide)) }
  else
    .ok (clientIp, clientIdentity)

def rejectBeforeRouting (state : ProxyState) (env : HandlerEnv) (clientIp : IpAddr)
    (clientIdentity : Option PeerIdentity) : Option Response :=
  if env.aclDenies clientIp then
    some (errorResponse .forbidden "access denied")
  else if env.rateLimited clientIp then
    some (errorResponse .tooManyRequests "rate limited")
  else
    match clientIdentity with
    | none =>
      -- a nameless peer is refused only under mandatory client authentication
      if state.clientAuth.allowsAnonymous then none
      else some (errorResponse .forbidden "client identity required")
    | some identity =>
      if env.isRevoked identity then some (errorResponse .forbidden "revoked") else none

/-! ## Cache negotiation -/

structure CacheNegotiation where
  isCacheableMethod : Bool
  acceptsZstd : Bool
  requestIsZstd : Bool
  requestHasCookie : Bool
  cacheIdentityHex : Option Bytes

/-- The text of the first value of a name, if it is visible ASCII. -/
def headerText (headers : HeaderMap) (name : HeaderName) : Option Bytes :=
  (headers.get name).bind HeaderValue.toStr?

def tryServeFromCache (state : ProxyState) (env : HandlerEnv) (req : Request)
    (cacheIdentity : Bytes)
    (acceptsZstd isCacheableMethod requestHasCookie requestHasRange : Bool) :
    Traced Event (Option Response) := do
  if state.cacheConfig.enabled && isCacheableMethod && !requestHasCookie && !requestHasRange then
    let key : CacheKeyRef :=
      { method := req.parts.method.asStr, path := req.parts.pathAndQuery, identity := cacheIdentity }
    emit (.lookup key)
    pure ((env.cached key).map fun cached =>
      maybeCompress state.zstd cached acceptsZstd (.fromResponse cached.headers)
        state.compressionConfig)
  else
    pure none

def negotiateCache (state : ProxyState) (env : HandlerEnv) (req : Request)
    (clientIdentity : Option PeerIdentity) : Traced Event (Except Response CacheNegotiation) := do
  let headers := req.parts.headers
  let isCacheableMethod := req.parts.method = .get || req.parts.method = .head
  let acceptsZstd :=
    ((headerText headers acceptEncoding).map fun v => decide (Bytes.ascii "zstd" <:+: v)).getD false
  let requestIsZstd := headerText headers contentEncoding = some (Bytes.ascii "zstd")
  let cacheIdentityHex := clientIdentity.map PeerIdentity.spkiHex
  let requestHasCookie := headers.containsKey cookie
  let requestHasRange := headers.containsKey range
  let hit ← tryServeFromCache state env req (cacheIdentityHex.getD []) acceptsZstd isCacheableMethod
    requestHasCookie requestHasRange
  match hit with
  | some response => pure (.error response)
  | none =>
    pure (.ok
      { isCacheableMethod, acceptsZstd, requestIsZstd, requestHasCookie, cacheIdentityHex })

/-! ## Routing -/

structure RouteInfo where
  backendId : BackendId
  pool : BackendPool
  requestTimeout : Duration
  responseIdleTimeout : Duration

/-- `resolve_backend_pool`. -/
def resolveBackendPool (env : HandlerEnv) (path : Bytes) :
    Except Response (RouteMatch × BackendPool) :=
  match env.matchRoute path with
  | none => .error (errorResponse .notFound "no route matched")
  | some m =>
    match env.backendPools m.backendId with
    | some pool => .ok (m, pool)
    | none => .error (errorResponse .badGateway "backend pool not found")

def routeAndAdmit (state : ProxyState) (env : HandlerEnv) (path : Bytes) :
    Traced Event (Except Response RouteInfo) :=
  match resolveBackendPool env path with
  | .error response => do
    -- recorded as 404, whichever of the two errors it is
    emit (.completed .notFound [])
    pure (.error response)
  | .ok (m, pool) => do
    if env.queueFull m.backendId then
      emit (.completed .serviceUnavailable m.backendId.bytes)
      pure (.error (errorResponse .serviceUnavailable ReductionError.queueFull.display))
    else
      emit (.queueAcquired m.backendId)
      pure (.ok
        { backendId := m.backendId
          pool
          requestTimeout :=
            Duration.fromSecs (m.timeoutSecs.getD state.timeouts.requestSecs.val).toNat
          responseIdleTimeout := Duration.fromSecs state.timeouts.responseIdleSecs.val.toNat })

/-! ## The replay body -/

def declaredLengthExceeds (headers : HeaderMap) (cap : UInt32) : Bool :=
  (((headerText headers contentLength).bind (Bytes.parseUnsigned 64)).map
    fun len => decide (len > cap.toNat)).getD false

/-- `buffer_request_body`: the bytes, or the status to reject with. -/
def bufferRequestBody (body : Body) (cap : UInt32) : Except StatusCode Bytes :=
  match (body.limited cap.toNat).collect with
  | .ok bytes => .ok bytes
  | .error .lengthLimit => .error .payloadTooLarge
  | .error _ => .error .badRequest

def decompressRequest (state : ProxyState) (env : HandlerEnv) (req : Request) :
    Except Response Request :=
  let maxBody := state.proxyConfig.maxRequestBodyBytes.toNat
  match (req.body.limited maxBody).collect with
  | .error .lengthLimit => .error (errorResponse .payloadTooLarge "request body too large")
  | .error _ => .error (errorResponse .badRequest "failed to read request body")
  | .ok bodyBytes =>
    -- long bodies are decompressed on the blocking pool, where a panic surfaces as a 500
    if state.proxyConfig.inlineCompressThreshold.toNat < bodyBytes.length && env.decompressPanics then
      .error (errorResponse .internalServerError "decompression failed")
    else
      match state.zstd.decompressBounded bodyBytes maxBody with
      | none => .error (errorResponse .badRequest "invalid zstd body")
      | some decompressed =>
        let headers := (req.parts.headers.remove contentEncoding).insert contentLength
          (.ofNat decompressed.length)
        .ok { parts := { req.parts with headers }, body := .ofBytes decompressed }

/-- `max_retries + 1` attempts for a request that may be replayed; the addition is on `u32`. -/
def attemptsAllowed (state : ProxyState) (parts : Parts) : Nat :=
  if retriesPermitted parts.method parts.headers then
    (state.retryConfig.maxRetries + 1).toNat
  else
    1

/-- The part of `prepare_replay_body` after decompression. -/
def bufferForReplay (state : ProxyState) (req : Request) (backendId : BackendId) :
    Traced Event (Except Response (ReplayBody × Nat)) :=
  let maxAttempts := attemptsAllowed state req.parts
  let cap := state.proxyConfig.maxRequestBodyBytes
  if 1 < maxAttempts && !declaredLengthExceeds req.parts.headers cap then
    match bufferRequestBody req.body cap with
    | .ok bytes =>
      pure (.ok
        ({ bodyBytes := some bytes, streamingBody := none, reqParts := req.parts }, maxAttempts))
    | .error status => do
      emit (.completed status backendId.bytes)
      pure (.error (errorResponse status
        (if status = .payloadTooLarge then "request body too large"
          else "failed to read request body")))
  else
    pure (.ok
      ({ bodyBytes := none, streamingBody := some req.body, reqParts := req.parts }, maxAttempts))

def prepareReplayBody (state : ProxyState) (env : HandlerEnv) (req : Request)
    (requestIsZstd : Bool) (backendId : BackendId) :
    Traced Event (Except Response (ReplayBody × Nat)) :=
  if requestIsZstd then
    match decompressRequest state env req with
    | .ok req => bufferForReplay state req backendId
    | .error response => do
      emit (.completed response.status backendId.bytes)
      pure (.error response)
  else
    bufferForReplay state req backendId

/-! ## The retry loop -/

/-- One iteration of the loop: its number, the state it started from, and what it did. -/
structure AttemptLog where
  attempt : Nat
  replay : ReplayBody
  retry : RetryState
  events : List Event

/-- How the loop ended. -/
inductive LoopEnd where
  /-- No attempt is left, or the loop was broken off. -/
  | exhausted (retry : RetryState)
  | returned (response : Response)
  | streamed (response : Response) (conn : BackendId) (halfOpen : Option HalfOpenGuard)

/-- The time left for an attempt, if it exceeds the connect budget. -/
def remainingBudget (deadline : Instant) (connectBudget : Duration) (now : Instant) :
    Option Duration :=
  -- `checked_duration_since` is `None` past the deadline
  if now ≤ deadline ∧ connectBudget < deadline - now then some (deadline - now) else none

/-- The loop from attempt number `attempt` on, with `left` attempts to go. -/
def retryLoop (ctx : RequestCtx) (env : Nat → AttemptEnv) (deadline : Instant)
    (connectBudget : Duration) : (left attempt : Nat) → ReplayBody → RetryState →
    List AttemptLog × LoopEnd
  | 0, _, _, retry => ([], .exhausted retry)
  | left + 1, attempt, replay, retry =>
    match remainingBudget deadline connectBudget (env attempt).now with
    -- the warning is all that tells this from having no attempt left
    | none => ([], .exhausted retry)
    | some remaining =>
      let run := runAttempt ctx (env attempt) attempt remaining replay retry
      let log : AttemptLog := { attempt, replay, retry, events := run.events }
      match run.val with
      | (.continue, replay, retry) =>
        let (logs, loopEnd) := retryLoop ctx env deadline connectBudget left (attempt + 1) replay retry
        (log :: logs, loopEnd)
      | (.break, _, retry) => ([log], .exhausted retry)
      | (.return response, _, _) => ([log], .returned response)
      | (.stream response conn halfOpen, _, _) => ([log], .streamed response conn halfOpen)

/-! ## The handler -/

/-- What a request brings to the loop. -/
structure Prepared where
  ctx : RequestCtx
  replay : ReplayBody
  requestTimeout : Duration
  responseIdleTimeout : Duration

/-- The handler up to the loop; an error is the response it ends with. -/
def prologue (state : ProxyState) (env : HandlerEnv) (req : Request) :
    Traced Event (Except Response Prepared) := do
  match admitClient env with
  | .error response => pure (.error response)
  | .ok (clientIp, clientIdentity) =>
    match rejectBeforeRouting state env clientIp clientIdentity with
    | some response => pure (.error response)
    | none => do
      match ← negotiateCache state env req clientIdentity with
      | .error response => pure (.error response)
      | .ok neg =>
        match ← routeAndAdmit state env req.parts.path with
        | .error response => pure (.error response)
        | .ok info =>
          match ← prepareReplayBody state env req neg.requestIsZstd info.backendId with
          | .error response => pure (.error response)
          | .ok (replay, maxAttempts) =>
            pure (.ok
              { ctx :=
                  { state, pool := info.pool, clientIp, clientIdentity
                    backendId := info.backendId
                    cacheIdentity := neg.cacheIdentityHex.getD []
                    maxAttempts
                    isCacheableMethod := neg.isCacheableMethod
                    requestHasCookie := neg.requestHasCookie
                    acceptsZstd := neg.acceptsZstd }
                replay
                requestTimeout := info.requestTimeout
                responseIdleTimeout := info.responseIdleTimeout })

/-- What a streamed body holds to its end besides the queue slot of the request, and the gap between
    frames at which it is given up. -/
structure ResponseGuards where
  conn : Option BackendId
  halfOpen : Option HalfOpenGuard
  idleTimeout : Duration

/-- A whole run of `proxy_handler`. -/
structure HandlerRun where
  prologue : List Event
  attempts : List AttemptLog
  epilogue : List Event
  response : Response
  /-- The guards moved into the response body; a buffered response has none. -/
  guards : Option ResponseGuards

/-- The loop of a prepared request. -/
def Prepared.loop (p : Prepared) (env : HandlerEnv) : List AttemptLog × LoopEnd :=
  retryLoop p.ctx env.attempts (env.start + p.requestTimeout)
    (Duration.fromSecs p.ctx.state.timeouts.connectSecs.val.toNat) p.ctx.maxAttempts 0 p.replay .new

def proxyHandler (state : ProxyState) (env : HandlerEnv) (req : Request) : HandlerRun :=
  let pre := prologue state env req
  match pre.val with
  | .error response =>
    { prologue := pre.events, attempts := [], epilogue := [], response, guards := none }
  | .ok p =>
    let (attempts, loopEnd) := p.loop env
    match loopEnd with
    | .returned response =>
      { prologue := pre.events, attempts, epilogue := [], response, guards := none }
    | .streamed response conn halfOpen =>
      { prologue := pre.events, attempts, epilogue := [], response
        guards := some { conn := some conn, halfOpen, idleTimeout := p.responseIdleTimeout } }
    | .exhausted retry =>
      match retry.lastResponse with
      | some response =>
        { prologue := pre.events, attempts
          -- the permit and the probe guard of the attempt that got this response are gone already
          epilogue := [.completed response.status p.ctx.backendId.bytes]
          response
          guards := some
            { conn := none, halfOpen := none, idleTimeout := p.responseIdleTimeout } }
      | none =>
        { prologue := pre.events, attempts
          epilogue := [.completed .badGateway p.ctx.backendId.bytes]
          response := errorResponse .badGateway "backend error"
          guards := none }

/-! ## Arithmetic

The additions of the loop that can overflow.  `Instant + Duration` then panics in every build, an
addition on `u32` where overflow is checked; where it is not, the sum wraps around, as in
`attemptsAllowed`. -/

/-- `Instant::checked_add`: the seconds of an instant are an `i64`. -/
def Instant.checkedAdd (t : Instant) (d : Duration) : Option Instant :=
  if (t + d) / 1000000000 < 2 ^ 63 then some (t + d) else none

/-- `u32::checked_add`. -/
def checkedAddU32 (a b : Nat) : Option Nat := if a + b < 2 ^ 32 then some (a + b) else none

/-- The attempt parks, for which a deadline is computed. -/
def AttemptLog.parks (log : AttemptLog) : Bool :=
  log.events.any fun
    | .parked _ _ => true
    | _ => false

/-- One of the additions overflows: `max_retries + 1`, `start + request_timeout`, and in each attempt
    `attempt + 1` and, if it parks, the deadline of the wake; `parkedAt` reads the clock there. -/
def Prepared.panics (p : Prepared) (env : HandlerEnv) (parkedAt : Nat → Instant) : Bool :=
  (retriesPermitted p.replay.reqParts.method p.replay.reqParts.headers &&
    (checkedAddU32 p.ctx.state.retryConfig.maxRetries.toNat 1).isNone) ||
  (Instant.checkedAdd env.start p.requestTimeout).isNone ||
  (p.loop env).1.any fun log =>
    (checkedAddU32 log.attempt 1).isNone ||
    (log.parks && (Instant.checkedAdd (parkedAt log.attempt)
      (Duration.fromSecs p.ctx.state.proxyConfig.wakeTimeoutSecs.val.toNat)).isNone)

end Reduction
