import Reduction.Spec.AttemptCases

/-!
# Whole runs of the request handler

The retry loop as a list of attempts, each started from a known state: the
induction over the attempts of a loop, what the prologue hands to the loop, and
the views of a whole run as the views of its attempts, one after the other.
-/

namespace Reduction

open Http Traced

/-! ## The loop as a list of attempts -/

namespace AttemptLog

/-- The calls of `forward_request` in an attempt. -/
def forwards (log : AttemptLog) : List (BackendConfig × Request) :=
  log.events.filterMap Event.forward?

/-- The copies of the request that an attempt sent. -/
def copies (log : AttemptLog) : List Request := log.events.filterMap Event.sent?

/-- The outcomes that an attempt recorded with circuit breakers. -/
def outcomes (log : AttemptLog) : List (BackendId × Outcome) := log.events.filterMap Event.outcome?

/-- The calls of `response_cache.put` in an attempt. -/
def puts (log : AttemptLog) : List CachePut := log.events.filterMap Event.put?

/-- The attempt was parked for a wake, and the wake made its backend reachable. -/
def released (log : AttemptLog) : Bool :=
  log.events.any fun
    | .parked _ true => true
    | _ => false

theorem exists_parked {log : AttemptLog} (h : log.released = true) :
    ∃ id, .parked id true ∈ log.events := by
  obtain ⟨e, he, hparked⟩ := List.any_eq_true.mp h
  cases e with
  | parked id ready =>
    cases ready with
    | true => exact ⟨id, he⟩
    | false => simp at hparked
  | _ => simp at hparked

end AttemptLog

section Loop

variable (ctx : RequestCtx) (env : Nat → AttemptEnv) (deadline : Instant) (budget : Duration)

/-- The attempt that the loop makes in the given state. -/
def attemptAt (attempt : Nat) (remaining : Duration) (replay : ReplayBody) (retry : RetryState) :
    AttemptLog :=
  { attempt, replay, retry
    events := (runAttempt ctx (env attempt) attempt remaining replay retry).events }

/-- Induction over the attempts of a loop: it ends for want of attempts or of time, or after an
    attempt that does not continue, and goes on after one that does. -/
@[elab_as_elim]
theorem retryLoop_induction
    {motive : Nat → Nat → ReplayBody → RetryState → List AttemptLog → Prop}
    (nil : ∀ attempt replay retry, motive 0 attempt replay retry [])
    (late : ∀ left attempt replay retry,
      remainingBudget deadline budget (env attempt).now = none →
      motive (left + 1) attempt replay retry [])
    (stop : ∀ left attempt remaining replay retry,
      remainingBudget deadline budget (env attempt).now = some remaining →
      (runAttempt ctx (env attempt) attempt remaining replay retry).val.1 ≠ .continue →
      motive (left + 1) attempt replay retry [attemptAt ctx env attempt remaining replay retry])
    (step : ∀ left attempt remaining replay retry replay' retry',
      remainingBudget deadline budget (env attempt).now = some remaining →
      (runAttempt ctx (env attempt) attempt remaining replay retry).val =
        (.continue, replay', retry') →
      motive left (attempt + 1) replay' retry'
        (retryLoop ctx env deadline budget left (attempt + 1) replay' retry').1 →
      motive (left + 1) attempt replay retry
        (attemptAt ctx env attempt remaining replay retry ::
          (retryLoop ctx env deadline budget left (attempt + 1) replay' retry').1))
    (left attempt : Nat) (replay : ReplayBody) (retry : RetryState) :
    motive left attempt replay retry
      (retryLoop ctx env deadline budget left attempt replay retry).1 := by
  -- the recursion of `retryLoop`, with the state generalised: a later round starts elsewhere
  induction left generalizing attempt replay retry with
  | zero => exact nil attempt replay retry
  | succ left ih =>
    rw [retryLoop]
    cases hbudget : remainingBudget deadline budget (env attempt).now with
    | none => exact late left attempt replay retry hbudget
    | some remaining =>
      have hstop := stop left attempt remaining replay retry hbudget
      rcases hrun : (runAttempt ctx (env attempt) attempt remaining replay retry).val with
        ⟨_ | _ | _ | _, replay', retry'⟩ <;>
      simp only [hrun] at hstop ⊢
      · exact step left attempt remaining replay retry replay' retry' hbudget hrun
          (ih (attempt + 1) replay' retry')
      -- `break`, `return` and `stream` end the loop alike
      all_goals exact hstop (by simp)

/-- What the loop never changes about the replay body. -/
def SameRequest (replay replay' : ReplayBody) : Prop :=
  replay'.reqParts = replay.reqParts ∧ replay'.bodyBytes = replay.bodyBytes

theorem buildRetryReq_same (replay : ReplayBody) : SameRequest replay (buildRetryReq replay).2 := by
  unfold buildRetryReq SameRequest
  cases hbytes : replay.bodyBytes with
  | some bytes => simp [hbytes]
  | none => cases hbody : replay.streamingBody <;> simp [hbytes]

theorem runAttempt_same (attempt : Nat) (aenv : AttemptEnv) (remaining : Duration)
    (replay : ReplayBody) (retry : RetryState) :
    SameRequest replay (runAttempt ctx aenv attempt remaining replay retry).val.2.1 := by
  cases runAttempt_case ctx aenv attempt remaining replay retry with
  | noBackend e hsel hgate hval => rw [hval]; exact ⟨rfl, rfl⟩
  | skipped b msg hsel hadm hgate hval => rw [hval]; exact ⟨rfl, rfl⟩
  | consumed b hsel hadm hreq hgate hval => rw [hval]; exact ⟨rfl, rfl⟩
  | forwarded b req replay' fwd answer hsel hadm hreq hfwd hanswer htrace hrest hval =>
    have hsame := buildRetryReq_same replay
    rw [hreq] at hsame
    rw [hval]
    exact hsame

/-- Every attempt of the loop runs in its own environment, under a number in range, on the request
    that the loop started with. -/
theorem mem_retryLoop (left attempt : Nat) (replay : ReplayBody) (retry : RetryState) :
    ∀ log ∈ (retryLoop ctx env deadline budget left attempt replay retry).1,
      attempt ≤ log.attempt ∧ log.attempt < attempt + left ∧ SameRequest replay log.replay ∧
      ∃ remaining, log = attemptAt ctx env log.attempt remaining log.replay log.retry := by
  induction left, attempt, replay, retry using retryLoop_induction ctx env deadline budget with
  | nil attempt replay retry => simp
  | late left attempt replay retry hbudget => simp
  | stop left attempt remaining replay retry hbudget hstop =>
    intro log hlog
    obtain rfl := List.mem_singleton.mp hlog
    exact ⟨Nat.le_refl _, by simp [attemptAt], ⟨rfl, rfl⟩, remaining, rfl⟩
  | step left attempt remaining replay retry replay' retry' hbudget hrun ih =>
    intro log hlog
    cases List.mem_cons.mp hlog with
    | inl hlog =>
      subst hlog
      exact ⟨Nat.le_refl _, by simp [attemptAt], ⟨rfl, rfl⟩, remaining, rfl⟩
    | inr hlog =>
      have hsame := runAttempt_same ctx attempt (env attempt) remaining replay retry
      rw [hrun] at hsame
      obtain ⟨hle, hlt, hreq, hrest⟩ := ih log hlog
      -- later attempts run on what this one left, which is the same request
      refine ⟨by omega, by omega, ⟨?_, ?_⟩, hrest⟩
      · rw [hreq.1, hsame.1]
      · rw [hreq.2, hsame.2]

end Loop

/-! ## From the request to the loop -/

section

variable {state : ProxyState} {env : HandlerEnv} {req : Request}

/-- Decompression keeps all fields but the two that describe the body's encoding and length. -/
theorem decompressRequest_ok {req' : Request} (h : decompressRequest state env req = .ok req') :
    req'.parts.method = req.parts.method ∧
    ∀ n, n ≠ contentEncoding → n ≠ contentLength →
      req'.parts.headers.getAll n = req.parts.headers.getAll n := by
  unfold decompressRequest at h
  dsimp only at h
  split at h
  · cases h
  · cases h
  · split at h
    · cases h
    · split at h
      · cases h
      · simp only [Except.ok.injEq] at h
        subst h
        refine ⟨rfl, ?_⟩
        intro n hencoding hlength
        simp only
        rw [HeaderMap.getAll_insert, if_neg hlength, HeaderMap.getAll_remove_of_ne _ hencoding]

variable {id : BackendId} {replay : ReplayBody} {n : Nat} {p : Prepared}

theorem bufferForReplay_ok (h : (bufferForReplay state req id).val = .ok (replay, n)) :
    n = attemptsAllowed state req.parts ∧ replay.reqParts = req.parts ∧
      (replay.bodyBytes.isSome ∨ replay.streamingBody.isSome) := by
  unfold bufferForReplay at h
  simp only at h
  split at h
  · split at h
    · simp only [val_pure, Except.ok.injEq, Prod.mk.injEq] at h
      obtain ⟨rfl, rfl⟩ := h
      exact ⟨rfl, rfl, .inl rfl⟩
    · simp at h
  · simp only [val_pure, Except.ok.injEq, Prod.mk.injEq] at h
    obtain ⟨rfl, rfl⟩ := h
    exact ⟨rfl, rfl, .inr rfl⟩

/-- The prepared request is the client's: its method, and all its fields but those of the body's
    encoding and length. -/
structure Prepared.Of (p : Prepared) (state : ProxyState) (req : Request) : Prop where
  state_eq : p.ctx.state = state
  maxAttempts_eq : p.ctx.maxAttempts = attemptsAllowed state req.parts
  method_eq : p.replay.reqParts.method = req.parts.method
  getAll_eq : ∀ n, n ≠ contentEncoding → n ≠ contentLength →
    p.replay.reqParts.headers.getAll n = req.parts.headers.getAll n
  available : p.replay.bodyBytes.isSome ∨ p.replay.streamingBody.isSome

theorem attemptsAllowed_congr {parts parts' : Parts} (hmethod : parts'.method = parts.method)
    (hkey : parts'.headers.getAll headerIdempotencyKey =
      parts.headers.getAll headerIdempotencyKey) :
    attemptsAllowed state parts' = attemptsAllowed state parts := by
  have hretries : retriesPermitted parts'.method parts'.headers =
      retriesPermitted parts.method parts.headers := by
    simp only [retriesPermitted, HeaderMap.get, hmethod, hkey]
  simp only [attemptsAllowed, hretries]

theorem prepareReplayBody_ok {requestIsZstd : Bool}
    (h : (prepareReplayBody state env req requestIsZstd id).val = .ok (replay, n)) :
    n = attemptsAllowed state req.parts ∧ replay.reqParts.method = req.parts.method ∧
      (∀ m, m ≠ contentEncoding → m ≠ contentLength →
        replay.reqParts.headers.getAll m = req.parts.headers.getAll m) ∧
      (replay.bodyBytes.isSome ∨ replay.streamingBody.isSome) := by
  unfold prepareReplayBody at h
  split at h
  · cases hreq : decompressRequest state env req with
    | error response => simp [hreq] at h
    | ok req' =>
      simp only [hreq] at h
      obtain ⟨hn, hparts, havail⟩ := bufferForReplay_ok h
      obtain ⟨hmethod, hgetAll⟩ := decompressRequest_ok hreq
      -- the number of attempts was computed from the decompressed request
      have hkey := hgetAll headerIdempotencyKey (by decide) (by decide)
      rw [hn, attemptsAllowed_congr hmethod hkey, hparts]
      exact ⟨rfl, hmethod, hgetAll, havail⟩
  · obtain ⟨hn, hparts, havail⟩ := bufferForReplay_ok h
    rw [hn, hparts]
    exact ⟨rfl, rfl, fun _ _ _ => rfl, havail⟩

theorem prologue_ok (h : (prologue state env req).val = .ok p) : p.Of state req := by
  unfold prologue at h
  split at h
  · simp at h
  · split at h
    · simp at h
    · simp only [val_bind] at h
      split at h
      · simp at h
      · simp only [val_bind] at h
        split at h
        · simp at h
        · simp only [val_bind] at h
          split at h
          · simp at h
          · rename_i replay n hprep
            simp only [val_pure, Except.ok.injEq] at h
            subst h
            obtain ⟨hn, hmethod, hgetAll, havail⟩ := prepareReplayBody_ok hprep
            exact ⟨rfl, hn, hmethod, hgetAll, havail⟩

/-- A request that was admitted, missed the cache and was routed, with what it was routed to. -/
structure Routed (state : ProxyState) (env : HandlerEnv) (req : Request) (clientIp : IpAddr)
    (identity : Option PeerIdentity) (neg : CacheNegotiation) (info : RouteInfo) : Prop where
  admitted : admitClient env = .ok (clientIp, identity)
  passed : rejectBeforeRouting state env clientIp identity = none
  missed : (negotiateCache state env req identity).val = .ok neg
  routed : (routeAndAdmit state env req.parts.path).val = .ok info

/-- What a routed request brings to the loop, once its body is prepared. -/
theorem Routed.prologue_cases {clientIp : IpAddr} {identity : Option PeerIdentity}
    {neg : CacheNegotiation} {info : RouteInfo}
    (h : Routed state env req clientIp identity neg info) :
    let body := (prepareReplayBody state env req neg.requestIsZstd info.backendId).val
    (∃ response, body = .error response ∧ (prologue state env req).val = .error response) ∨
    ∃ prepared p, body = .ok prepared ∧ (prologue state env req).val = .ok p ∧
      p.ctx.pool = info.pool ∧ p.ctx.clientIp = clientIp ∧
      p.requestTimeout = info.requestTimeout := by
  cases hbody : (prepareReplayBody state env req neg.requestIsZstd info.backendId).val with
  | error response =>
    left
    refine ⟨response, rfl, ?_⟩
    simp [prologue, h.admitted, h.passed, h.missed, h.routed, hbody]
  | ok prepared =>
    right
    have hval : ∃ p, (prologue state env req).val = .ok p ∧ p.ctx.pool = info.pool ∧
        p.ctx.clientIp = clientIp ∧ p.requestTimeout = info.requestTimeout := by
      simp [prologue, h.admitted, h.passed, h.missed, h.routed, hbody]
    obtain ⟨p, hp⟩ := hval
    exact ⟨prepared, p, rfl, hp⟩

theorem proxyHandler_attempts_of_error {response : Response}
    (h : (prologue state env req).val = .error response) :
    (proxyHandler state env req).attempts = [] := by
  simp only [proxyHandler, h]

theorem proxyHandler_attempts_of_ok (h : (prologue state env req).val = .ok p) :
    (proxyHandler state env req).attempts = (p.loop env).1 := by
  simp only [proxyHandler, h]
  rcases p.loop env with ⟨logs, retry | response | _⟩
  · cases hlast : retry.lastResponse <;> simp only [hlast]
  · rfl
  · rfl

/-- Every attempt of a run is one of the loop of its prepared request. -/
theorem mem_attempts {log : AttemptLog} (h : log ∈ (proxyHandler state env req).attempts) :
    ∃ p, (prologue state env req).val = .ok p ∧ log.attempt < attemptsAllowed state req.parts ∧
      SameRequest p.replay log.replay ∧
      ∃ remaining,
        log = attemptAt p.ctx env.attempts log.attempt remaining log.replay log.retry := by
  cases hpre : (prologue state env req).val with
  | error response => simp [proxyHandler_attempts_of_error hpre] at h
  | ok p =>
    rw [proxyHandler_attempts_of_ok hpre] at h
    obtain ⟨-, hlt, hsame, hlog⟩ := mem_retryLoop _ _ _ _ _ _ _ _ log h
    refine ⟨p, rfl, ?_, hsame, hlog⟩
    rw [← (prologue_ok hpre).maxAttempts_eq]
    omega

/-! ## The trace of a run -/

/-- All events of a run, in order. -/
def HandlerRun.events (run : HandlerRun) : List Event :=
  run.prologue ++ run.attempts.flatMap AttemptLog.events ++ run.epilogue

/-- The calls of `forward_request` in a run. -/
def HandlerRun.forwards (run : HandlerRun) : List (BackendConfig × Request) :=
  run.events.filterMap Event.forward?

/-- The copies of the request that a run sent to backends. -/
def HandlerRun.copies (run : HandlerRun) : List Request := run.events.filterMap Event.sent?

/-- The calls of `response_cache.put` in a run. -/
def HandlerRun.puts (run : HandlerRun) : List CachePut := run.events.filterMap Event.put?

theorem negotiateCache_housekeeping (state : ProxyState) (env : HandlerEnv) (req : Request)
    (identity : Option PeerIdentity) :
    ∀ e ∈ (negotiateCache state env req identity).events, e.isHousekeeping = true := by
  intro e he
  simp only [negotiateCache, tryServeFromCache, events_bind] at he
  split at he <;> split at he <;> simp at he <;> simp [he, Event.isHousekeeping]

theorem routeAndAdmit_housekeeping (state : ProxyState) (env : HandlerEnv) (path : Bytes) :
    ∀ e ∈ (routeAndAdmit state env path).events, e.isHousekeeping = true := by
  unfold routeAndAdmit
  split
  · simp [Event.isHousekeeping]
  · split <;> simp [Event.isHousekeeping]

theorem bufferForReplay_housekeeping (state : ProxyState) (req : Request) (id : BackendId) :
    ∀ e ∈ (bufferForReplay state req id).events, e.isHousekeeping = true := by
  unfold bufferForReplay
  dsimp only
  split
  · split <;> simp [Event.isHousekeeping]
  · simp

theorem prepareReplayBody_housekeeping (state : ProxyState) (env : HandlerEnv) (req : Request)
    (requestIsZstd : Bool) (id : BackendId) :
    ∀ e ∈ (prepareReplayBody state env req requestIsZstd id).events, e.isHousekeeping = true := by
  unfold prepareReplayBody
  split
  · split
    · exact bufferForReplay_housekeeping state _ id
    · simp [Event.isHousekeeping]
  · exact bufferForReplay_housekeeping state req id

/-- Before the loop the request is only looked up, queued or answered. -/
theorem prologue_housekeeping (state : ProxyState) (env : HandlerEnv) (req : Request) :
    ∀ e ∈ (prologue state env req).events, e.isHousekeeping = true := by
  unfold prologue
  split
  · simp
  · split
    · simp
    · intro e he
      rw [events_bind, List.mem_append] at he
      cases he with
      | inl he => exact negotiateCache_housekeeping state env req _ e he
      | inr he =>
        split at he
        · simp at he
        · rw [events_bind, List.mem_append] at he
          cases he with
          | inl he => exact routeAndAdmit_housekeeping state env _ e he
          | inr he =>
            split at he
            · simp at he
            · rw [events_bind, List.mem_append] at he
              cases he with
              | inl he => exact prepareReplayBody_housekeeping state env req _ _ e he
              | inr he => split at he <;> simp at he

/-- A view that leaves out the housekeeping sees the attempts only. -/
theorem filterMap_events {α : Type} {f : Event → Option α}
    (hf : ∀ e, e.isHousekeeping = true → f e = none) (state : ProxyState) (env : HandlerEnv)
    (req : Request) :
    (proxyHandler state env req).events.filterMap f =
      (proxyHandler state env req).attempts.flatMap fun log => log.events.filterMap f := by
  have hpre : (proxyHandler state env req).prologue.filterMap f = [] := by
    have hpro : (proxyHandler state env req).prologue = (prologue state env req).events := by
      unfold proxyHandler
      dsimp only
      split
      · rfl
      · split
        · rfl
        · rfl
        · split <;> rfl
    rw [hpro, List.filterMap_eq_nil_iff]
    exact fun e he => hf e (prologue_housekeeping state env req e he)
  have hepi : (proxyHandler state env req).epilogue.filterMap f = [] := by
    rw [List.filterMap_eq_nil_iff]
    intro e he
    apply hf
    unfold proxyHandler at he
    dsimp only at he
    split at he
    · simp at he
    · split at he
      · simp at he
      · simp at he
      · split at he <;> simp at he <;> simp [he, Event.isHousekeeping]
  rw [HandlerRun.events, List.filterMap_append, List.filterMap_append, hpre, hepi, List.nil_append,
    List.append_nil, List.filterMap_flatMap]

theorem proxyHandler_forwards (state : ProxyState) (env : HandlerEnv) (req : Request) :
    (proxyHandler state env req).forwards =
      (proxyHandler state env req).attempts.flatMap AttemptLog.forwards :=
  filterMap_events (fun e he => forward?_of_not_exchange e (not_isExchange_of_housekeeping he)) state
    env req

theorem proxyHandler_copies (state : ProxyState) (env : HandlerEnv) (req : Request) :
    (proxyHandler state env req).copies =
      (proxyHandler state env req).attempts.flatMap AttemptLog.copies :=
  filterMap_events (fun e he => sent?_of_not_exchange e (not_isExchange_of_housekeeping he)) state env
    req

theorem proxyHandler_puts (state : ProxyState) (env : HandlerEnv) (req : Request) :
    (proxyHandler state env req).puts =
      (proxyHandler state env req).attempts.flatMap AttemptLog.puts :=
  filterMap_events put?_of_housekeeping state env req

end

/-! ## A sample proxy

Two backends and a proxy in front of them, on which the theorems about runs are instantiated: every
gate is open, no time passes, and the balancer prefers the heavier backend. -/

namespace Sample

def clientAddr : IpAddr := .v4 #v[192, 0, 2, 1]

/-- The preferred backend of the sample pool. -/
def b1 : BackendConfig :=
  { id := ⟨Bytes.ascii "b1", by decide⟩
    pool := ⟨Bytes.ascii "web", by decide⟩
    address := { ip := .v4 #v[10, 0, 0, 1], port := 443 }
    host := Bytes.ascii "b1.internal"
    weight := .fin 2
    transport := .tcp
    scheme := .https
    maxConnections := 100
    wakeable := false }

def b2 : BackendConfig :=
  { b1 with
    id := ⟨Bytes.ascii "b2", by decide⟩
    host := Bytes.ascii "b2.internal"
    weight := .fin 1 }

def state (maxRetries : UInt32) : ProxyState :=
  { timeouts :=
      { connectSecs := ⟨5, by decide⟩
        handshakeSecs := ⟨5, by decide⟩
        requestSecs := ⟨30, by decide⟩
        responseIdleSecs := ⟨30, by decide⟩ }
    proxyConfig :=
      { maxResponseBodyBytes := 1024
        maxRequestBodyBytes := 1024
        h2ConnectionsPerBackend := ⟨4, by decide⟩
        maxIdleQuicPerHost := 16
        h2StreamWindow := 65536
        h2ConnWindow := 65536
        inlineCompressThreshold := 64
        quicChannelCapacity := ⟨4, by decide⟩
        wakeTimeoutSecs := ⟨10, by decide⟩ }
    compressionConfig := { enabled := false, minBytes := 256, level := 3 }
    retryConfig := { maxRetries, baseDelayMs := 100, maxDelayMs := 1000, jitterMs := 0 }
    cacheConfig :=
      { enabled := false
        maxEntries := ⟨16, by decide⟩
        maxEntryBytes := ⟨1024, by decide⟩
        defaultTtlSecs := ⟨60, by decide⟩ }
    clientAuth := .disabled
    zstd := { withLevel := fun b _ => some b, decompressBounded := fun b _ => some b } }

def balancer : BalancerEnv :=
  { weightFactor := fun _ => .one
    pressure := fun _ => .zero
    ln := fun _ => F64.one.neg }

def attempt (status : StatusCode) : AttemptEnv :=
  { now := 0
    untried := balancer
    anyBackend := balancer
    permit := fun _ => true
    circuit := fun _ => (.closed, none)
    acquireError := fun _ => none
    trace := none
    send := fun _ _ _ => .ok { status, headers := [], body := .ofBytes [] }
    wake := fun _ => false
    draw := 0 }

def env (pool : BackendPool) (attempts : Nat → AttemptEnv) : HandlerEnv :=
  { start := 0
    connectAddr := some (clientAddr, none)
    shuttingDown := false
    aclDenies := fun _ => false
    rateLimited := fun _ => false
    isRevoked := fun _ => false
    cached := fun _ => none
    matchRoute := fun _ => some { backendId := ⟨Bytes.ascii "web", by decide⟩, timeoutSecs := none }
    backendPools := fun _ => some pool
    queueFull := fun _ => false
    decompressPanics := false
    attempts }

def twoBackends : BackendPool := { backends := [b1, b2], bounded := by decide }

/-- Both backends answer every attempt with the same status. -/
def answering (status : StatusCode) : HandlerEnv := env twoBackends fun _ => attempt status

/-- The breaker of the preferred backend is open, that of the other one is closed. -/
def firstOpen : HandlerEnv :=
  env twoBackends fun _ =>
    { attempt .ok with
      circuit := fun id => if id = b1.id then (.open, none) else (.closed, none) }

/-- The preferred backend, started on demand. -/
def b1Cold : BackendConfig := { b1 with wakeable := true }

def coldPool : BackendPool := { backends := [b1Cold], bounded := by decide }

/-- The first attempt finds the only backend stopped and wakes it; from then on it answers. -/
def coldStart : HandlerEnv :=
  env coldPool fun k =>
    if k = 0 then
      { attempt .ok with
        acquireError := fun _ => some (.noBackendSession "b1")
        wake := fun _ => true }
    else attempt .ok

def request (method : Method) (headers : HeaderMap) : Request :=
  { parts := { method, path := Bytes.ascii "/", query := none, headers }, body := .ofBytes [] }

def route (pool : BackendPool) : RouteInfo :=
  { backendId := ⟨Bytes.ascii "web", by decide⟩
    pool
    requestTimeout := Duration.fromSecs 30
    responseIdleTimeout := Duration.fromSecs 30 }

def negotiation : CacheNegotiation :=
  { isCacheableMethod := true
    acceptsZstd := false
    requestIsZstd := false
    requestHasCookie := false
    cacheIdentityHex := none }

theorem routed (maxRetries : UInt32) (pool : BackendPool) (attempts : Nat → AttemptEnv) :
    Routed (state maxRetries) (env pool attempts) (request .get []) (.v4 #v[192, 0, 2, 1]) none
      negotiation (route pool) :=
  ⟨rfl, rfl, rfl, rfl⟩

/-- A `POST` whose client sent the idempotency key `k1`. -/
def keyedPost (further : HeaderMap) : Request :=
  request .post ((headerIdempotencyKey, .lit "k1" (by decide)) :: further)

end Sample

end Reduction
