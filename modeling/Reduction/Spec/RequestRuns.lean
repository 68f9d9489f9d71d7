import Reduction.ForStd.Run
import Reduction.ForStd.Tasks
import Reduction.Native.ConfigReload
import Reduction.Spec.BalancerCorrect
import Reduction.Spec.HandlerRuns

/-!
# Concurrent requests

Any number of requests run `proxy_handler` at the same time, next to the reload
task.  `RequestStage` cuts the handler wherever it waits, and before it turns to
something that requests share: the response cache, the routing state, a
backend's connection permits.  `Server.step` lets one request, or the reload
task, go on from one cut to the next.

What the balancer, the circuit breakers and the backends answer comes with each
step, so a run covers every order in which these may change.
-/

namespace Reduction

open Http Run Traced

/-! ## Stages of a request -/

/-- A request that the cache had no answer for. -/
structure Negotiated where
  req : Request
  start : Instant
  clientIp : IpAddr
  clientIdentity : Option PeerIdentity
  neg : CacheNegotiation

/-- The variables of the retry loop, with the version of the routing state that the request was
    routed by.  Of `RetryState` the kept response has its backend noted with it. -/
structure LoopVars where
  ctx : RequestCtx
  deadline : Instant
  generation : Nat
  attempt : Nat
  replay : ReplayBody
  failedBackends : List BackendId
  lastErrorMsg : Option String
  last : Option (BackendId × Response)

inductive RequestStage where
  | arrived (req : Request)
  | missed (r : Negotiated)
  | routed (r : Negotiated) (info : RouteInfo) (generation : Nat)
  /-- At the head of the loop. -/
  | looping (v : LoopVars)
  /-- With a connection permit, before the circuit breaker is asked. -/
  | gating (v : LoopVars) (backend : BackendConfig) (remaining : Duration)
  /-- Inside `forward_request`. -/
  | forwarding (v : LoopVars) (selected : Selected) (req : Request) (remaining : Duration)
  /-- Inside `handle_response`: backing off, parked, or reading the body for the cache. -/
  | settling (v : LoopVars) (selected : Selected) (result : Except ReductionError Response)
  /-- A streaming body with the guards of its attempt. -/
  | streaming (conn : BackendId) (halfOpen : Option HalfOpenGuard)
  /-- A kept response that is streamed after the loop, without a permit. -/
  | streamingLast (backend : BackendId)
  | done

/-- What requests share. -/
structure Shared where
  reload : ReloadTask
  conns : ConnPool

namespace Shared

/-- What an event of a request does to the cache and to the permits. -/
def apply (now : Instant) (sh : Shared) : Event → Shared
  | .lookup key => { sh with reload.cache := (sh.reload.cache.get key now).1 }
  | .put key status headers body directives =>
    { sh with reload.cache := (sh.reload.cache.put key status headers body directives now).1 }
  | .permitReleased id => { sh with conns := sh.conns.release id }
  | _ => sh

def applyAll (now : Instant) (sh : Shared) (events : List Event) : Shared :=
  events.foldl (apply now) sh

end Shared

namespace LoopVars

def retry (v : LoopVars) : RetryState :=
  { failedBackends := v.failedBackends
    lastResponse := v.last.map Prod.snd
    lastErrorMsg := v.lastErrorMsg }

/-- The next round of the loop. -/
def next (v : LoopVars) (retry : RetryState) : LoopVars :=
  { v with
    attempt := v.attempt + 1
    failedBackends := retry.failedBackends
    lastErrorMsg := retry.lastErrorMsg }

/-- An answer that is to be retried is kept, over one that was kept before. -/
def keep (v : LoopVars) (id : BackendId) : Except ReductionError Response → LoopVars
  | .ok response => { v with last := some (id, response) }
  | .error _ => v

/-- The end of the loop. -/
def exhausted (v : LoopVars) : RequestStage :=
  match v.last with
  | some (id, _) => .streamingLast id
  | none => .done

end LoopVars

/-! ## Steps of a request -/

section Steps

variable (state : ProxyState) (sh : Shared)

/-- Up to the answer of the cache.  The access rules and the denylist are those in force. -/
def negotiate (env : HandlerEnv) (now : Instant) (req : Request) :
    Traced Event (Except Response Negotiated) :=
  let env :=
    { env with
      aclDenies := fun ip => !(sh.reload.reloadable.value.acl.check ip).toBool
      isRevoked := sh.reload.revocation.value.isRevoked
      cached := fun key => (sh.reload.cache.get key now).2 }
  match admitClient env with
  | .error response => pure (.error response)
  | .ok (clientIp, clientIdentity) =>
    match rejectBeforeRouting state env clientIp clientIdentity with
    | some response => pure (.error response)
    | none => do
      match ← negotiateCache state env req clientIdentity with
      | .error response => pure (.error response)
      | .ok neg => pure (.ok { req, start := env.start, clientIp, clientIdentity, neg })

def lookUp (env : HandlerEnv) (now : Instant) (req : Request) : Shared × RequestStage :=
  let negotiated := negotiate state sh env now req
  (sh.applyAll now negotiated.events,
    match negotiated.val with
    | .error _ => .done
    | .ok r => .missed r)

/-- The route is resolved by the routing state in force. -/
def routeRequest (env : HandlerEnv) (r : Negotiated) : RequestStage :=
  let routing := sh.reload.reloadable.value
  let env :=
    { env with matchRoute := routing.router.matchRoute, backendPools := routing.backendPools.get }
  match (routeAndAdmit state env r.req.parts.path).val with
  | .error _ => .done
  | .ok info => .routed r info sh.reload.reloadable.version

def prepare (env : HandlerEnv) (r : Negotiated) (info : RouteInfo) (generation : Nat) :
    RequestStage :=
  match (prepareReplayBody state env r.req r.neg.requestIsZstd info.backendId).val with
  | .error _ => .done
  | .ok (replay, maxAttempts) =>
    .looping
      { ctx :=
          { state, pool := info.pool, clientIp := r.clientIp, clientIdentity := r.clientIdentity
            backendId := info.backendId
            cacheIdentity := r.neg.cacheIdentityHex.getD []
            maxAttempts
            isCacheableMethod := r.neg.isCacheableMethod
            requestHasCookie := r.neg.requestHasCookie
            acceptsZstd := r.neg.acceptsZstd }
        deadline := r.start + info.requestTimeout
        generation
        attempt := 0
        replay
        failedBackends := []
        lastErrorMsg := none
        last := none }

/-- The head of the loop, up to the connection permit. -/
def attemptNext (env : AttemptEnv) (v : LoopVars) : Shared × RequestStage :=
  if v.attempt < v.ctx.maxAttempts then
    match remainingBudget v.deadline
        (Duration.fromSecs v.ctx.state.timeouts.connectSecs.val.toNat) env.now with
    | none => (sh, v.exhausted)
    | some remaining =>
      match selectBackend v.ctx.pool v.ctx.clientIp env v.failedBackends with
      | .error _ => (sh, v.exhausted)
      | .ok backend =>
        let (conns, permit) := sh.conns.tryAcquireConnPermit backend
        ({ sh with conns },
          match permit with
          | .error _ => .looping (v.next (v.retry.skip backend "backend connection limit reached"))
          | .ok () => .gating v backend remaining)
  else
    (sh, v.exhausted)

/-- The circuit breaker is asked, and the request rebuilt. -/
def gate (env : AttemptEnv) (v : LoopVars) (backend : BackendConfig) (remaining : Duration) :
    Shared × RequestStage :=
  if (env.circuit backend.id).1 = .open then
    (sh.apply env.now (.permitReleased backend.id),
      .looping (v.next (v.retry.skip backend "circuit open")))
  else
    let selected : Selected := { backend, halfOpen := env.guardFor backend }
    match buildRetryReq v.replay with
    | (none, _) => (sh.applyAll env.now selected.dropGuards.events, v.exhausted)
    | (some req, replay) => (sh, .forwarding { v with replay } selected req remaining)

def forward (env : AttemptEnv) (v : LoopVars) (selected : Selected) (req : Request)
    (remaining : Duration) : RequestStage :=
  .settling v selected
    (forwardRequest v.ctx.state env req selected.backend remaining v.ctx.clientIdentity
      v.ctx.clientIp).val

/-- `handle_response` ends. -/
def settle (env : AttemptEnv) (v : LoopVars) (selected : Selected)
    (result : Except ReductionError Response) : Shared × RequestStage :=
  let handled := handleResponse v.ctx env v.attempt selected result v.replay.reqParts v.retry
  (sh.applyAll env.now handled.events,
    match handled.val with
    | (.continue, retry) => .looping ((v.next retry).keep selected.backend.id result)
    | (.break, _) => v.exhausted
    | (.return _, _) => .done
    | (.stream _ conn halfOpen, _) => .streaming conn halfOpen)

end Steps

/-- The guards that go with a request. -/
def RequestStage.dropGuards : RequestStage → List Event
  | .gating _ backend _ => [.permitReleased backend.id]
  | .forwarding _ selected _ _ | .settling _ selected _ => selected.dropGuards.events
  | .streaming conn halfOpen => halfOpen.toList.map .guardDropped ++ [.permitReleased conn]
  | _ => []

/-- A step of one request, with what it meets. -/
inductive RequestMove where
  | lookUp (env : HandlerEnv) (now : Instant)
  | route (env : HandlerEnv)
  | prepare (env : HandlerEnv)
  | attempt (env : AttemptEnv)
  | gate (env : AttemptEnv)
  | forward (env : AttemptEnv)
  | settle (env : AttemptEnv)
  /-- The body has ended, or the client is gone. -/
  | close (now : Instant)

/-- A move that is not the next one of its request changes nothing. -/
def RequestStage.step (state : ProxyState) (sh : Shared) :
    RequestStage → RequestMove → Shared × RequestStage
  | .arrived req, .lookUp env now => lookUp state sh env now req
  | .missed r, .route env => (sh, routeRequest state sh env r)
  | .routed r info generation, .prepare env => (sh, prepare state env r info generation)
  | .looping v, .attempt env => attemptNext sh env v
  | .gating v backend remaining, .gate env => gate sh env v backend remaining
  | .forwarding v selected req remaining, .forward env =>
    (sh, forward env v selected req remaining)
  | .settling v selected result, .settle env => settle sh env v selected result
  | stage, .close now => (sh.applyAll now stage.dropGuards, .done)
  | stage, _ => (sh, stage)

/-! ## The server -/

/-- Where the reload task stands in `apply_config_reload`. -/
inductive Reloading where
  | idle
  | published (pending : PendingReload)
  | flushed (pending : PendingReload)

structure Server where
  shared : Shared
  reloading : Reloading
  requests : List RequestStage

inductive ServerAction where
  | arrive (req : Request)
  | request (i : Nat) (move : RequestMove)
  | publish (config : ReductionConfig) (revocationFile : Option (Option RevocationSet))
  | flush
  | cleanUp

/-- The reload task takes this step. -/
def ServerAction.isReload : ServerAction → Bool
  | .publish _ _ | .flush | .cleanUp => true
  | _ => false

namespace Server

def start (config : ReductionConfig) (cache : ResponseCache) (revocation : RevocationSet) :
    Except ReductionError Server := do
  let reload ← ReloadTask.start config cache (.new config.circuitBreaker) revocation
  .ok { shared := { reload, conns := .new }, reloading := .idle, requests := [] }

def onRequest (s : Server) (i : Nat) (f : Shared → RequestStage → Shared × RequestStage) : Server :=
  match s.requests[i]? with
  | none => s
  | some stage =>
    { s with
      shared := (f s.shared stage).1
      requests := s.requests.set i (f s.shared stage).2 }

def step (state : ProxyState) (s : Server) : ServerAction → Server
  | .arrive req => { s with requests := s.requests ++ [.arrived req] }
  | .request i move => s.onRequest i fun sh stage => stage.step state sh move
  | .publish config revocationFile =>
    match s.reloading with
    | .idle =>
      if config.validate.toBool then
        let (reload, pending) := s.shared.reload.publish config revocationFile
        { s with
          shared.reload := reload
          reloading := match pending with
            | some pending => .published pending
            | none => .idle }
      else s
    | _ => s
  | .flush =>
    match s.reloading with
    | .published pending =>
      { s with shared.reload := s.shared.reload.flush pending, reloading := .flushed pending }
    | _ => s
  | .cleanUp =>
    match s.reloading with
    | .flushed pending =>
      { s with shared.reload := s.shared.reload.cleanUp pending, reloading := .idle }
    | _ => s

variable {state : ProxyState} {s : Server} {i : Nat}

theorem step_request_none (hi : s.requests[i]? = none) (move : RequestMove) :
    s.step state (.request i move) = s := by
  simp only [step, onRequest, hi]

theorem step_request_some {stage : RequestStage} (hi : s.requests[i]? = some stage)
    (move : RequestMove) :
    s.step state (.request i move) =
      { s with
        shared := (stage.step state s.shared move).1
        requests := s.requests.set i (stage.step state s.shared move).2 } := by
  simp only [step, onRequest, hi]

end Server

namespace Sample

def twoGets : List ServerAction := [.arrive (request .get []), .arrive (request .get [])]

/-- One request goes on. -/
def moves (i : Nat) (moves : List RequestMove) : List ServerAction := moves.map (.request i)

/-- The moves of a request up to the answer to its first attempt. -/
def untilAnswered (env : HandlerEnv) : List RequestMove :=
  [.lookUp env 0, .route env, .prepare env, .attempt (env.attempts 0), .gate (env.attempts 0),
    .forward (env.attempts 0)]

end Sample

/-! ## What the steps do -/

/-- The permits that an event gives back. -/
def Event.released? : Event → Option BackendId
  | .permitReleased id => some id
  | _ => none

theorem Event.released?_of_housekeeping {e : Event} (h : e.isHousekeeping = true) :
    e.released? = none := by
  cases e <;> simp [isHousekeeping, released?] at h ⊢

theorem dropGuards_released (s : Selected) :
    s.dropGuards.events.filterMap Event.released? = [s.backend.id] := by
  cases hg : s.halfOpen with
  | none => simp [Selected.dropGuards, hg, Event.released?]
  | some g => simp [Selected.dropGuards, hg, Event.released?, List.filterMap_cons]

variable (ctx : RequestCtx)

/-- A response is delivered from a buffer, and the permit given back, or streamed with it. -/
theorem deliverResponse_cases (s : Selected) (response : Response) (reqParts : Parts) :
    let delivered := deliverResponse ctx s response reqParts
    (∃ r, delivered.val = .return r ∧
      delivered.events.filterMap Event.released? = [s.backend.id]) ∨
    ∃ r, delivered.val = .stream r s.backend.id s.halfOpen ∧
      delivered.events.filterMap Event.released? = [] := by
  have hdrop := dropGuards_released s
  cases hserver : response.status.isServerError <;>
  cases hcache : shouldCacheResponse ctx response response.status
    (.fromResponse response.headers) <;>
  cases hbody : response.body.collect <;>
  simp [deliverResponse, storeAndRespond, hserver, hcache, hbody, hdrop, Event.released?,
    List.filterMap_cons]

/-- A loop that goes on has kept the answer, if there was one, for it is to be retried. -/
theorem handleResponse_continue {ctx : RequestCtx} {env : AttemptEnv} {attempt : Nat}
    {s : Selected} {result : Except ReductionError Response} {reqParts : Parts}
    {retry : RetryState}
    (h : (handleResponse ctx env attempt s result reqParts retry).val.1 = .continue) :
    (handleResponse ctx env attempt s result reqParts retry).val.2.lastResponse =
        result.toOption.or retry.lastResponse ∧
      ∀ response, result = .ok response →
        isRetryableStatus response.status = true ∧ attempt + 1 < ctx.maxAttempts := by
  cases result with
  | error e =>
    refine ⟨?_, fun response hok => by cases hok⟩
    simp only [handleResponse, handleForwardError, val_bind, val_pure] at h ⊢
    split
    · rfl
    · split <;> rfl
  | ok response =>
    have hdeliver : (deliverResponse ctx s response reqParts).val ≠ .continue := by
      rcases deliverResponse_cases ctx s response reqParts with ⟨r, hr, -⟩ | ⟨r, hr, -⟩ <;>
        simp [hr]
    simp only [handleResponse] at h ⊢
    split at h
    · split at h
      · rename_i hretry hlast
        refine ⟨by simp [hretry, hlast, Except.toOption], ?_⟩
        intro response' hok
        cases hok
        exact ⟨hretry, hlast⟩
      · exact absurd h hdeliver
    · exact absurd h hdeliver

theorem handleForwardError_released (env : AttemptEnv) (attempt : Nat) (b : BackendConfig)
    (e : ReductionError) (retry : RetryState) :
    let handled := handleForwardError ctx env attempt b e retry
    (∀ r conn halfOpen, handled.val.1 ≠ .stream r conn halfOpen) ∧
      handled.events.filterMap Event.released? = [] := by
  unfold handleForwardError
  dsimp only
  split
  · cases hwake : env.wake b <;> simp [parkForWake, hwake, Event.released?]
  · split <;> simp [Event.released?]

/-- The permit of an attempt is given back, unless it goes with the body. -/
theorem handleResponse_released (env : AttemptEnv) (attempt : Nat) (s : Selected)
    (result : Except ReductionError Response) (reqParts : Parts) (retry : RetryState) :
    let handled := handleResponse ctx env attempt s result reqParts retry
    (∃ r, handled.val.1 = .stream r s.backend.id s.halfOpen ∧
      handled.events.filterMap Event.released? = []) ∨
    ((∀ r conn halfOpen, handled.val.1 ≠ .stream r conn halfOpen) ∧
      handled.events.filterMap Event.released? = [s.backend.id]) := by
  have hdrop := dropGuards_released s
  cases result with
  | error e =>
    obtain ⟨hval, hevents⟩ := handleForwardError_released ctx env attempt s.backend e retry
    refine .inr ⟨hval, ?_⟩
    simp only [handleResponse, events_bind, events_pure, List.append_nil, List.filterMap_append,
      hevents, hdrop, List.nil_append]
  | ok response =>
    have hdeliver := deliverResponse_cases ctx s response reqParts
    simp only [handleResponse]
    split
    · split
      · refine .inr ⟨by simp, ?_⟩
        simp [hdrop, Event.released?, List.filterMap_cons]
      · rcases hdeliver with ⟨r, hval, hevents⟩ | ⟨r, hval, hevents⟩
        · exact .inr ⟨by simp [hval], by simp [hevents, Event.released?, List.filterMap_cons]⟩
        · exact .inl ⟨r, by simp [hval], by simp [hevents, Event.released?, List.filterMap_cons]⟩
    · rcases hdeliver with ⟨r, hval, hevents⟩ | ⟨r, hval, hevents⟩
      · exact .inr ⟨by simp [hval], by simp [hevents]⟩
      · exact .inl ⟨r, by simp [hval], by simp [hevents]⟩

theorem Shared.applyAll_eq (now : Instant) (sh : Shared) (events : List Event) :
    ∃ cache, sh.applyAll now events =
      { reload := { sh.reload with cache }
        conns := (events.filterMap Event.released?).foldl ConnPool.release sh.conns } := by
  unfold applyAll
  induction events generalizing sh with
  | nil => exact ⟨_, rfl⟩
  | cons e events ih =>
    rw [List.foldl_cons]
    obtain ⟨cache, heq⟩ := ih (sh.apply now e)
    rw [heq]
    cases e <;> exact ⟨cache, rfl⟩

section Cases

variable (state : ProxyState) (sh : Shared)

variable (env : HandlerEnv)

theorem negotiate_housekeeping (now : Instant) (req : Request) :
    ∀ e ∈ (negotiate state sh env now req).events, e.isHousekeeping = true := by
  unfold negotiate
  dsimp only
  split
  · simp
  · split
    · simp
    · intro e he
      rw [events_bind] at he
      cases List.mem_append.mp he with
      | inl he => exact negotiateCache_housekeeping _ _ _ _ e he
      | inr he => split at he <;> simp at he

theorem lookUp_cases (now : Instant) (req : Request) :
    (∃ cache, (lookUp state sh env now req).1 = { sh with reload.cache := cache }) ∧
      ((lookUp state sh env now req).2 = .done ∨
        ∃ r, (lookUp state sh env now req).2 = .missed r) := by
  constructor
  · obtain ⟨cache, heq⟩ := sh.applyAll_eq now (negotiate state sh env now req).events
    have hnone : (negotiate state sh env now req).events.filterMap Event.released? = [] := by
      rw [List.filterMap_eq_nil_iff]
      intro e he
      exact Event.released?_of_housekeeping (negotiate_housekeeping state sh env now req e he)
    exact ⟨cache, by rw [lookUp, heq, hnone]; rfl⟩
  · unfold lookUp
    dsimp only
    split
    · exact .inl rfl
    · exact .inr ⟨_, rfl⟩

/-- A route that is resolved leads to a pool of the routing state. -/
theorem routeAndAdmit_pool {env : HandlerEnv} {path : Bytes} {info : RouteInfo}
    (h : (routeAndAdmit state env path).val = .ok info) :
    ∃ id, env.backendPools id = some info.pool := by
  unfold routeAndAdmit resolveBackendPool at h
  cases hmatch : env.matchRoute path with
  | none => simp [hmatch] at h
  | some m =>
    cases hpool : env.backendPools m.backendId with
    | none => simp [hmatch, hpool] at h
    | some pool =>
      by_cases hfull : env.queueFull m.backendId
      · simp [hmatch, hpool, hfull] at h
      · simp [hmatch, hpool, hfull] at h
        exact ⟨m.backendId, by rw [hpool, ← h]⟩

theorem routeRequest_cases (r : Negotiated) :
    routeRequest state sh env r = .done ∨ ∃ info id,
      routeRequest state sh env r = .routed r info sh.reload.reloadable.version ∧
      sh.reload.reloadable.value.backendPools.get id = some info.pool := by
  unfold routeRequest
  dsimp only
  split
  · exact .inl rfl
  · rename_i info hinfo
    obtain ⟨id, hid⟩ := routeAndAdmit_pool state hinfo
    exact .inr ⟨info, id, rfl, hid⟩

theorem prepare_cases (r : Negotiated) (info : RouteInfo) (generation : Nat) :
    prepare state env r info generation = .done ∨ ∃ v,
      prepare state env r info generation = .looping v ∧ v.ctx.pool = info.pool ∧
      v.generation = generation ∧ v.last = none := by
  unfold prepare
  split
  · exact .inl rfl
  · exact .inr ⟨_, rfl, rfl, rfl, rfl⟩

theorem selectBackend_mem {pool : BackendPool} {clientIp : IpAddr} {env : AttemptEnv}
    {failed : List BackendId} {b : BackendConfig}
    (h : selectBackend pool clientIp env failed = .ok b) : b ∈ pool.backends := by
  have hmem : ∀ {benv : BalancerEnv} {excluded : List BackendId},
      selectBackendExcluding pool clientIp benv excluded = .ok b → b ∈ pool.backends := by
    intro benv excluded hselect
    unfold selectBackendExcluding at hselect
    split at hselect
    · rename_i backend hsome
      cases hselect
      exact (BackendPool.select_mem hsome).1
    · cases hselect
  unfold selectBackend at h
  split at h
  · rename_i backend hok
    cases h
    exact hmem hok
  · exact hmem h

/-- The loop ends, or a permit is asked for and the request waits at the gate with it or tries
    another backend. -/
theorem attemptNext_cases (env : AttemptEnv) (v : LoopVars) :
    attemptNext sh env v = (sh, v.exhausted) ∨ ∃ b ∈ v.ctx.pool.backends,
      (attemptNext sh env v).1 = { sh with conns := (sh.conns.tryAcquireConnPermit b).1 } ∧
      (((sh.conns.tryAcquireConnPermit b).2.toBool = true ∧
          ∃ remaining, (attemptNext sh env v).2 = .gating v b remaining) ∨
        ((sh.conns.tryAcquireConnPermit b).2.toBool = false ∧
          ∃ retry, (attemptNext sh env v).2 = .looping (v.next retry))) := by
  unfold attemptNext
  split
  · split
    · exact .inl rfl
    · split
      · exact .inl rfl
      · rename_i b hselect
        refine .inr ⟨b, selectBackend_mem hselect, rfl, ?_⟩
        dsimp only
        cases (sh.conns.tryAcquireConnPermit b).2 with
        | ok u => exact .inl ⟨rfl, _, rfl⟩
        | error e => exact .inr ⟨rfl, _, rfl⟩
  · exact .inl rfl

/-- The permit is given back at the gate, or goes with the forwarded request. -/
theorem gate_cases (env : AttemptEnv) (v : LoopVars) (b : BackendConfig) (remaining : Duration) :
    ((gate sh env v b remaining).1.conns = sh.conns.release b.id ∧
      ((gate sh env v b remaining).2 = v.exhausted ∨
        ∃ retry, (gate sh env v b remaining).2 = .looping (v.next retry))) ∨
    ((gate sh env v b remaining).1.conns = sh.conns ∧ ∃ replay selected req,
      selected.backend = b ∧
      (gate sh env v b remaining).2 = .forwarding { v with replay } selected req remaining) := by
  unfold gate
  split
  · exact .inl ⟨rfl, .inr ⟨_, rfl⟩⟩
  · dsimp only
    split
    · refine .inl ⟨?_, .inl rfl⟩
      obtain ⟨cache, heq⟩ := sh.applyAll_eq env.now
        ({ backend := b, halfOpen := env.guardFor b } : Selected).dropGuards.events
      rw [heq, dropGuards_released]
      rfl
    · exact .inr ⟨rfl, _, _, _, rfl, rfl⟩

/-- The permit goes with the body that is streamed, or is given back; a response is kept only if it
    is to be retried. -/
theorem settle_cases (env : AttemptEnv) (v : LoopVars) (selected : Selected)
    (result : Except ReductionError Response) :
    ((settle sh env v selected result).1.conns = sh.conns ∧
      (settle sh env v selected result).2 = .streaming selected.backend.id selected.halfOpen) ∨
    ((settle sh env v selected result).1.conns = sh.conns.release selected.backend.id ∧
      ((settle sh env v selected result).2 = .done ∨
        (settle sh env v selected result).2 = v.exhausted ∨
        ∃ retry, (settle sh env v selected result).2 =
          .looping ((v.next retry).keep selected.backend.id result) ∧
          ∀ response, result = .ok response →
            isRetryableStatus response.status = true ∧ v.attempt + 1 < v.ctx.maxAttempts)) := by
  obtain ⟨cache, hshared⟩ := sh.applyAll_eq env.now
    (handleResponse v.ctx env v.attempt selected result v.replay.reqParts v.retry).events
  have hconns : (settle sh env v selected result).1.conns =
      ((handleResponse v.ctx env v.attempt selected result v.replay.reqParts
        v.retry).events.filterMap Event.released?).foldl ConnPool.release sh.conns :=
    congrArg Shared.conns hshared
  have hcontinue := @handleResponse_continue v.ctx env v.attempt selected result v.replay.reqParts
    v.retry
  have hreleased :=
    handleResponse_released v.ctx env v.attempt selected result v.replay.reqParts v.retry
  dsimp only at hreleased
  rcases hhandled :
    (handleResponse v.ctx env v.attempt selected result v.replay.reqParts v.retry).val
    with ⟨outcome, retry⟩
  rw [hhandled] at hreleased hcontinue
  rw [hconns]
  rcases hreleased with ⟨r, rfl, hevents⟩ | ⟨hval, hevents⟩
  · rw [hevents]
    refine .inl ⟨rfl, ?_⟩
    simp only [settle, hhandled]
  · rw [hevents]
    refine .inr ⟨rfl, ?_⟩
    simp only [settle, hhandled]
    cases outcome with
    | «continue» => exact .inr (.inr ⟨retry, rfl, (hcontinue rfl).2⟩)
    | «break» => exact .inr (.inl rfl)
    | «return» r => exact .inl rfl
    | stream r conn halfOpen => exact absurd rfl (hval r conn halfOpen)

/-- Of what the reload task works on, a request changes the cache only. -/
theorem RequestStage.reload_step (stage : RequestStage) (move : RequestMove) :
    ∃ cache, (stage.step state sh move).1.reload = { sh.reload with cache } := by
  have happly : ∀ now events, ∃ cache,
      (sh.applyAll now events).reload = { sh.reload with cache } := by
    intro now events
    obtain ⟨cache, heq⟩ := sh.applyAll_eq now events
    exact ⟨cache, congrArg Shared.reload heq⟩
  unfold step
  split
  · obtain ⟨⟨cache, heq⟩, -⟩ := lookUp_cases state sh _ _ _
    exact ⟨cache, congrArg Shared.reload heq⟩
  · exact ⟨_, rfl⟩
  · exact ⟨_, rfl⟩
  · rename_i v env
    rcases attemptNext_cases sh env v with heq | ⟨b, -, heq, -⟩
    · exact ⟨_, by rw [heq]⟩
    · exact ⟨_, by rw [heq]⟩
  · unfold gate
    split
    · exact ⟨_, rfl⟩
    · dsimp only
      split
      · exact happly _ _
      · exact ⟨_, rfl⟩
  · exact ⟨_, rfl⟩
  · exact happly _ _
  · exact happly _ _
  · exact ⟨_, rfl⟩

/-- The pool that a request is bound to. -/
def RequestStage.pool? : RequestStage → Option BackendPool
  | .routed _ info _ => some info.pool
  | .looping v | .gating v _ _ | .forwarding v _ _ _ | .settling v _ _ => some v.ctx.pool
  | _ => none

theorem LoopVars.pool?_exhausted (v : LoopVars) : v.exhausted.pool? = none := by
  unfold exhausted
  cases v.last <;> rfl

/-- A request takes its pool from the routing state, and keeps it. -/
theorem RequestStage.pool?_step (stage : RequestStage) (move : RequestMove) :
    (stage.step state sh move).2.pool? = none ∨
      (stage.step state sh move).2.pool? = stage.pool? ∨
      ∃ id, (stage.step state sh move).2.pool? =
        sh.reload.reloadable.value.backendPools.get id := by
  unfold step
  split
  · rename_i req env now
    rcases (lookUp_cases state sh env now req).2 with heq | ⟨r, heq⟩ <;>
      exact .inl (by rw [heq]; rfl)
  · rename_i r env
    rcases routeRequest_cases state sh env r with heq | ⟨info, id, heq, hpool⟩
    · exact .inl (by rw [heq]; rfl)
    · exact .inr (.inr ⟨id, by rw [heq, hpool]; rfl⟩)
  · rename_i r info generation env
    rcases prepare_cases state env r info generation with heq | ⟨v, heq, hpool, -⟩
    · exact .inl (by rw [heq]; rfl)
    · exact .inr (.inl (by rw [heq]; exact congrArg some hpool))
  · rename_i v env
    rcases attemptNext_cases sh env v with heq | ⟨b, -, -, ⟨-, remaining, heq⟩ | ⟨-, retry, heq⟩⟩
    · exact .inl (by rw [heq]; exact v.pool?_exhausted)
    · exact .inr (.inl (by rw [heq]; rfl))
    · exact .inr (.inl (by rw [heq]; rfl))
  · rename_i v backend remaining env
    rcases gate_cases sh env v backend remaining with
      ⟨-, heq | ⟨retry, heq⟩⟩ | ⟨-, replay, selected, req, -, heq⟩
    · exact .inl (by rw [heq]; exact v.pool?_exhausted)
    · exact .inr (.inl (by rw [heq]; rfl))
    · exact .inr (.inl (by rw [heq]; rfl))
  · exact .inr (.inl rfl)
  · rename_i v selected result env
    rcases settle_cases sh env v selected result with
      ⟨-, heq⟩ | ⟨-, heq | heq | ⟨retry, heq, -⟩⟩
    · exact .inl (by rw [heq]; rfl)
    · exact .inl (by rw [heq]; rfl)
    · exact .inl (by rw [heq]; exact v.pool?_exhausted)
    · refine .inr (.inl ?_)
      rw [heq]
      cases result <;> rfl
  · exact .inl rfl
  · exact .inr (.inl rfl)

end Cases

end Reduction
