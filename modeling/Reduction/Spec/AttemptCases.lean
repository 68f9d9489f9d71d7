import Reduction.Native.Handler

/-!
# What one attempt can do

`runAttempt_case` says once which of four things an attempt of the retry loop
does: it finds no backend, it is turned away at the gate, it finds the body
already consumed, or it forwards the request and interprets the answer.  The
lemmas after it say what forwarding and interpreting leave in the trace.
-/

namespace Reduction

open Http Traced

/-! ## Views of a trace -/

inductive Outcome where
  | failure
  | success
deriving DecidableEq

/-- The arguments of a `response_cache.put`. -/
@[ext]
structure CachePut where
  key : CacheKeyRef
  status : StatusCode
  headers : HeaderMap
  body : Bytes
  directives : CacheDirectives

namespace Event

/-- A look into the response cache. -/
def lookup? : Event → Option CacheKeyRef
  | .lookup key => some key
  | _ => none

/-- A call of `forward_request`. -/
def forward? : Event → Option (BackendConfig × Request)
  | .forward b req => some (b, req)
  | _ => none

/-- A copy handed to a backend connection. -/
def sent? : Event → Option Request
  | .sent _ req _ => some req
  | _ => none

/-- An outcome recorded with a circuit breaker. -/
def outcome? : Event → Option (BackendId × Outcome)
  | .recordFailure id => some (id, .failure)
  | .recordSuccess id => some (id, .success)
  | _ => none

def put? : Event → Option CachePut
  | .put key status headers body directives => some { key, status, headers, body, directives }
  | _ => none

/-- The events of selection and gating, and of the guards. -/
def isGate : Event → Bool
  | .selected _ | .permitDenied _ | .permitAcquired _ | .permitReleased _ | .checked _ _
  | .guardDropped _ => true
  | _ => false

/-- The events that the handler itself makes, around the attempts. -/
def isHousekeeping : Event → Bool
  | .lookup _ | .queueAcquired _ | .completed _ _ => true
  | _ => false

/-- The events by which a request leaves the proxy and is answered. -/
def isExchange : Event → Bool
  | .forward _ _ | .sent _ _ _ | .answered _ _ => true
  | _ => false

/-- All events but those by which a request leaves the proxy, is answered or is parked. -/
def isQuiet : Event → Bool
  | .forward _ _ | .sent _ _ _ | .answered _ _ | .parked _ _ => false
  | _ => true

end Event

/-- Gate events show in no view of the trace. -/
theorem filterMap_gate {α : Type} {f : Event → Option α} {es : List Event}
    (hf : ∀ e, e.isGate = true → f e = none) (hes : ∀ e ∈ es, e.isGate = true) :
    es.filterMap f = [] := by
  rw [List.filterMap_eq_nil_iff]
  intro e he
  exact hf e (hes e he)

theorem outcome?_of_gate (e : Event) (h : e.isGate = true) : e.outcome? = none := by
  cases e <;> simp [Event.isGate, Event.outcome?] at h ⊢

variable {e : Event} {ctx : RequestCtx} {env : AttemptEnv} {retry : RetryState} {b : BackendConfig}

theorem not_isExchange_of_gate (h : e.isGate = true) : e.isExchange = false := by
  cases e <;> simp [Event.isGate, Event.isExchange] at h ⊢

theorem not_isExchange_of_housekeeping (h : e.isHousekeeping = true) : e.isExchange = false := by
  cases e <;> simp [Event.isHousekeeping, Event.isExchange] at h ⊢

theorem put?_of_gate (e : Event) (h : e.isGate = true) : e.put? = none := by
  cases e <;> simp [Event.isGate, Event.put?] at h ⊢

theorem put?_of_housekeeping (e : Event) (h : e.isHousekeeping = true) : e.put? = none := by
  cases e <;> simp [Event.isHousekeeping, Event.put?] at h ⊢

theorem put?_eq_some_iff {p : CachePut} :
    e.put? = some p ↔ e = .put p.key p.status p.headers p.body p.directives := by
  cases e <;> simp [Event.put?, CachePut.ext_iff]

theorem forward?_of_not_exchange (e : Event) (h : e.isExchange = false) : e.forward? = none := by
  cases e <;> simp [Event.isExchange, Event.forward?] at h ⊢

theorem sent?_of_not_exchange (e : Event) (h : e.isExchange = false) : e.sent? = none := by
  cases e <;> simp [Event.isExchange, Event.sent?] at h ⊢

theorem forward?_of_gate (e : Event) (h : e.isGate = true) : e.forward? = none :=
  forward?_of_not_exchange e (not_isExchange_of_gate h)

theorem sent?_of_gate (e : Event) (h : e.isGate = true) : e.sent? = none :=
  sent?_of_not_exchange e (not_isExchange_of_gate h)

theorem isQuiet_of_gate (h : e.isGate = true) : e.isQuiet = true := by
  cases e <;> simp [Event.isGate, Event.isQuiet] at h ⊢

/-! ## The gate -/

/-- The gate lets an attempt through to `b`. -/
def AttemptEnv.admits (env : AttemptEnv) (b : BackendConfig) : Bool :=
  env.permit b && (env.circuit b.id).1 ≠ .open

/-- The probe guard of an admitted attempt. -/
def AttemptEnv.guardFor (env : AttemptEnv) (b : BackendConfig) : Option HalfOpenGuard :=
  match env.circuit b.id with
  | (.halfOpen, guard) => guard
  | _ => none

theorem dropGuards_gate (s : Selected) : ∀ e ∈ s.dropGuards.events, e.isGate = true := by
  cases hg : s.halfOpen with
  | none => simp [Selected.dropGuards, hg, Event.isGate]
  | some g => simp [Selected.dropGuards, hg, Event.isGate]

theorem selectAndGate_gate (ctx : RequestCtx) (env : AttemptEnv) (retry : RetryState) :
    ∀ e ∈ (selectAndGate ctx env retry).events, e.isGate = true := by
  -- one case per exit: no backend, no permit, and the three answers of the breaker
  unfold selectAndGate
  cases selectBackend ctx.pool ctx.clientIp env retry.failedBackends with
  | error e => simp
  | ok b =>
    cases hp : env.permit b with
    | false => simp [hp, Event.isGate]
    | true =>
      rcases hc : env.circuit b.id with ⟨answer, guard⟩
      cases answer <;> simp [hp, hc, Event.isGate]

/-- The retry state after a backend was passed over. -/
def RetryState.skip (retry : RetryState) (b : BackendConfig) (msg : String) : RetryState :=
  { retry with
    lastErrorMsg := some msg
    failedBackends := markFailed retry.failedBackends b.id }

theorem selectAndGate_of_error {e : ReductionError}
    (hsel : selectBackend ctx.pool ctx.clientIp env retry.failedBackends = .error e) :
    (selectAndGate ctx env retry).val =
      (.error .break, { retry with lastErrorMsg := some e.display }) := by
  simp [selectAndGate, hsel]

theorem selectAndGate_of_not_admits
    (hsel : selectBackend ctx.pool ctx.clientIp env retry.failedBackends = .ok b)
    (hadm : env.admits b = false) :
    ∃ msg, (selectAndGate ctx env retry).val = (.error .continue, retry.skip b msg) := by
  unfold selectAndGate
  cases hp : env.permit b with
  | false => exact ⟨_, by simp only [hsel, hp]; rfl⟩
  | true =>
    rcases hc : env.circuit b.id with ⟨answer, guard⟩
    cases answer with
    | «open» => exact ⟨_, by simp only [hsel, hp, hc]; rfl⟩
    | closed => simp [AttemptEnv.admits, hp, hc] at hadm
    | halfOpen => simp [AttemptEnv.admits, hp, hc] at hadm

theorem selectAndGate_of_admits
    (hsel : selectBackend ctx.pool ctx.clientIp env retry.failedBackends = .ok b)
    (hadm : env.admits b = true) :
    (selectAndGate ctx env retry).val =
      (.ok { backend := b, halfOpen := env.guardFor b }, retry) := by
  simp only [AttemptEnv.admits, Bool.and_eq_true, decide_eq_true_eq] at hadm
  obtain ⟨hp, hopen⟩ := hadm
  -- only the half-open answer carries a guard
  rcases hc : env.circuit b.id with ⟨answer, guard⟩
  rw [hc] at hopen
  cases answer with
  | «open» => exact absurd rfl hopen
  | closed => simp [selectAndGate, hsel, hp, hc, AttemptEnv.guardFor]
  | halfOpen => simp [selectAndGate, hsel, hp, hc, AttemptEnv.guardFor]

/-! ## Forwarding -/

/-- `forward_request` either fails before anything is sent, or sends one rewritten copy and returns
    the backend's answer. -/
theorem forwardRequest_cases (state : ProxyState) (env : AttemptEnv) (req : Request)
    (b : BackendConfig) (timeout : Duration) (identity : Option PeerIdentity) (clientIp : IpAddr) :
    let fwd := forwardRequest state env req b timeout identity clientIp
    (∃ e, fwd.val = .error e ∧ fwd.events = [.forward b req]) ∨
    ∃ headers, rewriteHeaders req.parts.headers b clientIp identity = .ok headers ∧
      ∃ copy : Request, copy.parts.headers = injectContext headers env.trace ∧
        fwd.events = [.forward b req, .sent b copy timeout] ∧
        fwd.val = receiveResponse state (env.send b copy timeout) := by
  intro fwd
  cases hacquire : env.acquireError b with
  | some e => exact .inl ⟨e, by simp [fwd, forwardRequest, hacquire]⟩
  | none =>
    cases hrewrite : rewriteHeaders req.parts.headers b clientIp identity with
    | error e => exact .inl ⟨e, by simp [fwd, forwardRequest, hacquire, hrewrite]⟩
    | ok headers =>
      refine .inr ⟨headers, rfl, { req with parts.headers := injectContext headers env.trace }, rfl,
        ?_⟩
      simp [fwd, forwardRequest, hacquire, hrewrite]

theorem forwardRequest_forwards (state : ProxyState) (env : AttemptEnv) (req : Request)
    (b : BackendConfig) (timeout : Duration) (identity : Option PeerIdentity) (clientIp : IpAddr) :
    (forwardRequest state env req b timeout identity clientIp).events.filterMap Event.forward? =
      [(b, req)] := by
  rcases forwardRequest_cases state env req b timeout identity clientIp with
    ⟨e, -, hevents⟩ | ⟨headers, -, copy, -, hevents, -⟩ <;>
  simp [hevents, Event.forward?]

/-- The status of a received response is the backend's. -/
theorem receiveResponse_ok {state : ProxyState} {answer : Except String Response}
    {response : Response} (h : receiveResponse state answer = .ok response) :
    ∃ r, answer = .ok r ∧ r.status = response.status := by
  cases answer with
  | error msg => simp [receiveResponse] at h
  | ok r =>
    simp only [receiveResponse, Except.ok.injEq] at h
    exact ⟨r, rfl, by rw [← h]⟩

/-! ## Interpreting the answer -/

/-- The outcome that a response delivered to the client counts as. -/
def deliveredOutcome (status : StatusCode) : Outcome :=
  if status.isServerError then .failure else .success

theorem storeAndRespond_outcomes (ctx : RequestCtx) (response : Response) (status : StatusCode)
    (directives : CacheDirectives) (reqParts : Parts) :
    (storeAndRespond ctx response status directives reqParts).events.filterMap Event.outcome? =
      [] := by
  unfold storeAndRespond
  cases response.body.collect with
  | error e => simp [Event.outcome?]
  | ok bytes => simp [Event.outcome?]

theorem deliverResponse_outcomes (ctx : RequestCtx) (s : Selected) (response : Response)
    (reqParts : Parts) :
    (deliverResponse ctx s response reqParts).events.filterMap Event.outcome? =
      [(s.backend.id, deliveredOutcome response.status)] := by
  have hdrop := filterMap_gate outcome?_of_gate (dropGuards_gate s)
  have hstore := storeAndRespond_outcomes ctx response response.status
    (.fromResponse response.headers) reqParts
  cases hserver : response.status.isServerError <;>
  cases hcache : shouldCacheResponse ctx response response.status
    (.fromResponse response.headers) <;>
  simp [deliverResponse, deliveredOutcome, hserver, hcache, hstore, hdrop, Event.outcome?]

/-- The outcomes that `handle_response` records: the retryable-status branch records its own, and
    on the last attempt it falls through to the delivery, which records another. -/
def recordedOutcomes (ctx : RequestCtx) (attempt : Nat) (b : BackendConfig) :
    Except ReductionError Response → List (BackendId × Outcome)
  | .error e => if b.wakeable && e.isTransportMiss then [] else [(b.id, .failure)]
  | .ok response =>
    let delivered := [(b.id, deliveredOutcome response.status)]
    if isRetryableStatus response.status then
      if attempt + 1 < ctx.maxAttempts then [(b.id, .failure)] else (b.id, .failure) :: delivered
    else
      delivered

theorem handleForwardError_outcomes (ctx : RequestCtx) (env : AttemptEnv) (attempt : Nat)
    (b : BackendConfig) (e : ReductionError) (retry : RetryState) :
    (handleForwardError ctx env attempt b e retry).events.filterMap Event.outcome? =
      if b.wakeable && e.isTransportMiss then [] else [(b.id, .failure)] := by
  unfold handleForwardError
  split
  · cases hwake : env.wake b <;> simp [parkForWake, hwake, Event.outcome?]
  · split <;> simp [Event.outcome?]

theorem handleResponse_outcomes (ctx : RequestCtx) (env : AttemptEnv) (attempt : Nat) (s : Selected)
    (result : Except ReductionError Response) (reqParts : Parts) (retry : RetryState) :
    (handleResponse ctx env attempt s result reqParts retry).events.filterMap Event.outcome? =
      recordedOutcomes ctx attempt s.backend result := by
  have hdrop := filterMap_gate outcome?_of_gate (dropGuards_gate s)
  cases result with
  -- dropping the guards records nothing, so the outcomes are those of the branch taken
  | error e => simp [handleResponse, recordedOutcomes, handleForwardError_outcomes, hdrop]
  | ok response =>
    have hdeliver := deliverResponse_outcomes ctx s response reqParts
    cases hretry : isRetryableStatus response.status with
    | false => simp [handleResponse, recordedOutcomes, hretry, hdeliver]
    | true =>
      by_cases hlast : attempt + 1 < ctx.maxAttempts
      · simp [handleResponse, recordedOutcomes, hretry, hlast, hdrop, Event.outcome?,
          List.filterMap_cons, -List.filterMap_eq_nil_iff]
      · simp [handleResponse, recordedOutcomes, hretry, hlast, hdeliver, Event.outcome?]

/-- Delivering a response sends nothing, asks nothing and parks nothing. -/
theorem deliverResponse_quiet (ctx : RequestCtx) (s : Selected) (response : Response)
    (reqParts : Parts) :
    ∀ e ∈ (deliverResponse ctx s response reqParts).events, e.isQuiet = true := by
  have hdrop := fun e he => isQuiet_of_gate (dropGuards_gate s e he)
  cases hserver : response.status.isServerError <;>
  cases hcache : shouldCacheResponse ctx response response.status
    (.fromResponse response.headers) <;>
  cases hbody : response.body.collect <;>
  simp [deliverResponse, storeAndRespond, hserver, hcache, hbody, Event.isQuiet] <;>
  exact hdrop

theorem handleForwardError_quiet (ctx : RequestCtx) (env : AttemptEnv) (attempt : Nat)
    (b : BackendConfig) (err : ReductionError) (retry : RetryState) :
    ∀ e ∈ (handleForwardError ctx env attempt b err retry).events,
      e.isQuiet = true ∨ e = .parked b.id (env.wake b) := by
  unfold handleForwardError
  split
  · cases hwake : env.wake b <;> simp [parkForWake, hwake, Event.isQuiet]
  · split <;> simp [Event.isQuiet]

/-- Interpreting an answer sends nothing either; all it may do besides is to park. -/
theorem handleResponse_quiet (ctx : RequestCtx) (env : AttemptEnv) (attempt : Nat) (s : Selected)
    (result : Except ReductionError Response) (reqParts : Parts) (retry : RetryState) :
    ∀ e ∈ (handleResponse ctx env attempt s result reqParts retry).events,
      e.isQuiet = true ∨ e = .parked s.backend.id (env.wake s.backend) := by
  have hdrop := fun e he => isQuiet_of_gate (dropGuards_gate s e he)
  intro e he
  cases result with
  | error err =>
    simp only [handleResponse, events_bind, events_pure, List.append_nil, List.mem_append] at he
    cases he with
    | inl he => exact handleForwardError_quiet ctx env attempt s.backend err retry e he
    | inr he => exact .inl (hdrop e he)
  | ok response =>
    -- no response parks, so all its events are quiet
    left
    have hdeliver := deliverResponse_quiet ctx s response reqParts
    cases hretry : isRetryableStatus response.status with
    | false =>
      simp only [handleResponse, hretry, Bool.false_eq_true, if_false, events_bind, events_pure,
        List.append_nil] at he
      exact hdeliver e he
    | true =>
      by_cases hlast : attempt + 1 < ctx.maxAttempts
      · simp only [handleResponse, hretry, hlast, if_true, events_bind, events_emit, events_pure,
          List.append_nil, List.cons_append, List.nil_append, List.mem_cons] at he
        rcases he with rfl | rfl | he
        · rfl
        · rfl
        · exact hdrop e he
      · simp only [handleResponse, hretry, hlast, if_true, if_false, events_bind, events_emit,
          events_pure, List.append_nil, List.cons_append, List.nil_append, List.mem_cons] at he
        rcases he with rfl | he
        · rfl
        · exact hdeliver e he

/-- A released park leaves the loop where it was. -/
theorem handleResponse_parked {attempt : Nat} {s : Selected}
    {result : Except ReductionError Response} {reqParts : Parts} {id : BackendId}
    (h : .parked id true ∈ (handleResponse ctx env attempt s result reqParts retry).events) :
    (handleResponse ctx env attempt s result reqParts retry).val = (.continue, retry) := by
  have hwake : env.wake s.backend = true := by
    rcases handleResponse_quiet ctx env attempt s result reqParts retry _ h with hquiet | hpark
    · simp [Event.isQuiet] at hquiet
    · simp only [Event.parked.injEq] at hpark
      exact hpark.2.symm
  cases result with
  | ok response =>
    -- no response parks: all its events are quiet
    have hdrop : ¬ Event.parked id true ∈ s.dropGuards.events := fun hmem => by
      simpa [Event.isGate] using dropGuards_gate s _ hmem
    have hdeliver : ¬ Event.parked id true ∈ (deliverResponse ctx s response reqParts).events :=
      fun hmem => by
        simpa [Event.isQuiet] using deliverResponse_quiet ctx s response reqParts _ hmem
    cases hretry : isRetryableStatus response.status <;>
    by_cases hlast : attempt + 1 < ctx.maxAttempts <;>
    simp [handleResponse, hretry, hlast, hdrop, hdeliver] at h
  | error err =>
    cases hcold : (s.backend.wakeable && err.isTransportMiss) with
    | true => simp [handleResponse, handleForwardError, hcold, parkForWake, hwake]
    | false =>
      have hdrop : ¬ Event.parked id true ∈ s.dropGuards.events := fun hmem => by
        simpa [Event.isGate] using dropGuards_gate s _ hmem
      by_cases hlast : attempt + 1 < ctx.maxAttempts <;>
      simp [handleResponse, handleForwardError, hcold, hlast, hdrop] at h

/-! ## The exchange of a forwarding attempt -/

theorem handleResponse_not_exchange (ctx : RequestCtx) (env : AttemptEnv) (attempt : Nat)
    (s : Selected) (result : Except ReductionError Response) (reqParts : Parts)
    (retry : RetryState) :
    ∀ e ∈ (handleResponse ctx env attempt s result reqParts retry).events,
      e.isExchange = false := by
  intro e he
  rcases handleResponse_quiet ctx env attempt s result reqParts retry e he with hquiet | rfl
  · cases e <;> simp [Event.isQuiet, Event.isExchange] at hquiet ⊢
  · rfl

/-- What the trace of an attempt shows that called `forward_request` for `b`: the exchange is that
    of the call, and the outcomes are those of interpreting its result. -/
structure ForwardedTrace (ctx : RequestCtx) (attempt : Nat) (b : BackendConfig) (req : Request)
    (fwd : Traced Event (Except ReductionError Response)) (events : List Event) : Prop where
  forwards : events.filterMap Event.forward? = [(b, req)]
  copies : events.filterMap Event.sent? = fwd.events.filterMap Event.sent?
  outcomes : events.filterMap Event.outcome? = recordedOutcomes ctx attempt b fwd.val
  mem_forward : ∀ b' req', .forward b' req' ∈ events ↔ b' = b ∧ req' = req
  mem_sent : ∀ b' copy timeout, .sent b' copy timeout ∈ events ↔ .sent b' copy timeout ∈ fwd.events
  mem_answered : ∀ b' result, .answered b' result ∈ events ↔ b' = b ∧ result = fwd.val

theorem forwardedTrace (ctx : RequestCtx) (env : AttemptEnv) (attempt : Nat) (remaining : Duration)
    (s : Selected) (req : Request) (reqParts : Parts) (retry : RetryState) {gate : List Event}
    (hgate : ∀ e ∈ gate, e.isGate = true) :
    let fwd := forwardRequest ctx.state env req s.backend remaining ctx.clientIdentity ctx.clientIp
    ForwardedTrace ctx attempt s.backend req fwd
      (gate ++ fwd.events ++ .answered s.backend fwd.val ::
        (handleResponse ctx env attempt s fwd.val reqParts retry).events) := by
  intro fwd
  have hrest := handleResponse_not_exchange ctx env attempt s fwd.val reqParts retry
  generalize hans : handleResponse ctx env attempt s fwd.val reqParts retry = ans at hrest ⊢
  -- neither gating nor interpreting takes part in the exchange
  have hrestView : ∀ {α : Type} {f : Event → Option α},
      (∀ e, e.isExchange = false → f e = none) → ans.events.filterMap f = [] :=
    fun hf => List.filterMap_eq_nil_iff.mpr fun e he => hf e (hrest e he)
  have hmem : ∀ e : Event, e.isExchange = true →
      (e ∈ gate ++ fwd.events ++ .answered s.backend fwd.val :: ans.events ↔
        e ∈ fwd.events ∨ e = .answered s.backend fwd.val) := by
    intro e he
    have hnotGate : e ∉ gate := fun h => by simp [not_isExchange_of_gate (hgate e h)] at he
    have hnotRest : e ∉ ans.events := fun h => by simp [hrest e h] at he
    simp [hnotGate, hnotRest]
  have hfwd := forwardRequest_cases ctx.state env req s.backend remaining ctx.clientIdentity
    ctx.clientIp
  constructor
  · rw [List.filterMap_append, List.filterMap_append, List.filterMap_cons,
      filterMap_gate forward?_of_gate hgate, hrestView forward?_of_not_exchange,
      forwardRequest_forwards]
    rfl
  · rw [List.filterMap_append, List.filterMap_append, List.filterMap_cons,
      filterMap_gate sent?_of_gate hgate, hrestView sent?_of_not_exchange]
    simp [Event.sent?]
  · have hfwdView : fwd.events.filterMap Event.outcome? = [] := by
      rcases hfwd with ⟨e, -, hevents⟩ | ⟨headers, -, copy, -, hevents, -⟩ <;>
      simp [fwd, hevents, Event.outcome?]
    rw [List.filterMap_append, List.filterMap_append, List.filterMap_cons,
      filterMap_gate outcome?_of_gate hgate, hfwdView, ← hans, handleResponse_outcomes]
    rfl
  · intro b' req'
    rw [hmem _ rfl]
    rcases hfwd with ⟨e, -, hevents⟩ | ⟨headers, -, copy, -, hevents, -⟩ <;>
    simp [fwd, hevents]
  · intro b' copy timeout
    rw [hmem _ rfl]
    simp
  · intro b' result
    rw [hmem _ rfl]
    rcases hfwd with ⟨e, -, hevents⟩ | ⟨headers, -, copy, -, hevents, -⟩ <;>
    simp [fwd, hevents]

/-! ## The attempt as a whole -/

/-- The four things that an attempt, run from `replay` and `retry`, can do. -/
inductive AttemptCase (ctx : RequestCtx) (env : AttemptEnv) (attempt : Nat) (remaining : Duration)
    (replay : ReplayBody) (retry : RetryState)
    (run : Traced Event (AttemptOutcome × ReplayBody × RetryState)) : Prop
  | noBackend (e : ReductionError)
      (hsel : selectBackend ctx.pool ctx.clientIp env retry.failedBackends = .error e)
      (hgate : ∀ e ∈ run.events, e.isGate = true)
      (hval : run.val = (.break, replay, { retry with lastErrorMsg := some e.display }))
  | skipped (b : BackendConfig) (msg : String)
      (hsel : selectBackend ctx.pool ctx.clientIp env retry.failedBackends = .ok b)
      (hadm : env.admits b = false)
      (hgate : ∀ e ∈ run.events, e.isGate = true)
      (hval : run.val = (.continue, replay, retry.skip b msg))
  | consumed (b : BackendConfig)
      (hsel : selectBackend ctx.pool ctx.clientIp env retry.failedBackends = .ok b)
      (hadm : env.admits b = true)
      (hreq : buildRetryReq replay = (none, replay))
      (hgate : ∀ e ∈ run.events, e.isGate = true)
      (hval : run.val = (.break, replay, retry))
  | forwarded (b : BackendConfig) (req : Request) (replay' : ReplayBody)
      (fwd : Traced Event (Except ReductionError Response))
      (answer : Traced Event (AttemptOutcome × RetryState))
      (hsel : selectBackend ctx.pool ctx.clientIp env retry.failedBackends = .ok b)
      (hadm : env.admits b = true)
      (hreq : buildRetryReq replay = (some req, replay'))
      (hfwd : fwd =
        forwardRequest ctx.state env req b remaining ctx.clientIdentity ctx.clientIp)
      (hanswer : answer = handleResponse ctx env attempt
        { backend := b, halfOpen := env.guardFor b } fwd.val replay'.reqParts retry)
      (htrace : ForwardedTrace ctx attempt b req fwd run.events)
      (hrest : ∀ e ∈ run.events, e.isGate = false → e.isExchange = false → e ∈ answer.events)
      (hval : run.val = (answer.val.1, replay', answer.val.2))

variable {replay replay' : ReplayBody}

theorem buildRetryReq_none (h : buildRetryReq replay = (none, replay')) : replay' = replay := by
  unfold buildRetryReq at h
  cases hbytes : replay.bodyBytes with
  | some bytes => simp [hbytes] at h
  | none =>
    cases hbody : replay.streamingBody with
    | some body => simp [hbytes, hbody] at h
    | none =>
      simp only [hbytes, hbody, Prod.mk.injEq, true_and] at h
      exact h.symm

/-- The trace of a forwarding attempt: the gate, the call, its result, and the interpretation. -/
theorem runAttempt_events_forwarded (attempt : Nat) (remaining : Duration) {req : Request}
    (hsel : selectBackend ctx.pool ctx.clientIp env retry.failedBackends = .ok b)
    (hadm : env.admits b = true) (hreq : buildRetryReq replay = (some req, replay')) :
    let fwd := forwardRequest ctx.state env req b remaining ctx.clientIdentity ctx.clientIp
    (runAttempt ctx env attempt remaining replay retry).events =
      (selectAndGate ctx env retry).events ++ fwd.events ++ .answered b fwd.val ::
        (handleResponse ctx env attempt { backend := b, halfOpen := env.guardFor b } fwd.val
          replay'.reqParts retry).events := by
  simp [runAttempt, selectAndGate_of_admits hsel hadm, hreq]

theorem runAttempt_case (ctx : RequestCtx) (env : AttemptEnv) (attempt : Nat) (remaining : Duration)
    (replay : ReplayBody) (retry : RetryState) :
    AttemptCase ctx env attempt remaining replay retry
      (runAttempt ctx env attempt remaining replay retry) := by
  have hgate := selectAndGate_gate ctx env retry
  cases hsel : selectBackend ctx.pool ctx.clientIp env retry.failedBackends with
  | error e =>
    have hval := selectAndGate_of_error hsel
    apply AttemptCase.noBackend e hsel
    · simpa [runAttempt, hval] using hgate
    · simp [runAttempt, hval]
  | ok b =>
    cases hadm : env.admits b with
    | false =>
      obtain ⟨msg, hval⟩ := selectAndGate_of_not_admits hsel hadm
      apply AttemptCase.skipped b msg hsel hadm
      · simpa [runAttempt, hval] using hgate
      · simp [runAttempt, hval]
    | true =>
      have hval := selectAndGate_of_admits hsel hadm
      -- past the gate it depends on whether there is a body left to send
      rcases hreq : buildRetryReq replay with ⟨_ | req, replay'⟩
      · obtain rfl := buildRetryReq_none hreq
        apply AttemptCase.consumed b hsel hadm hreq
        · intro e he
          simp only [runAttempt, events_bind, hval, hreq, events_pure, List.append_nil,
            List.mem_append] at he
          cases he with
          | inl he => exact hgate e he
          | inr he => exact dropGuards_gate _ e he
        · simp [runAttempt, hval, hreq]
      · have hevents := runAttempt_events_forwarded attempt remaining hsel hadm hreq
        apply AttemptCase.forwarded b req replay' _ _ hsel hadm hreq rfl rfl
        · rw [hevents]
          exact forwardedTrace ctx env attempt remaining
            { backend := b, halfOpen := env.guardFor b } req replay'.reqParts retry hgate
        · -- all that is neither gating nor exchange happens when the answer is interpreted
          intro e hmem hnotGate hnotExchange
          rw [hevents, List.mem_append, List.mem_append, List.mem_cons] at hmem
          rcases hmem with (hmem | hmem) | rfl | hmem
          · rw [hgate e hmem] at hnotGate
            cases hnotGate
          · rcases forwardRequest_cases ctx.state env req b remaining ctx.clientIdentity
              ctx.clientIp with ⟨err, -, hfwd⟩ | ⟨headers, -, copy, -, hfwd, -⟩ <;>
            simp only [hfwd, List.mem_cons, List.not_mem_nil, or_false] at hmem
            · rw [hmem] at hnotExchange
              cases hnotExchange
            · rcases hmem with rfl | rfl <;> cases hnotExchange
          · cases hnotExchange
          · exact hmem
        · simp [runAttempt, hval, hreq]

end Reduction
