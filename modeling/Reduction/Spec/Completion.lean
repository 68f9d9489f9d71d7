import Reduction.Spec.CachePolicy

/-!
# Completion accounting

Every request that gets past the cache is recorded once, by `record_completion`,
at one of ten places.  Most of them record the status of the response that they
return; three do not.  `route_and_admit` records a 404 for a route without a pool
and returns a 502.  `store_and_respond` records the backend's status also when its
body cannot be read, and returns a 502.  And wherever a response is compressed,
the status was recorded before the encoder could fail, which makes it a 500.

- `Accounted.append`: completions of one part of a run after another
- `handleResponse_accounted`, `runAttempt_accounted`: one attempt
- `retryLoop_accounted`: the loop
- `completed_as_returned_iff`: the runs in which it is that of the response
-/

namespace Reduction

open Http Traced

/-! ## Completions -/

namespace Event

/-- A completion, by its status. -/
def completion? : Event → Option StatusCode
  | .completed status _ => some status
  | _ => none

theorem completion?_of_gate (e : Event) (h : e.isGate = true) : e.completion? = none := by
  cases e <;> simp [isGate, completion?] at h ⊢

theorem completion?_of_exchange (e : Event) (h : e.isExchange = true) : e.completion? = none := by
  cases e <;> simp [isExchange, completion?] at h ⊢

end Event

/-- The completions among events. -/
def completions (es : List Event) : List StatusCode := es.filterMap Event.completion?

/-- The completions that a run records. -/
def HandlerRun.completions (run : HandlerRun) : List StatusCode := Reduction.completions run.events

theorem completions_append (es es' : List Event) :
    completions (es ++ es') = completions es ++ completions es' := List.filterMap_append

@[simp]
theorem completions_nil : completions [] = [] := rfl

@[simp]
theorem completions_cons (e : Event) (es : List Event) :
    completions (e :: es) = e.completion?.toList ++ completions es := by
  cases h : e.completion? <;> simp [completions, h]

section

variable {es : List Event} {response : Option Response} {state : ProxyState} {env : HandlerEnv}
  {req : Request}

theorem completions_gate (h : ∀ e ∈ es, e.isGate = true) : completions es = [] :=
  filterMap_gate Event.completion?_of_gate h

theorem completions_exchange (h : ∀ e ∈ es, e.isExchange = true) : completions es = [] := by
  rw [completions, List.filterMap_eq_nil_iff]
  intro e he
  exact Event.completion?_of_exchange e (h e he)

theorem completions_dropGuards (s : Selected) : completions s.dropGuards.events = [] :=
  completions_gate (dropGuards_gate s)

/-- How a part of a run accounts for the response it ends the request with, if it does: it records
    one completion, and that of the response under the given condition only. -/
def Accounted (es : List Event) (faithful : Prop) : Option Response → Prop
  | none => completions es = [] ∧ faithful
  | some response =>
    ∃ status, completions es = [status] ∧ (status = response.status ↔ faithful)

theorem Accounted.append {es' : List Event} {first rest : Prop} (h : Accounted es first none)
    (h' : Accounted es' rest response) : Accounted (es ++ es') (first ∧ rest) response := by
  obtain ⟨hnone, hfirst⟩ := h
  cases response with
  | none =>
    obtain ⟨hnone', hrest⟩ := h'
    refine ⟨?_, hfirst, hrest⟩
    rw [completions_append, hnone, hnone']
    rfl
  | some response =>
    obtain ⟨status, hone, hstatus⟩ := h'
    refine ⟨status, ?_, ?_⟩
    · rw [completions_append, hnone, hone]
      rfl
    · rw [hstatus]
      exact ⟨fun hrest => ⟨hfirst, hrest⟩, fun hboth => hboth.2⟩

theorem Accounted.congr {p q : Prop} (hpq : p ↔ q) (h : Accounted es p response) :
    Accounted es q response := by
  rwa [← propext hpq]

/-! ## Compression -/

/-- The length that a response declares, if it does, is at least the configured minimum. -/
def LongEnough (response : Response) (minBytes : UInt32) : Prop :=
  ∀ len, ((response.headers.get contentLength).bind HeaderValue.toStr?).bind
    (Bytes.parseUnsigned 32) = some len → minBytes.toNat ≤ len

/-- An encoder is needed for the response, and cannot be set up. -/
structure EncoderFails (zstd : Zstd) (response : Response) (acceptsZstd : Bool)
    (directives : CacheDirectives) (config : CompressionConfig) : Prop where
  eligible : (config.enabled && acceptsZstd && !responseIsEncoded response &&
    response.status ≠ .partialContent && !directives.noTransform) = true
  long : LongEnough response config.minBytes
  fails : zstd.withLevel response.body config.level = none

theorem compressResponse_status (zstd : Zstd) (response : Response) (minBytes : UInt32)
    (level : Int) :
    (compressResponse zstd response minBytes level).status = response.status ↔
      (LongEnough response minBytes → zstd.withLevel response.body level = none →
        response.status = .internalServerError) := by
  have hcompress : (compressResponse.compress zstd response level).status = response.status ↔
      (zstd.withLevel response.body level = none → response.status = .internalServerError) := by
    unfold compressResponse.compress
    cases zstd.withLevel response.body level with
    | none => simp [errorResponse, eq_comm]
    | some body => simp
  unfold compressResponse LongEnough
  dsimp only
  cases ((response.headers.get contentLength).bind HeaderValue.toStr?).bind
      (Bytes.parseUnsigned 32) with
  | none => simpa using hcompress
  | some len =>
    by_cases hshort : len < minBytes.toNat
    · have hnot : ¬ minBytes.toNat ≤ len := by omega
      simp [hshort, hnot]
    · have hle : minBytes.toNat ≤ len := by omega
      simpa [hshort, hle] using hcompress

/-- Compression keeps the status, unless the encoder cannot be set up. -/
theorem maybeCompress_status (zstd : Zstd) (response : Response) (acceptsZstd : Bool)
    (directives : CacheDirectives) (config : CompressionConfig) :
    (maybeCompress zstd response acceptsZstd directives config).status = response.status ↔
      (EncoderFails zstd response acceptsZstd directives config →
        response.status = .internalServerError) := by
  unfold maybeCompress
  split
  · rename_i heligible
    rw [compressResponse_status]
    exact ⟨fun h hfails => h hfails.long hfails.fails, fun h hlong hfails => h ⟨heligible, hlong,
      hfails⟩⟩
  · rename_i heligible
    exact ⟨fun _ hfails => absurd hfails.eligible heligible, fun _ => rfl⟩

/-! ## Delivery -/

/-- The response is handed on with its own status: the body of one that is stored can be read, and
    no encoder fails, but for a response that is a 500 already. -/
def Deliverable (ctx : RequestCtx) (response : Response) : Prop :=
  let directives := CacheDirectives.fromResponse response.headers
  if shouldCacheResponse ctx response response.status directives then
    ∃ bytes, response.body.collect = .ok bytes ∧
      ¬ EncoderFails ctx.state.zstd { response with body := .ofBytes bytes } ctx.acceptsZstd
        directives ctx.state.compressionConfig
  else
    EncoderFails ctx.state.zstd response ctx.acceptsZstd directives ctx.state.compressionConfig →
      response.status = .internalServerError

/-- The response that an attempt ends the request with. -/
def AttemptOutcome.response? : AttemptOutcome → Option Response
  | .return response => some response
  | .stream response _ _ => some response
  | _ => none

variable (ctx : RequestCtx)

theorem storeAndRespond_accounted (response : Response) (directives : CacheDirectives)
    (reqParts : Parts) (hok : response.status = .ok) :
    Accounted (storeAndRespond ctx response response.status directives reqParts).events
      (∃ bytes, response.body.collect = .ok bytes ∧
        ¬ EncoderFails ctx.state.zstd { response with body := .ofBytes bytes } ctx.acceptsZstd
          directives ctx.state.compressionConfig)
      (storeAndRespond ctx response response.status directives reqParts).val.response? := by
  unfold storeAndRespond
  cases hbody : response.body.collect with
  | error e =>
    refine ⟨response.status, rfl, ?_⟩
    rw [hok]
    simp [errorResponse]
    decide
  | ok bytes =>
    refine ⟨response.status, rfl, ?_⟩
    have hstatus := maybeCompress_status ctx.state.zstd { response with body := .ofBytes bytes }
      ctx.acceptsZstd directives ctx.state.compressionConfig
    have hne : response.status ≠ .internalServerError := by rw [hok]; decide
    simp only [hne, imp_false] at hstatus
    rw [eq_comm]
    simpa using hstatus

/-- Events without a completion before and after a part of a run change nothing. -/
theorem Accounted.between {p : Prop} (h : Accounted es p response) (before after : List Event)
    (hbefore : completions before = []) (hafter : completions after = []) :
    Accounted (before ++ es ++ after) p response := by
  have hes : completions (before ++ es ++ after) = completions es := by
    rw [completions_append, completions_append, hbefore, hafter, List.append_nil, List.nil_append]
  cases response with
  | none => exact ⟨hes.trans h.1, h.2⟩
  | some response =>
    obtain ⟨status, hone, hstatus⟩ := h
    exact ⟨status, hes.trans hone, hstatus⟩

theorem deliverResponse_accounted (s : Selected) (response : Response) (reqParts : Parts) :
    Accounted (deliverResponse ctx s response reqParts).events (Deliverable ctx response)
      (deliverResponse ctx s response reqParts).val.response? := by
  let directives := CacheDirectives.fromResponse response.headers
  let record : Event := if response.status.isServerError then .recordFailure s.backend.id
    else .recordSuccess s.backend.id
  have hrecord : completions [record] = [] := by
    unfold record
    split <;> rfl
  cases hcache : shouldCacheResponse ctx response response.status directives with
  | true =>
    -- only a 200 is stored
    have hok : response.status = .ok := by
      simp only [shouldCacheResponse, isCacheableStatus, Bool.and_eq_true, decide_eq_true_eq]
        at hcache
      exact hcache.1.1.1.2
    have hstore := storeAndRespond_accounted ctx response directives reqParts hok
    have hbetween := hstore.between _ _ hrecord (completions_dropGuards s)
    have hevents : (deliverResponse ctx s response reqParts).events = [record] ++
        (storeAndRespond ctx response response.status directives reqParts).events ++
          s.dropGuards.events := by
      cases hserver : response.status.isServerError <;>
      simp [deliverResponse, hserver, record, hcache, directives]
    have hval : (deliverResponse ctx s response reqParts).val =
        (storeAndRespond ctx response response.status directives reqParts).val := by
      cases hserver : response.status.isServerError <;>
      simp [deliverResponse, hserver, hcache, directives]
    have hfaithful : Deliverable ctx response ↔ ∃ bytes, response.body.collect = .ok bytes ∧
        ¬ EncoderFails ctx.state.zstd { response with body := .ofBytes bytes } ctx.acceptsZstd
          directives ctx.state.compressionConfig := by
      simp [Deliverable, hcache, directives]
    rw [hevents, hval]
    exact hbetween.congr hfaithful.symm
  | false =>
    have hevents : (deliverResponse ctx s response reqParts).events =
        [record, .completed response.status ctx.backendId.bytes] := by
      cases hserver : response.status.isServerError <;>
      simp [deliverResponse, hserver, record, hcache, directives]
    have hval : (deliverResponse ctx s response reqParts).val.response? =
        some (maybeCompress ctx.state.zstd response ctx.acceptsZstd directives
          ctx.state.compressionConfig) := by
      cases hserver : response.status.isServerError <;>
      simp [deliverResponse, hserver, hcache, directives, AttemptOutcome.response?]
    have hfaithful : Deliverable ctx response ↔ (EncoderFails ctx.state.zstd response
        ctx.acceptsZstd directives ctx.state.compressionConfig →
          response.status = .internalServerError) := by
      simp [Deliverable, hcache, directives]
    rw [hevents, hval, hfaithful.eq, ← maybeCompress_status]
    refine ⟨response.status, ?_, eq_comm⟩
    have hone := completions_append [record] [.completed response.status ctx.backendId.bytes]
    rw [hrecord] at hone
    exact hone

/-! ## One attempt -/

/-- The attempt hands this response to the client: it is not one to retry, or no attempt is left. -/
def Delivers (ctx : RequestCtx) (attempt : Nat) (response : Response) : Prop :=
  isRetryableStatus response.status = true → ctx.maxAttempts ≤ attempt + 1

/-- Whatever response the attempt hands to the client keeps its status. -/
def Faithful (ctx : RequestCtx) (attempt : Nat) (result : Except ReductionError Response) : Prop :=
  ∀ response, result = .ok response → Delivers ctx attempt response → Deliverable ctx response

theorem wakeTimeoutResponse_status (wakeSecs : UInt64) :
    (wakeTimeoutResponse wakeSecs).status = .serviceUnavailable := by
  unfold wakeTimeoutResponse
  dsimp only
  split <;> rfl

theorem handleForwardError_accounted (env : AttemptEnv) (attempt : Nat) (b : BackendConfig)
    (e : ReductionError) (retry : RetryState) :
    Accounted (handleForwardError ctx env attempt b e retry).events True
      (handleForwardError ctx env attempt b e retry).val.1.response? := by
  cases hcold : (b.wakeable && e.isTransportMiss) with
  | true =>
    cases hwake : env.wake b <;>
    simp [handleForwardError, hcold, parkForWake, hwake, AttemptOutcome.response?, Accounted,
      Event.completion?, wakeTimeoutResponse_status]
  | false =>
    by_cases hlast : attempt + 1 < ctx.maxAttempts <;>
    simp [handleForwardError, hcold, hlast, AttemptOutcome.response?, Accounted, Event.completion?,
      errorResponse]

theorem handleResponse_accounted (env : AttemptEnv) (attempt : Nat) (s : Selected)
    (result : Except ReductionError Response) (reqParts : Parts) (retry : RetryState) :
    Accounted (handleResponse ctx env attempt s result reqParts retry).events
      (Faithful ctx attempt result)
      (handleResponse ctx env attempt s result reqParts retry).val.1.response? := by
  cases result with
  | error e =>
    have herror := handleForwardError_accounted ctx env attempt s.backend e retry
    have hbetween := herror.between [] _ rfl (completions_dropGuards s)
    have hfaithful : Faithful ctx attempt (.error e) ↔ True := by simp [Faithful]
    simpa [handleResponse] using hbetween.congr hfaithful.symm
  | ok response =>
    have hdeliver := deliverResponse_accounted ctx s response reqParts
    cases hretry : isRetryableStatus response.status with
    | false =>
      have hfaithful : Faithful ctx attempt (.ok response) ↔ Deliverable ctx response := by
        simp [Faithful, Delivers, hretry]
      simpa [handleResponse, hretry] using hdeliver.congr hfaithful.symm
    | true =>
      by_cases hlast : attempt + 1 < ctx.maxAttempts
      · -- the response is kept for the end of the loop
        have hnot : ¬ ctx.maxAttempts ≤ attempt + 1 := by omega
        simp [handleResponse, hretry, hlast, AttemptOutcome.response?, Accounted, Event.completion?,
          completions_dropGuards, Faithful, Delivers, hnot]
      · have hle : ctx.maxAttempts ≤ attempt + 1 := by omega
        have hfaithful : Faithful ctx attempt (.ok response) ↔ Deliverable ctx response := by
          simp [Faithful, Delivers, hle]
        have hbetween := (hdeliver.congr hfaithful.symm).between [.recordFailure s.backend.id] []
          rfl rfl
        simpa [handleResponse, hretry, hlast] using hbetween

theorem runAttempt_accounted (env : AttemptEnv) (attempt : Nat) (remaining : Duration)
    (replay : ReplayBody) (retry : RetryState) :
    let run := runAttempt ctx env attempt remaining replay retry
    Accounted run.events (∀ b result, .answered b result ∈ run.events → Faithful ctx attempt result)
      run.val.1.response? := by
  intro run
  -- an attempt that is not forwarded leaves gate events only, and ends no request
  have hidle : (∀ e ∈ run.events, e.isGate = true) → run.val.1.response? = none →
      Accounted run.events (∀ b result, .answered b result ∈ run.events →
        Faithful ctx attempt result) run.val.1.response? := by
    intro hgate hnone
    rw [hnone]
    refine ⟨completions_gate hgate, ?_⟩
    intro b result hmem
    cases hgate _ hmem
  cases runAttempt_case ctx env attempt remaining replay retry with
  | noBackend e hsel hgate hval => exact hidle hgate (by rw [hval]; rfl)
  | skipped b msg hsel hadm hgate hval => exact hidle hgate (by rw [hval]; rfl)
  | consumed b hsel hadm hreq hgate hval => exact hidle hgate (by rw [hval]; rfl)
  | forwarded b req replay' fwd answer hsel hadm hreq hfwd hanswer htrace hrest hval =>
    have hevents := runAttempt_events_forwarded attempt remaining hsel hadm hreq
    dsimp only at hevents
    rw [← hfwd, ← hanswer] at hevents
    have haccounted := handleResponse_accounted ctx env attempt
      { backend := b, halfOpen := env.guardFor b } fwd.val replay'.reqParts retry
    rw [← hanswer] at haccounted
    have hfaithful : (∀ b' result, .answered b' result ∈ run.events →
        Faithful ctx attempt result) ↔ Faithful ctx attempt fwd.val := by
      constructor
      · intro h
        exact h b fwd.val ((htrace.mem_answered b fwd.val).mpr ⟨rfl, rfl⟩)
      · intro h b' result hmem
        rw [((htrace.mem_answered b' result).mp hmem).2]
        exact h
    have hexchange : completions fwd.events = [] := by
      rw [hfwd]
      apply completions_exchange
      rcases forwardRequest_cases ctx.state env req b remaining ctx.clientIdentity ctx.clientIp with
        ⟨err, -, hcall⟩ | ⟨headers, -, copy, -, hcall, -⟩ <;>
      simp [hcall, Event.isExchange]
    have hbefore : completions ((selectAndGate ctx env retry).events ++ fwd.events ++
        [.answered b fwd.val]) = [] := by
      rw [completions_append, completions_append,
        completions_gate (selectAndGate_gate ctx env retry), hexchange]
      rfl
    have hbetween := (haccounted.congr hfaithful.symm).between _ [] hbefore rfl
    rw [List.append_nil, List.append_assoc, List.singleton_append, ← hevents] at hbetween
    rw [hval]
    exact hbetween

/-! ## The loop -/

/-- The response that the loop ends the request with. -/
def LoopEnd.response? : LoopEnd → Option Response
  | .exhausted _ => none
  | .returned response => some response
  | .streamed response _ _ => some response

/-- Whatever response an attempt hands to the client keeps its status. -/
def FaithfulAttempts (ctx : RequestCtx) (logs : List AttemptLog) : Prop :=
  ∀ log ∈ logs, ∀ b result, .answered b result ∈ log.events → Faithful ctx log.attempt result

theorem retryLoop_accounted (env : Nat → AttemptEnv) (deadline : Instant) (budget : Duration)
    (left attempt : Nat) (replay : ReplayBody) (retry : RetryState) :
    let loop := retryLoop ctx env deadline budget left attempt replay retry
    Accounted (loop.1.flatMap AttemptLog.events) (FaithfulAttempts ctx loop.1)
      loop.2.response? := by
  induction left generalizing attempt replay retry with
  | zero => simp [retryLoop, LoopEnd.response?, Accounted, FaithfulAttempts]
  | succ left ih =>
    rw [retryLoop]
    cases hbudget : remainingBudget deadline budget (env attempt).now with
    | none => simp [LoopEnd.response?, Accounted, FaithfulAttempts]
    | some remaining =>
      have hattempt := runAttempt_accounted ctx (env attempt) attempt remaining replay retry
      dsimp only at hattempt ⊢
      rcases hrun : (runAttempt ctx (env attempt) attempt remaining replay retry).val with
        ⟨_ | _ | response | ⟨response, conn, halfOpen⟩, replay', retry'⟩ <;>
      rw [hrun] at hattempt
      · -- an attempt that continues has recorded nothing, so the completion is that of the rest
        have hrest := ih (attempt + 1) replay' retry'
        have hboth := Accounted.append hattempt hrest
        refine Accounted.congr ?_ hboth
        simp [FaithfulAttempts]
      all_goals
        simp only [List.flatMap_cons, List.flatMap_nil, List.append_nil]
        refine Accounted.congr ?_ hattempt
        simp [FaithfulAttempts]

/-! ## Before the loop -/

/-- The response that ends the request early. -/
def earlyEnd {α : Type} : Except Response α → Option Response
  | .error response => some response
  | .ok _ => none

theorem negotiateCache_completions (state : ProxyState) (env : HandlerEnv) (req : Request)
    (identity : Option PeerIdentity) :
    completions (negotiateCache state env req identity).events = [] := by
  simp only [negotiateCache, tryServeFromCache, events_bind]
  split <;> split <;> simp [Event.completion?]

/-- The pool of the route that the path matches, if it matches one, exists. -/
def PoolExists (env : HandlerEnv) (path : Bytes) : Prop :=
  ∀ m, env.matchRoute path = some m → (env.backendPools m.backendId).isSome = true

theorem routeAndAdmit_accounted (state : ProxyState) (env : HandlerEnv) (path : Bytes) :
    Accounted (routeAndAdmit state env path).events (PoolExists env path)
      (earlyEnd (routeAndAdmit state env path).val) := by
  unfold routeAndAdmit resolveBackendPool PoolExists
  cases hroute : env.matchRoute path with
  | none => simp [earlyEnd, Accounted, Event.completion?, errorResponse]
  | some m =>
    cases hpool : env.backendPools m.backendId with
    -- recorded as 404 and answered with 502
    | none => simp [earlyEnd, Accounted, Event.completion?, errorResponse, hpool]; decide
    | some pool =>
      cases hfull : env.queueFull m.backendId <;>
      simp [earlyEnd, Accounted, Event.completion?, errorResponse, hpool, hfull]

theorem bufferForReplay_accounted (state : ProxyState) (req : Request) (id : BackendId) :
    Accounted (bufferForReplay state req id).events True
      (earlyEnd (bufferForReplay state req id).val) := by
  unfold bufferForReplay
  dsimp only
  split
  · cases bufferRequestBody req.body state.proxyConfig.maxRequestBodyBytes <;>
    simp [earlyEnd, Accounted, Event.completion?, errorResponse]
  · simp [earlyEnd, Accounted]

theorem prepareReplayBody_accounted (state : ProxyState) (env : HandlerEnv) (req : Request)
    (requestIsZstd : Bool) (id : BackendId) :
    Accounted (prepareReplayBody state env req requestIsZstd id).events True
      (earlyEnd (prepareReplayBody state env req requestIsZstd id).val) := by
  unfold prepareReplayBody
  split
  · cases decompressRequest state env req with
    | error response => simp [earlyEnd, Accounted, Event.completion?]
    | ok req' => exact bufferForReplay_accounted state req' id
  · exact bufferForReplay_accounted state req id

/-- A request that was admitted and not answered from the cache. -/
def PastCache (state : ProxyState) (env : HandlerEnv) (req : Request) : Prop :=
  ∃ clientIp identity neg, admitClient env = .ok (clientIp, identity) ∧
    rejectBeforeRouting state env clientIp identity = none ∧
    (negotiateCache state env req identity).val = .ok neg

theorem prologue_accounted (h : PastCache state env req) :
    Accounted (prologue state env req).events (PoolExists env req.parts.path)
      (earlyEnd (prologue state env req).val) := by
  obtain ⟨clientIp, identity, neg, hadmitted, hpassed, hmissed⟩ := h
  have hcache := negotiateCache_completions state env req identity
  have hroute := routeAndAdmit_accounted state env req.parts.path
  cases hrouted : (routeAndAdmit state env req.parts.path).val with
  | error response =>
    rw [hrouted] at hroute
    have hbetween := hroute.between _ [] hcache rfl
    simpa [prologue, hadmitted, hpassed, hmissed, hrouted, earlyEnd] using hbetween
  | ok info =>
    rw [hrouted] at hroute
    have hbody := prepareReplayBody_accounted state env req neg.requestIsZstd info.backendId
    have hboth := (Accounted.append hroute hbody).between _ [] hcache rfl
    have hfaithful : PoolExists env req.parts.path ∧ True ↔ PoolExists env req.parts.path := by simp
    have hall := hboth.congr hfaithful
    cases hprepared : (prepareReplayBody state env req neg.requestIsZstd info.backendId).val with
    | error response =>
      rw [hprepared] at hall
      simpa [prologue, hadmitted, hpassed, hmissed, hrouted, hprepared, earlyEnd] using hall
    | ok prepared =>
      rw [hprepared] at hall
      simpa [prologue, hadmitted, hpassed, hmissed, hrouted, hprepared, earlyEnd] using hall

/-! ## The run -/

/-- A part of a run that records the response that it makes itself. -/
theorem accounted_completed (response : Response) (backend : Bytes) :
    Accounted [.completed response.status backend] True (some response) :=
  ⟨response.status, rfl, by simp⟩

theorem proxyHandler_accounted (h : PastCache state env req) :
    Accounted (proxyHandler state env req).events
      (PoolExists env req.parts.path ∧ ∀ p, (prologue state env req).val = .ok p →
        FaithfulAttempts p.ctx (proxyHandler state env req).attempts)
      (some (proxyHandler state env req).response) := by
  have hpro := prologue_accounted h
  cases hval : (prologue state env req).val with
  | error response =>
    rw [hval, earlyEnd] at hpro
    simpa [HandlerRun.events, proxyHandler, hval] using hpro
  | ok p =>
    rw [hval] at hpro
    have hloop := retryLoop_accounted p.ctx env.attempts (env.start + p.requestTimeout)
      (Duration.fromSecs p.ctx.state.timeouts.connectSecs.val.toNat) p.ctx.maxAttempts 0 p.replay
      .new
    have hboth : Accounted ((prologue state env req).events ++
        (p.loop env).1.flatMap AttemptLog.events) (PoolExists env req.parts.path ∧
          FaithfulAttempts p.ctx (p.loop env).1) (p.loop env).2.response? :=
      Accounted.append hpro hloop
    have hfaithful : (∀ q, Except.ok p = (.ok q : Except Response Prepared) →
        FaithfulAttempts q.ctx (proxyHandler state env req).attempts) ↔
        FaithfulAttempts p.ctx (p.loop env).1 := by
      rw [proxyHandler_attempts_of_ok hval]
      simp
    rw [hfaithful]
    rcases hloopEnd : p.loop env with ⟨logs, retry | response | ⟨response, conn, halfOpen⟩⟩ <;>
    rw [hloopEnd] at hboth
    · -- the loop has recorded nothing, and the handler makes the response itself
      cases hlast : retry.lastResponse with
      | some response =>
        have hall := Accounted.append hboth
          (accounted_completed response p.ctx.backendId.bytes)
        simpa [HandlerRun.events, proxyHandler, hval, hloopEnd, hlast] using hall
      | none =>
        have hall := Accounted.append hboth (accounted_completed
          (errorResponse .badGateway "backend error") p.ctx.backendId.bytes)
        simpa [HandlerRun.events, proxyHandler, hval, hloopEnd, hlast, errorResponse] using hall
    · rw [LoopEnd.response?] at hboth
      simpa [HandlerRun.events, proxyHandler, hval, hloopEnd] using hboth
    · rw [LoopEnd.response?] at hboth
      simpa [HandlerRun.events, proxyHandler, hval, hloopEnd] using hboth

/-- The one completion has the status of the response exactly if the route has a pool, and every
    backend response that is handed to the client can be handed on. -/
theorem completed_as_returned_iff {state : ProxyState} {env : HandlerEnv} {req : Request}
    (h : PastCache state env req) :
    (proxyHandler state env req).completions = [(proxyHandler state env req).response.status] ↔
      PoolExists env req.parts.path ∧ ∀ p, (prologue state env req).val = .ok p →
        FaithfulAttempts p.ctx (proxyHandler state env req).attempts := by
  obtain ⟨status, hone, hstatus⟩ := proxyHandler_accounted h
  rw [← hstatus, HandlerRun.completions, hone, List.singleton_inj]

end

namespace Sample

/-- Neither compression nor the cache of the sample proxy is switched on. -/
theorem faithful (maxRetries : UInt32) (pool : BackendPool) (attempts : Nat → AttemptEnv)
    (req : Request) (p : Prepared)
    (hp : (prologue (state maxRetries) (env pool attempts) req).val = .ok p)
    (logs : List AttemptLog) : FaithfulAttempts p.ctx logs := by
  have hstate := (prologue_ok hp).state_eq
  intro log _ b result _ response _ _
  have hcache : shouldCacheResponse p.ctx response response.status
      (.fromResponse response.headers) = false := by
    simp [shouldCacheResponse, hstate, state]
  simp only [Deliverable, hcache, Bool.false_eq_true, if_false]
  intro hfails
  have heligible := hfails.eligible
  simp [hstate, state] at heligible

/-- A proxy that compresses, with an encoder that cannot be set up. -/
def compressing : ProxyState :=
  { state 0 with
    compressionConfig := { enabled := true, minBytes := 0, level := 3 }
    zstd := { withLevel := fun _ _ => none, decompressBounded := fun b _ => some b } }

/-- The backend breaks off in the middle of a response that may be stored. -/
def breakingOff : HandlerEnv :=
  env twoBackends fun _ =>
    { attempt .ok with
      send := fun _ _ _ =>
        .ok { status := .ok, headers := [publicLine], body := ⟨Bytes.ascii "hel", .failed⟩ } }

end Sample

theorem plain_get_completed_as_returned :
    PastCache (Sample.state 1) (Sample.answering .ok) (Sample.request .get []) ∧
    (proxyHandler (Sample.state 1) (Sample.answering .ok) (Sample.request .get [])).completions =
      [(proxyHandler (Sample.state 1) (Sample.answering .ok)
        (Sample.request .get [])).response.status] := by
  have hpast : PastCache (Sample.state 1) (Sample.answering .ok) (Sample.request .get []) :=
    ⟨_, _, _, rfl, rfl, rfl⟩
  refine ⟨hpast, (completed_as_returned_iff hpast).mpr ⟨fun _ _ => rfl, fun p hp => ?_⟩⟩
  exact Sample.faithful 1 Sample.twoBackends _ _ p hp _

/-- The three ways in which the recorded status is not the returned one: a route without a pool, a
    stored body that fails, and an encoder that cannot be set up. -/
theorem completion_differs :
    let noPool := proxyHandler (Sample.state 1)
      { Sample.answering .ok with backendPools := fun _ => none } (Sample.request .get [])
    let broken := proxyHandler Sample.caching Sample.breakingOff (Sample.request .get [])
    let encoder := proxyHandler Sample.compressing (Sample.answering .ok)
      (Sample.request .get [(acceptEncoding, .lit "zstd" (by decide))])
    (noPool.completions = [.notFound] ∧ noPool.response.status = .badGateway) ∧
    (broken.completions = [.ok] ∧ broken.response.status = .badGateway) ∧
    (encoder.completions = [.ok] ∧ encoder.response.status = .internalServerError) := by
  decide +kernel

end Reduction
