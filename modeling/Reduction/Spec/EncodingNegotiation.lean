import Reduction.Spec.Completion

/-!
# Which clients get zstd

The handler looks for the text `zstd` in the first `Accept-Encoding` line of a
request, and compresses what it serves from the cache or forwards if it is there.
Here is what the client said: the codings of all its lines with their q-values.
The two agree only on some lines, and `zstd_only_if_accepted_iff` says on which.

- `AddsZstd`: the response of a run is compressed, and the one that came from the
  cache or from a backend was not
- `retryLoop_unencoded`: what the loop hands out when it does not compress
- `zstd_only_if_accepted_iff`
-/

namespace Reduction

open Http Traced

/-! ## What the client accepts -/

/-- What a weight says about its coding. -/
inductive Quality where
  | zero
  | positive
  | malformed
deriving DecidableEq

namespace Quality

/-- The decimals of a q-value: at most three, of the given digits. -/
def decimals (digit : UInt8 → Bool) : Bytes → Bool
  | [] => true
  | 46 :: ds => ds.length ≤ 3 && ds.all digit
  | _ => false

/-- A number from 0 to 1. -/
def isQvalue : Bytes → Bool
  | 48 :: rest => decimals Bytes.isDigit rest
  | 49 :: rest => decimals (· == 48) rest
  | _ => false

def ofValue (value : Bytes) : Quality :=
  if isQvalue value then
    if value.all (fun b => b == 48 || b == 46) then .zero else .positive
  else
    .malformed

/-- The weight among the parameters of a coding; without one it is 1. -/
def ofParams : List Bytes → Quality
  | [] => .positive
  | param :: rest =>
    match param.trim.toAsciiLowercase with
    | 113 :: 61 :: value => ofValue value
    | _ => ofParams rest

end Quality

/-- A member of an `Accept-Encoding` list. -/
structure Coding where
  name : Bytes
  quality : Quality
deriving DecidableEq

/-- A coding, and parameters after semicolons. -/
def Coding.parse (element : Bytes) : Coding :=
  let parts := element.splitOn 59
  { name := (Bytes.trim (parts.headD [])).toAsciiLowercase, quality := .ofParams parts.tail }

/-- The codings of all lines together. -/
def codings (lines : List HeaderValue) : List Coding :=
  (HeaderMap.elements ([Bytes.comma].intercalate (lines.map HeaderValue.bytes))).map Coding.parse

/-- The lines name zstd, or anything, with a weight that is not 0, and do not refuse zstd. -/
def AcceptsZstd (lines : List HeaderValue) : Prop :=
  (∃ c ∈ codings lines, (c.name = Bytes.ascii "zstd" ∨ c.name = Bytes.ascii "*") ∧
      c.quality = .positive) ∧
    ∀ c ∈ codings lines, c.name = Bytes.ascii "zstd" → c.quality ≠ .zero

instance decidableAcceptsZstd (lines : List HeaderValue) : Decidable (AcceptsZstd lines) :=
  inferInstanceAs (Decidable (_ ∧ _))

/-! ## What the handler does -/

/-- The handler's test: the first line, if it is visible ASCII, has the text `zstd` in it. -/
def firstMentionsZstd (lines : List HeaderValue) : Bool :=
  ((lines.head?.bind HeaderValue.toStr?).map fun v => decide (Bytes.ascii "zstd" <:+: v)).getD false

def Event.answer? : Event → Option Response
  | .answered _ (.ok response) => some response
  | _ => none

def AttemptLog.answers (log : AttemptLog) : List Response := log.events.filterMap Event.answer?

/-- The response that a run got last, from the cache or from a backend. -/
def HandlerRun.origin (run : HandlerRun) (env : HandlerEnv) : Option Response :=
  ((run.prologue.filterMap Event.lookup?).filterMap env.cached ++
    run.attempts.flatMap AttemptLog.answers).getLast?

/-- A run hands out in zstd what it got without an encoding. -/
def AddsZstd (state : ProxyState) (env : HandlerEnv) (req : Request) : Prop :=
  let run := proxyHandler state env req
  (run.response.headers.getAll contentEncoding).map HeaderValue.bytes = [Bytes.ascii "zstd"] ∧
    ∃ origin, run.origin env = some origin ∧ responseIsEncoded origin = false

theorem isEncoded_of_getAll {response : Response} {bytes : Bytes}
    (h : (response.headers.getAll contentEncoding).map HeaderValue.bytes = [bytes]) :
    responseIsEncoded response = true := by
  obtain ⟨v, hv, -⟩ := List.map_eq_singleton_iff.mp h
  simp [responseIsEncoded, HeaderMap.containsKey, HeaderMap.get, hv]

theorem isEncoded_withBody (response : Response) (body : Body) :
    responseIsEncoded { response with body } = responseIsEncoded response := rfl

theorem isEncoded_errorResponse (status : StatusCode) (message : String) :
    responseIsEncoded (errorResponse status message) = false := rfl

theorem isEncoded_wakeTimeoutResponse (wakeSecs : UInt64) :
    responseIsEncoded (wakeTimeoutResponse wakeSecs) = false := by
  unfold wakeTimeoutResponse
  dsimp only
  split
  · have hne : contentEncoding ≠ retryAfter := by decide
    rw [responseIsEncoded, HeaderMap.containsKey, HeaderMap.get, HeaderMap.getAll_insert,
      if_neg hne]
    rfl
  · rfl

/-- Without the flag nothing is compressed. -/
theorem maybeCompress_false (zstd : Zstd) (response : Response) (directives : CacheDirectives)
    (config : CompressionConfig) :
    maybeCompress zstd response false directives config = response := by
  simp [maybeCompress]

/-! ## Attempts that do not compress -/

section Uncompressed

variable {ctx : RequestCtx} (hflag : ctx.acceptsZstd = false)
include hflag

/-- What is delivered is encoded only if the backend's response is. -/
theorem deliverResponse_unencoded (s : Selected) (response : Response) (reqParts : Parts) :
    ∃ r, (deliverResponse ctx s response reqParts).val.response? = some r ∧
      (responseIsEncoded r = true → responseIsEncoded response = true) := by
  cases hserver : response.status.isServerError <;>
  cases hcache : shouldCacheResponse ctx response response.status
    (.fromResponse response.headers) <;>
  cases hbody : response.body.collect <;>
  simp [deliverResponse, storeAndRespond, hserver, hcache, hbody, hflag, maybeCompress_false,
    AttemptOutcome.response?, isEncoded_errorResponse, isEncoded_withBody]

/-- What an attempt makes of the answer that it got: the loop goes on and keeps it, or ends with a
    response that is encoded only if the answer is. -/
theorem handleResponse_unencoded (env : AttemptEnv) (attempt : Nat) (s : Selected)
    (result : Except ReductionError Response) (reqParts : Parts) (retry : RetryState) :
    let handled := handleResponse ctx env attempt s result reqParts retry
    (handled.val.1 = .continue ∧
      handled.val.2.lastResponse = result.toOption.or retry.lastResponse) ∨
    ∃ r, handled.val.1.response? = some r ∧
      (responseIsEncoded r = true → ∃ answer, result = .ok answer ∧
        responseIsEncoded answer = true) := by
  cases result with
  | error e =>
    cases hcold : (s.backend.wakeable && e.isTransportMiss) with
    | true =>
      cases hwake : env.wake s.backend with
      | true => simp [handleResponse, handleForwardError, hcold, parkForWake, hwake,
          Except.toOption]
      | false =>
        simp [handleResponse, handleForwardError, hcold, parkForWake, hwake,
          AttemptOutcome.response?, isEncoded_wakeTimeoutResponse]
    | false =>
      by_cases hlast : attempt + 1 < ctx.maxAttempts
      · simp [handleResponse, handleForwardError, hcold, hlast, Except.toOption]
      · simp [handleResponse, handleForwardError, hcold, hlast, AttemptOutcome.response?,
          isEncoded_errorResponse]
  | ok response =>
    by_cases hagain : isRetryableStatus response.status = true ∧ attempt + 1 < ctx.maxAttempts
    · refine .inl ?_
      simp [handleResponse, hagain.1, hagain.2, Except.toOption]
    · obtain ⟨r, hr, hencoded⟩ := deliverResponse_unencoded hflag s response reqParts
      refine .inr ⟨r, ?_, fun h => ⟨response, rfl, hencoded h⟩⟩
      rw [← hr]
      cases hretry : isRetryableStatus response.status with
      | false => simp [handleResponse, hretry]
      | true =>
        have hlast : ¬ attempt + 1 < ctx.maxAttempts := fun h => hagain ⟨hretry, h⟩
        simp [handleResponse, hretry, hlast]

omit hflag in
/-- The answers in the trace of an attempt. -/
theorem runAttempt_answers {env : AttemptEnv} (attempt : Nat) (remaining : Duration)
    {replay replay' : ReplayBody} {retry : RetryState} {b : BackendConfig} {req : Request}
    (hsel : selectBackend ctx.pool ctx.clientIp env retry.failedBackends = .ok b)
    (hadm : env.admits b = true) (hreq : buildRetryReq replay = (some req, replay')) :
    let fwd := forwardRequest ctx.state env req b remaining ctx.clientIdentity ctx.clientIp
    (runAttempt ctx env attempt remaining replay retry).events.filterMap Event.answer? =
      fwd.val.toOption.toList := by
  intro fwd
  have hother : ∀ e : Event, e.isExchange = false → e.answer? = none := by
    intro e he
    cases e with
    | answered b result => cases he
    | _ => rfl
  have hrest := handleResponse_not_exchange ctx env attempt
    { backend := b, halfOpen := env.guardFor b } fwd.val replay'.reqParts retry
  have hfwd : fwd.events.filterMap Event.answer? = [] := by
    rcases forwardRequest_cases ctx.state env req b remaining ctx.clientIdentity ctx.clientIp with
      ⟨e, -, hevents⟩ | ⟨headers, -, copy, -, hevents, -⟩
    · rw [hevents]
      rfl
    · rw [hevents]
      rfl
  rw [runAttempt_events_forwarded attempt remaining hsel hadm hreq, List.filterMap_append,
    List.filterMap_append, List.filterMap_cons,
    filterMap_gate (fun e he => hother e (not_isExchange_of_gate he))
      (selectAndGate_gate ctx env retry), hfwd,
    List.filterMap_eq_nil_iff.mpr fun e he => hother e (hrest e he)]
  cases fwd.val with
  | error e => rfl
  | ok response => rfl

/-- The response that ends the loop is encoded only if the last answer is; a loop without an end of
    its own has kept the last answer. -/
def LastAnswered (answers : List Response) (kept : Option Response) : LoopEnd → Prop
  | .exhausted retry => retry.lastResponse = answers.getLast?.or kept
  | .returned r => responseIsEncoded r = true →
      ∃ answer, answers.getLast? = some answer ∧ responseIsEncoded answer = true
  | .streamed r _ _ => responseIsEncoded r = true →
      ∃ answer, answers.getLast? = some answer ∧ responseIsEncoded answer = true

omit hflag in
/-- The answers of an attempt come before those of the rest of the loop. -/
theorem LastAnswered.append {first later : List Response} {kept : Option Response}
    {loopEnd : LoopEnd} (h : LastAnswered later (first.getLast?.or kept) loopEnd) :
    LastAnswered (first ++ later) kept loopEnd := by
  cases loopEnd with
  | exhausted retry =>
    rw [LastAnswered, List.getLast?_append, Option.or_assoc]
    exact h
  | returned r =>
    intro hencoded
    obtain ⟨answer, hlast, hanswer⟩ := h hencoded
    exact ⟨answer, by rw [List.getLast?_append, hlast, Option.some_or], hanswer⟩
  | streamed r conn halfOpen =>
    intro hencoded
    obtain ⟨answer, hlast, hanswer⟩ := h hencoded
    exact ⟨answer, by rw [List.getLast?_append, hlast, Option.some_or], hanswer⟩

omit hflag in
theorem getLast?_toList (o : Option Response) : o.toList.getLast? = o := by
  cases o <;> rfl

theorem retryLoop_unencoded (env : Nat → AttemptEnv) (deadline : Instant) (budget : Duration)
    (left attempt : Nat) (replay : ReplayBody) (retry : RetryState) :
    let loop := retryLoop ctx env deadline budget left attempt replay retry
    LastAnswered (loop.1.flatMap AttemptLog.answers) retry.lastResponse loop.2 := by
  -- on the attempts that are left, for whatever answer was kept so far
  induction left generalizing attempt replay retry with
  | zero => rfl
  | succ left ih =>
    rw [retryLoop]
    cases hbudget : remainingBudget deadline budget (env attempt).now with
    | none => rfl
    | some remaining =>
      dsimp only
      generalize hlog : AttemptLog.mk attempt replay retry
        (runAttempt ctx (env attempt) attempt remaining replay retry).events = log
      have hanswers : log.answers = (runAttempt ctx (env attempt) attempt remaining replay
          retry).events.filterMap Event.answer? := by rw [← hlog, AttemptLog.answers]
      have hgates : (∀ e ∈ (runAttempt ctx (env attempt) attempt remaining replay retry).events,
          e.isGate = true) → log.answers = [] := by
        intro hgate
        rw [hanswers]
        refine filterMap_gate (fun e he => ?_) hgate
        cases e with
        | answered b result => cases he
        | _ => rfl
      cases runAttempt_case ctx (env attempt) attempt remaining replay retry with
      | noBackend e hsel hgate hval =>
        rw [hval]
        simp [LastAnswered, hgates hgate]
      | skipped b msg hsel hadm hgate hval =>
        have hrest := ih (attempt + 1) replay (retry.skip b msg)
        rw [hval]
        simpa [hgates hgate, RetryState.skip] using hrest
      | consumed b hsel hadm hreq hgate hval =>
        rw [hval]
        simp [LastAnswered, hgates hgate]
      | forwarded b req replay' fwd answer hsel hadm hreq hfwd hanswer htrace hrest hval =>
        have hgot := runAttempt_answers attempt remaining hsel hadm hreq
        rw [← hfwd, ← hanswers] at hgot
        have hhandled := handleResponse_unencoded hflag (env attempt) attempt
          { backend := b, halfOpen := (env attempt).guardFor b } fwd.val replay'.reqParts retry
        rw [← hanswer] at hhandled
        rw [hval]
        rcases hhandled with ⟨hcontinue, hkept⟩ | ⟨r, hr, hencoded⟩
        · simp only [hcontinue, List.flatMap_cons]
          refine LastAnswered.append ?_
          have hrest := ih (attempt + 1) replay' answer.val.2
          rwa [hkept, ← getLast?_toList fwd.val.toOption, ← hgot] at hrest
        · have hlast : responseIsEncoded r = true →
              ∃ answer, log.answers.getLast? = some answer ∧ responseIsEncoded answer = true := by
            intro h
            obtain ⟨response, hresponse, hcoded⟩ := hencoded h
            refine ⟨response, ?_, hcoded⟩
            rw [hgot, getLast?_toList, hresponse]
            rfl
          cases houtcome : answer.val.1 with
          | «continue» =>
            rw [houtcome] at hr
            cases hr
          | «break» =>
            rw [houtcome] at hr
            cases hr
          | «return» response =>
            rw [houtcome] at hr
            cases hr
            simpa [LastAnswered] using hlast
          | stream response conn halfOpen =>
            rw [houtcome] at hr
            cases hr
            simpa [LastAnswered] using hlast

end Uncompressed

/-! ## Runs -/

section Runs

variable {state : ProxyState} {env : HandlerEnv} {req : Request} {r : Response}

variable {identity : Option PeerIdentity}

/-- A hit is compressed with the handler's test as the flag. -/
theorem negotiateCache_hit (h : (negotiateCache state env req identity).val = .error r) :
    ∃ key cached, (negotiateCache state env req identity).events = [.lookup key] ∧
      env.cached key = some cached ∧
      r = maybeCompress state.zstd cached
        (firstMentionsZstd (req.parts.headers.getAll acceptEncoding))
        (.fromResponse cached.headers) state.compressionConfig := by
  simp only [negotiateCache, tryServeFromCache, val_bind, events_bind] at h ⊢
  split
  case isFalse hskip => simp [hskip] at h
  case isTrue hlooked =>
    simp only [hlooked, if_true, val_bind, val_pure] at h
    split at h
    case h_2 => cases h
    case h_1 response hhit =>
      obtain ⟨cached, hcached, rfl⟩ := Option.map_eq_some_iff.mp hhit
      cases h
      refine ⟨_, cached, ?_, hcached, rfl⟩
      simp [hcached]

theorem negotiateCache_miss {neg : CacheNegotiation}
    (h : (negotiateCache state env req identity).val = .ok neg) :
    neg.acceptsZstd = firstMentionsZstd (req.parts.headers.getAll acceptEncoding) := by
  simp only [negotiateCache, val_bind] at h
  split at h
  · cases h
  · cases h
    rfl

/-- Refusals are not encoded. -/
theorem admitClient_unencoded (h : admitClient env = .error r) : responseIsEncoded r = false := by
  unfold admitClient at h
  dsimp only at h
  split at h
  · cases h
    decide +kernel
  · cases h

theorem rejectBeforeRouting_unencoded {clientIp : IpAddr}
    (h : rejectBeforeRouting state env clientIp identity = some r) :
    responseIsEncoded r = false := by
  unfold rejectBeforeRouting at h
  split at h
  · cases h
    rfl
  · split at h
    · cases h
      rfl
    · split at h
      · split at h
        · cases h
        · cases h
          rfl
      · split at h
        · cases h
          rfl
        · cases h

theorem routeAndAdmit_unencoded {path : Bytes}
    (h : (routeAndAdmit state env path).val = .error r) : responseIsEncoded r = false := by
  unfold routeAndAdmit resolveBackendPool at h
  cases hroute : env.matchRoute path with
  | none =>
    simp only [hroute, val_bind, val_pure] at h
    cases h
    rfl
  | some m =>
    cases hpool : env.backendPools m.backendId with
    | none =>
      simp only [hroute, hpool, val_bind, val_pure] at h
      cases h
      rfl
    | some pool =>
      simp only [hroute, hpool] at h
      split at h
      · simp only [val_bind, val_pure] at h
        cases h
        rfl
      · cases h

variable {id : BackendId}

theorem bufferForReplay_unencoded (h : (bufferForReplay state req id).val = .error r) :
    responseIsEncoded r = false := by
  unfold bufferForReplay at h
  dsimp only at h
  split at h
  · split at h
    · cases h
    · simp only [val_bind, val_pure] at h
      cases h
      rfl
  · cases h

theorem prepareReplayBody_unencoded {requestIsZstd : Bool}
    (h : (prepareReplayBody state env req requestIsZstd id).val = .error r) :
    responseIsEncoded r = false := by
  unfold prepareReplayBody at h
  split at h
  · cases hreq : decompressRequest state env req with
    | ok req' =>
      simp only [hreq] at h
      exact bufferForReplay_unencoded h
    | error response =>
      simp only [hreq, val_bind, val_pure] at h
      cases h
      unfold decompressRequest at hreq
      dsimp only at hreq
      split at hreq
      · cases hreq
        rfl
      · cases hreq
        rfl
      · split at hreq
        · cases hreq
          rfl
        · split at hreq
          · cases hreq
            rfl
          · cases hreq
  · exact bufferForReplay_unencoded h

/-- What ends a request before the loop is encoded only if it came from the cache. -/
theorem prologue_error_unencoded (h : (prologue state env req).val = .error r)
    (hencoded : responseIsEncoded r = true) :
    ∃ key cached, (prologue state env req).events = [.lookup key] ∧
      env.cached key = some cached ∧
      r = maybeCompress state.zstd cached
        (firstMentionsZstd (req.parts.headers.getAll acceptEncoding))
        (.fromResponse cached.headers) state.compressionConfig := by
  have hnot : responseIsEncoded r ≠ false := by rw [hencoded]; decide
  unfold prologue at h ⊢
  split at h
  case h_1 response hadmit =>
    cases h
    exact absurd (admitClient_unencoded hadmit) hnot
  case h_2 clientIp identity hadmit =>
    split at h
    case h_1 response hreject =>
      cases h
      exact absurd (rejectBeforeRouting_unencoded hreject) hnot
    case h_2 hpass =>
      simp only [val_bind] at h
      split at h
      case h_1 response hhit =>
        cases h
        obtain ⟨key, cached, hevents, hcached, hr⟩ := negotiateCache_hit hhit
        refine ⟨key, cached, ?_, hcached, hr⟩
        simp [hpass, hhit, hevents]
      case h_2 neg hmiss =>
        simp only [val_bind] at h
        split at h
        case h_1 response hroute =>
          cases h
          exact absurd (routeAndAdmit_unencoded hroute) hnot
        case h_2 info hroute =>
          simp only [val_bind] at h
          split at h
          case h_1 response hbody =>
            cases h
            exact absurd (prepareReplayBody_unencoded hbody) hnot
          case h_2 => cases h

/-- The flag of a request that gets to the loop. -/
theorem prologue_ok_acceptsZstd {p : Prepared} (h : (prologue state env req).val = .ok p) :
    p.ctx.acceptsZstd = firstMentionsZstd (req.parts.headers.getAll acceptEncoding) := by
  unfold prologue at h
  split at h
  · cases h
  · split at h
    · cases h
    · simp only [val_bind] at h
      split at h
      · cases h
      case h_2 neg hmiss =>
        simp only [val_bind] at h
        split at h
        · cases h
        · simp only [val_bind] at h
          split at h
          · cases h
          · cases h
            exact negotiateCache_miss hmiss

/-- Zstd is added only for clients whose first line has the text in it. -/
theorem firstMentionsZstd_of_addsZstd (h : AddsZstd state env req) :
    firstMentionsZstd (req.parts.headers.getAll acceptEncoding) = true := by
  obtain ⟨hzstd, origin, horigin, hplain⟩ := h
  have hencoded := isEncoded_of_getAll hzstd
  by_contra hflag
  rw [Bool.not_eq_true] at hflag
  cases hpro : (prologue state env req).val with
  | error r =>
    simp only [proxyHandler, hpro] at hencoded horigin
    obtain ⟨key, cached, hevents, hcached, hr⟩ := prologue_error_unencoded hpro hencoded
    rw [hflag, maybeCompress_false] at hr
    simp only [HandlerRun.origin, hevents, List.filterMap_cons, Event.lookup?, hcached,
      List.filterMap_nil, List.flatMap_nil, List.append_nil, List.getLast?_singleton,
      Option.some.injEq] at horigin
    rw [hr, horigin, hplain] at hencoded
    cases hencoded
  | ok p =>
    have hctx : p.ctx.acceptsZstd = false := by rw [prologue_ok_acceptsZstd hpro, hflag]
    have hloop := retryLoop_unencoded hctx env.attempts (env.start + p.requestTimeout)
      (Duration.fromSecs p.ctx.state.timeouts.connectSecs.val.toNat) p.ctx.maxAttempts 0 p.replay
      .new
    rw [HandlerRun.origin, proxyHandler_attempts_of_ok hpro, List.getLast?_append] at horigin
    change LastAnswered ((p.loop env).1.flatMap AttemptLog.answers) none (p.loop env).2 at hloop
    -- the last answer, which is not encoded, is what the response was made of
    have hanswered : ∀ answer, ((p.loop env).1.flatMap AttemptLog.answers).getLast? = some answer →
        responseIsEncoded answer = false := by
      intro answer hlast
      rw [hlast, Option.some_or, Option.some.injEq] at horigin
      rw [horigin, hplain]
    have hresponse : responseIsEncoded (proxyHandler state env req).response = false := by
      rcases hend : p.loop env with ⟨logs, loopEnd⟩
      rw [hend] at hloop hanswered
      cases loopEnd with
      | exhausted retry =>
        rw [LastAnswered, Option.or_none] at hloop
        cases hkept : retry.lastResponse with
        | none =>
          simp only [proxyHandler, hpro, hend, hkept]
          rfl
        | some response =>
          simp only [proxyHandler, hpro, hend, hkept]
          exact hanswered response (hloop.symm.trans hkept)
      | returned response =>
        simp only [proxyHandler, hpro, hend]
        by_contra hcoded
        obtain ⟨answer, hlast, hanswer⟩ := hloop (Bool.not_eq_false _ ▸ hcoded)
        rw [hanswered answer hlast] at hanswer
        cases hanswer
      | streamed response conn halfOpen =>
        simp only [proxyHandler, hpro, hend]
        by_contra hcoded
        obtain ⟨answer, hlast, hanswer⟩ := hloop (Bool.not_eq_false _ ▸ hcoded)
        rw [hanswered answer hlast] at hanswer
        cases hanswer
    rw [hresponse] at hencoded
    cases hencoded

end Runs

/-! ## The lines on which both agree -/

namespace Sample

/-- A proxy that compresses everything, and has an unencoded response in its cache. -/
def zstdState : ProxyState :=
  { state 0 with
    compressionConfig := { enabled := true, minBytes := 0, level := 3 }
    cacheConfig := { (state 0).cacheConfig with enabled := true } }

def plainCached : HandlerEnv :=
  { answering .ok with cached := fun _ => some { status := .ok, headers := [], body := .ofBytes [] } }

/-- A `GET` with the given `Accept-Encoding` lines and no other fields. -/
def accepting (lines : List HeaderValue) : Request :=
  request .get (lines.map fun v => (acceptEncoding, v))

theorem getAll_accepting (lines : List HeaderValue) (n : HeaderName) :
    (accepting lines).parts.headers.getAll n = if n = acceptEncoding then lines else [] := by
  simp only [accepting, request, HeaderMap.getAll, List.filter_map, List.map_map]
  by_cases hn : n = acceptEncoding
  · rw [if_pos hn, hn]
    simp [Function.comp_def]
  · have hne : ¬ acceptEncoding = n := fun h => hn h.symm
    rw [if_neg hn]
    simp [Function.comp_def, hne]

variable {lines : List HeaderValue}

theorem prologue_accepting (h : firstMentionsZstd lines = true) :
    ∃ key, (prologue zstdState plainCached (accepting lines)).events = [.lookup key] ∧
      (prologue zstdState plainCached (accepting lines)).val = .error
        { status := .ok, headers := [(contentEncoding, .lit "zstd" (by decide))]
          body := .ofBytes [] } := by
  have hcookie : (accepting lines).parts.headers.containsKey cookie = false := by
    rw [HeaderMap.containsKey, HeaderMap.get, getAll_accepting, if_neg (by decide)]
    rfl
  have hrange : (accepting lines).parts.headers.containsKey range = false := by
    rw [HeaderMap.containsKey, HeaderMap.get, getAll_accepting, if_neg (by decide)]
    rfl
  have hflag : ((headerText (accepting lines).parts.headers acceptEncoding).map fun v =>
      decide (Bytes.ascii "zstd" <:+: v)).getD false = true := by
    rw [headerText, HeaderMap.get, getAll_accepting, if_pos rfl]
    exact h
  have hadmit : admitClient plainCached = .ok (clientAddr, none) := rfl
  have hpass : rejectBeforeRouting zstdState plainCached clientAddr none = none := rfl
  have hmethod : (accepting lines).parts.method = .get := rfl
  have hlookup : zstdState.cacheConfig.enabled = true := rfl
  refine ⟨{ method := Method.get.asStr, path := Bytes.ascii "/", identity := [] }, ?_, ?_⟩
  · simp only [prologue, hadmit, hpass, negotiateCache, tryServeFromCache, hcookie, hrange, hflag,
      hmethod, hlookup]
    rfl
  · simp only [prologue, hadmit, hpass, negotiateCache, tryServeFromCache, hcookie, hrange, hflag,
      hmethod, hlookup]
    rfl

theorem addsZstd_accepting (h : firstMentionsZstd lines = true) :
    AddsZstd zstdState plainCached (accepting lines) := by
  obtain ⟨key, hevents, hval⟩ := prologue_accepting h
  refine ⟨?_, { status := .ok, headers := [], body := .ofBytes [] }, ?_, rfl⟩
  · simp only [proxyHandler, hval]
    decide
  · simp only [proxyHandler, hval, HandlerRun.origin, hevents]
    rfl

end Sample

/-- Zstd is added only for clients that accept it exactly on the lines where the handler's test
    implies as much. -/
theorem zstd_only_if_accepted_iff (lines : List HeaderValue) :
    (∀ state env req, req.parts.headers.getAll acceptEncoding = lines → AddsZstd state env req →
        AcceptsZstd lines) ↔
      (firstMentionsZstd lines = true → AcceptsZstd lines) := by
  constructor
  · intro h hmentions
    refine h Sample.zstdState Sample.plainCached (Sample.accepting lines) ?_
      (Sample.addsZstd_accepting hmentions)
    rw [Sample.getAll_accepting, if_pos rfl]
  · intro h state env req hlines hadds
    subst hlines
    exact h (firstMentionsZstd_of_addsZstd hadds)

/-- A client that refuses zstd gets it. -/
theorem zstd_added_against_refusal :
    AddsZstd Sample.zstdState Sample.plainCached (Sample.accepting [.lit "zstd;q=0" (by decide)]) ∧
      ¬ AcceptsZstd [.lit "zstd;q=0" (by decide)] :=
  ⟨Sample.addsZstd_accepting (by decide +kernel), by decide +kernel⟩

end Reduction
