import Reduction.Spec.HandlerRuns
import Reduction.Spec.HeaderRewriting

/-!
# What the retry loop records and sends

For every run of `proxyHandler`: which outcomes its attempts record with the
circuit breakers, how often the request is forwarded, and what the copies of a
request that is not idempotent carry.
-/

namespace Reduction

open Http Traced

/-! ## One outcome for each forwarded attempt -/

/-- The outcome that the answer to an attempt stands for: a cold start of a wakeable backend counts
    as nothing, a server error or a retryable status as a failure. -/
def expectedOutcomes (b : BackendConfig) :
    Except ReductionError Response → List (BackendId × Outcome)
  | .error e => if b.wakeable && e.isTransportMiss then [] else [(b.id, .failure)]
  | .ok response =>
    [(b.id, if response.status.isServerError || isRetryableStatus response.status then .failure
      else .success)]

/-- An attempt that reaches `forward_request` records just the outcome of its answer. -/
def AttemptLog.RecordsOneOutcome (log : AttemptLog) : Prop :=
  ∀ b req, .forward b req ∈ log.events →
    ∃ result, .answered b result ∈ log.events ∧ log.outcomes = expectedOutcomes b result

/-- The backend answered a copy that the attempt sent with a retryable status. -/
def AttemptLog.AnsweredRetryable (log : AttemptLog) (env : AttemptEnv) : Prop :=
  ∃ b copy timeout response, .sent b copy timeout ∈ log.events ∧
    env.send b copy timeout = .ok response ∧ isRetryableStatus response.status = true

variable (ctx : RequestCtx) (env : Nat → AttemptEnv) (attempt : Nat) (remaining : Duration)
  (replay : ReplayBody)

/-- The recorded outcomes are as expected unless the last attempt falls through. -/
theorem recordedOutcomes_eq_iff (b : BackendConfig) (result : Except ReductionError Response) :
    recordedOutcomes ctx attempt b result = expectedOutcomes b result ↔
      ¬ (¬ attempt + 1 < ctx.maxAttempts ∧
        ∃ response, result = .ok response ∧ isRetryableStatus response.status = true) := by
  cases result with
  | error e => simp [recordedOutcomes, expectedOutcomes]
  | ok response =>
    cases hretry : isRetryableStatus response.status with
    | false => simp [recordedOutcomes, expectedOutcomes, deliveredOutcome, hretry]
    | true =>
      by_cases hlast : attempt + 1 < ctx.maxAttempts
      · simp [recordedOutcomes, expectedOutcomes, hretry, hlast]
      · -- two outcomes are recorded where one is expected
        simp [recordedOutcomes, expectedOutcomes, hretry, hlast]

variable (state : ProxyState) (retry : RetryState)

/-- What `forward_request` returns has a retryable status exactly if the backend answered the copy
    it was sent with one. -/
theorem forwardRequest_retryable_iff (env : AttemptEnv) (req : Request) (b : BackendConfig)
    (timeout : Duration) (identity : Option PeerIdentity) (clientIp : IpAddr) :
    let fwd := forwardRequest state env req b timeout identity clientIp
    (∃ response, fwd.val = .ok response ∧ isRetryableStatus response.status = true) ↔
      ∃ b' copy timeout' response, .sent b' copy timeout' ∈ fwd.events ∧
        env.send b' copy timeout' = .ok response ∧ isRetryableStatus response.status = true := by
  intro fwd
  rcases forwardRequest_cases state env req b timeout identity clientIp with
    ⟨e, hval, hevents⟩ | ⟨headers, -, copy, -, hevents, hval⟩
  · simp [fwd, hval, hevents]
  · simp only [fwd, hval, hevents, List.mem_cons, List.not_mem_nil, or_false, reduceCtorEq,
      false_or, Event.sent.injEq]
    constructor
    · rintro ⟨response, hresponse, hretry⟩
      obtain ⟨r, hsend, hstatus⟩ := receiveResponse_ok hresponse
      exact ⟨b, copy, timeout, r, ⟨rfl, rfl, rfl⟩, hsend, hstatus ▸ hretry⟩
    · rintro ⟨_, _, _, r, ⟨rfl, rfl, rfl⟩, hsend, hretry⟩
      rw [hsend]
      exact ⟨_, rfl, hretry⟩

/-- One attempt records one outcome for its answer exactly unless it is the last one allowed and the
    backend answered it with a retryable status. -/
theorem attemptAt_recordsOneOutcome_iff :
    (attemptAt ctx env attempt remaining replay retry).RecordsOneOutcome ↔
      ¬ (¬ attempt + 1 < ctx.maxAttempts ∧
        (attemptAt ctx env attempt remaining replay retry).AnsweredRetryable (env attempt)) := by
  simp only [AttemptLog.RecordsOneOutcome, AttemptLog.AnsweredRetryable, AttemptLog.outcomes,
    attemptAt]
  generalize hrun : runAttempt ctx (env attempt) attempt remaining replay retry = run
  -- an attempt that stays at the gate neither forwards nor sends
  have hstays : (∀ e ∈ run.events, e.isGate = true) →
      (∀ b req, Event.forward b req ∉ run.events) ∧ (∀ b req t, Event.sent b req t ∉ run.events) :=
    fun hgate => ⟨fun b req h => by simpa [Event.isGate] using hgate _ h,
      fun b req t h => by simpa [Event.isGate] using hgate _ h⟩
  cases hrun ▸ runAttempt_case ctx (env attempt) attempt remaining replay retry with
  | noBackend e hsel hgate hval => simp [hstays hgate]
  | skipped b msg hsel hadm hgate hval => simp [hstays hgate]
  | consumed b hsel hadm hreq hgate hval => simp [hstays hgate]
  | forwarded b req replay' fwd answer hsel hadm hreq hfwd hanswer htrace hrest hval =>
    have hretryable := forwardRequest_retryable_iff ctx.state (env attempt) req b remaining
      ctx.clientIdentity ctx.clientIp
    have hiff := recordedOutcomes_eq_iff ctx attempt b fwd.val
    simp only [← hfwd] at hretryable
    -- forward, answer and copies are those of the one call, and the outcomes are known from it
    simp only [htrace.mem_forward, htrace.mem_answered, htrace.mem_sent, htrace.outcomes,
      ← hretryable, ← hiff]
    constructor
    · intro h
      obtain ⟨result, ⟨-, rfl⟩, houtcomes⟩ := h b req ⟨rfl, rfl⟩
      exact houtcomes
    · rintro h b' req' ⟨rfl, rfl⟩
      exact ⟨fwd.val, ⟨rfl, rfl⟩, h⟩

/-- In every run, an attempt that reaches `forward_request` records exactly the outcome of its
    answer, unless it is the last attempt that the request is allowed and the backend answers it
    with a retryable status. -/
theorem attempt_records_one_outcome_iff {state : ProxyState} {env : HandlerEnv} {req : Request}
    {log : AttemptLog} (h : log ∈ (proxyHandler state env req).attempts) :
    log.RecordsOneOutcome ↔
      ¬ (log.attempt + 1 = attemptsAllowed state req.parts ∧
        log.AnsweredRetryable (env.attempts log.attempt)) := by
  obtain ⟨p, hpre, hlt, hsame, remaining, hlog⟩ := mem_attempts h
  have hmax := (prologue_ok hpre).maxAttempts_eq
  have hiff := attemptAt_recordsOneOutcome_iff p.ctx env.attempts log.attempt remaining log.replay
    log.retry
  rw [← hlog] at hiff
  rw [hiff, hmax]
  have hlast : ¬ log.attempt + 1 < attemptsAllowed state req.parts ↔
      log.attempt + 1 = attemptsAllowed state req.parts := by omega
  rw [hlast]

example : attemptsAllowed (Sample.state 1) (Sample.request .get []).parts = 2 := by decide +kernel

/-- The first of two attempts is answered with a 502, which counts as one failure. -/
theorem first_attempt_records_one_outcome :
    ∃ log ∈ (proxyHandler (Sample.state 1) (Sample.answering .badGateway)
      (Sample.request .get [])).attempts,
      log.outcomes = [(Sample.b1.id, .failure)] ∧ log.RecordsOneOutcome := by
  obtain ⟨log, logs, hattempts, hlog, -⟩ := List.map_eq_cons_iff.mp
    (show (proxyHandler (Sample.state 1) (Sample.answering .badGateway)
        (Sample.request .get [])).attempts.map (fun log => (log.attempt, log.outcomes)) =
      [(0, [(Sample.b1.id, .failure)]), (1, [(Sample.b2.id, .failure), (Sample.b2.id, .failure)])] by
      decide +kernel)
  obtain ⟨hattempt, houtcomes⟩ := Prod.mk.inj hlog
  have hmem := hattempts ▸ List.mem_cons_self (a := log) (l := logs)
  refine ⟨log, hmem, houtcomes, (attempt_records_one_outcome_iff hmem).mpr ?_⟩
  rintro ⟨hlast, -⟩
  rw [hattempt] at hlast
  exact absurd hlast (by decide)

/-- The only attempt is answered with a 429, which counts as a failure and as a success. -/
theorem last_attempt_records_failure_and_success :
    ∃ log ∈ (proxyHandler (Sample.state 0) (Sample.answering .tooManyRequests)
      (Sample.request .get [])).attempts,
      log.outcomes = [(Sample.b1.id, .failure), (Sample.b1.id, .success)] ∧
        ¬ log.RecordsOneOutcome := by
  obtain ⟨log, logs, hattempts, hlog, -⟩ := List.map_eq_cons_iff.mp
    (show (proxyHandler (Sample.state 0) (Sample.answering .tooManyRequests)
        (Sample.request .get [])).attempts.map (fun log => (log.forwards, log.outcomes)) =
      [([(Sample.b1, Sample.request .get [])],
        [(Sample.b1.id, .failure), (Sample.b1.id, .success)])] by
      decide +kernel)
  obtain ⟨hforwards, houtcomes⟩ := Prod.mk.inj hlog
  refine ⟨log, hattempts ▸ List.mem_cons_self, houtcomes, fun hone => ?_⟩
  have hforward : .forward Sample.b1 (Sample.request .get []) ∈ log.events := by
    have hmem : (Sample.b1, Sample.request .get []) ∈ log.forwards := by simp [hforwards]
    obtain ⟨e, he, hview⟩ := List.mem_filterMap.mp hmem
    cases e <;> simp [Event.forward?] at hview
    obtain ⟨rfl, rfl⟩ := hview
    exact he
  obtain ⟨result, -, hexpected⟩ := hone _ _ hforward
  rw [houtcomes] at hexpected
  -- two outcomes were recorded, and no answer stands for two
  cases result with
  | ok response => simp [expectedOutcomes] at hexpected
  | error e =>
    simp only [expectedOutcomes] at hexpected
    split at hexpected <;> simp at hexpected

/-! ## How often a request is forwarded -/

/-- An attempt either forwards nothing and leaves the replay body as it is, or it forwards once, the
    request that the replay body yields. -/
theorem attemptAt_forwards :
    let replay' := (runAttempt ctx (env attempt) attempt remaining replay retry).val.2.1
    ((attemptAt ctx env attempt remaining replay retry).forwards = [] ∧ replay' = replay) ∨
    ∃ b req, (attemptAt ctx env attempt remaining replay retry).forwards = [(b, req)] ∧
      buildRetryReq replay = (some req, replay') := by
  simp only [AttemptLog.forwards, attemptAt]
  cases runAttempt_case ctx (env attempt) attempt remaining replay retry with
  | noBackend e hsel hgate hval =>
    exact .inl ⟨filterMap_gate forward?_of_gate hgate, by rw [hval]⟩
  | skipped b msg hsel hadm hgate hval =>
    exact .inl ⟨filterMap_gate forward?_of_gate hgate, by rw [hval]⟩
  | consumed b hsel hadm hreq hgate hval =>
    exact .inl ⟨filterMap_gate forward?_of_gate hgate, by rw [hval]⟩
  | forwarded b req replay' fwd answer hsel hadm hreq hfwd hanswer htrace hrest hval =>
    rw [hval]
    exact .inr ⟨b, req, htrace.forwards, hreq⟩

variable {req : Request}

/-- Taking a body that is not buffered leaves none behind. -/
theorem buildRetryReq_streaming {replay replay' : ReplayBody} (hbytes : replay.bodyBytes = none)
    (h : buildRetryReq replay = (some req, replay')) :
    replay.streamingBody.isSome = true ∧ replay'.bodyBytes = none ∧
      replay'.streamingBody = none := by
  simp only [buildRetryReq, hbytes] at h
  cases hbody : replay.streamingBody with
  | none => simp [hbody] at h
  | some body =>
    simp only [hbody, Prod.mk.injEq] at h
    obtain ⟨-, rfl⟩ := h
    exact ⟨rfl, rfl, rfl⟩

section Loop

variable (ctx : RequestCtx) (env : Nat → AttemptEnv) (deadline : Instant) (budget : Duration)

/-- The loop forwards at most once in each attempt. -/
theorem retryLoop_forwards_le (left attempt : Nat) (replay : ReplayBody) (retry : RetryState) :
    ((retryLoop ctx env deadline budget left attempt replay retry).1.flatMap
      AttemptLog.forwards).length ≤ left := by
  have hone : ∀ attempt remaining replay retry,
      (attemptAt ctx env attempt remaining replay retry).forwards.length ≤ 1 := by
    intro attempt remaining replay retry
    rcases attemptAt_forwards ctx env attempt remaining replay retry with
      ⟨h, -⟩ | ⟨b, req, h, -⟩ <;>
    simp [h]
  induction left, attempt, replay, retry using retryLoop_induction ctx env deadline budget with
  | nil attempt replay retry => simp
  | late left attempt replay retry hbudget => simp
  | stop left attempt remaining replay retry hbudget hstop =>
    have := hone attempt remaining replay retry
    simp only [List.flatMap_cons, List.flatMap_nil, List.append_nil]
    omega
  | step left attempt remaining replay retry replay' retry' hbudget hrun ih =>
    have := hone attempt remaining replay retry
    simp only [List.flatMap_cons, List.length_append]
    omega

/-- A body that is not buffered is there for one forward, and then gone. -/
theorem retryLoop_forwards_streaming (left attempt : Nat) (replay : ReplayBody)
    (retry : RetryState) :
    replay.bodyBytes = none →
      ((retryLoop ctx env deadline budget left attempt replay retry).1.flatMap
        AttemptLog.forwards).length ≤ if replay.streamingBody.isSome then 1 else 0 := by
  -- the bound falls from one to zero with the forward that takes the body
  induction left, attempt, replay, retry using retryLoop_induction ctx env deadline budget with
  | nil attempt replay retry => simp
  | late left attempt replay retry hbudget => simp
  | stop left attempt remaining replay retry hbudget hstop =>
    intro hbytes
    rcases attemptAt_forwards ctx env attempt remaining replay retry with ⟨h, -⟩ | ⟨b, req, h, hreq⟩
    · simp [h]
    · simp [h, (buildRetryReq_streaming hbytes hreq).1]
  | step left attempt remaining replay retry replay' retry' hbudget hrun ih =>
    intro hbytes
    have hforwards := attemptAt_forwards ctx env attempt remaining replay retry
    simp only [hrun] at hforwards
    simp only [List.flatMap_cons, List.length_append]
    rcases hforwards with ⟨h, rfl⟩ | ⟨b, req, h, hreq⟩
    · -- the body is still there
      have := ih hbytes
      simp only [h, List.length_nil, Nat.zero_add]
      exact this
    · -- the body was taken: the rest of the loop forwards nothing
      obtain ⟨hsome, hbytes', hgone⟩ := buildRetryReq_streaming hbytes hreq
      have := ih hbytes'
      simp only [hgone, Option.isSome_none, Bool.false_eq_true, if_false] at this
      simp only [h, hsome, List.length_singleton, if_true]
      omega

end Loop

/-- A run forwards at most once for each attempt that the request is allowed. -/
theorem proxyHandler_forwards_le (env : HandlerEnv) (req : Request) :
    (proxyHandler state env req).forwards.length ≤ attemptsAllowed state req.parts := by
  rw [proxyHandler_forwards]
  cases hpre : (prologue state env req).val with
  | error response => simp [proxyHandler_attempts_of_error hpre]
  | ok p =>
    rw [proxyHandler_attempts_of_ok hpre, ← (prologue_ok hpre).maxAttempts_eq]
    exact retryLoop_forwards_le ..

theorem proxyHandler_forwards_streaming {state : ProxyState} {env : HandlerEnv} {p : Prepared}
    (hpre : (prologue state env req).val = .ok p) (hbytes : p.replay.bodyBytes = none) :
    (proxyHandler state env req).forwards.length ≤ 1 := by
  rw [proxyHandler_forwards, proxyHandler_attempts_of_ok hpre]
  have hle := retryLoop_forwards_streaming p.ctx env.attempts (env.start + p.requestTimeout)
    (Duration.fromSecs p.ctx.state.timeouts.connectSecs.val.toNat) p.ctx.maxAttempts 0 p.replay .new
    hbytes
  refine Nat.le_trans hle ?_
  split <;> omega

/-- The methods that may be replayed without further ado. -/
def idempotentMethods : List Method := [.get, .head, .options, .trace, .put, .delete]

theorem retriesPermitted_of_not_mem {parts : Parts} (hmethod : parts.method ∉ idempotentMethods) :
    retriesPermitted parts.method parts.headers = true ↔
      ∃ v, parts.headers.get headerIdempotencyKey = some v ∧ v.bytes ≠ [] := by
  have hnot : isIdempotentMethod parts.method = false := by
    cases hm : parts.method <;> simp [idempotentMethods, hm] at hmethod <;> rfl
  cases hget : parts.headers.get headerIdempotencyKey with
  | none => simp [retriesPermitted, hnot, hget]
  | some v => simp [retriesPermitted, hnot, hget, HeaderValue.isEmpty]

/-- A request that is neither idempotent nor keyed is forwarded at most once; any other at most
    `max_retries + 1` times; and a body that is not buffered for replay leaves the proxy once. -/
theorem forwards_bounded (state : ProxyState) (env : HandlerEnv) (req : Request) :
    (req.parts.method ∉ idempotentMethods →
      (∀ v, req.parts.headers.get headerIdempotencyKey = some v → v.bytes = []) →
      (proxyHandler state env req).forwards.length ≤ 1) ∧
    (state.retryConfig.maxRetries.toNat < 2 ^ 32 - 1 →
      (proxyHandler state env req).forwards.length ≤ state.retryConfig.maxRetries.toNat + 1) ∧
    (∀ p, (prologue state env req).val = .ok p → p.replay.bodyBytes = none →
      (proxyHandler state env req).forwards.length ≤ 1) := by
  have hle := proxyHandler_forwards_le state env req
  refine ⟨?_, ?_, ?_⟩
  · intro hmethod hkey
    have hnot : ¬ retriesPermitted req.parts.method req.parts.headers = true := by
      rw [retriesPermitted_of_not_mem hmethod]
      rintro ⟨v, hget, hne⟩
      exact hne (hkey v hget)
    rwa [attemptsAllowed, if_neg hnot] at hle
  · intro hmax
    refine Nat.le_trans hle ?_
    rw [attemptsAllowed]
    split
    · -- the addition does not wrap
      rw [UInt32.toNat_add, UInt32.toNat_one, Nat.mod_eq_of_lt (by omega)]
    · omega
  · intro p hpre hbytes
    exact proxyHandler_forwards_streaming hpre hbytes

/-- A keyless `POST`, a `GET`, and an upload declared longer than the buffer, under three retries
    and with every answer a 502. -/
theorem forwards_bounded_three_retries :
    let run := proxyHandler (Sample.state 3) (Sample.answering .badGateway)
    (run (Sample.request .post [])).forwards.length ≤ 1 ∧
    (run (Sample.request .get [])).forwards.length ≤ 4 ∧
    (run (Sample.request .put [(contentLength, .lit "4096" (by decide))])).forwards.length ≤ 1 := by
  refine ⟨(forwards_bounded _ _ _).1 (by decide) (fun v hv => ?_),
    (forwards_bounded _ _ _).2.1 (by decide), ?_⟩
  · simp [Sample.request, HeaderMap.get, HeaderMap.getAll] at hv
  · have hstreams : (prologue (Sample.state 3) (Sample.answering .badGateway)
        (Sample.request .put [(contentLength, .lit "4096" (by decide))])).val.toOption.map
          (fun p => p.replay.bodyBytes) = some none := by decide +kernel
    obtain ⟨p, hp, hbytes⟩ := Option.map_eq_some_iff.mp hstreams
    refine (forwards_bounded _ _ _).2.2 p ?_ hbytes
    revert hp
    cases (prologue (Sample.state 3) (Sample.answering .badGateway)
      (Sample.request .put [(contentLength, .lit "4096" (by decide))])).val with
    | error response => intro hp; cases hp
    | ok p' => intro hp; cases hp; rfl

/-! ## What the copies of a request carry -/

theorem buildRetryReq_parts {replay replay' : ReplayBody}
    (h : buildRetryReq replay = (some req, replay')) : req.parts = replay.reqParts := by
  unfold buildRetryReq at h
  split at h
  · simp only [Prod.mk.injEq, Option.some.injEq] at h
    rw [← h.1]
  · split at h
    · simp only [Prod.mk.injEq, Option.some.injEq] at h
      rw [← h.1]
    · simp at h

/-- An attempt sends no more than it forwards, and the copy it sends is the request of the loop with
    its fields rewritten. -/
theorem attemptAt_copies :
    let log := attemptAt ctx env attempt remaining replay retry
    log.copies.length ≤ log.forwards.length ∧
    ∀ copy ∈ log.copies, ∃ b headers,
      rewriteHeaders replay.reqParts.headers b ctx.clientIp ctx.clientIdentity = .ok headers ∧
        copy.parts.headers = injectContext headers (env attempt).trace := by
  simp only [AttemptLog.copies, AttemptLog.forwards, attemptAt]
  generalize hrun : runAttempt ctx (env attempt) attempt remaining replay retry = run
  -- an attempt that stays at the gate sends nothing
  have hstays : (∀ e ∈ run.events, e.isGate = true) → run.events.filterMap Event.sent? = [] :=
    filterMap_gate sent?_of_gate
  cases hrun ▸ runAttempt_case ctx (env attempt) attempt remaining replay retry with
  | noBackend e hsel hgate hval => simp [hstays hgate, -List.filterMap_eq_nil_iff]
  | skipped b msg hsel hadm hgate hval => simp [hstays hgate, -List.filterMap_eq_nil_iff]
  | consumed b hsel hadm hreq hgate hval => simp [hstays hgate, -List.filterMap_eq_nil_iff]
  | forwarded b req replay' fwd answer hsel hadm hreq hfwd hanswer htrace hrest hval =>
    rw [htrace.forwards, htrace.copies, hfwd]
    have hparts := buildRetryReq_parts hreq
    rcases forwardRequest_cases ctx.state (env attempt) req b remaining ctx.clientIdentity
      ctx.clientIp with ⟨e, -, hevents⟩ | ⟨headers, hrewrite, copy, hcopy, hevents, -⟩
    · simp [hevents, List.filterMap_cons, Event.sent?]
    · rw [hparts] at hrewrite
      simp only [hevents, Event.sent?, List.filterMap_cons, List.filterMap_nil,
        List.length_singleton, Nat.le_refl, List.mem_singleton, true_and]
      rintro copy' rfl
      exact ⟨b, headers, hrewrite, hcopy⟩

/-- A run sends no more copies than it forwards. -/
theorem proxyHandler_copies_le (env : HandlerEnv) (req : Request) :
    (proxyHandler state env req).copies.length ≤ (proxyHandler state env req).forwards.length := by
  rw [proxyHandler_copies, proxyHandler_forwards, List.length_flatMap, List.length_flatMap]
  apply List.sum_le_sum
  intro log hlog
  obtain ⟨p, hpre, -, -, remaining, heq⟩ := mem_attempts hlog
  rw [heq]
  exact (attemptAt_copies ..).1

/-- The values of `Idempotency-Key` in a copy are the client's, or none if a `Connection` line
    nominates the field. -/
theorem copy_idempotencyKey {state : ProxyState} {env : HandlerEnv} {copy : Request}
    (h : copy ∈ (proxyHandler state env req).copies) :
    copy.parts.headers.getAll headerIdempotencyKey =
      if headerIdempotencyKey ∈ connectionNominated req.parts.headers then []
      else req.parts.headers.getAll headerIdempotencyKey := by
  rw [proxyHandler_copies, List.mem_flatMap] at h
  obtain ⟨log, hlog, hcopy⟩ := h
  obtain ⟨p, hpre, -, hsame, remaining, heq⟩ := mem_attempts hlog
  have hof := prologue_ok hpre
  have hcopies := (attemptAt_copies p.ctx env.attempts log.attempt remaining log.replay log.retry).2
  rw [← heq] at hcopies
  obtain ⟨b, headers, hrewrite, hheaders⟩ := hcopies copy hcopy
  rw [hsame.1] at hrewrite
  rw [hheaders, getAll_rewriteHeaders hrewrite _ (by decide),
    connectionNominated_congr (hof.getAll_eq connection (by decide) (by decide)),
    hof.getAll_eq headerIdempotencyKey (by decide) (by decide)]

/-- Of a request that is not idempotent and that is sent more than once, every copy carries a
    non-empty `Idempotency-Key`, unless the client's `Connection` lines nominate that field: then no
    copy carries it. -/
theorem copies_carry_key_iff {state : ProxyState} {env : HandlerEnv} {req : Request}
    (hmethod : req.parts.method ∉ idempotentMethods)
    (htwice : 2 ≤ (proxyHandler state env req).copies.length) :
    (∀ copy ∈ (proxyHandler state env req).copies,
      ∃ v ∈ copy.parts.headers.getAll headerIdempotencyKey, v.bytes ≠ []) ↔
      headerIdempotencyKey ∉ connectionNominated req.parts.headers := by
  constructor
  · intro hcarry hnominated
    -- there is a copy, and it has lost the field
    obtain ⟨copy, hcopy⟩ := List.exists_mem_of_length_pos (Nat.lt_of_lt_of_le (by decide) htwice)
    obtain ⟨v, hv, -⟩ := hcarry copy hcopy
    rw [copy_idempotencyKey hcopy, if_pos hnominated] at hv
    simp at hv
  · intro hnominated copy hcopy
    -- two copies mean two attempts, so the client sent a key
    have hpermitted : retriesPermitted req.parts.method req.parts.headers = true := by
      have hle := Nat.le_trans (proxyHandler_copies_le state env req)
        (proxyHandler_forwards_le state env req)
      by_contra hnot
      rw [attemptsAllowed, if_neg hnot] at hle
      omega
    obtain ⟨v, hget, hne⟩ := (retriesPermitted_of_not_mem hmethod).mp hpermitted
    refine ⟨v, ?_, hne⟩
    -- `get` reads the first value, and a copy has all of them
    rw [copy_idempotencyKey hcopy, if_neg hnominated]
    exact List.mem_of_mem_head? hget

/-- A keyed `POST` that is sent twice carries its key in both copies. -/
theorem keyed_post_copies_carry_key :
    let run := proxyHandler (Sample.state 1) (Sample.answering .badGateway) (Sample.keyedPost [])
    2 ≤ run.copies.length ∧
      ∀ copy ∈ run.copies, ∃ v ∈ copy.parts.headers.getAll headerIdempotencyKey, v.bytes ≠ [] := by
  have htwice : 2 ≤ (proxyHandler (Sample.state 1) (Sample.answering .badGateway)
      (Sample.keyedPost [])).copies.length := by decide +kernel
  exact ⟨htwice, (copies_carry_key_iff (by decide) htwice).mpr (by decide)⟩

/-- With `Connection: idempotency-key` the same `POST` is sent twice, both times without its key. -/
theorem nominated_key_is_stripped :
    let run := proxyHandler (Sample.state 1) (Sample.answering .badGateway)
      (Sample.keyedPost [(connection, .lit "idempotency-key" (by decide))])
    2 ≤ run.copies.length ∧
      ¬ ∀ copy ∈ run.copies,
        ∃ v ∈ copy.parts.headers.getAll headerIdempotencyKey, v.bytes ≠ [] := by
  decide +kernel

end Reduction
