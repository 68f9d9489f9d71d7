import Reduction.ForStd.Run
import Reduction.Spec.HandlerRuns
import Reduction.Spec.RelayCases

/-!
# Whose failures trip a circuit

A breaker is fed by three paths: the attempts of HTTP requests, raw relays and
relayed TCP connections.  Each of them has errors of the backend's connection and
errors of the client's, and by the time `record_failure` is called nobody can
tell them apart.

- `attempt_backendCaused_iff`, `raw_backendCaused_iff`, `tcp_backendCaused_iff`:
  on each path, when every recorded failure is the backend's
- `failures_backend_caused_iff`: the same for all that a proxy serves
-/

namespace Reduction

open Http Run Traced

/-! ## HTTP -/

/-- The side that an error of `send_request` is of. -/
abbrev SendOrigin := BackendConfig → Request → Duration → Side

/-- The backend `id` could not be dialed, its stream failed, or it returned a failure status. -/
def BackendCaused (env : AttemptEnv) (origin : SendOrigin) (events : List Event)
    (id : BackendId) : Prop :=
  ∃ b : BackendConfig, b.id = id ∧
    ((∃ req, .forward b req ∈ events ∧ (env.acquireError b).isSome) ∨
    ∃ req timeout, .sent b req timeout ∈ events ∧
      match env.send b req timeout with
      | .error _ => origin b req timeout = .backend
      | .ok response =>
        isRetryableStatus response.status = true ∨ response.status.isServerError = true)

/-- Where a backend is reached that is not started on demand, the request's headers can be written
    and the request does not fail on the client's side. -/
def ClientBlameless (ctx : RequestCtx) (env : AttemptEnv) (origin : SendOrigin)
    (events : List Event) : Prop :=
  ∀ b req, .forward b req ∈ events → b.wakeable = false → env.acquireError b = none →
    (∃ headers, rewriteHeaders req.parts.headers b ctx.clientIp ctx.clientIdentity = .ok headers) ∧
    ∀ copy timeout msg, .sent b copy timeout ∈ events → env.send b copy timeout = .error msg →
      origin b copy timeout = .backend

section

variable {e : ReductionError} {b : BackendConfig} {events : List Event} {id : BackendId}
  {ctx : RequestCtx} {attempt : Nat} {req : Request}
  {openError : BackendConfig → Option ReductionError} {relay : RelayEnv}

theorem headerValueOr_isTransportMiss {what : String} {text : Bytes}
    (h : headerValueOr what text = .error e) : e.isTransportMiss = true := by
  unfold headerValueOr at h
  split at h
  · cases h
  · cases h
    rfl

variable {headers : HeaderMap} {identity : Option PeerIdentity} {env : AttemptEnv}
  {fwd : Traced Event (Except ReductionError Response)}

theorem applyIdentityHeaders_isTransportMiss (h : applyIdentityHeaders headers identity = .error e)
    :
    e.isTransportMiss = true := by
  unfold applyIdentityHeaders at h
  cases identity with
  | none => cases h
  | some identity =>
    rcases bind_eq_error.mp h with h | ⟨cn, -, h⟩
    · exact headerValueOr_isTransportMiss h
    · rcases bind_eq_error.mp h with h | ⟨spki, -, h⟩
      · exact headerValueOr_isTransportMiss h
      · cases h

/-- An error of the headers is of the kind that wakes a backend. -/
theorem rewriteHeaders_isTransportMiss {clientIp : IpAddr}
    (h : rewriteHeaders headers b clientIp identity = .error e) : e.isTransportMiss = true := by
  rcases bind_eq_error.mp h with h | ⟨value, -, h⟩
  · exact headerValueOr_isTransportMiss h
  · rcases bind_eq_error.mp h with h | ⟨forwarded, -, h⟩
    · rcases bind_eq_error.mp h with h | ⟨ip, -, h⟩
      · exact headerValueOr_isTransportMiss h
      · cases h
    · exact applyIdentityHeaders_isTransportMiss h

/-- What `forward_request` comes to for a backend. -/
inductive ForwardCase (ctx : RequestCtx) (env : AttemptEnv) (req : Request) (b : BackendConfig)
    (timeout : Duration) (fwd : Traced Event (Except ReductionError Response)) : Prop
  | undialed (e : ReductionError) (hacquire : env.acquireError b = some e)
      (hval : fwd.val = .error e) (hevents : fwd.events = [.forward b req])
  | unwritable (e : ReductionError) (hacquire : env.acquireError b = none)
      (hrewrite : rewriteHeaders req.parts.headers b ctx.clientIp ctx.clientIdentity = .error e)
      (hval : fwd.val = .error e) (hevents : fwd.events = [.forward b req])
  | sent (headers : HeaderMap) (copy : Request) (hacquire : env.acquireError b = none)
      (hrewrite : rewriteHeaders req.parts.headers b ctx.clientIp ctx.clientIdentity = .ok headers)
      (hval : fwd.val = receiveResponse ctx.state (env.send b copy timeout))
      (hevents : fwd.events = [.forward b req, .sent b copy timeout])

theorem forwardRequest_case (ctx : RequestCtx) (env : AttemptEnv) (req : Request)
    (b : BackendConfig) (timeout : Duration) :
    ForwardCase ctx env req b timeout
      (forwardRequest ctx.state env req b timeout ctx.clientIdentity ctx.clientIp) := by
  cases hacquire : env.acquireError b with
  | some e =>
    apply ForwardCase.undialed e hacquire
    · simp [forwardRequest, hacquire]
    · simp [forwardRequest, hacquire]
  | none =>
    cases hrewrite : rewriteHeaders req.parts.headers b ctx.clientIp ctx.clientIdentity with
    | error e =>
      apply ForwardCase.unwritable e hacquire hrewrite
      · simp [forwardRequest, hacquire, hrewrite]
      · simp [forwardRequest, hacquire, hrewrite]
    | ok headers =>
      apply ForwardCase.sent headers { req with parts.headers := injectContext headers env.trace }
        hacquire hrewrite
      · simp [forwardRequest, hacquire, hrewrite]
      · simp [forwardRequest, hacquire, hrewrite]

theorem mem_recordFailure :
    .recordFailure id ∈ events ↔ (id, Outcome.failure) ∈ events.filterMap Event.outcome? := by
  rw [List.mem_filterMap]
  constructor
  · intro h
    exact ⟨_, h, rfl⟩
  · rintro ⟨e, he, hout⟩
    cases e with
    | recordFailure id' =>
      obtain ⟨rfl, -⟩ := Prod.mk.inj (Option.some.inj hout)
      exact he
    | recordSuccess id' => cases hout
    | _ => cases hout

/-- A delivered or retried response counts as a failure by its status only. -/
theorem mem_recordedOutcomes_ok {response : Response}
    (h : (id, Outcome.failure) ∈ recordedOutcomes ctx attempt b (.ok response)) :
    b.id = id ∧
      (isRetryableStatus response.status = true ∨ response.status.isServerError = true) := by
  have hdelivered : (id, Outcome.failure) ∈ [(b.id, deliveredOutcome response.status)] →
      b.id = id ∧ response.status.isServerError = true := by
    intro hmem
    obtain ⟨hid, hfailure⟩ := Prod.mk.inj (List.mem_singleton.mp hmem)
    refine ⟨hid.symm, ?_⟩
    by_contra hserver
    rw [deliveredOutcome, if_neg hserver] at hfailure
    cases hfailure
  simp only [recordedOutcomes] at h
  cases hretry : isRetryableStatus response.status with
  | true =>
    refine ⟨?_, .inl rfl⟩
    by_cases hlast : attempt + 1 < ctx.maxAttempts
    · simp only [hretry, hlast, if_true, List.mem_singleton] at h
      exact (Prod.mk.inj h).1.symm
    · simp only [hretry, hlast, if_true, if_false] at h
      rcases List.mem_cons.mp h with h | h
      · exact (Prod.mk.inj h).1.symm
      · exact (hdelivered h).1
  | false =>
    simp only [hretry] at h
    exact ⟨(hdelivered h).1, .inr (hdelivered h).2⟩

/-- What a forwarded attempt records of the backend, where the trace is that of the call. -/
theorem ForwardedTrace.backendCaused_iff (htrace : ForwardedTrace ctx attempt b req fwd events)
    (origin : SendOrigin) (id : BackendId) :
    BackendCaused env origin events id ↔
      ∃ b' : BackendConfig, b'.id = id ∧ ((b' = b ∧ (env.acquireError b').isSome) ∨
        ∃ copy timeout, .sent b' copy timeout ∈ fwd.events ∧
          match env.send b' copy timeout with
          | .error _ => origin b' copy timeout = .backend
          | .ok response =>
            isRetryableStatus response.status = true ∨ response.status.isServerError = true) := by
  unfold BackendCaused
  simp only [htrace.mem_forward, htrace.mem_sent]
  constructor
  · rintro ⟨b', hid, ⟨req', ⟨rfl, -⟩, hacquire⟩ | hsent⟩
    · exact ⟨b', hid, .inl ⟨rfl, hacquire⟩⟩
    · exact ⟨b', hid, .inr hsent⟩
  · rintro ⟨b', hid, ⟨rfl, hacquire⟩ | hsent⟩
    · exact ⟨b', hid, .inl ⟨req, ⟨rfl, rfl⟩, hacquire⟩⟩
    · exact ⟨b', hid, .inr hsent⟩

theorem ForwardedTrace.clientBlameless_iff (htrace : ForwardedTrace ctx attempt b req fwd events)
    (origin : SendOrigin) :
    ClientBlameless ctx env origin events ↔
      (b.wakeable = false → env.acquireError b = none →
        (∃ headers,
          rewriteHeaders req.parts.headers b ctx.clientIp ctx.clientIdentity = .ok headers) ∧
        ∀ copy timeout msg, .sent b copy timeout ∈ fwd.events →
          env.send b copy timeout = .error msg → origin b copy timeout = .backend) := by
  unfold ClientBlameless
  simp only [htrace.mem_forward, htrace.mem_sent]
  constructor
  · intro h
    exact h b req ⟨rfl, rfl⟩
  · rintro h b' req' ⟨rfl, rfl⟩
    exact h

/-- An attempt records failures of the backend only, if and only if the client is not to blame. -/
theorem attempt_backendCaused_iff (ctx : RequestCtx) (env : AttemptEnv) (attempt : Nat)
    (remaining : Duration) (replay : ReplayBody) (retry : RetryState) (origin : SendOrigin) :
    (∀ id, .recordFailure id ∈ (runAttempt ctx env attempt remaining replay retry).events →
      BackendCaused env origin (runAttempt ctx env attempt remaining replay retry).events id) ↔
    ClientBlameless ctx env origin (runAttempt ctx env attempt remaining replay retry).events := by
  have hcase := runAttempt_case ctx env attempt remaining replay retry
  generalize runAttempt ctx env attempt remaining replay retry = run at hcase ⊢
  have hgated : (∀ e ∈ run.events, e.isGate = true) →
      ((∀ id, .recordFailure id ∈ run.events → BackendCaused env origin run.events id) ↔
        ClientBlameless ctx env origin run.events) := by
    intro hgate
    refine iff_of_true ?_ ?_
    · intro id h
      exact absurd (hgate _ h) (by simp [Event.isGate])
    · intro b req h
      exact absurd (hgate _ h) (by simp [Event.isGate])
  cases hcase with
  | noBackend e hsel hgate hval => exact hgated hgate
  | skipped b msg hsel hadm hgate hval => exact hgated hgate
  | consumed b hsel hadm hreq hgate hval => exact hgated hgate
  | forwarded b req replay' fwd answer hsel hadm hreq hfwd hanswer htrace hrest hval =>
    have hforward := forwardRequest_case ctx env req b remaining
    rw [← hfwd] at hforward
    rw [htrace.clientBlameless_iff]
    simp only [mem_recordFailure, htrace.outcomes, htrace.backendCaused_iff]
    cases hforward with
    | undialed e hacquire hresult hevents =>
      refine iff_of_true ?_ fun _ hnone => absurd (hacquire.symm.trans hnone) (by simp)
      intro id hmem
      have hid : b.id = id := by
        rw [hresult, recordedOutcomes] at hmem
        split at hmem
        · cases hmem
        · exact (Prod.mk.inj (List.mem_singleton.mp hmem)).1.symm
      exact ⟨b, hid, .inl ⟨rfl, by simp [hacquire]⟩⟩
    | unwritable e hacquire hrewrite hresult hevents =>
      have hmiss := rewriteHeaders_isTransportMiss hrewrite
      cases hwake : b.wakeable with
      | true =>
        -- the request is parked and nothing is recorded
        refine iff_of_true ?_ fun h => absurd h (by simp)
        intro id hmem
        simp [hresult, recordedOutcomes, hwake, hmiss] at hmem
      | false =>
        refine iff_of_false ?_ ?_
        · intro h
          obtain ⟨b', -, ⟨rfl, hsome⟩ | ⟨copy, timeout, hsent, -⟩⟩ :=
            h b.id (by simp [hresult, recordedOutcomes, hwake])
          · simp [hacquire] at hsome
          · simp [hevents] at hsent
        · intro h
          obtain ⟨⟨headers, hok⟩, -⟩ := h rfl hacquire
          rw [hrewrite] at hok
          cases hok
    | sent headers copy hacquire hrewrite hresult hevents =>
      have hsent : Event.sent b copy remaining ∈ fwd.events := by simp [hevents]
      have hunique : ∀ {b' copy' timeout'}, Event.sent b' copy' timeout' ∈ fwd.events →
          b' = b ∧ copy' = copy ∧ timeout' = remaining := by
        intro b' copy' timeout' h
        simpa [hevents] using h
      cases hsend : env.send b copy remaining with
      | ok response =>
        -- what is recorded is the status of the backend
        refine iff_of_true ?_ ?_
        · intro id hmem
          rw [hresult, hsend, receiveResponse] at hmem
          obtain ⟨hid, hstatus⟩ := mem_recordedOutcomes_ok hmem
          exact ⟨b, hid, .inr ⟨copy, remaining, hsent, by rw [hsend]; exact hstatus⟩⟩
        · intro _ _
          refine ⟨⟨headers, hrewrite⟩, ?_⟩
          intro copy' timeout' msg hsent' hfails
          obtain ⟨-, rfl, rfl⟩ := hunique hsent'
          rw [hsend] at hfails
          cases hfails
      | error msg =>
        have hmem : ∀ id, (id, Outcome.failure) ∈ recordedOutcomes ctx attempt b fwd.val ↔
            b.wakeable = false ∧ id = b.id := by
          intro id
          cases hwake : b.wakeable <;>
          simp [hresult, hsend, receiveResponse, recordedOutcomes, ReductionError.isTransportMiss,
            hwake]
        cases hwake : b.wakeable with
        | true =>
          refine iff_of_true ?_ fun h => absurd h (by simp)
          intro id h
          exact absurd (hwake.symm.trans ((hmem id).mp h).1) (by simp)
        | false =>
          by_cases horigin : origin b copy remaining = .backend
          · refine iff_of_true ?_ ?_
            · intro id h
              refine ⟨b, ((hmem id).mp h).2.symm, .inr ⟨copy, remaining, hsent, ?_⟩⟩
              rw [hsend]
              exact horigin
            · intro _ _
              refine ⟨⟨headers, hrewrite⟩, ?_⟩
              intro copy' timeout' msg' hsent' _
              obtain ⟨-, rfl, rfl⟩ := hunique hsent'
              exact horigin
          · -- the failure of the client's side is recorded
            refine iff_of_false ?_ ?_
            · intro h
              obtain ⟨b', -, ⟨rfl, hsome⟩ | ⟨copy', timeout', hsent', hcause⟩⟩ :=
                h b.id ((hmem b.id).mpr ⟨hwake, rfl⟩)
              · simp [hacquire] at hsome
              · obtain ⟨rfl, rfl, rfl⟩ := hunique hsent'
                rw [hsend] at hcause
                exact horigin hcause
            · intro h
              exact horigin ((h rfl hacquire).2 copy remaining msg hsent hsend)

/-! ## Relays -/

/-- A relay that was refused its stream by the backend, or whose first I/O error is the backend's. -/
def RelayBackendCaused {R : Type} (openError : BackendConfig → Option ReductionError)
    (relay : RelayEnv) (events : List (RelayEvent R)) (id : BackendId) : Prop :=
  ∃ b : BackendConfig, b.id = id ∧
    ((.dialed b ∈ events ∧ (openError b).isSome) ∨
    (.relaying b ∈ events ∧ ∃ e, firstError relay.ios = some (.backend, e)))

/-- The first I/O error of a relay is not the client's. -/
def RelayClientBlameless {R : Type} (relay : RelayEnv) (events : List (RelayEvent R)) : Prop :=
  ∀ b e, .relaying b ∈ events → firstError relay.ios ≠ some (.client, e)

/-- A trace without a dial records nothing. -/
theorem relay_iff_of_undialed {R : Type} {events : List (RelayEvent R)}
    (hfailure : ∀ id, .recordFailure id ∉ events) (hrelaying : ∀ b, .relaying b ∉ events) :
    (∀ id, .recordFailure id ∈ events → RelayBackendCaused openError relay events id) ↔
      RelayClientBlameless relay events :=
  iff_of_true (fun id h => absurd h (hfailure id)) fun b _ h => absurd h (hrelaying b)

/-- A trace of a dial that failed records the backend's failure. -/
theorem relay_iff_of_failed_dial {R : Type} {events : List (RelayEvent R)}
    (hopen : openError b = some e) (hdialed : .dialed b ∈ events)
    (hfailure : ∀ id, .recordFailure id ∈ events → id = b.id)
    (hrelaying : ∀ b, .relaying b ∉ events) :
    (∀ id, .recordFailure id ∈ events → RelayBackendCaused openError relay events id) ↔
      RelayClientBlameless relay events := by
  refine iff_of_true ?_ fun b _ h => absurd h (hrelaying b)
  intro id h
  exact ⟨b, (hfailure id h).symm, .inl ⟨hdialed, by simp [hopen]⟩⟩

/-- A trace of a relay that came to its end records no failure. -/
theorem relay_iff_of_relayed {R : Type} {events : List (RelayEvent R)}
    (hok : firstError relay.ios = none) (hfailure : ∀ id, .recordFailure id ∉ events) :
    (∀ id, .recordFailure id ∈ events → RelayBackendCaused openError relay events id) ↔
      RelayClientBlameless relay events := by
  refine iff_of_true (fun id h => absurd h (hfailure id)) ?_
  intro b e _ hclient
  rw [hok] at hclient
  cases hclient

/-- A trace of a relay that failed records the failure of whichever side it was. -/
theorem relay_iff_of_failed_relay {R : Type} {events : List (RelayEvent R)} {side : Side}
    {msg : String} (hopen : openError b = none) (hfailed : firstError relay.ios = some (side, msg))
    (hdialed : ∀ b', .dialed b' ∈ events → b' = b) (hrelaying : .relaying b ∈ events)
    (hfailure : ∀ id, .recordFailure id ∈ events ↔ id = b.id) :
    (∀ id, .recordFailure id ∈ events → RelayBackendCaused openError relay events id) ↔
      RelayClientBlameless relay events := by
  cases side with
  | backend =>
    refine iff_of_true ?_ ?_
    · intro id h
      exact ⟨b, ((hfailure id).mp h).symm, .inr ⟨hrelaying, msg, hfailed⟩⟩
    · intro b' e _ hclient
      rw [hfailed] at hclient
      cases hclient
  | client =>
    refine iff_of_false ?_ fun h => h b msg hrelaying hfailed
    intro h
    obtain ⟨b', -, ⟨hdial, hsome⟩ | ⟨-, e, hbackend⟩⟩ := h b.id ((hfailure b.id).mpr rfl)
    · rw [hdialed b' hdial, hopen] at hsome
      cases hsome
    · rw [hfailed] at hbackend
      cases hbackend

theorem raw_backendCaused_iff (env : RawStreamEnv) :
    (∀ id, .recordFailure id ∈ (handleRawStream env).events →
      RelayBackendCaused env.acquireError env.relay (handleRawStream env).events id) ↔
    RelayClientBlameless env.relay (handleRawStream env).events := by
  have hcase := rawStream_case env
  generalize (handleRawStream env).events = events at hcase ⊢
  cases hcase with
  | unadmitted reason => exact relay_iff_of_undialed (by simp) (by simp)
  | unread => exact relay_iff_of_undialed (by simp) (by simp)
  | refused hadmitted reason => exact relay_iff_of_undialed (by simp) (by simp)
  | circuitOpen hadmitted b guard =>
    exact relay_iff_of_undialed (by simp [guardDrops]) (by simp [guardDrops])
  | noPermit hadmitted b answer guard =>
    exact relay_iff_of_undialed (by simp [guardDrops]) (by simp [guardDrops])
  | dialed b answer guard hgates events hrelay =>
    cases hrelay with
    | undialed e hopen =>
      exact relay_iff_of_failed_dial hopen (by simp) (by simp [guardDrops]) (by simp [guardDrops])
    | relayed stats hopen hok =>
      exact relay_iff_of_relayed hok (by simp [guardDrops])
    | failed side msg hopen hfailed =>
      exact relay_iff_of_failed_relay hopen hfailed (by simp [guardDrops]) (by simp)
        (by simp [guardDrops])

theorem tcp_backendCaused_iff (pool : BackendPool) (peer : SocketAddr) (env : TcpConnEnv) :
    (∀ id, .recordFailure id ∈ (handleConnection pool peer env).events →
      RelayBackendCaused env.openError env.relay (handleConnection pool peer env).events id) ↔
    RelayClientBlameless env.relay (handleConnection pool peer env).events := by
  have hcase := connection_case pool peer env
  generalize (handleConnection pool peer env).events = events at hcase ⊢
  cases hcase with
  | noBackend => exact relay_iff_of_undialed (by simp) (by simp)
  | circuitOpen b guard => exact relay_iff_of_undialed (by simp [guardDrops]) (by simp [guardDrops])
  | dialed b answer guard hselect hcircuit hclosed events hrelay =>
    cases hrelay with
    | undialed e hopen =>
      exact relay_iff_of_failed_dial hopen (by simp) (by simp [guardDrops]) (by simp [guardDrops])
    | relayed stats hopen hok =>
      exact relay_iff_of_relayed hok (by simp [guardDrops])
    | failed side msg hopen hfailed =>
      exact relay_iff_of_failed_relay hopen hfailed (by simp [guardDrops]) (by simp)
        (by simp [guardDrops])

/-! ## All that a proxy serves -/

/-- A request, a raw stream or a connection, with what it meets. -/
inductive Service where
  | http (state : ProxyState) (env : HandlerEnv) (req : Request) (origin : Nat → SendOrigin)
  | raw (env : RawStreamEnv)
  | tcp (pool : BackendPool) (peer : SocketAddr) (env : TcpConnEnv)

namespace Service

/-- Every failure that is recorded is of the backend it is recorded for. -/
def BackendCaused : Service → Prop
  | .http state env req origin =>
    ∀ log ∈ (proxyHandler state env req).attempts, ∀ id, .recordFailure id ∈ log.events →
      Reduction.BackendCaused (env.attempts log.attempt) (origin log.attempt) log.events id
  | .raw env => ∀ id, .recordFailure id ∈ (handleRawStream env).events →
      RelayBackendCaused env.acquireError env.relay (handleRawStream env).events id
  | .tcp pool peer env => ∀ id, .recordFailure id ∈ (handleConnection pool peer env).events →
      RelayBackendCaused env.openError env.relay (handleConnection pool peer env).events id

/-- Nothing fails on the client's side where a failure would be recorded. -/
def ClientBlameless : Service → Prop
  | .http state env req origin => ∀ p, (prologue state env req).val = .ok p →
      ∀ log ∈ (proxyHandler state env req).attempts,
        Reduction.ClientBlameless p.ctx (env.attempts log.attempt) (origin log.attempt) log.events
  | .raw env => RelayClientBlameless env.relay (handleRawStream env).events
  | .tcp pool peer env => RelayClientBlameless env.relay (handleConnection pool peer env).events

theorem http_backendCaused_iff (state : ProxyState) (env : HandlerEnv) (req : Request)
    (origin : Nat → SendOrigin) :
    (Service.http state env req origin).BackendCaused ↔
      (Service.http state env req origin).ClientBlameless := by
  have hlog : ∀ p, (prologue state env req).val = .ok p →
      ∀ log ∈ (proxyHandler state env req).attempts,
        ((∀ id, .recordFailure id ∈ log.events →
          Reduction.BackendCaused (env.attempts log.attempt) (origin log.attempt) log.events id) ↔
        Reduction.ClientBlameless p.ctx (env.attempts log.attempt) (origin log.attempt)
          log.events) := by
    intro p hp log hmem
    obtain ⟨p', hp', -, -, remaining, hat⟩ := mem_attempts hmem
    obtain rfl : p = p' := Except.ok.inj (hp.symm.trans hp')
    have hevents : log.events = (runAttempt p.ctx (env.attempts log.attempt) log.attempt remaining
        log.replay log.retry).events := congrArg AttemptLog.events hat
    rw [hevents]
    exact attempt_backendCaused_iff p.ctx _ _ _ _ _ _
  constructor
  · intro h p hp log hmem
    exact (hlog p hp log hmem).mp (h log hmem)
  · intro h log hmem
    obtain ⟨p, hp, -⟩ := mem_attempts hmem
    exact (hlog p hp log hmem).mpr (h p hp log hmem)

end Service

theorem http_not_backendCaused {state : ProxyState} {env : HandlerEnv} {origin : Nat → SendOrigin}
    (hfailed : (id, Outcome.failure) ∈ (proxyHandler state env req).attempts.flatMap
      fun log => log.events.filterMap Event.outcome?)
    (hcause : ∀ (log : AttemptLog) (id : BackendId),
      ¬ Reduction.BackendCaused (env.attempts log.attempt) (origin log.attempt) log.events id) :
    ¬ (Service.http state env req origin).BackendCaused := by
  intro h
  obtain ⟨log, hlog, hmem⟩ := List.mem_flatMap.mp hfailed
  exact hcause log id (h log hlog id (mem_recordFailure.mpr hmem))

/-- In all that a proxy serves, every recorded failure is the backend's if and only if nothing fails
    on a client's side where a failure would be recorded. -/
theorem failures_backend_caused_iff (services : List Service) :
    (∀ s ∈ services, s.BackendCaused) ↔ ∀ s ∈ services, s.ClientBlameless := by
  refine forall_congr' fun s => imp_congr_right fun _ => ?_
  cases s with
  | http state env req origin => exact Service.http_backendCaused_iff state env req origin
  | raw env => exact raw_backendCaused_iff env
  | tcp pool peer env => exact tcp_backendCaused_iff pool peer env

end

namespace Sample

/-- A client whose certificate has a control character in its name. -/
def controlName : PeerIdentity :=
  { commonName := ⟨[100, 1], by decide⟩, spkiSha256 := .replicate 32 0 }

def namedClient : HandlerEnv :=
  { answering .ok with connectAddr := some (clientAddr, some controlName) }

/-- A body that the client breaks off. -/
def brokenPost : Request := { request .post [] with body := ⟨[1, 2, 3], .failed⟩ }

/-- Sending ends with the error of the body. -/
def bodyFails : HandlerEnv :=
  env twoBackends fun _ => { attempt .ok with send := fun _ _ _ => .error "request body failed" }

/-- The client sends a byte and resets its connection. -/
def clientResets : RelayEnv :=
  { ios := [⟨.client, true, .ok 1⟩, ⟨.backend, false, .ok 1⟩,
      ⟨.client, true, .error "connection reset"⟩]
    ended := .completed
    duration := 0 }

def rawReset : RawStreamEnv :=
  { acl := { allow := [], deny := [] }
    rateLimited := false
    clientIp := clientAddr
    identity := some controlName
    revocation := { spki := [], backendIds := [] }
    routingHeader := .ok (Bytes.ascii "relay")
    authz :=
      { byBackend := (∅ : DashMap BackendId BackendPolicy).insert
          ⟨Bytes.ascii "relay", by decide⟩ { cns := [controlName.commonName], spkis := [] } }
    backendPools := fun _ => some twoBackends
    balancer
    circuit := fun _ => (.closed, none)
    permit := fun _ => true
    acquireError := fun _ => none
    relay := clientResets }

def tcpReset : TcpConnEnv :=
  { weightFactor := balancer.weightFactor
    ln := balancer.ln
    circuit := fun _ => (.closed, none)
    openError := fun _ => none
    relay := clientResets }

end Sample

open Sample in
/-- A client whose name is not a header value, one whose body fails, and two that reset a relay each
    give the backend a failure that is not its own. -/
theorem client_failures_recorded :
    let peer : SocketAddr := { ip := .v4 #v[192, 0, 2, 1], port := 4000 }
    (proxyHandler (state 0) namedClient (request .get [])).attempts.flatMap
        (fun log => log.events.filterMap Event.outcome?) = [(b1.id, .failure)] ∧
    (proxyHandler (state 0) bodyFails brokenPost).attempts.flatMap
        (fun log => log.events.filterMap Event.outcome?) = [(b1.id, .failure)] ∧
    (handleRawStream rawReset).events.filterMap RelayEvent.outcome? = [(b1.id, .failure)] ∧
    (handleConnection twoBackends peer tcpReset).events.filterMap RelayEvent.outcome? =
      [(b1.id, .failure)] ∧
    ¬ (Service.http (state 0) namedClient (request .get [])
      fun _ _ _ _ => .backend).BackendCaused ∧
    ¬ (Service.http (state 0) bodyFails brokenPost fun _ _ _ _ => .client).BackendCaused ∧
    ¬ (Service.raw rawReset).BackendCaused ∧
    ¬ (Service.tcp twoBackends peer tcpReset).BackendCaused := by
  intro peer
  have hnamed : (proxyHandler (state 0) namedClient (request .get [])).attempts.flatMap
      (fun log => log.events.filterMap Event.outcome?) = [(b1.id, .failure)] := by decide +kernel
  have hbody : (proxyHandler (state 0) bodyFails brokenPost).attempts.flatMap
      (fun log => log.events.filterMap Event.outcome?) = [(b1.id, .failure)] := by decide +kernel
  have hraw : (handleRawStream rawReset).events.filterMap RelayEvent.outcome? =
      [(b1.id, .failure)] := by decide +kernel
  have htcp : (handleConnection twoBackends peer tcpReset).events.filterMap RelayEvent.outcome? =
      [(b1.id, .failure)] := by decide +kernel
  refine ⟨hnamed, hbody, hraw, htcp, ?_, ?_, ?_, ?_⟩
  · -- The backend would have answered 200, had it been asked.
    refine http_not_backendCaused (hnamed ▸ List.mem_singleton_self _) ?_
    have hstatus : isRetryableStatus .ok = false ∧ StatusCode.ok.isServerError = false := by decide
    intro log id
    simp [BackendCaused, namedClient, answering, env, attempt, hstatus]
  · refine http_not_backendCaused (hbody ▸ List.mem_singleton_self _) ?_
    intro log id
    simp [BackendCaused, bodyFails, env, attempt]
  · intro h
    have hcaused := h b1.id (mem_relay_recordFailure.mpr (hraw ▸ List.mem_singleton_self _))
    simp [RelayBackendCaused, rawReset, clientResets, firstError] at hcaused
  · intro h
    have hcaused := h b1.id (mem_relay_recordFailure.mpr (htcp ▸ List.mem_singleton_self _))
    simp [RelayBackendCaused, tcpReset, clientResets, firstError] at hcaused

end Reduction
