import Reduction.Spec.BalancerCorrect
import Reduction.Spec.RetrySafety

/-!
# When the retry loop reaches a backend

Rounds that the gate turns away use up attempts as forwards do.  So whether a
request is forwarded depends on how far down the balancer's successive choices
the first admitted one is; the theorems here say so exactly, for a request from
its start and for one that a wake has released.
-/

namespace Reduction

open Http Traced

/-! ## The balancer's successive choices -/

section Choices

variable (pool : BackendPool) (clientIp : IpAddr) (env : Nat → AttemptEnv)

/-- The balancer's choice in round `k` from attempt number `attempt` on, each choice being excluded
    from the later ones; an error if one of the rounds finds no backend. -/
def choiceAfter : (k attempt : Nat) → List BackendId → Except ReductionError BackendConfig
  | 0, attempt, failed => selectBackend pool clientIp (env attempt) failed
  | k + 1, attempt, failed =>
    match selectBackend pool clientIp (env attempt) failed with
    | .ok b => choiceAfter k (attempt + 1) (markFailed failed b.id)
    | .error e => .error e

/-- Round `k` from `attempt` on is in time, as are the rounds before it, and the gate admits the
    balancer's choice in it. -/
def OpensAt (deadline : Instant) (budget : Duration) (k attempt : Nat) (failed : List BackendId) :
    Prop :=
  (∀ j ≤ k, remainingBudget deadline budget (env (attempt + j)).now ≠ none) ∧
    ∃ b, choiceAfter pool clientIp env k attempt failed = .ok b ∧
      (env (attempt + k)).admits b = true

variable {pool clientIp env} {deadline : Instant} {budget : Duration} {k attempt : Nat}
  {failed : List BackendId}

theorem opensAt_zero :
    OpensAt pool clientIp env deadline budget 0 attempt failed ↔
      remainingBudget deadline budget (env attempt).now ≠ none ∧
        ∃ b, selectBackend pool clientIp (env attempt) failed = .ok b ∧
          (env attempt).admits b = true := by
  simp [OpensAt, choiceAfter]

/-- The rounds after the first one are those of the next attempt, with the first choice excluded. -/
theorem opensAt_succ :
    OpensAt pool clientIp env deadline budget (k + 1) attempt failed ↔
      remainingBudget deadline budget (env attempt).now ≠ none ∧
        ∃ b, selectBackend pool clientIp (env attempt) failed = .ok b ∧
          OpensAt pool clientIp env deadline budget k (attempt + 1) (markFailed failed b.id) := by
  have hshift : ∀ j, attempt + (j + 1) = attempt + 1 + j := fun j => by omega
  have hbudget : (∀ j ≤ k + 1, remainingBudget deadline budget (env (attempt + j)).now ≠ none) ↔
      remainingBudget deadline budget (env attempt).now ≠ none ∧
        ∀ j ≤ k, remainingBudget deadline budget (env (attempt + 1 + j)).now ≠ none := by
    constructor
    · intro h
      refine ⟨h 0 (Nat.zero_le _), fun j hj => ?_⟩
      rw [← hshift]
      exact h (j + 1) (by omega)
    · rintro ⟨hzero, hrest⟩ j hj
      cases j with
      | zero => exact hzero
      | succ j => exact hshift j ▸ hrest j (by omega)
  rw [OpensAt, hbudget, hshift k, choiceAfter]
  cases selectBackend pool clientIp (env attempt) failed with
  | error e => simp
  | ok b => simp [OpensAt, and_assoc]

end Choices

/-! ## The loop -/

/-- The replay body can still yield a request. -/
def ReplayBody.Available (replay : ReplayBody) : Prop :=
  replay.bodyBytes.isSome = true ∨ replay.streamingBody.isSome = true

variable {replay : ReplayBody} {env : AttemptEnv}

theorem buildRetryReq_of_available (h : replay.Available) :
    buildRetryReq replay ≠ (none, replay) := by
  unfold buildRetryReq
  cases hbytes : replay.bodyBytes with
  | some bytes => simp
  | none =>
    cases hbody : replay.streamingBody with
    | some body => simp
    | none => simp [ReplayBody.Available, hbytes, hbody] at h

section Loop

variable (ctx : RequestCtx) (env : Nat → AttemptEnv) (deadline : Instant) (budget : Duration)

/-- An attempt that has a body to send forwards it exactly if the gate admits the balancer's choice;
    otherwise it ends the loop for want of a backend, or goes on with the choice excluded. -/
theorem attemptAt_forwards_iff (attempt : Nat) (remaining : Duration) {replay : ReplayBody}
    (retry : RetryState) (havail : replay.Available) :
    let choice := selectBackend ctx.pool ctx.clientIp (env attempt) retry.failedBackends
    let run := runAttempt ctx (env attempt) attempt remaining replay retry
    ((attemptAt ctx env attempt remaining replay retry).forwards ≠ [] ∧
      ∃ b, choice = .ok b ∧ (env attempt).admits b = true) ∨
    ((attemptAt ctx env attempt remaining replay retry).forwards = [] ∧
      ((∃ e, choice = .error e ∧ run.val.1 = .break) ∨
        ∃ b msg, choice = .ok b ∧ (env attempt).admits b = false ∧
          run.val = (.continue, replay, retry.skip b msg))) := by
  simp only [AttemptLog.forwards, attemptAt]
  cases runAttempt_case ctx (env attempt) attempt remaining replay retry with
  | noBackend e hsel hgate hval =>
    exact .inr ⟨filterMap_gate forward?_of_gate hgate, .inl ⟨e, hsel, by rw [hval]⟩⟩
  | skipped b msg hsel hadm hgate hval =>
    exact .inr ⟨filterMap_gate forward?_of_gate hgate, .inr ⟨b, msg, hsel, hadm, hval⟩⟩
  | consumed b hsel hadm hreq hgate hval => exact absurd hreq (buildRetryReq_of_available havail)
  | forwarded b req replay' fwd answer hsel hadm hreq hfwd hanswer htrace hrest hval =>
    exact .inl ⟨by rw [htrace.forwards]; simp, b, hsel, hadm⟩

/-- A loop that has a body to send forwards it exactly if the gate opens in one of its rounds. -/
theorem retryLoop_forwards_iff (left attempt : Nat) (replay : ReplayBody) (retry : RetryState) :
    replay.Available →
      ((∃ log ∈ (retryLoop ctx env deadline budget left attempt replay retry).1,
          log.forwards ≠ []) ↔
        ∃ k < left, OpensAt ctx.pool ctx.clientIp env deadline budget k attempt
          retry.failedBackends) := by
  -- round 0 of the loop is this attempt; round `k + 1` is round `k` of the rest
  induction left, attempt, replay, retry using retryLoop_induction ctx env deadline budget with
  | nil attempt replay retry => simp
  | late left attempt replay retry hbudget =>
    intro _
    simp only [List.not_mem_nil, false_and, exists_false, false_iff, not_exists, not_and]
    intro k _ hopens
    exact hopens.1 0 (Nat.zero_le _) hbudget
  | stop left attempt remaining replay retry hbudget hstop =>
    intro havail
    have hintime : remainingBudget deadline budget (env attempt).now ≠ none := by simp [hbudget]
    rcases attemptAt_forwards_iff ctx env attempt remaining retry havail with
      ⟨hfwd, b, hsel, hadm⟩ | ⟨hnone, ⟨e, hsel, -⟩ | ⟨b, msg, -, -, hval⟩⟩
    · refine iff_of_true ⟨_, List.mem_singleton_self _, hfwd⟩ ⟨0, Nat.succ_pos _, ?_⟩
      exact opensAt_zero.mpr ⟨hintime, b, hsel, hadm⟩
    · -- no round is left to open: the first one has no choice
      refine iff_of_false (by simp [hnone]) ?_
      rintro ⟨k, -, hopens⟩
      cases k with
      | zero => simp [opensAt_zero, hsel] at hopens
      | succ k => simp [opensAt_succ, hsel] at hopens
    · exact absurd (by rw [hval]) hstop
  | step left attempt remaining replay retry replay' retry' hbudget hrun ih =>
    intro havail
    have hintime : remainingBudget deadline budget (env attempt).now ≠ none := by simp [hbudget]
    rcases attemptAt_forwards_iff ctx env attempt remaining retry havail with
      ⟨hfwd, b, hsel, hadm⟩ | ⟨hnone, ⟨e, -, hbreak⟩ | ⟨b, msg, hsel, hadm, hval⟩⟩
    · refine iff_of_true ⟨_, List.mem_cons_self, hfwd⟩ ⟨0, Nat.succ_pos _, ?_⟩
      exact opensAt_zero.mpr ⟨hintime, b, hsel, hadm⟩
    · rw [hrun] at hbreak
      cases hbreak
    · -- a round that is turned away: what the rest does, the loop does
      rw [hrun, Prod.mk.injEq, Prod.mk.injEq] at hval
      obtain ⟨-, rfl, rfl⟩ := hval
      have hrest := ih havail
      simp only [List.mem_cons, exists_eq_or_imp, hnone, ne_eq, not_true_eq_false,
        false_or] at hrest ⊢
      rw [hrest]
      constructor
      · rintro ⟨k, hk, hopens⟩
        exact ⟨k + 1, by omega, opensAt_succ.mpr ⟨hintime, b, hsel, hopens⟩⟩
      · rintro ⟨k, hk, hopens⟩
        cases k with
        | zero => simp [opensAt_zero, hsel, hadm] at hopens
        | succ k =>
          obtain ⟨-, b', hsel', hopens⟩ := opensAt_succ.mp hopens
          obtain rfl : b = b' := Except.ok.inj (hsel.symm.trans hsel')
          exact ⟨k, by omega, hopens⟩

end Loop

theorem proxyHandler_forwards_ne_nil (state : ProxyState) (env : HandlerEnv) (req : Request) :
    (proxyHandler state env req).forwards ≠ [] ↔
      ∃ log ∈ (proxyHandler state env req).attempts, log.forwards ≠ [] := by
  rw [proxyHandler_forwards, ne_eq, List.flatMap_eq_nil_iff]
  simp

/-! ## Pools with a backend to spare -/

/-- Throughout the request, some backend of the pool has a positive effective weight, a free
    connection permit and a breaker that admits it. -/
def Serviceable (pool : BackendPool) (env : Nat → AttemptEnv) : Prop :=
  ∃ b ∈ pool.backends, ∀ k, F64.zero.lt ((env k).untried.weight b) = true ∧
    F64.zero.lt ((env k).anyBackend.weight b) = true ∧ (env k).admits b = true

/-- As long as a backend that is always admitted has not been excluded, the balancer finds an
    untried backend. -/
theorem selectBackend_untried {pool : BackendPool} (clientIp : IpAddr) {failed : List BackendId}
    {good : BackendConfig} (hgood : good ∈ pool.backends)
    (hweight : F64.zero.lt (env.untried.weight good) = true) (hfresh : good.id ∉ failed) :
    ∃ b ∈ pool.backends, b.id ∉ failed ∧ selectBackend pool clientIp env failed = .ok b := by
  have helig : BackendPool.Eligible env.untried failed good := ⟨F64.not_le_of_lt hweight, hfresh⟩
  obtain ⟨b, hsel⟩ := BackendPool.select_isSome clientIp hgood helig
  obtain ⟨hmem, -, hnotin⟩ := BackendPool.select_mem hsel
  exact ⟨b, hmem, hnotin, by simp [selectBackend, selectBackendExcluding, hsel]⟩

/-! ## From the start of a request -/

/-- A routed request is forwarded exactly if its body can be prepared and the gate opens in one of
    the rounds that the request is allowed: a backend that the gate turns away costs a round. -/
theorem forwarded_iff_gate_opens {state : ProxyState} {env : HandlerEnv} {req : Request}
    {clientIp : IpAddr} {identity : Option PeerIdentity} {neg : CacheNegotiation} {info : RouteInfo}
    (hrouted : Routed state env req clientIp identity neg info) :
    (proxyHandler state env req).forwards ≠ [] ↔
      (∃ prepared,
        (prepareReplayBody state env req neg.requestIsZstd info.backendId).val = .ok prepared) ∧
      ∃ k < attemptsAllowed state req.parts,
        OpensAt info.pool clientIp env.attempts (env.start + info.requestTimeout)
          (Duration.fromSecs state.timeouts.connectSecs.val.toNat) k 0 [] := by
  rw [proxyHandler_forwards_ne_nil]
  rcases hrouted.prologue_cases with
    ⟨response, hbody, hpre⟩ | ⟨prepared, p, hbody, hpre, hpool, hip, htimeout⟩
  · simp [proxyHandler_attempts_of_error hpre, hbody]
  · have hof := prologue_ok hpre
    have hloop := retryLoop_forwards_iff p.ctx env.attempts (env.start + p.requestTimeout)
      (Duration.fromSecs p.ctx.state.timeouts.connectSecs.val.toNat) p.ctx.maxAttempts 0 p.replay
      .new hof.available
    rw [hpool, hip, htimeout, hof.state_eq, hof.maxAttempts_eq] at hloop
    rw [proxyHandler_attempts_of_ok hpre, Prepared.loop, htimeout, hof.state_eq, hof.maxAttempts_eq,
      hloop]
    simp [hbody, RetryState.new]

example : attemptsAllowed (Sample.state 0) (Sample.request .get []).parts = 1 := by decide +kernel

theorem plain_get_is_forwarded :
    (proxyHandler (Sample.state 0) (Sample.answering .ok) (Sample.request .get [])).forwards ≠
      [] := by
  refine (forwarded_iff_gate_opens (Sample.routed 0 _ _)).mpr ⟨⟨_, rfl⟩, 0, by decide, ?_⟩
  exact opensAt_zero.mpr ⟨by decide, Sample.b1, by decide +kernel, by decide⟩

/-- One attempt, and the breaker of the first choice is open: the request is answered without having
    been forwarded, although the other backend would have taken it all along. -/
theorem open_circuit_skips_request :
    Routed (Sample.state 0) Sample.firstOpen (Sample.request .get []) (.v4 #v[192, 0, 2, 1]) none
      Sample.negotiation (Sample.route Sample.twoBackends) ∧
    attemptsAllowed (Sample.state 0) (Sample.request .get []).parts = 1 ∧
    Serviceable Sample.twoBackends Sample.firstOpen.attempts ∧
    (∀ k, remainingBudget
      (Sample.firstOpen.start + (Sample.route Sample.twoBackends).requestTimeout)
      (Duration.fromSecs (Sample.state 0).timeouts.connectSecs.val.toNat)
      (Sample.firstOpen.attempts k).now ≠ none) ∧
    (proxyHandler (Sample.state 0) Sample.firstOpen (Sample.request .get [])).forwards = [] := by
  have hserves : Serviceable Sample.twoBackends Sample.firstOpen.attempts := by
    have hweight : F64.zero.lt (Sample.balancer.weight Sample.b2) = true := by decide +kernel
    refine ⟨Sample.b2, by simp [Sample.twoBackends], fun k => ⟨hweight, hweight, ?_⟩⟩
    show (Sample.firstOpen.attempts 0).admits Sample.b2 = true
    decide
  refine ⟨Sample.routed 0 _ _, by decide, hserves, fun k => ?_, by decide +kernel⟩
  show remainingBudget _ _ (Sample.firstOpen.attempts 0).now ≠ none
  decide

/-! ## After a released park -/

/-- Where an attempt stands in the loop: it was made from its recorded state, and what follows it is
    the loop from the state that it left, if it continued. -/
theorem retryLoop_split (ctx : RequestCtx) (env : Nat → AttemptEnv) (deadline : Instant)
    (budget : Duration) (left attempt : Nat) (replay : ReplayBody) (retry : RetryState) :
    ∀ pre log post,
      (retryLoop ctx env deadline budget left attempt replay retry).1 = pre ++ log :: post →
      ∃ remaining left', log = attemptAt ctx env log.attempt remaining log.replay log.retry ∧
        log.attempt + 1 + left' = attempt + left ∧
        ∀ replay' retry', (runAttempt ctx (env log.attempt) log.attempt remaining log.replay
            log.retry).val = (.continue, replay', retry') →
          post = (retryLoop ctx env deadline budget left' (log.attempt + 1) replay' retry').1 := by
  induction left, attempt, replay, retry using retryLoop_induction ctx env deadline budget with
  | nil attempt replay retry => simp
  | late left attempt replay retry hbudget => simp
  | stop left attempt remaining replay retry hbudget hstop =>
    intro pre log post heq
    obtain ⟨rfl, rfl, rfl⟩ : pre = [] ∧ log = attemptAt ctx env attempt remaining replay retry ∧
        post = [] := by
      cases pre with
      | nil => simpa [eq_comm] using heq
      | cons _ _ => simp at heq
    refine ⟨remaining, left, rfl, by simp [attemptAt]; omega, fun replay' retry' hval => ?_⟩
    exact absurd (congrArg Prod.fst hval) hstop
  | step left attempt remaining replay retry replay' retry' hbudget hrun ih =>
    intro pre log post heq
    cases pre with
    | nil =>
      obtain ⟨rfl, rfl⟩ := List.cons.inj heq
      refine ⟨remaining, left, rfl, by simp [attemptAt]; omega, fun replay'' retry'' hval => ?_⟩
      obtain ⟨-, rfl, rfl⟩ : AttemptOutcome.continue = .continue ∧ replay' = replay'' ∧
          retry' = retry'' := by
        have := hrun.symm.trans hval
        simpa using this
      rfl
    | cons first pre =>
      obtain ⟨-, hrest⟩ := List.cons.inj heq
      obtain ⟨remaining', left', hlog, hcount, hpost⟩ := ih pre log post hrest
      exact ⟨remaining', left', hlog, by omega, hpost⟩

/-- A released park was an attempt that forwarded, and it leaves the retry state as it was. -/
theorem runAttempt_parked {ctx : RequestCtx} {attempt : Nat} {remaining : Duration}
    {retry : RetryState} {id : BackendId}
    (h : .parked id true ∈ (runAttempt ctx env attempt remaining replay retry).events) :
    ∃ req replay', buildRetryReq replay = (some req, replay') ∧
      (runAttempt ctx env attempt remaining replay retry).val = (.continue, replay', retry) := by
  generalize hrun : runAttempt ctx env attempt remaining replay retry = run at h ⊢
  -- nothing is parked at the gate
  have hstays : (∀ e ∈ run.events, e.isGate = true) → False := fun hgate => by
    simpa [Event.isGate] using hgate _ h
  cases hrun ▸ runAttempt_case ctx env attempt remaining replay retry with
  | noBackend e hsel hgate hval => exact (hstays hgate).elim
  | skipped b msg hsel hadm hgate hval => exact (hstays hgate).elim
  | consumed b hsel hadm hreq hgate hval => exact (hstays hgate).elim
  | forwarded b req replay' fwd answer hsel hadm hreq hfwd hanswer htrace hrest hval =>
    have hanswered := hrest _ h rfl rfl
    rw [hanswer] at hanswered
    have hcontinue := handleResponse_parked hanswered
    rw [← hanswer] at hcontinue
    exact ⟨req, replay', hreq, by rw [hval, hcontinue]⟩

/-- After a park was released, the request is forwarded again exactly if its body is buffered and
    the gate opens in one of the rounds that are left. -/
theorem released_park_forwards_iff {state : ProxyState} {env : HandlerEnv} {req : Request}
    {p : Prepared} (hpre : (prologue state env req).val = .ok p) {before after : List AttemptLog}
    {log : AttemptLog} (hattempts : (proxyHandler state env req).attempts = before ++ log :: after)
    (hreleased : log.released = true) :
    (∃ later ∈ after, later.forwards ≠ []) ↔
      log.replay.bodyBytes.isSome = true ∧
      ∃ k, log.attempt + 1 + k < attemptsAllowed state req.parts ∧
        OpensAt p.ctx.pool p.ctx.clientIp env.attempts (env.start + p.requestTimeout)
          (Duration.fromSecs state.timeouts.connectSecs.val.toNat) k (log.attempt + 1)
          log.retry.failedBackends := by
  obtain ⟨id, hparked⟩ := AttemptLog.exists_parked hreleased
  have hof := prologue_ok hpre
  rw [proxyHandler_attempts_of_ok hpre, Prepared.loop, hof.state_eq, hof.maxAttempts_eq] at hattempts
  obtain ⟨remaining, left', hlog, hcount, hpost⟩ := retryLoop_split _ _ _ _ _ _ _ _ _ _ _ hattempts
  rw [hlog] at hparked
  obtain ⟨request, replay', hreq, hval⟩ := runAttempt_parked hparked
  rw [hpost replay' log.retry hval]
  have hbytes := (buildRetryReq_same log.replay).2
  rw [hreq] at hbytes
  cases hbody : log.replay.bodyBytes with
  | none =>
    -- the body has been taken, so the rest of the loop forwards nothing
    obtain ⟨-, hnone, hgone⟩ := buildRetryReq_streaming hbody hreq
    have hrest := retryLoop_forwards_streaming p.ctx env.attempts (env.start + p.requestTimeout)
      (Duration.fromSecs state.timeouts.connectSecs.val.toNat) left' (log.attempt + 1) replay'
      log.retry hnone
    simp only [hgone, Option.isSome_none, Bool.false_eq_true, if_false, Nat.le_zero,
      List.length_eq_zero_iff, List.flatMap_eq_nil_iff] at hrest
    simp only [Option.isSome_none, Bool.false_eq_true, false_and, iff_false, not_exists, not_and]
    exact fun later hlater => not_not_intro (hrest later hlater)
  | some bytes =>
    have havail : replay'.Available := .inl (by rw [hbytes, hbody]; rfl)
    -- what follows the park is a loop of its own, over the rounds that are left
    rw [retryLoop_forwards_iff p.ctx env.attempts _ _ left' (log.attempt + 1) replay' log.retry
      havail]
    have hleft : ∀ k, k < left' ↔ log.attempt + 1 + k < attemptsAllowed state req.parts := by
      intro k
      omega
    simp [hleft]

theorem cold_start_is_forwarded_again :
    let run := proxyHandler (Sample.state 1) Sample.coldStart (Sample.request .get [])
    ∃ log after, run.attempts = log :: after ∧ log.released = true ∧
      ∃ later ∈ after, later.forwards ≠ [] := by
  intro run
  have hhead : run.attempts.head?.map (fun log =>
      (log.released, log.attempt, log.replay.bodyBytes.isSome, log.retry.failedBackends)) =
        some (true, 0, true, []) := by
    decide +kernel
  cases hrun : run.attempts with
  | nil => simp [hrun] at hhead
  | cons log after =>
    simp only [hrun, List.head?_cons, Option.map_some, Option.some.injEq, Prod.mk.injEq] at hhead
    obtain ⟨hreleased, hattempt, hbody, hfailed⟩ := hhead
    have hsplit : run.attempts = [] ++ log :: after := hrun
    refine ⟨log, after, rfl, hreleased, ?_⟩
    refine (released_park_forwards_iff rfl hsplit hreleased).mpr ⟨hbody, 0, ?_, ?_⟩
    · rw [hattempt]
      decide
    · rw [hattempt, hfailed]
      exact opensAt_zero.mpr ⟨by decide, Sample.b1Cold, by decide +kernel, by decide⟩

/-- With one attempt allowed, the request that the wake released is answered without a second
    forward, although it is in time for one. -/
theorem released_park_ends_request :
    (proxyHandler (Sample.state 0) Sample.coldStart (Sample.request .get [])).attempts.map
      (fun log => (log.attempt, log.released, log.forwards.length)) = [(0, true, 1)] ∧
    remainingBudget (Sample.coldStart.start + (Sample.route Sample.coldPool).requestTimeout)
      (Duration.fromSecs (Sample.state 0).timeouts.connectSecs.val.toNat)
      (Sample.coldStart.attempts 1).now ≠ none :=
  ⟨by decide +kernel, by decide⟩

end Reduction
