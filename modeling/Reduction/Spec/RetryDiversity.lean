import Reduction.Spec.RetryProgress

/-!
# Which backends a request tries

Every iteration of the retry loop that goes on marks its backend as failed, park
for a wake apart, and the next selection passes over the marked ones as long as
there is another backend to select.

- `retries_are_diverse`: the selections of a request are pairwise distinct until every
  backend of positive weight has been selected, and a backend of a weight of at
  most zero is never selected
-/

namespace Reduction

open Http Traced

/-! ## The selection of an iteration -/

def Event.selected? : Event → Option BackendId
  | .selected id => some id
  | _ => none

/-- The backend that an iteration selected, if it found one. -/
def AttemptLog.selection (log : AttemptLog) : Option BackendId :=
  log.events.findSome? Event.selected?

variable {ctx : RequestCtx} {env : Nat → AttemptEnv} {attempt : Nat} {remaining : Duration}
  {replay : ReplayBody} {retry : RetryState}

theorem selection_of_ok {b : BackendConfig}
    (hsel : selectBackend ctx.pool ctx.clientIp (env attempt) retry.failedBackends = .ok b) :
    (attemptAt ctx env attempt remaining replay retry).selection = some b.id := by
  have hgate : ∃ rest, (selectAndGate ctx (env attempt) retry).events = .selected b.id :: rest := by
    simp only [selectAndGate, hsel, events_bind, events_emit, List.singleton_append]
    exact ⟨_, rfl⟩
  obtain ⟨rest, hrest⟩ := hgate
  simp only [AttemptLog.selection, attemptAt, runAttempt, events_bind, hrest, List.cons_append,
    List.findSome?_cons, Event.selected?]

theorem selection_of_error {e : ReductionError}
    (hsel : selectBackend ctx.pool ctx.clientIp (env attempt) retry.failedBackends = .error e) :
    (attemptAt ctx env attempt remaining replay retry).selection = none := by
  simp [AttemptLog.selection, attemptAt, runAttempt, selectAndGate, hsel]

/-! ## What an iteration that goes on leaves behind -/

/-- Delivering a response ends the loop. -/
theorem deliverResponse_ne_continue (ctx : RequestCtx) (s : Selected) (response : Response)
    (reqParts : Parts) : (deliverResponse ctx s response reqParts).val ≠ .continue := by
  cases hserver : response.status.isServerError <;>
  cases hcache : shouldCacheResponse ctx response response.status
    (.fromResponse response.headers) <;>
  cases hbody : response.body.collect <;>
  simp [deliverResponse, storeAndRespond, hserver, hcache, hbody]

variable {retry' : RetryState}

/-- An answer after which the loop goes on has parked or has marked the backend as failed. -/
theorem handleResponse_parked_or_failed {env : AttemptEnv} {s : Selected}
    {result : Except ReductionError Response} {reqParts : Parts}
    (h : (handleResponse ctx env attempt s result reqParts retry).val = (.continue, retry')) :
    (∃ released, .parked s.backend.id released ∈
      (handleResponse ctx env attempt s result reqParts retry).events) ∨
    retry'.failedBackends = markFailed retry.failedBackends s.backend.id := by
  cases result with
  | error e =>
    cases hcold : (s.backend.wakeable && e.isTransportMiss) with
    | true =>
      refine .inl ⟨env.wake s.backend, ?_⟩
      simp [handleResponse, handleForwardError, hcold, parkForWake]
    | false =>
      by_cases hmore : attempt + 1 < ctx.maxAttempts
      · simp [handleResponse, handleForwardError, hcold, hmore] at h
        exact .inr (by rw [← h])
      · simp [handleResponse, handleForwardError, hcold, hmore] at h
  | ok response =>
    have hdeliver := deliverResponse_ne_continue ctx s response reqParts
    cases hretry : isRetryableStatus response.status with
    | false =>
      simp [handleResponse, hretry] at h
      exact absurd h.1 hdeliver
    | true =>
      by_cases hmore : attempt + 1 < ctx.maxAttempts
      · simp [handleResponse, hretry, hmore] at h
        exact .inr (by rw [← h])
      · simp [handleResponse, hretry, hmore] at h
        exact absurd h.1 hdeliver

/-- An iteration that goes on without a park has marked its backend as failed. -/
theorem failedBackends_of_continue {replay' : ReplayBody}
    (hval : (runAttempt ctx (env attempt) attempt remaining replay retry).val =
      (.continue, replay', retry'))
    (hparks : (attemptAt ctx env attempt remaining replay retry).parks = false) :
    ∃ b, selectBackend ctx.pool ctx.clientIp (env attempt) retry.failedBackends = .ok b ∧
      retry'.failedBackends = markFailed retry.failedBackends b.id := by
  cases runAttempt_case ctx (env attempt) attempt remaining replay retry with
  | noBackend e hsel hgate hbreak =>
    rw [hval] at hbreak
    cases hbreak
  | skipped b msg hsel hadm hgate hskip =>
    rw [hval] at hskip
    cases hskip
    exact ⟨b, hsel, rfl⟩
  | consumed b hsel hadm hreq hgate hbreak =>
    rw [hval] at hbreak
    cases hbreak
  | forwarded b req replay'' fwd answer hsel hadm hreq hfwd hanswer htrace hrest hforward =>
    refine ⟨b, hsel, ?_⟩
    rw [hval, Prod.mk.injEq, Prod.mk.injEq] at hforward
    obtain ⟨houtcome, -, hretry⟩ := hforward
    have hcontinue : answer.val = (.continue, retry') := Prod.ext houtcome.symm hretry.symm
    rw [hanswer] at hcontinue
    rcases handleResponse_parked_or_failed hcontinue with ⟨released, hparked⟩ | hfailed
    · -- the park would be among the events of the attempt
      have hevents := runAttempt_events_forwarded attempt remaining hsel hadm hreq
      rw [AttemptLog.parks, attemptAt, hevents, ← hfwd, List.any_eq_false] at hparks
      exact absurd rfl (hparks _ (List.mem_append_right _ (List.mem_cons_of_mem _ hparked)))
    · exact hfailed

/-! ## The selections of a request -/

/-- The effective weights are `weight`, at each selection of the request. -/
def SteadyWeights (pool : BackendPool) (env : Nat → AttemptEnv) (weight : BackendConfig → F64) :
    Prop :=
  ∀ k, ∀ b ∈ pool.backends, (env k).untried.weight b = weight b ∧
    (env k).anyBackend.weight b = weight b

/-- Some backend of positive weight is not among the ids. -/
def Untried (pool : BackendPool) (weight : BackendConfig → F64) (ids : List BackendId) : Prop :=
  ∃ b ∈ pool.backends, F64.zero.lt (weight b) = true ∧ b.id ∉ ids

section Selections

variable {ctx : RequestCtx} {env : Nat → AttemptEnv} {weight : BackendConfig → F64}

variable {failed : List BackendId}

variable {k : Nat} {b : BackendConfig} {pool : BackendPool} {id : BackendId}

/-- A selected backend is one of the pool, and its weight is not zero or below. -/
theorem selectBackend_weight (hweights : SteadyWeights ctx.pool env weight)
    (hsel : selectBackend ctx.pool ctx.clientIp (env k) failed = .ok b) :
    b ∈ ctx.pool.backends ∧ (weight b).le .zero = false := by
  unfold selectBackend selectBackendExcluding at hsel
  cases huntried : ctx.pool.selectWithPressureExcluding ctx.clientIp (env k).untried failed with
  | some b' =>
    simp only [huntried, Except.ok.injEq] at hsel
    obtain ⟨hmem, hweight, -⟩ := BackendPool.select_mem (hsel ▸ huntried)
    rw [(hweights k b hmem).1] at hweight
    exact ⟨hmem, hweight⟩
  | none =>
    simp only [huntried] at hsel
    cases hany : ctx.pool.selectWithPressureExcluding ctx.clientIp (env k).anyBackend [] with
    | none =>
      rw [hany] at hsel
      cases hsel
    | some b' =>
      simp only [hany, Except.ok.injEq] at hsel
      obtain ⟨hmem, hweight, -⟩ := BackendPool.select_mem (hsel ▸ hany)
      rw [(hweights k b hmem).2] at hweight
      exact ⟨hmem, hweight⟩

/-- While a backend of positive weight is untried, so is the one that is selected. -/
theorem selectBackend_fresh (hweights : SteadyWeights ctx.pool env weight)
    (huntried : Untried ctx.pool weight failed)
    (hsel : selectBackend ctx.pool ctx.clientIp (env k) failed = .ok b) : b.id ∉ failed := by
  obtain ⟨good, hgood, hpositive, hfresh⟩ := huntried
  rw [← (hweights k good hgood).1] at hpositive
  obtain ⟨b', -, hnew, hsel'⟩ := selectBackend_untried ctx.clientIp hgood hpositive hfresh
  rw [Except.ok.inj (hsel.symm.trans hsel')]
  exact hnew

theorem Untried.of_append {ids more : List BackendId} (h : Untried pool weight (ids ++ more)) :
    Untried pool weight ids := by
  obtain ⟨b, hb, hpositive, hnot⟩ := h
  exact ⟨b, hb, hpositive, fun hmem => hnot (List.mem_append_left _ hmem)⟩

/-- The vector of failed backends has room while a backend is untried. -/
theorem markFailed_of_untried (hnodup : failed.Nodup)
    (hpool : ∀ id ∈ failed, id ∈ pool.backends.map (·.id)) (huntried : Untried pool weight failed)
    (hnew : id ∉ failed) : markFailed failed id = failed ++ [id] := by
  obtain ⟨good, hgood, -, hfresh⟩ := huntried
  have hroom : failed.length < maxBackends := by
    have hall : ∀ id ∈ good.id :: failed, id ∈ pool.backends.map (·.id) := by
      intro id hid
      rcases List.mem_cons.mp hid with rfl | hid
      · exact List.mem_map_of_mem hgood
      · exact hpool id hid
    have hle := (List.subperm_of_subset (List.nodup_cons.mpr ⟨hfresh, hnodup⟩) hall).length_le
    have hbounded := pool.bounded
    rw [List.length_cons, List.length_map] at hle
    omega
  simp [markFailed, hnew, hroom]

/-- As long as a backend of positive weight is untried, the loop selects one that it has not
    selected before. -/
theorem retryLoop_diverse (deadline : Instant) (budget : Duration)
    (hweights : SteadyWeights ctx.pool env weight) (left attempt : Nat) (replay : ReplayBody)
    (retry : RetryState) :
    (∀ log ∈ (retryLoop ctx env deadline budget left attempt replay retry).1, log.parks = false) →
    retry.failedBackends.Nodup →
    (∀ id ∈ retry.failedBackends, id ∈ ctx.pool.backends.map (·.id)) →
    ∀ n,
      let picks := (retryLoop ctx env deadline budget left attempt replay retry).1.filterMap
        AttemptLog.selection
      Untried ctx.pool weight (retry.failedBackends ++ picks.take n) →
      (retry.failedBackends ++ picks.take (n + 1)).Nodup := by
  -- what was selected before this iteration is what is marked as failed
  induction left, attempt, replay, retry using retryLoop_induction ctx env deadline budget with
  | nil attempt replay retry =>
    intro _ hnodup _ n picks _
    simpa [picks] using hnodup
  | late left attempt replay retry hbudget =>
    intro _ hnodup _ n picks _
    simpa [picks] using hnodup
  | stop left attempt remaining replay retry hbudget hstop =>
    intro _ hnodup _ n picks huntried
    cases hsel : selectBackend ctx.pool ctx.clientIp (env attempt) retry.failedBackends with
    | error e =>
      simpa [picks, selection_of_error hsel] using hnodup
    | ok b =>
      have hnew := selectBackend_fresh hweights huntried.of_append hsel
      have hnodup' := List.Nodup.concat hnew hnodup
      rw [List.concat_eq_append] at hnodup'
      simpa [picks, selection_of_ok hsel] using hnodup'
  | step left attempt remaining replay retry replay' retry' hbudget hrun ih =>
    intro hparks hnodup hpool n picks huntried
    obtain ⟨hpark, hrest⟩ := List.forall_mem_cons.mp hparks
    obtain ⟨b, hsel, hfailed⟩ := failedBackends_of_continue hrun hpark
    have hnew := selectBackend_fresh hweights huntried.of_append hsel
    rw [markFailed_of_untried hnodup hpool huntried.of_append hnew] at hfailed
    have hnodup' : retry'.failedBackends.Nodup := by
      rw [hfailed, ← List.concat_eq_append]
      exact List.Nodup.concat hnew hnodup
    have hpicks : picks = b.id :: (retryLoop ctx env deadline budget left (attempt + 1) replay'
        retry').1.filterMap AttemptLog.selection := by
      simp only [picks, List.filterMap_cons, selection_of_ok hsel]
    rw [hpicks] at huntried ⊢
    cases n with
    | zero =>
      rw [List.take_succ_cons, List.take_zero, ← hfailed]
      exact hnodup'
    | succ n =>
      -- the rest of the loop starts with this selection marked
      rw [List.take_succ_cons, List.append_cons, ← hfailed] at huntried ⊢
      refine ih hrest hnodup' ?_ n huntried
      intro id hid
      rw [hfailed, List.mem_append, List.mem_singleton] at hid
      rcases hid with hid | rfl
      · exact hpool id hid
      · exact List.mem_map_of_mem (selectBackend_weight hweights hsel).1

/-- What an iteration selects has a weight above zero, or one that is not a number. -/
theorem selection_weight (hweights : SteadyWeights ctx.pool env weight) {attempt : Nat}
    {remaining : Duration} {replay : ReplayBody} {retry : RetryState}
    (h : (attemptAt ctx env attempt remaining replay retry).selection = some id) :
    ∃ b ∈ ctx.pool.backends, b.id = id ∧ (weight b).le .zero = false := by
  cases hsel : selectBackend ctx.pool ctx.clientIp (env attempt) retry.failedBackends with
  | error e =>
    rw [selection_of_error hsel] at h
    cases h
  | ok b =>
    rw [selection_of_ok hsel, Option.some.injEq] at h
    obtain ⟨hmem, hweight⟩ := selectBackend_weight hweights hsel
    exact ⟨b, hmem, h, hweight⟩

end Selections

/-- If the effective weights stay as they are and nothing is parked, then as long as a backend of
    positive weight has not been selected, the selections are pairwise distinct, the next one
    included; and a backend whose weight is at most zero is never selected. -/
theorem retries_are_diverse {state : ProxyState} {env : HandlerEnv} {req : Request} {p : Prepared}
    (hpre : (prologue state env req).val = .ok p)
    (hdistinct : (p.ctx.pool.backends.map (·.id)).Nodup) {weight : BackendConfig → F64}
    (hweights : SteadyWeights p.ctx.pool env.attempts weight)
    (hparks : ∀ log ∈ (proxyHandler state env req).attempts, log.parks = false) :
    let picks := (proxyHandler state env req).attempts.filterMap AttemptLog.selection
    (∀ n, Untried p.ctx.pool weight (picks.take n) → (picks.take (n + 1)).Nodup) ∧
    ∀ b ∈ p.ctx.pool.backends, (weight b).le .zero = true → b.id ∉ picks := by
  intro picks
  have hattempts := proxyHandler_attempts_of_ok hpre
  constructor
  · intro n huntried
    rw [hattempts] at hparks
    have hdiverse := retryLoop_diverse (env.start + p.requestTimeout)
      (Duration.fromSecs p.ctx.state.timeouts.connectSecs.val.toNat) hweights p.ctx.maxAttempts 0
      p.replay .new hparks List.nodup_nil (fun id hid => absurd hid List.not_mem_nil) n
    simp only [picks, hattempts] at huntried ⊢
    exact hdiverse huntried
  · intro b hb hweight hmem
    obtain ⟨log, hlog, hselection⟩ := List.mem_filterMap.mp hmem
    rw [hattempts] at hlog
    obtain ⟨-, -, -, remaining, hrun⟩ := mem_retryLoop _ _ _ _ _ _ _ _ log hlog
    rw [hrun] at hselection
    obtain ⟨b', hb', hid, hweight'⟩ := selection_weight hweights hselection
    rw [List.inj_on_of_nodup_map hdistinct hb' hb hid, hweight] at hweight'
    cases hweight'

/-- Both backends of the sample pool fail, and the third attempt repeats the first. -/
theorem failing_backends_are_diverse :
    let picks := (proxyHandler (Sample.state 2) (Sample.answering .badGateway)
      (Sample.request .get [])).attempts.filterMap AttemptLog.selection
    picks = [Sample.b1.id, Sample.b2.id, Sample.b1.id] ∧ (picks.take 2).Nodup := by
  intro picks
  have hpicks : picks = [Sample.b1.id, Sample.b2.id, Sample.b1.id] := by decide +kernel
  have hpositive : F64.zero.lt (Sample.balancer.weight Sample.b2) = true := by decide +kernel
  obtain ⟨p, hpre, hpool⟩ : ∃ p : Prepared,
      (prologue (Sample.state 2) (Sample.answering .badGateway) (Sample.request .get [])).val =
        .ok p ∧ p.ctx.pool = Sample.twoBackends := ⟨_, rfl, rfl⟩
  have hdistinct : (p.ctx.pool.backends.map (·.id)).Nodup := by
    rw [hpool]
    decide
  have hweights : SteadyWeights p.ctx.pool (Sample.answering .badGateway).attempts
      Sample.balancer.weight := fun _ _ _ => ⟨rfl, rfl⟩
  refine ⟨hpicks, (retries_are_diverse hpre hdistinct hweights (by decide +kernel)).1 1 ?_⟩
  refine ⟨Sample.b2, by rw [hpool]; simp [Sample.twoBackends], hpositive, ?_⟩
  show Sample.b2.id ∉ picks.take 1
  rw [hpicks]
  decide

end Reduction
