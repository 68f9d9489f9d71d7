import Reduction.Native.Running
import Reduction.Spec.ReloadCorrect
import Reduction.Spec.RetryProgress

/-!
# Which accepted configurations serve

The retry loop begins an attempt only with more time left than connecting may
take, makes `max_retries + 1` attempts, and computes its deadline as an instant.
`validate` compares none of the values involved: a request timeout that does not
exceed the connect timeout, the largest retry count and a timeout of centuries
all pass.  A request that nothing else stands in the way of is forwarded exactly
if they do not occur.

- `attemptsAllowed_pos_iff`, `remainingBudget_start_iff`: the loop has a first round
- `forwards_iff_first_round`: a request whose first round is admitted
- `panics_eq_false_iff`: the arithmetic of the loop
- `accepted_config_serves_iff`: the configurations that serve
-/

namespace Reduction

open Http Traced

/-! ## The first round -/

theorem attemptsAllowed_pos_iff (state : ProxyState) (parts : Parts) :
    0 < attemptsAllowed state parts ↔
      (retriesPermitted parts.method parts.headers = true →
        state.retryConfig.maxRetries.toNat + 1 < 2 ^ 32) := by
  have hlt := state.retryConfig.maxRetries.toNat_lt
  unfold attemptsAllowed
  split
  · rename_i hretries
    rw [UInt32.toNat_add, UInt32.toNat_one]
    constructor
    · intro hpos _
      -- the largest count wraps around to no attempt at all
      by_contra hmax
      have heq : state.retryConfig.maxRetries.toNat + 1 = 2 ^ 32 := by omega
      rw [heq] at hpos
      simp at hpos
    · intro hmax
      have hmax := hmax hretries
      rw [Nat.mod_eq_of_lt hmax]
      omega
  · rename_i hretries
    exact ⟨fun _ hpermitted => absurd hpermitted hretries, fun _ => Nat.one_pos⟩

/-- A loop that begins at once has time for its first round if the timeout exceeds the connect
    budget. -/
theorem remainingBudget_start_iff (start : Instant) (timeout budget : Duration) :
    remainingBudget (start + timeout) budget start ≠ none ↔ budget < timeout := by
  have hle : start ≤ start + timeout := Nat.le_add_right start timeout
  have hsub : start + timeout - start = timeout := Nat.add_sub_cancel_left start timeout
  unfold remainingBudget
  rw [hsub]
  by_cases hlt : budget < timeout
  · simp [hle, hlt]
  · simp [hlt]

theorem fromSecs_lt_iff (a b : Nat) : Duration.fromSecs a < Duration.fromSecs b ↔ a < b :=
  Nat.mul_lt_mul_right (by decide)

section

variable {state : ProxyState} {env : HandlerEnv} {req : Request}

/-- A request whose first choice is admitted is forwarded exactly if there is a first round. -/
theorem forwards_iff_first_round {p : Prepared} (hpre : (prologue state env req).val = .ok p)
    (hnow : (env.attempts 0).now = env.start) {b : BackendConfig}
    (hsel : selectBackend p.ctx.pool p.ctx.clientIp (env.attempts 0) [] = .ok b)
    (hadm : (env.attempts 0).admits b = true) :
    (proxyHandler state env req).forwards ≠ [] ↔
      0 < attemptsAllowed state req.parts ∧
        Duration.fromSecs state.timeouts.connectSecs.val.toNat < p.requestTimeout := by
  have hof := prologue_ok hpre
  rw [proxyHandler_forwards_ne_nil, proxyHandler_attempts_of_ok hpre, Prepared.loop,
    retryLoop_forwards_iff _ _ _ _ _ _ _ _ hof.available, hof.maxAttempts_eq, hof.state_eq]
  have hbudget := remainingBudget_start_iff env.start p.requestTimeout
    (Duration.fromSecs state.timeouts.connectSecs.val.toNat)
  rw [← hbudget, ← hnow]
  constructor
  · rintro ⟨k, hk, hopens⟩
    -- whatever round opens, the first one was in time
    exact ⟨by omega, hopens.1 0 (Nat.zero_le k)⟩
  · rintro ⟨hpos, hintime⟩
    exact ⟨0, hpos, opensAt_zero.mpr ⟨hintime, b, hsel, hadm⟩⟩

/-! ## The arithmetic -/

theorem isNone_checkedAddU32 (a b : Nat) :
    (checkedAddU32 a b).isNone = false ↔ a + b < 2 ^ 32 := by
  unfold checkedAddU32
  by_cases h : a + b < 2 ^ 32
  · rw [if_pos h]
    exact iff_of_true rfl h
  · rw [if_neg h]
    exact iff_of_false (by simp) h

theorem isNone_checkedAdd (t : Instant) (secs : Nat) :
    (t.checkedAdd (Duration.fromSecs secs)).isNone = false ↔ t / 1000000000 + secs < 2 ^ 63 := by
  have hsecs : (t + Duration.fromSecs secs) / 1000000000 = t / 1000000000 + secs :=
    Nat.add_mul_div_right t secs (by decide)
  unfold Instant.checkedAdd
  rw [hsecs]
  by_cases h : t / 1000000000 + secs < 2 ^ 63
  · rw [if_pos h]
    exact iff_of_true rfl h
  · rw [if_neg h]
    exact iff_of_false (by simp) h

/-- The number of an attempt is below the number of attempts, so that `attempt + 1` never
    overflows. -/
theorem checkedAdd_attempt {log : AttemptLog} (hlog : log ∈ (proxyHandler state env req).attempts) :
    (checkedAddU32 log.attempt 1).isNone = false := by
  obtain ⟨-, -, hlt, -, -⟩ := mem_attempts hlog
  have hbound : attemptsAllowed state req.parts < 2 ^ 32 := by
    unfold attemptsAllowed
    split
    · exact UInt32.toNat_lt _
    · decide
  rw [isNone_checkedAddU32]
  omega

/-- Every park has a deadline that is an instant. -/
def ParksInTime (state : ProxyState) (parkedAt : Nat → Instant) (logs : List AttemptLog) : Prop :=
  ∀ log ∈ logs, log.parks = true →
    parkedAt log.attempt / 1000000000 + state.proxyConfig.wakeTimeoutSecs.val.toNat < 2 ^ 63

theorem panics_eq_false_iff {p : Prepared} (hpre : (prologue state env req).val = .ok p)
    {secs : Nat} (htimeout : p.requestTimeout = Duration.fromSecs secs) (parkedAt : Nat → Instant) :
    p.panics env parkedAt = false ↔
      (retriesPermitted req.parts.method req.parts.headers = true →
        state.retryConfig.maxRetries.toNat + 1 < 2 ^ 32) ∧
      env.start / 1000000000 + secs < 2 ^ 63 ∧
      ParksInTime state parkedAt (proxyHandler state env req).attempts := by
  have hof := prologue_ok hpre
  have hretries : retriesPermitted p.replay.reqParts.method p.replay.reqParts.headers =
      retriesPermitted req.parts.method req.parts.headers := by
    have hkey := hof.getAll_eq headerIdempotencyKey (by decide) (by decide)
    simp only [retriesPermitted, HeaderMap.get, hof.method_eq, hkey]
  unfold Prepared.panics
  rw [Bool.or_eq_false_iff, Bool.or_eq_false_iff, Bool.and_eq_false_imp, isNone_checkedAddU32,
    htimeout, isNone_checkedAdd, hretries, hof.state_eq, ← proxyHandler_attempts_of_ok hpre,
    List.any_eq_false, and_assoc]
  apply and_congr_right'
  apply and_congr_right'
  -- in the loop, only a park can overflow
  apply forall₂_congr
  intro log hlog
  rw [Bool.not_eq_true, checkedAdd_attempt hlog, Bool.false_or, Bool.and_eq_false_imp,
    isNone_checkedAdd]

/-! ## Configured requests -/

/-- The proxy runs on the configuration: requests are routed by its routing state. -/
structure RoutedBy (c : ReductionConfig) (env : HandlerEnv) : Prop where
  routing : ∃ rs, c.reloadableState = .ok rs ∧ env.matchRoute = rs.router.matchRoute ∧
    env.backendPools = rs.backendPools.get

/-- Nothing but the retry loop stands in the way of a request to `route`: it is admitted, misses the
    cache, finds room in the queue and a body that is read in no time, its pool has a backend with a
    positive effective weight, and whatever backend is selected has a free permit and a closed
    breaker. -/
structure Unimpeded (state : ProxyState) (env : HandlerEnv) (req : Request) (route : RouteConfig)
    (clientIp : IpAddr) (identity : Option PeerIdentity) (neg : CacheNegotiation) : Prop where
  admitted : admitClient env = .ok (clientIp, identity)
  passed : rejectBeforeRouting state env clientIp identity = none
  missed : (negotiateCache state env req identity).val = .ok neg
  matched : env.matchRoute req.parts.path =
    some { backendId := route.backendId, timeoutSecs := route.timeoutSecs }
  queued : env.queueFull route.backendId = false
  body : ∃ prepared,
    (prepareReplayBody state env req neg.requestIsZstd route.backendId).val = .ok prepared
  atOnce : (env.attempts 0).now = env.start
  weighted : ∀ pool, env.backendPools route.backendId = some pool →
    ∃ b ∈ pool.backends, F64.zero.lt ((env.attempts 0).untried.weight b) = true
  gated : ∀ pool b, env.backendPools route.backendId = some pool →
    selectBackend pool clientIp (env.attempts 0) [] = .ok b →
      (env.attempts 0).permit b = true ∧ ((env.attempts 0).circuit b.id).1 = .closed

/-- The seconds that a request to the route may take. -/
def ReductionConfig.timeoutSecs (c : ReductionConfig) (route : RouteConfig) : Nat :=
  (route.timeoutSecs.getD c.timeouts.requestSecs.val).toNat

/-- A validated configuration has the pool, so that the request reaches the loop. -/
theorem Unimpeded.prologue_ok {c : ReductionConfig} {zstd : Zstd} {route : RouteConfig}
    {clientIp : IpAddr} {identity : Option PeerIdentity} {neg : CacheNegotiation}
    (hvalid : c.validate = .ok ()) (hby : RoutedBy c env)
    (h : Unimpeded (c.proxyState zstd) env req route clientIp identity neg) :
    ∃ pool p, env.backendPools route.backendId = some pool ∧
      (prologue (c.proxyState zstd) env req).val = .ok p ∧ p.ctx.pool = pool ∧
      p.ctx.clientIp = clientIp ∧ p.requestTimeout = Duration.fromSecs (c.timeoutSecs route) := by
  obtain ⟨rs, hrs, hrouter, hpools⟩ := hby.routing
  obtain ⟨hbuild, hrouterEq, -⟩ := ReductionConfig.reloadableState_ok hrs
  -- the route that was found is one of the configuration, so its pool was built
  have hroutes : c.routesPool route.backendId := by
    have hmatched := h.matched
    rw [hrouter, hrouterEq, Router.matchRoute, Option.map_eq_some_iff] at hmatched
    obtain ⟨r, hfound, hr⟩ := hmatched
    refine ⟨r, ?_, congrArg RouteMatch.backendId hr⟩
    exact List.mem_mergeSort.mp (List.mem_of_find?_eq_some hfound)
  have hsome := (ReductionConfig.isSome_get_buildBackendPools (ReductionConfig.validate_ok hvalid)
    hbuild route.backendId).mpr hroutes
  obtain ⟨pool, hpool⟩ := Option.isSome_iff_exists.mp hsome
  rw [← hpools] at hpool
  have hrouted : (routeAndAdmit (c.proxyState zstd) env req.parts.path).val = .ok
      { backendId := route.backendId, pool
        requestTimeout := Duration.fromSecs (c.timeoutSecs route)
        responseIdleTimeout := Duration.fromSecs c.timeouts.responseIdleSecs.val.toNat } := by
    simp [routeAndAdmit, resolveBackendPool, h.matched, hpool, h.queued,
      ReductionConfig.timeoutSecs, ReductionConfig.proxyState]
  have hcases := Routed.prologue_cases ⟨h.admitted, h.passed, h.missed, hrouted⟩
  rcases hcases with ⟨response, hbody, -⟩ | ⟨prepared, p, -, hpre, hctx, hip, htimeout⟩
  · obtain ⟨prepared, hprepared⟩ := h.body
    rw [hprepared] at hbody
    cases hbody
  · exact ⟨pool, p, hpool, hpre, hctx, hip, htimeout⟩

/-- An accepted configuration serves an unimpeded request, with no panic in the arithmetic of the
    loop, exactly if the route's timeout exceeds the connect timeout, the number of attempts fits a
    `u32` where retries are permitted, and the deadlines of the request and of its parks are
    instants. -/
theorem accepted_config_serves_iff {c : ReductionConfig} {zstd : Zstd} {env : HandlerEnv}
    {req : Request} {route : RouteConfig} {clientIp : IpAddr} {identity : Option PeerIdentity}
    {neg : CacheNegotiation} (hvalid : c.validate = .ok ()) (hby : RoutedBy c env)
    (h : Unimpeded (c.proxyState zstd) env req route clientIp identity neg)
    (parkedAt : Nat → Instant) :
    ((proxyHandler (c.proxyState zstd) env req).forwards ≠ [] ∧
        ∀ p, (prologue (c.proxyState zstd) env req).val = .ok p → p.panics env parkedAt = false) ↔
      c.timeouts.connectSecs.val.toNat < c.timeoutSecs route ∧
      (retriesPermitted req.parts.method req.parts.headers = true →
        c.retry.maxRetries.toNat + 1 < 2 ^ 32) ∧
      env.start / 1000000000 + c.timeoutSecs route < 2 ^ 63 ∧
      ParksInTime (c.proxyState zstd) parkedAt
        (proxyHandler (c.proxyState zstd) env req).attempts := by
  obtain ⟨pool, p, hpool, hpre, hctx, hip, htimeout⟩ := h.prologue_ok hvalid hby
  obtain ⟨good, hgood, hweight⟩ := h.weighted pool hpool
  obtain ⟨b, -, -, hsel⟩ := selectBackend_untried clientIp hgood hweight (List.not_mem_nil)
  obtain ⟨hpermit, hclosed⟩ := h.gated pool b hpool hsel
  have hadm : (env.attempts 0).admits b = true := by
    simp [AttemptEnv.admits, hpermit, hclosed]
  rw [← hctx, ← hip] at hsel
  have hpanics : (∀ q, (prologue (c.proxyState zstd) env req).val = .ok q →
      q.panics env parkedAt = false) ↔ p.panics env parkedAt = false := by
    rw [hpre]
    simp
  rw [forwards_iff_first_round hpre h.atOnce hsel hadm, hpanics,
    panics_eq_false_iff hpre htimeout, attemptsAllowed_pos_iff, htimeout, fromSecs_lt_iff]
  constructor
  · rintro ⟨⟨-, hbudget⟩, hretries, hdeadlines⟩
    exact ⟨hbudget, hretries, hdeadlines⟩
  · rintro ⟨hbudget, hretries, hdeadlines⟩
    exact ⟨⟨hretries, hbudget⟩, hretries, hdeadlines⟩

end

namespace Sample

/-- A route for every path to the sample pool, with a timeout of its own. -/
def timedRoute (timeoutSecs : Option UInt64) : RouteConfig := { routeTo web with timeoutSecs }

/-- Both sample backends behind the timed route. -/
def timedConfig (timeoutSecs : Option UInt64) (maxRetries : UInt32) : ReductionConfig :=
  { bothConfig with
    routes := [timedRoute timeoutSecs]
    retry := { bothConfig.retry with maxRetries } }

def timedRouting (timeoutSecs : Option UInt64) : ReloadableState :=
  { router := { routes := [timedRoute timeoutSecs] }
    backendPools := (∅ : DashMap BackendId BackendPool).insert web twoBackends
    acl := .new [] [] }

/-- A proxy with this routing, a second after the clock began, whose backends answer at once. -/
def timedEnv (timeoutSecs : Option UInt64) : HandlerEnv :=
  { env twoBackends fun _ => { attempt .ok with now := Duration.fromSecs 1 } with
    start := Duration.fromSecs 1
    matchRoute := (timedRouting timeoutSecs).router.matchRoute
    backendPools := (timedRouting timeoutSecs).backendPools.get }

variable (timeoutSecs : Option UInt64) (maxRetries : UInt32)

theorem routedBy_timedEnv : RoutedBy (timedConfig timeoutSecs maxRetries) (timedEnv timeoutSecs) := by
  have hrouter : Router.new [timedRoute timeoutSecs] = { routes := [timedRoute timeoutSecs] } := by
    simp [Router.new]
  have hpools : (timedConfig timeoutSecs maxRetries).buildBackendPools =
      .ok (timedRouting timeoutSecs).backendPools := rfl
  refine ⟨timedRouting timeoutSecs, ?_, rfl, rfl⟩
  rw [ReductionConfig.reloadableState, hpools, timedRouting, ← hrouter]
  rfl

theorem unimpeded_timedEnv :
    Unimpeded ((timedConfig timeoutSecs maxRetries).proxyState (state 0).zstd)
      (timedEnv timeoutSecs) (request .get []) (timedRoute timeoutSecs) (.v4 #v[192, 0, 2, 1]) none
      negotiation :=
  { admitted := rfl
    passed := rfl
    missed := rfl
    matched := rfl
    queued := rfl
    body := by
      simp only [prepareReplayBody, negotiation, Bool.false_eq_true, if_false, bufferForReplay]
      split
      · exact ⟨_, rfl⟩
      · exact ⟨_, rfl⟩
    atOnce := rfl
    weighted := by
      intro pool h
      obtain rfl : twoBackends = pool := Option.some.inj h
      refine ⟨b1, by simp [twoBackends], ?_⟩
      show F64.zero.lt (balancer.weight b1) = true
      decide +kernel
    gated := fun _ _ _ _ => ⟨rfl, rfl⟩ }

theorem panics_timedEnv {p : Prepared}
    (hp : (prologue ((timedConfig timeoutSecs maxRetries).proxyState (state 0).zstd)
      (timedEnv timeoutSecs) (request .get [])).val = .ok p)
    (hover : ¬ (maxRetries.toNat + 1 < 2 ^ 32 ∧
      1 + (timedConfig timeoutSecs maxRetries).timeoutSecs (timedRoute timeoutSecs) < 2 ^ 63))
    (parkedAt : Nat → Instant) : p.panics (timedEnv timeoutSecs) parkedAt = true := by
  obtain ⟨-, q, -, hq, -, -, htimeout⟩ := (unimpeded_timedEnv timeoutSecs maxRetries).prologue_ok rfl
    (routedBy_timedEnv timeoutSecs maxRetries)
  obtain rfl : p = q := Except.ok.inj (hp.symm.trans hq)
  by_contra hsafe
  rw [Bool.not_eq_true, panics_eq_false_iff hp htimeout] at hsafe
  have hsecond : (timedEnv timeoutSecs).start / 1000000000 = 1 := by
    show 1 * 1000000000 / 1000000000 = 1
    decide
  rw [hsecond] at hsafe
  exact hover ⟨hsafe.1 rfl, hsafe.2.1⟩

end Sample

/-- The defaults of the sample configuration serve. -/
theorem sample_config_serves :
    (Sample.timedConfig none 2).validate = .ok () ∧
    (proxyHandler ((Sample.timedConfig none 2).proxyState (Sample.state 0).zstd)
      (Sample.timedEnv none) (Sample.request .get [])).forwards ≠ [] := by
  have hvalid : (Sample.timedConfig none 2).validate = .ok () := rfl
  refine ⟨hvalid, ?_⟩
  have hserves := accepted_config_serves_iff hvalid (Sample.routedBy_timedEnv none 2)
    (Sample.unimpeded_timedEnv none 2) fun _ => 0
  have hparks : ParksInTime ((Sample.timedConfig none 2).proxyState (Sample.state 0).zstd) (fun _ => 0)
      (proxyHandler ((Sample.timedConfig none 2).proxyState (Sample.state 0).zstd)
        (Sample.timedEnv none) (Sample.request .get [])).attempts := by
    intro log _ _
    show (0 : Nat) / 1000000000 + 10 < 2 ^ 63
    decide
  exact (hserves.mpr ⟨by decide, by decide, by decide, hparks⟩).1

/-- Three configurations that pass `validate`: with a route timeout of the five seconds that connecting
    may take, nothing is forwarded; the largest retry count makes for no attempt, or for a panic; and
    no instant is as far away as the longest timeout. -/
theorem accepted_config_fails :
    (∀ t n, (t, n) ∈ [(some 5, 2), (none, 4294967295), (some 9223372036854775807, 2)] →
      (Sample.timedConfig t n).validate = .ok () ∧
      RoutedBy (Sample.timedConfig t n) (Sample.timedEnv t) ∧
      Unimpeded ((Sample.timedConfig t n).proxyState (Sample.state 0).zstd) (Sample.timedEnv t)
        (Sample.request .get []) (Sample.timedRoute t) (.v4 #v[192, 0, 2, 1]) none
        Sample.negotiation) ∧
    (proxyHandler ((Sample.timedConfig (some 5) 2).proxyState (Sample.state 0).zstd)
      (Sample.timedEnv (some 5)) (Sample.request .get [])).forwards = [] ∧
    (proxyHandler ((Sample.timedConfig none 4294967295).proxyState (Sample.state 0).zstd)
      (Sample.timedEnv none) (Sample.request .get [])).forwards = [] ∧
    (∀ p, (prologue ((Sample.timedConfig none 4294967295).proxyState (Sample.state 0).zstd)
        (Sample.timedEnv none) (Sample.request .get [])).val = .ok p →
      ∀ parkedAt, p.panics (Sample.timedEnv none) parkedAt = true) ∧
    (∀ p, (prologue ((Sample.timedConfig (some 9223372036854775807) 2).proxyState
        (Sample.state 0).zstd) (Sample.timedEnv (some 9223372036854775807))
        (Sample.request .get [])).val = .ok p →
      ∀ parkedAt, p.panics (Sample.timedEnv (some 9223372036854775807)) parkedAt = true) := by
  refine ⟨?_, by decide +kernel, by decide +kernel, ?_, ?_⟩
  · intro t n _
    exact ⟨rfl, Sample.routedBy_timedEnv t n, Sample.unimpeded_timedEnv t n⟩
  · intro p hp
    exact Sample.panics_timedEnv none 4294967295 hp (by decide)
  · intro p hp
    exact Sample.panics_timedEnv (some 9223372036854775807) 2 hp (by decide)

end Reduction
