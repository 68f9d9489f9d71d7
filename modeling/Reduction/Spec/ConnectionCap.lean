import Reduction.Spec.ConnPermits
import Reduction.Spec.RequestRuns

/-!
# The connection cap and response bodies

A request holds a backend's connection permit from the gate to the end of the
attempt, or to the end of the body that it streams.  The exception is a response
with a retryable status: it is kept when its attempt has ended, and may be
streamed after the loop, while its permit has gone to someone else.

`Server.counted_run` is the account of the permits in every run without reloads.
With it `bodies_within_connection_cap` bounds the forwards and bodies of a backend
by its `max_connections` in every run in which no response is kept.
-/

namespace Reduction

open Run Traced

/-! ## What a request holds -/

/-- One, for the backend itself. -/
def oneOf (backend id : BackendId) : Nat := if id = backend then 1 else 0

/-- The response that is kept. -/
def LoopVars.kept (v : LoopVars) (id : BackendId) : Nat := v.last.elim 0 fun last => oneOf last.1 id

namespace RequestStage

/-- The permits of a backend that go with a request. -/
def permits (id : BackendId) : RequestStage → Nat
  | .gating _ backend _ => oneOf backend.id id
  | .forwarding _ selected _ _ | .settling _ selected _ => oneOf selected.backend.id id
  | .streaming conn _ => oneOf conn id
  | _ => 0

/-- The responses of a backend without a permit. -/
def kept (id : BackendId) : RequestStage → Nat
  | .looping v | .gating v _ _ | .forwarding v _ _ _ | .settling v _ _ => v.kept id
  | .streamingLast backend => oneOf backend id
  | _ => 0

/-- The forwards to a backend that are in progress, and its responses whose bodies are held or
    streamed. -/
def load (id : BackendId) : RequestStage → Nat
  | .looping v | .gating v _ _ => v.kept id
  | .forwarding v selected _ _ => oneOf selected.backend.id id + v.kept id
  | .settling v selected result =>
    (if result.toBool then oneOf selected.backend.id id else 0) + v.kept id
  | .streaming conn _ => oneOf conn id
  | .streamingLast backend => oneOf backend id
  | _ => 0

theorem load_le (stage : RequestStage) (id : BackendId) :
    stage.load id ≤ stage.permits id + stage.kept id := by
  cases stage with
  | settling v selected result =>
    simp only [load, permits, kept]
    split <;> omega
  | _ => simp [load, permits, kept]

end RequestStage

namespace Server

def permits (s : Server) (id : BackendId) : Nat := (s.requests.map (RequestStage.permits id)).sum

def kept (s : Server) (id : BackendId) : Nat := (s.requests.map (RequestStage.kept id)).sum

def load (s : Server) (id : BackendId) : Nat := (s.requests.map (RequestStage.load id)).sum

theorem load_le (s : Server) (id : BackendId) : s.load id ≤ s.permits id + s.kept id := by
  unfold load permits kept
  induction s.requests with
  | nil => exact Nat.le_refl _
  | cons stage rest ih =>
    have hstage := stage.load_le id
    simp only [List.map_cons, List.sum_cons]
    omega

end Server

/-! ## Permits -/

namespace ConnPool

variable {pool : ConnPool} {limit others : BackendId → Nat}

/-- A permit that is given out goes to the one who asked. -/
theorem Counts.take (h : pool.Counts limit others) {b : BackendConfig}
    (hlimit : limit b.id = b.maxConnections.toNat) :
    (pool.tryAcquireConnPermit b).1.Counts limit fun id =>
      others id + if (pool.tryAcquireConnPermit b).2.toBool then oneOf b.id id else 0 := by
  have hcounts := h.tryAcquire fun _ => hlimit
  convert hcounts using 1
  funext id
  split
  · unfold oneOf
    by_cases hid : id = b.id
    · rw [if_pos hid, hid, Function.update_self]
    · rw [if_neg hid, Function.update_of_ne hid, Nat.add_zero]
  · rw [Nat.add_zero]

theorem Counts.giveBack {id : BackendId}
    (h : pool.Counts limit fun id' => others id' + oneOf id id') :
    (pool.release id).Counts limit others := by
  have hself : oneOf id id = 1 := if_pos rfl
  have hcounts := h.release (show 0 < others id + oneOf id id by omega)
  convert hcounts using 1
  funext id'
  by_cases hid : id' = id
  · rw [hid, Function.update_self, hself, Nat.add_sub_cancel]
  · rw [Function.update_of_ne hid, oneOf, if_neg hid, Nat.add_zero]

/-- No more permits are held than there are. -/
theorem Counts.le (h : pool.Counts limit others) (id : BackendId) : others id ≤ limit id := by
  cases hget : pool.connLimits.get id with
  | none => rw [h.unused id hget]; exact Nat.zero_le _
  | some available =>
    have := h.used id available hget
    omega

end ConnPool

/-! ## Steps of a request -/

/-- The backends of a pool have the given limits. -/
def BackendPool.Within (limit : BackendId → Nat) (pool : BackendPool) : Prop :=
  ∀ b ∈ pool.backends, limit b.id = b.maxConnections.toNat

namespace RequestStage

variable {state : ProxyState} {sh : Shared} {limit others : BackendId → Nat}

theorem permits_exhausted (v : LoopVars) (id : BackendId) : v.exhausted.permits id = 0 := by
  unfold LoopVars.exhausted
  cases v.last <;> rfl

variable {stage : RequestStage}

/-- A request that is dropped leaves its permit. -/
theorem counts_dropGuards {pool : ConnPool}
    (h : pool.Counts limit fun id => others id + stage.permits id) :
    ((stage.dropGuards.filterMap Event.released?).foldl ConnPool.release pool).Counts limit
      others := by
  cases stage with
  | gating v backend remaining => exact h.giveBack
  | forwarding v selected req remaining =>
    rw [dropGuards, dropGuards_released]
    exact h.giveBack
  | settling v selected result =>
    rw [dropGuards, dropGuards_released]
    exact h.giveBack
  | streaming conn halfOpen => cases halfOpen <;> exact h.giveBack
  | _ => exact h

/-- A request takes its permit from the pool and gives it back there. -/
theorem counts_step (hpool : ∀ pool ∈ stage.pool?, pool.Within limit)
    (h : sh.conns.Counts limit fun id => others id + stage.permits id) (move : RequestMove) :
    (stage.step state sh move).1.conns.Counts limit fun id =>
      others id + (stage.step state sh move).2.permits id := by
  unfold step
  split
  · rename_i req env now
    obtain ⟨⟨cache, hshared⟩, heq | ⟨r, heq⟩⟩ := lookUp_cases state sh env now req <;>
      rw [hshared, heq] <;> exact h
  · rename_i r env
    rcases routeRequest_cases state sh env r with heq | ⟨info, id, heq, -⟩ <;> rw [heq] <;> exact h
  · rename_i r info generation env
    rcases prepare_cases state env r info generation with heq | ⟨v, heq, -⟩ <;> rw [heq] <;> exact h
  · rename_i v env
    rcases attemptNext_cases sh env v with heq | ⟨b, hb, hshared, hgranted⟩
    · rw [heq]
      simp only [permits_exhausted]
      exact h
    · have htake := h.take (hpool _ rfl b hb)
      rw [hshared]
      rcases hgranted with ⟨hok, remaining, heq⟩ | ⟨hok, retry, heq⟩ <;>
        rw [heq] <;> simpa [hok, permits] using htake
  · rename_i v b remaining env
    rcases gate_cases sh env v b remaining with
      ⟨hconns, hstage⟩ | ⟨hconns, replay, selected, req, rfl, heq⟩
    · rw [hconns]
      have hback := ConnPool.Counts.giveBack h
      rcases hstage with heq | ⟨retry, heq⟩
      · simp only [heq, permits_exhausted]
        exact hback
      · rw [heq]
        exact hback
    · rw [hconns, heq]
      exact h
  · exact h
  · rename_i v selected result env
    rcases settle_cases sh env v selected result with ⟨hconns, heq⟩ | ⟨hconns, hstage⟩
    · rw [hconns, heq]
      exact h
    · rw [hconns]
      have hback := ConnPool.Counts.giveBack h
      rcases hstage with heq | heq | ⟨retry, heq, -⟩
      · rw [heq]
        exact hback
      · simp only [heq, permits_exhausted]
        exact hback
      · rw [heq]
        exact hback
  · rename_i now
    obtain ⟨cache, heq⟩ := sh.applyAll_eq now stage.dropGuards
    rw [heq]
    exact counts_dropGuards h
  · exact h

/-- The attempt ends with a response of the backend that is kept for the case that no later attempt
    does better. -/
def keepsResponse (id : BackendId) : RequestStage → RequestMove → Bool
  | .settling v selected (.ok response), .settle _ =>
    selected.backend.id = id && isRetryableStatus response.status &&
      v.attempt + 1 < v.ctx.maxAttempts
  | _, _ => false

theorem kept_exhausted (v : LoopVars) (id : BackendId) : v.exhausted.kept id = v.kept id := by
  unfold LoopVars.exhausted LoopVars.kept
  cases v.last <;> rfl

/-- Only such an attempt leaves a response without a permit. -/
theorem kept_step {id : BackendId} {move : RequestMove} (h : stage.kept id = 0)
    (hkeep : stage.keepsResponse id move = false) : (stage.step state sh move).2.kept id = 0 := by
  unfold step
  split
  · rename_i req env now
    rcases (lookUp_cases state sh env now req).2 with heq | ⟨r, heq⟩ <;> rw [heq] <;> rfl
  · rename_i r env
    rcases routeRequest_cases state sh env r with heq | ⟨info, id, heq, -⟩ <;> rw [heq] <;> rfl
  · rename_i r info generation env
    rcases prepare_cases state env r info generation with heq | ⟨v, heq, -, -, hlast⟩
    · rw [heq]
      rfl
    · rw [heq, kept, LoopVars.kept, hlast]
      rfl
  · rename_i v env
    rcases attemptNext_cases sh env v with heq | ⟨b, -, -, ⟨-, remaining, heq⟩ | ⟨-, retry, heq⟩⟩
    · rw [heq, kept_exhausted]
      exact h
    · rw [heq]
      exact h
    · rw [heq]
      exact h
  · rename_i v b remaining env
    rcases gate_cases sh env v b remaining with
      ⟨-, heq | ⟨retry, heq⟩⟩ | ⟨-, replay, selected, req, -, heq⟩
    · rw [heq, kept_exhausted]
      exact h
    · rw [heq]
      exact h
    · rw [heq]
      exact h
  · exact h
  · rename_i v selected result env
    rcases settle_cases sh env v selected result with ⟨-, heq⟩ | ⟨-, hstage⟩
    · rw [heq]
      rfl
    · rcases hstage with heq | heq | ⟨retry, heq, hretry⟩
      · rw [heq]
        rfl
      · rw [heq, kept_exhausted]
        exact h
      · rw [heq]
        cases result with
        | error e => exact h
        | ok response =>
          obtain ⟨hstatus, hleft⟩ := hretry response rfl
          have hother : selected.backend.id ≠ id := by
            simpa [keepsResponse, hstatus, hleft] using hkeep
          exact if_neg (Ne.symm hother)
  · rfl
  · exact h

end RequestStage

/-! ## Runs -/

namespace Server

variable {state : ProxyState} {s : Server} {limit : BackendId → Nat}

/-- The permits that are there and those that go with requests make up the limits. -/
structure Counted (limit : BackendId → Nat) (s : Server) : Prop where
  pools : ∀ id, ∀ pool ∈ s.shared.reload.reloadable.value.backendPools.get id, pool.Within limit
  bound : ∀ stage ∈ s.requests, ∀ pool ∈ stage.pool?, pool.Within limit
  counts : s.shared.conns.Counts limit s.permits

theorem counted_step (h : s.Counted limit) {a : ServerAction} (ha : a.isReload = false) :
    (s.step state a).Counted limit := by
  cases a with
  | arrive req =>
    refine ⟨h.pools, ?_, ?_⟩
    · intro stage hstage
      rcases List.mem_append.mp hstage with hold | hnew
      · exact h.bound stage hold
      · obtain rfl := List.mem_singleton.mp hnew
        intro pool hpool
        cases hpool
    · have hsame : (s.step state (.arrive req)).permits = s.permits := by
        funext id
        simp [step, permits, RequestStage.permits]
      rw [hsame]
      exact h.counts
  | request i move =>
    cases hi : s.requests[i]? with
    | none => rwa [step_request_none hi]
    | some stage =>
      rw [step_request_some hi]
      have hbound := h.bound stage (List.mem_of_getElem? hi)
      obtain ⟨cache, hreload⟩ := stage.reload_step state s.shared move
      refine ⟨?_, ?_, ?_⟩
      · intro id pool hpool
        simp only [hreload] at hpool
        exact h.pools id pool hpool
      · refine Tasks.forall_set h.bound ?_ i
        intro pool hpool
        rcases stage.pool?_step state s.shared move with heq | heq | ⟨id, heq⟩
        · rw [heq] at hpool
          cases hpool
        · exact hbound pool (heq ▸ hpool)
        · exact h.pools id pool (heq ▸ hpool)
      · have hcounts := h.counts
        have hothers : s.permits = fun id =>
            ((s.requests.eraseIdx i).map (RequestStage.permits id)).sum + stage.permits id :=
          funext fun id => Tasks.sum_eq_add hi (RequestStage.permits id)
        rw [hothers] at hcounts
        convert RequestStage.counts_step hbound hcounts move using 1
        funext id
        exact Tasks.sum_set hi _ (RequestStage.permits id)
  | publish config file => cases ha
  | flush => cases ha
  | cleanUp => cases ha

theorem counted_run (h : s.Counted limit) (state : ProxyState) {as : List ServerAction}
    (has : ∀ a ∈ as, a.isReload = false) : (run (step state) s as).Counted limit :=
  @run_invariant _ _ _ (fun _ a => a.isReload = false) (Counted limit)
    (fun _ _ hs ha => counted_step hs ha) s as h (RunOk.of_forall has s)

/-- Some request is about to keep a response of the backend. -/
def keepsResponse (s : Server) (id : BackendId) : ServerAction → Bool
  | .request i move => s.requests[i]?.any fun stage => stage.keepsResponse id move
  | _ => false

/-- Every body of the backend has its permit. -/
def KeepsNone (s : Server) (id : BackendId) : Prop := ∀ stage ∈ s.requests, stage.kept id = 0

theorem keepsNone_step {id : BackendId} (h : s.KeepsNone id) {a : ServerAction}
    (ha : a.isReload = false) (hkeep : s.keepsResponse id a = false) :
    (s.step state a).KeepsNone id := by
  cases a with
  | arrive req =>
    intro stage hstage
    rcases List.mem_append.mp hstage with hold | hnew
    · exact h stage hold
    · obtain rfl := List.mem_singleton.mp hnew
      rfl
  | request i move =>
    cases hi : s.requests[i]? with
    | none => rwa [step_request_none hi]
    | some stage =>
      rw [step_request_some hi]
      have hstage : stage.keepsResponse id move = false := by
        simpa [keepsResponse, hi] using hkeep
      exact Tasks.forall_set h
        (RequestStage.kept_step (h stage (List.mem_of_getElem? hi)) hstage) i
  | publish config file => cases ha
  | flush => cases ha
  | cleanUp => cases ha

theorem kept_eq_zero {id : BackendId} (h : s.KeepsNone id) : s.kept id = 0 := by
  refine List.sum_eq_zero ?_
  intro n hn
  obtain ⟨stage, hstage, rfl⟩ := List.mem_map.mp hn
  exact h stage hstage

end Server

/-! ## The limits of a configuration -/

namespace ReductionConfig

variable {config : ReductionConfig}

def connectionLimit (config : ReductionConfig) (id : BackendId) : Nat :=
  (config.backends.find? fun b => b.id = id).elim 0 fun b => b.maxConnections.toNat

theorem connectionLimit_of_mem (hv : config.Validated) {b : BackendConfig}
    (hb : b ∈ config.backends) : config.connectionLimit b.id = b.maxConnections.toNat := by
  unfold connectionLimit
  cases hfind : config.backends.find? fun b' => b'.id = b.id with
  | none => exact absurd (List.find?_eq_none.mp hfind b hb) (by simp)
  | some b' =>
    have hid : b'.id = b.id := by simpa using List.find?_some hfind
    have heq : b' = b :=
      List.inj_on_of_nodup_map hv.ids_nodup (List.mem_of_find?_eq_some hfind) hb hid
    rw [heq, Option.elim_some]

/-- A pool has the backends of the configuration, and so their limits. -/
theorem within_of_buildBackendPools (hv : config.Validated)
    {pools : DashMap BackendId BackendPool} (h : config.buildBackendPools = .ok pools)
    {id : BackendId} {pool : BackendPool} (hpool : pools.get id = some pool) :
    pool.Within config.connectionLimit := by
  obtain ⟨-, hbackends, -⟩ :=
    (poolsOf_buildBackendPools h id pool.backends).mp (by rw [hpool]; rfl)
  intro b hb
  have hmem : b ∈ config.poolBackends id := hbackends ▸ hb
  exact connectionLimit_of_mem hv (List.mem_of_mem_filter hmem)

end ReductionConfig

variable {config : ReductionConfig} {cache : ResponseCache} {revocation : RevocationSet}
  {s : Server} {as : List ServerAction} {b : BackendConfig}

theorem Server.counted_start (hv : config.Validated)
    (h : Server.start config cache revocation = .ok s) : s.Counted config.connectionLimit := by
  obtain ⟨reload, hreload, h⟩ := bind_eq_ok.mp h
  cases h
  obtain ⟨routing, hrouting, hreload⟩ := bind_eq_ok.mp hreload
  cases hreload
  refine ⟨?_, ?_, ConnPool.counts_new _⟩
  · intro id pool hpool
    exact ReductionConfig.within_of_buildBackendPools hv
      (ReductionConfig.reloadableState_ok hrouting).1 hpool
  · intro stage hstage
    cases hstage

/-- In every run, the forwards and bodies of a backend exceed its limit by no more than the responses
    that are kept without a permit. -/
theorem Server.load_le_add_kept (hv : config.Validated)
    (hstart : Server.start config cache revocation = .ok s) (state : ProxyState)
    (has : ∀ a ∈ as, a.isReload = false) (hb : b ∈ config.backends) :
    (run (step state) s as).load b.id ≤
      b.maxConnections.toNat + (run (step state) s as).kept b.id := by
  have hcounts := (counted_run (counted_start hv hstart) state has).counts
  have hle := hcounts.le b.id
  rw [ReductionConfig.connectionLimit_of_mem hv hb] at hle
  have hload := (run (step state) s as).load_le b.id
  omega

/-- In every run without reloads in which no response of the backend is kept for a retry, each forward
    and each body of the backend holds a permit, and there are at most `max_connections` of them. -/
theorem bodies_within_connection_cap {config : ReductionConfig} (hvalid : config.validate = .ok ())
    {cache : ResponseCache} {revocation : RevocationSet} {s : Server}
    (hstart : Server.start config cache revocation = .ok s) (state : ProxyState)
    {as : List ServerAction} (has : ∀ a ∈ as, a.isReload = false) {b : BackendConfig}
    (hb : b ∈ config.backends)
    (hkeep : RunOk (Server.step state) (fun s a => s.keepsResponse b.id a = false) s as) :
    (∀ stage ∈ (run (Server.step state) s as).requests,
        stage.load b.id ≤ stage.permits b.id) ∧
      (run (Server.step state) s as).load b.id ≤ b.maxConnections.toNat := by
  have hv := ReductionConfig.validate_ok hvalid
  have hstartNone : s.KeepsNone b.id := by
    obtain ⟨reload, -, h⟩ := bind_eq_ok.mp hstart
    cases h
    intro stage hstage
    cases hstage
  have hnone : (run (Server.step state) s as).KeepsNone b.id :=
    @run_invariant _ _ _ _ (fun s => s.KeepsNone b.id)
      (fun _ _ hs ha => Server.keepsNone_step hs ha.1 ha.2) s as hstartNone
      ((RunOk.of_forall has s).and hkeep)
  constructor
  · intro stage hstage
    have hload := stage.load_le b.id
    rwa [hnone stage hstage, Nat.add_zero] at hload
  · have hload := Server.load_le_add_kept hv hstart state has hb
    rwa [Server.kept_eq_zero hnone, Nat.add_zero] at hload

namespace Sample

/-- The moves of a request up to the end of its first attempt. -/
def firstAttempt (status : StatusCode) : List RequestMove :=
  untilAnswered (answering status) ++ [RequestMove.settle (attempt status)]

/-- A second attempt that comes too late. -/
def lateAttempt : RequestMove := .attempt { attempt .ok with now := Duration.fromSecs 31 }

theorem oneConnection_ne_zero : (1 : UInt32) ≠ 0 := by decide

def oneConnection : ReductionConfig := limited 1 oneConnection_ne_zero

/-- The first request is still streaming its response when the second one is tried. -/
def twoDownloads : List ServerAction :=
  twoGets ++ moves 0 (firstAttempt .ok) ++ moves 1 (firstAttempt .ok)

/-- The first request is answered with 503.  It has no time left to try again, so that it streams this
    response.  The second request is sent on meanwhile. -/
def keptResponse : List ServerAction :=
  twoGets ++ moves 0 (firstAttempt .serviceUnavailable) ++ moves 0 [lateAttempt] ++
    moves 1 (firstAttempt .ok)

end Sample

example : Sample.oneConnection.validate.toBool = true := by decide +kernel

/-- The second download finds no permit. -/
theorem two_downloads_within_cap :
    Sample.oneConnection.validate = .ok () ∧
      ∃ b s, Sample.oneConnection.backends = [b] ∧
        Server.start Sample.oneConnection (.new (Sample.state 1).cacheConfig) .default = .ok s ∧
        (run (Server.step (Sample.state 1)) s Sample.twoDownloads).load b.id = 1 ∧
        (run (Server.step (Sample.state 1)) s Sample.twoDownloads).load b.id ≤
          b.maxConnections.toNat := by
  have hvalid : Sample.oneConnection.validate = .ok () := by decide
  have hreload : ∀ a ∈ Sample.twoDownloads, a.isReload = false := by decide +kernel
  refine ⟨hvalid, _, _, rfl, rfl, by decide +kernel, ?_⟩
  exact (bodies_within_connection_cap hvalid rfl (Sample.state 1) hreload List.mem_cons_self
    (by decide +kernel)).2

/-- A kept response is streamed, and another request forwarded, with one permit between them. -/
theorem kept_response_exceeds_cap :
    Sample.oneConnection.validate = .ok () ∧
      ∃ b, Sample.oneConnection.backends = [b] ∧ b.maxConnections = 1 ∧
        (∀ a ∈ Sample.keptResponse, a.isReload = false) ∧
        ∃ s, Server.start Sample.oneConnection (.new (Sample.state 1).cacheConfig) .default = .ok s ∧
          (run (Server.step (Sample.state 1)) s Sample.keptResponse).load b.id = 2 :=
  ⟨by decide, _, rfl, rfl, by decide +kernel, _, rfl, by decide +kernel⟩

/-- In every run without reloads, however the steps of the requests are interleaved, the permits of
    a backend that are left and those that requests hold make up `max_connections`: none leaks. -/
theorem permits_conserved (hvalid : config.validate = .ok ())
    (hstart : Server.start config cache revocation = .ok s) (state : ProxyState)
    (has : ∀ a ∈ as, a.isReload = false) (hb : b ∈ config.backends) :
    let t := run (Server.step state) s as
    t.shared.conns.semaphore b + t.permits b.id = b.maxConnections.toNat := by
  intro t
  have hv := ReductionConfig.validate_ok hvalid
  have hcounts := (Server.counted_run (Server.counted_start hv hstart) state has).counts
  unfold ConnPool.semaphore
  cases hget : t.shared.conns.connLimits.get b.id with
  | none => rw [Option.getD_none, hcounts.unused b.id hget, Nat.add_zero]
  | some available =>
    rw [Option.getD_some, hcounts.used b.id available hget,
      ReductionConfig.connectionLimit_of_mem hv hb]

/-- The first download holds the only permit. -/
theorem two_downloads_conserve_permits :
    ∃ b s, Server.start Sample.oneConnection (.new (Sample.state 1).cacheConfig) .default = .ok s ∧
      (run (Server.step (Sample.state 1)) s Sample.twoDownloads).shared.conns.semaphore b +
        (run (Server.step (Sample.state 1)) s Sample.twoDownloads).permits b.id = 1 :=
  ⟨_, _, rfl, @permits_conserved Sample.oneConnection _ _ _ Sample.twoDownloads _ (by decide) rfl _
    (by decide +kernel) List.mem_cons_self⟩

end Reduction
