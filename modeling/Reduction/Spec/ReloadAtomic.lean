import Reduction.Spec.AccessReload

/-!
# Reloads that are applied in part

`reload_config` publishes a configuration that `validate` accepts.  The UDP
workers take their limits from it, and it is what the next restart-required
report compares with; the reload task still has to build the pools, and keeps
the old routing state if it cannot.

- `buildBackendPools_ok_iff`: the configurations whose pools can be built
- `reload_moves_all_iff`: a valid configuration is applied as a whole if and only
  if no pool that a route leads to is larger than `max_backends` allows
-/

namespace Reduction

open Run

variable {W : Type} {codec : Bitcode Envelope}

/-! ## The pools of a configuration -/

/-- Below the configured limit, which is at most the hard one, a pool can be built. -/
theorem BackendPool.withMax_ok_of_le {backends : List BackendConfig} {max : UInt32}
    (hmax : max ≤ hardMaxBackends) (h : backends.length ≤ max.toNat) :
    ∃ pool, BackendPool.withMax backends max = .ok pool := by
  have hhard : max.toNat ≤ maxBackends := UInt32.le_iff_toNat_le.mp hmax
  refine ⟨{ backends, bounded := Nat.le_trans h hhard }, ?_⟩
  rw [BackendPool.withMax, if_neg (by omega), dif_neg (by omega)]

namespace ReductionConfig

variable {config : ReductionConfig}

/-- No pool that a route leads to has more backends than `max_backends` allows. -/
def PoolsFit (config : ReductionConfig) : Prop :=
  ∀ r ∈ config.routes,
    (config.poolBackends r.backendId).length ≤ config.balancer.maxBackends.toNat

instance (config : ReductionConfig) : Decidable config.PoolsFit :=
  inferInstanceAs (Decidable (∀ r ∈ config.routes, _ ≤ _))

theorem addPool_ok (h : config.PoolsFit) {route : RouteConfig} (hr : route ∈ config.routes)
    (pools : DashMap BackendId BackendPool) : ∃ pools', config.addPool pools route = .ok pools' := by
  unfold addPool
  split
  · exact ⟨pools, rfl⟩
  · obtain ⟨pool, hpool⟩ := BackendPool.withMax_ok_of_le config.balancer.bounded (h route hr)
    rw [hpool]
    exact ⟨_, rfl⟩

/-- The loop stops at the first pool that is too large. -/
theorem buildBackendPools_ok_iff :
    (∃ pools, config.buildBackendPools = .ok pools) ↔ config.PoolsFit := by
  constructor
  · rintro ⟨pools, hpools⟩
    let fits (name : BackendId) : Prop :=
      (config.poolBackends name).length ≤ config.balancer.maxBackends.toNat
    -- a route whose pool is there already is skipped, so the pools that are there fit as well
    have hstep : ∀ (done : List RouteConfig) route (pools pools' : DashMap BackendId BackendPool),
        ((∀ name, (pools.get name).isSome → fits name) ∧ ∀ r ∈ done, fits r.backendId) →
        config.addPool pools route = .ok pools' →
        (∀ name, (pools'.get name).isSome → fits name) ∧
          ∀ r ∈ done ++ [route], fits r.backendId := by
      rintro done route pools pools' ⟨hthere, hdone⟩ hadd
      have hnew : (∀ name, (pools'.get name).isSome → fits name) ∧ fits route.backendId := by
        unfold addPool at hadd
        split at hadd
        · rename_i hskip
          cases hadd
          refine ⟨hthere, ?_⟩
          rw [Bool.or_eq_true] at hskip
          cases hskip with
          | inl hsome => exact hthere _ hsome
          | inr hempty =>
            show (config.poolBackends route.backendId).length ≤ _
            rw [List.isEmpty_iff.mp hempty]
            exact Nat.zero_le _
        · obtain ⟨pool, hpool, hadd⟩ := bind_eq_ok.mp hadd
          cases hadd
          have hfits : fits route.backendId := (BackendPool.withMax_ok hpool).2
          refine ⟨?_, hfits⟩
          intro name hname
          rw [DashMap.get_insert] at hname
          split at hname
          · rename_i heq
            exact heq ▸ hfits
          · exact hthere name hname
      exact ⟨hnew.1, List.forall_mem_append.mpr ⟨hdone, List.forall_mem_singleton.mpr hnew.2⟩⟩
    have hinit : (∀ name, ((∅ : DashMap BackendId BackendPool).get name).isSome → fits name) ∧
        ∀ r ∈ ([] : List RouteConfig), fits r.backendId :=
      ⟨(fun name hname => by cases hname), (fun r hr => by cases hr)⟩
    exact (foldlM_invariant hstep hinit hpools).2
  · intro h
    exact foldlM_exists_ok (fun route hr pools => addPool_ok h hr pools) ∅

theorem toBool_buildBackendPools_iff : config.buildBackendPools.toBool ↔ config.PoolsFit := by
  rw [← buildBackendPools_ok_iff]
  cases config.buildBackendPools with
  | ok pools => exact iff_of_true rfl ⟨pools, rfl⟩
  | error e => exact iff_of_false (fun h => by cases h) (fun ⟨_, h⟩ => by cases h)

end ReductionConfig

/-! ## What follows the configuration -/

/-- The worker's limits are those of its entry, if that is still there. -/
def UdpIngress.HasTunables (ui : UdpIngress) (c : ReductionConfig) : Prop :=
  ∀ entry, c.ingress.find? (fun entry => entry.id = ui.ingressId) = some entry →
    ui.limits =
      { maxDatagrams := entry.batchMaxDatagrams
        maxBytes := entry.batchMaxBytes
        linger := Duration.fromMillis entry.lingerMs.toNat } ∧
    ui.maxDatagramBytes = entry.maxDatagramBytes

theorem UdpIngress.hasTunables_applyReload (ui : UdpIngress) (c : ReductionConfig) :
    (ui.applyReload c).1.HasTunables c := by
  intro entry hentry
  unfold applyReload at hentry ⊢
  split at hentry
  · rename_i hnone
    cases hnone.symm.trans hentry
  · rename_i entry' hsome
    cases hsome.symm.trans hentry
    exact ⟨rfl, rfl⟩

namespace Process

variable {s : Process W} {c : ReductionConfig}

/-- `reload_config` has published a configuration, and `c` was the last one. -/
def Reloaded (s : Process W) (c : ReductionConfig) : Prop :=
  s.config.version ≠ 0 ∧ s.config.value = c

/-- All that follows the configuration is that of `c`. -/
structure MovedTo (s : Process W) (c : ReductionConfig) : Prop where
  routing : c.reloadableState = .ok s.task.reloadable.value
  tunables : ∀ w ∈ s.listeners.udp, ∀ ui, w.state.worker = .running ui → ui.HasTunables c
  /-- What the next restart-required report compares with. -/
  baseline : s.config.value = c

/-- A worker that has seen the configuration in the channel has its limits, unless that is still the
    one of startup. -/
structure WorkerFollows (s : Process W) (w : UdpWorker W) : Prop where
  seen_le : w.seen ≤ s.config.version
  tunables : w.seen = s.config.version → s.config.version ≠ 0 →
    ∀ ui, w.state.worker = .running ui → ui.HasTunables s.config.value

variable {w : UdpWorker W}

theorem WorkerFollows.of_config_eq {s' : Process W} (h : s.WorkerFollows w)
    (heq : s'.config = s.config) : s'.WorkerFollows w := by
  constructor
  · rw [heq]
    exact h.seen_le
  · rw [heq]
    exact h.tunables

theorem WorkerFollows.send (h : s.WorkerFollows w) (c : ReductionConfig) :
    WorkerFollows { s with config := s.config.send c } w := by
  have hle := h.seen_le
  constructor
  · show w.seen ≤ s.config.version + 1
    omega
  · intro (heq : w.seen = s.config.version + 1)
    omega

variable [AsyncWrite W]

/-- Between reloads a worker keeps its limits. -/
theorem WorkerFollows.ingress (h : s.WorkerFollows w) {a : IngressAction W}
    (ha : a.isReload = false) : s.WorkerFollows { w with state := w.state.step codec a } := by
  refine ⟨h.seen_le, ?_⟩
  intro hseen hversion ui' hui'
  obtain ⟨ui, hui, ⟨batches, rfl⟩ | ⟨cfg, rfl, -⟩⟩ := IngressState.running_step hui'
  · exact h.tunables hseen hversion ui hui
  · cases ha

theorem WorkerFollows.read (hvalid : s.config.version ≠ 0 → s.config.value.validate.toBool)
    (w : UdpWorker W) :
    s.WorkerFollows
      { state := w.state.step codec (.reload s.config.value), seen := s.config.version } := by
  refine ⟨Nat.le_refl _, ?_⟩
  intro _ hversion ui' hui'
  simp only [IngressState.step, if_pos (hvalid hversion)] at hui'
  obtain ⟨ui, -, rfl⟩ := IngressState.running_reload hui'
  exact ui.hasTunables_applyReload s.config.value

/-- What was published passed `validate`, and the workers follow it. -/
structure Follows (s : Process W) : Prop where
  valid : s.config.version ≠ 0 → s.config.value.validate.toBool
  workers : ∀ w ∈ s.listeners.udp, s.WorkerFollows w

omit [AsyncWrite W] in
theorem Follows.of_eq {s' : Process W} (h : s.Follows) (hconfig : s'.config = s.config)
    (hlisteners : s'.listeners = s.listeners) : s'.Follows := by
  constructor
  · rw [hconfig]
    exact h.valid
  · rw [hlisteners]
    exact fun w hw => (h.workers w hw).of_config_eq hconfig

omit [AsyncWrite W] in
theorem Follows.onWorker (h : s.Follows) {f : UdpWorker W → UdpWorker W}
    (hf : ∀ w, s.WorkerFollows w → s.WorkerFollows (f w)) (i : Nat) : (s.onWorker i f).Follows := by
  have hworkers : ∀ w ∈ s.listeners.udp.modify i f, s.WorkerFollows w :=
    Tasks.forall_modify h.workers (fun w _ hw => hf w hw) i
  exact ⟨h.valid, fun w hw => (hworkers w hw).of_config_eq rfl⟩

theorem Follows.step (h : s.Follows) (a : ProcessAction W) : (s.step codec a).Follows := by
  cases a with
  | sendConfig c =>
    simp only [Process.step]
    split
    · rename_i hvalid
      exact ⟨fun _ => hvalid, fun w hw => (h.workers w hw).send c⟩
    · exact h
  | taskReads =>
    simp only [Process.step]
    split
    · exact h.of_eq rfl rfl
    · exact h
  | taskApplies revocationFile =>
    simp only [Process.step]
    split
    · exact h.of_eq rfl rfl
    · exact h
  | workerReads worker =>
    apply h.onWorker
    intro w hw
    split
    · exact .read h.valid w
    · exact hw
  | ingress worker action =>
    simp only [Process.step]
    split
    · exact h
    · rename_i hreload
      apply h.onWorker
      intro w hw
      exact hw.ingress (Bool.not_eq_true _ ▸ hreload)

omit [AsyncWrite W] in
/-- The workers of a process that has just started have seen what is in the channel. -/
theorem Follows.of_start {config : ReductionConfig} {cache : ResponseCache}
    {revocation : RevocationSet} {parallelism : Nat}
    (h : Process.start config cache revocation parallelism = .ok s) : s.Follows := by
  obtain ⟨hconfig, -, -, hlisteners⟩ := start_ok h
  have hversion : s.config.version = 0 := by rw [hconfig]; rfl
  refine ⟨fun hne => absurd hversion hne, ?_⟩
  intro w hw
  obtain ⟨params, pool, i, -, rfl⟩ :=
    (ReductionConfig.fresh_spawnIngressListeners hlisteners).1 w hw
  exact ⟨Nat.zero_le _, fun _ hne => absurd hversion hne⟩

end Process

/-- The pools of a configuration that `validate` accepts can be built, and all that follows the
    configuration moves to it in every run that publishes it last, if and only if no pool that a
    route leads to is larger than `max_backends` allows. -/
theorem reload_moves_all_iff [AsyncWrite W] (codec : Bitcode Envelope) (c : ReductionConfig) :
    (c.validate = .ok () →
      (∃ pools, c.buildBackendPools = .ok pools) ∧
      ∀ (first : ReductionConfig) (cache : ResponseCache) (revocation : RevocationSet)
        (parallelism : Nat) (s₀ : Process W) (as : List (ProcessAction W)),
        Process.start first cache revocation parallelism = .ok s₀ →
        let s := run (Process.step codec) s₀ as
        s.Reloaded c → s.Quiescent → s.MovedTo c) ↔
      (c.validate = .ok () → c.PoolsFit) := by
  refine imp_congr_right fun _ => ⟨?_, ?_⟩
  · rintro ⟨hpools, -⟩
    exact ReductionConfig.buildBackendPools_ok_iff.mp hpools
  · intro hfit
    refine ⟨ReductionConfig.buildBackendPools_ok_iff.mpr hfit, ?_⟩
    intro first cache revocation parallelism s₀ as hstart s hreloaded hquiet
    obtain ⟨-, hrouting₀, hcaught₀, -⟩ := Process.start_ok hstart
    -- the task has worked off what is in the channel, and that is `c`
    have hlast := (hcaught₀.of_run codec as).latest hquiet.task
    rw [hquiet.pending, Option.toList_none, List.append_nil, List.nil_append] at hlast
    have hbuild : s.config.value.buildBackendPools.toBool := by
      rw [hreloaded.2]
      exact ReductionConfig.toBool_buildBackendPools_iff.mpr hfit
    have hrouting := Process.routing_run codec hrouting₀ as
    rw [lastApplied_eq_of_build hlast hbuild] at hrouting
    have hfollows : s.Follows :=
      @run_invariant_of_step _ _ _ Process.Follows (fun _ a h => Process.Follows.step h a) s₀
        (.of_start hstart) as
    refine ⟨hreloaded.2 ▸ hrouting, ?_, hreloaded.2⟩
    intro w hw ui hui
    have hseen : w.seen = s.config.version := hquiet.workers w hw (by rw [hui]; rfl)
    rw [← hreloaded.2]
    exact (hfollows.workers w hw).tunables hseen hreloaded.1 ui hui

namespace Sample

theorem ingest_b2_fieldsValid : ∀ b ∈ [ingest, b2], b.fieldsValid = true := by decide

theorem one_pos : (1 : UInt32) ≤ 1 := by decide

theorem one_le_hardMaxBackends : 1 ≤ hardMaxBackends := by decide

/-- Two backends in a pool, of which only one is allowed, and batches of one datagram. -/
def crowded : ReductionConfig :=
  { config [ingest, b2] [routeTo web] ingest_b2_fieldsValid with
    balancer := balancerConfig 1 one_pos one_le_hardMaxBackends
    ingress := [{ ingressEntry 20 with batchMaxDatagrams := 1 }] }

end Sample

/-- The worker has the limits of the new configuration, and the next report will compare with it;
    requests are still routed by the old one. -/
theorem crowded_pool_splits_reload :
    Sample.crowded.validate = .ok () ∧ Sample.crowded.buildBackendPools.toBool = false ∧
      ¬ Sample.crowded.PoolsFit ∧
      ∃ s₀ : Process Bytes, Process.start (Sample.ingressConfig 20)
          (.new (Sample.state 2).cacheConfig) .default 1 = .ok s₀ ∧
        let s := run (Process.step Sample.payloadCodec) s₀ (Sample.reloadTo Sample.crowded)
        s.Reloaded Sample.crowded ∧ s.Quiescent ∧ ¬ s.MovedTo Sample.crowded ∧
          (∃ w ∈ s.listeners.udp, ∃ ui, w.state.worker = .running ui ∧
            ui.limits.maxDatagrams = 1) ∧
          (Sample.ingressConfig 20).reloadableState = .ok s.task.reloadable.value := by
  refine ⟨by decide, by decide, by decide, _, rfl, ⟨?_, rfl⟩, ⟨rfl, rfl, ?_⟩, ?_,
    ⟨_, List.mem_cons_self, _, rfl, rfl⟩, rfl⟩
  · show 1 ≠ 0
    decide
  · intro w hw _
    rw [List.mem_singleton.mp hw]
    rfl
  · intro h
    have hbuild : Sample.crowded.reloadableState.toBool := by rw [h.routing]; rfl
    exact absurd hbuild (by decide)

end Reduction
