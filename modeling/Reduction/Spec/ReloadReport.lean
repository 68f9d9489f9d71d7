import Reduction.ForStd.List
import Reduction.Native.ConfigWatcher
import Reduction.Native.Running
import Reduction.Spec.ReloadAtomic

/-!
# What the reload report leaves out

`restart_required_sections` names the sections that a running proxy does not
follow.  `reload_report_complete_iff` compares what it says with the process: for
valid configurations between which it reports nothing, when does the process that
was started from the old one and reloaded work with the same values as one that
is started from the new one?

- `report_nil`: what an empty report says about the two configurations
- `listener_reload_iff`: when an ingress listener need not be started anew
- `parts_iff`: the same for everything else that startup fixes

What has to stay and is not reported: the policy for client certificates, the
redirect listener and the health endpoint, the ingress listeners with their
copies of backends and access rules, `max_backends` and `drain_timeout_secs`,
whether a client identity is loaded at all, and the connection limits of backends
that were used.
-/

namespace Reduction

open Run

/-! ## The report -/

/-- The configurations agree on every section of the report. -/
structure SameReported (old new : ReductionConfig) : Prop where
  address : old.listen.address = new.listen.address
  transport : old.listen.transport = new.listen.transport
  tls : old.tls = new.tls
  timeouts : old.timeouts = new.timeouts
  proxy : old.proxy = new.proxy
  compression : old.compression = new.compression
  health : old.health = new.health
  ratelimit : old.ratelimit = new.ratelimit
  metrics : old.metrics = new.metrics
  circuitBreaker : old.circuitBreaker = new.circuitBreaker
  retry : old.retry = new.retry
  tracing : old.tracing = new.tracing
  tunnel : old.tunnel = new.tunnel
  cache : old.cache = new.cache
  queueDepth : old.balancer.queueDepth = new.balancer.queueDepth
  rawRelayAuthz : old.rawRelayAuthz = new.rawRelayAuthz

theorem TracingConfig.eq_of_eq {a b : TracingConfig} (h : a.eq b = true) : a = b := by
  obtain ⟨endpoint, ratio⟩ := a
  obtain ⟨endpoint', ratio'⟩ := b
  simp only [TracingConfig.eq, Bool.and_eq_true, decide_eq_true_eq] at h
  rw [h.1.1, F64.le_antisymm h.1.2 h.2]

theorem report_nil {old new : ReductionConfig} (h : restartRequiredSections old new = []) :
    SameReported old new := by
  simp only [restartRequiredSections, List.map_eq_nil_iff, List.filter_eq_nil_iff,
    List.forall_mem_cons, List.not_mem_nil, ne_eq, decide_not, Bool.not_eq_true,
    Bool.not_eq_false', decide_eq_true_eq, false_imp_iff, implies_true, and_true] at h
  obtain ⟨haddress, htransport, hserver, hclient, htimeouts, hproxy, hcompression, hhealth,
    hratelimit, hmetrics, hbreaker, hretry, htracing, htunnel, hcache, hdepth, hauthz⟩ := h
  have htls : old.tls = new.tls := by
    cases htls : old.tls
    cases htls' : new.tls
    rw [htls, htls'] at hserver hclient
    congr
  exact ⟨haddress, htransport, htls, htimeouts, hproxy, hcompression, hhealth, hratelimit, hmetrics,
    hbreaker, hretry, TracingConfig.eq_of_eq htracing, htunnel, hcache, hdepth, hauthz⟩

/-! ## The parts that can fail to be built -/

namespace RawRelayAuthz

variable {known known' : List BackendId}

/-- The backends of the configuration decide only whether an entry is accepted. -/
theorem addEntry_ok {byBackend byBackend' : DashMap BackendId BackendPolicy}
    {entry : RawRelayAuthzEntry} (h : addEntry known byBackend entry = .ok byBackend') :
    entry.backendId ∈ known ∧
      (entry.backendId ∈ known' → addEntry known' byBackend entry = .ok byBackend') := by
  unfold addEntry at h ⊢
  split at h
  · cases h
  · rename_i hknown
    rw [Bool.not_eq_true', Bool.not_eq_false, List.contains_iff_mem] at hknown
    refine ⟨hknown, fun hknown' => ?_⟩
    rw [if_neg (by simpa using hknown')]
    exact h

theorem new_ok {entries : List RawRelayAuthzEntry} {authz : RawRelayAuthz}
    (h : new entries known = .ok authz) :
    (∀ entry ∈ entries, entry.backendId ∈ known) ∧
      ((∀ entry ∈ entries, entry.backendId ∈ known') → new entries known' = .ok authz) := by
  obtain ⟨byBackend, hloop, h⟩ := bind_eq_ok.mp h
  cases h
  have hfold : ∀ (entries : List RawRelayAuthzEntry) (start : DashMap BackendId BackendPolicy),
      entries.foldlM (addEntry known) start = .ok byBackend →
      (∀ entry ∈ entries, entry.backendId ∈ known) ∧
        ((∀ entry ∈ entries, entry.backendId ∈ known') →
          entries.foldlM (addEntry known') start = .ok byBackend) := by
    intro entries
    induction entries with
    | nil => exact fun start h => ⟨by simp, fun _ => h⟩
    | cons entry entries ih =>
      intro start h
      rw [List.foldlM_cons] at h
      obtain ⟨next, hentry, hrest⟩ := bind_eq_ok.mp h
      obtain ⟨hknown, hagain⟩ := @addEntry_ok known known' _ _ entry hentry
      obtain ⟨hall, hrest'⟩ := ih next hrest
      rw [List.forall_mem_cons, List.forall_mem_cons]
      refine ⟨⟨hknown, hall⟩, fun hknown' => ?_⟩
      rw [List.foldlM_cons, hagain hknown'.1]
      exact hrest' hknown'.2
  obtain ⟨hall, hagain⟩ := hfold entries ∅ hloop
  refine ⟨hall, fun hknown' => ?_⟩
  rw [new, hagain hknown']
  rfl

end RawRelayAuthz

namespace ReductionConfig

variable {old new : ReductionConfig}

/-- Of valid configurations with the same `[tls.client]`, both load it or neither. -/
theorem buildClientTls_eq (hvalid : new.validate = .ok ()) (htls : old.tls = new.tls)
    {loaded : Option ClientTls} (hold : old.buildClientTls = .ok loaded) :
    ∃ loaded', new.buildClientTls = .ok loaded' ∧
      (loaded = loaded' ↔ old.needsClientTls = new.needsClientTls) := by
  -- an identity is there as soon as it is needed
  have hloads : ∀ {c : ReductionConfig} {identity : TlsIdentity}, c.needsClientTls = true →
      c.tls.client = some identity → c.buildClientTls = .ok (some
        { certPath := identity.certPath
          keyPath := identity.keyPath
          caCertPath := identity.caCertPath }) := by
    intro c identity hneeds hclient
    rw [buildClientTls, if_neg (by simp [hneeds]), hclient]
  have hnone : ∀ {c : ReductionConfig}, c.needsClientTls = false → c.buildClientTls = .ok none := by
    intro c hneeds
    rw [buildClientTls, if_pos (by simp [hneeds])]
  cases hneeds : new.needsClientTls with
  | true =>
    obtain ⟨b, hb, hneedsB⟩ := List.any_eq_true.mp hneeds
    obtain ⟨identity, hclient⟩ :=
      Option.isSome_iff_exists.mp (tlsClient_of_validate hvalid hb hneedsB)
    refine ⟨_, hloads hneeds hclient, ?_⟩
    cases hneedsOld : old.needsClientTls with
    | true =>
      rw [hloads hneedsOld (htls ▸ hclient)] at hold
      cases hold
      exact iff_of_true rfl rfl
    | false =>
      rw [hnone hneedsOld] at hold
      cases hold
      exact iff_of_false (fun h => by cases h) (fun h => by cases h)
  | false =>
    refine ⟨none, hnone hneeds, ?_⟩
    cases hneedsOld : old.needsClientTls with
    | true =>
      rw [buildClientTls, if_neg (by simp [hneedsOld])] at hold
      split at hold
      · cases hold
      · cases hold
        exact iff_of_false (fun h => by cases h) (fun h => by cases h)
    | false =>
      rw [hnone hneedsOld] at hold
      cases hold
      exact iff_of_true rfl rfl

/-! ## Ingress listeners -/

/-- The entry of the listener on an address. -/
def entryAt (config : ReductionConfig) (addr : SocketAddr) : Option IngressConfig :=
  config.ingress.find? fun entry => entry.listen = addr

end ReductionConfig

/-- What a reload sets in a worker. -/
structure IngressConfig.SameTunables (e e' : IngressConfig) : Prop where
  batchMaxDatagrams : e.batchMaxDatagrams = e'.batchMaxDatagrams
  batchMaxBytes : e.batchMaxBytes = e'.batchMaxBytes
  lingerMs : e.lingerMs = e'.lingerMs
  maxDatagramBytes : e.maxDatagramBytes = e'.maxDatagramBytes

/-- The workers of `e` end up as those of `e'`.  The tunables come from the first entry with their
    id, whichever that is, and a worker that has panicked follows nothing. -/
def SameWorkers (old new : ReductionConfig) (e e' : IngressConfig) : Prop :=
  ∀ first, new.ingress.find? (fun entry => entry.id = e.id) = some first →
    if e.lingerMs = 0 ∨ first.lingerMs = 0 then e'.lingerMs = 0
    else old.acl = new.acl ∧ first.SameTunables e'

/-- What has to stay for the listener of `e` to do for that of `e'`. -/
structure SameListener (parallelism : Nat) (old new : ReductionConfig) (e e' : IngressConfig) :
    Prop where
  protocol : e.protocol = e'.protocol
  id : e.id = e'.id
  backends : old.ingressBackends e = new.ingressBackends e'
  udp : e.protocol = .udp →
    resolveWorkerCount e.workers parallelism = resolveWorkerCount e'.workers parallelism ∧
    e.recvBufferBytes = e'.recvBufferBytes ∧
    e.queueDepthPerBackend = e'.queueDepthPerBackend ∧
    SameWorkers old new e e'
  tcp : e.protocol = .tcp →
    old.acl = new.acl ∧
    e.maxConnections.getD defaultTcpMaxConnections =
      e'.maxConnections.getD defaultTcpMaxConnections ∧
    e.idleTimeoutSecs.getD defaultTcpIdleTimeoutSecs =
      e'.idleTimeoutSecs.getD defaultTcpIdleTimeoutSecs

variable {ms : UInt64}

theorem linger_eq_zero : Duration.fromMillis ms.toNat = 0 ↔ ms = 0 := by
  rw [← UInt64.toNat_inj, UInt64.toNat_zero]
  show ms.toNat * 1000000 = 0 ↔ ms.toNat = 0
  omega

theorem linger_inj {ms' : UInt64} :
    Duration.fromMillis ms.toNat = Duration.fromMillis ms'.toNat ↔ ms = ms' := by
  rw [← UInt64.toNat_inj]
  show ms.toNat * 1000000 = ms'.toNat * 1000000 ↔ ms.toNat = ms'.toNat
  omega

section Listeners

variable {old new : ReductionConfig} {e e' : IngressConfig}

variable {pool pool' : BackendPool}

/-- The worker after the reload, with the entry that its tunables come from. -/
theorem reload_startWorker {first : IngressConfig}
    (hfirst : new.ingress.find? (fun entry => entry.id = e.id) = some first) :
    (UdpIngressParams.startWorker ((old.udpParams e).ingress pool)).reload new =
      if e.lingerMs = 0 ∨ first.lingerMs = 0 then .panicked
      else .running { (new.udpParams first).ingress pool with acl := old.acl, ingressId := e.id } := by
  by_cases hlinger : e.lingerMs = 0
  · have hzero : ((old.udpParams e).ingress pool).limits.linger = 0 := linger_eq_zero.mpr hlinger
    rw [UdpIngressParams.startWorker, if_pos hzero, if_pos (.inl hlinger)]
    rfl
  · have hstarted : ((old.udpParams e).ingress pool).limits.linger ≠ 0 :=
      fun h => hlinger (linger_eq_zero.mp h)
    have happly : ((old.udpParams e).ingress pool).applyReload new =
        ({ (new.udpParams first).ingress pool with acl := old.acl, ingressId := e.id },
          decide (((old.udpParams e).ingress pool).limits.linger ≠
            Duration.fromMillis first.lingerMs.toNat)) := by
      unfold UdpIngress.applyReload
      split
      · rename_i hnone
        cases hfirst.symm.trans hnone
      · rename_i entry hsome
        cases hfirst.symm.trans hsome
        rfl
    rw [UdpIngressParams.startWorker, if_neg hstarted, Worker.reload, happly]
    by_cases hfirstLinger : first.lingerMs = 0
    · have hzero := linger_eq_zero.mpr hfirstLinger
      have hpanics : e.lingerMs = 0 ∨ first.lingerMs = 0 := .inr hfirstLinger
      rw [if_pos hpanics, if_pos]
      rw [Bool.and_eq_true, decide_eq_true_eq, decide_eq_true_eq, hzero]
      exact ⟨hstarted, hzero⟩
    · have hruns : ¬ (e.lingerMs = 0 ∨ first.lingerMs = 0) := not_or.mpr ⟨hlinger, hfirstLinger⟩
      rw [if_neg hruns, if_neg]
      rw [Bool.and_eq_true, decide_eq_true_eq, decide_eq_true_eq]
      exact fun h => hfirstLinger (linger_eq_zero.mp h.2)

theorem worker_reload_iff (hid : e.id = e'.id) (he' : e' ∈ new.ingress) :
    (UdpIngressParams.startWorker ((old.udpParams e).ingress pool)).reload new =
        UdpIngressParams.startWorker ((new.udpParams e').ingress pool) ↔ SameWorkers old new e e' := by
  obtain ⟨first, hfirst⟩ : ∃ first, new.ingress.find? (fun entry => entry.id = e.id) = some first :=
    Option.isSome_iff_exists.mp (List.find?_isSome.mpr ⟨e', he', by simp [hid]⟩)
  have hsame : SameWorkers old new e e' ↔
      if e.lingerMs = 0 ∨ first.lingerMs = 0 then e'.lingerMs = 0
      else old.acl = new.acl ∧ first.SameTunables e' := by
    constructor
    · exact fun h => h first hfirst
    · intro h first' hfirst'
      cases hfirst.symm.trans hfirst'
      exact h
  have hstart : UdpIngressParams.startWorker ((new.udpParams e').ingress pool) =
      if e'.lingerMs = 0 then .panicked else .running ((new.udpParams e').ingress pool) := by
    unfold UdpIngressParams.startWorker
    exact if_congr linger_eq_zero rfl rfl
  rw [reload_startWorker hfirst, hsame, hstart]
  by_cases hpanicked : e.lingerMs = 0 ∨ first.lingerMs = 0
  · rw [if_pos hpanicked, if_pos hpanicked]
    by_cases hlinger : e'.lingerMs = 0
    · rw [if_pos hlinger]
      exact iff_of_true rfl hlinger
    · rw [if_neg hlinger]
      exact iff_of_false (fun h => by cases h) hlinger
  · rw [if_neg hpanicked, if_neg hpanicked]
    constructor
    · intro h
      split at h
      · cases h
      · injection h with h
        simp only [UdpIngressParams.ingress, ReductionConfig.udpParams, UdpIngressParams.limits,
          UdpIngress.mk.injEq, BatchLimits.mk.injEq, linger_inj] at h
        obtain ⟨hacl, -, ⟨hcount, hbytes, hlinger⟩, hmax, -, -⟩ := h
        exact ⟨hacl, hcount, hbytes, hlinger, hmax⟩
    · rintro ⟨hacl, hcount, hbytes, hlinger, hmax⟩
      rw [if_neg (hlinger ▸ (not_or.mp hpanicked).2)]
      simp only [UdpIngressParams.ingress, ReductionConfig.udpParams, UdpIngressParams.limits,
        hcount, hbytes, hlinger, hmax, hacl, hid]

variable {common : IngressCommon} {parallelism : Nat} {l l' : IngressListener}

/-- The listener of an entry, by its protocol. -/
inductive Spawned (config : ReductionConfig) (common : IngressCommon) (parallelism : Nat)
    (e : IngressConfig) : IngressListener → Prop
  | udp {pool : BackendPool} (hprotocol : e.protocol = .udp)
      (hpool : pool.backends = config.ingressBackends e) :
      Spawned config common parallelism e (.udp (config.udpListener common parallelism e pool))
  | tcp {pool : BackendPool} (hprotocol : e.protocol = .tcp)
      (hpool : pool.backends = config.ingressBackends e) :
      Spawned config common parallelism e
        (.tcp (e.tcpListener common { acl := config.acl, pool, ingressId := e.id }))

theorem spawnListener_ok (h : old.spawnListener common parallelism e = .ok l) :
    Spawned old common parallelism e l ∧
      (old.ingressBackends e).length ≤ old.balancer.maxBackends.toNat := by
  unfold ReductionConfig.spawnListener at h
  split at h
  · rename_i hprotocol
    obtain ⟨pool, hpool, h⟩ := bind_eq_ok.mp h
    cases h
    obtain ⟨hbackends, hfits⟩ := BackendPool.withMax_ok hpool
    exact ⟨.udp hprotocol hbackends, hfits⟩
  · rename_i hprotocol
    obtain ⟨ingress, hingress, h⟩ := bind_eq_ok.mp h
    cases h
    obtain ⟨pool, hpool, hingress⟩ := bind_eq_ok.mp hingress
    cases hingress
    obtain ⟨hbackends, hfits⟩ := BackendPool.withMax_ok hpool
    exact ⟨.tcp hprotocol hbackends, hfits⟩

theorem spawnListener_of_fits
    (hfits : (old.ingressBackends e).length ≤ old.balancer.maxBackends.toNat) :
    ∃ l, old.spawnListener common parallelism e = .ok l := by
  obtain ⟨pool, hpool⟩ := BackendPool.withMax_ok_of_le old.balancer.bounded hfits
  unfold ReductionConfig.spawnListener
  split
  · refine ⟨.udp (old.udpListener common parallelism e pool), ?_⟩
    exact bind_eq_ok.mpr ⟨pool, hpool, rfl⟩
  · refine ⟨.tcp (e.tcpListener common { acl := old.acl, pool, ingressId := e.id }), ?_⟩
    exact bind_eq_ok.mpr ⟨_, bind_eq_ok.mpr ⟨pool, hpool, rfl⟩, rfl⟩

theorem Spawned.listen_eq (h : Spawned old common parallelism e l) : l.listen = e.listen := by
  cases h with
  | udp => rfl
  | tcp => rfl

theorem BackendPool.ext_backends (h : pool.backends = pool'.backends) : pool = pool' := by
  cases pool
  cases pool'
  cases h
  rfl

theorem udp_reload_iff (hretry : old.retry = new.retry) (hlisten : e.listen = e'.listen)
    (he' : e' ∈ new.ingress) (hprotocol : e.protocol = .udp)
    (hpool : pool.backends = old.ingressBackends e) (hprotocol' : e'.protocol = .udp)
    (hpool' : pool'.backends = new.ingressBackends e') :
    (IngressListener.udp (old.udpListener common parallelism e pool)).reload new =
        .udp (new.udpListener common parallelism e' pool') ↔
      SameListener parallelism old new e e' := by
  constructor
  · intro h
    injection h with h
    simp only [ReductionConfig.udpListener, UdpListener.mk.injEq] at h
    obtain ⟨-, hbuffer, hworkers, hid, hdepth, hbackends, -, -, hworker⟩ := h
    cases BackendPool.ext_backends ((hpool.trans hbackends).trans hpool'.symm)
    refine ⟨hprotocol.trans hprotocol'.symm, hid, hbackends, fun _ => ?_, fun htcp => ?_⟩
    · exact ⟨hworkers, hbuffer, hdepth, (worker_reload_iff hid he').mp hworker⟩
    · rw [hprotocol] at htcp
      cases htcp
  · rintro ⟨-, hid, hbackends, hudp, -⟩
    obtain ⟨hworkers, hbuffer, hdepth, hworker⟩ := hudp hprotocol
    cases BackendPool.ext_backends ((hpool.trans hbackends).trans hpool'.symm)
    simp only [IngressListener.reload, ReductionConfig.udpListener,
      (worker_reload_iff hid he').mpr hworker, hlisten, hbuffer, hworkers, hid, hdepth, hbackends,
      hretry]

theorem tcp_reload_iff (hlisten : e.listen = e'.listen) (hprotocol : e.protocol = .tcp)
    (hpool : pool.backends = old.ingressBackends e) (hprotocol' : e'.protocol = .tcp)
    (hpool' : pool'.backends = new.ingressBackends e') :
    (IngressListener.tcp (e.tcpListener common
          { acl := old.acl, pool, ingressId := e.id })).reload new =
        .tcp (e'.tcpListener common { acl := new.acl, pool := pool', ingressId := e'.id }) ↔
      SameListener parallelism old new e e' := by
  constructor
  · intro h
    injection h with h
    simp only [IngressConfig.tcpListener, TcpListener.mk.injEq, TcpIngress.mk.injEq] at h
    obtain ⟨-, ⟨hacl, hpools, hid⟩, hmax, hidle, -⟩ := h
    have hbackends : old.ingressBackends e = new.ingressBackends e' := by
      rw [← hpool, ← hpool', hpools]
    refine ⟨hprotocol.trans hprotocol'.symm, hid, hbackends, fun hudp => ?_, fun _ => ?_⟩
    · rw [hprotocol] at hudp
      cases hudp
    · exact ⟨hacl, hmax, hidle⟩
  · rintro ⟨-, hid, hbackends, -, htcp⟩
    obtain ⟨hacl, hmax, hidle⟩ := htcp hprotocol
    cases BackendPool.ext_backends ((hpool.trans hbackends).trans hpool'.symm)
    simp only [IngressListener.reload, IngressConfig.tcpListener, hlisten, hacl, hid, hmax, hidle]

/-- A listener that was reloaded is the one that would be started. -/
theorem listener_reload_iff (h : Spawned old common parallelism e l)
    (h' : Spawned new common parallelism e' l') (hretry : old.retry = new.retry)
    (hlisten : e.listen = e'.listen) (he' : e' ∈ new.ingress) :
    l.reload new = l' ↔ SameListener parallelism old new e e' := by
  have hne : e.protocol ≠ e'.protocol → ¬ SameListener parallelism old new e e' :=
    fun hne hsame => hne hsame.protocol
  cases h with
  | udp hprotocol hpool =>
    cases h' with
    | udp hprotocol' hpool' =>
      exact udp_reload_iff hretry hlisten he' hprotocol hpool hprotocol' hpool'
    | tcp hprotocol' hpool' =>
      refine iff_of_false (fun h => by cases h) (hne ?_)
      rw [hprotocol, hprotocol']
      decide
  | tcp hprotocol hpool =>
    cases h' with
    | udp hprotocol' hpool' =>
      refine iff_of_false (fun h => by cases h) (hne ?_)
      rw [hprotocol, hprotocol']
      decide
    | tcp hprotocol' hpool' => exact tcp_reload_iff hlisten hprotocol hpool hprotocol' hpool'

end Listeners

/-! ## Everything else -/

/-- What startup fixes outside the ingress listeners, and the report does not name. -/
structure SameParts (old new : ReductionConfig) : Prop where
  clientAuth : old.listen.clientAuth = new.listen.clientAuth
  maxBackends : old.balancer.maxBackends = new.balancer.maxBackends
  drainTimeoutSecs : old.balancer.drainTimeoutSecs = new.balancer.drainTimeoutSecs
  redirect : old.redirectListener = new.redirectListener
  endpoint : old.endpointListener = new.endpointListener

section Parts

variable {old new : ReductionConfig}

/-- Between one and `HARD_MAX_BACKENDS` the capacity of the health table is `max_backends`. -/
theorem initialHealth_capacity (c : ReductionConfig) :
    c.initialHealth.entries.cap = c.balancer.maxBackends.toNat := by
  have hpos : 1 ≤ c.balancer.maxBackends.toNat := UInt32.le_iff_toNat_le.mp c.balancer.pos
  have hbounded : c.balancer.maxBackends.toNat ≤ maxBackends :=
    UInt32.le_iff_toNat_le.mp c.balancer.bounded
  show max 1 (min c.balancer.maxBackends.toNat maxBackends) = _
  omega

theorem initialHealth_eq_iff (hhealth : old.health = new.health) :
    old.initialHealth = new.initialHealth ↔
      old.balancer.maxBackends = new.balancer.maxBackends := by
  constructor
  · intro h
    rw [← UInt32.toNat_inj, ← initialHealth_capacity, ← initialHealth_capacity, h]
  · intro h
    rw [ReductionConfig.initialHealth, ReductionConfig.initialHealth, h, hhealth]

theorem parts_iff (env : StartEnv) (h : SameReported old new) {loaded loaded' : Option ClientTls}
    {state : ReloadableState} {rateLimit : RateLimit} {authz authz' : RawRelayAuthz} :
    old.running env loaded state rateLimit [] authz =
        new.running env loaded' state rateLimit [] authz' ↔
      loaded = loaded' ∧ authz = authz' ∧ SameParts old new := by
  constructor
  · intro heq
    simp only [ReductionConfig.running, RunningProxy.mk.injEq] at heq
    obtain ⟨-, -, hloaded, -, -, -, -, hhealth, -, -, -, hstate, -, -, -, -, -, -, -, hredirect,
      hendpoint, hauthz, hdrain⟩ := heq
    have hclientAuth : old.listen.clientAuth = new.listen.clientAuth :=
      congrArg ProxyState.clientAuth hstate
    exact ⟨hloaded, hauthz, hclientAuth, (initialHealth_eq_iff h.health).mp hhealth, hdrain,
      hredirect, hendpoint⟩
  · rintro ⟨rfl, rfl, hclientAuth, hmax, hdrain, hredirect, hendpoint⟩
    have hserver : old.buildServerTls = new.buildServerTls := by
      rw [ReductionConfig.buildServerTls, ReductionConfig.buildServerTls, h.tls, hclientAuth]
    have hstate : old.proxyState env.zstd = new.proxyState env.zstd := by
      rw [ReductionConfig.proxyState, ReductionConfig.proxyState, h.timeouts, h.proxy,
        h.compression, h.retry, h.cache, hclientAuth]
    have hpool : old.poolConfig = new.poolConfig := by
      rw [ReductionConfig.poolConfig, ReductionConfig.poolConfig, h.proxy, h.tunnel]
    have htunnel : old.tunnelListener = new.tunnelListener := by
      rw [ReductionConfig.tunnelListener, ReductionConfig.tunnelListener, h.tunnel]
    simp only [ReductionConfig.running, h.tracing, h.metrics, hserver, h.address, h.transport,
      (initialHealth_eq_iff h.health).mpr hmax, h.ratelimit, h.circuitBreaker, hstate, hpool,
      h.queueDepth, h.tunnel, htunnel, hredirect, hendpoint, hdrain]

end Parts

/-! ## The values in force -/

namespace RunningProxy

def ingressAt (p : RunningProxy) (addr : SocketAddr) : Option IngressListener :=
  p.ingress.find? fun l => l.listen = addr

/-- How many connections to a backend are allowed at once: the size of its semaphore, if there is
    one already. -/
def connLimit (p : RunningProxy) (b : BackendConfig) : UInt32 :=
  (p.connLimits.get b.id).getD b.maxConnections

/-- Two processes work with the same configuration values.  The order of the listeners and the
    semaphores of backends that are in no pool do not matter. -/
structure SameValues (p q : RunningProxy) : Prop where
  parts : { p with ingress := [], connLimits := ∅ } = { q with ingress := [], connLimits := ∅ }
  ingress : ∀ addr, p.ingressAt addr = q.ingressAt addr
  connLimits : ∀ name pool, q.reloadable.backendPools.get name = some pool →
    ∀ b ∈ pool.backends, p.connLimit b = q.connLimit b

variable (p : RunningProxy) (used : List BackendConfig)

/-- Using backends leaves everything else as it is. -/
theorem foldl_usePermit : ∃ limits, used.foldl usePermit p = { p with connLimits := limits } := by
  induction used generalizing p with
  | nil => exact ⟨p.connLimits, rfl⟩
  | cons b used ih =>
    obtain ⟨limits, hlimits⟩ := ih (p.usePermit b)
    exact ⟨limits, hlimits⟩

/-- The semaphore of an id has the size that its first use asked for. -/
theorem connLimits_foldl_usePermit (id : BackendId) :
    (used.foldl usePermit p).connLimits.get id =
      (p.connLimits.get id).or
        ((used.find? fun b => b.id = id).map BackendConfig.maxConnections) := by
  induction used generalizing p with
  | nil => exact (Option.or_none ..).symm
  | cons b used ih =>
    rw [List.foldl_cons, ih]
    have huse : (p.usePermit b).connLimits.get id =
        (p.connLimits.get id).or (if b.id = id then some b.maxConnections else none) := by
      show DashMap.get (if _ then _ else _) id = _
      by_cases hid : b.id = id
      · subst hid
        rw [if_pos rfl]
        cases hget : p.connLimits.get b.id with
        | some n => simp [hget]
        | none => simp [DashMap.get_insert]
      · rw [if_neg hid, Option.or_none]
        split
        · rfl
        · rw [DashMap.get_insert, if_neg (Ne.symm hid)]
    rw [huse, List.find?_cons, Option.or_assoc]
    by_cases hid : b.id = id
    · simp [hid]
    · simp [hid]

end RunningProxy

theorem worker_spawnWorker {W : Type} (params : UdpIngressParams) (pool : BackendPool)
    (worker : UInt16) : (params.spawnWorker pool worker : IngressState W).worker =
      UdpIngressParams.startWorker (params.ingress pool) := rfl

/-! ## The theorem -/

/-- What has to stay for a reload to do for a restart, beyond what the report names; `used` are the
    backends that were used in between. -/
structure SameFixed (parallelism : Nat) (used : List BackendConfig) (old new : ReductionConfig) :
    Prop extends SameParts old new where
  needsClientTls : old.needsClientTls = new.needsClientTls
  listeners : ∀ addr,
    Option.Rel (SameListener parallelism old new) (old.entryAt addr) (new.entryAt addr)
  poolsFit : new.PoolsFit
  authz : ∀ entry ∈ new.rawRelayAuthz, new.routesPool entry.backendId
  connLimits : ∀ b ∈ used, ∀ r ∈ new.routes, ∀ b' ∈ new.poolBackends r.backendId,
    b'.id = b.id → b'.maxConnections = b.maxConnections

section Theorem

variable {old new : ReductionConfig} {env : StartEnv} {p q : RunningProxy}

/-- What `c.start env` has built. -/
structure StartedAs (c : ReductionConfig) (env : StartEnv) (loaded : Option ClientTls)
    (state : ReloadableState) (limit : RateLimit) (listeners : List IngressListener)
    (authz : RawRelayAuthz) : Prop where
  clientTls : c.buildClientTls = .ok loaded
  reloadable : c.reloadableState = .ok state
  rateLimit : RateLimit.new c.ratelimit.requestsPerSecond = .ok limit
  ingress : List.Forall₂
    (fun e l => c.spawnListener (c.ingressCommon loaded limit) env.parallelism e = .ok l)
    c.ingress listeners
  rawRelayAuthz : RawRelayAuthz.new c.rawRelayAuthz state.backendPools.keys = .ok authz

theorem start_ok_iff : new.start env = .ok q ↔
    ∃ loaded state rateLimit listeners authz,
      StartedAs new env loaded state rateLimit listeners authz ∧
        q = new.running env loaded state rateLimit listeners authz := by
  constructor
  · intro h
    obtain ⟨loaded, hloaded, h⟩ := bind_eq_ok.mp h
    obtain ⟨state, hstate, h⟩ := bind_eq_ok.mp h
    obtain ⟨rateLimit, hrate, h⟩ := bind_eq_ok.mp h
    obtain ⟨listeners, hlisteners, h⟩ := bind_eq_ok.mp h
    obtain ⟨authz, hauthz, h⟩ := bind_eq_ok.mp h
    cases h
    exact ⟨loaded, state, rateLimit, listeners, authz,
      ⟨hloaded, hstate, hrate, List.mapM_eq_ok.mp hlisteners, hauthz⟩, rfl⟩
  · rintro ⟨loaded, state, rateLimit, listeners, authz, h, rfl⟩
    refine bind_eq_ok.mpr ⟨loaded, h.clientTls, ?_⟩
    refine bind_eq_ok.mpr ⟨state, h.reloadable, ?_⟩
    refine bind_eq_ok.mpr ⟨rateLimit, h.rateLimit, ?_⟩
    refine bind_eq_ok.mpr ⟨listeners, List.mapM_eq_ok.mpr h.ingress, ?_⟩
    exact bind_eq_ok.mpr ⟨authz, h.rawRelayAuthz, rfl⟩

variable {state : ReloadableState} {used : List BackendConfig}

theorem reloadableState_pools (h : new.reloadableState = .ok state) :
    new.buildBackendPools = .ok state.backendPools := by
  obtain ⟨pools, hpools, h⟩ := bind_eq_ok.mp h
  cases h
  exact hpools

variable {pools : DashMap BackendId BackendPool} {loaded : Option ClientTls} {limit : RateLimit}
  {listeners : List IngressListener} {authz : RawRelayAuthz}

theorem mem_keys_iff_isSome {name : BackendId} : name ∈ pools.keys ↔ (pools.get name).isSome :=
  AList.lookup_isSome.symm

/-- The listeners are compared address by address. -/
theorem listeners_iff {common : IngressCommon} {parallelism : Nat} {ls ls' : List IngressListener}
    (h : List.Forall₂ (fun e l => old.spawnListener common parallelism e = .ok l) old.ingress ls)
    (h' : List.Forall₂ (fun e l => new.spawnListener common parallelism e = .ok l) new.ingress ls')
    (hretry : old.retry = new.retry) (addr : SocketAddr) :
    (ls.map fun l => l.reload new).find? (fun l => l.listen = addr) =
        ls'.find? (fun l => l.listen = addr) ↔
      Option.Rel (SameListener parallelism old new) (old.entryAt addr) (new.entryAt addr) := by
  have hlisten : ∀ (c : ReductionConfig) e l, c.spawnListener common parallelism e = .ok l →
      decide (l.listen = addr) = decide (e.listen = addr) := by
    intro c e l hspawn
    rw [(spawnListener_ok hspawn).1.listen_eq]
  have hreload : ∀ l : IngressListener, (l.reload new).listen = l.listen := by
    intro l
    cases l <;> rfl
  rw [List.find?_map]
  simp only [Function.comp_def, hreload]
  have hrel := h.rel_find? (hlisten old)
  have hrel' := h'.rel_find? (hlisten new)
  unfold ReductionConfig.entryAt
  generalize hfound : old.ingress.find? (fun e => e.listen = addr) = e at hrel ⊢
  generalize ls.find? (fun l => l.listen = addr) = l at hrel ⊢
  generalize hfound' : new.ingress.find? (fun e => e.listen = addr) = e' at hrel' ⊢
  generalize ls'.find? (fun l => l.listen = addr) = l' at hrel' ⊢
  cases hrel with
  | none =>
    cases hrel' with
    | none => exact iff_of_true rfl .none
    | some => exact iff_of_false (fun h => by cases h) (fun h => by cases h)
  | some hspawn =>
    cases hrel' with
    | none => exact iff_of_false (fun h => by cases h) (fun h => by cases h)
    | some hspawn' =>
      have haddr := List.find?_some hfound
      have haddr' := List.find?_some hfound'
      rw [decide_eq_true_eq] at haddr haddr'
      have hiff := listener_reload_iff (spawnListener_ok hspawn).1 (spawnListener_ok hspawn').1
        hretry (haddr.trans haddr'.symm) (List.mem_of_find?_eq_some hfound')
      rw [Option.map_some, Option.some_inj, hiff]
      exact ⟨.some, fun h => by cases h with | some h => exact h⟩

/-- The semaphores that are there have the size that the new configuration asks for. -/
theorem connLimits_iff (hids : (old.backends.map BackendConfig.id).Nodup)
    (hpools : new.buildBackendPools = .ok pools) (hused : ∀ b ∈ used, b ∈ old.backends) :
    (∀ name pool, pools.get name = some pool → ∀ b ∈ pool.backends,
        ((used.find? fun u => u.id = b.id).map BackendConfig.maxConnections).getD b.maxConnections =
          b.maxConnections) ↔
      ∀ b ∈ used, ∀ r ∈ new.routes, ∀ b' ∈ new.poolBackends r.backendId,
        b'.id = b.id → b'.maxConnections = b.maxConnections := by
  have hof := ReductionConfig.poolsOf_buildBackendPools hpools
  constructor
  · intro h b hb r hr b' hb' hid
    obtain ⟨pool, hpool, hbackends⟩ := Option.map_eq_some_iff.mp
      ((hof r.backendId _).mpr ⟨⟨r, hr, rfl⟩, rfl, List.ne_nil_of_mem hb'⟩)
    have hlimit := h r.backendId pool hpool b' (hbackends ▸ hb')
    -- ids are distinct, so the first use of the id was of the same backend
    have hsome : (used.find? fun u => u.id = b'.id).isSome :=
      List.find?_isSome.mpr ⟨b, hb, by simp [hid]⟩
    obtain ⟨first, hfirst⟩ := Option.isSome_iff_exists.mp hsome
    have hfirstId : first.id = b'.id := by simpa using List.find?_some hfirst
    have hsame : first = b := List.inj_on_of_nodup_map hids
      (hused first (List.mem_of_find?_eq_some hfirst)) (hused b hb) (hfirstId.trans hid)
    rw [hfirst, hsame] at hlimit
    exact hlimit.symm
  · intro h name pool hpool b hb
    obtain ⟨⟨r, hr, hname⟩, hbackends, -⟩ :=
      (hof name pool.backends).mp (by rw [hpool]; rfl)
    cases hfirst : used.find? fun u => u.id = b.id with
    | none => rfl
    | some first =>
      have hfirstId : first.id = b.id := by simpa using List.find?_some hfirst
      rw [hbackends, ← hname] at hb
      exact (h first (List.mem_of_find?_eq_some hfirst) r hr b hb hfirstId.symm).symm

/-- The new configuration can be started if its pools can be built, its listeners are those that run,
    and the relay policy names pools. -/
theorem startedAs_of_same (hnew : new.validate = .ok ()) (hreport : SameReported old new)
    (hstart : StartedAs old env loaded state limit listeners authz)
    (h : SameFixed env.parallelism used old new) :
    ∃ state' listeners', StartedAs new env loaded state' limit listeners' authz := by
  obtain ⟨loaded', hloaded', hsame⟩ :=
    ReductionConfig.buildClientTls_eq hnew hreport.tls hstart.clientTls
  cases hsame.mpr h.needsClientTls
  obtain ⟨pools, hpools⟩ := ReductionConfig.buildBackendPools_ok_iff.mpr h.poolsFit
  have hlisteners : ∀ e ∈ new.ingress, ∃ l,
      new.spawnListener (new.ingressCommon loaded limit) env.parallelism e = .ok l := by
    intro e' he'
    have hat : new.entryAt e'.listen = some e' :=
      List.find?_key (ReductionConfig.listens_nodup hnew) he'
    have hrel := h.listeners e'.listen
    rw [hat] at hrel
    cases hfound : old.entryAt e'.listen with
    | none =>
      rw [hfound] at hrel
      cases hrel
    | some e =>
      rw [hfound] at hrel
      cases hrel with
      | some hlistener =>
        obtain ⟨l, -, hspawn⟩ := hstart.ingress.exists_of_mem (List.mem_of_find?_eq_some hfound)
        apply spawnListener_of_fits
        rw [← hlistener.backends, ← h.maxBackends]
        exact (spawnListener_ok hspawn).2
  obtain ⟨listeners', hlisteners'⟩ := List.exists_forall₂ hlisteners
  have hauthz : RawRelayAuthz.new new.rawRelayAuthz pools.keys = .ok authz := by
    rw [← hreport.rawRelayAuthz]
    refine (RawRelayAuthz.new_ok hstart.rawRelayAuthz).2 ?_
    intro entry hentry
    rw [mem_keys_iff_isSome,
      ReductionConfig.isSome_get_buildBackendPools (ReductionConfig.validate_ok hnew) hpools]
    exact h.authz entry (hreport.rawRelayAuthz ▸ hentry)
  have hlimit : RateLimit.new new.ratelimit.requestsPerSecond = .ok limit := by
    rw [← hreport.ratelimit]
    exact hstart.rateLimit
  have hstate : new.reloadableState = .ok
      { router := .new new.routes
        backendPools := pools
        acl := .new new.access.allow new.access.deny } :=
    bind_eq_ok.mpr ⟨pools, hpools, rfl⟩
  exact ⟨_, listeners', hloaded', hstate, hlimit, hlisteners', hauthz⟩

/-- What the processes are compared by, once the new one could be started. -/
theorem sameValues_iff (hsame : SameReported old new)
    (hids : (old.backends.map BackendConfig.id).Nodup) (hused : ∀ b ∈ used, b ∈ old.backends)
    {loaded' : Option ClientTls} {state' : ReloadableState} {listeners' : List IngressListener}
    {authz' : RawRelayAuthz} (hstarted' : StartedAs new env loaded' state' limit listeners' authz') :
    ((used.foldl .usePermit (old.running env loaded state limit listeners authz)).reload
        new).SameValues (new.running env loaded' state' limit listeners' authz') ↔
      (loaded = loaded' ∧ authz = authz' ∧ SameParts old new) ∧
      (∀ addr, (listeners.map fun l => l.reload new).find? (fun l => l.listen = addr) =
        listeners'.find? (fun l => l.listen = addr)) ∧
      ∀ b ∈ used, ∀ r ∈ new.routes, ∀ b' ∈ new.poolBackends r.backendId,
        b'.id = b.id → b'.maxConnections = b.maxConnections := by
  rw [← @parts_iff _ _ env hsame loaded loaded' state' limit authz authz',
    ← connLimits_iff hids (reloadableState_pools hstarted'.reloadable) hused]
  have hlimits := RunningProxy.connLimits_foldl_usePermit
    (old.running env loaded state limit listeners authz) used
  obtain ⟨limits, hp⟩ := RunningProxy.foldl_usePermit
    (old.running env loaded state limit listeners authz) used
  rw [hp] at hlimits ⊢
  replace hlimits : ∀ id, limits.get id =
      (used.find? fun b => b.id = id).map BackendConfig.maxConnections := hlimits
  have hreload : RunningProxy.reload
      { old.running env loaded state limit listeners authz with connLimits := limits } new =
      { old.running env loaded state' limit (listeners.map fun l => l.reload new) authz with
        connLimits := limits } := by
    rw [RunningProxy.reload, hstarted'.reloadable]
    rfl
  rw [hreload]
  constructor
  · rintro ⟨hparts, hingress, hconn⟩
    refine ⟨hparts, hingress, ?_⟩
    intro name pool hpool b hb
    rw [← hlimits]
    exact hconn name pool hpool b hb
  · rintro ⟨hparts, hingress, hconn⟩
    refine ⟨hparts, hingress, ?_⟩
    intro name pool hpool b hb
    show (limits.get b.id).getD b.maxConnections = b.maxConnections
    rw [hlimits]
    exact hconn name pool hpool b hb

/-- For valid configurations between which nothing is reported, a reload leads to the values of a
    restart if and only if none of the fixed values changes. -/
theorem reload_report_complete_iff (hold : old.validate = .ok ()) (hnew : new.validate = .ok ())
    (hreport : restartRequiredSections old new = []) (hstart : old.start env = .ok p)
    (used : List BackendConfig) (hused : ∀ b ∈ used, b ∈ old.backends) :
    (∃ q, new.start env = .ok q ∧ ((used.foldl .usePermit p).reload new).SameValues q) ↔
      SameFixed env.parallelism used old new := by
  have hsame := report_nil hreport
  have hids := (ReductionConfig.validate_ok hold).ids_nodup
  obtain ⟨loaded, state, limit, listeners, authz, hstarted, rfl⟩ := start_ok_iff.mp hstart
  have hcommon : old.ingressCommon loaded limit = new.ingressCommon loaded limit := by
    rw [ReductionConfig.ingressCommon, ReductionConfig.ingressCommon, ReductionConfig.poolConfig,
      ReductionConfig.poolConfig, hsame.proxy, hsame.tunnel, hsame.circuitBreaker, hsame.timeouts]
  have hlisteners := hstarted.ingress
  rw [hcommon] at hlisteners
  constructor
  · rintro ⟨q, hq, hvalues⟩
    obtain ⟨loaded', state', limit', listeners', authz', hstarted', rfl⟩ := start_ok_iff.mp hq
    have hlimit := hstarted'.rateLimit
    rw [← hsame.ratelimit, hstarted.rateLimit] at hlimit
    cases hlimit
    obtain ⟨⟨rfl, rfl, hparts⟩, hingress, hconn⟩ :=
      (sameValues_iff hsame hids hused hstarted').mp hvalues
    obtain ⟨loaded', hloaded', hneeds⟩ :=
      ReductionConfig.buildClientTls_eq hnew hsame.tls hstarted.clientTls
    cases hstarted'.clientTls.symm.trans hloaded'
    have hpools := reloadableState_pools hstarted'.reloadable
    have hknown := (@RawRelayAuthz.new_ok _ [] _ _ hstarted'.rawRelayAuthz).1
    refine ⟨hparts, hneeds.mp rfl, ?_, ReductionConfig.buildBackendPools_ok_iff.mp ⟨_, hpools⟩, ?_,
      hconn⟩
    · exact fun addr => (listeners_iff hlisteners hstarted'.ingress hsame.retry addr).mp
        (hingress addr)
    · intro entry hentry
      rw [← ReductionConfig.isSome_get_buildBackendPools (ReductionConfig.validate_ok hnew) hpools,
        ← mem_keys_iff_isSome]
      exact hknown entry hentry
  · intro hfixed
    obtain ⟨state', listeners', hstarted'⟩ := startedAs_of_same hnew hsame hstarted hfixed
    refine ⟨_, start_ok_iff.mpr ⟨_, _, _, _, _, hstarted', rfl⟩, ?_⟩
    refine (sameValues_iff hsame hids hused hstarted').mpr
      ⟨⟨rfl, rfl, hfixed.toSameParts⟩, ?_, hfixed.connLimits⟩
    exact fun addr => (listeners_iff hlisteners hstarted'.ingress hsame.retry addr).mpr
      (hfixed.listeners addr)

end Theorem

namespace Sample

def startEnv : StartEnv := { zstd := (state 2).zstd, parallelism := 1 }

/-- Batches of one datagram. -/
def retuned : ReductionConfig :=
  { ingressConfig 20 with ingress := [{ ingressEntry 20 with batchMaxDatagrams := 1 }] }

/-- Client certificates are required. -/
def certified : ReductionConfig :=
  { ingressConfig 20 with
    listen := { (ingressConfig 20).listen with clientAuth := .required } }

theorem sameFixed_retuned : SameFixed 1 [ingest] (ingressConfig 20) retuned := by
  refine ⟨⟨rfl, rfl, rfl, rfl, rfl⟩, rfl, ?_, by decide, (fun _ h => by cases h), by decide⟩
  intro addr
  by_cases haddr : (ingressEntry 20).listen = addr
  · subst haddr
    refine .some ⟨rfl, rfl, rfl, fun _ => ⟨rfl, rfl, rfl, ?_⟩, fun h => by cases h⟩
    intro first hfirst
    cases hfirst
    rw [if_neg (by decide)]
    exact ⟨rfl, rfl, rfl, rfl, rfl⟩
  · have hold : (ingressConfig 20).entryAt addr = none := by
      rw [ReductionConfig.entryAt, List.find?_eq_none]
      intro entry hentry
      rw [List.mem_singleton.mp hentry, decide_eq_true_eq]
      exact haddr
    have hnew : retuned.entryAt addr = none := by
      rw [ReductionConfig.entryAt, List.find?_eq_none]
      intro entry hentry
      rw [List.mem_singleton.mp hentry, decide_eq_true_eq]
      exact haddr
    rw [hold, hnew]
    exact .none

end Sample

theorem tunables_follow_reload :
    (Sample.ingressConfig 20).validate = .ok () ∧ Sample.retuned.validate = .ok () ∧
      restartRequiredSections (Sample.ingressConfig 20) Sample.retuned = [] ∧
      ∃ p, (Sample.ingressConfig 20).start Sample.startEnv = .ok p ∧
        ∃ q, Sample.retuned.start Sample.startEnv = .ok q ∧
          (([Sample.ingest].foldl .usePermit p).reload Sample.retuned).SameValues q := by
  refine ⟨by decide, by decide, by decide, _, rfl, ?_⟩
  exact (reload_report_complete_iff (by decide) (by decide) (by decide) rfl [Sample.ingest]
    (by decide)).mpr Sample.sameFixed_retuned

/-- Nothing is reported, and the process goes on without client certificates. -/
theorem client_auth_not_reported :
    (Sample.ingressConfig 20).validate = .ok () ∧ Sample.certified.validate = .ok () ∧
      restartRequiredSections (Sample.ingressConfig 20) Sample.certified = [] ∧
      ¬ SameFixed 1 [] (Sample.ingressConfig 20) Sample.certified ∧
      ∃ p q, (Sample.ingressConfig 20).start Sample.startEnv = .ok p ∧
        Sample.certified.start Sample.startEnv = .ok q ∧
        (p.reload Sample.certified).state.clientAuth = .disabled ∧
        q.state.clientAuth = .required ∧
        ¬ (p.reload Sample.certified).SameValues q := by
  refine ⟨by decide, by decide, by decide, ?_, _, _, rfl, rfl, rfl, rfl, ?_⟩
  · intro h
    cases h.clientAuth
  · intro h
    have hauth : ClientAuthPolicy.disabled = .required :=
      congrArg (fun p => p.state.clientAuth) h.parts
    cases hauth

end Reduction
