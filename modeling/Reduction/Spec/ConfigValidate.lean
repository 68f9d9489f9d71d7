import Reduction.ForStd.Run
import Reduction.Native.Config
import Reduction.Spec.HandlerRuns

/-!
# What a validated configuration guarantees

`validate` is a chain of loops that stop at the first violation.  `validate_ok`
reads off once what a configuration that passed them all satisfies; later
results use the fields of `Validated` and never look at the loops again.
-/

namespace Reduction

open Run

/-- The caps of an ingress entry, as `validate_ingress_caps` leaves them. -/
structure IngressConfig.CapsValid (e : IngressConfig) : Prop where
  maxDatagramBytes_pos : 0 < e.maxDatagramBytes.toNat
  batchMaxDatagrams_pos : 0 < e.batchMaxDatagrams.toNat
  queueDepth_pos : 0 < e.queueDepthPerBackend.toNat
  maxDatagramBytes_le : e.maxDatagramBytes.toNat ≤ e.batchMaxBytes.toNat
  batchMaxBytes_le : e.batchMaxBytes.toNat ≤ IngressProtocol.maxEnvelopeFrame

namespace ReductionConfig

variable {c : ReductionConfig}

/-- What the modelled parts of the proxy rely on. -/
structure Validated (c : ReductionConfig) : Prop where
  ids_nodup : (c.backends.map BackendConfig.id).Nodup
  route_pool : ∀ r ∈ c.routes, ∃ b ∈ c.backends, b.pool.bytes = r.backendId.bytes
  ingress_caps : ∀ e ∈ c.ingress, e.CapsValid

theorem ids_nodup_of_ok (h : c.validateNoDuplicateBackendIds = .ok ()) :
    (c.backends.map BackendConfig.id).Nodup := by
  obtain ⟨seen, hloop, -⟩ := bind_eq_ok.mp h
  refine nodup_of_foldlM_seen (fun seen b seen' hb => ?_) hloop
  unfold checkBackendId at hb
  split at hb
  case isTrue => cases hb
  case isFalse hfresh =>
    cases hb
    exact ⟨by simpa using hfresh, rfl⟩

/-- No two routes have the same prefix. -/
theorem prefixes_nodup_of_ok (h : c.validateRoutes = .ok ()) :
    (c.routes.map RouteConfig.pathPrefix).Nodup := by
  obtain ⟨seen, hloop, -⟩ := bind_eq_ok.mp h
  refine nodup_of_foldlM_seen (fun seen route seen' hroute => ?_) hloop
  unfold checkRoute at hroute
  obtain ⟨-, hfresh, hroute⟩ := checked_eq_ok.mp hroute
  split at hroute
  case isTrue =>
    cases hroute
    exact ⟨by simpa using hfresh, rfl⟩
  case isFalse => cases hroute

theorem route_pool_of_ok (h : c.validateRoutes = .ok ()) :
    ∀ r ∈ c.routes, ∃ b ∈ c.backends, b.pool.bytes = r.backendId.bytes := by
  obtain ⟨seen, hloop, -⟩ := bind_eq_ok.mp h
  have hstep : ∀ (done : List RouteConfig) route (seen seen' : List (ArrayString 64)),
      (∀ r ∈ done, ∃ b ∈ c.backends, b.pool.bytes = r.backendId.bytes) →
      c.checkRoute seen route = .ok seen' →
      ∀ r ∈ done ++ [route], ∃ b ∈ c.backends, b.pool.bytes = r.backendId.bytes := by
    intro done route seen seen' hdone hroute r hr
    cases List.mem_append.mp hr with
    | inl hr => exact hdone r hr
    | inr hr =>
      obtain rfl := List.mem_singleton.mp hr
      unfold checkRoute at hroute
      obtain ⟨-, -, hroute⟩ := checked_eq_ok.mp hroute
      split at hroute
      · rename_i hany
        obtain ⟨b, hb, hpool⟩ := List.any_eq_true.mp hany
        exact ⟨b, hb, by simpa using hpool⟩
      · cases hroute
  exact foldlM_invariant hstep (by simp) hloop

theorem capsValid_of_ok {e : IngressConfig} (h : validateIngressCaps e = .ok ()) : e.CapsValid := by
  unfold validateIngressCaps at h
  dsimp only at h
  obtain ⟨hzero, -, h⟩ := checked_eq_ok.mp h
  obtain ⟨hfit, hframe, -⟩ := checked_eq_ok.mp h
  simp only [Bool.or_eq_true, decide_eq_true_eq, not_or, ← UInt32.toNat_inj] at hzero
  rw [UInt32.not_lt, UInt32.le_iff_toNat_le] at hfit
  have hceiling : e.batchMaxBytes.toNat ≤ IngressProtocol.maxEnvelopeFrame := by
    rw [gt_iff_lt, UInt32.not_lt, UInt32.le_iff_toNat_le] at hframe
    exact hframe
  obtain ⟨⟨⟨⟨hdatagram, hcount⟩, -⟩, hdepth⟩, -⟩ := hzero
  exact ⟨Nat.pos_of_ne_zero hdatagram, Nat.pos_of_ne_zero hcount, Nat.pos_of_ne_zero hdepth, hfit,
    hceiling⟩

theorem ingress_caps_of_ok (h : c.validateIngress = .ok ()) : ∀ e ∈ c.ingress, e.CapsValid := by
  obtain ⟨seen, hloop, -⟩ := bind_eq_ok.mp h
  have hstep : ∀ (done : List IngressConfig) entry (seen seen' : List SocketAddr),
      (∀ e ∈ done, e.CapsValid) → c.checkIngress seen entry = .ok seen' →
      ∀ e ∈ done ++ [entry], e.CapsValid := by
    intro done entry seen seen' hdone hentry e he
    cases List.mem_append.mp he with
    | inl he => exact hdone e he
    | inr he =>
      obtain rfl := List.mem_singleton.mp he
      unfold checkIngress at hentry
      split at hentry
      · cases hentry
      · obtain ⟨_, -, hentry⟩ := bind_eq_ok.mp hentry
        obtain ⟨_, hcaps, -⟩ := bind_eq_ok.mp hentry
        exact capsValid_of_ok hcaps
  exact foldlM_invariant hstep (by simp) hloop

/-- No two ingress entries listen on the same address. -/
theorem listens_nodup_of_ok (h : c.validateIngress = .ok ()) :
    (c.ingress.map IngressConfig.listen).Nodup := by
  obtain ⟨seen, hloop, -⟩ := bind_eq_ok.mp h
  refine nodup_of_foldlM_seen (fun seen entry seen' hentry => ?_) hloop
  unfold checkIngress at hentry
  split at hentry
  case isTrue => cases hentry
  case isFalse =>
    obtain ⟨_, -, hentry⟩ := bind_eq_ok.mp hentry
    obtain ⟨_, -, hentry⟩ := bind_eq_ok.mp hentry
    obtain ⟨hfresh, -, hentry⟩ := checked_eq_ok.mp hentry
    cases hentry
    exact ⟨by simpa using hfresh, rfl⟩

/-- Who dials with TLS has an identity to do so. -/
theorem tlsClient_of_ok (h : c.validateClientIdentity = .ok ()) {b : BackendConfig}
    (hb : b ∈ c.backends) (htls : b.needsClientTls = true) : c.tlsClient = true := by
  unfold validateClientIdentity at h
  split at h
  · rename_i hclient
    exact hclient
  · have hstep : ∀ (done : List BackendConfig) b (s s' : Unit),
        (∀ b ∈ done, b.needsClientTls = false) → checkClientIdentity s b = .ok s' →
        ∀ b' ∈ done ++ [b], b'.needsClientTls = false := by
      intro done b s s' hdone hcheck
      rw [List.forall_mem_append, List.forall_mem_singleton]
      refine ⟨hdone, ?_⟩
      unfold checkClientIdentity at hcheck
      split at hcheck
      · cases hcheck
      · rename_i hplain
        exact Bool.not_eq_true _ ▸ hplain
    have hplain := foldlM_invariant hstep (by simp) h b hb
    rw [htls] at hplain
    cases hplain

theorem validate_ok (h : c.validate = .ok ()) : c.Validated := by
  obtain ⟨_, hids, h⟩ := bind_eq_ok.mp h
  obtain ⟨_, hroutes, h⟩ := bind_eq_ok.mp h
  obtain ⟨_, -, h⟩ := bind_eq_ok.mp h
  obtain ⟨_, hingress, -⟩ := bind_eq_ok.mp h
  exact ⟨ids_nodup_of_ok hids, route_pool_of_ok hroutes, ingress_caps_of_ok hingress⟩

theorem prefixes_nodup (h : c.validate = .ok ()) :
    (c.routes.map RouteConfig.pathPrefix).Nodup := by
  obtain ⟨_, -, h⟩ := bind_eq_ok.mp h
  obtain ⟨_, hroutes, -⟩ := bind_eq_ok.mp h
  exact prefixes_nodup_of_ok hroutes

theorem listens_nodup (h : c.validate = .ok ()) : (c.ingress.map IngressConfig.listen).Nodup := by
  obtain ⟨_, -, h⟩ := bind_eq_ok.mp h
  obtain ⟨_, -, h⟩ := bind_eq_ok.mp h
  obtain ⟨_, -, h⟩ := bind_eq_ok.mp h
  obtain ⟨_, hingress, -⟩ := bind_eq_ok.mp h
  exact listens_nodup_of_ok hingress

theorem tlsClient_of_validate (h : c.validate = .ok ()) {b : BackendConfig} (hb : b ∈ c.backends)
    (htls : b.needsClientTls = true) : c.tlsClient = true := by
  obtain ⟨_, -, h⟩ := bind_eq_ok.mp h
  obtain ⟨_, -, h⟩ := bind_eq_ok.mp h
  obtain ⟨_, -, h⟩ := bind_eq_ok.mp h
  obtain ⟨_, -, h⟩ := bind_eq_ok.mp h
  obtain ⟨_, -, h⟩ := bind_eq_ok.mp h
  obtain ⟨_, hclient, -⟩ := bind_eq_ok.mp h
  exact tlsClient_of_ok hclient hb htls

end ReductionConfig

/-! ## Sample configurations -/

namespace Sample

/-- The pool of the sample backends. -/
def web : BackendId := (route twoBackends).backendId

/-- A route for every path to the pool with the given name. -/
def routeTo (pool : BackendId) : RouteConfig :=
  { pathPrefix := ⟨Bytes.ascii "/", by decide⟩, backendId := pool, timeoutSecs := none }

def balancerConfig (max : UInt32) (pos : 1 ≤ max) (bounded : max ≤ hardMaxBackends) :
    BalancerConfig :=
  { queueDepth := 1000, drainTimeoutSecs := 30, maxBackends := max, pos, bounded }

/-- The files of one side of TLS. -/
def tlsIdentity (side : String) : TlsIdentity :=
  { certPath := Bytes.ascii ("certs/" ++ side ++ ".crt")
    keyPath := Bytes.ascii ("certs/" ++ side ++ ".key")
    caCertPath := Bytes.ascii "certs/ca.crt"
    crlPath := none }

/-- Without a tunnel. -/
def tunnelSection : TunnelSection :=
  { allowedBackendIds := []
    maxTotalSessions := none
    enabled := false
    listenAddress := none
    heartbeatTimeoutSecs := 45
    maxSessionsPerBackend := (state 2).proxyConfig.h2ConnectionsPerBackend
    registrationTimeoutSecs := 10
    controlChannelCapacity := (state 2).proxyConfig.quicChannelCapacity
    revocationPath := none
    maxAcceptsPerSecondPerIp := none
    controlPlaneHealth := false }

/-- A configuration of the given backends and routes, without ingress. -/
def config (backends : List BackendConfig) (routes : List RouteConfig)
    (hfields : ∀ b ∈ backends, b.fieldsValid = true) : ReductionConfig :=
  { listen := { address := b1.address, transport := .tcp, clientAuth := .disabled }
    tls := { server := .manual (tlsIdentity "server"), client := some (tlsIdentity "client") }
    backends
    routes
    balancer := balancerConfig 64 (by decide) (by decide)
    proxy := (state 2).proxyConfig
    compression := (state 2).compressionConfig
    health := { stalenessTtlSecs := 30, latencyThresholdMs := 100 }
    access := { allow := [], deny := [] }
    ratelimit :=
      { requestsPerSecond := 100, retainIntervalSecs := (state 2).timeouts.responseIdleSecs }
    metrics := { otlpEndpoint := none }
    circuitBreaker :=
      { failureThreshold := ⟨3, by decide⟩
        recoveryTimeoutSecs := 60
        halfOpenMaxRequests := (state 2).proxyConfig.h2ConnectionsPerBackend }
    timeouts := (state 2).timeouts
    retry := (state 2).retryConfig
    tracing := { otlpEndpoint := none, sampleRatio := .one }
    tunnel := tunnelSection
    cache := (state 2).cacheConfig
    rawRelayAuthz := []
    ingress := []
    httpRedirect := { enabled := false, listen := b1.address, toHost := [] }
    healthEndpoint := { enabled := false, listen := b1.address }
    backends_fieldsValid := hfields }

end Sample

end Reduction
