import Reduction.Native.Health
import Reduction.Spec.BalancerCorrect
import Reduction.Spec.ReloadCorrect

/-!
# Health reports and selection

All pools share one map of reports, of the size that the configuration allows a
single pool.  As long as the map has room for every configured backend it holds
the most recent report of each; otherwise a report is evicted by those of other
backends, and its backend counts as healthy again.
-/

namespace Reduction

/-! ## Histories of broadcasts -/

/-- The broadcasts that have been applied, with the time of each. -/
abbrev HealthHistory := List (HealthBroadcast × Instant)

namespace HealthHistory

/-- The single reports, in the order in which they were applied. -/
def reports (history : HealthHistory) : List (BackendHealth × Instant) :=
  history.flatMap fun update => update.1.map fun entry => (entry, update.2)

/-- The most recent report of a backend. -/
def latest (history : HealthHistory) (id : BackendId) : Option (BackendHealth × Instant) :=
  history.reports.reverse.find? fun report => report.1.backendId = id

/-- Only backends of the configuration are reported. -/
def NamesOnly (history : HealthHistory) (config : ReductionConfig) : Prop :=
  ∀ report ∈ history.reports, report.1.backendId ∈ config.backends.map BackendConfig.id

end HealthHistory

/-- The health state after a history of broadcasts. -/
def ReductionConfig.healthAfter (config : ReductionConfig) (history : HealthHistory) :
    HealthState :=
  history.foldl (fun state update => state.update update.1 update.2) config.initialHealth

namespace HealthState

/-- Reports into the map, one at a time. -/
def recordAll (state : HealthState) (reports : List (BackendHealth × Instant)) : HealthState :=
  { state with entries := reports.foldl (fun c r => c.put r.1.backendId r) state.entries }

theorem update_eq_recordAll (state : HealthState) (broadcast : HealthBroadcast) (now : Instant) :
    state.update broadcast now = state.recordAll (broadcast.map fun entry => (entry, now)) := by
  unfold update
  induction broadcast generalizing state with
  | nil => rfl
  | cons entry rest ih =>
    rw [List.foldl_cons, ih]
    rfl

theorem foldl_update_eq_recordAll (state : HealthState) (history : HealthHistory) :
    history.foldl (fun state update => state.update update.1 update.2) state =
      state.recordAll history.reports := by
  induction history generalizing state with
  | nil => rfl
  | cons update rest ih =>
    rw [List.foldl_cons, ih, update_eq_recordAll]
    simp [recordAll, HealthHistory.reports, List.foldl_append]

end HealthState

namespace ReductionConfig

variable {config : ReductionConfig} {history : HealthHistory}

theorem healthAfter_eq (config : ReductionConfig) (history : HealthHistory) :
    config.healthAfter history = config.initialHealth.recordAll history.reports :=
  HealthState.foldl_update_eq_recordAll _ _

theorem entries_healthAfter (config : ReductionConfig) (history : HealthHistory) :
    (config.healthAfter history).entries =
      history.reports.foldl (fun c r => c.put r.1.backendId r) config.initialHealth.entries := by
  rw [healthAfter_eq]
  rfl

/-- The configured limit of a pool is the size of the map. -/
theorem initialHealth_cap (config : ReductionConfig) :
    config.initialHealth.entries.cap = config.balancer.maxBackends.toNat := by
  have hpos := UInt32.le_iff_toNat_le.mp config.balancer.pos
  have hbounded := UInt32.le_iff_toNat_le.mp config.balancer.bounded
  change 1 ≤ _ at hpos
  change _ ≤ 256 at hbounded
  show max 1 (min config.balancer.maxBackends.toNat 256) = _
  omega

theorem healthAfter_cap (config : ReductionConfig) (history : HealthHistory) :
    (config.healthAfter history).entries.cap = config.balancer.maxBackends.toNat := by
  rw [entries_healthAfter, LruCache.cap_foldl_put, initialHealth_cap]

/-- With room for all backends, the map holds the most recent report of each. -/
theorem peek_healthAfter (hroom : config.backends.length ≤ config.balancer.maxBackends.toNat)
    (hnames : history.NamesOnly config) (id : BackendId) :
    (config.healthAfter history).peek id.bytes = history.latest id := by
  have hcap : (config.backends.map BackendConfig.id).length ≤ config.initialHealth.entries.cap := by
    rw [List.length_map, initialHealth_cap]
    exact hroom
  have hempty : ∀ e ∈ config.initialHealth.entries.entries,
      e.1 ∈ config.backends.map BackendConfig.id := by
    intro e he
    cases he
  rw [HealthState.peek, ArrayString.from?_bytes, Option.bind_some, entries_healthAfter,
    LruCache.peek_foldl_put _ _ hcap hempty hnames]
  exact Option.or_none

end ReductionConfig

/-! ## Offline backends -/

/-- The last that was heard of a backend, less than the staleness limit ago, is that it is offline. -/
def ReportedOffline (config : ReductionConfig) (history : HealthHistory) (now : Instant)
    (id : BackendId) : Prop :=
  ∃ health receivedAt, history.latest id = some (health, receivedAt) ∧
    health.availability = .offline ∧
    now - receivedAt < Duration.fromSecs config.health.stalenessTtlSecs.toNat

/-- A fresh report that a backend is offline takes all weight from it. -/
theorem HealthState.weightFactor_of_offline {state : HealthState} {now : Instant} {id : Bytes}
    {health : BackendHealth} {receivedAt : Instant} (hpeek : state.peek id = some (health, receivedAt))
    (hoffline : health.availability = .offline) (hfresh : now - receivedAt < state.stalenessTtl) :
    state.weightFactor now id = .zero := by
  simp [weightFactor, isValid, hpeek, hoffline, hfresh]

/-- Without a report a backend has its full weight. -/
theorem HealthState.weightFactor_of_none {state : HealthState} {now : Instant} {id : Bytes}
    (hpeek : state.peek id = none) : state.weightFactor now id = .one := by
  simp [weightFactor, isValid, hpeek]

/-- What a selection in the request handler reads. -/
def balancerEnv (health : HealthState) (now : Instant) (pool : ConnPool) (ln : F64 → F64) :
    BalancerEnv :=
  { weightFactor := health.weightFactor now
    pressure := fun b => pool.connectionPressure b.id.bytes b.maxConnections
    ln }

theorem ConnPool.connectionPressure_fin (pool : ConnPool) (id : Bytes) (max : UInt32) :
    ∃ q, pool.connectionPressure id max = .fin q := by
  unfold connectionPressure
  dsimp only
  split
  · exact ⟨1, rfl⟩
  · rename_i hmax
    exact ⟨_, F64.div_fin _ (Nat.cast_ne_zero.mpr hmax)⟩

/-- A backend without health factor is not eligible, under any finite pressure. -/
theorem not_eligible_of_factor_zero {env : BalancerEnv} {b : BackendConfig}
    (hb : b.fieldsValid = true) (hpressure : ∃ q, env.pressure b = .fin q)
    (hfactor : env.weightFactor b.id.bytes = .zero) (excluded : List BackendId) :
    ¬ BackendPool.Eligible env excluded b := by
  rintro ⟨hweight, -⟩
  obtain ⟨q, hq⟩ := hpressure
  have hfin : ∃ w, b.weight = .fin w := by
    unfold BackendConfig.fieldsValid at hb
    cases hw : b.weight with
    | fin w => exact ⟨w, rfl⟩
    | nan => simp [hw] at hb
    | negInf => simp [hw] at hb
    | posInf => simp [hw] at hb
  obtain ⟨w, hw⟩ := hfin
  obtain ⟨p, hp⟩ := F64.clamp_fin q 0 1
  have hzero : env.weight b = .fin 0 := by
    show (b.weight.mul (env.weightFactor b.id.bytes)).mul
      (F64.one.sub ((env.pressure b).clamp .zero .one)) = _
    rw [hw, hfactor, hq, F64.zero, F64.one, hp, F64.mul_fin, F64.sub_fin, F64.mul_fin, mul_zero,
      zero_mul]
  rw [hzero] at hweight
  exact absurd hweight (by decide)

/-- After a history of broadcasts, a backend that was last reported offline has no weight, and no
    selection returns it: neither one of the request handler nor one of an ingress. -/
structure SkipsOffline (config : ReductionConfig) (history : HealthHistory) : Prop where
  weightFactor : ∀ b ∈ config.backends, ∀ now, ReportedOffline config history now b.id →
    (config.healthAfter history).weightFactor now b.id.bytes = .zero
  selected : ∀ pool : BackendPool, (∀ b ∈ pool.backends, b ∈ config.backends) →
    ∀ clientIp now conns ln excluded b,
      pool.selectWithPressureExcluding clientIp
        (balancerEnv (config.healthAfter history) now conns ln) excluded = some b →
      ¬ ReportedOffline config history now b.id
  selected_ingress : ∀ pool : BackendPool, (∀ b ∈ pool.backends, b ∈ config.backends) →
    ∀ clientIp now ln b,
      pool.select clientIp ((config.healthAfter history).weightFactor now) ln = some b →
      ¬ ReportedOffline config history now b.id

/-- No selection returns a backend without weight. -/
theorem skipsOffline_of_weightFactor {config : ReductionConfig} {history : HealthHistory}
    (h : ∀ b ∈ config.backends, ∀ now, ReportedOffline config history now b.id →
      (config.healthAfter history).weightFactor now b.id.bytes = .zero) :
    SkipsOffline config history where
  weightFactor := h
  selected := by
    intro pool hpool clientIp now conns ln excluded b hselect hoffline
    obtain ⟨hb, helig⟩ := BackendPool.select_mem hselect
    have hvalid := config.backends_fieldsValid b (hpool b hb)
    exact not_eligible_of_factor_zero hvalid (conns.connectionPressure_fin _ _)
      (h b (hpool b hb) now hoffline) excluded helig
  selected_ingress := by
    intro pool hpool clientIp now ln b hselect hoffline
    obtain ⟨hb, helig⟩ := BackendPool.select_mem hselect
    have hvalid := config.backends_fieldsValid b (hpool b hb)
    exact not_eligible_of_factor_zero hvalid ⟨0, rfl⟩ (h b (hpool b hb) now hoffline) [] helig

def offlineReport (id : BackendId) : BackendHealth :=
  { backendId := id, load := .zero, latencyMs := 0, availability := .offline }

/-- One broadcast reports every backend of the configuration offline. -/
def allOffline (config : ReductionConfig) : HealthHistory :=
  [(config.backends.map fun b => offlineReport b.id, 0)]

theorem mem_reports_allOffline {config : ReductionConfig} {report : BackendHealth × Instant} :
    report ∈ (allOffline config).reports ↔
      ∃ b ∈ config.backends, (offlineReport b.id, 0) = report := by
  simp [HealthHistory.reports, allOffline]

theorem allOffline_namesOnly (config : ReductionConfig) : (allOffline config).NamesOnly config := by
  intro report hreport
  obtain ⟨b, hb, rfl⟩ := mem_reports_allOffline.mp hreport
  exact List.mem_map_of_mem hb

theorem reportedOffline_allOffline {config : ReductionConfig}
    (httl : config.health.stalenessTtlSecs ≠ 0) {b : BackendConfig} (hb : b ∈ config.backends) :
    ReportedOffline config (allOffline config) 0 b.id := by
  have hsome : ((allOffline config).latest b.id).isSome := by
    rw [HealthHistory.latest, List.find?_isSome]
    refine ⟨(offlineReport b.id, 0), ?_, by simp [offlineReport]⟩
    exact List.mem_reverse.mpr (mem_reports_allOffline.mpr ⟨b, hb, rfl⟩)
  obtain ⟨report, hreport⟩ := Option.isSome_iff_exists.mp hsome
  have hmem := List.mem_reverse.mp (List.mem_of_find?_eq_some hreport)
  obtain ⟨b', -, rfl⟩ := mem_reports_allOffline.mp hmem
  refine ⟨_, _, hreport, rfl, ?_⟩
  have hpos : 0 < config.health.stalenessTtlSecs.toNat := by
    apply Nat.pos_of_ne_zero
    intro hzero
    exact httl (UInt64.toNat_inj.mp hzero)
  show 0 < _
  exact Nat.mul_pos hpos (by decide)

/-- Backends that were last reported offline are skipped after every history, if and only if no
    report is ever fresh or the map of reports has room for all configured backends. -/
theorem offline_backends_skipped_iff {config : ReductionConfig} (hvalid : config.validate = .ok ()) :
    (∀ history : HealthHistory, history.NamesOnly config → SkipsOffline config history) ↔
      config.health.stalenessTtlSecs = 0 ∨
        config.backends.length ≤ config.balancer.maxBackends.toNat := by
  constructor
  · intro hskips
    by_contra hnot
    rw [not_or, Nat.not_le] at hnot
    obtain ⟨httl, hroom⟩ := hnot
    -- a backend whose report did not fit keeps its weight
    have hids := (ReductionConfig.validate_ok hvalid).ids_nodup
    obtain ⟨id, hid, hpeek⟩ := LruCache.exists_peek_eq_none
      (c := (config.healthAfter (allOffline config)).entries) hids
      (by rw [ReductionConfig.healthAfter_cap, List.length_map]; exact hroom)
    obtain ⟨b, hb, rfl⟩ := List.mem_map.mp hid
    have hzero := (hskips _ (allOffline_namesOnly config)).weightFactor b hb 0
      (reportedOffline_allOffline httl hb)
    rw [HealthState.weightFactor_of_none
      (by rw [HealthState.peek, ArrayString.from?_bytes]; exact hpeek)] at hzero
    exact absurd hzero (by decide)
  · intro hcond history hnames
    apply skipsOffline_of_weightFactor
    rintro b hb now ⟨health, receivedAt, hlatest, hoffline, hfresh⟩
    cases hcond with
    | inl httl =>
      rw [httl] at hfresh
      exact absurd hfresh (Nat.not_lt_zero _)
    | inr hroom =>
      have hpeek := ReductionConfig.peek_healthAfter hroom hnames b.id
      rw [hlatest] at hpeek
      refine HealthState.weightFactor_of_offline hpeek hoffline ?_
      rw [ReductionConfig.healthAfter_eq]
      exact hfresh

namespace Sample

def b2Alone : BackendConfig := { b2 with pool := ⟨b2.id.bytes, by decide⟩ }

/-- Two pools of one backend each, and reports for one backend. -/
def narrowConfig : ReductionConfig :=
  { config [b1, b2Alone]
      [{ routeTo b2.id with pathPrefix := ⟨Bytes.ascii "/b2", by decide⟩ }, routeTo web]
      (by decide) with
    balancer := balancerConfig 1 (by decide) (by decide) }

/-- The first backend goes offline, and then the other one reports that it is online. -/
def lastWords : HealthHistory :=
  [([offlineReport b1.id], 0), ([{ offlineReport b2.id with availability := .online }], 1)]

end Sample

/-- Two backends in a map with room for more. -/
theorem offline_backends_skipped_two :
    Sample.bothConfig.validate = .ok () ∧ ReportedOffline Sample.bothConfig Sample.lastWords 2
        Sample.b1.id ∧
      ∀ history : HealthHistory, history.NamesOnly Sample.bothConfig →
        SkipsOffline Sample.bothConfig history :=
  ⟨by decide, ⟨_, _, rfl, by decide, by decide⟩,
    (offline_backends_skipped_iff (by decide)).mpr (.inr (by decide))⟩

/-- The report of the other pool's backend evicts that of the first one, which is selected again. -/
theorem evicted_report_restores_weight :
    Sample.narrowConfig.validate = .ok () ∧ Sample.lastWords.NamesOnly Sample.narrowConfig ∧
      ReportedOffline Sample.narrowConfig Sample.lastWords 2 Sample.b1.id ∧
      (Sample.narrowConfig.healthAfter Sample.lastWords).weightFactor 2 Sample.b1.id.bytes = .one ∧
      ∃ pools pool, Sample.narrowConfig.buildBackendPools = .ok pools ∧
        pools.get Sample.web = some pool ∧
        ∀ clientIp ln, pool.select clientIp
          ((Sample.narrowConfig.healthAfter Sample.lastWords).weightFactor 2) ln =
            some Sample.b1 := by
  have hfactor : (Sample.narrowConfig.healthAfter Sample.lastWords).weightFactor 2
      Sample.b1.id.bytes = .one := by decide
  refine ⟨by decide, ?_, ⟨_, _, rfl, by decide, by decide⟩, hfactor, _, _, rfl, rfl, ?_⟩
  · intro report hreport
    revert report
    decide
  · intro clientIp ln
    have helig : BackendPool.Eligible
        { weightFactor := (Sample.narrowConfig.healthAfter Sample.lastWords).weightFactor 2
          pressure := fun _ => .zero
          ln } [] Sample.b1 := by
      refine ⟨?_, List.not_mem_nil⟩
      show ((Sample.b1.weight.mul ((Sample.narrowConfig.healthAfter Sample.lastWords).weightFactor 2
        Sample.b1.id.bytes)).mul (F64.one.sub (F64.zero.clamp .zero .one))).le .zero = false
      rw [hfactor]
      decide +kernel
    exact BackendPool.select_eq_of_single clientIp rfl helig

end Reduction
