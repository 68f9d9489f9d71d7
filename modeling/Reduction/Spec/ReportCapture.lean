import Reduction.ForStd.FloatScan
import Reduction.Spec.HealthReports
import Reduction.Spec.RendezvousSelection

/-!
# Reports that capture traffic

A load that is not a number passes the clamp and both products, is not skipped for
its weight, and is not exceeded by any score.  The backend of such a report is
selected by every client if no backend before it is eligible, and by none otherwise.

- `score_eq_nan_iff`: the backends whose score is no number
- `selects_by_score_iff`: a selection goes by the scores if and only if the first
  eligible backend has no such report
-/

namespace Reduction

/-- A fresh report says that the backend is online, with a load that is not a number. -/
def HealthState.ReportsNan (state : HealthState) (now : Instant) (id : Bytes) : Prop :=
  ∃ health receivedAt, state.peek id = some (health, receivedAt) ∧
    now - receivedAt < state.stalenessTtl ∧ health.availability = .online ∧ health.load = .nan

/-! ## Weights and scores -/

theorem clamp_unit {x : F64} (h : x ≠ .nan) : ∃ q, x.clamp .zero .one = .fin q := by
  cases x with
  | nan => exact absurd rfl h
  | negInf => exact ⟨0, rfl⟩
  | posInf => exact ⟨1, rfl⟩
  | fin q => exact F64.clamp_fin q 0 1

namespace HealthState

variable {state : HealthState} {now : Instant} {id : Bytes} {health : BackendHealth}
  {receivedAt : Instant}

theorem weightFactor_of_stale (hpeek : state.peek id = some (health, receivedAt))
    (hstale : ¬ now - receivedAt < state.stalenessTtl) : state.weightFactor now id = .one := by
  simp [weightFactor, isValid, hpeek, hstale]

/-- The part of the factor that the latency makes up. -/
def latencyFactor (state : HealthState) (health : BackendHealth) : F64 :=
  if health.latencyMs > state.latencyThresholdMs then
    (F64.ofNat state.latencyThresholdMs.toNat).div (.ofNat health.latencyMs.toNat)
  else
    .one

theorem weightFactor_of_online (hpeek : state.peek id = some (health, receivedAt))
    (hfresh : now - receivedAt < state.stalenessTtl) (honline : health.availability = .online) :
    state.weightFactor now id =
      (F64.one.sub (health.load.clamp .zero .one)).mul (state.latencyFactor health) := by
  simp [weightFactor, isValid, hpeek, hfresh, honline, latencyFactor]

/-- A latency above the threshold is not zero. -/
theorem exists_latencyFactor (state : HealthState) (health : BackendHealth) :
    ∃ q, state.latencyFactor health = .fin q := by
  unfold latencyFactor
  split
  · rename_i hlatency
    have hlt := UInt32.lt_iff_toNat_lt.mp hlatency
    have hne : (health.latencyMs.toNat : ℚ) ≠ 0 := Nat.cast_ne_zero.mpr (by omega)
    exact ⟨_, F64.div_fin _ hne⟩
  · exact ⟨1, rfl⟩

/-- Apart from such a report the health factor is a finite number. -/
theorem weightFactor_cases (state : HealthState) (now : Instant) (id : Bytes) :
    (state.ReportsNan now id ∧ state.weightFactor now id = .nan) ∨
      (¬ state.ReportsNan now id ∧ ∃ q, state.weightFactor now id = .fin q) := by
  cases hpeek : state.peek id with
  | none =>
    refine .inr ⟨?_, 1, weightFactor_of_none hpeek⟩
    rintro ⟨health, receivedAt, hpeek', -⟩
    cases hpeek.symm.trans hpeek'
  | some report =>
    obtain ⟨health, receivedAt⟩ := report
    have hreports : state.ReportsNan now id ↔ now - receivedAt < state.stalenessTtl ∧
        health.availability = .online ∧ health.load = .nan := by
      constructor
      · rintro ⟨health', receivedAt', hpeek', h⟩
        cases hpeek.symm.trans hpeek'
        exact h
      · exact fun h => ⟨health, receivedAt, hpeek, h⟩
    rw [hreports]
    by_cases hfresh : now - receivedAt < state.stalenessTtl
    · cases havailable : health.availability with
      | offline =>
        refine .inr ⟨?_, 0, weightFactor_of_offline hpeek havailable hfresh⟩
        rintro ⟨-, honline, -⟩
        cases honline
      | online =>
        obtain ⟨p, hlatency⟩ := state.exists_latencyFactor health
        rw [weightFactor_of_online hpeek hfresh havailable, hlatency]
        by_cases hload : health.load = .nan
        · rw [hload]
          exact .inl ⟨⟨hfresh, rfl, rfl⟩, rfl⟩
        · obtain ⟨q, hclamp⟩ := clamp_unit hload
          refine .inr ⟨fun h => hload h.2.2, (1 - q) * p, ?_⟩
          rw [hclamp, F64.one, F64.sub_fin, F64.mul_fin]
    · exact .inr ⟨fun h => hfresh h.1, 1, weightFactor_of_stale hpeek hfresh⟩

end HealthState

theorem ConnPool.exists_connectionPressure (pool : ConnPool) (id : Bytes) (max : UInt32) :
    ∃ q, pool.connectionPressure id max = .fin q := by
  unfold connectionPressure
  by_cases hmax : max.toNat = 0
  · exact ⟨1, if_pos hmax⟩
  · refine ⟨_, (if_neg hmax).trans (F64.div_fin _ ?_)⟩
    exact Nat.cast_ne_zero.mpr hmax

/-- The logarithm of a number between 0 and 1 is a negative number. -/
def NegativeLn (ln : F64 → F64) : Prop :=
  ∀ q : ℚ, 0 < q → q < 1 → ∃ r : ℚ, r < 0 ∧ ln (.fin q) = .fin r

section

variable {state : HealthState} {now : Instant} {conns : ConnPool} {ln : F64 → F64}
  {b : BackendConfig} {clientIp : IpAddr}

theorem weight_cases (hweight : ∃ q, b.weight = .fin q) :
    (state.ReportsNan now b.id.bytes ∧ (balancerEnv state now conns ln).weight b = .nan) ∨
      (¬ state.ReportsNan now b.id.bytes ∧
        ∃ q, (balancerEnv state now conns ln).weight b = .fin q) := by
  obtain ⟨w, hw⟩ := hweight
  obtain ⟨p, hp⟩ := conns.exists_connectionPressure b.id.bytes b.maxConnections
  obtain ⟨p', hclamp⟩ := clamp_unit (x := .fin p) (fun h => by cases h)
  have hweight : (balancerEnv state now conns ln).weight b =
      ((F64.fin w).mul (state.weightFactor now b.id.bytes)).mul (.fin (1 - p')) := by
    show (b.weight.mul _).mul (F64.one.sub ((conns.connectionPressure _ _).clamp .zero .one)) = _
    rw [hw, hp, hclamp, F64.one, F64.sub_fin]
    rfl
  rw [hweight]
  rcases state.weightFactor_cases now b.id.bytes with ⟨hnan, hfactor⟩ | ⟨hnot, q, hfactor⟩
  · rw [hfactor]
    exact .inl ⟨hnan, rfl⟩
  · rw [hfactor]
    exact .inr ⟨hnot, w * q * (1 - p'), rfl⟩

/-- The hash is mapped to a number between 0 and 1. -/
theorem exists_unit_hash (hash : UInt64) :
    ∃ q : ℚ, 0 < q ∧ q < 1 ∧
      ((F64.ofNat hash.toNat).add (.fin (1 / 2))).div ((F64.ofNat (2 ^ 64 - 1)).add .one) =
        .fin q := by
  have hdenominator : (((2 ^ 64 - 1 : Nat) : ℚ) + 1) = 2 ^ 64 := by norm_num
  have hlt : (hash.toNat : ℚ) + 1 / 2 < 2 ^ 64 := by
    have hle : (hash.toNat : ℚ) ≤ ((2 ^ 64 - 1 : Nat) : ℚ) :=
      Nat.cast_le.mpr (Nat.le_sub_one_of_lt hash.toNat_lt)
    linarith
  have hnonneg : (0 : ℚ) ≤ hash.toNat := Nat.cast_nonneg _
  refine ⟨((hash.toNat : ℚ) + 1 / 2) / 2 ^ 64, by positivity, ?_, ?_⟩
  · rw [div_lt_one (by positivity)]
    exact hlt
  · rw [← hdenominator]
    refine F64.div_fin _ ?_
    rw [hdenominator]
    positivity

/-- A weight that is a number has a score that is one. -/
theorem rendezvousScore_ne_nan (hln : NegativeLn ln) (id : Bytes) (q : ℚ) :
    rendezvousScore ln clientIp id (.fin q) ≠ .nan := by
  unfold rendezvousScore
  split
  · exact fun h => by cases h
  · obtain ⟨h, hpos, hlt, hhash⟩ := exists_unit_hash (hashPair clientIp id)
    obtain ⟨r, hr, hlog⟩ := hln h hpos hlt
    dsimp only
    rw [hhash, hlog]
    show (F64.fin (-q)).div (.fin r) ≠ .nan
    rw [F64.div_fin _ (ne_of_lt hr)]
    exact fun h => by cases h

theorem rendezvousScore_nan (id : Bytes) : rendezvousScore ln clientIp id .nan = .nan := rfl

/-- The score of a backend. -/
def scoreOf (env : BalancerEnv) (clientIp : IpAddr) (b : BackendConfig) : F64 :=
  rendezvousScore env.ln clientIp b.id.bytes (env.weight b)

theorem score_eq_nan_iff (hln : NegativeLn ln) (hweight : ∃ q, b.weight = .fin q) :
    scoreOf (balancerEnv state now conns ln) clientIp b = .nan ↔
      state.ReportsNan now b.id.bytes := by
  unfold scoreOf
  rcases @weight_cases state now conns ln b hweight with ⟨hnan, hw⟩ | ⟨hnot, q, hw⟩
  · rw [hw]
    exact iff_of_true (rendezvousScore_nan _) hnan
  · rw [hw]
    exact iff_of_false (rendezvousScore_ne_nan hln _ q) hnot

end

/-! ## Selections -/

/-- Of the backends that are eligible one is returned, whose score is a number that no other one
    exceeds. -/
def SelectsByScore (pool : BackendPool) (clientIp : IpAddr) (env : BalancerEnv)
    (excluded : List BackendId) : Prop :=
  (∃ b ∈ pool.backends, eligible env excluded b = true) →
    ∃ b, pool.selectWithPressureExcluding clientIp env excluded = some b ∧
      scoreOf env clientIp b ≠ .nan ∧
        ∀ c ∈ pool.backends, eligible env excluded c = true →
          (scoreOf env clientIp b).lt (scoreOf env clientIp c) = false

section

variable {pool : BackendPool} {clientIp : IpAddr} {env : BalancerEnv} {excluded : List BackendId}

theorem select_eq_foldl_keepBest :
    pool.selectWithPressureExcluding clientIp env excluded =
      ((pool.backends.filter (eligible env excluded)).foldl
        (F64.keepBest (scoreOf env clientIp)) none).map Prod.fst := by
  have hstep : BackendPool.selectStep env clientIp excluded = fun best b =>
      if eligible env excluded b = true then F64.keepBest (scoreOf env clientIp) best b
      else best := by
    funext best b
    cases hskip : ((env.weight b).le .zero || excluded.contains b.id) with
    | true =>
      simp only [BackendPool.selectStep, eligible, hskip, Bool.not_true, Bool.false_eq_true,
        if_true, if_false]
    | false =>
      simp only [BackendPool.selectStep, eligible, hskip, Bool.not_false, Bool.false_eq_true,
        if_true, if_false]
      cases best with
      | none => rfl
      | some best => rfl
  rw [BackendPool.selectWithPressureExcluding, hstep, List.foldl_filter]

/-- The first eligible backend, if its score is not a number, is selected. -/
theorem select_of_nan {a : BackendConfig}
    (hfirst : pool.backends.find? (eligible env excluded) = some a)
    (hnan : scoreOf env clientIp a = .nan) :
    pool.selectWithPressureExcluding clientIp env excluded = some a := by
  rw [← List.head?_filter] at hfirst
  obtain ⟨rest, hfilter⟩ := List.head?_eq_some_iff.mp hfirst
  rw [select_eq_foldl_keepBest, hfilter, List.foldl_cons, F64.keepBest, hnan,
    F64.foldl_keepBest_nan]
  rfl

/-- From a number on, the selection goes by the scores. -/
theorem select_of_number {a : BackendConfig}
    (hfirst : pool.backends.find? (eligible env excluded) = some a)
    (hnumber : scoreOf env clientIp a ≠ .nan) : SelectsByScore pool clientIp env excluded := by
  rw [← List.head?_filter] at hfirst
  obtain ⟨rest, hfilter⟩ := List.head?_eq_some_iff.mp hfirst
  obtain ⟨b, hfold, hb, hbest⟩ := F64.foldl_keepBest_number rest hnumber
  intro _
  refine ⟨b, ?_, hb, ?_⟩
  · rw [select_eq_foldl_keepBest, hfilter, List.foldl_cons, F64.keepBest, hfold]
    rfl
  · intro c hc heligible
    apply hbest c
    rw [← hfilter]
    exact List.mem_filter.mpr ⟨hc, heligible⟩

end

/-- With any report, decoded from any message, a selection returns a backend whose score is a number
    that no other eligible backend's score exceeds, if and only if the first eligible backend of the
    pool has no fresh report of a load that is not a number. -/
theorem selects_by_score_iff {pool : BackendPool}
    (hweights : ∀ b ∈ pool.backends, ∃ q : ℚ, 0 < q ∧ b.weight = .fin q) {ln : F64 → F64}
    (hln : NegativeLn ln) (decode : Bytes → Option HealthBroadcast) (health : HealthState)
    (message : Bytes) (received now : Instant) (conns : ConnPool) (clientIp : IpAddr)
    (excluded : List BackendId) :
    let state := health.handleMessage decode message received
    let env := balancerEnv state now conns ln
    SelectsByScore pool clientIp env excluded ↔
      ∀ b, pool.backends.find? (eligible env excluded) = some b →
        ¬ state.ReportsNan now b.id.bytes := by
  intro state env
  have hnan : ∀ b ∈ pool.backends,
      (scoreOf env clientIp b = .nan ↔ state.ReportsNan now b.id.bytes) := by
    intro b hb
    obtain ⟨q, -, hweight⟩ := hweights b hb
    exact score_eq_nan_iff hln ⟨q, hweight⟩
  constructor
  · intro h b hfirst hreports
    have hb := List.mem_of_find?_eq_some hfirst
    have hselected := select_of_nan hfirst ((hnan b hb).mpr hreports)
    obtain ⟨b', hselected', hnumber, -⟩ := h ⟨b, hb, List.find?_some hfirst⟩
    cases hselected.symm.trans hselected'
    exact hnumber ((hnan b hb).mpr hreports)
  · intro h
    cases hfirst : pool.backends.find? (eligible env excluded) with
    | none =>
      rintro ⟨b, hb, heligible⟩
      exact absurd heligible (List.find?_eq_none.mp hfirst b hb)
    | some a =>
      have ha := List.mem_of_find?_eq_some hfirst
      exact select_of_number hfirst fun hscore => h a hfirst ((hnan a ha).mp hscore)

namespace Sample

/-- Whatever the message is, it reports the load of `b1`. -/
def reportLoad (load : F64) (_ : Bytes) : Option HealthBroadcast :=
  some [{ nanReport with load }]

def noReports : HealthState := .withConfig 4 (Duration.fromSecs 30) 100

/-- What a selection reads after such a message. -/
def reportedEnv (load : F64) : BalancerEnv :=
  balancerEnv (noReports.handleMessage (reportLoad load) [] 0) 0 .new fun _ => .fin (-1)

end Sample

open Sample in
/-- An infinite load counts as full. -/
theorem infinite_load_selects_by_score :
    SelectsByScore twoBackends (.v4 #v[192, 0, 2, 1]) (reportedEnv .posInf) [] := by
  have hweights : ∀ b ∈ twoBackends.backends, ∃ q : ℚ, 0 < q ∧ b.weight = .fin q := by
    intro b hb
    rcases List.mem_pair.mp hb with rfl | rfl
    · exact ⟨2, by decide, rfl⟩
    · exact ⟨1, by decide, rfl⟩
  have hln : NegativeLn fun _ => .fin (-1) := fun q _ _ => ⟨-1, by decide, rfl⟩
  refine (selects_by_score_iff hweights hln (reportLoad .posInf) noReports [] 0 0 .new _ []).mpr ?_
  have hfirst : twoBackends.backends.find? (eligible (reportedEnv .posInf) []) = some b2 := by
    decide +kernel
  have hpeek : (noReports.handleMessage (reportLoad .posInf) [] 0).peek b2.id.bytes = none := by
    decide +kernel
  intro b hb
  cases hfirst.symm.trans hb
  rintro ⟨health, receivedAt, hpeek', -⟩
  cases hpeek.symm.trans hpeek'

/-- A load that is not a number brings every client to its backend, whose score is no number either,
    while that of another eligible backend is one. -/
theorem nan_load_captures_all_clients :
    eligible (Sample.reportedEnv .nan) [] Sample.b2 = true ∧ ∀ clientIp,
      Sample.twoBackends.selectWithPressureExcluding clientIp (Sample.reportedEnv .nan) [] =
          some Sample.b1 ∧
        scoreOf (Sample.reportedEnv .nan) clientIp Sample.b1 = .nan ∧
        scoreOf (Sample.reportedEnv .nan) clientIp Sample.b2 = .one := by
  have hfirst : Sample.twoBackends.backends.find? (eligible (Sample.reportedEnv .nan) []) =
      some Sample.b1 := by decide +kernel
  have hweight : (Sample.reportedEnv .nan).weight Sample.b1 = .nan := by decide +kernel
  have hweight' : (Sample.reportedEnv .nan).weight Sample.b2 = .one := by decide +kernel
  refine ⟨by decide +kernel, fun clientIp => ?_⟩
  have hscore : scoreOf (Sample.reportedEnv .nan) clientIp Sample.b1 = .nan := by
    rw [scoreOf, hweight]
    rfl
  refine ⟨select_of_nan hfirst hscore, hscore, ?_⟩
  rw [scoreOf, hweight']
  show F64.one.neg.div (.fin (-1)) = .one
  decide +kernel

end Reduction
