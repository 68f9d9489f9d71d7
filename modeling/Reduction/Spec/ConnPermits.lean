import Reduction.Spec.ReloadCorrect

/-!
# Connection permits and reloads

A backend's semaphore has as many permits as the backend's `max_connections` at
its first use.  `ConnPool.Counts` is the account of the permits that are there
and that are held, and every operation on a `ConnPool` keeps it.

A reload changes `max_connections`, but it leaves the semaphores alone, so that
the pressure and the admission of a backend are right for its present limit only
if this is the limit of its first use, or no permit or every permit is taken.
-/

namespace Reduction

open Run

namespace ConnPool

variable {pool : ConnPool} {b : BackendConfig} {limit held : BackendId → Nat}

/-- The permits of every backend: those that are left and those that are held make up the limit of
    its semaphore, and without a semaphore none is held. -/
structure Counts (pool : ConnPool) (limit held : BackendId → Nat) : Prop where
  unused : ∀ id, pool.connLimits.get id = none → held id = 0
  used : ∀ id available, pool.connLimits.get id = some available → available + held id = limit id

theorem counts_new (limit : BackendId → Nat) : new.Counts limit fun _ => 0 where
  unused _ _ := rfl
  used id available h := by cases h

/-- The limit of a semaphore that is not there does not matter. -/
theorem Counts.of_limit_eq (h : pool.Counts limit held) {limit' : BackendId → Nat}
    (heq : ∀ id, pool.connLimits.get id ≠ none → limit' id = limit id) :
    pool.Counts limit' held where
  unused := h.unused
  used id available hget := by
    rw [heq id (by rw [hget]; exact Option.some_ne_none _)]
    exact h.used id available hget

theorem get_tryAcquireConnPermit (pool : ConnPool) (b : BackendConfig) (id : BackendId) :
    (pool.tryAcquireConnPermit b).1.connLimits.get id =
      if id = b.id then some (pool.semaphore b - 1) else pool.connLimits.get id := by
  unfold tryAcquireConnPermit
  cases pool.semaphore b with
  | zero => exact DashMap.get_insert ..
  | succ available => exact DashMap.get_insert ..

theorem toBool_tryAcquireConnPermit :
    (pool.tryAcquireConnPermit b).2.toBool = decide (0 < pool.semaphore b) := by
  unfold tryAcquireConnPermit
  cases pool.semaphore b with
  | zero => rfl
  | succ available => simp [Except.toBool]

theorem tryAcquireConnPermit_ok_iff :
    (pool.tryAcquireConnPermit b).2 = .ok () ↔ 0 < pool.semaphore b := by
  unfold tryAcquireConnPermit
  cases pool.semaphore b with
  | zero => simp
  | succ available => simp

/-- A semaphore is created with the limit of the backend that uses it first. -/
theorem Counts.semaphore_add (h : pool.Counts limit held)
    (hfirst : pool.connLimits.get b.id = none → limit b.id = b.maxConnections.toNat) :
    pool.semaphore b + held b.id = limit b.id := by
  unfold semaphore
  cases hget : pool.connLimits.get b.id with
  | none => rw [h.unused b.id hget, hfirst hget, Option.getD_none, Nat.add_zero]
  | some available => exact h.used b.id available hget

/-- A permit is given out exactly if some are left, and is held from then on. -/
theorem Counts.tryAcquire (h : pool.Counts limit held)
    (hfirst : pool.connLimits.get b.id = none → limit b.id = b.maxConnections.toNat) :
    (pool.tryAcquireConnPermit b).1.Counts limit
      (if (pool.tryAcquireConnPermit b).2.toBool then
        Function.update held b.id (held b.id + 1) else held) := by
  have hsum := h.semaphore_add hfirst
  rw [toBool_tryAcquireConnPermit]
  simp only [decide_eq_true_eq]
  constructor
  · intro id hget
    rw [get_tryAcquireConnPermit] at hget
    split at hget
    · cases hget
    · rename_i hid
      split
      · rw [Function.update_of_ne hid, h.unused id hget]
      · exact h.unused id hget
  · intro id available hget
    rw [get_tryAcquireConnPermit] at hget
    by_cases hid : id = b.id
    · rw [if_pos hid] at hget
      cases hget
      subst hid
      split
      · rw [Function.update_self]
        omega
      · omega
    · rw [if_neg hid] at hget
      split
      · rw [Function.update_of_ne hid]
        exact h.used id available hget
      · exact h.used id available hget

/-- A permit that is dropped goes back to its semaphore. -/
theorem Counts.release (h : pool.Counts limit held) {id : BackendId} (hheld : 0 < held id) :
    (pool.release id).Counts limit (Function.update held id (held id - 1)) := by
  have hget' : ∀ id', (pool.release id).connLimits.get id' =
      if id' = id then (pool.connLimits.get id).map (· + 1) else pool.connLimits.get id' :=
    fun id' => DashMap.get_modify ..
  constructor
  · intro id' hget
    rw [hget'] at hget
    by_cases hid : id' = id
    · rw [if_pos hid, Option.map_eq_none_iff] at hget
      have := h.unused id hget
      omega
    · rw [if_neg hid] at hget
      rw [Function.update_of_ne hid]
      exact h.unused id' hget
  · intro id' available hget
    rw [hget'] at hget
    by_cases hid : id' = id
    · rw [if_pos hid] at hget
      obtain ⟨available', hsome, rfl⟩ := Option.map_eq_some_iff.mp hget
      have := h.used id available' hsome
      rw [hid, Function.update_self]
      omega
    · rw [if_neg hid] at hget
      rw [Function.update_of_ne hid]
      exact h.used id' available hget

/-- The pressure of a backend with a positive limit. -/
theorem connectionPressure_eq (pool : ConnPool) (hmax : b.maxConnections.toNat ≠ 0) :
    pool.connectionPressure b.id.bytes b.maxConnections =
      .fin ((b.maxConnections.toNat - pool.semaphore b : Nat) / b.maxConnections.toNat) := by
  unfold connectionPressure semaphore
  simp only [hmax, if_false, ArrayString.from?_bytes, Option.bind_some]
  exact F64.div_fin _ (Nat.cast_ne_zero.mpr hmax)

end ConnPool

/-! ## Runs -/

/-- The connection limits of a proxy, with the permits that are held and, for every backend that has
    been used, the limit with which its semaphore was created. -/
structure PermitState where
  config : ReductionConfig
  /-- The backends of all configurations so far; a request may still hold an earlier one. -/
  known : List BackendConfig
  pool : ConnPool
  outstanding : BackendId → Nat
  limit : BackendId → Nat

inductive PermitAction where
  | acquire (backend : BackendConfig)
  | release (id : BackendId)
  | reload (config : ReductionConfig)

namespace PermitState

def start (config : ReductionConfig) : PermitState :=
  { config
    known := config.backends
    pool := .new
    outstanding := fun _ => 0
    limit := fun _ => 0 }

/-- The first use of a backend fixes the limit of its semaphore. -/
def firstUse (s : PermitState) (b : BackendConfig) : BackendId → Nat :=
  if (s.pool.connLimits.get b.id).isNone then
    Function.update s.limit b.id b.maxConnections.toNat
  else s.limit

/-- An action that is not possible in a state changes nothing: a permit of an unknown backend, one
    that nobody holds, a configuration that is not accepted. -/
def step (s : PermitState) : PermitAction → PermitState
  | .acquire b =>
    if b ∈ s.known then
      { s with
        pool := (s.pool.tryAcquireConnPermit b).1
        outstanding :=
          if (s.pool.tryAcquireConnPermit b).2.toBool then
            Function.update s.outstanding b.id (s.outstanding b.id + 1)
          else s.outstanding
        limit := s.firstUse b }
    else s
  | .release id =>
    if 0 < s.outstanding id then
      { s with
        pool := s.pool.release id
        outstanding := Function.update s.outstanding id (s.outstanding id - 1) }
    else s
  | .reload config =>
    if config.validate.toBool && config.reloadableState.toBool then
      { s with config, known := config.backends ++ s.known }
    else s

/-- The permits are accounted for. -/
def Accounted (s : PermitState) : Prop := s.pool.Counts s.limit s.outstanding

theorem accounted_step {s : PermitState} (h : s.Accounted) (a : PermitAction) :
    (s.step a).Accounted := by
  unfold Accounted at h ⊢
  cases a with
  | acquire b =>
    by_cases hknown : b ∈ s.known
    · have hlimit : s.pool.Counts (s.firstUse b) s.outstanding := by
        refine h.of_limit_eq ?_
        intro id hid
        unfold firstUse
        split
        · rename_i hnone
          rw [Function.update_of_ne]
          rintro rfl
          exact hid (Option.isNone_iff_eq_none.mp hnone)
        · rfl
      have hfirst : s.pool.connLimits.get b.id = none →
          s.firstUse b b.id = b.maxConnections.toNat := by
        intro hnone
        simp [firstUse, hnone]
      simp only [step, if_pos hknown]
      exact hlimit.tryAcquire hfirst
    · simp only [step, if_neg hknown]
      exact h
  | release id =>
    by_cases hheld : 0 < s.outstanding id
    · simp only [step, if_pos hheld]
      exact h.release hheld
    · simp only [step, if_neg hheld]
      exact h
  | reload config =>
    simp only [step]
    split <;> exact h

theorem accounted_run (config : ReductionConfig) (as : List PermitAction) :
    (run step (start config) as).Accounted :=
  @run_invariant_of_step _ _ _ Accounted (fun _ a h => accounted_step h a)
    (start config) (ConnPool.counts_new _) as

/-! ## The present limit -/

/-- Pressure and admission of every backend follow its present limit. -/
structure FollowsLimit (s : PermitState) (b : BackendConfig) : Prop where
  pressure : s.pool.connectionPressure b.id.bytes b.maxConnections =
    .fin (min ((s.outstanding b.id : ℚ) / b.maxConnections.toNat) 1)
  admission : (s.pool.tryAcquireConnPermit b).2 = .ok () ↔
    s.outstanding b.id < b.maxConnections.toNat

/-- The semaphore was not created yet, or with the present limit, or with a higher one and no permit
    or every permit of it is held. -/
def LimitFits (s : PermitState) (b : BackendConfig) : Prop :=
  s.pool.connLimits.get b.id = none ∨ s.limit b.id = b.maxConnections.toNat ∨
    (b.maxConnections.toNat < s.limit b.id ∧
      (s.outstanding b.id = 0 ∨ s.outstanding b.id = s.limit b.id))

theorem min_div_one {out max : Nat} (hmax : max ≠ 0) :
    min ((out : ℚ) / max) 1 = (min out max : Nat) / max := by
  have hpos : (0 : ℚ) < max := by exact_mod_cast Nat.pos_of_ne_zero hmax
  rw [Nat.cast_min, ← div_self hpos.ne', min_div_div_right hpos.le]

theorem maxConnections_ne_zero {config : ReductionConfig} (hb : b ∈ config.backends) :
    b.maxConnections.toNat ≠ 0 := by
  have hvalid := config.backends_fieldsValid b hb
  simp only [BackendConfig.fieldsValid, Bool.and_eq_true, decide_eq_true_eq] at hvalid
  exact fun hzero => hvalid.2 (UInt32.toNat_inj.mp hzero)

/-- What both halves come to, in the permits left by the semaphore. -/
theorem followsLimit_iff {s : PermitState} {b : BackendConfig}
    (hmax : b.maxConnections.toNat ≠ 0) :
    s.FollowsLimit b ↔
      b.maxConnections.toNat - s.pool.semaphore b = min (s.outstanding b.id) b.maxConnections.toNat ∧
        (0 < s.pool.semaphore b ↔ s.outstanding b.id < b.maxConnections.toNat) := by
  have hpos : (b.maxConnections.toNat : ℚ) ≠ 0 := Nat.cast_ne_zero.mpr hmax
  have hpressure : s.pool.connectionPressure b.id.bytes b.maxConnections =
      .fin (min ((s.outstanding b.id : ℚ) / b.maxConnections.toNat) 1) ↔
      b.maxConnections.toNat - s.pool.semaphore b =
        min (s.outstanding b.id) b.maxConnections.toNat := by
    rw [ConnPool.connectionPressure_eq s.pool hmax, min_div_one hmax, F64.fin.injEq,
      div_left_inj' hpos, Nat.cast_inj]
  rw [← hpressure, ← ConnPool.tryAcquireConnPermit_ok_iff]
  exact ⟨fun h => ⟨h.pressure, h.admission⟩, fun h => ⟨h.1, h.2⟩⟩

end PermitState

open PermitState in
/-- At every point of a run, pressure and admission follow the present limits if and only if the
    semaphores fit them. -/
theorem permits_follow_limits_iff (config : ReductionConfig) (as : List PermitAction) :
    (∀ b ∈ (run step (start config) as).config.backends,
      (run step (start config) as).FollowsLimit b) ↔
    ∀ b ∈ (run step (start config) as).config.backends,
      (run step (start config) as).LimitFits b := by
  have hcounts := accounted_run config as
  generalize run step (start config) as = s at hcounts ⊢
  refine forall₂_congr ?_
  intro b hb
  have hmax := maxConnections_ne_zero hb
  rw [followsLimit_iff hmax, LimitFits]
  cases hget : s.pool.connLimits.get b.id with
  | none =>
    have hnone := hcounts.unused b.id hget
    have hsem : s.pool.semaphore b = b.maxConnections.toNat := by
      rw [ConnPool.semaphore, hget, Option.getD_none]
    rw [hsem, hnone]
    simp only [true_or, iff_true, and_true]
    omega
  | some available =>
    have hsum := hcounts.used b.id available hget
    have hsem : s.pool.semaphore b = available := by
      rw [ConnPool.semaphore, hget, Option.getD_some]
    rw [hsem]
    simp only [reduceCtorEq, false_or]
    omega

/-- A configuration of one backend with the given limit. -/
def Sample.limited (limit : UInt32) (h : limit ≠ 0) : ReductionConfig :=
  config [{ b1 with maxConnections := limit }] [routeTo web] (by
    intro b hb
    obtain rfl := List.mem_singleton.mp hb
    simp [BackendConfig.fieldsValid, b1, h])

open PermitState in
/-- One of two permits is held when the limit goes down to one: the backend is taken for idle, and a
    second connection is admitted. -/
theorem lowered_limit_is_ignored :
    ∃ b : BackendConfig, (Sample.limited 1 (by decide)).backends = [b] ∧ b.maxConnections = 1 ∧
      let s := run step (start (Sample.limited 2 (by decide)))
        [.acquire { b with maxConnections := 2 }, .reload (Sample.limited 1 (by decide))]
      s.config = Sample.limited 1 (by decide) ∧ s.outstanding b.id = 1 ∧
        s.pool.connectionPressure b.id.bytes 1 = .zero ∧
        (s.pool.tryAcquireConnPermit b).2 = .ok () ∧ ¬ s.FollowsLimit b := by
  refine ⟨{ Sample.b1 with maxConnections := 1 }, rfl, rfl, ?_⟩
  intro s
  have hadmitted : (s.pool.tryAcquireConnPermit { Sample.b1 with maxConnections := 1 }).2 = .ok () :=
    rfl
  refine ⟨rfl, rfl, by decide +kernel, hadmitted, ?_⟩
  intro h
  exact absurd (h.admission.mp hadmitted) (by decide)

end Reduction
