import Reduction.Native.ConfigReload
import Reduction.Spec.ConfigValidate

/-!
# What a reload changes

The pools that a configuration is made into, the state that a reload publishes,
and the circuit breakers that it forgets.

Breakers are kept under backend ids, and a reload forgets those under the names
of the pools that are gone.  The two agree when every pool that comes or goes is
the pool of one backend named after it, and disagree when a backend leaves a
pool that stays.

- `poolsOf_buildBackendPools`: the pools of a configuration
- `lookup_applyConfigReload`: the breakers after a reload
- `reload_forgets_removed_backends_iff`: the reloads that forget exactly the
  backends that are gone
-/

namespace Reduction

open Run

/-! ## Pools -/

theorem BackendPool.withMax_ok {backends : List BackendConfig} {max : UInt32} {pool : BackendPool}
    (h : BackendPool.withMax backends max = .ok pool) :
    pool.backends = backends ∧ backends.length ≤ max.toNat := by
  unfold BackendPool.withMax at h
  split at h
  · cases h
  · rename_i hmax
    split at h
    · cases h
    · cases h
      exact ⟨rfl, by omega⟩

namespace ReductionConfig

variable {config : ReductionConfig}

/-- Some route leads to the pool of the given name. -/
def routesPool (config : ReductionConfig) (name : BackendId) : Prop :=
  ∃ r ∈ config.routes, r.backendId = name

/-- A backend with the given id is in a pool that some route leads to. -/
def routesBackend (config : ReductionConfig) (id : BackendId) : Prop :=
  ∃ b ∈ config.backends, b.id = id ∧ ∃ r ∈ config.routes, r.backendId.bytes = b.pool.bytes

/-- The pools are those that the given routes lead to, if a backend is in them. -/
def PoolsOf (config : ReductionConfig) (routes : List RouteConfig)
    (pools : DashMap BackendId BackendPool) : Prop :=
  ∀ name backends, (pools.get name).map BackendPool.backends = some backends ↔
    (∃ r ∈ routes, r.backendId = name) ∧ backends = config.poolBackends name ∧ backends ≠ []

variable {pools : DashMap BackendId BackendPool}

/-- One more route adds its pool, unless that is there or has no backend. -/
theorem PoolsOf.addPool {routes : List RouteConfig} {pools' : DashMap BackendId BackendPool}
    {route : RouteConfig} (h : PoolsOf config routes pools)
    (hadd : config.addPool pools route = .ok pools') :
    PoolsOf config (routes ++ [route]) pools' := by
  intro name backends
  have hroutes : (∃ r ∈ routes ++ [route], r.backendId = name) ↔
      (∃ r ∈ routes, r.backendId = name) ∨ route.backendId = name := by
    simp [or_and_right, exists_or]
  rw [hroutes]
  unfold ReductionConfig.addPool at hadd
  split at hadd
  · rename_i hskip
    cases hadd
    rw [h name backends]
    constructor
    · rintro ⟨hold, hrest⟩
      exact ⟨.inl hold, hrest⟩
    · rintro ⟨hold | rfl, rfl, hne⟩
      · exact ⟨hold, rfl, hne⟩
      · -- the pool of this route has backends, so it is there already
        have hempty : (config.poolBackends route.backendId).isEmpty = false := by
          simpa using hne
        rw [hempty, Bool.or_false] at hskip
        obtain ⟨pool, hpool⟩ := Option.isSome_iff_exists.mp hskip
        exact ⟨((h route.backendId pool.backends).mp (by rw [hpool]; rfl)).1, rfl, hne⟩
  · rename_i hnew
    obtain ⟨pool, hpool, hadd⟩ := bind_eq_ok.mp hadd
    cases hadd
    have hbackends := (BackendPool.withMax_ok hpool).1
    have hne : config.poolBackends route.backendId ≠ [] := by
      intro hempty
      simp [hempty] at hnew
    rw [DashMap.get_insert]
    by_cases hname : name = route.backendId
    · subst hname
      rw [if_pos rfl, Option.map_some, hbackends]
      constructor
      · intro heq
        cases heq
        exact ⟨.inr rfl, rfl, hne⟩
      · rintro ⟨-, rfl, -⟩
        rfl
    · rw [if_neg hname, h name backends]
      constructor
      · rintro ⟨hold, hrest⟩
        exact ⟨.inl hold, hrest⟩
      · rintro ⟨hold | hroute, hrest⟩
        · exact ⟨hold, hrest⟩
        · exact absurd hroute.symm hname

/-- The pools of a configuration: one for each name that a route leads to and a backend bears. -/
theorem poolsOf_buildBackendPools (h : config.buildBackendPools = .ok pools) :
    PoolsOf config config.routes pools := by
  have hstep : ∀ routes route (pools pools' : DashMap BackendId BackendPool),
      PoolsOf config routes pools → config.addPool pools route = .ok pools' →
      PoolsOf config (routes ++ [route]) pools' :=
    fun _ _ _ _ hpools hadd => hpools.addPool hadd
  have hinit : PoolsOf config [] ∅ := by
    intro name backends
    simp [DashMap.get]
  exact foldlM_invariant hstep hinit h

theorem poolBackends_ne_nil (hv : config.Validated) {r : RouteConfig} (hr : r ∈ config.routes) :
    config.poolBackends r.backendId ≠ [] := by
  obtain ⟨b, hb, hpool⟩ := hv.route_pool r hr
  have hmem : b ∈ config.poolBackends r.backendId :=
    List.mem_filter.mpr ⟨hb, by simpa using hpool⟩
  exact List.ne_nil_of_mem hmem

/-- A validated configuration has a pool for each name that a route leads to, and no other. -/
theorem isSome_get_buildBackendPools (hv : config.Validated)
    (h : config.buildBackendPools = .ok pools) (name : BackendId) :
    (pools.get name).isSome ↔ config.routesPool name := by
  have hpools := poolsOf_buildBackendPools h
  constructor
  · intro hsome
    obtain ⟨pool, hpool⟩ := Option.isSome_iff_exists.mp hsome
    exact ((hpools name pool.backends).mp (by rw [hpool]; rfl)).1
  · rintro ⟨r, hr, rfl⟩
    have hget := (hpools r.backendId _).mpr ⟨⟨r, hr, rfl⟩, rfl, poolBackends_ne_nil hv hr⟩
    rw [← Option.isSome_map (f := BackendPool.backends), hget]
    rfl

theorem reloadableState_ok {state : ReloadableState} (h : config.reloadableState = .ok state) :
    config.buildBackendPools = .ok state.backendPools ∧ state.router = .new config.routes ∧
      state.acl = .new config.access.allow config.access.deny := by
  obtain ⟨pools, hpools, h⟩ := bind_eq_ok.mp h
  cases h
  exact ⟨hpools, rfl, rfl⟩

/-- The pools are all that can fail. -/
theorem toBool_buildBackendPools (config : ReductionConfig) :
    config.buildBackendPools.toBool = config.reloadableState.toBool := by
  unfold reloadableState
  cases config.buildBackendPools <;> rfl

end ReductionConfig

/-! ## One reload -/

theorem CircuitBreakers.lookup_removeBackend (cb : CircuitBreakers) (id key : BackendId) :
    (cb.removeBackend id.bytes).breakers.lookup key =
      if key = id then none else cb.breakers.lookup key := by
  rw [removeBackend, ArrayString.from?_bytes]
  by_cases h : key = id
  · subst h
    simp
  · rw [if_neg h]
    exact AList.lookup_erase_ne h

theorem CircuitBreakers.lookup_foldl_removeBackend (ids : List BackendId) (cb : CircuitBreakers)
    (key : BackendId) :
    (ids.foldl (fun cb id => cb.removeBackend id.bytes) cb).breakers.lookup key =
      if key ∈ ids then none else cb.breakers.lookup key := by
  induction ids generalizing cb with
  | nil => simp
  | cons id ids ih =>
    rw [List.foldl_cons, ih, lookup_removeBackend]
    by_cases hkey : key ∈ ids
    · simp [hkey]
    · by_cases hid : key = id <;> simp [hkey, hid]

/-- A breaker that is not there counts as closed. -/
theorem CircuitBreakers.state_bytes (cb : CircuitBreakers) (id : BackendId) :
    cb.state id.bytes = ((cb.breakers.lookup id).map fun a => a.breaker.state).getD .closed := by
  cases h : cb.breakers.lookup id <;> simp [state, get, h]

theorem mem_diffRemovedBackends {old new : ReloadableState} {id : BackendId} :
    id ∈ (diffRemovedBackends old new).2 ↔
      (old.backendPools.get id).isSome ∧ (new.backendPools.get id).isNone := by
  have hkeys : id ∈ old.backendPools.keys ↔ (old.backendPools.get id).isSome :=
    AList.lookup_isSome.symm
  simp [diffRemovedBackends, hkeys]

namespace ReloadTask

variable {t : ReloadTask} {config : ReductionConfig} {rev : Option (Option RevocationSet)}

@[simp] theorem rereadRevocation_reloadable (t : ReloadTask) (rev : Option (Option RevocationSet)) :
    (t.rereadRevocation rev).reloadable = t.reloadable := by
  unfold rereadRevocation
  split <;> rfl

@[simp] theorem rereadRevocation_breakers (t : ReloadTask) (rev : Option (Option RevocationSet)) :
    (t.rereadRevocation rev).breakers = t.breakers := by
  unfold rereadRevocation
  split <;> rfl

@[simp] theorem flush_reloadable (t : ReloadTask) (pending : PendingReload) :
    (t.flush pending).reloadable = t.reloadable := by
  unfold flush
  split <;> rfl

@[simp] theorem flush_breakers (t : ReloadTask) (pending : PendingReload) :
    (t.flush pending).breakers = t.breakers := by
  unfold flush
  split <;> rfl

/-- A configuration whose pools cannot be built changes neither routing nor breakers. -/
theorem applyConfigReload_of_error {e : ReductionError} (h : config.reloadableState = .error e) :
    (t.applyConfigReload config rev).reloadable = t.reloadable ∧
      (t.applyConfigReload config rev).breakers = t.breakers := by
  simp [applyConfigReload, publish, h]

variable {state : ReloadableState}

theorem reloadable_applyConfigReload (h : config.reloadableState = .ok state) :
    (t.applyConfigReload config rev).reloadable = t.reloadable.send state := by
  simp [applyConfigReload, publish, h, cleanUp]

/-- A reload forgets the breakers under the names of the pools that are gone. -/
theorem lookup_applyConfigReload (h : config.reloadableState = .ok state) (t : ReloadTask)
    (rev : Option (Option RevocationSet)) (id : BackendId) :
    (t.applyConfigReload config rev).breakers.breakers.lookup id =
      if (t.reloadable.value.backendPools.get id).isSome ∧ (state.backendPools.get id).isNone then
        none
      else t.breakers.breakers.lookup id := by
  simp only [applyConfigReload, publish, h, cleanUp, flush_breakers, rereadRevocation_breakers,
    rereadRevocation_reloadable, CircuitBreakers.lookup_foldl_removeBackend,
    mem_diffRemovedBackends]

/-- A reload brings no breaker back. -/
theorem lookup_applyConfigReload_none {id : BackendId}
    (h : t.breakers.breakers.lookup id = none) :
    (t.applyConfigReload config rev).breakers.breakers.lookup id = none := by
  cases hstate : config.reloadableState with
  | error e => rw [(applyConfigReload_of_error hstate).2, h]
  | ok state =>
    rw [lookup_applyConfigReload hstate, h]
    split <;> rfl

end ReloadTask

/-! ## Forgotten breakers -/

/-- A backend was in a routed pool of the old configuration, and is in none of the new one. -/
def Removed (old new : ReductionConfig) (id : BackendId) : Prop :=
  old.routesBackend id ∧ ¬ new.routesBackend id

/-- From `t` to `t'`, exactly the breakers of removed backends were forgotten, and such a backend is
    closed when a later reload brings it back. -/
structure ForgetsRemoved (old new : ReductionConfig) (t t' : ReloadTask) : Prop where
  removed : ∀ id, Removed old new id → t'.breakers.breakers.lookup id = none
  kept : ∀ id, ¬ Removed old new id →
    t'.breakers.breakers.lookup id = t.breakers.breakers.lookup id
  closed_again : ∀ id, Removed old new id → ∀ later rev,
    (t'.applyConfigReload later rev).breakers.state id.bytes = .closed

/-- The names of the pools that a reload takes away are the ids of the backends that it takes away,
    if it is applied at all. -/
def PoolsAreBackends (old new : ReductionConfig) : Prop :=
  match new.reloadableState with
  | .ok _ => ∀ id, old.routesPool id ∧ ¬ new.routesPool id ↔ Removed old new id
  | .error _ => ∀ id, ¬ Removed old new id

variable {old new : ReductionConfig}

/-- The pools that a reload between validated configurations takes away. -/
theorem poolGone_iff (hold : old.Validated) (hnew : new.Validated)
    {oldState newState : ReloadableState} (holdState : old.reloadableState = .ok oldState)
    (hnewState : new.reloadableState = .ok newState) (id : BackendId) :
    (oldState.backendPools.get id).isSome ∧ (newState.backendPools.get id).isNone ↔
      old.routesPool id ∧ ¬ new.routesPool id := by
  have hoptOld := ReductionConfig.isSome_get_buildBackendPools hold
    (ReductionConfig.reloadableState_ok holdState).1 id
  have hoptNew := ReductionConfig.isSome_get_buildBackendPools hnew
    (ReductionConfig.reloadableState_ok hnewState).1 id
  rw [hoptOld, ← hoptNew, Bool.not_eq_true, Option.isSome_eq_false_iff]

/-- What was forgotten stays closed, so the breakers right after the reload decide. -/
theorem forgetsRemoved_iff {t t' : ReloadTask} :
    ForgetsRemoved old new t t' ↔
      (∀ id, Removed old new id → t'.breakers.breakers.lookup id = none) ∧
      ∀ id, ¬ Removed old new id →
        t'.breakers.breakers.lookup id = t.breakers.breakers.lookup id := by
  constructor
  · intro h
    exact ⟨h.removed, h.kept⟩
  · rintro ⟨hremoved, hkept⟩
    refine ⟨hremoved, hkept, ?_⟩
    intro id hid later rev
    rw [CircuitBreakers.state_bytes,
      ReloadTask.lookup_applyConfigReload_none (hremoved id hid)]
    rfl

/-- A reload task that runs on `state`, with one breaker. -/
def taskWithBreaker (config : ReductionConfig) (state : ReloadableState) (id : BackendId)
    (breaker : BackendBreaker) : ReloadTask :=
  { reloadable := .channel state
    revocation := .channel .default
    cache := .new (Sample.state 0).cacheConfig
    breakers := (CircuitBreakers.new config.circuitBreaker).store id 0 breaker
    prevRoutes := config.routes
    prevBackends := config.backends }

theorem lookup_taskWithBreaker (config : ReductionConfig) (state : ReloadableState)
    (id : BackendId) (breaker : BackendBreaker) :
    (taskWithBreaker config state id breaker).breakers.breakers.lookup id = some ⟨0, breaker⟩ := by
  simp [taskWithBreaker, CircuitBreakers.store]

/-- A reload between validated configurations forgets exactly the breakers of the backends that it
    removes, from whatever state the breakers are in, if and only if the pools that it takes away are
    named after those backends. -/
theorem reload_forgets_removed_backends_iff {old new : ReductionConfig}
    (hold : old.validate = .ok ()) (hnew : new.validate = .ok ()) {state : ReloadableState}
    (hstate : old.reloadableState = .ok state) (rev : Option (Option RevocationSet)) :
    (∀ t : ReloadTask, t.reloadable.value = state →
      ForgetsRemoved old new t (t.applyConfigReload new rev)) ↔ PoolsAreBackends old new := by
  have hv := ReductionConfig.validate_ok hold
  have hv' := ReductionConfig.validate_ok hnew
  unfold PoolsAreBackends
  cases hstate' : new.reloadableState with
  | error e =>
    -- nothing is forgotten, so nothing may have been removed
    constructor
    · intro h id hid
      have hremoved := (h (taskWithBreaker old state id .new) rfl).removed id hid
      rw [(ReloadTask.applyConfigReload_of_error hstate').2, lookup_taskWithBreaker] at hremoved
      cases hremoved
    · intro h t ht
      rw [forgetsRemoved_iff, (ReloadTask.applyConfigReload_of_error hstate').2]
      exact ⟨fun id hid => absurd hid (h id), fun _ _ => rfl⟩
  | ok state' =>
    have hgone := poolGone_iff hv hv' hstate hstate'
    constructor
    · intro h id
      have hforgets := h (taskWithBreaker old state id .new) rfl
      have hlookup := ReloadTask.lookup_applyConfigReload hstate'
        (taskWithBreaker old state id .new) rev id
      have hvalue : (taskWithBreaker old state id .new).reloadable.value = state := rfl
      rw [lookup_taskWithBreaker, hvalue] at hlookup
      rw [← hgone id]
      constructor
      · intro hpool
        by_contra hid
        rw [if_pos hpool, hforgets.kept id hid, lookup_taskWithBreaker] at hlookup
        cases hlookup
      · intro hid
        by_contra hpool
        rw [hforgets.removed id hid] at hlookup
        split at hlookup
        · rename_i hpool'
          exact hpool hpool'
        · cases hlookup
    · intro h t ht
      rw [forgetsRemoved_iff]
      constructor
      · intro id hid
        rw [ReloadTask.lookup_applyConfigReload hstate', ht, if_pos ((hgone id).mpr ((h id).mpr hid))]
      · intro id hid
        rw [ReloadTask.lookup_applyConfigReload hstate', ht,
          if_neg fun hpool => hid ((h id).mp ((hgone id).mp hpool))]

namespace Sample

/-- A backend in a pool of its own name, as the default is. -/
def alone : BackendConfig := { b1 with pool := ⟨b1.id.bytes, by decide⟩ }

def aloneConfig : ReductionConfig := config [alone] [routeTo b1.id] (by decide)

def emptyConfig : ReductionConfig := config [] [] (by decide)

/-- Both backends in one pool, and the second one gone from it. -/
def bothConfig : ReductionConfig := config [b1, b2] [routeTo web] (by decide)

def firstConfig : ReductionConfig := config [b1] [routeTo web] (by decide)

/-- The breaker of a backend that failed and is not tried. -/
def openBreaker : BackendBreaker :=
  { state := .open, consecutiveFailures := 3, halfOpenInflight := 0, openedAt := some 0 }

end Sample

/-- The reload that removes a backend with its pool forgets that backend's breaker. -/
theorem reload_forgets_alone_backend :
    ∃ state, Sample.aloneConfig.reloadableState = .ok state ∧
      ∀ t : ReloadTask, t.reloadable.value = state →
        ForgetsRemoved Sample.aloneConfig Sample.emptyConfig t
          (t.applyConfigReload Sample.emptyConfig none) := by
  obtain ⟨state, hstate⟩ := exists_ok (show Sample.aloneConfig.reloadableState.toBool by decide)
  obtain ⟨state', hempty⟩ := exists_ok (show Sample.emptyConfig.reloadableState.toBool by decide)
  refine ⟨state, hstate, ?_⟩
  refine (reload_forgets_removed_backends_iff (by decide) (by decide) hstate none).mpr ?_
  rw [PoolsAreBackends, hempty]
  intro id
  simp [Removed, ReductionConfig.routesPool, ReductionConfig.routesBackend, Sample.aloneConfig,
    Sample.emptyConfig, Sample.config, Sample.routeTo, Sample.alone]

/-- A backend leaves a pool that stays, and its open breaker stays as well. -/
theorem reload_keeps_removed_breaker :
    Sample.bothConfig.validate = .ok () ∧ Sample.firstConfig.validate = .ok () ∧
      ∃ t : ReloadTask, Sample.bothConfig.reloadableState = .ok t.reloadable.value ∧
        Removed Sample.bothConfig Sample.firstConfig Sample.b2.id ∧
        (t.applyConfigReload Sample.firstConfig none).breakers.state Sample.b2.id.bytes = .open ∧
        ¬ ForgetsRemoved Sample.bothConfig Sample.firstConfig t
          (t.applyConfigReload Sample.firstConfig none) := by
  obtain ⟨state, hstate⟩ := exists_ok (show Sample.bothConfig.reloadableState.toBool by decide)
  obtain ⟨state', hfirst⟩ := exists_ok (show Sample.firstConfig.reloadableState.toBool by decide)
  have hv := ReductionConfig.validate_ok (c := Sample.bothConfig) (by decide)
  have hv' := ReductionConfig.validate_ok (c := Sample.firstConfig) (by decide)
  have hremoved : Removed Sample.bothConfig Sample.firstConfig Sample.b2.id := by
    refine ⟨⟨Sample.b2, by decide, rfl, Sample.routeTo Sample.web, by decide, by decide⟩, ?_⟩
    rintro ⟨b, hb, hid, -⟩
    obtain rfl := List.mem_singleton.mp hb
    exact absurd hid (by decide)
  -- no route leads to a pool with the name of the backend
  have hpool : ¬ ((state.backendPools.get Sample.b2.id).isSome ∧
      (state'.backendPools.get Sample.b2.id).isNone) := by
    rw [poolGone_iff hv hv' hstate hfirst]
    rintro ⟨⟨r, hr, hid⟩, -⟩
    obtain rfl := List.mem_singleton.mp hr
    exact absurd hid (by decide)
  generalize ht : taskWithBreaker Sample.bothConfig state Sample.b2.id Sample.openBreaker = t
  have hvalue : t.reloadable.value = state := by rw [← ht]; rfl
  have hlookup := ReloadTask.lookup_applyConfigReload hfirst t none Sample.b2.id
  rw [hvalue, if_neg hpool, ← ht, lookup_taskWithBreaker, ht] at hlookup
  refine ⟨by decide, by decide, t, by rw [hvalue, hstate], hremoved, ?_, ?_⟩
  · rw [CircuitBreakers.state_bytes, hlookup]
    rfl
  · intro h
    rw [h.removed _ hremoved] at hlookup
    cases hlookup

end Reduction
