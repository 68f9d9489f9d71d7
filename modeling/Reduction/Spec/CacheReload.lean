import Reduction.Spec.CachePolicy
import Reduction.Spec.ReloadCorrect
import Reduction.Spec.RequestRuns

/-!
# The response cache and reloads

A reload that changes the routing publishes the new routing state and then clears
the cache.  A request that was routed before it may still be waiting for its
backend, and stores the response when it comes, under a key that says nothing of
the routing.  Later lookups find that response.

`Tracked` notes for every key by which version of the routing state the stored
response was obtained, and which version the last change of routing published.
`lookups_follow_reloads` says that no lookup returns an older response in every
run in which no request stores one after the cache was cleared.
-/

namespace Reduction

open Http Run Traced

/-! ## What a request stores and finds -/

namespace Shared

/-- The key under which an event puts a response, if the cache accepts it. -/
def stored? (now : Instant) (sh : Shared) : Event → Option CacheKeyRef
  | .put key status headers body directives =>
    if (sh.reload.cache.put key status headers body directives now).2 then some key else none
  | _ => none

/-- The keys that a list of events stores responses under. -/
def stored (now : Instant) : Shared → List Event → List CacheKeyRef
  | _, [] => []
  | sh, e :: es => (sh.stored? now e).toList ++ stored now (sh.apply now e) es

variable {now : Instant} {sh : Shared}

variable {events : List Event} {key : CacheKeyRef} {entry : CachedResponse}

theorem stored_eq_nil (h : ∀ e ∈ events, e.put? = none) : sh.stored now events = [] := by
  induction events generalizing sh with
  | nil => rfl
  | cons e events ih =>
    have he : sh.stored? now e = none := by
      have := h e List.mem_cons_self
      cases e <;> simp [Event.put?, stored?] at this ⊢
    rw [stored, he, ih fun e' he' => h e' (List.mem_cons_of_mem _ he')]
    rfl

/-- What is in the cache after an event was there before, or the event has stored it. -/
theorem peek_apply {e : Event}
    (h : (sh.apply now e).reload.cache.store.peek (cacheKey key) = some entry) :
    sh.stored? now e = some key ∨
      ∃ entry, sh.reload.cache.store.peek (cacheKey key) = some entry := by
  cases e with
  | lookup key' => exact .inr ⟨entry, ResponseCache.peek_get _ _ _ h⟩
  | put key' status headers body directives =>
    rcases sh.reload.cache.put_cases key' status headers body directives now with
      hput | ⟨-, -, -, -, hput⟩
    · simp only [apply, hput] at h
      exact .inr ⟨entry, h⟩
    · simp only [apply, hput] at h
      rcases LruCache.peek_put h with ⟨hkey, -⟩ | ⟨-, hpeek⟩
      · obtain rfl := cacheKey_injective hkey
        exact .inl (by simp [stored?, hput])
      · exact .inr ⟨entry, hpeek⟩
  | _ => exact .inr ⟨entry, h⟩

theorem peek_applyAll
    (h : (sh.applyAll now events).reload.cache.store.peek (cacheKey key) = some entry) :
    key ∈ sh.stored now events ∨
      ∃ entry, sh.reload.cache.store.peek (cacheKey key) = some entry := by
  induction events generalizing sh with
  | nil => exact .inr ⟨entry, h⟩
  | cons e events ih =>
    rw [stored, List.mem_append, Option.mem_toList]
    rcases ih h with hstored | ⟨entry', hpeek⟩
    · exact .inl (.inr hstored)
    · rcases peek_apply hpeek with hstored | hbefore
      · exact .inl (.inl hstored)
      · exact .inr hbefore

end Shared

namespace RequestStage

/-- The version of the routing state that a request with an answer was routed by. -/
def generation : RequestStage → Nat
  | .settling v _ _ => v.generation
  | _ => 0

/-- The keys under which a step of a request stores a response. -/
def stored (sh : Shared) : RequestStage → RequestMove → List CacheKeyRef
  | .settling v selected result, .settle env =>
    sh.stored env.now
      (handleResponse v.ctx env v.attempt selected result v.replay.reqParts v.retry).events
  | _, _ => []

/-- The keys for which a step of a request finds a response. -/
def found (state : ProxyState) (sh : Shared) : RequestStage → RequestMove → List CacheKeyRef
  | .arrived req, .lookUp env now =>
    ((negotiate state sh env now req).events.filterMap Event.lookup?).filter fun key =>
      (sh.reload.cache.get key now).2.isSome
  | _, _ => []

variable {state : ProxyState} {sh : Shared} {stage : RequestStage} {move : RequestMove}
  {key : CacheKeyRef}

theorem peek_of_found (h : key ∈ stage.found state sh move) :
    ∃ entry, sh.reload.cache.store.peek (cacheKey key) = some entry := by
  unfold found at h
  split at h
  · obtain ⟨response, hhit⟩ := Option.isSome_iff_exists.mp (List.mem_filter.mp h).2
    obtain ⟨entry, hpeek, -⟩ := ResponseCache.get_some _ _ _ hhit
    exact ⟨entry, hpeek⟩
  · cases h

theorem isGate_of_mem_dropGuards (stage : RequestStage) :
    ∀ e ∈ stage.dropGuards, e.isGate = true := by
  intro e he
  cases stage with
  | gating v backend remaining =>
    obtain rfl := List.mem_singleton.mp he
    rfl
  | forwarding v selected req remaining => exact dropGuards_gate selected e he
  | settling v selected result => exact dropGuards_gate selected e he
  | streaming conn halfOpen =>
    cases List.mem_append.mp he with
    | inl hguard =>
      obtain ⟨g, -, rfl⟩ := List.mem_map.mp hguard
      rfl
    | inr hpermit =>
      obtain rfl := List.mem_singleton.mp hpermit
      rfl
  | _ => cases he

/-- What is in the cache after a step was there before, or the step has stored it. -/
theorem peek_step {entry : CachedResponse}
    (h : (stage.step state sh move).1.reload.cache.store.peek (cacheKey key) = some entry) :
    key ∈ stage.stored sh move ∨
      ∃ entry, sh.reload.cache.store.peek (cacheKey key) = some entry := by
  -- the events of all steps but one put nothing
  have hquiet : ∀ {now events}, (∀ e ∈ events, Event.put? e = none) →
      (sh.applyAll now events).reload.cache.store.peek (cacheKey key) = some entry →
      ∃ entry, sh.reload.cache.store.peek (cacheKey key) = some entry := by
    intro now events hevents hpeek
    have hcases := Shared.peek_applyAll hpeek
    rw [Shared.stored_eq_nil hevents] at hcases
    exact hcases.resolve_left List.not_mem_nil
  unfold step at h
  split at h
  · rename_i req env now
    exact .inr (hquiet (fun e he =>
      put?_of_housekeeping e (negotiate_housekeeping state sh env now req e he)) h)
  · exact .inr ⟨entry, h⟩
  · exact .inr ⟨entry, h⟩
  · rename_i v env
    rcases attemptNext_cases sh env v with heq | ⟨b, -, heq, -⟩ <;> rw [heq] at h <;>
      exact .inr ⟨entry, h⟩
  · rename_i v backend remaining env
    unfold gate at h
    split at h
    · exact .inr ⟨entry, h⟩
    · dsimp only at h
      split at h
      · exact .inr (hquiet (fun e he => put?_of_gate e (dropGuards_gate _ e he)) h)
      · exact .inr ⟨entry, h⟩
  · exact .inr ⟨entry, h⟩
  · exact Shared.peek_applyAll h
  · exact .inr (hquiet (fun e he => put?_of_gate e (stage.isGate_of_mem_dropGuards e he)) h)
  · exact .inr ⟨entry, h⟩

end RequestStage

/-! ## Runs -/

/-- The server with the configuration in force, the version of the routing state by which the stored
    response of each key was obtained, and the version that the last change of routing published. -/
structure Tracked where
  server : Server
  config : ReductionConfig
  origin : CacheKeyRef → Nat
  applied : Nat

namespace Tracked

variable {state : ProxyState} {t : Tracked}

def start (config : ReductionConfig) (server : Server) : Tracked :=
  { server, config, origin := fun _ => 0, applied := 0 }

/-- The routes or the backends are other than before. -/
def changesRouting (t : Tracked) (config : ReductionConfig) : Bool :=
  config.routes ≠ t.config.routes || config.backends ≠ t.config.backends

/-- A reload is applied when the cache has been flushed. -/
def step (state : ProxyState) (t : Tracked) (a : ServerAction) : Tracked :=
  { server := t.server.step state a
    config :=
      match a, t.server.reloading with
      | .flush, .published pending => pending.config
      | _, _ => t.config
    origin :=
      match a with
      | .request i move =>
        match t.server.requests[i]? with
        | some stage => fun key =>
          if key ∈ stage.stored t.server.shared move then stage.generation else t.origin key
        | none => t.origin
      | _ => t.origin
    applied :=
      match a, t.server.reloading with
      | .flush, .published pending =>
        if t.changesRouting pending.config then t.server.shared.reload.reloadable.version
        else t.applied
      | _, _ => t.applied }

/-- Tracking changes nothing. -/
theorem server_run (state : ProxyState) (t : Tracked) (as : List ServerAction) :
    (run (step state) t as).server = run (Server.step state) t.server as := by
  induction as generalizing t with
  | nil => rfl
  | cons a as ih => exact ih (t.step state a)

/-- A request stores a response that it obtained by a route from before the last change of routing,
    after the cache was flushed for that change. -/
def storesStale (t : Tracked) : ServerAction → Bool
  | .request i move => t.server.requests[i]?.any fun stage =>
    !(stage.stored t.server.shared move).isEmpty && stage.generation < t.applied
  | _ => false

/-- A lookup returns a response that was obtained by a route from before the last change of
    routing. -/
def servesStale (state : ProxyState) (t : Tracked) : ServerAction → Bool
  | .request i move => t.server.requests[i]?.any fun stage =>
    (stage.found state t.server.shared move).any fun key => t.origin key < t.applied
  | _ => false

/-- Every stored response was obtained since the last change of routing, and the reload task knows the
    configuration in force. -/
structure Current (t : Tracked) : Prop where
  routes : t.server.shared.reload.prevRoutes = t.config.routes
  backends : t.server.shared.reload.prevBackends = t.config.backends
  newer : ∀ key entry, t.server.shared.reload.cache.store.peek (cacheKey key) = some entry →
    t.applied ≤ t.origin key

theorem servesStale_of_current (h : t.Current) (a : ServerAction) :
    t.servesStale state a = false := by
  cases a with
  | request i move =>
    simp only [servesStale, Option.any_eq_false, List.any_eq_false]
    intro stage _ key hfound
    obtain ⟨entry, hpeek⟩ := RequestStage.peek_of_found hfound
    simpa using h.newer key entry hpeek
  | _ => rfl

/-- Nothing but the server changes, and of the server neither the cache nor what the reload task
    compares a configuration with. -/
theorem Current.of_reload_eq (h : t.Current) {server : Server}
    (hcache : server.shared.reload.cache = t.server.shared.reload.cache)
    (hroutes : server.shared.reload.prevRoutes = t.server.shared.reload.prevRoutes)
    (hbackends : server.shared.reload.prevBackends = t.server.shared.reload.prevBackends) :
    ({ t with server } : Tracked).Current where
  routes := hroutes.trans h.routes
  backends := hbackends.trans h.backends
  newer key entry hpeek := by
    rw [hcache] at hpeek
    exact h.newer key entry hpeek

theorem current_request (h : t.Current) {i : Nat} {move : RequestMove}
    (ha : t.storesStale (.request i move) = false) : (t.step state (.request i move)).Current := by
  cases hi : t.server.requests[i]? with
  | none =>
    have heq : t.step state (.request i move) = t := by
      simp only [step, hi, Server.step_request_none hi]
    rwa [heq]
  | some stage =>
    obtain ⟨cache, hreload⟩ := stage.reload_step state t.server.shared move
    have hserver : (t.step state (.request i move)).server.shared =
        (stage.step state t.server.shared move).1 := by
      simp only [step, Server.step_request_some hi]
    refine ⟨?_, ?_, ?_⟩
    · rw [hserver, hreload]
      exact h.routes
    · rw [hserver, hreload]
      exact h.backends
    · intro key entry hpeek
      rw [hserver] at hpeek
      simp only [step, hi]
      by_cases hstored : key ∈ stage.stored t.server.shared move
      · rw [if_pos hstored]
        have hne : (stage.stored t.server.shared move).isEmpty = false := by
          rw [List.isEmpty_eq_false_iff]
          exact List.ne_nil_of_mem hstored
        simpa [storesStale, hi, hne] using ha
      · rw [if_neg hstored]
        obtain ⟨entry', hbefore⟩ := (RequestStage.peek_step hpeek).resolve_left hstored
        exact h.newer key entry' hbefore

theorem publish_frame (reload : ReloadTask) (config : ReductionConfig)
    (file : Option (Option RevocationSet)) :
    (reload.publish config file).1.cache = reload.cache ∧
      (reload.publish config file).1.prevRoutes = reload.prevRoutes ∧
      (reload.publish config file).1.prevBackends = reload.prevBackends := by
  have hreread : ∃ revocation, reload.rereadRevocation file = { reload with revocation } := by
    unfold ReloadTask.rereadRevocation
    split <;> exact ⟨_, rfl⟩
  obtain ⟨revocation, heq⟩ := hreread
  unfold ReloadTask.publish
  rw [heq]
  cases config.reloadableState with
  | error e => exact ⟨rfl, rfl, rfl⟩
  | ok routing => exact ⟨rfl, rfl, rfl⟩

theorem current_publish (h : t.Current) (config : ReductionConfig)
    (file : Option (Option RevocationSet)) : (t.step state (.publish config file)).Current := by
  obtain ⟨hcache, hroutes, hbackends⟩ := publish_frame t.server.shared.reload config file
  refine h.of_reload_eq ?_ ?_ ?_ <;>
    · unfold Server.step
      cases t.server.reloading with
      | idle =>
        dsimp only
        split
        · assumption
        · rfl
      | published pending => rfl
      | flushed pending => rfl

theorem current_flush (h : t.Current) : (t.step state .flush).Current := by
  cases hreloading : t.server.reloading with
  | published pending =>
    have hchanged : t.server.shared.reload.routingChanged pending.config =
        t.changesRouting pending.config := by
      simp only [ReloadTask.routingChanged, changesRouting, h.routes, h.backends]
    have hreload : (t.step state .flush).server.shared.reload =
        t.server.shared.reload.flush pending := by
      simp only [step, Server.step, hreloading]
    have hconfig : (t.step state .flush).config = pending.config := by
      simp only [step, hreloading]
    rw [ReloadTask.flush, hchanged] at hreload
    cases hrouting : t.changesRouting pending.config with
    | true =>
      rw [hrouting, if_pos rfl] at hreload
      refine ⟨by rw [hreload, hconfig], by rw [hreload, hconfig], ?_⟩
      intro key entry hpeek
      rw [hreload] at hpeek
      exact absurd hpeek (by simp [ResponseCache.clear])
    | false =>
      rw [hrouting, if_neg Bool.false_ne_true] at hreload
      have happlied : (t.step state .flush).applied = t.applied := by
        simp [step, hreloading, hrouting]
      simp only [changesRouting, ne_eq, decide_not, Bool.or_eq_false_iff, Bool.not_eq_false',
        decide_eq_true_eq] at hrouting
      refine ⟨?_, ?_, ?_⟩
      · rw [hreload, hconfig, h.routes, hrouting.1]
      · rw [hreload, hconfig, h.backends, hrouting.2]
      · rw [hreload, happlied]
        exact h.newer
  | idle =>
    have heq : t.step state .flush = t := by
      simp only [step, Server.step, hreloading]
    rwa [heq]
  | flushed pending =>
    have heq : t.step state .flush = t := by
      simp only [step, Server.step, hreloading]
    rwa [heq]

theorem current_cleanUp (h : t.Current) : (t.step state .cleanUp).Current := by
  refine h.of_reload_eq ?_ ?_ ?_ <;>
    · unfold Server.step
      cases t.server.reloading <;> rfl

theorem current_step (h : t.Current) {a : ServerAction} (ha : t.storesStale a = false) :
    (t.step state a).Current := by
  cases a with
  | arrive req => exact h.of_reload_eq rfl rfl rfl
  | request i move => exact current_request h ha
  | publish config file => exact current_publish h config file
  | flush => exact current_flush h
  | cleanUp => exact current_cleanUp h

theorem current_start {config : ReductionConfig} {cache : ResponseCache}
    {revocation : RevocationSet} {s : Server}
    (h : Server.start config cache revocation = .ok s) : (start config s).Current := by
  obtain ⟨reload, hreload, h⟩ := bind_eq_ok.mp h
  cases h
  obtain ⟨routing, -, hreload⟩ := bind_eq_ok.mp hreload
  cases hreload
  exact ⟨rfl, rfl, fun _ _ _ => Nat.zero_le _⟩

end Tracked

/-- In every run in which no response is stored by a route from before a change of routing that has
    been applied, no lookup returns such a response. -/
theorem lookups_follow_reloads {config : ReductionConfig} {cache : ResponseCache}
    {revocation : RevocationSet} {s : Server}
    (hstart : Server.start config cache revocation = .ok s) (state : ProxyState)
    {as : List ServerAction}
    (hstores : RunOk (Tracked.step state) (fun t a => t.storesStale a = false)
      (.start config s) as) :
    RunOk (Tracked.step state) (fun t a => t.servesStale state a = false) (.start config s) as :=
  RunOk.of_invariant (fun _ _ ht ha => Tracked.current_step ht ha)
    (fun _ a ht _ => Tracked.servesStale_of_current ht a) (Tracked.current_start hstart) hstores

namespace Sample

def secondConfig : ReductionConfig := config [b2] [routeTo web] (by decide)

/-- The second backend takes the place of the first. -/
def rerouting : List ServerAction := [.publish secondConfig none, .flush, .cleanUp]

/-- A response that may be stored. -/
def publicAnswer : HandlerEnv := answeringWith [publicLine]

def publicSettle : List RequestMove := [.settle (publicAnswer.attempts 0)]

def publicLookUp : ServerAction := .request 1 (.lookUp publicAnswer 0)

/-- The first request has stored its response when the reload comes. -/
def storedBefore : List ServerAction :=
  twoGets ++ moves 0 (untilAnswered publicAnswer ++ publicSettle) ++ rerouting ++ [publicLookUp]

/-- The first request has its answer when the reload comes, and stores it afterwards. -/
def storedAfter : List ServerAction :=
  twoGets ++ moves 0 (untilAnswered publicAnswer) ++ rerouting ++ moves 0 publicSettle

end Sample

/-- The response is gone when it is looked up. -/
theorem stored_before_reload_not_served :
    ∃ s, Server.start Sample.firstConfig (.new Sample.caching.cacheConfig) .default = .ok s ∧
      RunOk (Tracked.step Sample.caching) (fun t a => t.storesStale a = false)
        (.start Sample.firstConfig s) Sample.storedBefore ∧
      RunOk (Tracked.step Sample.caching) (fun t a => t.servesStale Sample.caching a = false)
        (.start Sample.firstConfig s) Sample.storedBefore := by
  have hstores : ∀ s, Server.start Sample.firstConfig (.new Sample.caching.cacheConfig) .default =
      .ok s → RunOk (Tracked.step Sample.caching) (fun t a => t.storesStale a = false)
        (.start Sample.firstConfig s) Sample.storedBefore := by
    intro s hs
    cases hs
    decide +kernel
  exact ⟨_, rfl, hstores _ rfl, lookups_follow_reloads rfl Sample.caching (hstores _ rfl)⟩

/-- The reload has been applied, and a lookup returns what the first request obtained from the backend
    that is gone. -/
theorem stored_after_reload_served :
    ∃ s, Server.start Sample.firstConfig (.new Sample.caching.cacheConfig) .default = .ok s ∧
      let t := run (Tracked.step Sample.caching) (.start Sample.firstConfig s) Sample.storedAfter
      Sample.firstConfig.backends = [Sample.b1] ∧ t.config.backends = [Sample.b2] ∧ t.applied = 1 ∧
        t.servesStale Sample.caching Sample.publicLookUp = true := by
  refine ⟨_, rfl, ?_⟩
  decide +kernel

end Reduction
