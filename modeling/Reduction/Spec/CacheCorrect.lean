import Reduction.ForStd.Run
import Reduction.Native.Cache

/-!
# Isolation and freshness of the response cache

What a `get` returns is what the last accepted `put` for exactly the same
method, path and identity stored, unless the cache was cleared since or the
entry outlived its lifetime.

## Key results

- `cacheKey_injective`: the joined key determines the three parts, whatever
  bytes they hold
- `deref_buildLookupKey`: the lookup key is the stored key, on the stack and on
  the heap alike
- `get_returns_last_accepted_put`: the statement above for every run of calls,
  with the bound on the number of entries
-/

namespace Reduction

open Http

/-! ## The cache key -/

variable (c : ResponseCache) (key : CacheKeyRef) (now : Instant)

theorem cacheKey_eq :
    cacheKey key = key.method.lengthPrefixed ++ (key.path.lengthPrefixed ++
      (key.identity.lengthPrefixed ++ [])) := by
  simp [cacheKey, writeCacheKey, FmtWrite.writePieces_bytes, Bytes.lengthPrefixed]

theorem cacheKey_injective : Function.Injective cacheKey := by
  intro k l h
  rw [cacheKey_eq, cacheKey_eq] at h
  -- peel the length-prefixed fields off one by one
  obtain ⟨hmethod, h⟩ := Bytes.lengthPrefixed_append_inj h
  obtain ⟨hpath, h⟩ := Bytes.lengthPrefixed_append_inj h
  obtain ⟨hidentity, _⟩ := Bytes.lengthPrefixed_append_inj h
  cases k; cases l
  simp_all

theorem deref_buildLookupKey :
    (buildLookupKey key.method key.path key.identity).deref = cacheKey key := by
  unfold buildLookupKey
  split
  · -- everything fitted on the stack
    rename_i s hs
    rw [KeyBuf.deref, FmtWrite.writePieces_arrayString hs]
    simp [cacheKey, writeCacheKey, FmtWrite.writePieces_bytes, ArrayString.empty]
  · rfl

/-! ## The two calls that change the store -/

theorem ResponseCache.put_cases (status : StatusCode) (headers : HeaderMap) (body : Bytes)
    (directives : CacheDirectives) (now : Instant) :
    c.put key status headers body directives now = (c, false) ∨
    (directives.noStore = false ∧ directives.isPrivate = false ∧
      body.length ≤ c.config.maxEntryBytes.val ∧ c.ttlSecs directives ≠ 0 ∧
      c.put key status headers body directives now =
        ({ c with
            store := c.store.put (cacheKey key)
              { status, headers := sanitizedForCache headers, body, insertedAt := now,
                ttl := Duration.fromSecs (c.ttlSecs directives) } }, true)) := by
  unfold put
  split
  · exact .inl rfl
  · rename_i hdirectives
    split
    · exact .inl rfl
    · rename_i hbody
      split
      · exact .inl rfl
      · rename_i httl
        simp only [Bool.or_eq_true, not_or, Bool.not_eq_true] at hdirectives
        exact .inr ⟨hdirectives.1, hdirectives.2, Nat.le_of_not_lt hbody, httl, rfl⟩

/-- A `get` adds no entry and changes none. -/
theorem ResponseCache.peek_get {k : Bytes} {entry : CachedResponse}
    (h : (c.get key now).1.store.peek k = some entry) : c.store.peek k = some entry := by
  unfold get at h
  dsimp only at h
  split at h
  · exact LruCache.peek_get h
  · split at h
    · exact LruCache.peek_get (LruCache.peek_pop h).2
    · exact LruCache.peek_get h

@[simp] theorem ResponseCache.get_config : (c.get key now).1.config = c.config := by
  unfold get
  dsimp only
  split
  · rfl
  · split <;> rfl

@[simp] theorem ResponseCache.get_cap : (c.get key now).1.store.cap = c.store.cap := by
  unfold get
  dsimp only
  split
  · exact LruCache.get_cap _ _
  · split <;> exact LruCache.get_cap _ _

/-- A hit is an unexpired entry of the store, under the key that a `put` would have used. -/
theorem ResponseCache.get_some {response : Response} (h : (c.get key now).2 = some response) :
    ∃ entry, c.store.peek (cacheKey key) = some entry ∧ now - entry.insertedAt ≤ entry.ttl ∧
      response =
        { status := entry.status, headers := entry.headers, body := .ofBytes entry.body } := by
  unfold get at h
  simp only [deref_buildLookupKey, LruCache.get_snd] at h
  split at h
  · cases h
  · rename_i entry hentry
    split at h
    · cases h
    · rename_i hfresh
      refine ⟨entry, hentry, ?_, (Option.some.inj h).symm⟩
      simpa [CachedResponse.isExpired] using hfresh

/-! ## Runs of calls -/

inductive CacheOp where
  | put (key : CacheKeyRef) (status : StatusCode) (headers : HeaderMap) (body : Bytes)
    (directives : CacheDirectives)
  | get (key : CacheKeyRef)
  | clear

/-- What a run has done to the contents of the cache. -/
inductive CacheEvent where
  | accepted (t : Instant) (key : CacheKeyRef) (status : StatusCode) (headers : HeaderMap)
    (body : Bytes) (directives : CacheDirectives)
  | cleared

/-- A cache, with the accepted puts and the clears so far, newest first. -/
structure CacheRun where
  cache : ResponseCache
  log : List CacheEvent

namespace CacheRun

def init (config : CacheConfig) : CacheRun := { cache := .new config, log := [] }

def step (s : CacheRun) : Instant × CacheOp → CacheRun
  | (now, .put key status headers body directives) =>
    let (cache, ok) := s.cache.put key status headers body directives now
    { cache
      log := if ok then .accepted now key status headers body directives :: s.log else s.log }
  | (now, .get key) => { s with cache := (s.cache.get key now).1 }
  | (_, .clear) => { cache := s.cache.clear, log := .cleared :: s.log }

/-- Nothing in `newer` touches what is stored for `key`. -/
def Untouched (key : CacheKeyRef) (newer : List CacheEvent) : Prop :=
  ∀ e ∈ newer, match e with
    | .accepted _ k _ _ _ _ => k ≠ key
    | .cleared => False

/-- `entry` is what the last accepted put for `key` stored, with no clear since. -/
def LastPut (s : CacheRun) (key : CacheKeyRef) (entry : CachedResponse) : Prop :=
  ∃ newer older t headers directives,
    s.log = newer ++ .accepted t key entry.status headers entry.body directives :: older ∧
    Untouched key newer ∧
    entry.headers = sanitizedForCache headers ∧
    entry.insertedAt = t ∧
    entry.ttl = Duration.fromSecs (s.cache.ttlSecs directives)

/-- What an accepted put looked like. -/
def Acceptable (config : CacheConfig) : CacheEvent → Prop
  | .accepted _ _ _ _ body directives =>
    directives.noStore = false ∧ directives.isPrivate = false ∧
    body.length ≤ config.maxEntryBytes.val ∧
    directives.maxAge.getD config.defaultTtlSecs.val.toNat ≠ 0
  | .cleared => True

structure Inv (config : CacheConfig) (s : CacheRun) : Prop where
  config_eq : s.cache.config = config
  cap_eq : s.cache.store.cap = config.maxEntries.val
  stored : ∀ key entry, s.cache.store.peek (cacheKey key) = some entry → s.LastPut key entry
  acceptable : ∀ e ∈ s.log, Acceptable config e

theorem init_inv (config : CacheConfig) : Inv config (init config) :=
  ⟨rfl, rfl, by simp [init, ResponseCache.new], by simp [init]⟩

variable {config : CacheConfig}

theorem put_inv {s : CacheRun} (hinv : Inv config s) (now : Instant) (key : CacheKeyRef)
    (status : StatusCode) (headers : HeaderMap) (body : Bytes) (directives : CacheDirectives) :
    Inv config (s.step (now, .put key status headers body directives)) := by
  simp only [step]
  rcases s.cache.put_cases key status headers body directives now with
    hput | ⟨hstore, hprivate, hbody, httl, hput⟩ <;> rw [hput]
  · exact hinv
  · refine ⟨hinv.config_eq, hinv.cap_eq, ?_, ?_⟩
    · intro k entry hpeek
      rcases LruCache.peek_put hpeek with ⟨hk, rfl⟩ | ⟨hk, hpeek⟩
      · -- the entry just written, by injectivity under this very key
        obtain rfl := cacheKey_injective hk
        exact ⟨[], s.log, now, headers, directives, rfl, by simp [Untouched], rfl, rfl, rfl⟩
      · obtain ⟨newer, older, t, h, d, hlog, huntouched, hheaders, ht, httl'⟩ :=
          hinv.stored k entry hpeek
        refine ⟨.accepted now key status headers body directives :: newer, older, t, h, d, ?_, ?_,
          hheaders, ht, httl'⟩
        · simp [hlog]
        · intro e he
          rcases List.mem_cons.mp he with rfl | he
          · exact fun heq => hk (by rw [heq])
          · exact huntouched e he
    · intro e he
      rcases List.mem_cons.mp he with rfl | he
      · refine ⟨hstore, hprivate, ?_, ?_⟩
        · rw [← hinv.config_eq]; exact hbody
        · rw [← hinv.config_eq]; exact httl
      · exact hinv.acceptable e he

theorem get_inv {s : CacheRun} (hinv : Inv config s) (now : Instant) (key : CacheKeyRef) :
    Inv config (s.step (now, .get key)) := by
  refine ⟨by simp [step, hinv.config_eq], by simp [step, hinv.cap_eq], ?_, hinv.acceptable⟩
  intro k entry hpeek
  -- what is there after a `get` was there before, and the log is unchanged
  obtain ⟨newer, older, t, h, d, hrest⟩ := hinv.stored k entry (s.cache.peek_get key now hpeek)
  refine ⟨newer, older, t, h, d, ?_⟩
  simpa [step, ResponseCache.ttlSecs] using hrest

theorem step_inv (s : CacheRun) (op : Instant × CacheOp) (hinv : Inv config s) :
    Inv config (s.step op) := by
  obtain ⟨now, op⟩ := op
  cases op with
  | put key status headers body directives =>
    exact put_inv hinv now key status headers body directives
  | get key => exact get_inv hinv now key
  | clear =>
    refine ⟨hinv.config_eq, hinv.cap_eq, ?_, ?_⟩
    · intro k entry hpeek
      cases hpeek
    · intro e he
      rcases List.mem_cons.mp he with rfl | he
      · trivial
      · exact hinv.acceptable e he

theorem run_inv (config : CacheConfig) (ops : List (Instant × CacheOp)) :
    Inv config (Run.run step (init config) ops) :=
  Run.run_invariant_of_step step_inv (init_inv config) ops

/-- After any calls, a response that `get` returns was stored by an accepted put for exactly the
    same method, path and identity, with no later accepted put for them and no later clear; no more
    than its lifetime has passed since; and it has that put's status and body, and its headers
    without the uncacheable ones.  Every accepted put was a permitted one, and the store keeps to
    its bound.  No assumption on the clock is needed: time that ran backwards counts as no time. -/
theorem get_returns_last_accepted_put (config : CacheConfig) (ops : List (Instant × CacheOp)) :
    let s := Run.run step (init config) ops
    (∀ key now response, (s.cache.get key now).2 = some response →
      ∃ newer older t headers body directives,
        s.log = newer ++ .accepted t key response.status headers body directives :: older ∧
        Untouched key newer ∧
        now - t ≤ Duration.fromSecs (directives.maxAge.getD config.defaultTtlSecs.val.toNat) ∧
        response.body = .ofBytes body ∧
        ∀ name, response.headers.getAll name =
          if name ∈ uncacheableHeaders then [] else headers.getAll name) ∧
    (∀ e ∈ s.log, Acceptable config e) ∧
    s.cache.len ≤ config.maxEntries.val := by
  intro s
  have hinv : Inv config s := run_inv config ops
  refine ⟨?_, hinv.acceptable, ?_⟩
  · intro key now response hget
    obtain ⟨entry, hpeek, hfresh, rfl⟩ := s.cache.get_some key now hget
    obtain ⟨newer, older, t, headers, directives, hlog, huntouched, hheaders, ht, httl⟩ :=
      hinv.stored key entry hpeek
    refine ⟨newer, older, t, headers, entry.body, directives, hlog, huntouched, ?_, rfl, ?_⟩
    · rw [← ht]
      rw [httl, ResponseCache.ttlSecs, hinv.config_eq] at hfresh
      exact hfresh
    · intro name
      rw [hheaders]
      exact HeaderMap.getAll_removeAll headers uncacheableHeaders name
  · rw [← hinv.cap_eq]
    exact s.cache.store.bounded

end CacheRun

end Reduction
