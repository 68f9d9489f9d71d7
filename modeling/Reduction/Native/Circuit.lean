import Reduction.Native.Types

/-!
# Circuit breakers

Model of `src/circuit.rs`: one breaker for each backend id, the `check` that
gates an attempt, the two outcome calls, and the `HalfOpenGuard` that a probe
carries.

A breaker sits behind an `Arc`, so a guard keeps pointing at the breaker it was
issued by even after `remove_backend` took that breaker out of the map.  The
only thing a guard does is to decrement a counter of its own breaker, so a
breaker that has left the map is no longer observable; the model therefore
gives each breaker the number of its allocation, and a guard acts on the
breaker of its id only when the allocations agree.
-/

namespace Reduction

/-- The `[circuit_breaker]` section. -/
structure CircuitBreakerConfig where
  failureThreshold : NonZeroU32
  recoveryTimeoutSecs : UInt64
  halfOpenMaxRequests : NonZeroU32
deriving DecidableEq

inductive CircuitState where
  | closed
  | open
  | halfOpen
deriving DecidableEq, Repr

/-- The four cells of one breaker. -/
structure BackendBreaker where
  state : CircuitState
  consecutiveFailures : UInt32
  halfOpenInflight : UInt32
  openedAt : Option Instant
deriving DecidableEq

/-- The limits every breaker of one `CircuitBreakers` works with. -/
structure BreakerLimits where
  failureThreshold : NonZeroU32
  recoveryTimeout : Duration
  halfOpenMaxRequests : NonZeroU32

namespace BackendBreaker

def new : BackendBreaker :=
  { state := .closed, consecutiveFailures := 0, halfOpenInflight := 0, openedAt := none }

/-- Whether the recovery timeout of an open breaker has passed at `now`. -/
def shouldTransition (b : BackendBreaker) (limits : BreakerLimits) (now : Instant) : Bool :=
  match b.openedAt with
  | some t => limits.recoveryTimeout ≤ now - t
  | none => false

/-- `check` on the cells: the breaker after it, the answer, and whether a guard is handed out. -/
def check (b : BackendBreaker) (limits : BreakerLimits) (now : Instant) :
    BackendBreaker × CircuitState × Bool :=
  match b.state with
  | .closed => (b, .closed, false)
  | .open =>
    if b.shouldTransition limits now then
      ({ b with halfOpenInflight := 1, state := .halfOpen }, .halfOpen, true)
    else
      (b, .open, false)
  | .halfOpen =>
    -- `fetch_add` and `fetch_sub` wrap, as `UInt32` arithmetic does.
    let inflight := b.halfOpenInflight
    let added := { b with halfOpenInflight := inflight + 1 }
    if inflight ≥ limits.halfOpenMaxRequests.val then
      ({ added with halfOpenInflight := added.halfOpenInflight - 1 }, .open, false)
    else
      (added, .halfOpen, true)

/-- `record_success` on the cells. -/
def recordSuccess (b : BackendBreaker) : BackendBreaker :=
  match b.state with
  | .halfOpen =>
    { b with consecutiveFailures := 0, halfOpenInflight := 0, state := .closed, openedAt := none }
  | .closed => { b with consecutiveFailures := 0 }
  | .open => b

/-- `record_failure` on the cells. -/
def recordFailure (b : BackendBreaker) (limits : BreakerLimits) (now : Instant) : BackendBreaker :=
  match b.state with
  | .closed =>
    let failures := b.consecutiveFailures + 1
    let b := { b with consecutiveFailures := failures }
    if failures ≥ limits.failureThreshold.val then
      { b with state := .open, openedAt := some now }
    else
      b
  | .halfOpen => { b with halfOpenInflight := 0, state := .open, openedAt := some now }
  | .open => b

/-- `Drop for HalfOpenGuard` on the cells. -/
def dropGuard (b : BackendBreaker) : BackendBreaker :=
  if b.state = .halfOpen then { b with halfOpenInflight := b.halfOpenInflight - 1 } else b

end BackendBreaker

/-- A breaker together with the number of its `Arc` allocation. -/
structure ArcBreaker where
  arc : Nat
  breaker : BackendBreaker
deriving DecidableEq

/-- The RAII guard of a half-open probe: the breaker it was issued by. -/
structure HalfOpenGuard where
  backendId : BackendId
  arc : Nat
deriving DecidableEq

structure CircuitBreakers where
  breakers : AList fun _ : BackendId => ArcBreaker
  nextArc : Nat
  limits : BreakerLimits

namespace CircuitBreakers

def new (config : CircuitBreakerConfig) : CircuitBreakers :=
  { breakers := ∅
    nextArc := 0
    limits :=
      { failureThreshold := config.failureThreshold
        recoveryTimeout := Duration.fromSecs config.recoveryTimeoutSecs.toNat
        halfOpenMaxRequests := config.halfOpenMaxRequests } }

/-- Write the cells of the breaker of `key` back, at its allocation `arc`. -/
def store (cb : CircuitBreakers) (key : BackendId) (arc : Nat) (b : BackendBreaker) :
    CircuitBreakers :=
  { cb with breakers := cb.breakers.insert key ⟨arc, b⟩ }

/-- `entry(key).or_insert_with(BackendBreaker::new)`: the breaker of `key`, allocated on first
    use. -/
def entry (cb : CircuitBreakers) (key : BackendId) : CircuitBreakers × ArcBreaker :=
  match cb.breakers.lookup key with
  | some a => (cb, a)
  | none =>
    let a : ArcBreaker := ⟨cb.nextArc, .new⟩
    ({ cb with breakers := cb.breakers.insert key a, nextArc := cb.nextArc + 1 }, a)

/-- `breakers.get(backend_id)`: a borrowed lookup, so any text may be asked for. -/
def get (cb : CircuitBreakers) (backendId : Bytes) : Option (BackendId × ArcBreaker) :=
  match ArrayString.from? backendId with
  | some key => (cb.breakers.lookup key).map fun a => (key, a)
  | none => none

/-- `check`: whether an attempt may go ahead, with the guard of a half-open probe. -/
def check (cb : CircuitBreakers) (backendId : Bytes) (now : Instant) :
    CircuitBreakers × CircuitState × Option HalfOpenGuard :=
  match ArrayString.from? backendId with
  | none => (cb, .open, none)
  | some key =>
    let (cb, ⟨arc, b⟩) := cb.entry key
    let (b, answer, issued) := b.check cb.limits now
    (cb.store key arc b, answer, if issued then some ⟨key, arc⟩ else none)

/-- `record_success`. -/
def recordSuccess (cb : CircuitBreakers) (backendId : Bytes) : CircuitBreakers :=
  match cb.get backendId with
  | none => cb
  | some (key, ⟨arc, b⟩) => cb.store key arc b.recordSuccess

/-- `record_failure`. -/
def recordFailure (cb : CircuitBreakers) (backendId : Bytes) (now : Instant) : CircuitBreakers :=
  match ArrayString.from? backendId with
  | none => cb
  | some key =>
    let (cb, ⟨arc, b⟩) := cb.entry key
    cb.store key arc (b.recordFailure cb.limits now)

/-- `state`. -/
def state (cb : CircuitBreakers) (backendId : Bytes) : CircuitState :=
  match cb.get backendId with
  | some (_, a) => a.breaker.state
  | none => .closed

/-- `remove_backend`. -/
def removeBackend (cb : CircuitBreakers) (backendId : Bytes) : CircuitBreakers :=
  match ArrayString.from? backendId with
  | some key => { cb with breakers := cb.breakers.erase key }
  | none => cb

/-- `Drop for HalfOpenGuard`. -/
def dropGuard (cb : CircuitBreakers) (g : HalfOpenGuard) : CircuitBreakers :=
  match cb.breakers.lookup g.backendId with
  | some ⟨arc, b⟩ => if arc = g.arc then cb.store g.backendId arc b.dropGuard else cb
  | none => cb

end CircuitBreakers

end Reduction
