import Reduction.Native.Circuit

/-!
# Circuit breakers, step by step

Model of `src/circuit.rs` for callers that run at the same time.  A call of
`check`, `record_success`, `record_failure` or of a guard's `drop` is a sequence
of steps, each of them one access to one cell of the breaker: a load, a store or
a fetch of an atomic, or what is done under the lock of `opened_at`.

The map access that a call begins with is part of its start.  `record_success`
holds the map's lock while it runs, so other calls cannot start meanwhile; the
model lets them.
-/

namespace Reduction

/-- Where a call stands.  A call that has found the breaker half-open carries the number of the
    half-open period in which it has; the code does not know it. -/
inductive BreakerPc where
  | done
  | checkLoad
  /-- `check` has found the breaker open. -/
  | checkOpenedAt
  | checkStoreInflight
  | checkStoreState
  /-- `check` has found the breaker half-open. -/
  | checkFetchAdd (period : Nat)
  | checkFetchSub (period : Nat)
  | successLoad
  /-- `record_success` has found the breaker half-open. -/
  | successFailures (period : Nat)
  | successInflight (period : Nat)
  | successState (period : Nat)
  | successOpenedAt
  /-- `record_success` has found the breaker closed. -/
  | successReset
  | failureLoad
  /-- `record_failure` has found the breaker closed. -/
  | failureFetchAdd
  | failureOpen
  | failureOpenedAt
  /-- `record_failure` has found the breaker half-open. -/
  | failureInflight (period : Nat)
  | failureReopen (period : Nat)
  /-- `drop` of a guard of the given period. -/
  | dropLoad (guard : Nat)
  | dropFetchSub (period : Nat)
deriving DecidableEq

/-- The next step of a call: the cells after it, where the call stands then, and whether it hands
    out a guard. -/
def BreakerPc.exec (limits : BreakerLimits) (b : BackendBreaker) (period : Nat) (now : Instant) :
    BreakerPc → BackendBreaker × BreakerPc × Bool
  | .done => (b, .done, false)
  | .checkLoad =>
    match b.state with
    | .closed => (b, .done, false)
    | .open => (b, .checkOpenedAt, false)
    | .halfOpen => (b, .checkFetchAdd period, false)
  | .checkOpenedAt =>
    if b.shouldTransition limits now then (b, .checkStoreInflight, false) else (b, .done, false)
  | .checkStoreInflight => ({ b with halfOpenInflight := 1 }, .checkStoreState, false)
  | .checkStoreState => ({ b with state := .halfOpen }, .done, true)
  | .checkFetchAdd p =>
    let inflight := b.halfOpenInflight
    let b := { b with halfOpenInflight := inflight + 1 }
    if inflight ≥ limits.halfOpenMaxRequests.val then (b, .checkFetchSub p, false)
    else (b, .done, true)
  | .checkFetchSub _ => ({ b with halfOpenInflight := b.halfOpenInflight - 1 }, .done, false)
  | .successLoad =>
    match b.state with
    | .halfOpen => (b, .successFailures period, false)
    | .closed => (b, .successReset, false)
    | .open => (b, .done, false)
  | .successFailures p => ({ b with consecutiveFailures := 0 }, .successInflight p, false)
  | .successInflight p => ({ b with halfOpenInflight := 0 }, .successState p, false)
  | .successState _ => ({ b with state := .closed }, .successOpenedAt, false)
  | .successOpenedAt => ({ b with openedAt := none }, .done, false)
  | .successReset => ({ b with consecutiveFailures := 0 }, .done, false)
  | .failureLoad =>
    match b.state with
    | .closed => (b, .failureFetchAdd, false)
    | .halfOpen => (b, .failureInflight period, false)
    | .open => (b, .done, false)
  | .failureFetchAdd =>
    let failures := b.consecutiveFailures + 1
    let b := { b with consecutiveFailures := failures }
    if failures ≥ limits.failureThreshold.val then (b, .failureOpen, false) else (b, .done, false)
  | .failureOpen => ({ b with state := .open }, .failureOpenedAt, false)
  | .failureOpenedAt => ({ b with openedAt := some now }, .done, false)
  | .failureInflight p => ({ b with halfOpenInflight := 0 }, .failureReopen p, false)
  | .failureReopen _ => ({ b with state := .open }, .failureOpenedAt, false)
  | .dropLoad _ =>
    if b.state = .halfOpen then (b, .dropFetchSub period, false) else (b, .done, false)
  | .dropFetchSub _ => ({ b with halfOpenInflight := b.halfOpenInflight - 1 }, .done, false)

/-- The calls that a party can make. -/
inductive BreakerEntry where
  | check
  | recordSuccess
  | recordFailure
deriving DecidableEq

/-- The breaker of one backend with the calls that were made on it. -/
structure SharedBreaker where
  limits : BreakerLimits
  /-- The breaker is in the map. -/
  present : Bool
  cells : BackendBreaker
  /-- How often the breaker has become half-open. -/
  period : Nat
  /-- The guards that are held, each by the period in which it was handed out. -/
  guards : List Nat
  calls : List BreakerPc

inductive SharedAction where
  | start (entry : BreakerEntry)
  /-- The guard at this place of the list goes out of scope. -/
  | drop (guard : Nat)
  /-- The call at this place of the list takes its next step. -/
  | move (call : Nat) (now : Instant)
deriving DecidableEq

namespace SharedBreaker

def new (limits : BreakerLimits) : SharedBreaker :=
  { limits, present := false, cells := .new, period := 0, guards := [], calls := [] }

/-- A call looks the breaker up: `check` and `record_failure` insert one that is not there,
    `record_success` returns. -/
def start (s : SharedBreaker) : BreakerEntry → SharedBreaker
  | .check => { s with present := true, calls := s.calls ++ [.checkLoad] }
  | .recordFailure => { s with present := true, calls := s.calls ++ [.failureLoad] }
  | .recordSuccess =>
    { s with calls := s.calls ++ [if s.present then .successLoad else .done] }

/-- The period after the state has been stored. -/
def periodAfter (s : SharedBreaker) (b : BackendBreaker) : Nat :=
  if s.cells.state ≠ .halfOpen ∧ b.state = .halfOpen then s.period + 1 else s.period

/-- What a step of the call at `i` makes of the breaker. -/
def moved (s : SharedBreaker) (i : Nat) (r : BackendBreaker × BreakerPc × Bool) : SharedBreaker :=
  { s with
    cells := r.1
    period := s.periodAfter r.1
    guards := if r.2.2 then s.periodAfter r.1 :: s.guards else s.guards
    calls := s.calls.set i r.2.1 }

def step (s : SharedBreaker) : SharedAction → SharedBreaker
  | .start entry => s.start entry
  | .drop j =>
    match s.guards[j]? with
    | some g => { s with guards := s.guards.eraseIdx j, calls := s.calls ++ [.dropLoad g] }
    | none => s
  | .move i now =>
    match s.calls[i]? with
    | some pc => s.moved i (pc.exec s.limits s.cells s.period now)
    | none => s

/-- No call is in progress. -/
def Quiet (s : SharedBreaker) : Prop := ∀ pc ∈ s.calls, pc = .done

instance (s : SharedBreaker) : Decidable s.Quiet :=
  inferInstanceAs (Decidable (∀ pc ∈ s.calls, pc = .done))

end SharedBreaker

end Reduction
