import Reduction.ForStd.Traced
import Reduction.Native.Balancer
import Reduction.Native.Circuit

/-!
# Relays

Model of `relay_bidirectional` in `src/proxy/relay.rs`, which copies bytes between
a client and a backend until both sides have ended, one of them fails, nothing has
moved for a while or someone cancels.  `copy_bidirectional` returns the first I/O
error of either side.
-/

namespace Reduction

open Traced

/-- The two ends of a connection through the proxy. -/
inductive Side where
  | client
  | backend
deriving DecidableEq

/-- A read from a side or a write to it, with the number of bytes or the error. -/
structure IoEvent where
  side : Side
  isRead : Bool
  result : Except String Nat

inductive RelayEnd where
  | completed
  | idleTimeout
  | cancelled
deriving DecidableEq

structure RelayStats where
  bytesAToB : Nat
  bytesBToA : Nat
  duration : Duration
  ended : RelayEnd

/-- What a relay meets: the I/O until it ends, and how it ends if none fails. -/
structure RelayEnv where
  ios : List IoEvent
  ended : RelayEnd
  duration : Duration

/-- The first I/O error, with the side that it is of. -/
def firstError : List IoEvent → Option (Side × String)
  | [] => none
  | io :: ios =>
    match io.result with
    | .ok _ => firstError ios
    | .error e => some (io.side, e)

/-- The bytes that were read from a side, as the tracker counts them. -/
def bytesRead (side : Side) (ios : List IoEvent) : Nat :=
  (ios.map fun io =>
    match io.result with
    | .ok n => if io.side = side && io.isRead then n else 0
    | .error _ => 0).sum

/-- `relay_bidirectional`; the error does not say which side it is of. -/
def relayBidirectional (env : RelayEnv) : Except ReductionError RelayStats :=
  match firstError env.ios with
  | some (_, e) => .error (.connectTunnel ("relay error: " ++ e))
  | none =>
    .ok
      { bytesAToB := bytesRead .client env.ios
        bytesBToA := bytesRead .backend env.ios
        duration := env.duration
        ended := env.ended }

/-- The bytes of both directions, by `saturating_add`. -/
def RelayStats.total (stats : RelayStats) : Nat :=
  min (stats.bytesAToB + stats.bytesBToA) (2 ^ 64 - 1)

/-- What a relay does to the rest of the system; the reasons for turning a client away are its own. -/
inductive RelayEvent (R : Type) where
  | rejected (reason : R)
  /-- The answer of a breaker, with the guard of a probe. -/
  | checked (id : BackendId) (answer : CircuitState) (guard : Option HalfOpenGuard)
  | permitAcquired (id : BackendId)
  | permitReleased (id : BackendId)
  /-- The stream to a backend is opened. -/
  | dialed (backend : BackendConfig)
  /-- A call of `relay_bidirectional`. -/
  | relaying (backend : BackendConfig)
  | recordFailure (id : BackendId)
  | recordSuccess (id : BackendId)
  | relayed (bytes : Nat)
  | relayError
  | guardDropped (guard : HalfOpenGuard)

/-- The guard of a probe goes out of scope. -/
def dropHalfOpen {R : Type} : Option HalfOpenGuard → Traced (RelayEvent R) Unit
  | some guard => emit (.guardDropped guard)
  | none => pure ()

end Reduction
