import Reduction.Native.Relay

/-!
# The clock of a relay

Model of `src/proxy/relay.rs` with its times: the tracker that reads and writes
touch, the watchdog that sleeps until the deadline of what it last saw, and the
three branches of the `select!`.  Times are readings of the monotonic clock, which
counts nanoseconds in 64 bits.
-/

namespace Reduction

structure ActivityTracker where
  start : UInt64
  lastActivityMs : UInt64
  aToB : UInt64
  bToA : UInt64

namespace ActivityTracker

def new (start : UInt64) : ActivityTracker := { start, lastActivityMs := 0, aToB := 0, bToA := 0 }

/-- The whole milliseconds since the start. -/
def elapsedMs (tracker : ActivityTracker) (now : UInt64) : Nat :=
  (now.toNat - tracker.start.toNat) / 1000000

def touch (tracker : ActivityTracker) (now : UInt64) : ActivityTracker :=
  { tracker with lastActivityMs := .ofNat (min (tracker.elapsedMs now) (2 ^ 64 - 1)) }

/-- `fetch_add` on the counter of a side. -/
def addRead (tracker : ActivityTracker) (n : Nat) : Side → ActivityTracker
  | .client => { tracker with aToB := tracker.aToB + .ofNat n }
  | .backend => { tracker with bToA := tracker.bToA + .ofNat n }

/-- `poll_read`, `poll_write` and `poll_write_vectored` of `TrackedIo`, once the stream has answered:
    an answer without bytes leaves the tracker alone. -/
def tracked (tracker : ActivityTracker) (now : UInt64) (io : IoEvent) : ActivityTracker :=
  match io.result with
  | .ok n =>
    if 0 < n then (if io.isRead then tracker.addRead n io.side else tracker).touch now
    else tracker
  | .error _ => tracker

end ActivityTracker

/-- A call of `relay_bidirectional`. -/
structure TimedRelay where
  tracker : ActivityTracker
  idleTimeout : Duration
  /-- `armed_at_ms` of the watchdog while it sleeps. -/
  armedAtMs : Option UInt64
  /-- The I/O so far, with its times. -/
  ios : List (UInt64 × IoEvent)
  clock : UInt64
  /-- When the `select!` has completed, and what is returned. -/
  returned : Option (UInt64 × Except ReductionError RelayStats)

inductive TimedRelayAction where
  /-- A read or write of `copy_bidirectional` is answered; an error ends it. -/
  | io (event : IoEvent)
  /-- Both directions have ended. -/
  | copied
  /-- The watchdog gets on with its loop. -/
  | watchdog
  | cancelled

namespace TimedRelay

def start (now : UInt64) (idleTimeout : Duration) : TimedRelay :=
  { tracker := .new now, idleTimeout, armedAtMs := none, ios := [], clock := now, returned := none }

/-- The counts come from the tracker, however the relay ends. -/
def finish (s : TimedRelay) (now : UInt64) (outcome : Except String RelayEnd) : TimedRelay :=
  let result :=
    match outcome with
    | .ok ended =>
      .ok
        { bytesAToB := s.tracker.aToB.toNat
          bytesBToA := s.tracker.bToA.toNat
          duration := now.toNat - s.tracker.start.toNat
          ended }
    | .error e => .error (.connectTunnel ("relay error: " ++ e))
  { s with returned := some (now, result) }

def deadline (s : TimedRelay) (armedAtMs : UInt64) : Nat :=
  s.tracker.start.toNat + Duration.fromMillis armedAtMs.toNat + s.idleTimeout

/-- A round of `idle_watchdog`: it arms, or wakes at its deadline or later and compares. -/
def watchdog (s : TimedRelay) (now : UInt64) : TimedRelay :=
  match s.armedAtMs with
  | none => { s with armedAtMs := some s.tracker.lastActivityMs }
  | some armed =>
    if s.deadline armed ≤ now.toNat then
      if s.tracker.lastActivityMs = armed then s.finish now (.ok .idleTimeout)
      else { s with armedAtMs := none }
    else s

def onIo (s : TimedRelay) (now : UInt64) (event : IoEvent) : TimedRelay :=
  let s := { s with tracker := s.tracker.tracked now event, ios := s.ios ++ [(now, event)] }
  match event.result with
  | .ok _ => s
  | .error e => s.finish now (.error e)

def act (s : TimedRelay) (now : UInt64) : TimedRelayAction → TimedRelay
  | .io event => s.onIo now event
  | .copied => s.finish now (.ok .completed)
  | .watchdog => s.watchdog now
  | .cancelled => s.finish now (.ok .cancelled)

/-- Nothing happens after the end, and the clock does not go back. -/
def step (s : TimedRelay) (a : UInt64 × TimedRelayAction) : TimedRelay :=
  if s.returned.isSome || a.1 < s.clock then s else { s.act a.1 a.2 with clock := a.1 }

end TimedRelay

end Reduction
