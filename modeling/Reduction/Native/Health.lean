import Reduction.Native.Config

/-!
# Health reports

Model of `src/health/state.rs` and `src/health/subscriber.rs`: the latest report of
each backend, in one map of bounded size, and the factor that a report contributes
to a backend's weight.
-/

namespace Reduction

inductive Availability where
  | online
  | offline
deriving DecidableEq

structure BackendHealth where
  backendId : BackendId
  load : F64
  latencyMs : UInt32
  availability : Availability
deriving DecidableEq

/-- A `HealthBroadcast`. -/
abbrev HealthBroadcast := List BackendHealth

structure HealthState where
  entries : LruCache BackendId (BackendHealth × Instant)
  stalenessTtl : Duration
  latencyThresholdMs : UInt32

namespace HealthState

/-- `with_config`: the capacity is at least one and at most `MAX_BACKENDS`. -/
def withConfig (capacity : UInt32) (stalenessTtl : Duration) (latencyThresholdMs : UInt32) :
    HealthState :=
  { entries := .new (max 1 (min capacity.toNat maxBackends)) (by omega)
    stalenessTtl
    latencyThresholdMs }

/-- One round of `update`. -/
def record (now : Instant) (state : HealthState) (entry : BackendHealth) : HealthState :=
  { state with entries := state.entries.put entry.backendId (entry, now) }

def update (state : HealthState) (broadcast : HealthBroadcast) (now : Instant) : HealthState :=
  broadcast.foldl (record now) state

/-- `entries.peek`, by the text of the id. -/
def peek (state : HealthState) (backendId : Bytes) : Option (BackendHealth × Instant) :=
  (ArrayString.from? backendId).bind state.entries.peek

def isValid (state : HealthState) (backendId : Bytes) (now : Instant) : Bool :=
  match state.peek backendId with
  | none => false
  | some (_, receivedAt) => now - receivedAt < state.stalenessTtl

/-- `weight_factor`: a backend without a fresh report keeps its full weight. -/
def weightFactor (state : HealthState) (now : Instant) (backendId : Bytes) : F64 :=
  if !state.isValid backendId now then
    .one
  else
    match state.peek backendId with
    | none => .one
    | some (health, _) =>
      if health.availability ≠ .online then
        .zero
      else
        let loadFactor := F64.one.sub (health.load.clamp .zero .one)
        let latencyFactor :=
          if health.latencyMs > state.latencyThresholdMs then
            (F64.ofNat state.latencyThresholdMs.toNat).div (.ofNat health.latencyMs.toNat)
          else
            .one
        loadFactor.mul latencyFactor

/-- `HealthSubscriber::handle_message`: what does not decode changes nothing. -/
def handleMessage (decode : Bytes → Option HealthBroadcast) (state : HealthState) (data : Bytes)
    (now : Instant) : HealthState :=
  match decode data with
  | some broadcast => state.update broadcast now
  | none => state

end HealthState

/-- The health channel's first value in `build_balancing`. -/
def ReductionConfig.initialHealth (config : ReductionConfig) : HealthState :=
  .withConfig config.balancer.maxBackends (Duration.fromSecs config.health.stalenessTtlSecs.toNat)
    config.health.latencyThresholdMs

end Reduction
