import Reduction.Native.RegistryWhole

/-!
# Waiting for a session

Model of `wait_for_session` in `src/tunnel/registry.rs`.  It takes a stage for
each of its operations on the registry, like the calls in `Native/Registry.lean`.
A `Notified` sees every `notify_waiters` since it was made, so it is the number
of those calls at that moment.
-/

namespace Reduction

namespace TunnelRegistry

variable (reg : TunnelRegistry)

/-- `is_tunnel_backend` of any text.  No key of the map is longer than 256 bytes. -/
def isTunnelBackendNamed (name : Bytes) : Bool :=
  match ArrayString.from? name with
  | some id => reg.isTunnelBackend id
  | none => false

/-- `wake_handle`, which makes the entry on first use.  Entries are never removed, so the handle
    is the key. -/
def wakeHandle (name : Bytes) : TunnelRegistry × Option BackendId :=
  match ArrayString.from? name with
  | none => (reg, none)
  | some id =>
    ({ reg with wakeNotify := reg.wakeNotify.insert id ((reg.wakeNotify.get id).getD 0) }, some id)

/-- The number of `notify_waiters` calls on a handle. -/
def notified (id : BackendId) : Notify := (reg.wakeNotify.get id).getD 0

end TunnelRegistry

/-- What a stage of `wait_for_session` meets. -/
structure WaitInput where
  now : Instant
  /-- Whether `select!` looks at the wake-up before it looks at the deadline. -/
  wakeFirst : Bool

inductive WaitStage where
  | handle
  /-- The top of the loop. -/
  | arm (notify : BackendId)
  | test (notify : BackendId) (armed : Notify)
  | select (notify : BackendId) (armed : Notify)

/-- One stage of `wait_for_session`. -/
def TunnelRegistry.waitStep (reg : TunnelRegistry) (name : Bytes) (deadline : Instant)
    (input : WaitInput) : WaitStage → TunnelRegistry × Progress WaitStage Bool
  | .handle =>
    match reg.wakeHandle name with
    | (reg, none) => (reg, .done (reg.isTunnelBackendNamed name))
    | (reg, some notify) => (reg, .more (.arm notify))
  | .arm notify => (reg, .more (.test notify (reg.notified notify)))
  | .test notify armed =>
    (reg, if reg.isTunnelBackendNamed name then .done true else .more (.select notify armed))
  | .select notify armed =>
    let woken := decide (armed < reg.notified notify)
    let late := decide (deadline ≤ input.now)
    (reg,
      if woken && (input.wakeFirst || !late) then .more (.arm notify)
      else if late then .done false
      else .more (.select notify armed))

/-- What a task that waits is at. -/
inductive WaitCall where
  | idle
  | waiting (name : Bytes) (deadline : Instant) (stage : WaitStage)
  | returned (found : Bool)

end Reduction
