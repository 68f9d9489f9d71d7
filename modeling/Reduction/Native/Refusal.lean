import Reduction.Native.RegistryWait

/-!
# Refused wakes

Model of `note_refusal`, `take_refusal` and `await_refusal` in
`src/tunnel/registry.rs`, with a stage for each of their operations on the
registry, as in `Native/Registry.lean`.  A refusal is one entry in a map, and its
wake-up goes through the handle that registrations notify as well.

The backend ids that they are called with (`src/proxy/handler/attempt/wake.rs`,
`src/tunnel/listener.rs`) fit into the keys of the maps.
-/

namespace Reduction

/-- The registry with its map of refusals. -/
structure RefusingRegistry where
  registry : TunnelRegistry
  refused : DashMap BackendId Unit

inductive NoteRefusalStage where
  | insert
  | notify
deriving DecidableEq

/-- The stages of `await_refusal`. -/
inductive AwaitRefusalStage where
  | handle
  /-- The top of the loop. -/
  | arm
  | take (armed : Notify)
  | wait (armed : Notify)
deriving DecidableEq

namespace RefusingRegistry

variable (reg : RefusingRegistry) (id : BackendId)

/-- One stage of `note_refusal`. -/
def noteRefusalStep :
    NoteRefusalStage → RefusingRegistry × Progress NoteRefusalStage Unit
  | .insert => ({ reg with refused := reg.refused.insert id () }, .more .notify)
  | .notify => ({ reg with registry := reg.registry.notifySessionWaiters id }, .done ())

/-- `take_refusal`. -/
def takeRefusal : RefusingRegistry × Bool :=
  ({ reg with refused := reg.refused.remove id }, (reg.refused.get id).isSome)

/-- One stage of `await_refusal`. -/
def awaitRefusalStep :
    AwaitRefusalStage → RefusingRegistry × Progress AwaitRefusalStage Unit
  | .handle =>
    match reg.registry.wakeHandle id.bytes with
    | (registry, none) => ({ reg with registry }, .done ())
    | (registry, some _) => ({ reg with registry }, .more .arm)
  | .arm => (reg, .more (.take (reg.registry.notified id)))
  | .take armed =>
    match reg.takeRefusal id with
    | (reg, true) => (reg, .done ())
    | (reg, false) => (reg, .more (.wait armed))
  | .wait armed =>
    (reg, if armed < reg.registry.notified id then .more .arm else .more (.wait armed))

end RefusingRegistry

end Reduction
