import Reduction.Native.ConfigReload

/-!
# Draining removed backends

Model of `spawn_backend_drain` in `src/config_reload.rs` and of `drain_backends`
in `src/proxy/pool.rs`.  A reload that removes addresses spawns a task.  The task
sleeps, looks at the routing state once, and evicts the pooled connections of
those addresses that it did not find there.  Other tasks run in between, and the
clock goes on.
-/

namespace Reduction

/-- The connections that `ConnPool` keeps, by address and host. -/
structure PooledConnections where
  tcpH2 : DashMap SocketAddr (List (Bytes × List Nat))
  quicIdle : DashMap SocketAddr (List (Bytes × List Nat))
  /-- The QUIC connections that were closed as "draining". -/
  closed : List Nat

namespace PooledConnections

/-- The body of the loop of `drain_backends`. -/
def drainBackend (pool : PooledConnections) (addr : SocketAddr) : PooledConnections :=
  { tcpH2 := pool.tcpH2.remove addr
    quicIdle := pool.quicIdle.remove addr
    closed := pool.closed ++ ((pool.quicIdle.get addr).getD []).flatMap Prod.snd }

def drainBackends (pool : PooledConnections) (addrs : List SocketAddr) : PooledConnections :=
  addrs.foldl drainBackend pool

end PooledConnections

inductive DrainStage where
  /-- Not yet polled, so its sleep has not begun. -/
  | spawned
  | sleeping (wake : Instant)
  /-- It has looked at the state; these addresses are `to_evict`. -/
  | evicting (addrs : List SocketAddr)
  | done

structure DrainTask where
  removedAddrs : List SocketAddr
  drainTimeoutSecs : UInt64
  stage : DrainStage

/-- `spawn_backend_drain`. -/
def spawnBackendDrain (removedAddrs : List SocketAddr) (drainTimeoutSecs : UInt64) : DrainTask :=
  { removedAddrs, drainTimeoutSecs, stage := .spawned }

namespace DrainTask

/-- What the task evicts when it goes on. -/
def evicts (task : DrainTask) : List SocketAddr :=
  match task.stage with
  | .evicting addrs => addrs
  | _ => []

/-- The next stage of the task, at a time and in a routing state. -/
def poll (task : DrainTask) (now : Instant) (current : ReloadableState) : DrainTask :=
  match task.stage with
  | .spawned =>
    { task with stage := .sleeping (now + Duration.fromSecs task.drainTimeoutSecs.toNat) }
  | .sleeping wake =>
    if wake ≤ now then
      let stillActive := backendAddresses current
      { task with stage := .evicting (task.removedAddrs.filter fun addr => addr ∉ stillActive) }
    else
      task
  | .evicting _ => { task with stage := .done }
  | .done => task

end DrainTask

/-- The routing state, the drain tasks and the pool, at a time. -/
structure DrainSystem where
  now : Instant
  reloadable : Watch ReloadableState
  tasks : List DrainTask
  pool : PooledConnections

inductive DrainAction where
  | pass (time : Duration)
  /-- A reload publishes the state of a configuration. -/
  | reload (config : ReductionConfig)
  | poll (i : Nat)

namespace DrainSystem

/-- The part of `apply_config_reload` that has to do with draining.  Without pools nothing is
    published. -/
def reload (sys : DrainSystem) (config : ReductionConfig) : DrainSystem :=
  match config.reloadableState with
  | .error _ => sys
  | .ok state =>
    let removedAddrs := (diffRemovedBackends sys.reloadable.value state).1
    { sys with
      reloadable := sys.reloadable.send state
      tasks :=
        if removedAddrs.isEmpty then sys.tasks
        else sys.tasks ++ [spawnBackendDrain removedAddrs config.balancer.drainTimeoutSecs] }

def step (sys : DrainSystem) : DrainAction → DrainSystem
  | .pass time => { sys with now := sys.now + time }
  | .reload config => sys.reload config
  | .poll i =>
    match sys.tasks[i]? with
    | none => sys
    | some task =>
      { sys with
        tasks := sys.tasks.set i (task.poll sys.now sys.reloadable.value)
        pool := sys.pool.drainBackends task.evicts }

end DrainSystem

end Reduction
