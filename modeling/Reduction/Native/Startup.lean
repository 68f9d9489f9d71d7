import Reduction.Native.ConfigReload
import Reduction.Native.TcpIngress
import Reduction.Native.UdpIngress

/-!
# Startup

Model of `spawn_ingress_listeners` (`src/startup/background.rs`): every ingress
entry gets its listener, with backends and access rules copied from the
configuration at startup.  A UDP worker also follows the configuration channel.
-/

namespace Reduction

variable {W : Type}

/-- A worker, and the version of the configuration that it has seen. -/
structure UdpWorker (W : Type) where
  state : IngressState W
  seen : Nat

/-- `resolve_worker_count`, on Linux; no count asks for one worker per core. -/
def resolveWorkerCount (configured : UInt32) (parallelism : Nat) : Nat :=
  max 1 (if configured = 0 then parallelism else configured.toNat)

/-- `spawn_udp_ingress`, for all workers of the listener. -/
def UdpIngressParams.spawnWorkers (params : UdpIngressParams) (parallelism : Nat) :
    Except ReductionError (List (UdpWorker W)) := do
  let pool ← BackendPool.withMax params.backends params.maxBackends
  .ok ((List.range (resolveWorkerCount params.config.workers parallelism)).map fun worker =>
    { state := params.spawnWorker pool (.ofNat (min worker 0xffff)), seen := 0 })

/-- The listeners of all ingress entries. -/
structure IngressListeners (W : Type) where
  udp : List (UdpWorker W)
  tcp : List TcpIngress

namespace ReductionConfig

variable (config : ReductionConfig)

/-- The access rules of the configuration. -/
def acl : AccessControl := .new config.access.allow config.access.deny

/-- The backends that an ingress entry names. -/
def ingressBackends (entry : IngressConfig) : List BackendConfig :=
  config.backends.filter fun b => entry.backendIds.any fun id => id.bytes == b.id.bytes

/-- One round of `spawn_ingress_listeners`. -/
def spawnIngressListener (parallelism : Nat) (listeners : IngressListeners W)
    (entry : IngressConfig) : Except ReductionError (IngressListeners W) :=
  match entry.protocol with
  | .udp => do
    let params : UdpIngressParams :=
      { config := entry
        backends := config.ingressBackends entry
        acl := config.acl
        circuit := .new config.circuitBreaker
        retry := config.retry
        maxBackends := config.balancer.maxBackends }
    let workers ← params.spawnWorkers parallelism
    .ok { listeners with udp := listeners.udp ++ workers }
  | .tcp => do
    let params : TcpIngressParams :=
      { config := entry
        backends := config.ingressBackends entry
        acl := config.acl
        maxBackends := config.balancer.maxBackends }
    let listener ← params.spawnTcpIngress
    .ok { listeners with tcp := listeners.tcp ++ [listener] }

def spawnIngressListeners (parallelism : Nat) : Except ReductionError (IngressListeners W) :=
  config.ingress.foldlM (config.spawnIngressListener parallelism) { udp := [], tcp := [] }

end ReductionConfig

/-- The tasks that work with a configuration: the reload task, between reading a configuration and
    applying it, and the ingress listeners. -/
structure Process (W : Type) where
  config : Watch ReductionConfig
  task : ReloadTask
  taskSeen : Nat
  pending : Option ReductionConfig
  listeners : IngressListeners W

/-- The process after startup. -/
def Process.start (config : ReductionConfig) (cache : ResponseCache) (revocation : RevocationSet)
    (parallelism : Nat) : Except ReductionError (Process W) := do
  let task ← ReloadTask.start config cache (.new config.circuitBreaker) revocation
  let listeners ← config.spawnIngressListeners parallelism
  .ok { config := .channel config, task, taskSeen := 0, pending := none, listeners }

end Reduction
