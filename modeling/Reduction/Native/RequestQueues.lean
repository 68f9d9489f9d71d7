import Reduction.Native.ConfigReload

/-!
# Request queues

Model of `src/balancer/queue.rs`, and of how requests and reloads use the queues of
`ProxyState`: the rest of `route_and_admit` in `src/proxy/handler.rs`, and the loop over
the removed pools in `apply_config_reload`.

A queue is shared: the map, a request that looked it up and every permit refer to one
object, which lives on when the map lets go of it.  So the objects are in a list that
only grows, and what refers to one has its place there.
-/

namespace Reduction

/-- The semaphore of a queue. -/
structure RequestQueue where
  available : Nat
deriving DecidableEq

namespace RequestQueue

def new (maxDepth : UInt32) : RequestQueue := { available := maxDepth.toNat }

/-- `try_acquire_owned`, where `none` is `QueueFull`. -/
def tryAcquireOwned (q : RequestQueue) : Option RequestQueue :=
  if q.available = 0 then none else some { available := q.available - 1 }

/-- A permit is dropped. -/
def release (q : RequestQueue) : RequestQueue := { available := q.available + 1 }

end RequestQueue

/-- A request of a pool on its way through the queue. -/
inductive QueuedRequest where
  | resolved (backendId : BackendId)
  /-- It has cloned the `Arc` of the queue. -/
  | queued (backendId : BackendId) (queue : Nat)
  /-- It holds a permit of the queue, to the end of the response body. -/
  | admitted (backendId : BackendId) (queue : Nat)
  | ended
deriving DecidableEq

structure RequestQueues where
  reloadable : ReloadableState
  /-- `default_queue_depth` of `ProxyState`, which a reload does not change. -/
  defaultQueueDepth : UInt32
  objects : List RequestQueue
  queues : DashMap BackendId Nat
  requests : List QueuedRequest
  /-- The queues that a published reload has still to remove. -/
  removedBackendIds : List BackendId

inductive QueueAction where
  /-- A request for the path resolves its pool. -/
  | request (path : Bytes)
  /-- A request takes its next step. -/
  | advance (i : Nat)
  | publish (config : ReductionConfig)
  | removeQueue

namespace RequestQueues

def start (reloadable : ReloadableState) (depth : UInt32) : RequestQueues :=
  { reloadable
    defaultQueueDepth := depth
    objects := []
    queues := ∅
    requests := []
    removedBackendIds := [] }

/-- `queues.entry(id).or_insert_with(..).clone()`. -/
def entry (s : RequestQueues) (id : BackendId) : RequestQueues × Nat :=
  match s.queues.get id with
  | some queue => (s, queue)
  | none =>
    ({ s with
        objects := s.objects ++ [.new s.defaultQueueDepth]
        queues := s.queues.insert id s.objects.length },
      s.objects.length)

def advance (s : RequestQueues) (i : Nat) : QueuedRequest → RequestQueues
  | .resolved id =>
    let (s, queue) := s.entry id
    { s with requests := s.requests.set i (.queued id queue) }
  | .queued id queue =>
    match s.objects[queue]?.bind RequestQueue.tryAcquireOwned with
    | some q =>
      { s with
        objects := s.objects.set queue q
        requests := s.requests.set i (.admitted id queue) }
    | none => { s with requests := s.requests.set i .ended }
  | .admitted _ queue =>
    { s with
      objects := s.objects.modify queue RequestQueue.release
      requests := s.requests.set i .ended }
  | .ended => s

def step (s : RequestQueues) : QueueAction → RequestQueues
  | .request path =>
    match s.reloadable.router.matchRoute path with
    | some m =>
      match s.reloadable.backendPools.get m.backendId with
      | some _ => { s with requests := s.requests ++ [.resolved m.backendId] }
      | none => s
    | none => s
  | .advance i =>
    match s.requests[i]? with
    | some request => s.advance i request
    | none => s
  -- the reload task takes on a configuration when it is done with the one before
  | .publish config =>
    match s.removedBackendIds, config.reloadableState with
    | [], .ok new =>
      { s with
        reloadable := new
        removedBackendIds := (diffRemovedBackends s.reloadable new).2 }
    | _, _ => s
  | .removeQueue =>
    match s.removedBackendIds with
    | [] => s
    | id :: ids => { s with queues := s.queues.remove id, removedBackendIds := ids }

end RequestQueues

end Reduction
