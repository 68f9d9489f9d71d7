import Reduction.Native.Config
import Reduction.Native.ConnPool
import Reduction.Native.Handler

/-!
# Configuration reload

Model of `src/config_reload.rs` and `src/proxy/router.rs`: the routing state that
a configuration gives rise to, and the steps in which a reload replaces it.

`apply_config_reload` first publishes the new routing state, then flushes the
response cache if routing changed, and last forgets the circuit breakers of what
was removed.  Requests run between these steps, so each has its own function.
Left out are the request queues and the connections that are dialled in advance;
the pooled connections that are drained are in `Native/Drain`.
-/

namespace Reduction

/-! ## Routing -/

structure Router where
  routes : List RouteConfig

namespace Router

/-- `Router::new`: longer path prefixes are tried first, in a stable order. -/
def new (routes : List RouteConfig) : Router :=
  { routes := routes.mergeSort fun a b =>
      b.pathPrefix.bytes.length ≤ a.pathPrefix.bytes.length }

/-- A path matches a route at a path boundary only. -/
def matchesRoute (path : Bytes) (route : RouteConfig) : Bool :=
  let start := route.pathPrefix.bytes
  start.isPrefixOf path &&
    (path.length == start.length || start.getLast? == some 47 || path[start.length]? == some 47)

def matchRoute (router : Router) (path : Bytes) : Option RouteMatch :=
  (router.routes.find? (matchesRoute path)).map fun route =>
    { backendId := route.backendId, timeoutSecs := route.timeoutSecs }

/-- The condition in the loop of `match_route`, as it is evaluated: `none` if the path is indexed
    out of bounds, where the source panics. -/
def matchesRoute? (path : Bytes) (route : RouteConfig) : Option Bool :=
  let start := route.pathPrefix.bytes
  if start.isPrefixOf path then
    if path.length == start.length || start.getLast? == some 47 then some true
    else path[start.length]?.map (· == 47)
  else
    some false

/-- The loop of `match_route`, where it can panic. -/
def matchRoute? (path : Bytes) : List RouteConfig → Option (Option RouteMatch)
  | [] => some none
  | route :: rest =>
    match matchesRoute? path route with
    | none => none
    | some true => some (some { backendId := route.backendId, timeoutSecs := route.timeoutSecs })
    | some false => matchRoute? path rest

end Router

structure ReloadableState where
  router : Router
  backendPools : DashMap BackendId BackendPool
  acl : AccessControl

namespace ReductionConfig

variable (config : ReductionConfig)

/-- The backends of the pool that a route names. -/
def poolBackends (backendId : BackendId) : List BackendConfig :=
  config.backends.filter fun b => b.pool.bytes == backendId.bytes

/-- One round of `build_backend_pools`. -/
def addPool (pools : DashMap BackendId BackendPool) (route : RouteConfig) :
    Except ReductionError (DashMap BackendId BackendPool) :=
  if (pools.get route.backendId).isSome || (config.poolBackends route.backendId).isEmpty then
    .ok pools
  else do
    let pool ← BackendPool.withMax (config.poolBackends route.backendId) config.balancer.maxBackends
    .ok (pools.insert route.backendId pool)

def buildBackendPools : Except ReductionError (DashMap BackendId BackendPool) :=
  config.routes.foldlM config.addPool ∅

/-- The state that a reload publishes, and startup begins with. -/
def reloadableState : Except ReductionError ReloadableState := do
  let backendPools ← config.buildBackendPools
  .ok
    { router := .new config.routes
      backendPools
      acl := .new config.access.allow config.access.deny }

end ReductionConfig

/-! ## What a reload removes -/

/-- `backend_addresses`. -/
def backendAddresses (state : ReloadableState) : List SocketAddr :=
  (state.backendPools.entries.flatMap fun e => e.2.backends.map BackendConfig.address).dedup

/-- `diff_removed_backends`: the addresses and the pools that are gone. -/
def diffRemovedBackends (old new : ReloadableState) : List SocketAddr × List BackendId :=
  ((backendAddresses old).filter fun addr => addr ∉ backendAddresses new,
    old.backendPools.keys.filter fun id => (new.backendPools.get id).isNone)

/-! ## The reload task -/

/-- What the reload task works on: the channels it sends on, the parts of `ProxyState` it cleans up,
    and the routing that it last saw. -/
structure ReloadTask where
  reloadable : Watch ReloadableState
  revocation : Watch RevocationSet
  cache : ResponseCache
  breakers : CircuitBreakers
  prevRoutes : List RouteConfig
  prevBackends : List BackendConfig

/-- A reload that has been published, with what is left to do. -/
structure PendingReload where
  config : ReductionConfig
  removedBackendIds : List BackendId

namespace ReloadTask

/-- The task at startup. -/
def start (config : ReductionConfig) (cache : ResponseCache) (breakers : CircuitBreakers)
    (revocation : RevocationSet) : Except ReductionError ReloadTask := do
  let state ← config.reloadableState
  .ok
    { reloadable := .channel state
      revocation := .channel revocation
      cache
      breakers
      prevRoutes := config.routes
      prevBackends := config.backends }

/-- The revocation file is read again: `none` without a configured path, and an inner `none` is a file
    that cannot be loaded, which leaves the set in force. -/
def rereadRevocation (t : ReloadTask) : Option (Option RevocationSet) → ReloadTask
  | some (some set) => { t with revocation := t.revocation.send set }
  | _ => t

/-- The reload up to the publication.  Without pools nothing is published. -/
def publish (t : ReloadTask) (config : ReductionConfig)
    (revocationFile : Option (Option RevocationSet)) : ReloadTask × Option PendingReload :=
  let t := t.rereadRevocation revocationFile
  match config.reloadableState with
  | .error _ => (t, none)
  | .ok state =>
    ({ t with reloadable := t.reloadable.send state },
      some { config, removedBackendIds := (diffRemovedBackends t.reloadable.value state).2 })

/-- `routing_changed`. -/
def routingChanged (t : ReloadTask) (config : ReductionConfig) : Bool :=
  config.routes ≠ t.prevRoutes || config.backends ≠ t.prevBackends

/-- The response cache is flushed on a change of routing only. -/
def flush (t : ReloadTask) (pending : PendingReload) : ReloadTask :=
  if t.routingChanged pending.config then
    { t with
      cache := t.cache.clear
      prevRoutes := pending.config.routes
      prevBackends := pending.config.backends }
  else
    t

/-- The state of removed backends is dropped. -/
def cleanUp (t : ReloadTask) (pending : PendingReload) : ReloadTask :=
  { t with
    breakers := pending.removedBackendIds.foldl (fun cb id => cb.removeBackend id.bytes) t.breakers }

/-- `apply_config_reload`, with no request in between. -/
def applyConfigReload (t : ReloadTask) (config : ReductionConfig)
    (revocationFile : Option (Option RevocationSet)) : ReloadTask :=
  match t.publish config revocationFile with
  | (t, none) => t
  | (t, some pending) => (t.flush pending).cleanUp pending

end ReloadTask

end Reduction
