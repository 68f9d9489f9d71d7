import Reduction.Native.Config

/-!
# The configuration watcher

Model of `src/config/watcher.rs`: a changed file is loaded, validated and
published, with a report of the sections whose change takes effect on a restart
only.
-/

namespace Reduction

/-- The derived `PartialEq`: a ratio that is not a number is not even equal to itself. -/
def TracingConfig.eq (a b : TracingConfig) : Bool :=
  a.otlpEndpoint = b.otlpEndpoint && a.sampleRatio.le b.sampleRatio &&
    b.sampleRatio.le a.sampleRatio

/-- `restart_required_sections`: the names of the sections that differ. -/
def restartRequiredSections (old new : ReductionConfig) : List String :=
  let sections : List (Bool × String) :=
    [(old.listen.address ≠ new.listen.address, "listen.address"),
     (old.listen.transport ≠ new.listen.transport, "listen.transport"),
     (old.tls.server ≠ new.tls.server, "tls.server (paths; file contents hot-reload)"),
     (old.tls.client ≠ new.tls.client, "tls.client (paths; file contents hot-reload)"),
     (old.timeouts ≠ new.timeouts, "timeouts"),
     (old.proxy ≠ new.proxy, "proxy"),
     (old.compression ≠ new.compression, "compression"),
     (old.health ≠ new.health, "health"),
     (old.ratelimit ≠ new.ratelimit, "ratelimit"),
     (old.metrics ≠ new.metrics, "metrics"),
     (old.circuitBreaker ≠ new.circuitBreaker, "circuit_breaker"),
     (old.retry ≠ new.retry, "retry"),
     (!old.tracing.eq new.tracing, "tracing"),
     (old.tunnel ≠ new.tunnel, "tunnel (revocation file contents hot-reload)"),
     (old.cache ≠ new.cache, "cache"),
     (old.balancer.queueDepth ≠ new.balancer.queueDepth, "balancer.queue_depth"),
     (old.rawRelayAuthz ≠ new.rawRelayAuthz, "raw_relay_authz")]
  (sections.filter Prod.fst).map Prod.snd

/-- `reload_config`, on what the file holds: the channel after it, and the sections it warns of. -/
def reloadConfig (loaded : Except ReductionError ReductionConfig)
    (configTx : Watch ReductionConfig) :
    Except ReductionError (Watch ReductionConfig × List String) := do
  let newConfig ← loaded
  newConfig.validate
  .ok (configTx.send newConfig, restartRequiredSections configTx.value newConfig)

end Reduction
