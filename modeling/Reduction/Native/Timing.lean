import Reduction.Native.Handler

/-!
# The time that an attempt takes

The awaited steps of an attempt and the limit that the source puts on each: the
dial of `conn_pool.acquire` (`src/proxy/pool.rs`, `pool/plaintext.rs` and
`pool/quic.rs`), the send of `forward_request`, the backoff and the wake of
`handle_forward_error`.  The collecting of a response in `store_and_respond` has
no limit.  What is computed between the steps takes no time.
-/

namespace Reduction

open Http

/-- `READY_TIMEOUT`. -/
def readyTimeout : Duration := Duration.fromMillis 50

/-- How long the awaited steps of an attempt take, each if the attempt comes to it. -/
structure AttemptTimes where
  /-- The probe of a pooled connection. -/
  ready : Duration
  connect : Duration
  /-- The TLS handshake, or the opening of a QUIC stream. -/
  handshake : Duration
  /-- The HTTP handshake. -/
  http : Duration
  send : Duration
  backoff : Duration
  wake : Duration
  /-- The body of a response that is stored. -/
  collect : Duration

/-- The time of `conn_pool.acquire`. -/
def AttemptTimes.dial (t : AttemptTimes) : Duration := t.ready + t.connect + t.handshake + t.http

/-- The time that passes where the event is made. -/
def Event.takes (ctx : RequestCtx) (t : AttemptTimes) : Event → Duration
  | .forward _ _ => t.dial
  | .sent _ _ _ => t.send
  | .answered _ (.ok response) =>
    -- `store_and_respond` collects the body before anything else
    if shouldCacheResponse ctx response response.status (.fromResponse response.headers) then
      t.collect
    else
      0
  | .slept _ => t.backoff
  | .parked _ _ => t.wake
  | _ => 0

/-- The steps that are awaited at the event keep to their limits. -/
def Event.keepsLimits (state : ProxyState) (t : AttemptTimes) : Event → Bool
  | .forward _ _ =>
    let handshake := Duration.fromSecs state.timeouts.handshakeSecs.val.toNat
    t.ready ≤ readyTimeout && t.connect ≤ Duration.fromSecs state.timeouts.connectSecs.val.toNat &&
      t.handshake ≤ handshake && t.http ≤ handshake
  | .sent _ _ timeout => t.send ≤ timeout
  | .slept d => t.backoff ≤ d
  | .parked _ _ => t.wake ≤ Duration.fromSecs state.proxyConfig.wakeTimeoutSecs.val.toNat
  | _ => true

/-- The time that the events take together. -/
def timeOf (ctx : RequestCtx) (t : AttemptTimes) (es : List Event) : Duration :=
  (es.map (Event.takes ctx t)).sum

/-- The time of an attempt, out of those of all attempts. -/
def AttemptLog.takes (ctx : RequestCtx) (times : Nat → AttemptTimes) (log : AttemptLog) : Duration :=
  timeOf ctx (times log.attempt) log.events

/-- When the loop is through, if it was entered at `start`. -/
def returnedAt (start : Instant) (ctx : RequestCtx) (times : Nat → AttemptTimes)
    (logs : List AttemptLog) : Instant :=
  start + (logs.map (AttemptLog.takes ctx times)).sum

end Reduction
