import Reduction.Native.Batch
import Reduction.Native.Health

/-!
# UDP ingress

Model of `src/ingress/udp.rs` with its writers (`src/ingress/udp/writer.rs`) and
counters (`src/ingress/udp/metrics.rs`): a worker receives datagrams, admits
them, selects a backend for each and collects them in batches; a full or expired
batch goes through a bounded queue to the backend's writer, which dials the
backend when it has to and writes the batch as one frame.

The functions of a writer are cut at every `await`, where other tasks may run.
-/

namespace Reduction

/-! ## Counters -/

inductive DropReason where
  | acl
  | rateLimit
  | oversize
  | noBackend
  | backpressure
  | circuitOpen
  | protocol
deriving DecidableEq

def DropReason.all : List DropReason :=
  [.acl, .rateLimit, .oversize, .noBackend, .backpressure, .circuitOpen, .protocol]

structure IngressCounters where
  received : Nat
  relayed : Nat
  dropped : DropReason → Nat

namespace IngressCounters

def new : IngressCounters := { received := 0, relayed := 0, dropped := fun _ => 0 }

def recordReceived (c : IngressCounters) : IngressCounters := { c with received := c.received + 1 }

def recordRelayed (c : IngressCounters) (count : Nat) : IngressCounters :=
  { c with relayed := c.relayed + count }

def recordDrop (c : IngressCounters) (reason : DropReason) (count : Nat) : IngressCounters :=
  { c with dropped := Function.update c.dropped reason (c.dropped reason + count) }

/-- The datagrams counted over all drop reasons. -/
def totalDropped (c : IngressCounters) : Nat := (DropReason.all.map c.dropped).sum

end IngressCounters

/-! ## Writers -/

/-- `WriterState`; `W` is the type of the backend's streams. -/
structure WriterState (W : Type) where
  stream : Option W
  attempt : UInt32
  cooldownUntil : Option Instant

/-- Where a writer stands: waiting for a batch, or inside `write_batch` with the batch in hand and,
    behind the circuit check, with the guard of a probe. -/
inductive WriterStage where
  | idle
  | holding (datagrams : List Datagram)
  | dialing (datagrams : List Datagram) (guard : Option HalfOpenGuard)
  | writing (datagrams : List Datagram) (guard : Option HalfOpenGuard)
deriving DecidableEq

/-- The batch in a writer's hands. -/
def WriterStage.inHand : WriterStage → List Datagram
  | .idle => []
  | .holding datagrams | .dialing datagrams _ | .writing datagrams _ => datagrams

structure BackendWriter (W : Type) where
  backend : BackendConfig
  ingressId : ArrayString 64
  worker : UInt16
  retry : RetryConfig
  state : WriterState W
  stage : WriterStage

/-- What the writers of a listener share with each other and with the worker. -/
structure IngressShared where
  circuit : CircuitBreakers
  counters : IngressCounters

namespace IngressShared

def recordDrop (sh : IngressShared) (reason : DropReason) (count : Nat) : IngressShared :=
  { sh with counters := sh.counters.recordDrop reason count }

/-- The guard of a probe goes out of scope. -/
def dropGuard (sh : IngressShared) : Option HalfOpenGuard → IngressShared
  | some g => { sh with circuit := sh.circuit.dropGuard g }
  | none => sh

end IngressShared

namespace BackendWriter

variable {W : Type} [AsyncWrite W] (codec : Bitcode Envelope)

/-- `dial`, on a stream that the connection pool gave or failed to give. -/
def dial (w : BackendWriter W) (acquired : Except ReductionError W) : Except ReductionError W := do
  let stream ← acquired
  let stream ← IngressProtocol.writePreamble stream
  IngressProtocol.writeFrame codec stream (.hello w.ingressId w.worker)

/-- `saturating_add(1)`. -/
def nextAttempt (attempt : UInt32) : UInt32 :=
  if attempt = 0xffffffff then attempt else attempt + 1

/-- `on_failure`: the stream is given up, and the next dial waits for the backoff. -/
def onFailure (w : BackendWriter W) (sh : IngressShared) (count : Nat) (now : Instant)
    (draw : Nat) : BackendWriter W × IngressShared :=
  let attempt := nextAttempt w.state.attempt
  ({ w with
    state :=
      { stream := none
        attempt
        cooldownUntil := some (now + backoffDelay (attempt.toNat - 1) w.retry draw) }
    stage := .idle },
   { circuit := sh.circuit.recordFailure w.backend.id.bytes now
     counters := sh.counters.recordDrop .protocol count })

/-- `write_batch` up to its first `await`: the circuit gate and the backoff window. -/
def gate (w : BackendWriter W) (sh : IngressShared) (datagrams : List Datagram) (now : Instant) :
    BackendWriter W × IngressShared :=
  if datagrams.isEmpty then
    ({ w with stage := .idle }, sh)
  else
    let count := datagrams.length
    let (circuit, circuitState, guard) := sh.circuit.check w.backend.id.bytes now
    let sh := { sh with circuit }
    if circuitState = .open then
      ({ w with stage := .idle }, (sh.recordDrop .circuitOpen count).dropGuard guard)
    else if w.state.cooldownUntil.any fun cooldown => now < cooldown then
      ({ w with stage := .idle }, (sh.recordDrop .circuitOpen count).dropGuard guard)
    else if w.state.stream.isNone then
      ({ w with stage := .dialing datagrams guard }, sh)
    else
      ({ w with stage := .writing datagrams guard }, sh)

/-- `write_batch` when the dial has ended. -/
def dialed (w : BackendWriter W) (sh : IngressShared) (datagrams : List Datagram)
    (guard : Option HalfOpenGuard) (acquired : Except ReductionError W) (now : Instant)
    (draw : Nat) : BackendWriter W × IngressShared :=
  match w.dial codec acquired with
  | .ok stream =>
    ({ w with
      state := { stream := some stream, attempt := 0, cooldownUntil := none }
      stage := .writing datagrams guard },
     { sh with circuit := sh.circuit.recordSuccess w.backend.id.bytes })
  | .error _ =>
    let (w, sh) := w.onFailure sh datagrams.length now draw
    (w, sh.dropGuard guard)

/-- `write_batch` when the frame has been written, or not. -/
def written (w : BackendWriter W) (sh : IngressShared) (datagrams : List Datagram)
    (guard : Option HalfOpenGuard) (now : Instant) (draw : Nat) :
    BackendWriter W × IngressShared :=
  match w.state.stream with
  | none => ({ w with stage := .idle }, (sh.recordDrop .protocol datagrams.length).dropGuard guard)
  | some stream =>
    match IngressProtocol.writeFrame codec stream (.batch datagrams) with
    | .ok stream =>
      ({ w with state := { w.state with stream := some stream, attempt := 0 }, stage := .idle },
       { circuit := sh.circuit.recordSuccess w.backend.id.bytes
         counters := sh.counters.recordRelayed datagrams.length : IngressShared }.dropGuard guard)
    | .error _ =>
      let (w, sh) := w.onFailure sh datagrams.length now draw
      (w, sh.dropGuard guard)

end BackendWriter

/-- A backend's queue and its writer, until the writer has finished; with the writer goes the
    receiving end. -/
structure Lane (W : Type) where
  channel : Channel (List Datagram)
  writer : Option (BackendWriter W)
  gone_closed : writer = none → channel.closed = true

namespace Lane

variable {W : Type}

/-- `try_send`, on the lane's queue. -/
def trySend (lane : Lane W) (datagrams : List Datagram) : Except TrySendError (Lane W) :=
  match h : lane.channel.trySend datagrams with
  | .ok channel =>
    .ok
      { lane with
        channel
        gone_closed := fun hgone => by
          rw [(Channel.trySend_ok h).2]
          exact lane.gone_closed hgone }
  | .error e => .error e

/-- The writer after one of its functions. -/
def withWriter (lane : Lane W) (writer : BackendWriter W) : Lane W :=
  { lane with writer := some writer, gone_closed := fun h => by cases h }

/-- The `recv` branch of `run`. -/
def dequeue (lane : Lane W) : Option (Lane W) :=
  match lane.writer, lane.channel.recv with
  | some writer, some (datagrams, channel) =>
    match writer.stage with
    | .idle =>
      some
        { channel
          writer := some { writer with stage := .holding datagrams }
          gone_closed := fun h => by cases h }
    | _ => none
  | _, _ => none

/-- `run` returns, and what is still queued is dropped. -/
def finish (lane : Lane W) : Lane W :=
  { channel := lane.channel.close, writer := none, gone_closed := fun _ => rfl }

/-- `run` is at its `select!`. -/
def isIdle (lane : Lane W) : Bool :=
  match lane.writer with
  | some writer => writer.stage = .idle
  | none => false

end Lane

/-! ## The worker -/

abbrev Lanes (W : Type) := DashMap BackendId (Lane W)

/-- `admit`: the access rules, then the rate limit, then the size. -/
def admitDatagram (acl : AccessControl) (rateLimited : Bool) (peer : IpAddr) (payloadLen : Nat)
    (maxDatagramBytes : UInt32) : Except DropReason Unit :=
  if !(acl.check peer).toBool then
    .error .acl
  else if rateLimited then
    .error .rateLimit
  else if maxDatagramBytes.toNat < payloadLen then
    .error .oversize
  else
    .ok ()

/-- `enqueue_batch`: never waits, and a batch that is not taken is counted. -/
def enqueueBatch {W : Type} (lanes : Lanes W) (id : BackendId) (lane : Lane W)
    (datagrams : List Datagram) (sh : IngressShared) : Lanes W × IngressShared :=
  if datagrams.isEmpty then
    (lanes, sh)
  else
    match lane.trySend datagrams with
    | .ok lane => (lanes.insert id lane, sh)
    | .error .full => (lanes, sh.recordDrop .backpressure datagrams.length)
    | .error .closed => (lanes, sh.recordDrop .noBackend datagrams.length)

/-- A datagram as it comes off the socket, with what else its handling reads: whether the peer's
    rate is exhausted, the health reports, the logarithm and the two clocks. -/
structure Arrival where
  payload : Bytes
  src : SocketAddr
  rateLimited : Bool
  health : HealthState
  ln : F64 → F64
  now : Instant
  unixNanos : UInt64

/-- The datagram that is put into a batch. -/
def Arrival.datagram (a : Arrival) : Datagram :=
  { peer := .fromSocketAddr a.src, recvAtUnixNanos := a.unixNanos, payload := a.payload }

structure UdpIngress where
  acl : AccessControl
  pool : BackendPool
  limits : BatchLimits
  maxDatagramBytes : UInt32
  batches : DashMap BackendId Batch
  ingressId : ArrayString 64

namespace UdpIngress

variable {W : Type}

def flushBackend (ui : UdpIngress) (lanes : Lanes W) (sh : IngressShared) (id : BackendId) :
    UdpIngress × Lanes W × IngressShared :=
  match ui.batches.get id with
  | none => (ui, lanes, sh)
  | some batch =>
    if batch.isEmpty then
      (ui, lanes, sh)
    else
      let (batch, datagrams) := batch.take
      let ui := { ui with batches := ui.batches.insert id batch }
      match lanes.get id with
      | some lane => (ui, enqueueBatch lanes id lane datagrams sh)
      | none => (ui, lanes, sh.recordDrop .noBackend datagrams.length)

/-- The loops of `flush_expired` and `flush_all`. -/
def flushEach (ui : UdpIngress) (lanes : Lanes W) (sh : IngressShared) (ids : List BackendId) :
    UdpIngress × Lanes W × IngressShared :=
  ids.foldl (fun s id => s.1.flushBackend s.2.1 s.2.2 id) (ui, lanes, sh)

def flushExpired (ui : UdpIngress) (lanes : Lanes W) (sh : IngressShared) (now : Instant) :
    UdpIngress × Lanes W × IngressShared :=
  ui.flushEach lanes sh
    ((ui.batches.entries.filter fun e => e.2.lingerExpired ui.limits now).map Sigma.fst)

def flushAll (ui : UdpIngress) (lanes : Lanes W) (sh : IngressShared) :
    UdpIngress × Lanes W × IngressShared :=
  ui.flushEach lanes sh ui.batches.keys

/-- `self.pool.select(peer_ip, &health)`. -/
def selectFor (ui : UdpIngress) (a : Arrival) : Option BackendConfig :=
  ui.pool.select a.src.ip (a.health.weightFactor a.now) a.ln

/-- `batches.entry(backend_id).or_default()`, with the datagram pushed. -/
def batchWith (ui : UdpIngress) (id : BackendId) (a : Arrival) : Batch :=
  ((ui.batches.get id).getD .new).push a.now a.datagram

def handleDatagram (ui : UdpIngress) (lanes : Lanes W) (sh : IngressShared) (a : Arrival) :
    UdpIngress × Lanes W × IngressShared :=
  let sh := { sh with counters := sh.counters.recordReceived }
  match admitDatagram ui.acl a.rateLimited a.src.ip a.payload.length ui.maxDatagramBytes with
  | .error reason => (ui, lanes, sh.recordDrop reason 1)
  | .ok () =>
    match ui.selectFor a with
    | none => (ui, lanes, sh.recordDrop .noBackend 1)
    | some backend =>
      let batch := ui.batchWith backend.id a
      let ui := { ui with batches := ui.batches.insert backend.id batch }
      if (batch.fillFlush ui.limits).isSome then
        ui.flushBackend lanes sh backend.id
      else
        (ui, lanes, sh)

/-- `apply_reload`: the entry of the same id, if it is still there, sets the limits; the flag says
    that the linger interval is to be started anew. -/
def applyReload (ui : UdpIngress) (cfg : ReductionConfig) : UdpIngress × Bool :=
  match cfg.ingress.find? fun entry => entry.id = ui.ingressId with
  | none => (ui, false)
  | some entry =>
    let newLinger := Duration.fromMillis entry.lingerMs.toNat
    ({ ui with
      limits :=
        { maxDatagrams := entry.batchMaxDatagrams
          maxBytes := entry.batchMaxBytes
          linger := newLinger }
      maxDatagramBytes := entry.maxDatagramBytes },
     ui.limits.linger ≠ newLinger)

end UdpIngress

/-! ## Startup -/

/-- What a listener is started with.  `UdpIngressParams` also holds the connection pool and the
    channels, which the environment's answers stand for here. -/
structure UdpIngressParams where
  config : IngressConfig
  backends : List BackendConfig
  acl : AccessControl
  circuit : CircuitBreakers
  retry : RetryConfig
  maxBackends : UInt32

/-- `run` is in its loop, has left it, or is gone with a panic. -/
inductive Worker where
  | running (ui : UdpIngress)
  | finished
  | panicked

/-- One worker of a listener with its writers. -/
structure IngressState (W : Type) where
  worker : Worker
  lanes : Lanes W
  shared : IngressShared
  shutdown : Bool

namespace UdpIngressParams

variable (params : UdpIngressParams) {W : Type}

def limits : BatchLimits :=
  { maxDatagrams := params.config.batchMaxDatagrams
    maxBytes := params.config.batchMaxBytes
    linger := Duration.fromMillis params.config.lingerMs.toNat }

/-- The queue of a backend with its new writer. -/
def lane (worker : UInt16) (backend : BackendConfig) : Lane W :=
  { channel := .new params.config.queueDepthPerBackend.toNat
    writer := some
      { backend
        ingressId := params.config.id
        worker
        retry := params.retry
        state := { stream := none, attempt := 0, cooldownUntil := none }
        stage := .idle }
    gone_closed := fun h => by cases h }

/-- `tokio::time::interval(limits.linger)` panics on a period of zero. -/
def startWorker (ui : UdpIngress) : Worker := if ui.limits.linger = 0 then .panicked else .running ui

/-- `spawn_worker`: the writers and the receive loop. -/
def spawnWorker (pool : BackendPool) (worker : UInt16) : IngressState W :=
  { worker := startWorker
      { acl := params.acl
        pool
        limits := params.limits
        maxDatagramBytes := params.config.maxDatagramBytes
        batches := ∅
        ingressId := params.config.id }
    lanes := params.backends.foldl
      (fun lanes backend => lanes.insert backend.id (params.lane worker backend)) ∅
    shared := { circuit := params.circuit, counters := .new }
    shutdown := false }

/-- `spawn_udp_ingress`, for one worker; its socket is bound. -/
def spawnUdpIngress (worker : UInt16) : Except ReductionError (IngressState W) := do
  let pool ← BackendPool.withMax params.backends params.maxBackends
  .ok (params.spawnWorker pool worker)

end UdpIngressParams

end Reduction
