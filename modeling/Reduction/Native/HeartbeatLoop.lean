import Reduction.Native.BodyStream
import Reduction.Native.ControlLoop

/-!
# The control loop in time

Model of when `run_control_loop` in `src/tunnel/listener.rs` takes which branch of
its `select!`.  What a branch then does is in `Reduction.Native.ControlLoop`.

The bytes of the control stream have times of arrival, and the loop runs at times
that someone else chooses: an iteration may be late because the task was not
scheduled, or because the ack of a heartbeat was written slowly.  `timeout_at`
polls `read_frame` before its timer, and `select!` polls its branches in turn from
a random one on.
-/

namespace Reduction

open Framing

/-- The reading side of a control stream: the bytes that are still to be read, and when it ends. -/
structure ControlStream where
  bytes : List (Instant × UInt8)
  closedAt : Option Instant

namespace ControlStream

def arrived (s : ControlStream) (now : Instant) : Bytes :=
  (s.bytes.takeWhile fun b => b.1 ≤ now).map Prod.snd

def ended (s : ControlStream) (now : Instant) : Bool :=
  (s.bytes.all fun b => b.1 ≤ now) && s.closedAt.any fun t => t ≤ now

/-- `read_frame` has read what has arrived and waits for more. -/
def incomplete (arrived : Bytes) : Bool :=
  match readExact lengthPrefixSize arrived with
  | .error _ => true
  | .ok (lenBuf, rest) =>
    (fromBeBytes lenBuf).toNat ≤ TunnelProtocol.maxFrameSize &&
      rest.length < (fromBeBytes lenBuf).toNat

/-- A poll of `read_frame`. -/
def pollReadFrame (codec : Bitcode TunnelFrame) (s : ControlStream) (now : Instant) :
    Poll (Except ReductionError TunnelFrame) × ControlStream :=
  if incomplete (s.arrived now) && !s.ended now then
    (.pending, s)
  else
    match TunnelProtocol.readFrame codec (s.arrived now) with
    | .ok (frame, rest) =>
      (.ready (.ok frame),
        { s with bytes := s.bytes.drop ((s.arrived now).length - rest.length) })
    | .error e => (.ready (.error e), s)

end ControlStream

/-- The branches of the `select!`, as they are polled. -/
inductive SelectBranch where
  | read
  | outbound
  | shutdown
deriving DecidableEq

/-- `select!` polls the branches in turn, from the given one on. -/
def SelectBranch.order (start : Fin 3) : List SelectBranch :=
  [.read, .outbound, .shutdown].rotate start.val

/-- The control loop of a session. -/
structure TimedLoop where
  stream : ControlStream
  /-- From when on `control_rx.recv()` is ready. -/
  outboundAt : Option Instant
  /-- When the proxy is shut down. -/
  shutdownAt : Option Instant
  lastHeartbeat : Instant
  ended : Bool

/-- An iteration: its time, the branch that `select!` starts with, and whether an ack can be
    written. -/
structure LoopPoll where
  now : Instant
  start : Fin 3
  acked : Bool

namespace TimedLoop

/-- `run_control_loop` when it is entered. -/
def start (stream : ControlStream) (outboundAt shutdownAt : Option Instant) (now : Instant) :
    TimedLoop :=
  { stream, outboundAt, shutdownAt, lastHeartbeat := now, ended := false }

/-- The first branch that is ready, of those that are still to be polled. -/
def select (codec : Bitcode TunnelFrame) (heartbeatTimeout : Duration) (l : TimedLoop)
    (now : Instant) : List SelectBranch → Option ControlBranch × ControlStream
  | [] => (none, l.stream)
  | .read :: rest =>
    match l.stream.pollReadFrame codec now with
    | (.ready (.ok frame), stream) => (some (.read (.frame frame)), stream)
    | (.ready (.error _), stream) => (some (.read .readError), stream)
    | (.pending, _) =>
      if l.lastHeartbeat + heartbeatTimeout ≤ now then (some (.read .heartbeatTimeout), l.stream)
      else select codec heartbeatTimeout l now rest
  | .outbound :: rest =>
    if l.outboundAt.any fun t => t ≤ now then (some .outbound, l.stream)
    else select codec heartbeatTimeout l now rest
  | .shutdown :: rest =>
    if l.shutdownAt.any fun t => t ≤ now then (some .shutdown, l.stream)
    else select codec heartbeatTimeout l now rest

/-- The branch that an iteration takes. -/
def taken (codec : Bitcode TunnelFrame) (heartbeatTimeout : Duration) (l : TimedLoop)
    (p : LoopPoll) : Option ControlBranch :=
  if l.ended then none else (l.select codec heartbeatTimeout p.now (SelectBranch.order p.start)).1

/-- One iteration of the loop; without a branch that is ready it waits. -/
def poll (codec : Bitcode TunnelFrame) (heartbeatTimeout : Duration) (l : TimedLoop)
    (p : LoopPoll) : TimedLoop :=
  if l.ended then
    l
  else
    match l.select codec heartbeatTimeout p.now (SelectBranch.order p.start) with
    | (none, stream) => { l with stream }
    | (some (.read (.frame (.heartbeat timestampMs))), stream) =>
      { l with
        stream
        lastHeartbeat := p.now
        ended := !ControlSystem.goesOn p.acked (.read (.frame (.heartbeat timestampMs))) }
    | (some branch, stream) =>
      { l with stream, ended := !ControlSystem.goesOn p.acked branch }

end TimedLoop

end Reduction
