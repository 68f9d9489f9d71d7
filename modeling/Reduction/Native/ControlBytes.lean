import Reduction.Native.BodyStream
import Reduction.Native.ControlLoop

/-!
# The control loop on bytes

Model of `read_frame` in `src/tunnel/protocol.rs` where it waits for more bytes,
and of `run_control_loop` in `src/tunnel/listener.rs` around it.  Each iteration
makes a future of `read_frame`, and the `select!` drops it when another branch is
taken; what it has read by then is in its buffers and goes with them.
-/

namespace Reduction

open Framing

/-- The receiving half of the control stream. -/
structure RecvHalf where
  /-- What has arrived and was not read yet. -/
  arrived : Bytes
  /-- The peer has finished the stream: nothing comes behind `arrived`. -/
  complete : Bool
  /-- The error of a stream that was reset or whose connection is lost. -/
  lost : Option String

/-- A poll of `read_exact` that fills a buffer up to `n` bytes, with at most `limit` of what has
    arrived.  The error of a lost stream may come before all of it is read. -/
def RecvHalf.pollReadExact (recv : RecvHalf) (n limit : Nat) (buf : Bytes) :
    Poll (Except String Unit) × Bytes × RecvHalf :=
  let count := min limit (n - buf.length)
  let buf := buf ++ recv.arrived.take count
  let recv := { recv with arrived := recv.arrived.drop count }
  if buf.length = n then
    (.ready (.ok ()), buf, recv)
  else
    match recv.lost with
    | some e => (.ready (.error e), buf, recv)
    | none =>
      if recv.complete && recv.arrived.isEmpty then (.ready (.error "early eof"), buf, recv)
      else (.pending, buf, recv)

/-- A future of `read_frame`, by the buffer that it is filling. -/
inductive FrameRead where
  | length (lenBuf : Bytes)
  | payload (lenBuf buf : Bytes)

namespace FrameRead

/-- The future before its first poll. -/
def new : FrameRead := .length []

/-- All that the future has read. -/
def bytes : FrameRead → Bytes
  | .length lenBuf => lenBuf
  | .payload lenBuf buf => lenBuf ++ buf

def pollPayload (codec : Bitcode TunnelFrame) (limit : Nat) (recv : RecvHalf)
    (lenBuf buf : Bytes) :
    Poll (Except ReductionError TunnelFrame) × FrameRead × RecvHalf :=
  match recv.pollReadExact (fromBeBytes lenBuf).toNat limit buf with
  | (.pending, buf, recv) => (.pending, .payload lenBuf buf, recv)
  | (.ready (.error e), buf, recv) =>
    (.ready (.error (.tunnel ("read payload: " ++ e))), .payload lenBuf buf, recv)
  | (.ready (.ok ()), buf, recv) =>
    (.ready (TunnelProtocol.protocol.safeDecode codec buf), .payload lenBuf buf, recv)

/-- A poll of `read_frame` that takes at most `limit` bytes. -/
def poll (codec : Bitcode TunnelFrame) (limit : Nat) (recv : RecvHalf) :
    FrameRead → Poll (Except ReductionError TunnelFrame) × FrameRead × RecvHalf
  | .length lenBuf =>
    match recv.pollReadExact lengthPrefixSize limit lenBuf with
    | (.pending, lenBuf, recv) => (.pending, .length lenBuf, recv)
    | (.ready (.error e), lenBuf, recv) =>
      (.ready (.error (.tunnel ("read length: " ++ e))), .length lenBuf, recv)
    | (.ready (.ok ()), lenBuf', recv) =>
      if TunnelProtocol.maxFrameSize < (fromBeBytes lenBuf').toNat then
        (.ready (.error (TunnelProtocol.protocol.tooLarge (fromBeBytes lenBuf'))),
          .length lenBuf', recv)
      else
        pollPayload codec (limit - (lenBuf'.length - lenBuf.length)) recv lenBuf' []
  | .payload lenBuf buf => pollPayload codec limit recv lenBuf buf

end FrameRead

/-- `run_control_loop` of a session. -/
structure ByteLoop where
  recv : RecvHalf
  /-- The future of the iteration that is going on. -/
  reader : FrameRead
  /-- What is queued in `control_rx`. -/
  queued : List TunnelFrame
  sendersGone : Bool
  cancelled : Bool
  lastHeartbeat : Instant
  finished : Bool
  /-- The frames that the loop has acted on. -/
  acted : List TunnelFrame
  /-- The frames that it has written. -/
  written : List TunnelFrame
  /-- What its frames steer. -/
  system : ControlSystem

inductive ByteAction where
  | arrive (bytes : Bytes)
  | complete
  | lose (error : String)
  | queue (frame : TunnelFrame)
  | dropSenders
  | cancel
  /-- Something else of the system goes on. -/
  | elsewhere (a : ControlAction)
  /-- The `select!` polls its first branch, which takes at most `limit` bytes; `writes` if the ack
      of a heartbeat can be written. -/
  | read (limit : Nat) (now : Instant) (writes : Bool)
  /-- It takes its second branch. -/
  | outbound (writes : Bool)
  /-- It takes its third branch. -/
  | shutdown (writes : Bool)

namespace ByteLoop

/-- `run_control_loop` when it is entered. -/
def start (recv : RecvHalf) (system : ControlSystem) (now : Instant) : ByteLoop :=
  { recv, reader := .new, queued := [], sendersGone := false, cancelled := false
    lastHeartbeat := now, finished := false, acted := [], written := [], system }

/-- The end of an iteration that took `branch`.  The `select!` has dropped the future of
    `read_frame`, with all that is in its buffers; the next iteration, if there is one, reads anew. -/
def endIteration (l : ByteLoop) (branch : ControlBranch) (writes : Bool) : ByteLoop :=
  { l with reader := .new, finished := !ControlSystem.goesOn writes branch }

def write (l : ByteLoop) (frame : TunnelFrame) (writes : Bool) : ByteLoop :=
  if writes then { l with written := l.written ++ [frame] } else l

/-- What the loop does with a frame. -/
def act (l : ByteLoop) (s : TunnelSession) (frame : TunnelFrame) (now : Instant) (writes : Bool) :
    ByteLoop :=
  let l := { l with acted := l.acted ++ [frame], system := l.system.handleFrame s now frame }
  match frame with
  | .heartbeat _ => { l with lastHeartbeat := now }.write .heartbeatAck writes
  | _ => l

/-- A poll of the first branch. -/
def read (codec : Bitcode TunnelFrame) (s : TunnelSession) (heartbeatTimeout : Duration)
    (l : ByteLoop) (limit : Nat) (now : Instant) (writes : Bool) : ByteLoop :=
  match l.reader.poll codec limit l.recv with
  | (.ready (.ok frame), _, recv) =>
    ({ l with recv }.act s frame now writes).endIteration (.read (.frame frame)) writes
  | (.ready (.error _), _, recv) => { l with recv }.endIteration (.read .readError) writes
  | (.pending, reader, recv) =>
    -- `timeout_at` polls the future before its own timer
    if l.lastHeartbeat + heartbeatTimeout ≤ now then
      { l with recv }.endIteration (.read .heartbeatTimeout) writes
    else
      { l with recv, reader }

/-- The second branch, if there is something to receive. -/
def outbound (l : ByteLoop) (writes : Bool) : ByteLoop :=
  match l.queued with
  | .shutdown reason :: rest =>
    ({ l with queued := rest }.write (.shutdown reason) writes).endIteration .outbound writes
  | _ :: rest => { l with queued := rest }.endIteration .outbound writes
  | [] => if l.sendersGone then l.endIteration .outbound writes else l

/-- The third branch, if the token is cancelled. -/
def shutdown (l : ByteLoop) (writes : Bool) : ByteLoop :=
  if l.cancelled then
    let reason : ArrayString 64 :=
      (ArrayString.from? (Bytes.ascii "proxy shutting down")).getD .empty
    (l.write (.shutdown reason) writes).endIteration .shutdown writes
  else
    l

def step (codec : Bitcode TunnelFrame) (s : TunnelSession) (heartbeatTimeout : Duration)
    (l : ByteLoop) : ByteAction → ByteLoop
  | .arrive bytes => { l with recv := { l.recv with arrived := l.recv.arrived ++ bytes } }
  | .complete => { l with recv := { l.recv with complete := true } }
  | .lose error => { l with recv := { l.recv with lost := some error } }
  | .queue frame => { l with queued := l.queued ++ [frame] }
  | .dropSenders => { l with sendersGone := true }
  | .cancel => { l with cancelled := true }
  | .elsewhere a => { l with system := l.system.step a }
  | .read limit now writes => if l.finished then l else l.read codec s heartbeatTimeout limit now writes
  | .outbound writes => if l.finished then l else l.outbound writes
  | .shutdown writes => if l.finished then l else l.shutdown writes

end ByteLoop

end Reduction
