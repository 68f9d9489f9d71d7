import Reduction.ForStd.StreamEncoder
import Reduction.Native.BodyStream

/-!
# The compressed body

Model of `src/proxy/compress_body.rs`: a body that runs the data of an inner body
through a streaming zstd encoder.  A chunk over the threshold is compressed by a
blocking task, which has the encoder while it runs.  The encoder is a parameter;
what becomes of the blocking tasks is part of the body's state, for the tasks
that are still to be spawned.
-/

namespace Reduction

open Http

abbrev ZstdEncoder := StreamEncoder UInt8 String

/-- `OUTPUT_BUF_SIZE`. -/
def outputBufSize : Nat := 16384

/-- `OFFLOAD_THRESHOLD_BYTES`. -/
def offloadThresholdBytes : Nat := 32 * 1024

/-! ## Passes of the encoder -/

/-- The room in an output buffer, which is enlarged when it is full. -/
def enlarged (room : Nat) : Nat := if room = 0 then outputBufSize else room

theorem enlarged_ne_zero (room : Nat) : enlarged room ≠ 0 := by
  unfold enlarged
  split
  · decide
  · assumption

/-- The loop of `compress_chunk`, with the input that is left, the room in the output buffer and
    what it has been filled with. -/
def compressChunk.loop (z : ZstdEncoder) (s : z.State) (input : Bytes) (room : Nat)
    (output : Bytes) : Except String (z.State × Bytes) :=
  if input = [] then
    .ok (s, output)
  else
    match _hrun : z.run s input room with
    | .error e => .error e
    | .ok (s', consumed, written) =>
      if written = [] ∧ consumed = 0 then
        .error "zstd encoder made no progress"
      else
        compressChunk.loop z s' (input.drop consumed) (enlarged (room - written.length))
          (output ++ written)
termination_by z.runMeasure s input
decreasing_by exact z.runMeasure_lt _hrun (by assumption)

def compressChunk (z : ZstdEncoder) (s : z.State) (input : Bytes) :
    Except String (z.State × Bytes) :=
  compressChunk.loop z s input (max outputBufSize input.length) []

/-- The loop of `finish_encoder`. -/
def finishEncoder.loop (z : ZstdEncoder) (s : z.State) (room : Nat) (output : Bytes) :
    Except String (z.State × Bytes) :=
  match _hfinish : z.finish s room with
  | .error e => .error e
  | .ok (s', remaining, written) =>
    if remaining = 0 then
      .ok (s', output ++ written)
    else if written = [] ∧ 0 < room - written.length then
      .error "zstd encoder made no progress during finish"
    else
      finishEncoder.loop z s' (enlarged (room - written.length)) (output ++ written)
termination_by 2 * z.held s + (if room = 0 then 1 else 0)
decreasing_by
  rename_i _ hstuck
  have hheld := z.finish_held _hfinish
  rw [if_neg (enlarged_ne_zero _)]
  by_cases hwritten : written = []
  · -- without output the buffer was full
    have hfull : room = 0 := by
      by_contra hne
      exact hstuck ⟨hwritten, by rw [hwritten, List.length_nil]; omega⟩
    rw [if_pos hfull]
    omega
  · have hpos := List.length_pos_iff.mpr hwritten
    omega

def finishEncoder (z : ZstdEncoder) (s : z.State) : Except String (z.State × Bytes) :=
  finishEncoder.loop z s outputBufSize []

section Passes

variable {z : ZstdEncoder} {s s' : z.State} {input output : Bytes} {room n : Nat} {out : Bytes}

theorem compressChunk.loop_error {e : String} (hne : input ≠ [])
    (hrun : z.run s input room = .error e) :
    compressChunk.loop z s input room output = .error e := by
  rw [compressChunk.loop, if_neg hne]
  split
  · rename_i heq
    cases hrun.symm.trans heq
    rfl
  · rename_i heq
    cases hrun.symm.trans heq

theorem compressChunk.loop_ok (hne : input ≠ []) (hrun : z.run s input room = .ok (s', n, out)) :
    compressChunk.loop z s input room output =
      if out = [] ∧ n = 0 then .error "zstd encoder made no progress"
      else
        compressChunk.loop z s' (input.drop n) (enlarged (room - out.length)) (output ++ out) := by
  conv_lhs => rw [compressChunk.loop, if_neg hne]
  split
  · rename_i heq
    cases hrun.symm.trans heq
  · rename_i heq
    cases hrun.symm.trans heq
    rfl

theorem finishEncoder.loop_error {e : String} (hfinish : z.finish s room = .error e) :
    finishEncoder.loop z s room output = .error e := by
  rw [finishEncoder.loop]
  split
  · rename_i heq
    cases hfinish.symm.trans heq
    rfl
  · rename_i heq
    cases hfinish.symm.trans heq

theorem finishEncoder.loop_ok (hfinish : z.finish s room = .ok (s', n, out)) :
    finishEncoder.loop z s room output =
      if n = 0 then .ok (s', output ++ out)
      else if out = [] ∧ 0 < room - out.length then
        .error "zstd encoder made no progress during finish"
      else finishEncoder.loop z s' (enlarged (room - out.length)) (output ++ out) := by
  conv_lhs => rw [finishEncoder.loop]
  split
  · rename_i heq
    cases hfinish.symm.trans heq
  · rename_i heq
    cases hfinish.symm.trans heq
    rfl

end Passes

/-! ## The body -/

inductive CompressError (ε : Type) where
  | inner (e : ε)
  | zstd (message : String)
deriving DecidableEq

inductive CompressionPhase where
  | streaming
  /-- A blocking task compresses a chunk over the threshold. -/
  | offloading
  | flushing
  | done
deriving DecidableEq

/-- The frame result that `poll_frame` yields. -/
abbrev FramePoll (ε : Type) := Poll (Option (Except (CompressError ε) Frame))

inductive Step (ε : Type) where
  | ready (poll : FramePoll ε)
  | continue

/-- What becomes of a blocking task: how long it takes, and whether it panics or is aborted. -/
structure Offload where
  duration : Duration
  joinError : Option String

/-- A spawned task, with the result that its handle has from some time on. -/
structure OffloadTask (z : ZstdEncoder) where
  readyAt : Instant
  result : Except String (Except String (z.State × Bytes))

structure CompressedBody (z : ZstdEncoder) (ε : Type) where
  inner : Incoming ε
  /-- The tasks that are still to be spawned; one that is not listed takes no time. -/
  offloads : List Offload
  encoder : Option z.State
  task : Option (OffloadTask z)
  phase : CompressionPhase

namespace CompressedBody

variable {z : ZstdEncoder} {ε : Type}

/-- `with_level`, once the encoder is set up. -/
def withEncoder (inner : Incoming ε) (offloads : List Offload) (s : z.State) :
    CompressedBody z ε :=
  { inner, offloads, encoder := some s, task := none, phase := .streaming }

/-- `flatten_join`. -/
def flattenJoin : Except String (Except String (z.State × Bytes)) → Except String (z.State × Bytes)
  | .ok result => result
  | .error joinErr => .error ("compression task join failed: " ++ joinErr)

/-- An error of the encoder ends the body. -/
def failed (body : CompressedBody z ε) (message : String) : Step ε × CompressedBody z ε :=
  (.ready (.ready (some (.error (.zstd message)))), { body with phase := .done })

/-- `encoder_missing`. -/
def encoderMissing (body : CompressedBody z ε) : Step ε × CompressedBody z ε :=
  body.failed "compressor state lost"

/-- Compressed bytes are a frame, unless the encoder has buffered all its input. -/
def emitted (compressed : Bytes) : Step ε :=
  if compressed = [] then .continue else .ready (.ready (some (.ok (.data compressed))))

def pollOffloading (body : CompressedBody z ε) (now : Instant) : Step ε × CompressedBody z ε :=
  match body.task with
  | none => body.encoderMissing
  | some task =>
    if task.readyAt ≤ now then
      match flattenJoin task.result with
      | .ok (enc, compressed) =>
        (emitted compressed,
          { body with task := none, encoder := some enc, phase := .streaming })
      | .error e => { body with task := none }.failed e
    else
      (.ready .pending, body)

def offloadChunk (body : CompressedBody z ε) (input : Bytes) (now : Instant) :
    Step ε × CompressedBody z ε :=
  match body.encoder with
  | none => body.encoderMissing
  | some enc =>
    let fate := body.offloads.headD { duration := 0, joinError := none }
    let result :=
      match fate.joinError with
      | some e => .error e
      | none => .ok (compressChunk z enc input)
    (.continue,
      { body with
        offloads := body.offloads.tail
        encoder := none
        task := some { readyAt := now + fate.duration, result }
        phase := .offloading })

def compressInline (body : CompressedBody z ε) (data : Bytes) : Step ε × CompressedBody z ε :=
  match body.encoder with
  | none => body.encoderMissing
  | some enc =>
    match compressChunk z enc data with
    | .ok (enc, compressed) => (emitted compressed, { body with encoder := some enc })
    | .error e => body.failed e

def compressFrame (body : CompressedBody z ε) (frame : Frame) (now : Instant) :
    Step ε × CompressedBody z ε :=
  match frame with
  -- passed through at once, whatever the encoder still holds
  | .trailers fields => (.ready (.ready (some (.ok (.trailers fields)))), body)
  | .data data =>
    if offloadThresholdBytes < data.length then body.offloadChunk data now
    else body.compressInline data

def pollStreaming (body : CompressedBody z ε) (now : Instant) : Step ε × CompressedBody z ε :=
  match body.inner.pollFrame now with
  | (.pending, inner) => (.ready .pending, { body with inner })
  | (.ready none, inner) => (.continue, { body with inner, phase := .flushing })
  -- the phase stays as it is
  | (.ready (some (.error e)), inner) =>
    (.ready (.ready (some (.error (.inner e)))), { body with inner })
  | (.ready (some (.ok frame)), inner) => { body with inner }.compressFrame frame now

def pollFlushing (body : CompressedBody z ε) : Step ε × CompressedBody z ε :=
  match body.encoder with
  | none => body.encoderMissing
  | some enc =>
    match finishEncoder z enc with
    | .ok (enc, flushed) =>
      (.ready (.ready (if flushed = [] then none else some (.ok (.data flushed)))),
        { body with encoder := some enc, phase := .done })
    | .error e => body.failed e

/-- One round of the loop of `poll_frame`. -/
def step (body : CompressedBody z ε) (now : Instant) : Step ε × CompressedBody z ε :=
  match body.phase with
  | .done => (.ready (.ready none), body)
  | .offloading => body.pollOffloading now
  | .streaming => body.pollStreaming now
  | .flushing => body.pollFlushing

/-- A bound for the rounds that can still continue: a frame is taken in one and its task polled in
    another. -/
def rounds (body : CompressedBody z ε) : Nat :=
  2 * body.inner.frames.length +
    match body.phase with
    | .offloading => 2
    | .streaming => 1
    | _ => 0

/-- The loop of `poll_frame`, bounded by the rounds that it can make. -/
def pollLoop : Nat → CompressedBody z ε → Instant → FramePoll ε × CompressedBody z ε
  | 0, body, _ => (.pending, body)
  | fuel + 1, body, now =>
    match body.step now with
    | (.ready poll, body) => (poll, body)
    | (.continue, body) => pollLoop fuel body now

def pollFrame (body : CompressedBody z ε) (now : Instant) : FramePoll ε × CompressedBody z ε :=
  pollLoop (body.rounds + 1) body now

end CompressedBody

end Reduction
