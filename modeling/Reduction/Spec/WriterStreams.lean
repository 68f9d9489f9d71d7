import Reduction.Spec.FrameCodec
import Reduction.Spec.WriterBatches

/-!
# What a writer puts on its streams

A consumer decodes what arrives on the streams that a writer dials.  `WireRun` is
a writer with a log of these streams: what is on each of them, which batches the
writer tried to put there, and which of them it was told were written.  A write
that fails leaves any number of its first bytes on the stream.

- `StreamLog.Conforms`: each stream carries the beginning of preamble, Hello and
  batches, and every batch that counts as written is there in full;
- `writer_streams_conform`: in every run of a writer, with any answers to its
  checks, dials and writes, and with numbers that follow the queue.
-/

namespace Reduction

open Framing Run

variable {W : Type}

/-! ## The bytes of the protocol -/

namespace IngressProtocol

/-- The bytes of `write_preamble`. -/
def preamble : Bytes := protocol.magic ++ [protocolVersion]

/-- The bytes of an envelope's frame; nothing is written of an envelope that does not encode. -/
def frameBytes (codec : Bitcode Envelope) (envelope : Envelope) : Bytes :=
  match encode codec envelope with
  | .ok frame => frame
  | .error _ => []

def Encodes (codec : Bitcode Envelope) (envelope : Envelope) : Prop :=
  ∃ frame, encode codec envelope = .ok frame

variable [AsyncWrite W] {codec : Bitcode Envelope} {stream stream' : W}

theorem written_writePreamble (h : writePreamble stream = .ok stream') :
    AsyncWrite.written stream' = AsyncWrite.written stream ++ preamble := by
  obtain ⟨w₁, hw₁, hflush⟩ := bind_eq_ok.mp h
  rw [AsyncWrite.written_flush (protocol.mapErr_eq_ok.mp hflush),
    AsyncWrite.written_writeAll (protocol.mapErr_eq_ok.mp hw₁)]
  rfl

theorem written_writeFrame {envelope : Envelope}
    (h : writeFrame codec stream envelope = .ok stream') :
    Encodes codec envelope ∧
      AsyncWrite.written stream' = AsyncWrite.written stream ++ frameBytes codec envelope := by
  obtain ⟨frame, hencode, h⟩ := bind_eq_ok.mp h
  obtain ⟨w₁, hw₁, hflush⟩ := bind_eq_ok.mp h
  refine ⟨⟨frame, hencode⟩, ?_⟩
  rw [AsyncWrite.written_flush (protocol.mapErr_eq_ok.mp hflush),
    AsyncWrite.written_writeAll (protocol.mapErr_eq_ok.mp hw₁), frameBytes, hencode]

end IngressProtocol

/-- A batch with its place in the writer's queue. -/
abbrev QueuedBatch := Nat × List Datagram

/-- The Hello that a writer sends first on each stream. -/
def BackendWriter.hello (w : BackendWriter W) : Envelope := .hello w.ingressId w.worker

/-- What a stream begins with. -/
def opening (codec : Bitcode Envelope) (hello : Envelope) : Bytes :=
  IngressProtocol.preamble ++ IngressProtocol.frameBytes codec hello

/-- The frames of a list of batches. -/
def batchFrames (codec : Bitcode Envelope) (batches : List QueuedBatch) : Bytes :=
  batches.flatMap fun b => IngressProtocol.frameBytes codec (.batch b.2)

theorem batchFrames_concat (codec : Bitcode Envelope) (batches : List QueuedBatch)
    (b : QueuedBatch) :
    batchFrames codec (batches ++ [b]) =
      batchFrames codec batches ++ IngressProtocol.frameBytes codec (.batch b.2) := by
  simp only [batchFrames, List.flatMap_append, List.flatMap_cons, List.flatMap_nil,
    List.append_nil]

/-! ## Streams and what is on them -/

section OnWire

variable [AsyncWrite W] (codec : Bitcode Envelope)

/-- What is on the stream after `write_frame`: if that failed, `left` bytes of the frame. -/
def frameOnWire (stream : W) (envelope : Envelope) (left : Nat) : Bytes :=
  match IngressProtocol.writeFrame codec stream envelope with
  | .ok stream => AsyncWrite.written stream
  | .error _ => AsyncWrite.written stream ++ (IngressProtocol.frameBytes codec envelope).take left

/-- What is on the stream after `dial`: of the write that failed, `left` bytes. -/
def BackendWriter.dialOnWire (w : BackendWriter W) (stream : W) (left : Nat) : Bytes :=
  match IngressProtocol.writePreamble stream with
  | .ok stream => frameOnWire codec stream w.hello left
  | .error _ => AsyncWrite.written stream ++ IngressProtocol.preamble.take left

variable {codec} {stream stream' : W} {w : BackendWriter W}

theorem frameOnWire_ok {envelope : Envelope} (left : Nat)
    (h : IngressProtocol.writeFrame codec stream envelope = .ok stream') :
    frameOnWire codec stream envelope left = AsyncWrite.written stream' := by
  rw [frameOnWire, h]

variable (codec) in
theorem frameOnWire_begins (stream : W) (envelope : Envelope) (left : Nat) :
    ∃ put, frameOnWire codec stream envelope left = AsyncWrite.written stream ++ put ∧
      put <+: IngressProtocol.frameBytes codec envelope := by
  unfold frameOnWire
  cases h : IngressProtocol.writeFrame codec stream envelope with
  | ok stream' => exact ⟨_, (IngressProtocol.written_writeFrame h).2, List.prefix_refl _⟩
  | error e => exact ⟨_, rfl, List.take_prefix _ _⟩

/-- A dial that succeeds has put preamble and Hello on the stream, and nothing else. -/
theorem BackendWriter.dial_ok {acquired : Except ReductionError W}
    (h : w.dial codec acquired = .ok stream') :
    ∃ stream, acquired = .ok stream ∧
      IngressProtocol.Encodes codec w.hello ∧
      AsyncWrite.written stream' = AsyncWrite.written stream ++ opening codec w.hello ∧
      ∀ left, w.dialOnWire codec stream left = AsyncWrite.written stream' := by
  obtain ⟨stream, hacquired, h⟩ := bind_eq_ok.mp h
  obtain ⟨stream₁, hpreamble, hhello⟩ := bind_eq_ok.mp h
  obtain ⟨hencodes, hwritten⟩ := IngressProtocol.written_writeFrame hhello
  refine ⟨stream, hacquired, hencodes, ?_, fun left => ?_⟩
  · rw [hwritten, IngressProtocol.written_writePreamble hpreamble, List.append_assoc]
    rfl
  · rw [dialOnWire, hpreamble]
    exact frameOnWire_ok left hhello

variable (codec) in
theorem BackendWriter.dialOnWire_begins (w : BackendWriter W) (stream : W) (left : Nat) :
    ∃ put, w.dialOnWire codec stream left = AsyncWrite.written stream ++ put ∧
      put <+: opening codec w.hello := by
  unfold dialOnWire opening
  cases h : IngressProtocol.writePreamble stream with
  | ok stream₁ =>
    obtain ⟨put, heq, hput⟩ :=
      frameOnWire_begins codec stream₁ w.hello left
    refine ⟨IngressProtocol.preamble ++ put, ?_, (List.prefix_append_right_inj _).mpr hput⟩
    dsimp only
    rw [heq, IngressProtocol.written_writePreamble h, List.append_assoc]
  | error e =>
    exact ⟨_, rfl, (List.take_prefix _ _).trans (List.prefix_append _ _)⟩

end OnWire

/-- One stream that the connection pool gave to the writer. -/
structure StreamLog where
  /-- What was on the stream when the writer got it. -/
  before : Bytes
  /-- What is on the stream. -/
  bytes : Bytes
  /-- The batches of which a write began. -/
  attempted : List QueuedBatch
  /-- Those of them for which `write_frame` returned `Ok`. -/
  relayed : List QueuedBatch

namespace StreamLog

/-- The stream carries the beginning of a preamble, a Hello and the batches, and the batches that
    were written are on it in full, behind the Hello. -/
structure Conforms (codec : Bitcode Envelope) (hello : Envelope) (log : StreamLog) : Prop where
  bytes_eq : ∃ put, log.bytes = log.before ++ put ∧
    put <+: opening codec hello ++ batchFrames codec log.attempted ∧
    (log.attempted ≠ [] → opening codec hello ++ batchFrames codec log.relayed <+: put)
  hello_encodes : log.attempted ≠ [] → IngressProtocol.Encodes codec hello
  relayed_attempted : log.relayed <+: log.attempted
  relayed_encodes : ∀ b ∈ log.relayed, IngressProtocol.Encodes codec (.batch b.2)

variable [AsyncWrite W]

/-- The stream is in use: everything was written so far. -/
structure Established (codec : Bitcode Envelope) (hello : Envelope) (log : StreamLog)
    (stream : W) : Prop where
  bytes_eq : log.bytes = AsyncWrite.written stream
  written_eq : AsyncWrite.written stream =
    log.before ++ (opening codec hello ++ batchFrames codec log.attempted)
  hello_encodes : IngressProtocol.Encodes codec hello
  all_relayed : log.relayed = log.attempted
  relayed_encodes : ∀ b ∈ log.relayed, IngressProtocol.Encodes codec (.batch b.2)

/-- The log of a dial. -/
def dialed (codec : Bitcode Envelope) (w : BackendWriter W) (stream : W) (left : Nat) : StreamLog :=
  { before := AsyncWrite.written stream
    bytes := w.dialOnWire codec stream left
    attempted := []
    relayed := [] }

/-- The batches for which `write_frame` returns `Ok`, of one batch. -/
def acknowledged (codec : Bitcode Envelope) (stream : W) (b : QueuedBatch) : List QueuedBatch :=
  if (IngressProtocol.writeFrame codec stream (.batch b.2)).toBool then [b] else []

/-- The log after the write of a batch. -/
def wrote (codec : Bitcode Envelope) (stream : W) (b : QueuedBatch) (left : Nat)
    (log : StreamLog) : StreamLog :=
  { log with
    bytes := frameOnWire codec stream (.batch b.2) left
    attempted := log.attempted ++ [b]
    relayed := log.relayed ++ acknowledged codec stream b }

variable {codec : Bitcode Envelope} {hello : Envelope} {log : StreamLog} {stream stream' : W}

theorem Established.conforms (h : log.Established codec hello stream) :
    log.Conforms codec hello where
  bytes_eq :=
    ⟨_, h.bytes_eq.trans h.written_eq, List.prefix_refl _, fun _ => by
      rw [h.all_relayed]⟩
  hello_encodes _ := h.hello_encodes
  relayed_attempted := by rw [h.all_relayed]
  relayed_encodes := h.relayed_encodes

theorem conforms_dialed (w : BackendWriter W) (stream : W) (left : Nat) :
    (dialed codec w stream left).Conforms codec w.hello where
  bytes_eq := by
    obtain ⟨put, heq, hput⟩ := w.dialOnWire_begins codec stream left
    exact ⟨put, heq, hput.trans (List.prefix_append _ _), fun h => absurd rfl h⟩
  hello_encodes h := absurd rfl h
  relayed_attempted := List.prefix_refl _
  relayed_encodes b hb := by cases hb

theorem established_dialed {w : BackendWriter W} (left : Nat)
    (h : w.dial codec (.ok stream) = .ok stream') :
    (dialed codec w stream left).Established codec w.hello stream' := by
  obtain ⟨_, hacquired, hencodes, hwritten, hwire⟩ := BackendWriter.dial_ok h
  cases hacquired
  exact
    { bytes_eq := hwire left
      written_eq := by rw [hwritten]; exact (congrArg _ (List.append_nil _)).symm
      hello_encodes := hencodes
      all_relayed := rfl
      relayed_encodes := fun b hb => by cases hb }

theorem Established.wrote_ok (h : log.Established codec hello stream) (b : QueuedBatch) (left : Nat)
    (hwrite : IngressProtocol.writeFrame codec stream (.batch b.2) = .ok stream') :
    (log.wrote codec stream b left).Established codec hello stream' := by
  obtain ⟨hencodes, hwritten⟩ := IngressProtocol.written_writeFrame hwrite
  have hack : acknowledged codec stream b = [b] := by
    rw [acknowledged, hwrite]
    rfl
  refine
    { bytes_eq := frameOnWire_ok left hwrite
      written_eq := ?_
      hello_encodes := h.hello_encodes
      all_relayed := ?_
      relayed_encodes := ?_ }
  · rw [hwritten, h.written_eq]
    simp only [wrote, batchFrames_concat, List.append_assoc]
  · show log.relayed ++ acknowledged codec stream b = log.attempted ++ [b]
    rw [hack, h.all_relayed]
  · intro b' hb'
    have hb' : b' ∈ log.relayed ++ [b] := hack ▸ hb'
    cases List.mem_append.mp hb' with
    | inl hmem => exact h.relayed_encodes b' hmem
    | inr hmem => exact List.mem_singleton.mp hmem ▸ hencodes

/-- A write that failed has added the beginning of a frame, and the stream is not used again. -/
theorem Established.wrote_error (h : log.Established codec hello stream) (b : QueuedBatch)
    (left : Nat) {e : ReductionError}
    (hwrite : IngressProtocol.writeFrame codec stream (.batch b.2) = .error e) :
    (log.wrote codec stream b left).Conforms codec hello := by
  have hack : acknowledged codec stream b = [] := by
    rw [acknowledged, hwrite]
    rfl
  have hrelayed : (log.wrote codec stream b left).relayed = log.attempted := by
    show log.relayed ++ acknowledged codec stream b = log.attempted
    rw [hack, List.append_nil, h.all_relayed]
  obtain ⟨put, heq, hput⟩ := frameOnWire_begins codec stream (.batch b.2) left
  refine
    { bytes_eq :=
        ⟨opening codec hello ++ batchFrames codec log.attempted ++ put, ?_, ?_, fun _ => ?_⟩
      hello_encodes := fun _ => h.hello_encodes
      relayed_attempted := ?_
      relayed_encodes := ?_ }
  · show frameOnWire codec stream (.batch b.2) left = _
    rw [heq, h.written_eq, List.append_assoc]
    rfl
  · show _ <+: opening codec hello ++ batchFrames codec (log.attempted ++ [b])
    rw [batchFrames_concat, ← List.append_assoc]
    exact (List.prefix_append_right_inj _).mpr hput
  · rw [hrelayed]
    exact List.prefix_append _ _
  · rw [hrelayed]
    exact List.prefix_append _ _
  · rw [hrelayed, ← h.all_relayed]
    exact h.relayed_encodes

end StreamLog

/-! ## Runs of a writer -/

/-- What happens to a writer.  The shared state is as other parties left it. -/
inductive WireAction (W : Type) where
  /-- The `recv` branch of `run`. -/
  | recv (datagrams : List Datagram)
  | check (sh : IngressShared) (now : Instant)
  | dialed (sh : IngressShared) (acquired : Except ReductionError W) (left : Nat) (now : Instant)
      (draw : Nat)
  | written (sh : IngressShared) (left : Nat) (now : Instant) (draw : Nat)

/-- A writer with the batches it got, the streams it dialled, in that order, the batches for which
    `write_frame` returned `Ok`, and the number of datagrams by which each batch raised the counter
    of relayed datagrams. -/
structure WireRun (W : Type) where
  writer : BackendWriter W
  queue : List (List Datagram)
  streams : List StreamLog
  acknowledged : List QueuedBatch
  counted : List (Nat × Nat)

namespace WireRun

/-- The start of `run`. -/
def start (w : BackendWriter W) : WireRun W :=
  { writer :=
      { w with
        state := { stream := none, attempt := 0, cooldownUntil := none }
        stage := .idle }
    queue := []
    streams := []
    acknowledged := []
    counted := [] }

/-- The batches of which a write began, over all streams. -/
def attempted (s : WireRun W) : List QueuedBatch := s.streams.flatMap StreamLog.attempted

/-- The place of the batch in hand. -/
def number (s : WireRun W) : Nat := s.queue.length - 1

/-- The writer has moved on, and the batch in hand is noted if it raised the counter. -/
def moved (s : WireRun W) (sh : IngressShared) (r : BackendWriter W × IngressShared) : WireRun W :=
  { s with
    writer := r.1
    counted :=
      if r.2.counters.relayed = sh.counters.relayed then s.counted
      else s.counted ++ [(s.number, r.2.counters.relayed - sh.counters.relayed)] }

variable [AsyncWrite W] (codec : Bitcode Envelope)

/-- The streams after a dial. -/
def afterDial (s : WireRun W) (acquired : Except ReductionError W) (left : Nat) : List StreamLog :=
  match acquired with
  | .ok stream => s.streams ++ [.dialed codec s.writer stream left]
  | .error _ => s.streams

/-- The streams and the answer after a write. -/
def afterWrite (s : WireRun W) (datagrams : List Datagram) (left : Nat) : WireRun W :=
  match s.writer.state.stream with
  | some stream =>
    { s with
      streams := s.streams.modifyLast (.wrote codec stream (s.number, datagrams) left)
      acknowledged := s.acknowledged ++ StreamLog.acknowledged codec stream (s.number, datagrams) }
  | none => s

def step (s : WireRun W) : WireAction W → WireRun W
  | .recv datagrams =>
    match s.writer.stage with
    | .idle =>
      { s with
        writer := { s.writer with stage := .holding datagrams }
        queue := s.queue ++ [datagrams] }
    | _ => s
  | .check sh now =>
    match s.writer.stage with
    | .holding datagrams => s.moved sh (s.writer.gate sh datagrams now)
    | _ => s
  | .dialed sh acquired left now draw =>
    match s.writer.stage with
    | .dialing datagrams guard =>
      { s with streams := s.afterDial codec acquired left }.moved sh
        (s.writer.dialed codec sh datagrams guard acquired now draw)
    | _ => s
  | .written sh left now draw =>
    match s.writer.stage with
    | .writing datagrams guard =>
      (s.afterWrite codec datagrams left).moved sh
        (s.writer.written codec sh datagrams guard now draw)
    | _ => s

end WireRun

/-! ## What a step can do -/

/-- The batch in a writer's hands, if there is one. -/
def WriterStage.batch : WriterStage → Option (List Datagram)
  | .idle => none
  | .holding datagrams | .dialing datagrams _ | .writing datagrams _ => some datagrams

/-- Behind the gate the batch has datagrams, and at its write there is a stream. -/
def BackendWriter.Sound (w : BackendWriter W) : Prop :=
  match w.stage with
  | .dialing datagrams _ => datagrams ≠ []
  | .writing datagrams _ => datagrams ≠ [] ∧ ∃ stream, w.state.stream = some stream
  | _ => True

theorem BackendWriter.sound_of_idle {w : BackendWriter W} (h : w.stage = .idle) : w.Sound := by
  rw [Sound, h]
  trivial

namespace WireRun

variable {sh : IngressShared} {r : BackendWriter W × IngressShared} {guard : Option HalfOpenGuard}

theorem moved_of_relayed_eq {s : WireRun W} (h : r.2.counters.relayed = sh.counters.relayed) :
    s.moved sh r = { s with writer := r.1 } := by
  rw [moved, if_pos h]

theorem moved_of_relayed_add {s : WireRun W} {n : Nat}
    (h : r.2.counters.relayed = sh.counters.relayed + n) (hpos : 0 < n) :
    s.moved sh r = { s with writer := r.1, counted := s.counted ++ [(s.number, n)] } := by
  have hne : r.2.counters.relayed ≠ sh.counters.relayed := by omega
  rw [moved, if_neg hne, h, Nat.add_sub_cancel_left]

variable [AsyncWrite W] (codec : Bitcode Envelope)

/-- The steps of a run: the writer takes a batch, goes on without a write, tries a stream, or writes
    its batch. -/
inductive Moves (s : WireRun W) : WireRun W → Prop
  | stay : Moves s s
  | recv (datagrams : List Datagram) (idle : s.writer.stage = .idle) :
      Moves s
        { s with
          writer := { s.writer with stage := .holding datagrams }
          queue := s.queue ++ [datagrams] }
  | onward {writer : BackendWriter W} (hello_eq : writer.hello = s.writer.hello)
      (stream_eq : writer.state.stream = s.writer.state.stream ∨ writer.state.stream = none)
      (batch_eq : writer.stage.batch = none ∨ writer.stage.batch = s.writer.stage.batch)
      (sound : writer.Sound) :
      Moves s { s with writer }
  | dialed {writer : BackendWriter W} {stream : W} {left : Nat}
      (hello_eq : writer.hello = s.writer.hello)
      (stream_eq : ∀ stream', writer.state.stream = some stream' →
        s.writer.dial codec (.ok stream) = .ok stream')
      (batch_eq : writer.stage.batch = none ∨ writer.stage.batch = s.writer.stage.batch)
      (sound : writer.Sound) :
      Moves s { s with writer, streams := s.streams ++ [.dialed codec s.writer stream left] }
  | wrote {writer : BackendWriter W} {stream : W} {left : Nat} {datagrams : List Datagram}
      {ack : List QueuedBatch} {counted : List (Nat × Nat)}
      (batch_eq : s.writer.stage.batch = some datagrams)
      (stream_eq : s.writer.state.stream = some stream)
      (hello_eq : writer.hello = s.writer.hello)
      (stream'_eq : ∀ stream', writer.state.stream = some stream' →
        IngressProtocol.writeFrame codec stream (.batch datagrams) = .ok stream')
      (idle : writer.stage = .idle)
      (ack_eq : StreamLog.acknowledged codec stream (s.number, datagrams) = ack)
      (counted_eq : counted = s.counted ++ ack.map fun b => (b.1, b.2.length)) :
      Moves s
        { s with
          writer
          streams := s.streams.modifyLast (.wrote codec stream (s.number, datagrams) left)
          acknowledged := s.acknowledged ++ ack
          counted }

variable {codec} {s : WireRun W}

omit [AsyncWrite W] in
theorem relayed_recordDrop (sh : IngressShared) (reason : DropReason) (count : Nat)
    (guard : Option HalfOpenGuard) :
    ((sh.recordDrop reason count).dropGuard guard).counters.relayed = sh.counters.relayed := by
  rw [IngressShared.counters_dropGuard]
  rfl

variable {datagrams : List Datagram}

theorem moves_check (hstage : s.writer.stage = .holding datagrams) (sh : IngressShared)
    (now : Instant) : Moves codec s (s.moved sh (s.writer.gate sh datagrams now)) := by
  have hbatch : s.writer.stage.batch = some datagrams := by rw [hstage]; rfl
  rcases BackendWriter.gate_cases s.writer sh datagrams now rfl with ⟨_, hgate⟩ | ⟨_, hgate⟩ |
    ⟨hne, _, _, hgate⟩ | ⟨hne, _, hstream, hgate⟩
  · rw [hgate, moved_of_relayed_eq (by rfl)]
    exact .onward rfl (.inl rfl) (.inl rfl) trivial
  · rw [hgate, moved_of_relayed_eq (by exact relayed_recordDrop _ _ _ _)]
    exact .onward rfl (.inl rfl) (.inl rfl) trivial
  · rw [hgate, moved_of_relayed_eq (by rfl)]
    exact .onward rfl (.inl rfl) (.inr hbatch.symm) hne
  · rw [hgate, moved_of_relayed_eq (by rfl)]
    exact .onward rfl (.inl rfl) (.inr hbatch.symm) ⟨hne, hstream⟩

/-- After a dial: the writer goes on to its write if the dial succeeded, and is done if not. -/
theorem moves_dialed (hstage : s.writer.stage = .dialing datagrams guard) (hne : datagrams ≠ [])
    (sh : IngressShared) (acquired : Except ReductionError W) (left : Nat) (now : Instant)
    (draw : Nat) :
    Moves codec s
      ({ s with streams := s.afterDial codec acquired left }.moved sh
        (s.writer.dialed codec sh datagrams guard acquired now draw)) := by
  have hbatch : s.writer.stage.batch = some datagrams := by rw [hstage]; rfl
  unfold BackendWriter.dialed
  cases hdial : s.writer.dial codec acquired with
  | ok stream' =>
    obtain ⟨stream, hacquired, -⟩ := BackendWriter.dial_ok hdial
    subst hacquired
    dsimp only
    rw [moved_of_relayed_eq (by rfl)]
    exact .dialed rfl (fun _ h => hdial.trans (congrArg _ (Option.some.inj h)))
      (.inr hbatch.symm) ⟨hne, stream', rfl⟩
  | error e =>
    dsimp only
    rw [moved_of_relayed_eq (by rw [IngressShared.counters_dropGuard]; rfl)]
    cases acquired with
    | ok stream => exact .dialed rfl (fun _ h => by cases h) (.inl rfl) trivial
    | error e => exact .onward rfl (.inr rfl) (.inl rfl) trivial

/-- A batch that is written raises the counter by its length, which is not zero; one that is not
    leaves it. -/
theorem moves_written {stream : W} (hstage : s.writer.stage = .writing datagrams guard)
    (hne : datagrams ≠ []) (hstream : s.writer.state.stream = some stream) (sh : IngressShared)
    (left : Nat) (now : Instant) (draw : Nat) :
    Moves codec s
      ((s.afterWrite codec datagrams left).moved sh
        (s.writer.written codec sh datagrams guard now draw)) := by
  have hbatch : s.writer.stage.batch = some datagrams := by rw [hstage]; rfl
  unfold BackendWriter.written afterWrite
  rw [hstream]
  dsimp only
  cases hwrite : IngressProtocol.writeFrame codec stream (.batch datagrams) with
  | ok stream' =>
    have hack : StreamLog.acknowledged codec stream (s.number, datagrams) =
        [(s.number, datagrams)] := by
      rw [StreamLog.acknowledged, hwrite]
      rfl
    dsimp only
    rw [hack, moved_of_relayed_add (by rw [IngressShared.counters_dropGuard]; rfl)
      (List.length_pos_iff.mpr hne)]
    exact .wrote hbatch hstream rfl
      (fun _ h => hwrite.trans (congrArg _ (Option.some.inj h))) rfl hack rfl
  | error e =>
    have hack : StreamLog.acknowledged codec stream (s.number, datagrams) = [] := by
      rw [StreamLog.acknowledged, hwrite]
      rfl
    dsimp only
    rw [hack, moved_of_relayed_eq (by rw [IngressShared.counters_dropGuard]; rfl)]
    exact .wrote hbatch hstream rfl (fun _ h => by cases h) rfl hack (List.append_nil _).symm

theorem moves (hsound : s.writer.Sound) (a : WireAction W) : Moves codec s (s.step codec a) := by
  cases a with
  | recv datagrams =>
    dsimp only [step]
    split
    · rename_i hidle
      exact .recv datagrams hidle
    · exact .stay
  | check sh now =>
    dsimp only [step]
    split
    · rename_i hstage
      exact moves_check hstage sh now
    · exact .stay
  | dialed sh acquired left now draw =>
    dsimp only [step]
    split
    · rename_i hstage
      rw [BackendWriter.Sound, hstage] at hsound
      exact moves_dialed hstage hsound sh acquired left now draw
    · exact .stay
  | written sh left now draw =>
    dsimp only [step]
    split
    · rename_i hstage
      rw [BackendWriter.Sound, hstage] at hsound
      obtain ⟨hne, stream, hstream⟩ := hsound
      exact moves_written hstage hne hstream sh left now draw
    · exact .stay

theorem Moves.sound {s' : WireRun W} (h : Moves codec s s') (hsound : s.writer.Sound) :
    s'.writer.Sound := by
  cases h with
  | stay => exact hsound
  | recv => trivial
  | onward _ _ _ sound => exact sound
  | dialed _ _ _ sound => exact sound
  | wrote _ _ _ _ idle => exact BackendWriter.sound_of_idle idle

/-! ## What holds along a run -/

/-- Every stream conforms, and the writer's own is the last one, with everything written so far. -/
structure Wired (codec : Bitcode Envelope) (hello : Envelope) (s : WireRun W) : Prop where
  hello_eq : s.writer.hello = hello
  conforms : ∀ log ∈ s.streams, log.Conforms codec hello
  established : ∀ stream, s.writer.state.stream = some stream →
    ∃ earlier log, s.streams = earlier ++ [log] ∧ log.Established codec hello stream

/-- The batch in hand is the last one of the queue, and no write of it has begun. -/
def InHand (s : WireRun W) (datagrams : List Datagram) : Prop :=
  ∃ earlier, s.queue = earlier ++ [datagrams] ∧ ∀ b ∈ s.attempted, b.1 < earlier.length

/-- The writes of batches follow the queue. -/
structure Placed (s : WireRun W) : Prop where
  inHand : ∀ datagrams, s.writer.stage.batch = some datagrams → s.InHand datagrams
  queued : ∀ b ∈ s.attempted, s.queue[b.1]? = some b.2
  ordered : s.attempted.Pairwise (·.1 < ·.1)

/-- What was counted is what was acknowledged, and lies on the streams. -/
structure Booked (s : WireRun W) : Prop where
  on_streams : s.acknowledged = s.streams.flatMap StreamLog.relayed
  counted_eq : s.counted = s.acknowledged.map fun b => (b.1, b.2.length)

variable {hello : Envelope} {s' : WireRun W}

theorem Moves.wired (h : Moves codec s s') (hw : s.Wired codec hello) : s'.Wired codec hello := by
  cases h with
  | stay => exact hw
  | recv datagrams idle => exact ⟨hw.hello_eq, hw.conforms, hw.established⟩
  | onward hello_eq stream_eq batch_eq sound =>
    refine ⟨hello_eq.trans hw.hello_eq, hw.conforms, fun stream hstream => ?_⟩
    cases stream_eq with
    | inl heq => exact hw.established stream (heq ▸ hstream)
    | inr heq => cases heq.symm.trans hstream
  | @dialed writer stream left hello_eq stream_eq batch_eq sound =>
    refine ⟨hello_eq.trans hw.hello_eq, fun log hlog => ?_, fun stream' hstream' => ?_⟩
    · cases List.mem_append.mp hlog with
      | inl hmem => exact hw.conforms log hmem
      | inr hmem =>
        rw [List.mem_singleton.mp hmem, ← hw.hello_eq]
        exact StreamLog.conforms_dialed s.writer stream left
    · refine ⟨s.streams, _, rfl, ?_⟩
      rw [← hw.hello_eq]
      exact StreamLog.established_dialed left (stream_eq stream' hstream')
  | @wrote writer stream left datagrams ack counted batch_eq stream_eq hello_eq stream'_eq =>
    obtain ⟨earlier, log, hstreams, hlog⟩ := hw.established stream stream_eq
    have hmodified := List.modifyLast_concat
      (StreamLog.wrote codec stream (s.number, datagrams) left) log earlier
    rw [← hstreams] at hmodified
    refine ⟨hello_eq.trans hw.hello_eq, fun log' hlog' => ?_, fun stream' hstream' => ?_⟩
    · rw [hmodified] at hlog'
      cases List.mem_append.mp hlog' with
      | inl hmem => exact hw.conforms log' (hstreams ▸ List.mem_append_left _ hmem)
      | inr hmem =>
        rw [List.mem_singleton.mp hmem]
        cases hwrite : IngressProtocol.writeFrame codec stream (.batch datagrams) with
        | ok stream' => exact (hlog.wrote_ok (s.number, datagrams) left hwrite).conforms
        | error e => exact hlog.wrote_error (s.number, datagrams) left hwrite
    · exact ⟨earlier, _, hmodified,
        hlog.wrote_ok (s.number, datagrams) left (stream'_eq stream' hstream')⟩

/-- The last stream has one more batch, and so have all of them together. -/
theorem attempted_wrote (codec : Bitcode Envelope) (stream : W) (left : Nat) (b : QueuedBatch)
    (hne : ∃ earlier log, s.streams = earlier ++ [log]) :
    (s.streams.modifyLast (.wrote codec stream b left)).flatMap StreamLog.attempted =
        s.attempted ++ [b] ∧
      (s.streams.modifyLast (.wrote codec stream b left)).flatMap StreamLog.relayed =
        s.streams.flatMap StreamLog.relayed ++ StreamLog.acknowledged codec stream b := by
  obtain ⟨earlier, log, hstreams⟩ := hne
  rw [attempted, hstreams, List.modifyLast_concat]
  simp only [List.flatMap_append, List.flatMap_cons, List.flatMap_nil, List.append_nil,
    List.append_assoc, StreamLog.wrote, and_self]

theorem Moves.booked (h : Moves codec s s') (hw : s.Wired codec hello) (hb : s.Booked) :
    s'.Booked := by
  cases h with
  | stay => exact hb
  | recv | onward => exact ⟨hb.on_streams, hb.counted_eq⟩
  | dialed =>
    refine ⟨?_, hb.counted_eq⟩
    rw [List.flatMap_append, ← hb.on_streams]
    exact (List.append_nil _).symm
  | @wrote writer stream left datagrams ack counted batch_eq stream_eq _ _ _ ack_eq counted_eq =>
    obtain ⟨earlier, log, hstreams, -⟩ := hw.established stream stream_eq
    refine ⟨?_, ?_⟩
    · rw [(attempted_wrote codec stream left _ ⟨earlier, log, hstreams⟩).2, ack_eq, hb.on_streams]
    · rw [counted_eq, hb.counted_eq, List.map_append]

theorem Moves.placed (h : Moves codec s s') (hw : s.Wired codec hello) (hp : s.Placed) :
    s'.Placed := by
  cases h with
  | stay => exact hp
  | recv datagrams idle =>
    -- the places that are taken lie inside the queue
    have hlt : ∀ b ∈ s.attempted, b.1 < s.queue.length := fun b hb =>
      (List.getElem?_eq_some_iff.mp (hp.queued b hb)).1
    refine ⟨fun d hd => ⟨s.queue, ?_, hlt⟩, fun b hb => ?_, hp.ordered⟩
    · cases hd
      rfl
    · rw [List.getElem?_append_left (hlt b hb)]
      exact hp.queued b hb
  | onward hello_eq stream_eq batch_eq sound =>
    refine ⟨fun d hd => ?_, hp.queued, hp.ordered⟩
    cases batch_eq with
    | inl heq => cases heq.symm.trans hd
    | inr heq => exact hp.inHand d (heq ▸ hd)
  | @dialed writer stream left hello_eq stream_eq batch_eq sound =>
    -- a stream that is new has no batches
    have hsame : ({ s with writer, streams := s.streams ++ [.dialed codec s.writer stream left] } :
        WireRun W).attempted = s.attempted := by
      show (s.streams ++ [StreamLog.dialed codec s.writer stream left]).flatMap _ = _
      rw [List.flatMap_append]
      exact List.append_nil _
    refine ⟨fun d hd => ?_, hsame ▸ hp.queued, hsame ▸ hp.ordered⟩
    cases batch_eq with
    | inl heq => cases heq.symm.trans hd
    | inr heq =>
      obtain ⟨earlier, hqueue, hlt⟩ := hp.inHand d (heq ▸ hd)
      exact ⟨earlier, hqueue, hsame ▸ hlt⟩
  | @wrote writer stream left datagrams ack counted batch_eq stream_eq _ _ idle =>
    obtain ⟨earlier, log, hstreams, -⟩ := hw.established stream stream_eq
    obtain ⟨queued, hqueue, hlt⟩ := hp.inHand datagrams batch_eq
    have hnumber : s.number = queued.length := by
      rw [number, hqueue, List.length_append]
      rfl
    have hattempted :=
      (attempted_wrote codec stream left (s.number, datagrams) ⟨earlier, log, hstreams⟩).1
    refine ⟨fun d hd => ?_, fun b hb => ?_, ?_⟩
    · rw [show writer.stage = .idle from idle] at hd
      cases hd
    · have hb : b ∈ List.flatMap StreamLog.attempted _ := hb
      rw [hattempted] at hb
      cases List.mem_append.mp hb with
      | inl hmem => exact hp.queued b hmem
      | inr hmem =>
        rw [List.mem_singleton.mp hmem, hnumber]
        show s.queue[queued.length]? = some datagrams
        rw [hqueue, List.getElem?_concat_length]
    · show List.Pairwise _ (List.flatMap _ _)
      rw [hattempted, List.pairwise_append]
      refine ⟨hp.ordered, List.pairwise_singleton _ _, fun b hb b' hb' => ?_⟩
      rw [List.mem_singleton.mp hb', hnumber]
      exact hlt b hb

omit [AsyncWrite W] in
/-- The batches that were written are among those of which a write began, in the same order. -/
theorem relayed_sublist {streams : List StreamLog}
    (h : ∀ log ∈ streams, log.Conforms codec hello) :
    (streams.flatMap StreamLog.relayed).Sublist (streams.flatMap StreamLog.attempted) := by
  induction streams with
  | nil => exact List.Sublist.slnil
  | cons log rest ih =>
    have hlog := (h log List.mem_cons_self).relayed_attempted.sublist
    have hrest := ih fun log' hlog' => h log' (List.mem_cons_of_mem _ hlog')
    rw [List.flatMap_cons, List.flatMap_cons]
    exact hlog.append hrest

end WireRun

/-- In every run of a writer, whatever its checks, dials and writes answer and whatever a failing
    write leaves behind: each stream carries the beginning of preamble, one Hello and batches, with
    every batch that was written there in full; the batches for which `write_frame` returned `Ok` are
    those that raised the counter of relayed datagrams, and are the ones on the streams, in the order
    in which these were dialled and in the order of the queue; and the batches of which a write began
    are different ones of the queue, in its order. -/
theorem writer_streams_conform [AsyncWrite W] (codec : Bitcode Envelope) (w : BackendWriter W)
    (actions : List (WireAction W)) :
    let s := run (WireRun.step codec) (WireRun.start w) actions
    (∀ log ∈ s.streams, log.Conforms codec w.hello) ∧
      s.counted = s.acknowledged.map (fun b => (b.1, b.2.length)) ∧
      s.acknowledged = s.streams.flatMap StreamLog.relayed ∧
      s.acknowledged.Pairwise (·.1 < ·.1) ∧
      s.attempted.Pairwise (·.1 < ·.1) ∧
      ∀ b ∈ s.attempted, s.queue[b.1]? = some b.2 := by
  have hstart : (WireRun.start w).writer.Sound ∧ (WireRun.start w).Wired codec w.hello ∧
      (WireRun.start w).Placed ∧ (WireRun.start w).Booked :=
    ⟨trivial, ⟨rfl, (fun _ h => by cases h), (fun _ h => by cases h)⟩,
      ⟨(fun _ h => by cases h), (fun _ h => by cases h), List.Pairwise.nil⟩, ⟨rfl, rfl⟩⟩
  obtain ⟨-, hwired, hplaced, hbooked⟩ := @run_invariant_of_step _ _ _
    (fun s : WireRun W => s.writer.Sound ∧ s.Wired codec w.hello ∧ s.Placed ∧ s.Booked)
    (fun _ a h =>
      have hmove := WireRun.moves h.1 a
      ⟨hmove.sound h.1, hmove.wired h.2.1, hmove.placed h.2.1 h.2.2.1,
        hmove.booked h.2.1 h.2.2.2⟩)
    (WireRun.start w) hstart actions
  refine ⟨hwired.conforms, hbooked.counted_eq, hbooked.on_streams, ?_, hplaced.ordered,
    hplaced.queued⟩
  rw [hbooked.on_streams]
  exact hplaced.ordered.sublist (WireRun.relayed_sublist hwired.conforms)

end Reduction
