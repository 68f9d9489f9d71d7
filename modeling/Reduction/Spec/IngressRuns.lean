import Reduction.ForStd.Run
import Reduction.Native.UdpIngress

/-!
# Runs of a UDP ingress worker and its writers

The tasks interleave between their `await`s: `IngressState.step` is one stretch
of one of them, or an event from outside.  An action that its task cannot take
in a state changes nothing.

Datagrams move along the *line* of their backend: from the open batch through
the queue into the writer's hands.  `step_counts` and `step_line` say once what
a step does to the counters and to the lines; everything about whole runs
follows from these two.
-/

namespace Reduction

open Run

variable {W : Type} {codec : Bitcode Envelope}

/-! ## Actions -/

inductive IngressAction (W : Type) where
  /-- The worker's `select!`. -/
  | datagram (arrival : Arrival)
  | tick (now : Instant)
  | reload (cfg : ReductionConfig)
  | stopWorker
  /-- A writer's `select!`, and the three stretches of `write_batch`. -/
  | dequeue (id : BackendId)
  | check (id : BackendId) (now : Instant)
  | dial (id : BackendId) (acquired : Except ReductionError W) (now : Instant) (draw : Nat)
  | write (id : BackendId) (now : Instant) (draw : Nat)
  | hangUp (id : BackendId)
  | stopWriter (id : BackendId)
  /-- The other workers use the same breakers. -/
  | breakers (circuit : CircuitBreakers)
  | shutdown

namespace BackendWriter

def checkStep (w : BackendWriter W) (sh : IngressShared) (now : Instant) :
    Option (BackendWriter W × IngressShared) :=
  match w.stage with
  | .holding datagrams => some (w.gate sh datagrams now)
  | _ => none

variable [AsyncWrite W]

def dialStep (codec : Bitcode Envelope) (w : BackendWriter W) (sh : IngressShared)
    (acquired : Except ReductionError W) (now : Instant) (draw : Nat) :
    Option (BackendWriter W × IngressShared) :=
  match w.stage with
  | .dialing datagrams guard => some (w.dialed codec sh datagrams guard acquired now draw)
  | _ => none

def writeStep (codec : Bitcode Envelope) (w : BackendWriter W) (sh : IngressShared) (now : Instant)
    (draw : Nat) : Option (BackendWriter W × IngressShared) :=
  match w.stage with
  | .writing datagrams guard => some (w.written codec sh datagrams guard now draw)
  | _ => none

/-- What `writeStep` relays. -/
def relays (codec : Bitcode Envelope) (w : BackendWriter W) : List Datagram :=
  match w.stage, w.state.stream with
  | .writing datagrams _, some stream =>
    if (IngressProtocol.writeFrame codec stream (.batch datagrams)).toBool then datagrams else []
  | _, _ => []

end BackendWriter

/-- The interval is started anew with a period of zero, which is refused with a panic: the worker ends
    and its batches are dropped. -/
def UdpIngress.reloadPanics (ui : UdpIngress) (cfg : ReductionConfig) : Bool :=
  (ui.applyReload cfg).2 && (ui.applyReload cfg).1.limits.linger = 0

def Worker.isRunning : Worker → Bool
  | .running _ => true
  | _ => false

namespace IngressState

/-- The worker runs one of its functions. -/
def onWorker (s : IngressState W)
    (f : UdpIngress → Lanes W → IngressShared → UdpIngress × Lanes W × IngressShared) :
    IngressState W :=
  match s.worker with
  | .running ui =>
    let r := f ui s.lanes s.shared
    { s with worker := .running r.1, lanes := r.2.1, shared := r.2.2 }
  | _ => s

/-- The writer of a backend runs one of its functions. -/
def onWriter (s : IngressState W) (id : BackendId)
    (f : BackendWriter W → IngressShared → Option (BackendWriter W × IngressShared)) :
    IngressState W :=
  match s.lanes.get id with
  | none => s
  | some lane =>
    match lane.writer.bind fun w => f w s.shared with
    | none => s
    | some (w, sh) => { s with lanes := s.lanes.insert id (lane.withWriter w), shared := sh }

/-- The `config_rx` branch. -/
def reload (s : IngressState W) (cfg : ReductionConfig) : IngressState W :=
  match s.worker with
  | .running ui =>
    if ui.reloadPanics cfg then { s with worker := .panicked }
    else { s with worker := .running (ui.applyReload cfg).1 }
  | _ => s

def step [AsyncWrite W] (codec : Bitcode Envelope) (s : IngressState W) :
    IngressAction W → IngressState W
  | .datagram arrival => s.onWorker fun ui lanes sh => ui.handleDatagram lanes sh arrival
  | .tick now => s.onWorker fun ui lanes sh => ui.flushExpired lanes sh now
  | .reload cfg => if cfg.validate.toBool then s.reload cfg else s
  | .stopWorker =>
    match s.worker with
    | .running ui =>
      if s.shutdown then
        let r := ui.flushAll s.lanes s.shared
        { s with worker := .finished, lanes := r.2.1, shared := r.2.2 }
      else s
    | _ => s
  | .dequeue id =>
    match (s.lanes.get id).bind Lane.dequeue with
    | some lane => { s with lanes := s.lanes.insert id lane }
    | none => s
  | .check id now => s.onWriter id fun w sh => w.checkStep sh now
  | .dial id acquired now draw => s.onWriter id fun w sh => w.dialStep codec sh acquired now draw
  | .write id now draw => s.onWriter id fun w sh => w.writeStep codec sh now draw
  | .hangUp id =>
    match s.lanes.get id with
    | some lane =>
      -- `recv` gives nothing only when no sender is left and the queue is empty
      if !s.worker.isRunning && lane.isIdle && lane.channel.queue.isEmpty then
        { s with lanes := s.lanes.insert id lane.finish }
      else s
    | none => s
  | .stopWriter id =>
    match s.lanes.get id with
    | some lane =>
      if s.shutdown && lane.isIdle then { s with lanes := s.lanes.insert id lane.finish } else s
    | none => s
  | .breakers circuit => { s with shared := { s.shared with circuit } }
  | .shutdown => { s with shutdown := true }

end IngressState

/-! ## Lines -/

/-- What a lane holds, the datagrams that came first at the front. -/
def Lane.line (lane : Lane W) : List Datagram :=
  (lane.writer.elim [] fun w => w.stage.inHand) ++ lane.channel.queue.flatten

def Lanes.line (lanes : Lanes W) (id : BackendId) : List Datagram :=
  (lanes.get id).elim [] Lane.line

def UdpIngress.openBatch (ui : UdpIngress) (id : BackendId) : List Datagram :=
  (ui.batches.get id).elim [] Batch.datagrams

def Worker.openBatch : Worker → BackendId → List Datagram
  | .running ui, id => ui.openBatch id
  | _, _ => []

/-- The number of datagrams in open batches. -/
def Worker.held : Worker → Nat
  | .running ui => ui.batches.total Batch.len
  | _ => 0

namespace IngressState

/-- All datagrams on their way to a backend, in the order in which they were selected for it. -/
def line (s : IngressState W) (id : BackendId) : List Datagram :=
  s.lanes.line id ++ s.worker.openBatch id

/-- The datagrams in open batches, in queues and in writers' hands. -/
def held (s : IngressState W) : Nat :=
  s.worker.held + s.lanes.total fun lane => lane.line.length

/-- The datagrams that an action discards without counting them: those in the open batches of a
    worker that panics, and those in the queue of a writer that stops. -/
def lostBy (s : IngressState W) : IngressAction W → Nat
  | .reload cfg =>
    match s.worker with
    | .running ui => if cfg.validate.toBool && ui.reloadPanics cfg then s.worker.held else 0
    | _ => 0
  | .stopWriter id =>
    match s.lanes.get id with
    | some lane => if s.shutdown && lane.isIdle then lane.line.length else 0
    | none => 0
  | _ => 0

/-- The datagrams that an action admits and selects for a backend. -/
def selectedBy (s : IngressState W) (id : BackendId) : IngressAction W → List Datagram
  | .datagram arrival =>
    match s.worker with
    | .running ui =>
      if (admitDatagram ui.acl arrival.rateLimited arrival.src.ip arrival.payload.length
          ui.maxDatagramBytes).toBool then
        match ui.selectFor arrival with
        | some backend => if backend.id = id then [arrival.datagram] else []
        | none => []
      else []
    | _ => []
  | _ => []

/-- The datagrams that an action relays to a backend. -/
def relayedBy [AsyncWrite W] (codec : Bitcode Envelope) (s : IngressState W) (id : BackendId) :
    IngressAction W → List Datagram
  | .write id' _ _ =>
    if id' = id then ((s.lanes.get id).bind Lane.writer).elim [] (BackendWriter.relays codec) else []
  | _ => []

end IngressState

/-! ## Counters -/

theorem IngressCounters.totalDropped_recordDrop (c : IngressCounters) (reason : DropReason)
    (count : Nat) : (c.recordDrop reason count).totalDropped = c.totalDropped + count := by
  cases reason <;> simp [totalDropped, recordDrop, DropReason.all, Function.update] <;> omega

@[simp] theorem IngressShared.counters_dropGuard (sh : IngressShared) (g : Option HalfOpenGuard) :
    (sh.dropGuard g).counters = sh.counters := by
  cases g <;> rfl

/-! ## Writers -/

/-- What a stretch of `write_batch` may do with the batch in hand: keep it, drop it and count that,
    or relay it.  The list is what was relayed. -/
inductive WriterMove (w : BackendWriter W) (sh : IngressShared) :
    BackendWriter W × IngressShared → List Datagram → Prop
  | keep {w' : BackendWriter W} {sh' : IngressShared} (hand : w'.stage.inHand = w.stage.inHand)
      (counters : sh'.counters = sh.counters) : WriterMove w sh (w', sh') []
  | drop {w' : BackendWriter W} {sh' : IngressShared} (reason : DropReason)
      (hand : w'.stage.inHand = [])
      (counters : sh'.counters = sh.counters.recordDrop reason w.stage.inHand.length) :
      WriterMove w sh (w', sh') []
  | relay {w' : BackendWriter W} {sh' : IngressShared} {out : List Datagram}
      (hand : w'.stage.inHand = []) (out_eq : out = w.stage.inHand)
      (counters : sh'.counters = sh.counters.recordRelayed out.length) :
      WriterMove w sh (w', sh') out

namespace WriterMove

variable {w : BackendWriter W} {sh : IngressShared} {r : BackendWriter W × IngressShared}
  {out : List Datagram}

theorem received (h : WriterMove w sh r out) :
    r.2.counters.received = sh.counters.received := by
  cases h with
  | keep hand counters => rw [counters]
  | drop reason hand counters => rw [counters]; rfl
  | relay hand out_eq counters => rw [counters]; rfl

/-- What leaves the hand is counted. -/
theorem counts (h : WriterMove w sh r out) :
    r.2.counters.relayed + r.2.counters.totalDropped + r.1.stage.inHand.length =
      sh.counters.relayed + sh.counters.totalDropped + w.stage.inHand.length := by
  cases h with
  | keep hand counters => rw [hand, counters]
  | drop reason hand counters =>
    rw [hand, counters, IngressCounters.totalDropped_recordDrop]
    show sh.counters.relayed + _ + 0 = _
    omega
  | relay hand out_eq counters =>
    rw [hand, counters, out_eq]
    show sh.counters.relayed + _ + sh.counters.totalDropped + 0 = _
    omega

theorem hand (h : WriterMove w sh r out) : (out ++ r.1.stage.inHand).Sublist w.stage.inHand := by
  cases h with
  | keep hand counters => rw [hand]; exact List.Sublist.refl _
  | drop reason hand counters => rw [hand]; exact List.nil_sublist _
  | relay hand out_eq counters => rw [hand, out_eq, List.append_nil]

end WriterMove

namespace BackendWriter

variable {w : BackendWriter W} {sh : IngressShared} {datagrams : List Datagram}
  {guard : Option HalfOpenGuard} {r : BackendWriter W × IngressShared} {now : Instant} {draw : Nat}

theorem gate_move (hhand : w.stage.inHand = datagrams) :
    WriterMove w sh (w.gate sh datagrams now) [] := by
  unfold gate
  dsimp only
  split
  · rename_i hempty
    rw [List.isEmpty_iff] at hempty
    exact .keep (by rw [hhand, hempty]; rfl) rfl
  · split
    · exact .drop .circuitOpen rfl (by rw [hhand, IngressShared.counters_dropGuard]; rfl)
    · split
      · exact .drop .circuitOpen rfl (by rw [hhand, IngressShared.counters_dropGuard]; rfl)
      · split
        · exact .keep hhand.symm rfl
        · exact .keep hhand.symm rfl

theorem checkStep_move (h : w.checkStep sh now = some r) : WriterMove w sh r [] := by
  unfold checkStep at h
  split at h
  · rename_i datagrams hstage
    cases h
    exact gate_move (by rw [hstage]; rfl)
  · cases h

variable [AsyncWrite W]

theorem dialed_move (hhand : w.stage.inHand = datagrams) (acquired : Except ReductionError W) :
    WriterMove w sh (w.dialed codec sh datagrams guard acquired now draw) [] := by
  unfold dialed
  split
  · exact .keep hhand.symm rfl
  · exact .drop .protocol rfl (by rw [hhand, IngressShared.counters_dropGuard])

theorem written_move (hstage : w.stage = .writing datagrams guard) :
    WriterMove w sh (w.written codec sh datagrams guard now draw) (w.relays codec) := by
  have hhand : w.stage.inHand = datagrams := by rw [hstage]; rfl
  unfold written relays
  rw [hstage]
  cases hstream : w.state.stream with
  | none => exact .drop .protocol rfl (by rw [hhand, IngressShared.counters_dropGuard]; rfl)
  | some stream =>
    dsimp only
    cases hwrite : IngressProtocol.writeFrame codec stream (.batch datagrams) with
    | ok stream' =>
      exact .relay rfl hhand.symm (by rw [IngressShared.counters_dropGuard]; rfl)
    | error e =>
      exact .drop .protocol rfl (by rw [hhand, IngressShared.counters_dropGuard]; rfl)

theorem dialStep_move {acquired : Except ReductionError W}
    (h : w.dialStep codec sh acquired now draw = some r) : WriterMove w sh r [] := by
  unfold dialStep at h
  split at h
  · rename_i datagrams guard hstage
    cases h
    exact dialed_move (by rw [hstage]; rfl) acquired
  · cases h

theorem writeStep_move (h : w.writeStep codec sh now draw = some r) :
    WriterMove w sh r (w.relays codec) := by
  unfold writeStep at h
  split at h
  · rename_i datagrams guard hstage
    cases h
    exact written_move hstage
  · cases h

/-- A writer that is not in the middle of a write relays nothing. -/
theorem relays_of_writeStep_none (h : w.writeStep codec sh now draw = none) :
    w.relays codec = [] := by
  unfold writeStep at h
  split at h
  · cases h
  · rename_i hstage
    unfold relays
    split
    · rename_i datagrams guard _ hwriting _
      exact absurd hwriting (hstage datagrams guard)
    · rfl

end BackendWriter

/-! ## The worker -/

/-- What the worker moves: `n` datagrams come in, those in `selected` go to the end of their lines,
    and everything that leaves a line is counted. -/
structure WorkerMove (p p' : UdpIngress × Lanes W × IngressShared) (n : Nat)
    (selected : BackendId → List Datagram) : Prop where
  received : p'.2.2.counters.received = p.2.2.counters.received + n
  relayed : p'.2.2.counters.relayed = p.2.2.counters.relayed
  settled : p'.2.2.counters.totalDropped + p'.1.batches.total Batch.len +
      p'.2.1.total (fun lane => lane.line.length) =
    p.2.2.counters.totalDropped + p.1.batches.total Batch.len +
      p.2.1.total (fun lane => lane.line.length) + n
  line : ∀ id, (p'.2.1.line id ++ p'.1.openBatch id).Sublist
    (p.2.1.line id ++ p.1.openBatch id ++ selected id)

theorem WorkerMove.refl (p : UdpIngress × Lanes W × IngressShared) :
    WorkerMove p p 0 fun _ => [] where
  received := rfl
  relayed := rfl
  settled := rfl
  line id := by rw [List.append_nil]

/-- Nothing comes in with the second move. -/
theorem WorkerMove.trans {p p' p'' : UdpIngress × Lanes W × IngressShared} {n : Nat}
    {selected : BackendId → List Datagram} (h : WorkerMove p p' n selected)
    (h' : WorkerMove p' p'' 0 fun _ => []) : WorkerMove p p'' n selected where
  received := by rw [h'.received, h.received]; rfl
  relayed := by rw [h'.relayed, h.relayed]
  settled := by rw [h'.settled, h.settled]; rfl
  line id := by
    have := h'.line id
    rw [List.append_nil] at this
    exact this.trans (h.line id)

theorem Lanes.line_insert (lanes : Lanes W) (id id' : BackendId) (lane : Lane W) :
    Lanes.line (DashMap.insert lanes id lane) id' =
      if id' = id then lane.line else Lanes.line lanes id' := by
  unfold Lanes.line
  rw [DashMap.get_insert]
  split <;> rfl

variable {lane : Lane W}

variable {lane' : Lane W}

theorem Lane.trySend_ok {datagrams : List Datagram} (h : lane.trySend datagrams = .ok lane') :
    lane'.line = lane.line ++ datagrams := by
  unfold Lane.trySend at h
  split at h
  · rename_i channel hsend
    cases h
    unfold Lane.line
    rw [(Channel.trySend_ok hsend).1, List.flatten_append, List.flatten_singleton,
      List.append_assoc]
  · cases h

namespace UdpIngress

variable (ui : UdpIngress) (lanes : Lanes W) (sh : IngressShared) (id : BackendId)
  (ids : List BackendId)

variable (a : Arrival)

theorem datagrams_batchWith : (ui.batchWith id a).datagrams = ui.openBatch id ++ [a.datagram] := by
  unfold batchWith openBatch
  cases ui.batches.get id <;> rfl

variable (p : UdpIngress × Lanes W × IngressShared) (id' : BackendId)

theorem openBatch_insert (batch : Batch) :
    ({ ui with batches := ui.batches.insert id batch } : UdpIngress).openBatch id' =
      if id' = id then batch.datagrams else ui.openBatch id' := by
  unfold openBatch
  rw [DashMap.get_insert]
  split <;> rfl

/-- What a flush comes to: nothing waits, or the batch is taken and goes to the lane of its backend
    or nowhere. -/
inductive FlushCase (ui : UdpIngress) (lanes : Lanes W) (sh : IngressShared) (id : BackendId) :
    UdpIngress × Lanes W × IngressShared → Prop
  | idle (hopen : ui.openBatch id = []) : FlushCase ui lanes sh id (ui, lanes, sh)
  | dropped (reason : DropReason)
      (hrefused : ∀ lane, lanes.get id = some lane → ∀ lane',
        lane.trySend (ui.openBatch id) ≠ .ok lane') :
      FlushCase ui lanes sh id ({ ui with batches := ui.batches.insert id .new }, lanes,
        sh.recordDrop reason (ui.openBatch id).length)
  | sent {lane lane' : Lane W} (hopen : ui.openBatch id ≠ []) (hlane : lanes.get id = some lane)
      (hsend : lane.trySend (ui.openBatch id) = .ok lane') :
      FlushCase ui lanes sh id
        ({ ui with batches := ui.batches.insert id .new }, lanes.insert id lane', sh)

theorem flushBackend_case : FlushCase ui lanes sh id (ui.flushBackend lanes sh id) := by
  unfold flushBackend
  cases hbatch : ui.batches.get id with
  | none => exact .idle (by rw [openBatch, hbatch]; rfl)
  | some batch =>
    have hopen : batch.datagrams = ui.openBatch id := by rw [openBatch, hbatch]; rfl
    simp only [Batch.isEmpty, Batch.take, enqueueBatch, hopen]
    by_cases hempty : (ui.openBatch id).isEmpty = true
    · rw [if_pos hempty]
      exact .idle (List.isEmpty_iff.mp hempty)
    · simp only [hempty, Bool.false_eq_true, if_false]
      cases hlane : lanes.get id with
      | none => exact .dropped .noBackend fun lane h => absurd (hlane.symm.trans h) (by simp)
      | some lane =>
        dsimp only
        cases hsend : lane.trySend (ui.openBatch id) with
        | ok lane' => exact .sent (fun h => hempty (List.isEmpty_iff.mpr h)) hlane hsend
        | error e =>
          have hrefused : ∀ lane₁, lanes.get id = some lane₁ → ∀ lane',
              lane₁.trySend (ui.openBatch id) ≠ .ok lane' := by
            intro lane₁ hlane₁ lane' hsend'
            cases hlane.symm.trans hlane₁
            cases hsend.symm.trans hsend'
          cases e with
          | full => exact .dropped .backpressure hrefused
          | closed => exact .dropped .noBackend hrefused

/-- A flush changes the batches only. -/
theorem flushBackend_eq : ∃ batches, (ui.flushBackend lanes sh id).1 = { ui with batches } := by
  have hcase := ui.flushBackend_case lanes sh id
  generalize ui.flushBackend lanes sh id = p at hcase ⊢
  cases hcase <;> exact ⟨_, rfl⟩

theorem flushEach_eq : ∃ batches, (ui.flushEach lanes sh ids).1 = { ui with batches } := by
  unfold flushEach
  induction ids generalizing ui lanes sh with
  | nil => exact ⟨_, rfl⟩
  | cons id ids ih =>
    rw [List.foldl_cons]
    obtain ⟨batches, heq⟩ := ui.flushBackend_eq lanes sh id
    obtain ⟨batches', heq'⟩ := ih (ui.flushBackend lanes sh id).1
      (ui.flushBackend lanes sh id).2.1 (ui.flushBackend lanes sh id).2.2
    exact ⟨batches', heq'.trans (by rw [heq])⟩

/-- And so does a datagram. -/
theorem handleDatagram_eq : ∃ batches, (ui.handleDatagram lanes sh a).1 = { ui with batches } := by
  unfold handleDatagram
  dsimp only
  split
  · exact ⟨_, rfl⟩
  · split
    · exact ⟨_, rfl⟩
    · split
      · exact flushBackend_eq _ _ _ _
      · exact ⟨_, rfl⟩

theorem length_openBatch : (ui.openBatch id).length = (ui.batches.get id).elim 0 Batch.len := by
  unfold openBatch
  cases ui.batches.get id <;> rfl

theorem flushBackend_move :
    WorkerMove (ui, lanes, sh) (ui.flushBackend lanes sh id) 0 fun _ => [] := by
  have htaken : (ui.batches.insert id .new).total Batch.len + (ui.openBatch id).length =
      ui.batches.total Batch.len := by
    rw [DashMap.total_insert, DashMap.total_eq_add _ ui.batches id, length_openBatch]
    show 0 + _ + _ = _
    omega
  have hcase := ui.flushBackend_case lanes sh id
  generalize ui.flushBackend lanes sh id = p at hcase ⊢
  cases hcase with
  | idle hopen => exact .refl _
  | dropped reason hrefused =>
    refine ⟨rfl, rfl, ?_, ?_⟩
    · dsimp only [IngressShared.recordDrop]
      rw [IngressCounters.totalDropped_recordDrop]
      omega
    · intro id'
      rw [List.append_nil, openBatch_insert]
      apply List.Sublist.append_left
      split
      · exact List.nil_sublist _
      · exact List.Sublist.refl _
  | @sent _ lane' hopen hlane hsend =>
    have hline := Lane.trySend_ok hsend
    have htotal : (DashMap.insert lanes id lane').total (fun lane => lane.line.length) =
        lanes.total (fun lane => lane.line.length) + (ui.openBatch id).length := by
      rw [DashMap.total_insert, DashMap.total_eq_add _ lanes id, hlane, hline, List.length_append,
        Option.elim_some]
      omega
    refine ⟨rfl, rfl, ?_, ?_⟩
    · dsimp only
      omega
    · intro id'
      rw [List.append_nil, openBatch_insert, Lanes.line_insert]
      by_cases hid : id' = id
      · rw [if_pos hid, if_pos hid, hline, hid, Lanes.line, hlane, Option.elim_some]
        show (_ ++ []).Sublist _
        rw [List.append_nil]
      · rw [if_neg hid, if_neg hid]

theorem flushEach_move : WorkerMove p (p.1.flushEach p.2.1 p.2.2 ids) 0 fun _ => [] := by
  unfold flushEach
  induction ids generalizing p with
  | nil => exact .refl _
  | cons id ids ih =>
    rw [List.foldl_cons]
    exact (flushBackend_move p.1 p.2.1 p.2.2 id).trans (ih _)

/-- The datagram that arrives is counted, and goes to the end of the line that is selected for it. -/
theorem handleDatagram_move :
    WorkerMove (ui, lanes, sh) (ui.handleDatagram lanes sh a) 1 fun id =>
      if (admitDatagram ui.acl a.rateLimited a.src.ip a.payload.length
          ui.maxDatagramBytes).toBool then
        match ui.selectFor a with
        | some backend => if backend.id = id then [a.datagram] else []
        | none => []
      else [] := by
  have hdropped : ∀ reason, WorkerMove (ui, lanes, sh) (ui, lanes, IngressShared.recordDrop
      { sh with counters := sh.counters.recordReceived } reason 1) 1 fun _ => [] := by
    intro reason
    refine ⟨rfl, rfl, ?_, fun id => by rw [List.append_nil]⟩
    dsimp only [IngressShared.recordDrop]
    rw [IngressCounters.totalDropped_recordDrop]
    show sh.counters.totalDropped + 1 + _ + _ = _
    omega
  unfold handleDatagram
  cases hadmit : admitDatagram ui.acl a.rateLimited a.src.ip a.payload.length
      ui.maxDatagramBytes with
  | error reason => exact hdropped reason
  | ok u =>
    cases hselect : ui.selectFor a with
    | none => exact hdropped .noBackend
    | some backend =>
      dsimp only
      have hpush : WorkerMove (ui, lanes, sh)
          ({ ui with batches := ui.batches.insert backend.id (ui.batchWith backend.id a) }, lanes,
            { sh with counters := sh.counters.recordReceived }) 1
          (fun id => if backend.id = id then [a.datagram] else []) := by
        refine ⟨rfl, rfl, ?_, ?_⟩
        · have hlen : (ui.batchWith backend.id a).len =
              (ui.batches.get backend.id).elim 0 Batch.len + 1 := by
            rw [Batch.len, datagrams_batchWith, List.length_append, length_openBatch]
            rfl
          dsimp only
          rw [DashMap.total_insert, DashMap.total_eq_add _ ui.batches backend.id, hlen]
          show sh.counters.totalDropped + _ + _ = _
          omega
        · intro id
          rw [openBatch_insert]
          by_cases hid : id = backend.id
          · rw [if_pos hid, if_pos hid.symm, datagrams_batchWith, hid, List.append_assoc]
          · rw [if_neg hid, if_neg (Ne.symm hid), List.append_nil]
      split
      · exact hpush.trans (flushBackend_move ..)
      · exact hpush

/-- A flush empties its batch and no other one. -/
theorem openBatch_flushBackend :
    (ui.flushBackend lanes sh id).1.openBatch id' =
      if id' = id then [] else ui.openBatch id' := by
  have hcase := ui.flushBackend_case lanes sh id
  generalize ui.flushBackend lanes sh id = p at hcase ⊢
  cases hcase with
  | idle hopen =>
    split
    · rename_i hid
      rw [hid]
      exact hopen
    · rfl
  | dropped reason hrefused => exact openBatch_insert ui id id' _
  | sent hopen hlane hsend => exact openBatch_insert ui id id' _

theorem openBatch_flushEach (id : BackendId) :
    (p.1.flushEach p.2.1 p.2.2 ids).1.openBatch id =
      if id ∈ ids then [] else p.1.openBatch id := by
  unfold flushEach
  induction ids generalizing p with
  | nil => rfl
  | cons id' ids ih =>
    rw [List.foldl_cons, ih, openBatch_flushBackend]
    by_cases hid : id = id'
    · simp [hid]
    · simp [hid]

/-- After `flush_all` nothing is left in the batches. -/
theorem total_flushAll : (ui.flushAll lanes sh).1.batches.total Batch.len = 0 := by
  apply DashMap.total_eq_zero
  intro id batch hbatch
  have hopen := openBatch_flushEach ui.batches.keys (ui, lanes, sh) id
  have hempty : (ui.flushAll lanes sh).1.openBatch id = [] := by
    show (ui.flushEach lanes sh ui.batches.keys).1.openBatch id = []
    rw [hopen]
    split
    · rfl
    · rename_i hkey
      have hnone : ui.batches.get id = none := by
        rw [DashMap.get, AList.lookup_eq_none]
        exact hkey
      rw [openBatch, hnone]
      rfl
  rw [openBatch, hbatch] at hempty
  exact List.length_eq_zero_iff.mpr hempty

end UdpIngress

/-- A lane without a writer holds nothing. -/
theorem Lane.line_of_gone (h : lane.writer = none) : lane.line = [] := by
  rw [Lane.line, h, lane.channel.drained (lane.gone_closed h)]
  rfl

theorem Lane.line_of_isIdle (h : lane.isIdle = true) (hqueue : lane.channel.queue = []) :
    lane.line = [] := by
  unfold Lane.isIdle at h
  unfold Lane.line
  split at h
  · rename_i writer hwriter
    rw [decide_eq_true_eq] at h
    rw [hwriter, hqueue, Option.elim_some, h]
    rfl
  · cases h

theorem Lane.line_dequeue (h : lane.dequeue = some lane') : lane'.line = lane.line := by
  unfold Lane.dequeue at h
  split at h
  · rename_i writer datagrams channel hwriter hrecv
    split at h
    · rename_i hidle
      cases h
      unfold Lane.line
      rw [hwriter, (Channel.recv_eq_some hrecv).1, List.flatten_cons, Option.elim_some,
        Option.elim_some, hidle]
      rfl
    · cases h
  · cases h

/-! ## Steps -/

namespace IngressState

/-- The datagrams that are accounted for. -/
def settled (s : IngressState W) : Nat :=
  s.shared.counters.relayed + s.shared.counters.totalDropped + s.held

/-- What a step does to the counters and to the lines: `lost` datagrams leave a line uncounted,
    those in `selected` enter at the end, those in `relayed` leave at the front. -/
structure Move (s s' : IngressState W) (lost : Nat) (selected relayed : BackendId → List Datagram) :
    Prop where
  counts : s'.shared.counters.received + s.settled =
    s.shared.counters.received + s'.settled + lost
  line : ∀ id, (relayed id ++ s'.line id).Sublist (s.line id ++ selected id)

theorem Move.refl (s : IngressState W) : s.Move s 0 (fun _ => []) fun _ => [] where
  counts := rfl
  line id := by rw [List.append_nil, List.nil_append]

variable {s : IngressState W} {id : BackendId} {lane lane' : Lane W}

variable {ui : UdpIngress}
  {f : BackendWriter W → IngressShared → Option (BackendWriter W × IngressShared)} {lost : Nat}

theorem onWorker_move (hworker : s.worker = .running ui)
    {f : UdpIngress → Lanes W → IngressShared → UdpIngress × Lanes W × IngressShared} {n : Nat}
    {selected : BackendId → List Datagram}
    (hf : WorkerMove (ui, s.lanes, s.shared) (f ui s.lanes s.shared) n selected) :
    s.Move (s.onWorker f) 0 selected fun _ => [] := by
  have hs : s.onWorker f =
      { s with
        worker := .running (f ui s.lanes s.shared).1
        lanes := (f ui s.lanes s.shared).2.1
        shared := (f ui s.lanes s.shared).2.2 } := by
    rw [onWorker, hworker]
  rw [hs]
  constructor
  · have hreceived := hf.received
    have hrelayed := hf.relayed
    have hsettled := hf.settled
    unfold settled held
    rw [hworker]
    dsimp only [Worker.held] at hreceived hrelayed hsettled ⊢
    omega
  · intro id
    unfold line
    rw [hworker]
    exact hf.line id

theorem line_of_get (hlane : s.lanes.get id = some lane) :
    s.line id = lane.line ++ s.worker.openBatch id := by
  rw [line, Lanes.line, hlane, Option.elim_some]

/-- A step that replaces a lane, and counts and relays what leaves it. -/
theorem Move.of_lane (hlane : s.lanes.get id = some lane) {sh : IngressShared} {out : List Datagram}
    (hreceived : sh.counters.received = s.shared.counters.received)
    (hcounts : sh.counters.relayed + sh.counters.totalDropped + lane'.line.length + lost =
      s.shared.counters.relayed + s.shared.counters.totalDropped + lane.line.length)
    (hline : (out ++ lane'.line).Sublist lane.line) :
    s.Move { s with lanes := s.lanes.insert id lane', shared := sh } lost (fun _ => [])
      fun id' => if id = id' then out else [] := by
  constructor
  · unfold settled held
    dsimp only
    rw [DashMap.total_insert, DashMap.total_eq_add _ s.lanes id, hlane, Option.elim_some, hreceived]
    omega
  · intro id'
    rw [List.append_nil, IngressState.line, Lanes.line_insert]
    by_cases hid : id = id'
    · rw [if_pos hid, if_pos hid.symm, ← hid, line_of_get hlane, ← List.append_assoc]
      exact hline.append_right _
    · rw [if_neg hid, if_neg (Ne.symm hid), List.nil_append, IngressState.line]

/-- A step that replaces a lane, and counts and relays nothing. -/
theorem Move.of_lane_silent (hlane : s.lanes.get id = some lane)
    (hcounts : lane'.line.length + lost = lane.line.length) (hline : lane'.line.Sublist lane.line) :
    s.Move { s with lanes := s.lanes.insert id lane' } lost (fun _ => []) fun _ => [] := by
  have hmove : s.Move { s with lanes := s.lanes.insert id lane', shared := s.shared } lost
      (fun _ => []) fun id' => if id = id' then [] else [] :=
    Move.of_lane hlane rfl (by omega) hline
  simpa using hmove

theorem onWriter_eq (s : IngressState W) (id : BackendId)
    (f : BackendWriter W → IngressShared → Option (BackendWriter W × IngressShared)) :
    (s.onWriter id f = s ∧ ((s.lanes.get id).bind Lane.writer).bind (f · s.shared) = none) ∨
      ∃ lane w r, s.lanes.get id = some lane ∧ lane.writer = some w ∧ f w s.shared = some r ∧
        s.onWriter id f =
          { s with lanes := s.lanes.insert id (lane.withWriter r.1), shared := r.2 } := by
  unfold onWriter
  cases hlane : s.lanes.get id with
  | none => exact .inl ⟨rfl, rfl⟩
  | some lane =>
    dsimp only
    cases hwriter : lane.writer.bind (f · s.shared) with
    | none => exact .inl ⟨rfl, hwriter⟩
    | some r =>
      obtain ⟨w, hw, hr⟩ := Option.bind_eq_some_iff.mp hwriter
      exact .inr ⟨lane, w, r, rfl, hw, hr, rfl⟩

theorem onWriter_move {out : BackendWriter W → List Datagram}
    (hsome : ∀ w sh r, f w sh = some r → WriterMove w sh r (out w))
    (hnone : ∀ w sh, f w sh = none → out w = []) (s : IngressState W) (id : BackendId) :
    s.Move (s.onWriter id f) 0 (fun _ => []) fun id' =>
      if id = id' then ((s.lanes.get id').bind Lane.writer).elim [] out else [] := by
  rcases s.onWriter_eq id f with ⟨hs, hidle⟩ | ⟨lane, w, r, hlane, hwriter, hf, hs⟩
  · have heq : (fun id' => if id = id' then ((s.lanes.get id').bind Lane.writer).elim [] out
        else []) = fun _ => [] := by
      funext id'
      split
      · rename_i hid
        rw [← hid]
        cases hw : (s.lanes.get id).bind Lane.writer with
        | none => rfl
        | some w =>
          rw [hw] at hidle
          exact hnone w s.shared hidle
      · rfl
    rw [hs, heq]
    exact .refl s
  · have heq : (fun id' => if id = id' then
        ((s.lanes.get id').bind Lane.writer).elim [] out else []) =
        fun id' => if id = id' then out w else [] := by
      funext id'
      split
      · rename_i hid
        rw [← hid, hlane, Option.bind_some, hwriter, Option.elim_some]
      · rfl
    have hold : lane.line = w.stage.inHand ++ lane.channel.queue.flatten := by
      rw [Lane.line, hwriter, Option.elim_some]
    have hnew : ∀ w' : BackendWriter W, (lane.withWriter w').line =
        w'.stage.inHand ++ lane.channel.queue.flatten := fun _ => rfl
    rw [hs, heq]
    have hmove := hsome w s.shared r hf
    refine Move.of_lane hlane hmove.received ?_ ?_
    · have hcounts := hmove.counts
      rw [hold, hnew, List.length_append, List.length_append]
      omega
    · rw [hold, hnew, ← List.append_assoc]
      exact hmove.hand.append_right _

/-- A writer's step that relays nothing. -/
theorem onWriter_move_silent (hsome : ∀ w sh r, f w sh = some r → WriterMove w sh r [])
    (s : IngressState W) (id : BackendId) :
    s.Move (s.onWriter id f) 0 (fun _ => []) fun _ => [] := by
  have hmove : s.Move (s.onWriter id f) 0 (fun _ => []) fun id' => if id = id' then
      ((s.lanes.get id').bind Lane.writer).elim [] (fun _ => []) else [] :=
    onWriter_move hsome (fun _ _ _ => rfl) s id
  have heq : (fun id' => if id = id' then
      ((s.lanes.get id').bind Lane.writer).elim [] (fun _ => []) else []) =
      fun _ : BackendId => ([] : List Datagram) := by
    funext id'
    split
    · cases (s.lanes.get id').bind Lane.writer <;> rfl
    · rfl
  rw [heq] at hmove
  exact hmove

theorem reload_move (s : IngressState W) (cfg : ReductionConfig) (hvalid : cfg.validate.toBool) :
    s.Move (s.reload cfg) (s.lostBy (.reload cfg)) (fun _ => []) fun _ => [] := by
  cases hworker : s.worker with
  | finished =>
    rw [reload, lostBy, hworker]
    exact .refl s
  | panicked =>
    rw [reload, lostBy, hworker]
    exact .refl s
  | running ui =>
    simp only [reload, lostBy, hworker, hvalid, Bool.true_and]
    split
    · -- the worker is gone, and its batches with it
      constructor
      · unfold settled held
        rw [hworker]
        dsimp only
        show _ + (_ + (Worker.held (.running ui) + _)) = _ + (_ + (0 + _)) + _
        omega
      · intro id
        rw [List.append_nil, List.nil_append, line, line]
        exact (List.nil_sublist _).append_left _
    · have hbatches : (ui.applyReload cfg).1.batches = ui.batches := by
        unfold UdpIngress.applyReload
        split <;> rfl
      constructor
      · unfold settled held
        rw [hworker]
        dsimp only [Worker.held]
        rw [hbatches, Nat.add_zero]
      · intro id
        rw [List.append_nil, List.nil_append, line, line, hworker]
        dsimp only [Worker.openBatch, UdpIngress.openBatch]
        rw [hbatches]

theorem stopWorker_move (hworker : s.worker = .running ui) :
    s.Move { s with
      worker := .finished
      lanes := (ui.flushAll s.lanes s.shared).2.1
      shared := (ui.flushAll s.lanes s.shared).2.2 } 0 (fun _ => []) fun _ => [] := by
  have hflush : WorkerMove (ui, s.lanes, s.shared) (ui.flushAll s.lanes s.shared) 0 fun _ => [] :=
    UdpIngress.flushEach_move _ _
  have hempty := ui.total_flushAll s.lanes s.shared
  constructor
  · have hreceived := hflush.received
    have hrelayed := hflush.relayed
    have hsettled := hflush.settled
    unfold settled held
    rw [hworker]
    dsimp only [Worker.held] at hreceived hrelayed hsettled ⊢
    omega
  · intro id
    have hline := hflush.line id
    rw [List.append_nil] at hline
    rw [List.append_nil, List.nil_append, line, line, hworker]
    exact ((List.nil_sublist _).append_left _).trans hline

theorem dequeue_move (hlane : s.lanes.get id = some lane) (hdequeue : lane.dequeue = some lane') :
    s.Move { s with lanes := s.lanes.insert id lane' } 0 (fun _ => []) fun _ => [] := by
  have hline := Lane.line_dequeue hdequeue
  exact Move.of_lane_silent hlane (by rw [hline]; rfl) (by rw [hline])

/-- A writer that returns drops what is in its queue. -/
theorem finish_move (hlane : s.lanes.get id = some lane) :
    s.Move { s with lanes := s.lanes.insert id lane.finish } lane.line.length (fun _ => [])
      fun _ => [] := by
  have hempty : lane.finish.line = [] := Lane.line_of_gone rfl
  exact Move.of_lane_silent hlane (by rw [hempty]; exact Nat.zero_add _)
    (by rw [hempty]; exact List.nil_sublist _)

/-- One step: what enters and leaves the lines, and what is lost on the way. -/
theorem step_move [AsyncWrite W] (codec : Bitcode Envelope) (s : IngressState W)
    (a : IngressAction W) :
    s.Move (s.step codec a) (s.lostBy a) (fun id => s.selectedBy id a)
      fun id => s.relayedBy codec id a := by
  cases a with
  | datagram arrival =>
    cases hworker : s.worker with
    | running ui =>
      have hmove := onWorker_move (f := fun ui lanes sh => ui.handleDatagram lanes sh arrival) hworker
        (ui.handleDatagram_move s.lanes s.shared arrival)
      simp only [selectedBy, hworker]
      exact hmove
    | finished =>
      simp only [step, onWorker, selectedBy, hworker]
      exact .refl s
    | panicked =>
      simp only [step, onWorker, selectedBy, hworker]
      exact .refl s
  | tick now =>
    cases hworker : s.worker with
    | running ui =>
      exact onWorker_move (f := fun ui lanes sh => ui.flushExpired lanes sh now) hworker
        (UdpIngress.flushEach_move _ (ui, s.lanes, s.shared))
    | finished =>
      simp only [step, onWorker, hworker]
      exact .refl s
    | panicked =>
      simp only [step, onWorker, hworker]
      exact .refl s
  | reload cfg =>
    by_cases hvalid : cfg.validate.toBool
    · simp only [step, if_pos hvalid]
      exact reload_move s cfg hvalid
    · have hlost : s.lostBy (.reload cfg) = 0 := by
        cases hworker : s.worker <;> simp [lostBy, hworker, hvalid]
      simp only [step, if_neg hvalid, hlost]
      exact .refl s
  | stopWorker =>
    cases hworker : s.worker with
    | running ui =>
      simp only [step, hworker]
      split
      · exact stopWorker_move hworker
      · exact .refl s
    | finished =>
      simp only [step, hworker]
      exact .refl s
    | panicked =>
      simp only [step, hworker]
      exact .refl s
  | dequeue id =>
    simp only [step]
    cases hdequeue : (s.lanes.get id).bind Lane.dequeue with
    | none => exact .refl s
    | some lane' =>
      obtain ⟨lane, hlane, hsome⟩ := Option.bind_eq_some_iff.mp hdequeue
      exact dequeue_move hlane hsome
  | check id now =>
    exact onWriter_move_silent (fun _ _ _ h => BackendWriter.checkStep_move h) s id
  | dial id acquired now draw =>
    exact onWriter_move_silent (fun _ _ _ h => BackendWriter.dialStep_move h) s id
  | write id now draw =>
    exact onWriter_move (fun _ _ _ h => BackendWriter.writeStep_move h)
      (fun _ _ h => BackendWriter.relays_of_writeStep_none h) s id
  | hangUp id =>
    simp only [step]
    cases hlane : s.lanes.get id with
    | none => exact .refl s
    | some lane =>
      dsimp only
      split
      · -- queue and hand are empty, so nothing goes with them
        rename_i hidle
        rw [Bool.and_eq_true, Bool.and_eq_true, List.isEmpty_iff] at hidle
        have hmove := finish_move hlane
        rw [Lane.line_of_isIdle hidle.1.2 hidle.2] at hmove
        exact hmove
      · exact .refl s
  | stopWriter id =>
    simp only [step, lostBy]
    cases hlane : s.lanes.get id with
    | none => exact .refl s
    | some lane =>
      dsimp only
      split
      · exact finish_move hlane
      · exact .refl s
  | breakers circuit => exact ⟨rfl, fun id => by simp [selectedBy, relayedBy, line, step]⟩
  | shutdown => exact ⟨rfl, fun id => by simp [selectedBy, relayedBy, line, step]⟩

end IngressState

end Reduction
