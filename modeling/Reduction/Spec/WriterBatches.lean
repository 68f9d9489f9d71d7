import Reduction.Spec.IngressRuns

/-!
# Whole batches of a writer

A writer handles one batch after the other.  `writeBatch` is `write_batch` from
its gate to its end, with the answers of the environment on the way, and
`BatchRun` says once what it can do: results about runs of a writer take cases
on it and never look into the stretches again.
-/

namespace Reduction

variable {W : Type}

/-- What the environment answers while one batch is handled: the clock at the gate, the stream that
    the connection pool gives or not, and clock and random number for a failed dial or write. -/
structure BatchAnswers (W : Type) where
  checkedAt : Instant
  acquired : Except ReductionError W
  dialedAt : Instant
  dialDraw : Nat
  writtenAt : Instant
  writeDraw : Nat

/-- How a batch ended. -/
inductive BatchOutcome where
  | empty
  /-- By the open circuit or the backoff window. -/
  | shed
  | dialFailed
  | writeFailed
  | relayed
deriving DecidableEq

/-- The batch was lost in a dial or in its write. -/
def BatchOutcome.isFailure : BatchOutcome → Bool
  | .dialFailed | .writeFailed => true
  | _ => false

namespace BackendWriter

variable [AsyncWrite W] (codec : Bitcode Envelope)

/-- From the dial on, if the gate asks for one. -/
def afterGate (env : BatchAnswers W) (r : BackendWriter W × IngressShared) :
    BackendWriter W × IngressShared :=
  match r.1.stage with
  | .dialing datagrams guard =>
    r.1.dialed codec r.2 datagrams guard env.acquired env.dialedAt env.dialDraw
  | _ => r

/-- From the write on, if the gate or the dial leads to one. -/
def afterDial (env : BatchAnswers W) (r : BackendWriter W × IngressShared) :
    BackendWriter W × IngressShared :=
  match r.1.stage with
  | .writing datagrams guard =>
    r.1.written codec r.2 datagrams guard env.writtenAt env.writeDraw
  | _ => r

/-- `write_batch`. -/
def writeBatch (w : BackendWriter W) (sh : IngressShared) (datagrams : List Datagram)
    (env : BatchAnswers W) : BackendWriter W × IngressShared :=
  afterDial codec env (afterGate codec env (w.gate sh datagrams env.checkedAt))

/-- Whether `write_frame` returns `Ok` for the batch. -/
def writeOutcome (stream : W) (datagrams : List Datagram) : BatchOutcome :=
  match IngressProtocol.writeFrame codec stream (.batch datagrams) with
  | .ok _ => .relayed
  | .error _ => .writeFailed

/-- How `write_batch` ends. -/
def outcome (w : BackendWriter W) (sh : IngressShared) (datagrams : List Datagram)
    (env : BatchAnswers W) : BatchOutcome :=
  match (w.gate sh datagrams env.checkedAt).1.stage with
  | .dialing _ _ =>
    match w.dial codec env.acquired with
    | .ok stream => writeOutcome codec stream datagrams
    | .error _ => .dialFailed
  | .writing _ _ =>
    match w.state.stream with
    | some stream => writeOutcome codec stream datagrams
    | none => .shed
  | _ => if datagrams.isEmpty then .empty else .shed

/-- What the circuit answers at the gate. -/
def checked (w : BackendWriter W) (sh : IngressShared) (env : BatchAnswers W) :
    CircuitBreakers × CircuitState × Option HalfOpenGuard :=
  sh.circuit.check w.backend.id.bytes env.checkedAt

/-- The writer has a stream to write the batch on: one that it kept, or one that it has dialled. -/
inductive Ready (w : BackendWriter W) (sh : IngressShared) (env : BatchAnswers W) :
    BackendWriter W → IngressShared → W → Prop
  | kept {stream : W} (stream_eq : w.state.stream = some stream) :
      Ready w sh env w { sh with circuit := (w.checked sh env).1 } stream
  | dialed {stream : W} (no_stream : w.state.stream = none)
      (dial_eq : w.dial codec env.acquired = .ok stream) :
      Ready w sh env
        { w with state := { stream := some stream, attempt := 0, cooldownUntil := none } }
        { sh with circuit := (w.checked sh env).1.recordSuccess w.backend.id.bytes } stream

/-- What `write_batch` can do. -/
inductive BatchRun (w : BackendWriter W) (sh : IngressShared) (datagrams : List Datagram)
    (env : BatchAnswers W) : BatchOutcome → BackendWriter W × IngressShared → Prop
  | empty (datagrams_eq : datagrams = []) :
      BatchRun w sh datagrams env .empty ({ w with stage := .idle }, sh)
  | shed :
      BatchRun w sh datagrams env .shed
        ({ w with stage := .idle },
          (IngressShared.recordDrop { sh with circuit := (w.checked sh env).1 } .circuitOpen
            datagrams.length).dropGuard (w.checked sh env).2.2)
  | dialFailed {r : BackendWriter W × IngressShared} {e : ReductionError}
      (admitted : (w.checked sh env).2.1 ≠ .open) (no_stream : w.state.stream = none)
      (dial_eq : w.dial codec env.acquired = .error e)
      (r_eq : r = w.onFailure { sh with circuit := (w.checked sh env).1 } datagrams.length
        env.dialedAt env.dialDraw) :
      BatchRun w sh datagrams env .dialFailed (r.1, r.2.dropGuard (w.checked sh env).2.2)
  | writeFailed {w' : BackendWriter W} {sh' : IngressShared} {stream : W}
      {r : BackendWriter W × IngressShared} {e : ReductionError}
      (admitted : (w.checked sh env).2.1 ≠ .open) (ready : Ready codec w sh env w' sh' stream)
      (write_eq : IngressProtocol.writeFrame codec stream (.batch datagrams) = .error e)
      (r_eq : r = w'.onFailure sh' datagrams.length env.writtenAt env.writeDraw) :
      BatchRun w sh datagrams env .writeFailed (r.1, r.2.dropGuard (w.checked sh env).2.2)
  | relayed {w' : BackendWriter W} {sh' : IngressShared} {stream stream' : W}
      (admitted : (w.checked sh env).2.1 ≠ .open) (ready : Ready codec w sh env w' sh' stream)
      (write_eq : IngressProtocol.writeFrame codec stream (.batch datagrams) = .ok stream') :
      BatchRun w sh datagrams env .relayed
        ({ w' with state := { w'.state with stream := some stream', attempt := 0 }, stage := .idle },
          { circuit := sh'.circuit.recordSuccess w.backend.id.bytes
            counters := sh'.counters.recordRelayed datagrams.length : IngressShared }.dropGuard
            (w.checked sh env).2.2)

/-- The write of a batch, once there is a stream. -/
theorem batchRun_write {w : BackendWriter W} {sh : IngressShared} {datagrams : List Datagram}
    {env : BatchAnswers W} {w' : BackendWriter W} {sh' : IngressShared} {stream : W}
    (admitted : (w.checked sh env).2.1 ≠ .open) (ready : Ready codec w sh env w' sh' stream) :
    BatchRun codec w sh datagrams env (writeOutcome codec stream datagrams)
      ({ w' with stage := .writing datagrams (w.checked sh env).2.2 }.written codec sh' datagrams
        (w.checked sh env).2.2 env.writtenAt env.writeDraw) := by
  have hstream : w'.state.stream = some stream := by
    cases ready with
    | kept stream_eq => exact stream_eq
    | dialed no_stream dial_eq => rfl
  have hid : w'.backend.id.bytes = w.backend.id.bytes := by
    cases ready with
    | kept stream_eq => rfl
    | dialed no_stream dial_eq => rfl
  unfold written writeOutcome
  dsimp only
  rw [hstream]
  dsimp only
  cases hwrite : IngressProtocol.writeFrame codec stream (.batch datagrams) with
  | ok stream' =>
    rw [hid]
    exact .relayed admitted ready hwrite
  | error e => exact .writeFailed admitted ready hwrite rfl

omit [AsyncWrite W] in
/-- The gate lets an empty batch pass as if it had not been there, sheds a batch, or asks for a dial or
    a write. -/
theorem gate_cases (w : BackendWriter W) (sh : IngressShared) (datagrams : List Datagram)
    (now : Instant) {checked : CircuitBreakers × CircuitState × Option HalfOpenGuard}
    (hchecked : sh.circuit.check w.backend.id.bytes now = checked) :
    (datagrams = [] ∧ w.gate sh datagrams now = ({ w with stage := .idle }, sh)) ∨
    (datagrams ≠ [] ∧ w.gate sh datagrams now =
      ({ w with stage := .idle },
        (IngressShared.recordDrop { sh with circuit := checked.1 } .circuitOpen
          datagrams.length).dropGuard checked.2.2)) ∨
    (datagrams ≠ [] ∧ checked.2.1 ≠ .open ∧ w.state.stream = none ∧
      w.gate sh datagrams now =
        ({ w with stage := .dialing datagrams checked.2.2 }, { sh with circuit := checked.1 })) ∨
    (datagrams ≠ [] ∧ checked.2.1 ≠ .open ∧ (∃ stream, w.state.stream = some stream) ∧
      w.gate sh datagrams now =
        ({ w with stage := .writing datagrams checked.2.2 },
          { sh with circuit := checked.1 })) := by
  subst hchecked
  unfold gate
  dsimp only
  split
  · rename_i hempty
    exact .inl ⟨List.isEmpty_iff.mp hempty, rfl⟩
  · rename_i hne
    have hne : datagrams ≠ [] := fun h => hne (List.isEmpty_iff.mpr h)
    split
    · exact .inr (.inl ⟨hne, rfl⟩)
    · rename_i hadmitted
      split
      · exact .inr (.inl ⟨hne, rfl⟩)
      · split
        · rename_i hnone
          exact .inr (.inr (.inl ⟨hne, hadmitted, Option.isNone_iff_eq_none.mp hnone, rfl⟩))
        · rename_i hsome
          have hsome : ∃ stream, w.state.stream = some stream :=
            Option.ne_none_iff_exists'.mp fun h => hsome (Option.isNone_iff_eq_none.mpr h)
          exact .inr (.inr (.inr ⟨hne, hadmitted, hsome, rfl⟩))

theorem batchRun (w : BackendWriter W) (sh : IngressShared) (datagrams : List Datagram)
    (env : BatchAnswers W) :
    BatchRun codec w sh datagrams env (w.outcome codec sh datagrams env)
      (w.writeBatch codec sh datagrams env) := by
  unfold outcome writeBatch
  have hchecked : sh.circuit.check w.backend.id.bytes env.checkedAt = w.checked sh env := rfl
  rcases gate_cases w sh datagrams env.checkedAt hchecked with ⟨hempty, hgate⟩ | ⟨hne, hgate⟩ |
    ⟨_, hadmitted, hnone, hgate⟩ | ⟨_, hadmitted, ⟨stream, hstream⟩, hgate⟩
  · rw [hgate]
    simp only [List.isEmpty_iff.mpr hempty, if_true, afterGate, afterDial]
    exact .empty hempty
  · rw [hgate]
    simp only [List.isEmpty_eq_false_iff.mpr hne, afterGate, afterDial, Bool.false_eq_true, if_false]
    exact .shed
  · rw [hgate]
    simp only [afterGate, dialed]
    -- the dial does not look at the stage
    show BatchRun codec w sh datagrams env _ (afterDial codec env
      (match w.dial codec env.acquired with | .ok _ => _ | .error _ => _))
    cases hdial : w.dial codec env.acquired with
    | ok stream => exact batchRun_write codec hadmitted (.dialed hnone hdial)
    | error e => exact .dialFailed hadmitted hnone hdial rfl
  · rw [hgate]
    simp only [afterGate, afterDial, hstream]
    exact batchRun_write codec hadmitted (.kept hstream)

end BackendWriter

namespace Sample

/-- A stream that takes a number of bytes, and fails a write that does not fit. -/
structure Narrow where
  sent : Bytes
  room : Nat

instance : AsyncWrite Narrow where
  writeAll w bytes :=
    if bytes.length ≤ w.room then
      .ok { sent := w.sent ++ bytes, room := w.room - bytes.length }
    else .error "connection lost"
  flush w := .ok w
  written w := w.sent
  written_writeAll h := by
    split at h
    · cases h
      rfl
    · cases h
  written_flush h := by
    cases h
    rfl

end Sample

end Reduction
