import Reduction.Native.ControlBytes
import Reduction.Spec.FrameCodec

/-!
# Framing on the control channel

`read_frame` is not cancel-safe: a future of it that is dropped takes the bytes in
its buffers with it.  The control loop only drops one when it ends, so what it acts
on is what reading the stream from its start gives, however the stream is cut into
pieces and whichever branch is taken when.

## Key results

* `FrameRead.poll_pending`, `FrameRead.poll_frame`: what a poll does with the bytes,
* `ByteLoop.InFrame.step`: between polls, the future's buffer and what has arrived are
  the part of the stream behind the frames that were acted on,
* `control_loop_keeps_framing`.
-/

namespace Reduction

open Framing Run

/-! ## Polls -/

/-- `read_exact` moves bytes from the stream into its buffer. -/
theorem RecvHalf.pollReadExact_spec {recv recv' : RecvHalf} {n limit : Nat} {buf buf' : Bytes}
    {polled : Poll (Except String Unit)} (hle : buf.length ≤ n)
    (h : recv.pollReadExact n limit buf = (polled, buf', recv')) :
    buf' ++ recv'.arrived = buf ++ recv.arrived ∧ buf'.length ≤ n ∧
      (polled = .ready (.ok ()) → buf'.length = n) := by
  have hmoved : (buf ++ recv.arrived.take (min limit (n - buf.length))) ++
      recv.arrived.drop (min limit (n - buf.length)) = buf ++ recv.arrived := by
    rw [List.append_assoc, List.take_append_drop]
  have hroom : (buf ++ recv.arrived.take (min limit (n - buf.length))).length ≤ n := by
    rw [List.length_append, List.length_take]
    omega
  simp only [pollReadExact] at h
  split at h
  case isTrue hfull =>
    cases h
    exact ⟨hmoved, hroom, fun _ => hfull⟩
  case isFalse =>
    split at h
    · cases h
      exact ⟨hmoved, hroom, fun hok => by cases hok⟩
    · split at h
      · cases h
        exact ⟨hmoved, hroom, fun hok => by cases hok⟩
      · cases h
        exact ⟨hmoved, hroom, fun hok => by cases hok⟩

namespace FrameRead

/-- A future that can still come to a frame: its buffers have their sizes, and the length was
    checked before the payload is waited for. -/
def WellFormed : FrameRead → Prop
  | .length lenBuf => lenBuf.length ≤ lengthPrefixSize
  | .payload lenBuf buf =>
    lenBuf.length = lengthPrefixSize ∧
      (fromBeBytes lenBuf).toNat ≤ TunnelProtocol.maxFrameSize ∧
      buf.length ≤ (fromBeBytes lenBuf).toNat

theorem wellFormed_new : new.WellFormed := Nat.zero_le _

variable {codec : Bitcode TunnelFrame} {limit : Nat} {recv recv' : RecvHalf} {r r' : FrameRead}
  {frame : TunnelFrame}

theorem pollPayload_pending {lenBuf buf : Bytes} (hwf : (FrameRead.payload lenBuf buf).WellFormed)
    (h : pollPayload codec limit recv lenBuf buf = (.pending, r', recv')) :
    r'.WellFormed ∧ r'.bytes ++ recv'.arrived = lenBuf ++ buf ++ recv.arrived := by
  obtain ⟨hlen, hmax, hle⟩ := hwf
  rcases hpoll : recv.pollReadExact (fromBeBytes lenBuf).toNat limit buf with ⟨polled, buf', rest⟩
  obtain ⟨hmoved, hroom, -⟩ := RecvHalf.pollReadExact_spec hle hpoll
  simp only [pollPayload, hpoll] at h
  cases polled with
  | pending =>
    cases h
    refine ⟨⟨hlen, hmax, hroom⟩, ?_⟩
    rw [bytes, List.append_assoc, hmoved, List.append_assoc]
  | ready result =>
    cases result with
    | error e => cases h
    | ok u => cases h

theorem pollPayload_frame {lenBuf buf : Bytes} (hwf : (FrameRead.payload lenBuf buf).WellFormed)
    (h : pollPayload codec limit recv lenBuf buf = (.ready (.ok frame), r', recv')) :
    TunnelProtocol.readFrame codec (lenBuf ++ buf ++ recv.arrived) =
      .ok (frame, recv'.arrived) := by
  obtain ⟨hlen, hmax, hle⟩ := hwf
  rcases hpoll : recv.pollReadExact (fromBeBytes lenBuf).toNat limit buf with ⟨polled, buf', rest⟩
  obtain ⟨hmoved, -, hfull⟩ := RecvHalf.pollReadExact_spec hle hpoll
  simp only [pollPayload, hpoll] at h
  cases polled with
  | pending => cases h
  | ready result =>
    cases result with
    | error e => cases h
    | ok u =>
      obtain ⟨hdecode, hrest⟩ := Prod.mk.inj h
      obtain ⟨-, rfl⟩ := Prod.mk.inj hrest
      refine (FrameProtocol.readFrame_eq_ok _ codec).mpr
        ⟨lenBuf, buf', ?_, hlen, hfull rfl, hmax, Poll.ready.inj hdecode⟩
      rw [List.append_assoc, hmoved]

/-- A poll that waits has lost nothing: what it has read and what is left are what they were. -/
theorem poll_pending (hwf : r.WellFormed) (h : r.poll codec limit recv = (.pending, r', recv')) :
    r'.WellFormed ∧ r'.bytes ++ recv'.arrived = r.bytes ++ recv.arrived := by
  cases r with
  | payload lenBuf buf => exact pollPayload_pending hwf h
  | length lenBuf =>
    rcases hpoll : recv.pollReadExact lengthPrefixSize limit lenBuf with ⟨polled, lenBuf', rest⟩
    obtain ⟨hmoved, hroom, hfull⟩ := RecvHalf.pollReadExact_spec hwf hpoll
    simp only [poll, hpoll] at h
    cases polled with
    | pending =>
      cases h
      exact ⟨hroom, hmoved⟩
    | ready result =>
      cases result with
      | error e => cases h
      | ok u =>
        dsimp only at h
        split at h
        case isTrue => cases h
        case isFalse hmax =>
          -- the length is complete, and the same poll goes on with the payload
          have hwf' : (FrameRead.payload lenBuf' []).WellFormed :=
            ⟨hfull rfl, Nat.le_of_not_lt hmax, Nat.zero_le _⟩
          obtain ⟨hr', hbytes⟩ := pollPayload_pending hwf' h
          refine ⟨hr', ?_⟩
          rw [hbytes, List.append_nil, hmoved, bytes]

/-- A poll that returns a frame has read it from the bytes that the future had and those that were
    there, and leaves what is behind it. -/
theorem poll_frame (hwf : r.WellFormed)
    (h : r.poll codec limit recv = (.ready (.ok frame), r', recv')) :
    TunnelProtocol.readFrame codec (r.bytes ++ recv.arrived) = .ok (frame, recv'.arrived) := by
  cases r with
  | payload lenBuf buf => exact pollPayload_frame hwf h
  | length lenBuf =>
    rcases hpoll : recv.pollReadExact lengthPrefixSize limit lenBuf with ⟨polled, lenBuf', rest⟩
    obtain ⟨hmoved, -, hfull⟩ := RecvHalf.pollReadExact_spec hwf hpoll
    simp only [poll, hpoll] at h
    cases polled with
    | pending => cases h
    | ready result =>
      cases result with
      | error e => cases h
      | ok u =>
        dsimp only at h
        split at h
        case isTrue => cases h
        case isFalse hmax =>
          have hwf' : (FrameRead.payload lenBuf' []).WellFormed :=
            ⟨hfull rfl, Nat.le_of_not_lt hmax, Nat.zero_le _⟩
          have hframe := pollPayload_frame hwf' h
          rwa [List.append_nil, hmoved] at hframe

end FrameRead

/-! ## The loop -/

/-- What an action adds to the stream. -/
def ByteAction.arrival : ByteAction → Bytes
  | .arrive bytes => bytes
  | _ => []

/-- All that arrives in a run, in order. -/
def arrivals (actions : List ByteAction) : Bytes := actions.flatMap ByteAction.arrival

/-- An action of the loop itself, or of its own streams and channels. -/
def ByteAction.isOwn : ByteAction → Bool
  | .elsewhere _ => false
  | _ => true

namespace ByteLoop

variable {codec : Bitcode TunnelFrame} {s : TunnelSession} {heartbeatTimeout : Duration}

variable (l : ByteLoop) (frame : TunnelFrame) (writes : Bool) (now : Instant)

@[simp] theorem write_recv : (l.write frame writes).recv = l.recv := by
  unfold write
  split <;> rfl

@[simp] theorem write_acted : (l.write frame writes).acted = l.acted := by
  unfold write
  split <;> rfl

@[simp] theorem write_system : (l.write frame writes).system = l.system := by
  unfold write
  split <;> rfl

@[simp] theorem act_recv (writes : Bool) : (l.act s frame now writes).recv = l.recv := by
  cases frame <;> simp [act]

@[simp] theorem act_acted (writes : Bool) :
    (l.act s frame now writes).acted = l.acted ++ [frame] := by
  cases frame <;> simp [act]

@[simp] theorem act_system (writes : Bool) :
    (l.act s frame now writes).system = l.system.handleFrame s now frame := by
  cases frame <;> simp [act]

/-- What a poll of the first branch can come to. -/
inductive Reads (codec : Bitcode TunnelFrame) (s : TunnelSession) (l l' : ByteLoop) : Prop where
  /-- A frame was acted on, and the next iteration, if there is one, starts behind it. -/
  | frame (frame : TunnelFrame) (now : Instant)
      (hread : l.reader.WellFormed →
        TunnelProtocol.readFrame codec (l.reader.bytes ++ l.recv.arrived) =
          .ok (frame, l'.recv.arrived))
      (hreader : l'.reader = .new)
      (hacted : l'.acted = l.acted ++ [frame])
      (hsystem : l'.system = l.system.handleFrame s now frame)
  /-- The future waits for more, with all that was read. -/
  | waits
      (hbytes : l.reader.WellFormed → l'.reader.WellFormed ∧
        l'.reader.bytes ++ l'.recv.arrived = l.reader.bytes ++ l.recv.arrived)
      (hacted : l'.acted = l.acted)
      (hsystem : l'.system = l.system)
  | ends (hfinished : l'.finished = true) (hacted : l'.acted = l.acted)
      (hsystem : l'.system = l.system)

theorem read_reads (l : ByteLoop) (limit : Nat) (now : Instant) (writes : Bool) :
    Reads codec s l (l.read codec s heartbeatTimeout limit now writes) := by
  unfold read
  rcases hpoll : l.reader.poll codec limit l.recv with ⟨polled, reader, recv⟩
  cases polled with
  | pending =>
    simp only
    split
    · exact .ends rfl rfl rfl
    · exact .waits (fun hwf => FrameRead.poll_pending hwf hpoll) rfl rfl
  | ready result =>
    cases result with
    | error e => exact .ends rfl rfl rfl
    | ok frame =>
      refine .frame frame now (fun hwf => ?_) rfl ?_ ?_
      · rw [FrameRead.poll_frame hwf hpoll]
        simp [endIteration]
      · simp [endIteration]
      · simp [endIteration]

/-- The other branches do nothing or end the loop. -/
theorem outbound_ends :
    l.outbound writes = l ∨ (l.outbound writes).finished = true ∧
      (l.outbound writes).acted = l.acted ∧ (l.outbound writes).system = l.system := by
  unfold outbound
  split
  · exact .inr ⟨rfl, by simp [endIteration], by simp [endIteration]⟩
  · exact .inr ⟨rfl, rfl, rfl⟩
  · split
    · exact .inr ⟨rfl, rfl, rfl⟩
    · exact .inl rfl

theorem shutdown_ends :
    l.shutdown writes = l ∨ (l.shutdown writes).finished = true ∧
      (l.shutdown writes).acted = l.acted ∧ (l.shutdown writes).system = l.system := by
  unfold shutdown
  split
  · exact .inr ⟨rfl, by simp [endIteration], by simp [endIteration]⟩
  · exact .inl rfl

/-- The frames that were acted on are those that reading `stream` from its start gives, and the
    loop, unless it has ended, stands exactly behind them: what the future has in its buffers and
    what has arrived is the rest of the stream. -/
structure InFrame (codec : Bitcode TunnelFrame) (stream : Bytes) (l : ByteLoop) : Prop where
  reads : ∃ rest,
    readMany (TunnelProtocol.readFrame codec) l.acted.length stream = .ok (l.acted, rest) ∧
      (l.finished = false → l.reader.WellFormed ∧ l.reader.bytes ++ l.recv.arrived = rest)

namespace InFrame

variable {stream : Bytes} {l l' : ByteLoop}

theorem start (codec : Bitcode TunnelFrame) (recv : RecvHalf) (system : ControlSystem)
    (now : Instant) : InFrame codec recv.arrived (.start recv system now) :=
  ⟨recv.arrived, rfl, fun _ => ⟨FrameRead.wellFormed_new, rfl⟩⟩

/-- More of the stream arrives. -/
theorem arrive (h : InFrame codec stream l) (bytes : Bytes) (hacted : l'.acted = l.acted)
    (hfinished : l'.finished = l.finished) (hreader : l'.reader = l.reader)
    (hrecv : l'.recv.arrived = l.recv.arrived ++ bytes) : InFrame codec (stream ++ bytes) l' := by
  obtain ⟨rest, hmany, hrest⟩ := h.reads
  refine ⟨rest ++ bytes, ?_, fun hgoing => ?_⟩
  · rw [hacted]
    exact readMany_append (fun hread => FrameProtocol.readFrame_append _ codec hread) hmany bytes
  · rw [hfinished] at hgoing
    obtain ⟨hwf, hbytes⟩ := hrest hgoing
    rw [hreader, hrecv, ← List.append_assoc, hbytes]
    exact ⟨hwf, rfl⟩

theorem ends (h : InFrame codec stream l) (hfinished : l'.finished = true)
    (hacted : l'.acted = l.acted) : InFrame codec stream l' := by
  obtain ⟨rest, hmany, -⟩ := h.reads
  rw [← hacted] at hmany
  exact ⟨rest, hmany, fun hgoing => by rw [hfinished] at hgoing; cases hgoing⟩

theorem read (h : InFrame codec stream l) (hgoing : l.finished = false)
    (hreads : Reads codec s l l') : InFrame codec stream l' := by
  obtain ⟨rest, hmany, hrest⟩ := h.reads
  obtain ⟨hwf, rfl⟩ := hrest hgoing
  cases hreads with
  | frame frame now hread hreader hacted hsystem =>
    refine ⟨l'.recv.arrived, ?_, fun _ => ?_⟩
    · rw [hacted, List.length_append, List.length_singleton]
      exact readMany_succ hmany (hread hwf)
    · rw [hreader]
      exact ⟨FrameRead.wellFormed_new, rfl⟩
  | waits hbytes hacted hsystem =>
    rw [← hacted] at hmany
    exact ⟨_, hmany, fun _ => hbytes hwf⟩
  | ends hfinished hacted hsystem => exact h.ends hfinished hacted

theorem step (h : InFrame codec stream l) (a : ByteAction) :
    InFrame codec (stream ++ a.arrival) (l.step codec s heartbeatTimeout a) := by
  cases a with
  | arrive bytes => exact h.arrive bytes rfl rfl rfl rfl
  | complete => exact h.arrive [] rfl rfl rfl (List.append_nil _).symm
  | lose error => exact h.arrive [] rfl rfl rfl (List.append_nil _).symm
  | queue frame => exact h.arrive [] rfl rfl rfl (List.append_nil _).symm
  | dropSenders => exact h.arrive [] rfl rfl rfl (List.append_nil _).symm
  | cancel => exact h.arrive [] rfl rfl rfl (List.append_nil _).symm
  | elsewhere a => exact h.arrive [] rfl rfl rfl (List.append_nil _).symm
  | read limit now writes =>
    rw [show (stream ++ ByteAction.arrival _) = stream from List.append_nil _, ByteLoop.step]
    cases hgoing : l.finished with
    | true => exact h
    | false => exact h.read hgoing (read_reads l limit now writes)
  | outbound writes =>
    rw [show (stream ++ ByteAction.arrival _) = stream from List.append_nil _, ByteLoop.step]
    split
    · exact h
    · rcases l.outbound_ends writes with hsame | ⟨hfinished, hacted, -⟩
      · rw [hsame]
        exact h
      · exact h.ends hfinished hacted
  | shutdown writes =>
    rw [show (stream ++ ByteAction.arrival _) = stream from List.append_nil _, ByteLoop.step]
    split
    · exact h
    · rcases l.shutdown_ends writes with hsame | ⟨hfinished, hacted, -⟩
      · rw [hsame]
        exact h
      · exact h.ends hfinished hacted

theorem run (recv : RecvHalf) (system : ControlSystem) (now : Instant)
    (actions : List ByteAction) :
    InFrame codec (recv.arrived ++ arrivals actions)
      (Run.run (ByteLoop.step codec s heartbeatTimeout) (.start recv system now) actions) := by
  induction actions using List.reverseRecOn with
  | nil =>
    rw [arrivals, List.flatMap_nil, List.append_nil]
    exact start codec recv system now
  | append_singleton actions a ih =>
    rw [run_concat, arrivals, List.flatMap_append, List.flatMap_singleton, ← List.append_assoc]
    exact ih.step a

end InFrame

end ByteLoop

/-! ## What the frames steer -/

/-- A frame of a session that is no control peer leaves health and refusals alone. -/
theorem ControlSystem.handleFrame_of_not_controlPeer {s : TunnelSession}
    (hpeer : s.isControlPeer = false) (sys : ControlSystem) (now : Instant) (frame : TunnelFrame) :
    (sys.handleFrame s now frame).health = sys.health ∧
      (sys.handleFrame s now frame).refused = sys.refused := by
  cases frame with
  | health reported available => simp [handleFrame, hpeer]
  | refuseWake refused => simp [handleFrame, hpeer]
  | heartbeat timestampMs => exact ⟨rfl, rfl⟩
  | _ => exact ⟨rfl, rfl⟩

namespace ByteLoop

variable {codec : Bitcode TunnelFrame} {s : TunnelSession} {heartbeatTimeout : Duration}

/-- What the loop does to the system: nothing, or what one frame does. -/
theorem step_system (l : ByteLoop) {a : ByteAction} (hown : a.isOwn = true) :
    (l.step codec s heartbeatTimeout a).system = l.system ∨
      ∃ now frame, (l.step codec s heartbeatTimeout a).system =
        l.system.handleFrame s now frame := by
  cases a with
  | elsewhere a => cases hown
  | read limit now writes =>
    rw [step]
    split
    · exact .inl rfl
    · cases @read_reads codec s heartbeatTimeout l limit now writes with
      | frame frame now hread hreader hacted hsystem => exact .inr ⟨now, frame, hsystem⟩
      | waits hbytes hacted hsystem => exact .inl hsystem
      | ends hfinished hacted hsystem => exact .inl hsystem
  | outbound writes =>
    rw [step]
    split
    · exact .inl rfl
    · rcases l.outbound_ends writes with hsame | ⟨-, -, hsystem⟩
      · exact .inl (congrArg ByteLoop.system hsame)
      · exact .inl hsystem
  | shutdown writes =>
    rw [step]
    split
    · exact .inl rfl
    · rcases l.shutdown_ends writes with hsame | ⟨-, -, hsystem⟩
      · exact .inl (congrArg ByteLoop.system hsame)
      · exact .inl hsystem
  | _ => exact .inl rfl

/-- A loop that has ended reads nothing any more. -/
theorem step_of_finished {l : ByteLoop} (h : l.finished = true) (a : ByteAction) :
    (l.step codec s heartbeatTimeout a).finished = true ∧
      (l.step codec s heartbeatTimeout a).acted = l.acted ∧
      (l.step codec s heartbeatTimeout a).recv.arrived = l.recv.arrived ++ a.arrival := by
  cases a <;> simp [step, ByteAction.arrival, h]

end ByteLoop

/-! ## Every run -/

/-- What the control loop of session `s` owes to the framing, on a stream that starts with what
    `recv` has and goes on with what arrives in `actions`. -/
structure KeepsFraming (codec : Bitcode TunnelFrame) (s : TunnelSession)
    (heartbeatTimeout : Duration) (recv : RecvHalf) (system : ControlSystem) (now : Instant)
    (actions : List ByteAction) : Prop where
  /-- The frames that were acted on are the first ones that repeated `read_frame` gives on the
      stream, whatever is to come of it. -/
  acts_on_first : ∀ more, ∃ rest,
    let l := run (ByteLoop.step codec s heartbeatTimeout) (.start recv system now) actions
    readMany (TunnelProtocol.readFrame codec) l.acted.length
      (recv.arrived ++ arrivals actions ++ more) = .ok (l.acted, rest)
  /-- As long as the loop goes on, it reads on right behind them: no byte of a frame that was read
      in part is gone. -/
  reads_on :
    let l := run (ByteLoop.step codec s heartbeatTimeout) (.start recv system now) actions
    l.finished = false →
      readMany (TunnelProtocol.readFrame codec) l.acted.length (recv.arrived ++ arrivals actions) =
        .ok (l.acted, l.reader.bytes ++ l.recv.arrived)
  /-- Once the loop has ended, it neither reads nor acts again. -/
  stops :
    let l := run (ByteLoop.step codec s heartbeatTimeout) (.start recv system now) actions
    l.finished = true → ∀ a,
      (l.step codec s heartbeatTimeout a).finished = true ∧
        (l.step codec s heartbeatTimeout a).acted = l.acted ∧
        (l.step codec s heartbeatTimeout a).recv.arrived = l.recv.arrived ++ a.arrival
  /-- Nothing that the loop of another session than a control peer's does changes the health state
      or the refusals. -/
  steers_nothing : s.isControlPeer = false →
    RunOk (ByteLoop.step codec s heartbeatTimeout)
      (fun l a => a.isOwn = true →
        (l.step codec s heartbeatTimeout a).system.health = l.system.health ∧
          (l.step codec s heartbeatTimeout a).system.refused = l.system.refused)
      (.start recv system now) actions

theorem control_loop_keeps_framing (codec : Bitcode TunnelFrame) (s : TunnelSession)
    (heartbeatTimeout : Duration) (recv : RecvHalf) (system : ControlSystem) (now : Instant)
    (actions : List ByteAction) :
    KeepsFraming codec s heartbeatTimeout recv system now actions := by
  have hinFrame := @ByteLoop.InFrame.run codec s heartbeatTimeout recv system now actions
  obtain ⟨rest, hmany, hrest⟩ := hinFrame.reads
  refine ⟨fun more => ?_, fun hgoing => ?_, fun hfinished a => ?_, fun hpeer => ?_⟩
  · refine ⟨rest ++ more, ?_⟩
    exact readMany_append (fun hread => FrameProtocol.readFrame_append _ codec hread) hmany more
  · obtain ⟨-, hbytes⟩ := hrest hgoing
    rw [hbytes]
    exact hmany
  · exact ByteLoop.step_of_finished hfinished a
  · refine runOk_iff_forall.mpr fun done a todo _ hown => ?_
    rcases ByteLoop.step_system _ hown with hsame | ⟨now, frame, hframe⟩
    · rw [hsame]
      exact ⟨rfl, rfl⟩
    · rw [hframe]
      exact ControlSystem.handleFrame_of_not_controlPeer hpeer _ now frame

end Reduction
