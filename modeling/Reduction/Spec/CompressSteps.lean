import Reduction.Native.CompressBody

/-!
# What a round of the compressed body can do

`step_case` says once which of thirteen things a round of `poll_frame` does, and
`pollFrame_induction` is the induction over the rounds of a poll, which never run
out: a round that continues has taken a frame, got a task's result or found the
end of the inner body.
-/

namespace Reduction

open Http

namespace Incoming

variable {ε : Type}

/-- At the time, the next frame or the end has not arrived. -/
def Waits (body : Incoming ε) (now : Instant) : Prop :=
  (∀ f ∈ body.frames.head?, now < f.1) ∧ (body.frames = [] → now < body.endAt)

/-- A poll takes the first frame if it has arrived, and changes nothing otherwise. -/
inductive PollCase (body : Incoming ε) (now : Instant) :
    Poll (Option (Except ε Frame)) × Incoming ε → Prop
  | took {arrival : Instant} {frame : Except ε Frame} {frames : List (Instant × Except ε Frame)}
      (hframes : body.frames = (arrival, frame) :: frames) (harrived : arrival ≤ now) :
      PollCase body now (.ready (some frame), body.took arrival now frames)
  | ended (hframes : body.frames = []) (hend : body.endAt ≤ now) :
      PollCase body now (.ready none, body)
  | pending (hwaits : body.Waits now) : PollCase body now (.pending, body)

theorem pollFrame_case (body : Incoming ε) (now : Instant) :
    PollCase body now (body.pollFrame now) := by
  unfold pollFrame
  cases hframes : body.frames with
  | nil =>
    by_cases hend : body.endAt ≤ now
    · simp only [hend, if_true]
      exact .ended hframes hend
    · simp only [hend, if_false]
      exact .pending ⟨by simp [hframes], fun _ => Nat.lt_of_not_le hend⟩
  | cons first frames =>
    obtain ⟨arrival, frame⟩ := first
    by_cases harrived : arrival ≤ now
    · simp only [harrived, if_true]
      exact .took hframes harrived
    · simp only [harrived, if_false]
      exact .pending ⟨by simpa [hframes] using harrived, by simp [hframes]⟩

end Incoming

namespace CompressedBody

variable {z : ZstdEncoder} {ε : Type}

theorem emitted_cases (compressed : Bytes) :
    (compressed = [] ∧ (emitted compressed : Step ε) = .continue) ∨
    (compressed ≠ [] ∧ (emitted compressed : Step ε) =
      .ready (.ready (some (.ok (.data compressed))))) := by
  by_cases h : compressed = []
  · exact .inl ⟨h, by simp [emitted, h]⟩
  · exact .inr ⟨h, by simp [emitted, h]⟩

/-- The blocking task that an offloaded chunk is handed to. -/
def spawned (body : CompressedBody z ε) (enc : z.State) (input : Bytes) (now : Instant) :
    OffloadTask z :=
  let fate := body.offloads.headD { duration := 0, joinError := none }
  { readyAt := now + fate.duration
    result :=
      match fate.joinError with
      | some e => .error e
      | none => .ok (compressChunk z enc input) }

/-- What a round of `poll_frame` does. -/
inductive StepCase (body : CompressedBody z ε) (now : Instant) :
    Step ε × CompressedBody z ε → Prop
  | done (hphase : body.phase = .done) : StepCase body now (.ready (.ready none), body)
  /-- The encoder or its task went missing. -/
  | lost (hphase : body.phase ≠ .done) (inner : Incoming ε)
      (hinner : inner = body.inner ∨ ∃ arrival frames, inner = body.inner.took arrival now frames)
      (hencoder : body.phase ≠ .offloading → body.encoder = none)
      (htask : body.phase = .offloading → body.task = none) :
      StepCase body now ({ body with inner }.failed "compressor state lost")
  | taskPending {task : OffloadTask z} (hphase : body.phase = .offloading)
      (htask : body.task = some task) (hready : now < task.readyAt) :
      StepCase body now (.ready .pending, body)
  | taskDone {task : OffloadTask z} {enc : z.State} {compressed : Bytes}
      (hphase : body.phase = .offloading) (htask : body.task = some task)
      (hready : task.readyAt ≤ now) (hresult : flattenJoin task.result = .ok (enc, compressed)) :
      StepCase body now
        (emitted compressed, { body with task := none, encoder := some enc, phase := .streaming })
  | taskFailed {task : OffloadTask z} {e : String} (hphase : body.phase = .offloading)
      (htask : body.task = some task) (hready : task.readyAt ≤ now)
      (hresult : flattenJoin task.result = .error e) :
      StepCase body now ({ body with task := none }.failed e)
  | innerPending (hphase : body.phase = .streaming) (hwaits : body.inner.Waits now) :
      StepCase body now (.ready .pending, body)
  | innerEnd (hphase : body.phase = .streaming) (hframes : body.inner.frames = [])
      (hend : body.inner.endAt ≤ now) :
      StepCase body now (.continue, { body with phase := .flushing })
  | innerError {arrival : Instant} {e : ε} {frames : List (Instant × Except ε Frame)}
      (hphase : body.phase = .streaming) (hframes : body.inner.frames = (arrival, .error e) :: frames)
      (harrived : arrival ≤ now) :
      StepCase body now (.ready (.ready (some (.error (.inner e)))),
        { body with inner := body.inner.took arrival now frames })
  | trailers {arrival : Instant} {fields : HeaderMap} {frames : List (Instant × Except ε Frame)}
      (hphase : body.phase = .streaming)
      (hframes : body.inner.frames = (arrival, .ok (.trailers fields)) :: frames)
      (harrived : arrival ≤ now) :
      StepCase body now (.ready (.ready (some (.ok (.trailers fields)))),
        { body with inner := body.inner.took arrival now frames })
  | offloaded {arrival : Instant} {data : Bytes} {frames : List (Instant × Except ε Frame)}
      {enc : z.State} (hphase : body.phase = .streaming)
      (hframes : body.inner.frames = (arrival, .ok (.data data)) :: frames)
      (harrived : arrival ≤ now) (hencoder : body.encoder = some enc)
      (hbig : offloadThresholdBytes < data.length) :
      StepCase body now (.continue,
        { body with
          inner := body.inner.took arrival now frames
          offloads := body.offloads.tail
          encoder := none
          task := some (body.spawned enc data now)
          phase := .offloading })
  | compressed {arrival : Instant} {data compressed : Bytes}
      {frames : List (Instant × Except ε Frame)} {enc enc' : z.State}
      (hphase : body.phase = .streaming)
      (hframes : body.inner.frames = (arrival, .ok (.data data)) :: frames)
      (harrived : arrival ≤ now) (hencoder : body.encoder = some enc)
      (hsmall : ¬ offloadThresholdBytes < data.length)
      (hchunk : compressChunk z enc data = .ok (enc', compressed)) :
      StepCase body now (emitted compressed,
        { body with inner := body.inner.took arrival now frames, encoder := some enc' })
  | chunkFailed {arrival : Instant} {data : Bytes} {frames : List (Instant × Except ε Frame)}
      {enc : z.State} {e : String} (hphase : body.phase = .streaming)
      (hframes : body.inner.frames = (arrival, .ok (.data data)) :: frames)
      (harrived : arrival ≤ now) (hencoder : body.encoder = some enc)
      (hsmall : ¬ offloadThresholdBytes < data.length)
      (hchunk : compressChunk z enc data = .error e) :
      StepCase body now ({ body with inner := body.inner.took arrival now frames }.failed e)
  | flushed {enc enc' : z.State} {out : Bytes} (hphase : body.phase = .flushing)
      (hencoder : body.encoder = some enc) (hfinish : finishEncoder z enc = .ok (enc', out)) :
      StepCase body now
        (.ready (.ready (if out = [] then none else some (.ok (.data out)))),
          { body with encoder := some enc', phase := .done })
  | flushFailed {enc : z.State} {e : String} (hphase : body.phase = .flushing)
      (hencoder : body.encoder = some enc) (hfinish : finishEncoder z enc = .error e) :
      StepCase body now (body.failed e)

variable {now : Instant}

theorem compressFrame_case {body : CompressedBody z ε} {arrival : Instant} {data : Bytes}
    {frames : List (Instant × Except ε Frame)} (hphase : body.phase = .streaming)
    (hframes : body.inner.frames = (arrival, .ok (.data data)) :: frames) (harrived : arrival ≤ now) :
    StepCase body now ({ body with inner := body.inner.took arrival now frames }.compressFrame
      (.data data) now) := by
  have hlost : body.encoder = none → { body with inner := body.inner.took arrival now frames
      }.compressFrame (.data data) now = { body with inner := body.inner.took arrival now frames
      }.failed "compressor state lost" := by
    intro hencoder
    simp [compressFrame, offloadChunk, compressInline, hencoder, encoderMissing]
  rcases Option.eq_none_or_eq_some body.encoder with hencoder | ⟨enc, hencoder⟩
  · rw [hlost hencoder]
    exact .lost (by simp [hphase]) _ (.inr ⟨_, _, rfl⟩) (fun _ => hencoder) (by simp [hphase])
  · by_cases hbig : offloadThresholdBytes < data.length
    · have hstep : { body with inner := body.inner.took arrival now frames }.compressFrame
          (.data data) now = (.continue,
            { body with
              inner := body.inner.took arrival now frames
              offloads := body.offloads.tail
              encoder := none
              task := some (body.spawned enc data now)
              phase := .offloading }) := by
        simp only [compressFrame, offloadChunk, hencoder, hbig, if_true]
        rfl
      rw [hstep]
      exact .offloaded hphase hframes harrived hencoder hbig
    · cases hchunk : compressChunk z enc data with
      | ok r =>
        obtain ⟨enc', compressed⟩ := r
        have hstep : { body with inner := body.inner.took arrival now frames }.compressFrame
            (.data data) now = (emitted compressed,
              { body with inner := body.inner.took arrival now frames, encoder := some enc' }) := by
          simp only [compressFrame, compressInline, hencoder, hbig, if_false, hchunk]
        rw [hstep]
        exact .compressed hphase hframes harrived hencoder hbig hchunk
      | error e =>
        have hstep : { body with inner := body.inner.took arrival now frames }.compressFrame
            (.data data) now =
              { body with inner := body.inner.took arrival now frames }.failed e := by
          simp only [compressFrame, compressInline, hencoder, hbig, if_false, hchunk]
        rw [hstep]
        exact .chunkFailed hphase hframes harrived hencoder hbig hchunk

theorem step_case (body : CompressedBody z ε) (now : Instant) :
    StepCase body now (body.step now) := by
  unfold step
  cases hphase : body.phase with
  | done => exact .done hphase
  | offloading =>
    unfold pollOffloading
    cases htask : body.task with
    | none => exact .lost (by simp [hphase]) body.inner (.inl rfl) (by simp [hphase]) fun _ => htask
    | some task =>
      by_cases hready : task.readyAt ≤ now
      · cases hresult : flattenJoin task.result with
        | ok r =>
          obtain ⟨enc, compressed⟩ := r
          simp only [hready, if_true, hresult]
          exact .taskDone hphase htask hready hresult
        | error e =>
          simp only [hready, if_true, hresult]
          exact .taskFailed hphase htask hready hresult
      · simp only [hready, if_false]
        exact .taskPending hphase htask (Nat.lt_of_not_le hready)
  | flushing =>
    unfold pollFlushing
    cases hencoder : body.encoder with
    | none =>
      exact .lost (by simp [hphase]) body.inner (.inl rfl) (fun _ => hencoder) (by simp [hphase])
    | some enc =>
      cases hfinish : finishEncoder z enc with
      | ok r =>
        obtain ⟨enc', out⟩ := r
        simp only [hfinish]
        exact .flushed hphase hencoder hfinish
      | error e =>
        simp only [hfinish]
        exact .flushFailed hphase hencoder hfinish
  | streaming =>
    have hcase := body.inner.pollFrame_case now
    unfold pollStreaming
    generalize body.inner.pollFrame now = polled at hcase ⊢
    cases hcase with
    | pending hwaits => exact .innerPending hphase hwaits
    | ended hframes hend => exact .innerEnd hphase hframes hend
    | @took arrival frame frames hframes harrived =>
      cases frame with
      | error e => exact .innerError hphase hframes harrived
      | ok frame =>
        cases frame with
        | trailers fields => exact .trailers hphase hframes harrived
        | data data =>
          exact compressFrame_case hphase hframes harrived

/-! ## The rounds of a poll -/

theorem rounds_step {body body' : CompressedBody z ε} (h : body.step now = (.continue, body')) :
    body'.rounds < body.rounds := by
  have hcase := body.step_case now
  rw [h] at hcase
  generalize hout : (Step.continue, body') = out at hcase
  cases hcase with
  | taskDone hphase =>
    rw [(Prod.mk.inj hout).2]
    simp [rounds, hphase]
  | innerEnd hphase =>
    cases hout
    simp [rounds, hphase]
  | offloaded hphase hframes =>
    cases hout
    simp [rounds, hphase, hframes, Incoming.took]
    omega
  | compressed hphase hframes =>
    rw [(Prod.mk.inj hout).2]
    simp [rounds, hphase, hframes, Incoming.took]
  | _ => cases hout

/-- More fuel than rounds changes nothing. -/
theorem pollLoop_fuel {fuel fuel' : Nat} {body : CompressedBody z ε} (now : Instant)
    (h : body.rounds < fuel) (h' : body.rounds < fuel') :
    pollLoop fuel body now = pollLoop fuel' body now := by
  induction fuel generalizing fuel' body with
  | zero => omega
  | succ fuel ih =>
    cases fuel' with
    | zero => omega
    | succ fuel' =>
      rw [pollLoop, pollLoop]
      rcases hstep : body.step now with ⟨_ | _, body'⟩
      · rfl
      · have hlt := rounds_step hstep
        exact ih (by omega) (by omega)

theorem pollFrame_of_ready {body body' : CompressedBody z ε} {poll : FramePoll ε}
    (h : body.step now = (.ready poll, body')) : body.pollFrame now = (poll, body') := by
  rw [pollFrame, pollLoop, h]

theorem pollFrame_of_continue {body body' : CompressedBody z ε}
    (h : body.step now = (.continue, body')) : body.pollFrame now = body'.pollFrame now := by
  have hlt := rounds_step h
  rw [pollFrame, pollLoop, h]
  exact pollLoop_fuel now hlt (Nat.lt_succ_self _)

/-- Induction over the rounds of a poll. -/
@[elab_as_elim]
theorem pollFrame_induction {motive : CompressedBody z ε → FramePoll ε × CompressedBody z ε → Prop}
    (ready : ∀ body poll body', body.step now = (.ready poll, body') → motive body (poll, body'))
    (next : ∀ body body', body.step now = (.continue, body') →
      motive body' (body'.pollFrame now) → motive body (body'.pollFrame now))
    (body : CompressedBody z ε) : motive body (body.pollFrame now) := by
  -- on the rounds that are left
  induction hrounds : body.rounds using Nat.strongRecOn generalizing body with
  | _ n ih =>
    rcases hstep : body.step now with ⟨poll | _, body'⟩
    · rw [pollFrame_of_ready hstep]
      exact ready body poll body' hstep
    · rw [pollFrame_of_continue hstep]
      exact next body body' hstep (ih _ (hrounds ▸ rounds_step hstep) body' rfl)

end CompressedBody

end Reduction
