import Reduction.Spec.CompressSteps

/-!
# The compressed body as a transducer

`transduce` is what the body yields for what the inner body yields, frame by frame
and without polls, tasks and phases.  Every poll hands out the next piece of it
(`pollAll_toCome`), so that a body which has been polled to its end has handed out
all of it, whatever was pending and whichever chunks were offloaded.

What it says about errors and trailers is not what one wants: both are passed on
as they come, and the encoder is flushed after them.  So a body with trailers, or
one that fails, is transduced faithfully only if the encoder has nothing to flush.

- `compressChunk_passes`, `finishEncoder_passes`: the loops over encoder passes
- `pollAll_toCome`: the polls of a body, against `transduce`
- `exists_pollAll_done`: every body can be polled to its end
- `faithful_iff`: the bodies that are transduced faithfully
-/

namespace Reduction

open Http

/-! ## The encoder -/

section Encoder

variable {z : ZstdEncoder} {s₀ s : z.State} {decode : Bytes → Option Bytes} {i o : Bytes}

/-- The loop consumes all its input, in passes that write what it adds to the output. -/
theorem compressChunk_loop_passes (hz : z.Encodes s₀ decode) (input : Bytes) (room : Nat)
    (output : Bytes) (hpasses : z.Passes s₀ i o s) (hroom : 0 < room) :
    ∃ s' out, compressChunk.loop z s input room output = .ok (s', output ++ out) ∧
      z.Passes s₀ (i ++ input) (o ++ out) s' := by
  -- on the bound for the passes that are left
  induction hmeasure : z.runMeasure s input using Nat.strongRecOn generalizing s input room output
    i o with
  | _ n ih =>
    by_cases hinput : input = []
    · refine ⟨s, [], ?_, by simpa [hinput] using hpasses⟩
      rw [compressChunk.loop, if_pos hinput, List.append_nil]
    · obtain ⟨s', consumed, written, hrun, hmoves⟩ := hz.run_ok hpasses hinput hroom
      have hstuck : ¬ (written = [] ∧ consumed = 0) := fun h => hmoves.elim (· h.2) (· h.1)
      have hlt := z.runMeasure_lt hrun hstuck
      have hleft := Nat.pos_of_ne_zero (enlarged_ne_zero (room - written.length))
      obtain ⟨s'', out, hloop, hrest⟩ := ih _ (hmeasure ▸ hlt) (input.drop consumed)
        (enlarged (room - written.length)) (output ++ written) (hpasses.run hrun) hleft rfl
      refine ⟨s'', written ++ out, ?_, ?_⟩
      · rw [compressChunk.loop_ok hinput hrun, if_neg hstuck, hloop, List.append_assoc]
      · simpa [List.append_assoc] using hrest

theorem compressChunk_passes (hz : z.Encodes s₀ decode) (input : Bytes)
    (hpasses : z.Passes s₀ i o s) :
    ∃ s' out, compressChunk z s input = .ok (s', out) ∧ z.Passes s₀ (i ++ input) (o ++ out) s' := by
  have hroom : 0 < max outputBufSize input.length := by
    rw [lt_max_iff]
    exact .inl (by decide)
  exact compressChunk_loop_passes hz input _ [] hpasses hroom

/-- The loop that ends the stream completes what was written to a frame of all the input. -/
theorem finishEncoder_loop_passes (hz : z.Encodes s₀ decode) (room : Nat) (output : Bytes)
    (hpasses : z.Passes s₀ i o s) (hroom : 0 < room) :
    ∃ s' out, finishEncoder.loop z s room output = .ok (s', output ++ out) ∧
      decode (o ++ out) = some i := by
  induction hmeasure : z.held s using Nat.strongRecOn generalizing s room output o with
  | _ n ih =>
    obtain ⟨s', left, written, hfinish, hmoves⟩ := hz.finish_ok hpasses hroom
    rw [finishEncoder.loop_ok hfinish]
    by_cases hleft : left = 0
    · subst hleft
      exact ⟨s', written, by simp, hz.decodes hpasses hfinish⟩
    · have hwritten : written ≠ [] := hmoves.resolve_left hleft
      have hheld := z.finish_held hfinish
      have hpos := List.length_pos_iff.mpr hwritten
      have hnext := Nat.pos_of_ne_zero (enlarged_ne_zero (room - written.length))
      obtain ⟨s'', out, hloop, hdecode⟩ := ih (z.held s') (by omega)
        (enlarged (room - written.length)) (output ++ written) (hpasses.finish hfinish) hnext rfl
      refine ⟨s'', written ++ out, ?_, ?_⟩
      · simp only [hleft, if_false, hwritten, false_and, hloop, List.append_assoc]
      · rw [← List.append_assoc]
        exact hdecode

theorem finishEncoder_passes (hz : z.Encodes s₀ decode) (hpasses : z.Passes s₀ i o s) :
    ∃ s' out, finishEncoder z s = .ok (s', out) ∧ decode (o ++ out) = some i :=
  finishEncoder_loop_passes hz _ [] hpasses (by decide)

end Encoder

/-! ## Without polls -/

section Transduce

variable {z : ZstdEncoder} {ε : Type}

/-- The frame that compressed bytes are sent as, if there are any. -/
def frameOf (out : Bytes) : List (Except (CompressError ε) Frame) :=
  if out = [] then [] else [.ok (.data out)]

/-- The encoder's output and what follows it, or the error that ends the body. -/
def written (result : Except String (z.State × Bytes))
    (next : z.State → List (Except (CompressError ε) Frame)) :
    List (Except (CompressError ε) Frame) :=
  match result with
  | .ok (s, out) => frameOf out ++ next s
  | .error e => [.error (.zstd e)]

@[simp]
theorem written_ok (s : z.State) (out : Bytes)
    (next : z.State → List (Except (CompressError ε) Frame)) :
    written (.ok (s, out)) next = frameOf out ++ next s := rfl

/-- A chunk is compressed by the encoder, or by a task that may fail. -/
def chunkResult (z : ZstdEncoder) (s : z.State) (offloads : List Offload) (d : Bytes) :
    Except String (z.State × Bytes) :=
  match if offloadThresholdBytes < d.length then offloads.head?.bind Offload.joinError else none with
  | some e => .error ("compression task join failed: " ++ e)
  | none => compressChunk z s d

/-- The tasks that are left after a chunk. -/
def offloadsAfter (offloads : List Offload) (d : Bytes) : List Offload :=
  if offloadThresholdBytes < d.length then offloads.tail else offloads

/-- What a compressed body yields for what its inner body yields. -/
def transduce (z : ZstdEncoder) :
    z.State → List Offload → List (Except ε Frame) → List (Except (CompressError ε) Frame)
  | s, _, [] => written (finishEncoder z s) fun _ => []
  | s, offloads, .error e :: rest => .error (.inner e) :: transduce z s offloads rest
  | s, offloads, .ok (.trailers fields) :: rest =>
    .ok (.trailers fields) :: transduce z s offloads rest
  | s, offloads, .ok (.data d) :: rest =>
    written (chunkResult z s offloads d) fun s' =>
      transduce z s' (offloadsAfter offloads d) rest

end Transduce

/-! ## The polls of a body -/

namespace CompressedBody

variable {z : ZstdEncoder} {ε : Type} {body body' : CompressedBody z ε}

/-- The encoder is in the body or with the task. -/
def Intact (body : CompressedBody z ε) : Prop :=
  match body.phase with
  | .streaming | .flushing => body.encoder.isSome
  | .offloading => body.task.isSome
  | .done => True

/-- What a body still has to yield. -/
def toCome (body : CompressedBody z ε) : List (Except (CompressError ε) Frame) :=
  match body.phase with
  | .streaming =>
    body.encoder.elim [] fun s => transduce z s body.offloads (body.inner.frames.map Prod.snd)
  | .offloading =>
    body.task.elim [] fun task => written (flattenJoin task.result) fun s =>
      transduce z s body.offloads (body.inner.frames.map Prod.snd)
  | .flushing => body.encoder.elim [] fun s => written (finishEncoder z s) fun _ => []
  | .done => []

/-- The frames that polls have handed out. -/
def framesOf (polls : List (FramePoll ε)) : List (Except (CompressError ε) Frame) :=
  polls.filterMap fun
    | .ready frame => frame
    | .pending => none

theorem framesOf_cons (poll : FramePoll ε) (polls : List (FramePoll ε)) :
    framesOf (poll :: polls) = framesOf [poll] ++ framesOf polls :=
  List.filterMap_append (l := [poll])

/-- The frame that a round hands out, if any. -/
def handedOut : Step ε → List (Except (CompressError ε) Frame)
  | .ready poll => framesOf [poll]
  | .continue => []

theorem handedOut_emitted (out : Bytes) : handedOut (emitted out : Step ε) = frameOf out := by
  unfold emitted frameOf
  split <;> rfl

theorem handedOut_flushed (out : Bytes) :
    handedOut (.ready (.ready (if out = [] then none else some (.ok (.data out)))) : Step ε) =
      frameOf out := by
  unfold frameOf
  split <;> rfl

theorem flattenJoin_spawned (body : CompressedBody z ε) (s : z.State) (d : Bytes) (now : Instant)
    (hbig : offloadThresholdBytes < d.length) :
    flattenJoin (body.spawned s d now).result = chunkResult z s body.offloads d := by
  unfold spawned chunkResult
  rw [if_pos hbig]
  cases body.offloads with
  | nil => rfl
  | cons fate fates =>
    cases hjoin : fate.joinError with
    | none => simp [flattenJoin, hjoin]
    | some e => simp [flattenJoin, hjoin]

theorem chunkResult_small {s : z.State} {d : Bytes} (offloads : List Offload)
    (hsmall : ¬ offloadThresholdBytes < d.length) :
    chunkResult z s offloads d = compressChunk z s d := by
  rw [chunkResult, if_neg hsmall]

/-- A round keeps the encoder, and hands out the next frame of what is to come, if any. -/
theorem step_toCome (h : body.Intact) (now : Instant) :
    (body.step now).2.Intact ∧
      body.toCome = handedOut (body.step now).1 ++ (body.step now).2.toCome := by
  have hcase := body.step_case now
  generalize body.step now = stepped at hcase ⊢
  cases hcase with
  | done hphase => exact ⟨h, by simp [toCome, hphase, handedOut, framesOf]⟩
  | lost hphase inner _ hencoder htask =>
    -- the encoder is not lost
    exfalso
    cases hp : body.phase with
    | done => exact hphase hp
    | offloading => simp [Intact, hp, htask hp] at h
    | streaming => simp [Intact, hp, hencoder (by simp [hp])] at h
    | flushing => simp [Intact, hp, hencoder (by simp [hp])] at h
  | taskPending => exact ⟨h, rfl⟩
  | innerPending => exact ⟨h, rfl⟩
  | taskDone hphase htask hready hresult =>
    refine ⟨by simp [Intact], ?_⟩
    simp [toCome, hphase, htask, hresult, handedOut_emitted]
  | taskFailed hphase htask hready hresult =>
    refine ⟨by simp [Intact, failed], ?_⟩
    simp [toCome, hphase, htask, hresult, written, failed, handedOut, framesOf]
  | innerEnd hphase hframes hend =>
    refine ⟨by simpa [Intact, hphase] using h, ?_⟩
    simp [toCome, hphase, hframes, transduce, handedOut]
  | innerError hphase hframes harrived =>
    refine ⟨by simpa [Intact, hphase] using h, ?_⟩
    obtain ⟨s, hs⟩ := Option.isSome_iff_exists.mp (by simpa [Intact, hphase] using h)
    simp [toCome, hphase, hs, hframes, transduce, handedOut, framesOf, Incoming.took]
  | trailers hphase hframes harrived =>
    refine ⟨by simpa [Intact, hphase] using h, ?_⟩
    obtain ⟨s, hs⟩ := Option.isSome_iff_exists.mp (by simpa [Intact, hphase] using h)
    simp [toCome, hphase, hs, hframes, transduce, handedOut, framesOf, Incoming.took]
  | offloaded hphase hframes harrived hencoder hbig =>
    refine ⟨by simp [Intact], ?_⟩
    simp [toCome, hphase, hencoder, hframes, transduce, handedOut, Incoming.took, offloadsAfter,
      hbig, flattenJoin_spawned _ _ _ _ hbig]
  | compressed hphase hframes harrived hencoder hsmall hchunk =>
    refine ⟨by simp [Intact, hphase], ?_⟩
    simp [toCome, hphase, hencoder, hframes, transduce, handedOut_emitted, Incoming.took,
      offloadsAfter, hsmall, chunkResult_small _ hsmall, hchunk]
  | chunkFailed hphase hframes harrived hencoder hsmall hchunk =>
    refine ⟨by simp [Intact, failed], ?_⟩
    simp [toCome, hphase, hencoder, hframes, transduce, handedOut, framesOf, failed, written,
      chunkResult_small _ hsmall, hchunk]
  | flushed hphase hencoder hfinish =>
    refine ⟨by simp [Intact], ?_⟩
    rw [handedOut_flushed]
    simp [toCome, hphase, hencoder, hfinish]
  | flushFailed hphase hencoder hfinish =>
    refine ⟨by simp [Intact, failed], ?_⟩
    simp [toCome, hphase, hencoder, hfinish, written, failed, handedOut, framesOf]

/-- So does a poll. -/
theorem pollFrame_toCome (body : CompressedBody z ε) (now : Instant) : body.Intact →
    (body.pollFrame now).2.Intact ∧
      body.toCome = framesOf [(body.pollFrame now).1] ++ (body.pollFrame now).2.toCome := by
  induction body using pollFrame_induction with
  | ready body poll body' hstep =>
    intro h
    have hnext := step_toCome h now
    rw [hstep] at hnext
    exact hnext
  | next body body' hstep ih =>
    intro h
    have hnext := step_toCome h now
    rw [hstep] at hnext
    obtain ⟨hintact, hsame⟩ := hnext
    rw [hsame]
    exact ih hintact

/-- The polls of a consumer at the given times, and the body after them. -/
def pollAll : CompressedBody z ε → List Instant → List (FramePoll ε) × CompressedBody z ε
  | body, [] => ([], body)
  | body, now :: times =>
    ((body.pollFrame now).1 :: ((body.pollFrame now).2.pollAll times).1,
      ((body.pollFrame now).2.pollAll times).2)

/-- What polls have handed out and what is to come after them is what was to come before. -/
theorem pollAll_toCome (h : body.Intact) (times : List Instant) :
    body.toCome = framesOf (body.pollAll times).1 ++ (body.pollAll times).2.toCome := by
  induction times generalizing body with
  | nil => rfl
  | cons now times ih =>
    obtain ⟨hintact, hfirst⟩ := body.pollFrame_toCome now h
    rw [hfirst, ih hintact, ← List.append_assoc, ← framesOf_cons]
    rfl

/-! ## The end is reached -/

/-- A bound for the polls that get on with the body. -/
def remaining (body : CompressedBody z ε) : Nat := if body.phase = .done then 0 else body.rounds + 1

theorem remaining_of_ne_done (h : body.phase ≠ .done) : body.remaining = body.rounds + 1 :=
  if_neg h

/-- A round that does not end in `Pending` gets on. -/
theorem remaining_step (hphase : body.phase ≠ .done) (now : Instant) :
    body.step now = (.ready .pending, body) ∨ (body.step now).2.remaining < body.remaining := by
  rw [remaining_of_ne_done hphase]
  have hcase := body.step_case now
  generalize body.step now = stepped at hcase ⊢
  cases hcase with
  | done hdone => exact absurd hdone hphase
  | taskPending => exact .inl rfl
  | innerPending => exact .inl rfl
  | taskDone hphase =>
    right
    simp [remaining, rounds, hphase]
  | innerEnd hphase =>
    right
    simp [remaining, rounds, hphase]
  | innerError hphase hframes | trailers hphase hframes | compressed hphase hframes =>
    right
    simp [remaining, rounds, hphase, hframes, Incoming.took]
  | offloaded hphase hframes =>
    right
    simp [remaining, rounds, hphase, hframes, Incoming.took]
    omega
  | lost | taskFailed | chunkFailed | flushed | flushFailed =>
    right
    simp [remaining, failed]

theorem remaining_continue {now : Instant} (h : body.step now = (.continue, body')) :
    body'.remaining < body.remaining := by
  have hphase : body.phase ≠ .done := by
    intro hdone
    rw [step, hdone] at h
    cases h
  have hlt := remaining_step hphase now
  rw [h] at hlt
  exact hlt.resolve_left (by simp)

/-- So does a poll. -/
theorem remaining_pollFrame (hphase : body.phase ≠ .done) (now : Instant) :
    body.step now = (.ready .pending, body) ∨ (body.pollFrame now).2.remaining < body.remaining := by
  have hle : ∀ b : CompressedBody z ε, (b.pollFrame now).2.remaining ≤ b.remaining := by
    intro b
    induction b using pollFrame_induction with
    | ready b poll b' hstep =>
      by_cases hdone : b.phase = .done
      · rw [step, hdone] at hstep
        cases hstep
        exact Nat.le_refl _
      · rcases remaining_step hdone now with hpending | hlt
        · rw [hpending] at hstep
          cases hstep
          exact Nat.le_refl _
        · rw [hstep] at hlt
          exact Nat.le_of_lt hlt
    | next b b' hstep ih =>
      have hlt := remaining_continue hstep
      omega
  rcases remaining_step hphase now with hpending | hlt
  · exact .inl hpending
  · right
    rcases hstep : body.step now with ⟨poll | _, body'⟩
    · rw [pollFrame_of_ready hstep]
      rw [hstep] at hlt
      exact hlt
    · rw [pollFrame_of_continue hstep]
      rw [hstep] at hlt
      exact Nat.lt_of_le_of_lt (hle body') hlt

/-- The time that a round waits for. -/
def awaits (body : CompressedBody z ε) : Instant :=
  match body.phase with
  | .offloading => (body.task.map OffloadTask.readyAt).getD 0
  | .streaming => (body.inner.frames.head?.map Prod.fst).getD body.inner.endAt
  | _ => 0

theorem step_ne_pending {now : Instant} (h : body.awaits ≤ now) :
    body.step now ≠ (.ready .pending, body) := by
  intro hstep
  have hcase := body.step_case now
  rw [hstep] at hcase
  generalize hout : (Step.ready Poll.pending, body) = out at hcase
  cases hcase with
  | taskPending hphase htask hready =>
    simp only [awaits, hphase, htask, Option.map_some, Option.getD_some] at h
    exact absurd h (Nat.not_le_of_lt hready)
  | innerPending hphase hwaits =>
    cases hframes : body.inner.frames with
    | nil =>
      simp only [awaits, hphase, hframes, List.head?_nil, Option.map_none, Option.getD_none] at h
      exact absurd h (Nat.not_le_of_lt (hwaits.2 hframes))
    | cons first frames =>
      simp only [awaits, hphase, hframes, List.head?_cons, Option.map_some, Option.getD_some] at h
      exact absurd h (Nat.not_le_of_lt (hwaits.1 first (by simp [hframes])))
  | @taskDone _ _ out _ _ _ _ | @compressed _ _ out _ _ _ _ _ _ _ _ _ =>
    rcases emitted_cases (ε := ε) out with ⟨-, hemitted⟩ | ⟨-, hemitted⟩
    · rw [hemitted] at hout
      cases hout
    · rw [hemitted] at hout
      cases hout
  | _ => cases hout

/-- A body can be polled to its end from any time on. -/
theorem exists_pollAll_done (body : CompressedBody z ε) (start : Instant) :
    ∃ times, List.IsChain (· ≤ ·) (start :: times) ∧ (body.pollAll times).2.phase = .done := by
  induction hn : body.remaining using Nat.strongRecOn generalizing body start with
  | _ n ih =>
    by_cases hphase : body.phase = .done
    · exact ⟨[], List.isChain_singleton _, hphase⟩
    · -- the next poll is late enough for what the body waits for
      have hlate : body.awaits ≤ max start body.awaits := le_max_right _ _
      have hlt := (remaining_pollFrame hphase (max start body.awaits)).resolve_left
        (step_ne_pending hlate)
      obtain ⟨times, hchain, hdone⟩ := ih _ (hn ▸ hlt) _ (max start body.awaits) rfl
      exact ⟨max start body.awaits :: times, hchain.cons_cons (le_max_left _ _), hdone⟩

end CompressedBody

/-! ## Faithful bodies -/

section FaithfulBodies

variable {z : ZstdEncoder} {ε : Type} {s₀ s : z.State} {decode : Bytes → Option Bytes}
  {i o : Bytes}

/-- An inner body: data, then perhaps trailers, then perhaps an error. -/
def innerFrames (ds : List Bytes) (tr : Option HeaderMap) (err : Option ε) :
    List (Except ε Frame) :=
  ds.map (fun d => .ok (.data d)) ++
    (tr.toList.map (fun fields => .ok (.trailers fields)) ++ err.toList.map .error)

/-- What the frames of a compressed body should be.  After a clean end the data decode to the inner
    data, and the trailers are last; an error of the inner body is the last frame. -/
def FaithfulBody (decode : Bytes → Option Bytes) (ds : List Bytes) (tr : Option HeaderMap)
    (err : Option ε) (frames : List (Except (CompressError ε) Frame)) : Prop :=
  match err with
  | none => ∃ chunks : List Bytes,
      frames = chunks.map (fun d => .ok (.data d)) ++
        tr.toList.map (fun fields => .ok (.trailers fields)) ∧
      decode chunks.flatten = some ds.flatten
  | some e => ∃ before : List Frame, frames = before.map .ok ++ [.error (.inner e)]

/-- No task that a chunk is handed to fails to be joined. -/
def Joins : List Offload → List Bytes → Prop
  | _, [] => True
  | offloads, d :: ds =>
    (offloadThresholdBytes < d.length → offloads.head?.bind Offload.joinError = none) ∧
      Joins (offloadsAfter offloads d) ds

/-- What the encoder is flushed of after it has compressed all chunks. -/
def flushAfter (z : ZstdEncoder) : z.State → List Bytes → Bytes
  | s, [] =>
    match finishEncoder z s with
    | .ok (_, out) => out
    | .error _ => []
  | s, d :: ds =>
    match compressChunk z s d with
    | .ok (s', _) => flushAfter z s' ds
    | .error _ => []

theorem frameOf_eq_map (out : Bytes) : ∃ chunks : List Bytes, chunks.flatten = out ∧
    (frameOf out : List (Except (CompressError ε) Frame)) =
      chunks.map fun d => .ok (.data d) := by
  by_cases h : out = []
  · exact ⟨[], by simp [h], by simp [frameOf, h]⟩
  · exact ⟨[out], by simp, by simp [frameOf, h]⟩

variable {offloads : List Offload} {ds : List Bytes}

theorem chunkResult_joined {d : Bytes}
    (h : offloadThresholdBytes < d.length → offloads.head?.bind Offload.joinError = none) :
    chunkResult z s offloads d = compressChunk z s d := by
  by_cases hbig : offloadThresholdBytes < d.length
  · rw [chunkResult, if_pos hbig, h hbig]
  · exact CompressedBody.chunkResult_small offloads hbig

theorem chunkResult_unjoined {d : Bytes}
    (h : ¬ (offloadThresholdBytes < d.length → offloads.head?.bind Offload.joinError = none)) :
    ∃ e, chunkResult z s offloads d = .error e := by
  rw [Classical.not_imp] at h
  obtain ⟨e, he⟩ := Option.ne_none_iff_exists'.mp h.2
  exact ⟨_, by rw [chunkResult, if_pos h.1, he]⟩

/-- The chunks of data, if all tasks are joined. -/
theorem transduce_data (hz : z.Encodes s₀ decode) (hjoins : Joins offloads ds)
    (hpasses : z.Passes s₀ i o s) :
    ∃ s' offloads', ∃ chunks : List Bytes,
      (∀ rest : List (Except ε Frame),
        transduce z s offloads (ds.map (fun d => .ok (.data d)) ++ rest) =
          chunks.map (fun d => .ok (.data d)) ++ transduce z s' offloads' rest) ∧
      z.Passes s₀ (i ++ ds.flatten) (o ++ chunks.flatten) s' ∧
      flushAfter z s ds = flushAfter z s' [] := by
  induction ds generalizing s i o offloads with
  | nil => exact ⟨s, offloads, [], fun _ => rfl, by simpa using hpasses, rfl⟩
  | cons d ds ih =>
    obtain ⟨s₁, out, hchunk, hfirst⟩ := compressChunk_passes hz d hpasses
    obtain ⟨s', offloads', chunks, hrest, hlast, hflush⟩ := ih hjoins.2 hfirst
    obtain ⟨first, hflatten, hframe⟩ := frameOf_eq_map (ε := ε) out
    refine ⟨s', offloads', first ++ chunks, ?_, ?_, ?_⟩
    · intro rest
      rw [List.map_cons, List.cons_append, transduce, chunkResult_joined hjoins.1, hchunk,
        written_ok, hrest, hframe, List.map_append, List.append_assoc]
    · simpa [hflatten] using hlast
    · rw [← hflush, flushAfter, hchunk]

/-- A task that is not joined ends the body with an error of its own. -/
theorem transduce_unjoined (hz : z.Encodes s₀ decode) (hjoins : ¬ Joins offloads ds)
    (hpasses : z.Passes s₀ i o s) :
    ∃ (before : List (Except (CompressError ε) Frame)) (e : String),
      ∀ rest : List (Except ε Frame),
        transduce z s offloads (ds.map (fun d => .ok (.data d)) ++ rest) =
          before ++ [.error (.zstd e)] := by
  induction ds generalizing s i o offloads with
  | nil => exact absurd trivial hjoins
  | cons d ds ih =>
    by_cases hjoined :
        offloadThresholdBytes < d.length → offloads.head?.bind Offload.joinError = none
    · obtain ⟨s₁, out, hchunk, hfirst⟩ := compressChunk_passes hz d hpasses
      obtain ⟨before, e, hrest⟩ := ih (fun h => hjoins ⟨hjoined, h⟩) hfirst
      refine ⟨frameOf out ++ before, e, ?_⟩
      intro rest
      rw [List.map_cons, List.cons_append, transduce, chunkResult_joined hjoined, hchunk,
        written_ok, hrest, List.append_assoc]
    · obtain ⟨e, hresult⟩ := chunkResult_unjoined (s := s) hjoined
      refine ⟨[], e, ?_⟩
      intro rest
      rw [List.map_cons, List.cons_append, transduce, hresult]
      rfl

/-- Trailers and errors are passed on, and the encoder is flushed after them. -/
theorem transduce_rest {out : Bytes} {s' : z.State} (offloads : List Offload)
    (hfinish : finishEncoder z s = .ok (s', out)) (tr : Option HeaderMap) (err : Option ε) :
    transduce z s offloads
      (tr.toList.map (fun fields => .ok (.trailers fields)) ++ err.toList.map .error) =
      tr.toList.map (fun fields => .ok (.trailers fields)) ++
        (err.toList.map (fun e => .error (.inner e)) ++ frameOf out) := by
  cases tr <;> cases err <;> simp [transduce, hfinish]

/-- An error is not faithful unless it is the inner body's. -/
theorem not_faithful_of_zstd (ds : List Bytes) (tr : Option HeaderMap) (err : Option ε)
    (before : List (Except (CompressError ε) Frame)) (e : String) :
    ¬ FaithfulBody decode ds tr err (before ++ [.error (.zstd e)]) := by
  cases err with
  | none =>
    rintro ⟨chunks, hframes, -⟩
    have hmem : .error (.zstd e) ∈ before ++ [.error (.zstd e)] := by simp
    rw [hframes] at hmem
    simp at hmem
  | some inner =>
    rintro ⟨frames, hframes⟩
    have hlast := congrArg List.getLast? hframes
    simp at hlast

/-- Data after the trailers or after the error are not faithful. -/
theorem not_faithful_of_data (ds : List Bytes) (tr : Option HeaderMap) (err : Option ε)
    (before : List (Except (CompressError ε) Frame)) (out : Bytes)
    (h : tr.isSome ∨ err.isSome) : ¬ FaithfulBody decode ds tr err (before ++ [.ok (.data out)]) := by
  cases err with
  | none =>
    rintro ⟨chunks, hframes, -⟩
    obtain ⟨fields, rfl⟩ := Option.isSome_iff_exists.mp (h.resolve_right (by simp))
    have hlast := congrArg List.getLast? hframes
    simp at hlast
  | some inner =>
    rintro ⟨frames, hframes⟩
    have hlast := congrArg List.getLast? hframes
    simp at hlast

theorem faithful_of_flush_empty {chunks : List Bytes} (tr : Option HeaderMap) (err : Option ε)
    (hdecode : decode chunks.flatten = some ds.flatten) :
    FaithfulBody decode ds tr err (chunks.map (fun d => .ok (.data d)) ++
      (tr.toList.map (fun fields => .ok (.trailers fields)) ++
        err.toList.map fun e => .error (.inner e))) := by
  cases err with
  | none => exact ⟨chunks, by simp, hdecode⟩
  | some e =>
    refine ⟨chunks.map .data ++ tr.toList.map .trailers, ?_⟩
    simp [Function.comp_def]

/-- The bodies that are transduced faithfully, once they have been polled to the end. -/
theorem faithful_iff (hz : z.Encodes s₀ decode) (inner : Incoming ε) (offloads : List Offload)
    (ds : List Bytes) (tr : Option HeaderMap) (err : Option ε)
    (hinner : inner.frames.map Prod.snd = innerFrames ds tr err) (times : List Instant)
    (hend : ((CompressedBody.withEncoder inner offloads s₀).pollAll times).2.phase = .done) :
    FaithfulBody decode ds tr err
        (CompressedBody.framesOf
          ((CompressedBody.withEncoder inner offloads s₀).pollAll times).1) ↔
      Joins offloads ds ∧ (tr.isSome ∨ err.isSome → flushAfter z s₀ ds = []) := by
  -- everything that was to come has been handed out
  have hintact : (CompressedBody.withEncoder inner offloads s₀).Intact := rfl
  have hall := CompressedBody.pollAll_toCome hintact times
  have hnone : ((CompressedBody.withEncoder inner offloads s₀).pollAll times).2.toCome = [] := by
    rw [CompressedBody.toCome, hend]
  have hall₀ : (CompressedBody.withEncoder inner offloads s₀).toCome =
      transduce z s₀ offloads (inner.frames.map Prod.snd) := rfl
  rw [hnone, List.append_nil, hall₀, hinner, innerFrames] at hall
  rw [← hall]
  by_cases hjoins : Joins offloads ds
  · obtain ⟨s', offloads', chunks, hdata, hpasses, hflush⟩ :=
      transduce_data (ε := ε) hz hjoins .start
    obtain ⟨s'', out, hfinish, hdecode⟩ := finishEncoder_passes hz hpasses
    rw [List.nil_append, List.nil_append] at hdecode
    have hout : flushAfter z s₀ ds = out := by rw [hflush, flushAfter, hfinish]
    rw [hdata, transduce_rest offloads' hfinish, hout]
    by_cases hempty : out = []
    · refine iff_of_true ?_ ⟨hjoins, fun _ => hempty⟩
      rw [hempty, List.append_nil] at hdecode
      rw [frameOf, if_pos hempty, List.append_nil]
      exact faithful_of_flush_empty tr err hdecode
    · by_cases hrest : tr.isSome ∨ err.isSome
      · refine iff_of_false ?_ fun h => hempty (h.2 hrest)
        rw [frameOf, if_neg hempty, ← List.append_assoc, ← List.append_assoc]
        exact not_faithful_of_data ds tr err _ out hrest
      · refine iff_of_true ?_ ⟨hjoins, fun h => absurd h hrest⟩
        -- nothing but data, with the flush as the last chunk
        rw [not_or, Option.not_isSome_iff_eq_none, Option.not_isSome_iff_eq_none] at hrest
        obtain ⟨rfl, rfl⟩ := hrest
        refine ⟨chunks ++ [out], ?_, ?_⟩
        · simp [frameOf, hempty]
        · simpa using hdecode
  · obtain ⟨before, e, hfails⟩ := transduce_unjoined (ε := ε) hz hjoins .start
    rw [hfails]
    exact iff_of_false (not_faithful_of_zstd ds tr err before e) fun h => hjoins h.1

end FaithfulBodies

/-! ## An encoder that keeps everything until it is flushed -/

namespace Sample

/-- The encoder writes nothing before it is flushed, as zstd does with short bodies. -/
def bufferingEncoder : ZstdEncoder where
  State := Bytes
  run s input _ := .ok (s ++ input, input.length, [])
  finish s room := .ok (s.drop room, (s.drop room).length, s.take room)
  held s := s.length
  expansion := 1
  run_consumed h := by
    cases h
    exact Nat.le_refl _
  run_held h := by
    cases h
    simp
  finish_held h := by
    cases h
    simp
    omega

/-- What the encoder has kept. -/
def kept (s : bufferingEncoder.State) : Bytes := s

theorem bufferingEncoder_passes {s₀ s : bufferingEncoder.State} {i o : Bytes}
    (h : bufferingEncoder.Passes s₀ i o s) : kept s₀ ++ i = o ++ kept s := by
  induction h with
  | start => exact List.append_nil _
  | @run i o s input _ _ _ _ _ hrun ih =>
    cases hrun
    show kept s₀ ++ (i ++ input.take input.length) = o ++ [] ++ (kept s ++ input)
    rw [List.take_length, ← List.append_assoc, ih, List.append_nil, List.append_assoc]
  | @finish i o s room _ _ _ _ hfinish ih =>
    cases hfinish
    show kept s₀ ++ i = o ++ (kept s).take room ++ (kept s).drop room
    rw [ih, List.append_assoc, List.take_append_drop]

theorem bufferingEncoder_encodes : bufferingEncoder.Encodes ([] : Bytes) some where
  run_ok _ hinput _ := ⟨_, _, _, rfl, .inl (by simpa using hinput)⟩
  finish_ok := by
    intro i o (s : Bytes) room _ hroom
    refine ⟨s.drop room, (s.drop room).length, s.take room, rfl, ?_⟩
    by_cases hs : s = []
    · exact .inl (by simp [hs])
    · exact .inr (by simpa [hs] using Nat.ne_of_gt hroom)
  decodes := by
    intro i o (s : Bytes) room s' out hpasses hfinish
    have hall : i = o ++ s := bufferingEncoder_passes hpasses
    have hfinish' := Except.ok.inj hfinish
    have hleft : (s.drop room).length = 0 := congrArg (·.2.1) hfinish'
    have hout : s.take room = out := congrArg (·.2.2) hfinish'
    rw [List.length_eq_zero_iff, List.drop_eq_nil_iff] at hleft
    rw [List.take_of_length_le hleft] at hout
    rw [hall, hout]

/-- Three bytes, then what follows them at the same time. -/
def shortBody (rest : List (Except String Frame)) : Incoming String :=
  { frames := (0, .ok (.data [1, 2, 3])) :: rest.map fun f => (0, f), endAt := 0, taken := [] }

/-- The frames that three polls of the compressed body hand out. -/
def shortFrames (rest : List (Except String Frame)) :
    List (Except (CompressError String) Frame) :=
  CompressedBody.framesOf
    ((CompressedBody.withEncoder (z := bufferingEncoder) (shortBody rest) [] []).pollAll
      [0, 1, 2]).1

end Sample

open Sample in
theorem short_body_faithful :
    FaithfulBody some [[1, 2, 3]] none (none : Option String) (shortFrames []) :=
  (faithful_iff bufferingEncoder_encodes (shortBody []) [] [[1, 2, 3]] none none rfl [0, 1, 2]
    (by decide +kernel)).mpr ⟨⟨fun h => absurd h (by decide), trivial⟩, fun h => absurd h (by simp)⟩

open Sample in
/-- A body that fails still ends like a whole one, and trailers come before the data. -/
theorem compressed_body_not_faithful :
    shortFrames [.error "reset"] = [.error (.inner "reset"), .ok (.data [1, 2, 3])] ∧
    ¬ FaithfulBody some [[1, 2, 3]] none (some "reset") (shortFrames [.error "reset"]) ∧
    shortFrames [.ok (.trailers [])] = [.ok (.trailers []), .ok (.data [1, 2, 3])] ∧
    ¬ FaithfulBody some [[1, 2, 3]] (some []) (none : Option String)
      (shortFrames [.ok (.trailers [])]) := by
  have herror : shortFrames [.error "reset"] =
      [.error (.inner "reset"), .ok (.data [1, 2, 3])] := by decide +kernel
  have htrailers : shortFrames [.ok (.trailers [])] =
      [.ok (.trailers []), .ok (.data [1, 2, 3])] := by decide +kernel
  refine ⟨herror, ?_, htrailers, ?_⟩
  · rw [herror]
    exact not_faithful_of_data _ none (some "reset") [.error (.inner "reset")] _ (.inr rfl)
  · rw [htrailers]
    exact not_faithful_of_data _ (some []) none [.ok (.trailers [])] _ (.inl rfl)

end Reduction
