import Reduction.Native.CompressBuffer

/-!
# Nothing is lost between the buffers

With an encoder that gets on whenever it has space, the loops of the compressor
return what its passes wrote, one after the other, however often the output buffer
is enlarged on the way: the filled cells are what the passes so far have written,
and the buffer is never full when a pass begins.  Neither loop finds a pass that
made no progress.

An encoder that keeps writing keeps a loop going.  One with a bound on what it
writes comes to an end, and then the loops over buffers are the loops over lists
that the rest of the body's model is built on.
-/

namespace Reduction

namespace Buffered

variable {z : ZstdEncoder} {s s' : z.State} {input rest : Bytes} {pos passes : Nat}
  {output : OutBuffer UInt8}

/-- Passes get on when they are given space. -/
structure ZstdEncoder.Progresses (z : ZstdEncoder) : Prop where
  run_ok : ∀ s input space, input ≠ [] → 0 < space →
    ∃ s' n out, z.run s input space = .ok (s', n, out) ∧ ¬ (out = [] ∧ n = 0)
  finish_ok : ∀ s space, 0 < space →
    ∃ s' left out, z.finish s space = .ok (s', left, out) ∧ (left = 0 ∨ out ≠ [])

/-- A bound for what the encoder can still write, in terms of what it has been fed. -/
structure ZstdEncoder.Bound (z : ZstdEncoder) where
  held : z.State → Nat
  expansion : Nat
  run_held : ∀ {s input space s' n out}, z.run s input space = .ok (s', n, out) →
    held s' + out.length ≤ held s + expansion * n
  finish_held : ∀ {s space s' left out}, z.finish s space = .ok (s', left, out) →
    held s' + out.length ≤ held s

/-- The encoder of the body's model. -/
abbrev ZstdEncoder.bounded (z : ZstdEncoder) (bound : z.Bound) : Reduction.ZstdEncoder :=
  { State := z.State
    run := z.run
    finish := z.finish
    held := bound.held
    expansion := bound.expansion
    run_consumed := z.run_consumed
    run_held := bound.run_held
    finish_held := bound.finish_held }

/-- What passes wrote, in their order. -/
def writtenBy (ps : List Pass) : Bytes := ps.flatMap Pass.written

@[simp] theorem writtenBy_nil : writtenBy [] = [] := rfl

@[simp] theorem writtenBy_cons (p : Pass) (ps : List Pass) :
    writtenBy (p :: ps) = p.written ++ writtenBy ps := rfl

/-- The passes that feed an input to the encoder, from a state to a state and what is then left
    of the input. -/
inductive Runs (z : ZstdEncoder) : z.State → Bytes → List Pass → z.State → Bytes → Prop
  | none (s : z.State) (input : Bytes) : Runs z s input [] s input
  | pass {s s' s'' : z.State} {input rest : Bytes} {p : Pass} {ps : List Pass}
      (hrun : z.run s input p.space = .ok (s', p.consumed, p.written))
      (hleft : p.left = some (input.drop p.consumed).length)
      (hps : Runs z s' (input.drop p.consumed) ps s'' rest) : Runs z s input (p :: ps) s'' rest

/-- The passes that end the stream. -/
inductive Finishes (z : ZstdEncoder) : z.State → List Pass → z.State → Prop
  | none (s : z.State) : Finishes z s [] s
  | pass {s s' s'' : z.State} {p : Pass} {ps : List Pass} {left : Nat}
      (hfinish : z.finish s p.space = .ok (s', left, p.written)) (hleft : p.left = some left)
      (hps : Finishes z s' ps s'') : Finishes z s (p :: ps) s''

/-! ## A pass of a loop -/

variable {e : String} {out before : Bytes} {left : Nat} {p : Pass}

/-- A failed pass ends the loop. -/
theorem compressChunk.loop_failed (hpos : pos < input.length)
    (hrun : z.run s (input.drop pos) output.room = .error e) :
    (compressChunk.loop z input (passes + 1) s pos output).val = some (.error e) := by
  rw [compressChunk.loop, if_pos hpos, hrun]
  rfl

/-- A pass that gets on is followed by the rest of the loop. -/
theorem compressChunk.loop_pass {n : Nat} (hpos : pos < input.length)
    (hrun : z.run s (input.drop pos) output.room = .ok (s', n, out))
    (hprogress : ¬ (out = [] ∧ n = 0)) :
    compressChunk.loop z input (passes + 1) s pos output =
      (do
        let left := input.length - (pos + n)
        Traced.emit { space := output.room, consumed := n, written := out, left := some left }
        compressChunk.loop z input passes s' (pos + n)
          ((output.write out).enlargeIfFull 0 outputBufSize)) := by
  have hmoves : ¬ (out.length = 0 ∧ pos + n = pos) := by
    rw [List.length_eq_zero_iff, Nat.add_eq_left]
    exact hprogress
  rw [compressChunk.loop, if_pos hpos, hrun]
  simp only [hmoves, if_false]

/-- One that does not is an error. -/
theorem compressChunk.loop_stuck (hpos : pos < input.length)
    (hrun : z.run s (input.drop pos) output.room = .ok (s', 0, [])) :
    (compressChunk.loop z input (passes + 1) s pos output).val =
      some (.error "zstd encoder made no progress") := by
  rw [compressChunk.loop, if_pos hpos, hrun]
  simp

theorem compressChunk.loop_done (hpos : input.length ≤ pos) :
    compressChunk.loop z input passes s pos output = pure (some (.ok (s, output.content))) := by
  cases passes with
  | zero => rw [compressChunk.loop, if_neg (Nat.not_lt.mpr hpos)]
  | succ passes => rw [compressChunk.loop, if_neg (Nat.not_lt.mpr hpos)]

theorem finishEncoder.loop_failed (hfinish : z.finish s output.room = .error e) :
    (finishEncoder.loop z (passes + 1) s output).val = some (.error e) := by
  rw [finishEncoder.loop, hfinish]
  rfl

/-- What the loop of `finish_encoder` does after a pass. -/
theorem finishEncoder.loop_pass (hfinish : z.finish s output.room = .ok (s', left, out)) :
    finishEncoder.loop z (passes + 1) s output =
      (do
        Traced.emit { space := output.room, consumed := 0, written := out, left := some left }
        if left = 0 then
          pure (some (.ok (s', output.content ++ out)))
        else if out = [] ∧ 0 < output.room - out.length then
          pure (some (.error "zstd encoder made no progress during finish"))
        else
          finishEncoder.loop z passes s' ((output.write out).enlargeIfFull 0 outputBufSize)) := by
  have hspace : (output.write out).filled < (output.write out).cells.length ↔
      0 < output.room - out.length := by
    rw [← OutBuffer.room_write output]
    exact Nat.sub_pos_iff_lt.symm
  rw [finishEncoder.loop, hfinish]
  simp only [OutBuffer.content_write, List.length_eq_zero_iff, hspace]

/-! ## The loops -/

/-- What is expected of `compress_chunk` after a number of passes: they had space, and unless input
    is left, and all the passes were made, the result is what they wrote. -/
structure ChunkKept (z : ZstdEncoder) (s : z.State) (input : Bytes) (passes : Nat)
    (before : Bytes) (x : Traced Pass (Outcome z)) : Prop where
  space : ∀ p ∈ x.events, 0 < p.space
  result : ∃ s' rest, Runs z s input x.events s' rest ∧
    ((rest = [] ∧ x.val = some (.ok (s', before ++ writtenBy x.events))) ∨
      (rest ≠ [] ∧ x.val = none ∧ x.events.length = passes))

/-- The same of `finish_encoder`, which goes on until a pass leaves nothing. -/
structure FinishKept (z : ZstdEncoder) (s : z.State) (passes : Nat) (before : Bytes)
    (x : Traced Pass (Outcome z)) : Prop where
  space : ∀ p ∈ x.events, 0 < p.space
  result : ∃ s', Finishes z s x.events s' ∧
    (((∃ p ∈ x.events.getLast?, p.left = some 0) ∧
        x.val = some (.ok (s', before ++ writtenBy x.events))) ∨
      ((∀ p ∈ x.events, p.left ≠ some 0) ∧ x.val = none ∧ x.events.length = passes))

theorem ChunkKept.pass {x : Traced Pass (Outcome z)} (hspace : 0 < p.space)
    (hrun : z.run s input p.space = .ok (s', p.consumed, p.written))
    (hleft : p.left = some (input.drop p.consumed).length)
    (h : ChunkKept z s' (input.drop p.consumed) passes (before ++ p.written) x) :
    ChunkKept z s input (passes + 1) before (Traced.emit p >>= fun _ => x) where
  space := by
    intro q hq
    rw [Traced.events_bind, Traced.events_emit, List.singleton_append, List.mem_cons] at hq
    cases hq with
    | inl hfirst => exact hfirst ▸ hspace
    | inr hlater => exact h.space q hlater
  result := by
    obtain ⟨s'', rest, hruns, hresult⟩ := h.result
    rw [Traced.events_bind, Traced.events_emit, List.singleton_append, Traced.val_bind]
    refine ⟨s'', rest, .pass hrun hleft hruns, ?_⟩
    cases hresult with
    | inl hdone => exact .inl ⟨hdone.1, by rw [hdone.2, writtenBy_cons, List.append_assoc]⟩
    | inr hmore => exact .inr ⟨hmore.1, hmore.2.1, by rw [List.length_cons, hmore.2.2]⟩

theorem FinishKept.pass {x : Traced Pass (Outcome z)} (hspace : 0 < p.space)
    (hfinish : z.finish s p.space = .ok (s', left, p.written)) (hp : p.left = some left)
    (hleft : left ≠ 0) (h : FinishKept z s' passes (before ++ p.written) x) :
    FinishKept z s (passes + 1) before (Traced.emit p >>= fun _ => x) where
  space := by
    intro q hq
    rw [Traced.events_bind, Traced.events_emit, List.singleton_append, List.mem_cons] at hq
    cases hq with
    | inl hfirst => exact hfirst ▸ hspace
    | inr hlater => exact h.space q hlater
  result := by
    obtain ⟨s'', hpasses, hresult⟩ := h.result
    rw [Traced.events_bind, Traced.events_emit, List.singleton_append, Traced.val_bind]
    refine ⟨s'', .pass hfinish hp hpasses, ?_⟩
    cases hresult with
    | inl hdone =>
      obtain ⟨⟨q, hlast, hq⟩, hval⟩ := hdone
      refine .inl ⟨⟨q, ?_, hq⟩, by rw [hval, writtenBy_cons, List.append_assoc]⟩
      rw [List.getLast?_cons, Option.mem_def.mp hlast]
      rfl
    | inr hmore =>
      refine .inr ⟨?_, hmore.2.1, by rw [List.length_cons, hmore.2.2]⟩
      intro q hq
      rw [List.mem_cons] at hq
      cases hq with
      | inl hfirst =>
        rw [hfirst, hp, Ne, Option.some.injEq]
        exact hleft
      | inr hlater => exact hmore.1 q hlater

/-- The loop of `compress_chunk` returns the filled cells and what its passes wrote. -/
theorem compressChunk.loop_kept (hz : z.Progresses) (hroom : 0 < output.room)
    (hpos : pos ≤ input.length) :
    ChunkKept z s (input.drop pos) passes output.content
      (compressChunk.loop z input passes s pos output) := by
  induction passes generalizing s pos output with
  | zero =>
    by_cases hmore : pos < input.length
    · have hrest : input.drop pos ≠ [] := by
        rw [Ne, List.drop_eq_nil_iff]
        omega
      rw [compressChunk.loop, if_pos hmore]
      exact ⟨by simp, s, _, .none s _, .inr ⟨hrest, rfl, rfl⟩⟩
    · rw [compressChunk.loop_done (Nat.le_of_not_lt hmore)]
      have hrest : input.drop pos = [] := List.drop_eq_nil_iff.mpr (Nat.le_of_not_lt hmore)
      exact ⟨by simp, s, _, .none s _, .inl ⟨hrest, by simp⟩⟩
  | succ passes ih =>
    by_cases hmore : pos < input.length
    · have hrest : input.drop pos ≠ [] := by
        rw [Ne, List.drop_eq_nil_iff]
        omega
      obtain ⟨s', n, out, hrun, hprogress⟩ := hz.run_ok s _ output.room hrest hroom
      have hn : n ≤ input.length - pos := by
        rw [← List.length_drop]
        exact z.run_consumed hrun
      rw [compressChunk.loop_pass hmore hrun hprogress]
      -- the buffer is enlarged at once when the pass has filled it
      have hkept := @ih s' (pos + n) ((output.write out).enlargeIfFull 0 outputBufSize)
        (OutBuffer.room_enlargeIfFull_pos _ _ (by decide)) (by omega)
      rw [OutBuffer.content_enlargeIfFull, OutBuffer.content_write, ← List.drop_drop] at hkept
      refine ChunkKept.pass hroom hrun ?_ hkept
      rw [List.drop_drop, List.length_drop]
    · rw [compressChunk.loop_done (Nat.le_of_not_lt hmore)]
      have hrest : input.drop pos = [] := List.drop_eq_nil_iff.mpr (Nat.le_of_not_lt hmore)
      exact ⟨by simp, s, _, .none s _, .inl ⟨hrest, by simp⟩⟩

/-- And so does that of `finish_encoder`. -/
theorem finishEncoder.loop_kept (hz : z.Progresses) (hroom : 0 < output.room) :
    FinishKept z s passes output.content (finishEncoder.loop z passes s output) := by
  induction passes generalizing s output with
  | zero =>
    rw [finishEncoder.loop]
    exact ⟨by simp, s, .none s, .inr ⟨by simp, rfl, rfl⟩⟩
  | succ passes ih =>
    obtain ⟨s', left, out, hfinish, hprogress⟩ := hz.finish_ok s output.room hroom
    rw [finishEncoder.loop_pass hfinish]
    by_cases hleft : left = 0
    · simp only [hleft, if_true]
      refine ⟨by simpa using hroom, s', ?_, .inl ⟨by simp, by simp⟩⟩
      exact .pass (hleft ▸ hfinish) rfl (.none s')
    · have hout : out ≠ [] := hprogress.resolve_left hleft
      have hmoves : ¬ (out = [] ∧ 0 < output.room - out.length) := fun h => hout h.1
      simp only [hleft, hmoves, if_false]
      have hkept := @ih s' ((output.write out).enlargeIfFull 0 outputBufSize)
        (OutBuffer.room_enlargeIfFull_pos _ _ (by decide))
      rw [OutBuffer.content_enlargeIfFull, OutBuffer.content_write] at hkept
      exact FinishKept.pass hroom hfinish rfl hleft hkept

theorem compressChunk_kept (hz : z.Progresses) (passes : Nat) (s : z.State) (input : Bytes) :
    ChunkKept z s input passes [] (compressChunk z passes s input) := by
  have hroom : 0 < (OutBuffer.zeroed (0 : UInt8) (max outputBufSize input.length)).room := by
    rw [OutBuffer.room_zeroed, lt_max_iff]
    exact .inl (by decide)
  exact @compressChunk.loop_kept z s input 0 passes _ hz hroom (Nat.zero_le _)

theorem finishEncoder_kept (hz : z.Progresses) (passes : Nat) (s : z.State) :
    FinishKept z s passes [] (finishEncoder z passes s) := by
  have hroom : 0 < (OutBuffer.zeroed (0 : UInt8) outputBufSize).room := by
    rw [OutBuffer.room_zeroed]
    decide
  exact finishEncoder.loop_kept hz hroom

/-! ## Bounded encoders -/

theorem room_written (output : OutBuffer UInt8) (out : Bytes) :
    ((output.write out).enlargeIfFull 0 outputBufSize).room =
      enlarged (output.room - out.length) := by
  rw [OutBuffer.room_enlargeIfFull, OutBuffer.room_write]
  rfl

theorem content_written (output : OutBuffer UInt8) (out : Bytes) :
    ((output.write out).enlargeIfFull 0 outputBufSize).content = output.content ++ out := by
  rw [OutBuffer.content_enlargeIfFull, OutBuffer.content_write]

/-- With enough passes, the loop over buffers is the loop over lists. -/
theorem compressChunk.loop_bounded (bound : z.Bound) (s : z.State) (rest : Bytes) (room : Nat)
    (before : Bytes) :
    ∀ (pos : Nat) (output : OutBuffer UInt8), input.drop pos = rest →
      output.room = room → output.content = before →
      ∃ n, ∀ k, (compressChunk.loop z input (k + n) s pos output).val =
        some (Reduction.compressChunk.loop (z.bounded bound) s rest room before) := by
  have hlt : ∀ {pos : Nat}, input.drop pos ≠ [] → pos < input.length := fun hne =>
    Nat.lt_of_not_le fun hle => hne (List.drop_eq_nil_iff.mpr hle)
  induction s, rest, room, before using Reduction.compressChunk.loop.induct (z.bounded bound) with
  | case1 s room before =>
    rintro pos output hinput rfl rfl
    refine ⟨0, fun k => ?_⟩
    rw [compressChunk.loop_done (List.drop_eq_nil_iff.mp hinput), Reduction.compressChunk.loop,
      if_pos rfl]
    rfl
  | case2 s rest room before hne e herror =>
    rintro pos output rfl rfl rfl
    refine ⟨1, fun k => ?_⟩
    rw [compressChunk.loop_failed (hlt hne) herror, Reduction.compressChunk.loop_error hne herror]
  | case3 s rest room before hne s' consumed written hok hstuck =>
    rintro pos output rfl rfl rfl
    obtain ⟨rfl, rfl⟩ := hstuck
    refine ⟨1, fun k => ?_⟩
    rw [compressChunk.loop_stuck (hlt hne) hok, Reduction.compressChunk.loop_ok hne hok,
      if_pos ⟨rfl, rfl⟩]
  | case4 s rest room before hne s' consumed written hok hstuck ih =>
    rintro pos output rfl rfl rfl
    obtain ⟨n, hn⟩ := ih (pos + consumed) ((output.write written).enlargeIfFull 0 outputBufSize)
      (by rw [List.drop_drop]) (room_written _ _) (content_written _ _)
    refine ⟨n + 1, fun k => ?_⟩
    rw [← Nat.add_assoc, compressChunk.loop_pass (hlt hne) hok hstuck, Traced.val_bind, hn,
      Reduction.compressChunk.loop_ok hne hok, if_neg hstuck]

/-- And that of `finish_encoder` too. -/
theorem finishEncoder.loop_bounded (bound : z.Bound) (s : z.State) (room : Nat) (before : Bytes) :
    ∀ (output : OutBuffer UInt8), output.room = room → output.content = before →
      ∃ n, ∀ k, (finishEncoder.loop z (k + n) s output).val =
        some (Reduction.finishEncoder.loop (z.bounded bound) s room before) := by
  induction s, room, before using Reduction.finishEncoder.loop.induct (z.bounded bound) with
  | case1 s room before e herror =>
    rintro output rfl rfl
    refine ⟨1, fun k => ?_⟩
    rw [finishEncoder.loop_failed herror, Reduction.finishEncoder.loop_error herror]
  | case2 s room before s' written hok =>
    rintro output rfl rfl
    refine ⟨1, fun k => ?_⟩
    rw [finishEncoder.loop_pass hok, Reduction.finishEncoder.loop_ok hok, if_pos rfl, if_pos rfl]
    rfl
  | case3 s room before s' remaining written hok hleft hstuck =>
    rintro output rfl rfl
    refine ⟨1, fun k => ?_⟩
    rw [finishEncoder.loop_pass hok, Reduction.finishEncoder.loop_ok hok, if_neg hleft,
      if_pos hstuck, if_neg hleft, if_pos hstuck]
    rfl
  | case4 s room before s' remaining written hok hleft hstuck ih =>
    rintro output rfl rfl
    obtain ⟨n, hn⟩ := ih ((output.write written).enlargeIfFull 0 outputBufSize)
      (room_written _ _) (content_written _ _)
    refine ⟨n + 1, fun k => ?_⟩
    rw [← Nat.add_assoc, finishEncoder.loop_pass hok, if_neg hleft, if_neg hstuck, Traced.val_bind,
      hn, Reduction.finishEncoder.loop_ok hok, if_neg hleft, if_neg hstuck]

theorem compressChunk_bounded (bound : z.Bound) (s : z.State) (input : Bytes) :
    ∃ n, ∀ k, (compressChunk z (k + n) s input).val =
      some (Reduction.compressChunk (z.bounded bound) s input) :=
  compressChunk.loop_bounded bound s input _ [] 0 _ rfl (OutBuffer.room_zeroed _ _)
    (OutBuffer.content_zeroed _ _)

theorem finishEncoder_bounded (bound : z.Bound) (s : z.State) :
    ∃ n, ∀ k, (finishEncoder z (k + n) s).val =
      some (Reduction.finishEncoder (z.bounded bound) s) :=
  finishEncoder.loop_bounded bound s _ [] _ (OutBuffer.room_zeroed _ _)
    (OutBuffer.content_zeroed _ _)

/-! ## What the compressor returns -/

/-- For every encoder that gets on whenever it has space, and after any number of passes, the loops
    of the compressor have given each pass space and return what all the passes wrote, in order:
    the one as soon as its input is consumed, the other as soon as a pass leaves nothing, and both
    at some time if what the encoder writes is bounded. -/
theorem buffers_keep_passes (z : ZstdEncoder) (hz : z.Progresses) (s : z.State) (input : Bytes) :
    (∀ passes, ChunkKept z s input passes [] (compressChunk z passes s input)) ∧
    (∀ passes, FinishKept z s passes [] (finishEncoder z passes s)) ∧
    ∀ bound : z.Bound,
      (∃ n, ∀ k, (compressChunk z (k + n) s input).val =
        some (Reduction.compressChunk (z.bounded bound) s input)) ∧
      ∃ n, ∀ k, (finishEncoder z (k + n) s).val =
        some (Reduction.finishEncoder (z.bounded bound) s) :=
  ⟨fun passes => compressChunk_kept hz passes s input,
    fun passes => finishEncoder_kept hz passes s,
    fun bound => ⟨compressChunk_bounded bound s input, finishEncoder_bounded bound s⟩⟩

/-- An encoder that holds its input until the stream ends. -/
abbrev Sample.holder : ZstdEncoder :=
  { State := Bytes
    run := fun s input _ => .ok (s ++ input, input.length, [])
    finish := fun s space => .ok (s.drop space, (s.drop space).length, s.take space)
    run_consumed := by
      intro s input space s' n out h
      cases h
      exact Nat.le_refl _
    run_fits := by
      intro s input space s' n out h
      cases h
      exact Nat.zero_le _
    finish_fits := by
      intro s space s' left out h
      cases h
      rw [List.length_take]
      exact Nat.min_le_left _ _ }

theorem Sample.holder_progresses : Sample.holder.Progresses where
  run_ok := by
    intro s input space hinput _
    exact ⟨_, _, _, rfl, fun h => hinput (List.length_eq_zero_iff.mp h.2)⟩
  finish_ok := by
    intro s space hspace
    refine ⟨_, _, _, rfl, ?_⟩
    by_cases hs : s = []
    · exact .inl (by rw [hs, List.drop_nil, List.length_nil])
    · refine .inr fun h => ?_
      cases List.take_eq_nil_iff.mp h with
      | inl hzero => omega
      | inr hnil => exact hs hnil

/-- It writes what it has been fed. -/
def Sample.holderBound : Sample.holder.Bound :=
  { held := fun s => List.length s
    expansion := 1
    run_held := by
      intro s input space s' n out h
      cases h
      rw [List.length_append, List.length_nil]
      omega
    finish_held := by
      intro s space s' left out h
      cases h
      rw [List.length_drop, List.length_take]
      omega }

theorem holder_keeps_passes :
    Sample.holder.Progresses ∧
    (∀ passes, ChunkKept Sample.holder [] [1, 2, 3] passes []
      (compressChunk Sample.holder passes [] [1, 2, 3])) ∧
    (∀ passes, FinishKept Sample.holder [1, 2, 3] passes []
      (finishEncoder Sample.holder passes [1, 2, 3])) ∧
    ∃ n, ∀ k, (finishEncoder Sample.holder (k + n) [1, 2, 3]).val =
      some (Reduction.finishEncoder (Sample.holder.bounded Sample.holderBound) [1, 2, 3]) := by
  have hchunk := buffers_keep_passes Sample.holder Sample.holder_progresses [] [1, 2, 3]
  have hfinish := buffers_keep_passes Sample.holder Sample.holder_progresses [1, 2, 3] []
  exact ⟨Sample.holder_progresses, hchunk.1, hfinish.2.1, (hfinish.2.2 Sample.holderBound).2⟩

end Buffered

end Reduction
