import Reduction.ForStd.Run
import Reduction.Native.GuardedBody
import Reduction.Spec.CompressFaithful

/-!
# The idle timer of a streamed response

The timer is re-armed by the frames that come out of the pipeline, while a stall
is about the frames that go into it.  The two are the same for a plain body.  A
compressed body may take a frame and hand out nothing, because the encoder has
buffered it or because a task compresses it; the poll is pending then, and the
timer goes on although the backend sends.

- `pollFrame_took`: which frames of the backend a poll takes
- `idle_abort_after_stall`: if no poll takes frames and is pending then a body is
  only aborted after a stall
- `swallowsNothing_of_plain`: no poll of a body that is not compressed does
-/

namespace Reduction

open Http Run

variable {z : ZstdEncoder} {ε : Type}

/-! ## What a poll takes -/

/-- A poll has taken the frames, all at the given time. -/
def Incoming.TookAt (body body' : Incoming ε) (now : Instant)
    (frames : List (Instant × Instant)) : Prop :=
  body'.taken = body.taken ++ frames ∧ ∀ f ∈ frames, f.2 = now

namespace Incoming.TookAt

variable {body body' body'' : Incoming ε} {now : Instant} {l l' : List (Instant × Instant)}

theorem refl (body : Incoming ε) (now : Instant) : body.TookAt body now [] :=
  ⟨(List.append_nil _).symm, by simp⟩

theorem one (body : Incoming ε) (arrival now : Instant) (frames : List (Instant × Except ε Frame)) :
    body.TookAt (body.took arrival now frames) now [(arrival, now)] :=
  ⟨rfl, by simp⟩

theorem trans (h : body.TookAt body' now l) (h' : body'.TookAt body'' now l') :
    body.TookAt body'' now (l ++ l') := by
  refine ⟨by rw [h'.1, h.1, List.append_assoc], ?_⟩
  intro f hf
  rcases List.mem_append.mp hf with hf | hf
  · exact h.2 f hf
  · exact h'.2 f hf

end Incoming.TookAt

namespace Incoming

theorem pollFrame_took (body : Incoming ε) (now : Instant) :
    ∃ l, body.TookAt (body.pollFrame now).2 now l := by
  have hcase := body.pollFrame_case now
  generalize body.pollFrame now = polled at hcase ⊢
  cases hcase with
  | took => exact ⟨_, .one _ _ _ _⟩
  | ended => exact ⟨[], .refl _ _⟩
  | pending => exact ⟨[], .refl _ _⟩

theorem pollFrame_pending {body : Incoming ε} {now : Instant}
    (h : (body.pollFrame now).1 = .pending) :
    (body.pollFrame now).2 = body ∧ body.Waits now := by
  have hcase := body.pollFrame_case now
  generalize body.pollFrame now = polled at hcase h ⊢
  cases hcase with
  | took => cases h
  | ended => cases h
  | pending hwaits => exact ⟨rfl, hwaits⟩

end Incoming

namespace CompressedBody

variable {body body' : CompressedBody z ε} {now : Instant}

/-- What a round takes; a task is left running by a round that took its chunk, or found it running. -/
theorem step_took (body : CompressedBody z ε) (now : Instant) :
    ∃ l, body.inner.TookAt (body.step now).2.inner now l ∧
      ((body.step now).2.phase = .offloading →
        (body.step now).1 = .continue ∧ l ≠ [] ∨
        (body.step now).1 = .ready .pending ∧ body.phase = .offloading) := by
  have hcase := body.step_case now
  generalize body.step now = stepped at hcase ⊢
  cases hcase with
  | done hphase => exact ⟨[], .refl _ _, by simp [hphase]⟩
  | lost hphase inner hinner =>
    rcases hinner with rfl | ⟨arrival, frames, rfl⟩
    · exact ⟨[], .refl _ _, by simp [failed]⟩
    · exact ⟨_, .one _ arrival now frames, by simp [failed]⟩
  | taskPending hphase => exact ⟨[], .refl _ _, fun _ => .inr ⟨rfl, hphase⟩⟩
  | taskDone => exact ⟨[], .refl _ _, by simp⟩
  | taskFailed => exact ⟨[], .refl _ _, by simp [failed]⟩
  | innerPending hphase => exact ⟨[], .refl _ _, by simp [hphase]⟩
  | innerEnd => exact ⟨[], .refl _ _, by simp⟩
  | innerError hphase | trailers hphase | compressed hphase =>
    exact ⟨_, .one _ _ _ _, by simp [hphase]⟩
  | offloaded => exact ⟨_, .one _ _ _ _, fun _ => .inl ⟨rfl, by simp⟩⟩
  | chunkFailed => exact ⟨_, .one _ _ _ _, by simp [failed]⟩
  | flushed => exact ⟨[], .refl _ _, by simp⟩
  | flushFailed => exact ⟨[], .refl _ _, by simp [failed]⟩

/-- A round that is pending waits for its task or for the inner body. -/
theorem step_pending (h : body.step now = (.ready .pending, body')) :
    body'.phase = .offloading ∨ body'.phase = .streaming ∧ body'.inner.Waits now := by
  have hcase := body.step_case now
  rw [h] at hcase
  generalize hout : (Step.ready Poll.pending, body') = out at hcase
  cases hcase with
  | taskPending hphase =>
    cases hout
    exact .inl hphase
  | innerPending hphase hwaits =>
    cases hout
    exact .inr ⟨hphase, hwaits⟩
  | @taskDone _ _ out _ _ _ _ | @compressed _ _ out _ _ _ _ _ _ _ _ _ =>
    rcases emitted_cases (ε := ε) out with ⟨-, hemitted⟩ | ⟨-, hemitted⟩
    · rw [hemitted] at hout
      cases hout
    · rw [hemitted] at hout
      cases hout
  | _ => cases hout

/-- What a poll takes; a task is left running by a poll that is pending. -/
theorem pollFrame_took (body : CompressedBody z ε) (now : Instant) :
    ∃ l, body.inner.TookAt (body.pollFrame now).2.inner now l ∧
      ((body.pollFrame now).2.phase = .offloading →
        (body.pollFrame now).1 = .pending ∧ (l ≠ [] ∨ body.phase = .offloading)) := by
  induction body using pollFrame_induction with
  | ready body poll body' hstep =>
    obtain ⟨l, htook, hoffload⟩ := body.step_took now
    rw [hstep] at htook hoffload
    refine ⟨l, htook, ?_⟩
    intro hphase
    rcases hoffload hphase with ⟨hcontinue, -⟩ | ⟨hpending, hbefore⟩
    · cases hcontinue
    · exact ⟨Step.ready.inj hpending, .inr hbefore⟩
  | next body body' hstep ih =>
    obtain ⟨l, htook, hoffload⟩ := body.step_took now
    rw [hstep] at htook hoffload
    obtain ⟨l', htook', hoffload'⟩ := ih
    refine ⟨l ++ l', htook.trans htook', ?_⟩
    intro hphase
    obtain ⟨hpending, hlast⟩ := hoffload' hphase
    refine ⟨hpending, .inl ?_⟩
    rcases hlast with hne | hbetween
    · exact List.append_ne_nil_of_right_ne_nil _ hne
    · rcases hoffload hbetween with ⟨-, hne⟩ | ⟨hready, -⟩
      · exact List.append_ne_nil_of_left_ne_nil hne _
      · cases hready

theorem pollFrame_pending (body : CompressedBody z ε) (now : Instant) :
    (body.pollFrame now).1 = .pending →
      (body.pollFrame now).2.phase = .offloading ∨
      (body.pollFrame now).2.phase = .streaming ∧ (body.pollFrame now).2.inner.Waits now := by
  induction body using pollFrame_induction with
  | ready body poll body' hstep =>
    rintro rfl
    exact step_pending hstep
  | next body body' hstep ih => exact ih

end CompressedBody

namespace StreamBody

/-- A task compresses a chunk of the body. -/
def Offloading : StreamBody z ε → Prop
  | .plain _ => False
  | .compressed body => body.phase = .offloading

theorem framePoll_eq_pending {poll : Poll (Option (Except ε Frame))} :
    framePoll poll = .pending ↔ poll = .pending := by
  rcases poll with (_ | ⟨_ | _⟩) | _ <;> simp [framePoll]

theorem pollFrame_took (body : StreamBody z ε) (now : Instant) :
    ∃ l, body.incoming.TookAt (body.pollFrame now).2.incoming now l ∧
      ((body.pollFrame now).2.Offloading →
        (body.pollFrame now).1 = .pending ∧ (l ≠ [] ∨ body.Offloading)) := by
  cases body with
  | plain body =>
    obtain ⟨l, htook⟩ := body.pollFrame_took now
    exact ⟨l, htook, False.elim⟩
  | compressed body => exact body.pollFrame_took now

theorem pollFrame_pending {body : StreamBody z ε} {now : Instant}
    (h : (body.pollFrame now).1 = .pending) :
    (body.pollFrame now).2.Offloading ∨ (body.pollFrame now).2.incoming.Waits now := by
  cases body with
  | plain body =>
    obtain ⟨hsame, hwaits⟩ := Incoming.pollFrame_pending (framePoll_eq_pending.mp h)
    right
    show (body.pollFrame now).2.Waits now
    rw [hsame]
    exact hwaits
  | compressed body => exact (body.pollFrame_pending now h).imp_right And.right

end StreamBody

/-! ## Aborts -/

namespace GuardedBody

/-- What a poll of a guarded body does. -/
inductive PollCase (body : GuardedBody z ε) (now : Instant) :
    Poll (Option (Except (GuardedBodyError ε) Frame)) × GuardedBody z ε → Prop
  | done (hdone : body.done = true) : PollCase body now (.ready none, body)
  | frame {frame : Frame} (hdone : body.done = false)
      (hpoll : (body.inner.pollFrame now).1 = .ready (some (.ok frame))) :
      PollCase body now (.ready (some (.ok frame)),
        { body with inner := (body.inner.pollFrame now).2, idle := now + body.idleTimeout })
  | failed {e : CompressError ε} (hdone : body.done = false)
      (hpoll : (body.inner.pollFrame now).1 = .ready (some (.error e))) :
      PollCase body now (.ready (some (.error (.inner e))),
        { body with inner := (body.inner.pollFrame now).2, done := true })
  | ended (hdone : body.done = false) (hpoll : (body.inner.pollFrame now).1 = .ready none) :
      PollCase body now
        (.ready none, { body with inner := (body.inner.pollFrame now).2, done := true })
  | expired (hdone : body.done = false) (hpoll : (body.inner.pollFrame now).1 = .pending)
      (hidle : body.idle ≤ now) :
      PollCase body now (.ready (some (.error (.idleTimeout body.idleTimeout))),
        { body with inner := (body.inner.pollFrame now).2, done := true })
  | pending (hdone : body.done = false) (hpoll : (body.inner.pollFrame now).1 = .pending)
      (hidle : now < body.idle) :
      PollCase body now (.pending, { body with inner := (body.inner.pollFrame now).2 })

theorem pollFrame_case (body : GuardedBody z ε) (now : Instant) :
    PollCase body now (body.pollFrame now) := by
  unfold pollFrame
  by_cases hended : body.done = true
  · rw [if_pos hended]
    exact .done hended
  · have hdone : body.done = false := Bool.eq_false_iff.mpr hended
    rw [if_neg hended]
    rcases hpoll : body.inner.pollFrame now with ⟨(_ | ⟨e | frame⟩) | _, inner⟩
    · have hcase := PollCase.ended hdone (congrArg Prod.fst hpoll)
      rw [hpoll] at hcase
      exact hcase
    · have hcase := PollCase.failed hdone (congrArg Prod.fst hpoll)
      rw [hpoll] at hcase
      exact hcase
    · have hcase := PollCase.frame hdone (congrArg Prod.fst hpoll)
      rw [hpoll] at hcase
      exact hcase
    · by_cases hidle : body.idle ≤ now
      · have hcase := PollCase.expired hdone (congrArg Prod.fst hpoll) hidle
        rw [hpoll] at hcase
        simp only [hidle, if_true]
        exact hcase
      · have hcase := PollCase.pending hdone (congrArg Prod.fst hpoll) (Nat.lt_of_not_le hidle)
        rw [hpoll] at hcase
        simp only [hidle, if_false]
        exact hcase

end GuardedBody

/-- From `a` to `b` the body had nothing for its reader: what was taken was taken by `a` or arrived
    after `b`, and what is next has not arrived at `b`.  (The body as it is at `b` or later.) -/
def Incoming.Stalled (body : Incoming ε) (a b : Instant) : Prop :=
  (∀ f ∈ body.taken, f.2 ≤ a ∨ b < f.1) ∧ body.Waits b

/-- A guarded body and the time of its last poll, at first that of its construction. -/
structure PolledBody (z : ZstdEncoder) (ε : Type) where
  polledAt : Instant
  body : GuardedBody z ε

namespace PolledBody

/-- The response body of the pipeline, when it is constructed. -/
def start (inner : Incoming ε) (offloads : List Offload) (encoder : Option z.State)
    (idleTimeout : Duration) (now : Instant) : PolledBody z ε :=
  { polledAt := now, body := guardStreamingBody inner offloads encoder idleTimeout now }

def poll (p : PolledBody z ε) (now : Instant) : PolledBody z ε :=
  { polledAt := now, body := (p.body.pollFrame now).2 }

def InOrder (p : PolledBody z ε) (now : Instant) : Prop := p.polledAt ≤ now

/-- The poll does not take frames of the backend and hand out nothing. -/
def SwallowsNothing (p : PolledBody z ε) (now : Instant) : Prop :=
  (p.body.inner.pollFrame now).1 = .pending →
    (p.body.inner.pollFrame now).2.incoming.taken = p.body.inner.incoming.taken

/-- A body that has not ended: its timer was armed no earlier than anything was taken, and no task
    is running. -/
structure Armed (t₀ : Instant) (timeout : Duration) (p : PolledBody z ε) : Prop where
  started : t₀ + timeout ≤ p.body.idle
  polled : p.body.idle ≤ p.polledAt + timeout
  taken : ∀ f ∈ p.body.inner.incoming.taken, f.2 + timeout ≤ p.body.idle
  resting : ¬ p.body.inner.Offloading

/-- The invariant of polls that swallow nothing. -/
def Inv (t₀ : Instant) (timeout : Duration) (p : PolledBody z ε) : Prop :=
  p.body.idleTimeout = timeout ∧ (p.body.done = false → Armed t₀ timeout p)

theorem inv_start (inner : Incoming ε) (offloads : List Offload) (encoder : Option z.State)
    (timeout : Duration) (t₀ : Instant) (hfresh : inner.taken = []) :
    Inv t₀ timeout (start inner offloads encoder timeout t₀) := by
  have hincoming : (start inner offloads encoder timeout t₀).body.inner.incoming = inner := by
    cases encoder <;> rfl
  have hidle : (start inner offloads encoder timeout t₀).body.idle = t₀ + timeout := by
    cases encoder <;> rfl
  refine ⟨by cases encoder <;> rfl, fun _ => ?_⟩
  constructor
  · rw [hidle]
  · rw [hidle]
    exact Nat.le_refl _
  · simp [hincoming, hfresh]
  · cases encoder with
    | none => exact id
    | some s => simp [start, guardStreamingBody, GuardedBody.new, StreamBody.Offloading,
        CompressedBody.withEncoder]

variable {t₀ : Instant} {timeout : Duration}

/-- A poll that swallows nothing leaves no task running. -/
theorem Armed.resting_pollFrame {p : PolledBody z ε} (h : Armed t₀ timeout p) {now : Instant}
    (hswallows : p.SwallowsNothing now) : ¬ (p.body.inner.pollFrame now).2.Offloading := by
  intro hoffloading
  obtain ⟨l, htook, hleft⟩ := p.body.inner.pollFrame_took now
  obtain ⟨hpending, hl | hbefore⟩ := hleft hoffloading
  · have hsame := hswallows hpending
    rw [htook.1, List.append_right_eq_self] at hsame
    exact hl hsame
  · exact h.resting hbefore

/-- A poll that swallows nothing keeps the invariant. -/
theorem inv_poll (p : PolledBody z ε) (now : Instant) (hinv : Inv t₀ timeout p)
    (hok : p.InOrder now ∧ p.SwallowsNothing now) : Inv t₀ timeout (p.poll now) := by
  obtain ⟨rfl, harmed⟩ := hinv
  obtain ⟨horder, hswallows⟩ := hok
  have hcase := p.body.pollFrame_case now
  unfold poll
  generalize p.body.pollFrame now = polled at hcase ⊢
  cases hcase with
  | done hdone => exact ⟨rfl, fun h => absurd (hdone.symm.trans h) (by simp)⟩
  | failed hpoll => exact ⟨rfl, fun h => absurd h (by simp)⟩
  | ended hpoll => exact ⟨rfl, fun h => absurd h (by simp)⟩
  | expired hpoll => exact ⟨rfl, fun h => absurd h (by simp)⟩
  | frame hdone hpoll =>
    have h := harmed hdone
    refine ⟨rfl, fun _ => ⟨?_, Nat.le_refl _, ?_, h.resting_pollFrame hswallows⟩⟩
    · exact h.started.trans (h.polled.trans (Nat.add_le_add_right horder _))
    · -- what was taken before is older, and what is taken now is as old as the timer
      intro f hf
      obtain ⟨l, htook, -⟩ := p.body.inner.pollFrame_took now
      rw [htook.1] at hf
      rcases List.mem_append.mp hf with hf | hf
      · exact (h.taken f hf).trans (h.polled.trans (Nat.add_le_add_right horder _))
      · rw [htook.2 f hf]
  | pending hdone hpoll hidle =>
    have h := harmed hdone
    refine ⟨rfl, fun _ => ⟨h.started, ?_, ?_, h.resting_pollFrame hswallows⟩⟩
    · exact h.polled.trans (Nat.add_le_add_right horder _)
    · intro f hf
      rw [hswallows hpoll] at hf
      exact h.taken f hf

/-- An abort in a state that keeps the invariant is after a stall. -/
theorem Inv.stalled {p : PolledBody z ε} (hinv : Inv t₀ timeout p) {now : Instant}
    (hswallows : p.SwallowsNothing now)
    (habort : (p.body.pollFrame now).1 = .ready (some (.error (.idleTimeout timeout)))) :
    ∃ a b, t₀ ≤ a ∧ a + timeout ≤ b ∧ b ≤ now ∧
      (p.poll now).body.inner.incoming.Stalled a b := by
  obtain ⟨rfl, harmed⟩ := hinv
  have hcase := p.body.pollFrame_case now
  unfold poll
  generalize p.body.pollFrame now = polled at hcase habort ⊢
  cases hcase with
  | expired hdone hpoll hidle =>
    have h := harmed hdone
    have hwaits := (StreamBody.pollFrame_pending hpoll).resolve_left
      (h.resting_pollFrame hswallows)
    -- nothing was taken after the timer was armed
    refine ⟨p.body.idle - p.body.idleTimeout, now, ?_, ?_, Nat.le_refl _, ?_, hwaits⟩
    · exact Nat.le_sub_of_add_le h.started
    · rw [Nat.sub_add_cancel (Nat.le_of_add_left_le h.started)]
      exact hidle
    · intro f hf
      rw [hswallows hpoll] at hf
      exact .inl (Nat.le_sub_of_add_le (h.taken f hf))
  | _ => cases habort

end PolledBody

/-- If no poll takes frames of the backend and hands out nothing then the body is aborted only after
    the backend has stalled for the whole timeout. -/
theorem idle_abort_after_stall (inner : Incoming ε) (hfresh : inner.taken = [])
    (offloads : List Offload) (encoder : Option z.State) (timeout : Duration) (t₀ : Instant)
    (times : List Instant) (now : Instant)
    (horder : RunOk PolledBody.poll PolledBody.InOrder
      (.start inner offloads encoder timeout t₀) (times ++ [now]))
    (hswallows : RunOk PolledBody.poll PolledBody.SwallowsNothing
      (.start inner offloads encoder timeout t₀) (times ++ [now]))
    (habort : ((run PolledBody.poll (.start inner offloads encoder timeout t₀) times).body.pollFrame
      now).1 = .ready (some (.error (.idleTimeout timeout)))) :
    ∃ a b, t₀ ≤ a ∧ a + timeout ≤ b ∧ b ≤ now ∧
      (run PolledBody.poll (.start inner offloads encoder timeout t₀)
        (times ++ [now])).body.inner.incoming.Stalled a b := by
  obtain ⟨hbefore, hlast⟩ := runOk_concat.mp (horder.and hswallows)
  have hinv := @run_invariant _ _ _ _ (PolledBody.Inv t₀ timeout) PolledBody.inv_poll _ times
    (PolledBody.inv_start inner offloads encoder timeout t₀ hfresh) hbefore
  rw [run_concat]
  exact hinv.stalled hlast.2 habort

/-- A body that is not compressed hands out all that it takes. -/
theorem swallowsNothing_of_plain (inner : Incoming ε) (offloads : List Offload)
    (timeout : Duration) (t₀ : Instant) (times : List Instant) :
    RunOk PolledBody.poll PolledBody.SwallowsNothing
      (.start (z := z) inner offloads none timeout t₀) times := by
  refine @RunOk.of_invariant _ _ _ (fun _ _ => True) _
    (fun p => ∃ body : Incoming ε, p.body.inner = .plain body) ?_ ?_ _ times ⟨inner, rfl⟩
    (RunOk.of_forall (fun _ _ => trivial) _)
  · rintro p now ⟨body, hplain⟩ -
    have hinner : (p.body.inner.pollFrame now).2 = .plain (body.pollFrame now).2 := by
      rw [hplain]
      rfl
    have hcase := p.body.pollFrame_case now
    unfold PolledBody.poll
    generalize p.body.pollFrame now = polled at hcase ⊢
    cases hcase with
    | done => exact ⟨body, hplain⟩
    | _ => exact ⟨_, hinner⟩
  · rintro p now ⟨body, hplain⟩ - hpending
    rw [hplain] at hpending ⊢
    have hsame := (Incoming.pollFrame_pending (StreamBody.framePoll_eq_pending.mp hpending)).1
    show (body.pollFrame now).2.taken = body.taken
    rw [hsame]

/-! ## A backend that keeps sending -/

/-- A frame that arrived within the timeout and was taken less than the timeout ago. -/
theorem Incoming.not_stalled {body : Incoming ε} {f : Instant × Instant} (hf : f ∈ body.taken)
    {timeout : Duration} {now a b : Instant} (harrived : f.1 ≤ timeout)
    (htaken : now < f.2 + timeout) (hab : a + timeout ≤ b) (hb : b ≤ now) :
    ¬ body.Stalled a b := by
  rintro ⟨hfree, -⟩
  rcases hfree f hf with h | h
  · exact absurd htaken (Nat.not_lt_of_le ((Nat.add_le_add_right h timeout).trans (hab.trans hb)))
  · exact absurd (h.trans_le (harrived.trans ((Nat.le_add_left _ _).trans hab))) (Nat.lt_irrefl b)

namespace Sample

/-- A body that sends one byte each time the gap has passed. -/
def dripping (gap : Duration) (n : Nat) : Incoming String :=
  { frames := (List.range n).map fun k => (gap * (k + 1), .ok (.data [0]))
    endAt := gap * (n + 1)
    taken := [] }

/-- Its pipeline, with an idle timeout of one second. -/
def drippingPipeline (encoder : Option bufferingEncoder.State) (gap : Duration) :
    PolledBody bufferingEncoder String :=
  .start (dripping gap 9) [] encoder (Duration.fromSecs 1) 0

/-- The encoder before it has got anything. -/
def emptyEncoder : bufferingEncoder.State := []

end Sample

open Sample in
/-- The encoder buffers what a backend sends every 0.6 seconds; and a consumer that comes back after
    two seconds finds five frames, all of which are buffered. -/
theorem sending_backend_aborted :
    (((run PolledBody.poll (drippingPipeline (some emptyEncoder) (Duration.fromMillis 600))
        [0, Duration.fromMillis 600]).body.pollFrame (Duration.fromMillis 1200)).1 =
      .ready (some (.error (.idleTimeout (Duration.fromSecs 1)))) ∧
    ∀ a b, a + Duration.fromSecs 1 ≤ b → b ≤ Duration.fromMillis 1200 →
      ¬ (run PolledBody.poll (drippingPipeline (some emptyEncoder) (Duration.fromMillis 600))
        [0, Duration.fromMillis 600, Duration.fromMillis 1200]).body.inner.incoming.Stalled a b) ∧
    (((run PolledBody.poll (drippingPipeline (some emptyEncoder) (Duration.fromMillis 400))
        [0]).body.pollFrame (Duration.fromSecs 2)).1 =
      .ready (some (.error (.idleTimeout (Duration.fromSecs 1)))) ∧
    ∀ a b, a + Duration.fromSecs 1 ≤ b → b ≤ Duration.fromSecs 2 →
      ¬ (run PolledBody.poll (drippingPipeline (some emptyEncoder) (Duration.fromMillis 400))
        [0, Duration.fromSecs 2]).body.inner.incoming.Stalled a b) := by
  refine ⟨⟨by decide +kernel, ?_⟩, by decide +kernel, ?_⟩
  · intro a b hab hb
    have hf : (Duration.fromMillis 600, Duration.fromMillis 600) ∈ (run PolledBody.poll
        (drippingPipeline (some emptyEncoder) (Duration.fromMillis 600))
        [0, Duration.fromMillis 600, Duration.fromMillis 1200]).body.inner.incoming.taken := by
      decide +kernel
    exact Incoming.not_stalled hf (by decide) (by decide) hab hb
  · intro a b hab hb
    have hf : (Duration.fromMillis 400, Duration.fromSecs 2) ∈ (run PolledBody.poll
        (drippingPipeline (some emptyEncoder) (Duration.fromMillis 400))
        [0, Duration.fromSecs 2]).body.inner.incoming.taken := by
      decide +kernel
    exact Incoming.not_stalled hf (by decide) (by decide) hab hb

open Sample in
theorem plain_body_aborted_after_stall :
    ((run PolledBody.poll (drippingPipeline none (Duration.fromSecs 3)) [0]).body.pollFrame
      (Duration.fromSecs 2)).1 = .ready (some (.error (.idleTimeout (Duration.fromSecs 1)))) ∧
    ∃ a b, 0 ≤ a ∧ a + Duration.fromSecs 1 ≤ b ∧ b ≤ Duration.fromSecs 2 ∧
      (run PolledBody.poll (drippingPipeline none (Duration.fromSecs 3))
        [0, Duration.fromSecs 2]).body.inner.incoming.Stalled a b :=
  ⟨by decide +kernel,
    idle_abort_after_stall (z := bufferingEncoder) (dripping (Duration.fromSecs 3) 9) rfl [] none
      (Duration.fromSecs 1) 0 [0] (Duration.fromSecs 2)
      ⟨Nat.le_refl _, Nat.zero_le _, trivial⟩ (swallowsNothing_of_plain _ _ _ _ _)
      (by decide +kernel)⟩

end Reduction
