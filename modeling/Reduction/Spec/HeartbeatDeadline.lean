import Reduction.ForStd.Run
import Reduction.Native.HeartbeatLoop

/-!
# The heartbeat deadline

The control loop looks at its deadline only if there is no frame to be read.  So
a loop that runs late acts on whatever has arrived by then, and frames that keep
arriving keep the session open; they need not be heartbeats.

- `select_late`: what an iteration does after the deadline
- `heartbeat_deadline_iff`: the runs in which the deadline is kept
-/

namespace Reduction

open Run

namespace TimedLoop

variable {codec : Bitcode TunnelFrame} {timeout : Duration} {l : TimedLoop} {now : Instant}

/-! ## One iteration -/

/-- A frame can be read. -/
def FrameReady (codec : Bitcode TunnelFrame) (l : TimedLoop) (now : Instant) : Prop :=
  ∃ frame, (l.stream.pollReadFrame codec now).1 = .ready (.ok frame)

/-- A branch that is polled before the read is ready. -/
def Preempted (l : TimedLoop) (now : Instant) : List SelectBranch → Prop
  | .outbound :: rest => (l.outboundAt.any fun t => t ≤ now) = true ∨ Preempted l now rest
  | .shutdown :: rest => (l.shutdownAt.any fun t => t ≤ now) = true ∨ Preempted l now rest
  | _ => False

/-- What an iteration does after the deadline. -/
inductive LateCase (codec : Bitcode TunnelFrame) (l : TimedLoop) (now : Instant)
    (order : List SelectBranch) : Option ControlBranch → Prop
  | outbound (h : l.Preempted now order) : LateCase codec l now order (some .outbound)
  | shutdown (h : l.Preempted now order) : LateCase codec l now order (some .shutdown)
  | frame {frame : TunnelFrame} (h : ¬ l.Preempted now order)
      (hready : (l.stream.pollReadFrame codec now).1 = .ready (.ok frame)) :
      LateCase codec l now order (some (.read (.frame frame)))
  | failed (h : ¬ l.FrameReady codec now) : LateCase codec l now order (some (.read .readError))
  | expired (h : ¬ l.FrameReady codec now) :
      LateCase codec l now order (some (.read .heartbeatTimeout))

theorem LateCase.congr {order order' : List SelectBranch} {branch : Option ControlBranch}
    (h : LateCase codec l now order branch) (horder : l.Preempted now order ↔ l.Preempted now order') :
    LateCase codec l now order' branch := by
  cases h with
  | outbound h => exact .outbound (horder.mp h)
  | shutdown h => exact .shutdown (horder.mp h)
  | frame h hready => exact .frame (h ∘ horder.mpr) hready
  | failed h => exact .failed h
  | expired h => exact .expired h

theorem select_late (hlate : l.lastHeartbeat + timeout < now) {order : List SelectBranch}
    (hread : .read ∈ order) : LateCase codec l now order (l.select codec timeout now order).1 := by
  induction order with
  | nil => cases hread
  | cons branch rest ih =>
    cases branch with
    | read =>
      unfold select
      rcases hpoll : l.stream.pollReadFrame codec now with ⟨(e | frame) | _, stream⟩
      · exact .failed (by simp [FrameReady, hpoll])
      · exact .frame id (by rw [hpoll])
      · simp only [Nat.le_of_lt hlate, if_true]
        exact .expired (by simp [FrameReady, hpoll])
    | outbound =>
      by_cases hready : (l.outboundAt.any fun t => t ≤ now) = true
      · simp only [select, hready, if_true]
        exact .outbound (.inl hready)
      · simp only [select, hready]
        exact (ih (by simpa using hread)).congr (or_iff_right hready).symm
    | shutdown =>
      by_cases hready : (l.shutdownAt.any fun t => t ≤ now) = true
      · simp only [select, hready, if_true]
        exact .shutdown (.inl hready)
      · simp only [select, hready]
        exact (ih (by simpa using hread)).congr (or_iff_right hready).symm

theorem read_mem_order (start : Fin 3) : .read ∈ SelectBranch.order start := by
  simp [SelectBranch.order]

/-! ## What a run has acted on -/

/-- The frame that an iteration acts on, with its time. -/
def actedOn (codec : Bitcode TunnelFrame) (timeout : Duration) (l : TimedLoop) (p : LoopPoll) :
    List (Instant × TunnelFrame) :=
  match l.taken codec timeout p with
  | some (.read (.frame frame)) => [(p.now, frame)]
  | _ => []

/-- The time of the latest heartbeat that was acted on, or that of the loop's start. -/
def heardAt : Instant → List (Instant × TunnelFrame) → Instant
  | t, [] => t
  | _, (now, .heartbeat _) :: acted => heardAt now acted
  | t, _ :: acted => heardAt t acted

/-- All that a run acts on. -/
def acted (codec : Bitcode TunnelFrame) (timeout : Duration) (l : TimedLoop)
    (polls : List LoopPoll) : List (Instant × TunnelFrame) :=
  emitted (poll codec timeout) (actedOn codec timeout) l polls

/-- Only a heartbeat that is acted on moves the deadline. -/
theorem poll_lastHeartbeat (l : TimedLoop) (p : LoopPoll) (acted : List (Instant × TunnelFrame)) :
    heardAt l.lastHeartbeat (actedOn codec timeout l p ++ acted) =
      heardAt (l.poll codec timeout p).lastHeartbeat acted := by
  unfold actedOn taken poll
  by_cases hended : l.ended = true
  · simp [hended]
  · simp only [hended]
    rcases l.select codec timeout p.now (SelectBranch.order p.start) with
      ⟨_ | branch, stream⟩
    · rfl
    · cases branch with
      | outbound => rfl
      | shutdown => rfl
      | read result =>
        cases result with
        | readError => rfl
        | heartbeatTimeout => rfl
        | frame frame => cases frame <;> rfl

theorem run_lastHeartbeat (l : TimedLoop) (polls : List LoopPoll) :
    (run (poll codec timeout) l polls).lastHeartbeat =
      heardAt l.lastHeartbeat (acted codec timeout l polls) := by
  induction polls generalizing l with
  | nil => rfl
  | cons p polls ih =>
    rw [run_cons, ih]
    exact (poll_lastHeartbeat l p _).symm

/-! ## Runs that keep the deadline -/

/-- After the deadline, no frame can be read unless another branch comes first. -/
def Quiet (codec : Bitcode TunnelFrame) (timeout : Duration) (l : TimedLoop) (p : LoopPoll) :
    Prop :=
  l.ended = false → l.lastHeartbeat + timeout < p.now → l.FrameReady codec p.now →
    l.Preempted p.now (SelectBranch.order p.start)

/-- An iteration after the deadline acts on no frame and ends the session. -/
def InTime (codec : Bitcode TunnelFrame) (timeout : Duration) (l : TimedLoop) (p : LoopPoll) :
    Prop :=
  (∀ frame, l.taken codec timeout p = some (.read (.frame frame)) →
    p.now ≤ l.lastHeartbeat + timeout) ∧
  (l.lastHeartbeat + timeout < p.now → (l.poll codec timeout p).ended = true)

theorem poll_ended_of_taken {p : LoopPoll} {branch : ControlBranch}
    (htaken : l.taken codec timeout p = some branch)
    (hgoes : ControlSystem.goesOn p.acked branch = false) :
    (l.poll codec timeout p).ended = true := by
  unfold taken at htaken
  unfold poll
  by_cases hended : l.ended = true
  · rw [if_pos hended] at htaken
    cases htaken
  · rw [if_neg hended] at htaken ⊢
    rcases hselect : l.select codec timeout p.now (SelectBranch.order p.start) with ⟨b, stream⟩
    rw [hselect] at htaken
    obtain rfl : b = some branch := htaken
    cases branch with
    | outbound => simp [hgoes]
    | shutdown => simp [hgoes]
    | read result =>
      cases result with
      | readError => simp [hgoes]
      | heartbeatTimeout => simp [hgoes]
      | frame frame => cases frame <;> simp [hgoes]

theorem inTime_iff (l : TimedLoop) (p : LoopPoll) :
    InTime codec timeout l p ↔ Quiet codec timeout l p := by
  by_cases hended : l.ended = true
  · -- nothing happens after the end
    have htaken : l.taken codec timeout p = none := if_pos hended
    have hpoll : l.poll codec timeout p = l := if_pos hended
    refine iff_of_true ⟨by simp [htaken], fun _ => by rw [hpoll, hended]⟩ ?_
    intro hopen
    rw [hended] at hopen
    cases hopen
  · by_cases hlate : l.lastHeartbeat + timeout < p.now
    · have hcase : LateCase codec l p.now (SelectBranch.order p.start)
          (l.select codec timeout p.now (SelectBranch.order p.start)).1 :=
        select_late hlate (read_mem_order p.start)
      have htaken : l.taken codec timeout p =
          (l.select codec timeout p.now (SelectBranch.order p.start)).1 := if_neg hended
      rw [← htaken] at hcase
      generalize hbranch : l.taken codec timeout p = branch at hcase
      cases hcase with
      | frame hfirst hready =>
        refine iff_of_false ?_ ?_
        · rintro ⟨hacts, -⟩
          exact Nat.not_le_of_lt hlate (hacts _ hbranch)
        · intro hquiet
          exact hfirst (hquiet (Bool.eq_false_iff.mpr hended) hlate ⟨_, hready⟩)
      | outbound hfirst | shutdown hfirst =>
        refine iff_of_true ⟨by simp [hbranch], fun _ => poll_ended_of_taken hbranch rfl⟩ ?_
        exact fun _ _ _ => hfirst
      | failed hnone | expired hnone =>
        refine iff_of_true ⟨by simp [hbranch], fun _ => poll_ended_of_taken hbranch rfl⟩ ?_
        exact fun _ _ hready => absurd hready hnone
    · refine iff_of_true ⟨fun _ _ => Nat.le_of_not_lt hlate, fun h => absurd h hlate⟩ ?_
      exact fun _ h => absurd h hlate

end TimedLoop

/-- No frame is acted on, and no iteration leaves the session open, later than the timeout after the
    latest heartbeat acted on, if and only if no iteration after that time finds a frame to be read
    (or it takes another branch first). -/
theorem heartbeat_deadline_iff (codec : Bitcode TunnelFrame) (timeout : Duration)
    (stream : ControlStream) (outboundAt shutdownAt : Option Instant) (t₀ : Instant)
    (polls : List LoopPoll) :
    (∀ done p todo, polls = done ++ p :: todo →
      (∀ frame, (run (TimedLoop.poll codec timeout) (.start stream outboundAt shutdownAt t₀)
          done).taken codec timeout p = some (.read (.frame frame)) →
        p.now ≤ TimedLoop.heardAt t₀ (TimedLoop.acted codec timeout
          (.start stream outboundAt shutdownAt t₀) done) + timeout) ∧
      (TimedLoop.heardAt t₀ (TimedLoop.acted codec timeout
          (.start stream outboundAt shutdownAt t₀) done) + timeout < p.now →
        (run (TimedLoop.poll codec timeout) (.start stream outboundAt shutdownAt t₀)
          (done ++ [p])).ended = true)) ↔
    RunOk (TimedLoop.poll codec timeout) (TimedLoop.Quiet codec timeout)
      (.start stream outboundAt shutdownAt t₀) polls := by
  rw [runOk_iff_forall]
  refine forall_congr' fun done => forall_congr' fun p => forall_congr' fun todo =>
    imp_congr_right fun _ => ?_
  have hheard := @TimedLoop.run_lastHeartbeat codec timeout
    (.start stream outboundAt shutdownAt t₀) done
  rw [← TimedLoop.inTime_iff, TimedLoop.InTime, hheard, run_concat]
  rfl

/-! ## A loop that runs late -/

namespace Sample

/-- A codec of one byte: 1 is a heartbeat, and anything else is a stray ack. -/
def byteCodec : Bitcode TunnelFrame where
  encode
    | .heartbeat _ => [1]
    | _ => [0]
  decode
    | [1] => .ok (.heartbeat 0)
    | _ => .ok .heartbeatAck

/-- Two stray acks, which arrive after 29 and after 31 seconds. -/
def strayAcks : ControlStream :=
  { bytes := ([0, 0, 0, 1, 0].map fun b => (Duration.fromSecs 29, b)) ++
      [0, 0, 0, 1, 0].map fun b => (Duration.fromSecs 31, b)
    closedAt := none }

/-- The loop runs after 31 and after 32 seconds. -/
def latePolls : List LoopPoll :=
  [{ now := Duration.fromSecs 31, start := 0, acked := true },
    { now := Duration.fromSecs 32, start := 0, acked := true }]

end Sample

open Sample in
/-- With a timeout of 30 seconds and no heartbeat at all, the loop acts on a frame after 31 seconds
    and on another after 32, and the session is still open. -/
theorem late_loop_acts :
    TimedLoop.acted byteCodec (Duration.fromSecs 30) (.start strayAcks none none 0) latePolls =
      [(Duration.fromSecs 31, .heartbeatAck), (Duration.fromSecs 32, .heartbeatAck)] ∧
    TimedLoop.heardAt 0 [(Duration.fromSecs 31, .heartbeatAck),
      (Duration.fromSecs 32, .heartbeatAck)] + Duration.fromSecs 30 < Duration.fromSecs 31 ∧
    (run (TimedLoop.poll byteCodec (Duration.fromSecs 30)) (.start strayAcks none none 0)
      latePolls).ended = false := by
  decide +kernel

end Reduction
