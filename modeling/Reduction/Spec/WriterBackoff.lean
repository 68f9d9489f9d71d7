import Reduction.Spec.CircuitRefinement
import Reduction.Spec.IngressConservation
import Reduction.Spec.WriterBatches

/-!
# What a writer counts its failures with

A writer counts consecutive failures for its backoff, and reports them to its
circuit breaker.  Both are reset by a dial that succeeds, not only by a batch
that is written: a backend that accepts streams and then fails every write looks
like one that fails for the first time, each time.

`FailureRun` counts the batches that failed since the last one that was written.
`writer_counts_failures_iff` says when backoff and breaker work with that count.
-/

namespace Reduction

open Run

variable {W : Type} {codec : Bitcode Envelope}

/-! ## The breaker behind a count of failures -/

/-- A breaker that has been told of `failed` failures since the last success. -/
structure BackendBreaker.Told (limits : BreakerLimits) (b : BackendBreaker) (failed : Nat) :
    Prop where
  closed : b.state = .closed → b.consecutiveFailures.toNat = failed ∧
    failed < limits.failureThreshold.val.toNat
  opened : b.state ≠ .closed → limits.failureThreshold.val.toNat ≤ failed

namespace BackendBreaker

variable {limits : BreakerLimits} {b : BackendBreaker} {failed : Nat}

theorem Told.new (limits : BreakerLimits) : BackendBreaker.new.Told limits 0 :=
  ⟨fun _ => ⟨rfl, limits.failureThreshold.toNat_pos⟩, fun h => absurd rfl h⟩

theorem Told.check (h : b.Told limits failed) (now : Instant) :
    (b.check limits now).1.Told limits failed := by
  rcases b.check_cases limits now with ⟨_, heq⟩ | ⟨_, heq⟩ | ⟨hs, heq⟩ | ⟨_, _, heq⟩ | ⟨hs, _, heq⟩
  · rw [heq]
    exact h
  · rw [heq]
    exact h
  · -- the breaker turns half-open, and was not closed before
    have hle := h.opened (by rw [hs]; decide)
    rw [heq]
    exact ⟨(fun hc => by cases hc), fun _ => hle⟩
  · rw [heq]
    exact h
  · rw [heq]
    exact ⟨h.closed, h.opened⟩

theorem Told.dropGuard (h : b.Told limits failed) : b.dropGuard.Told limits failed := by
  unfold BackendBreaker.dropGuard
  split
  · exact ⟨h.closed, h.opened⟩
  · exact h

/-- A success that reaches a breaker which lets calls pass starts the count anew. -/
theorem Told.recordSuccess (hne : b.state ≠ .open) :
    b.recordSuccess.Told limits 0 ∧ b.recordSuccess.state ≠ .open := by
  have hpos := limits.failureThreshold.toNat_pos
  unfold BackendBreaker.recordSuccess
  split
  · exact ⟨⟨fun _ => ⟨rfl, hpos⟩, fun h => absurd rfl h⟩, fun h => by cases h⟩
  · rename_i hs
    exact ⟨⟨fun _ => ⟨rfl, hpos⟩, fun h => absurd hs h⟩, hne⟩
  · rename_i hs
    exact absurd hs hne

/-- One more failure, and the breaker is open once the count has reached the threshold. -/
theorem Told.recordFailure (h : b.Told limits failed) (hne : b.state ≠ .open) (now : Instant) :
    (b.recordFailure limits now).Told limits (failed + 1) ∧
      (limits.failureThreshold.val.toNat ≤ failed + 1 →
        (b.recordFailure limits now).state = .open) := by
  cases hs : b.state with
  | closed =>
    obtain ⟨hcount, hlt⟩ := h.closed hs
    have hadd := Refines.toNat_succ (hcount.symm ▸ hlt)
    rw [hcount] at hadd
    simp only [BackendBreaker.recordFailure, hs]
    split
    · rename_i hreached
      rw [ge_iff_le, UInt32.le_iff_toNat_le, hadd] at hreached
      exact ⟨⟨(fun hc => by cases hc), fun _ => hreached⟩, fun _ => rfl⟩
    · rename_i hbelow
      rw [ge_iff_le, UInt32.le_iff_toNat_le, hadd] at hbelow
      exact ⟨⟨fun _ => ⟨hadd, by omega⟩, fun hc => absurd rfl hc⟩, fun hle => absurd hle hbelow⟩
  | «open» => exact absurd hs hne
  | halfOpen =>
    have hle := h.opened (by rw [hs]; decide)
    simp only [BackendBreaker.recordFailure, hs]
    refine ⟨⟨(fun hc => by cases hc), fun _ => ?_⟩, fun _ => trivial⟩
    omega

/-- A check that does not answer `open` leaves the breaker in another state. -/
theorem check_state_ne_open {now : Instant} (h : (b.check limits now).2.1 ≠ .open) :
    (b.check limits now).1.state ≠ .open := by
  rcases b.check_cases limits now with ⟨hs, heq⟩ | ⟨_, heq⟩ | ⟨_, heq⟩ | ⟨_, _, heq⟩ | ⟨hs, _, heq⟩
  · rw [heq, hs]
    decide
  · rw [heq] at h
    exact absurd rfl h
  · rw [heq]
    exact fun h => by cases h
  · rw [heq] at h
    exact absurd rfl h
  · rw [heq, hs]
    decide

end BackendBreaker

namespace CircuitBreakers

variable (cb : CircuitBreakers) (id : BackendId)

/-- The breaker of `id` has been told of `failed` failures since the last success. -/
def Told (failed : Nat) : Prop := (cb.slot id).breaker.Told cb.limits failed

variable {cb id} {failed : Nat}

theorem Told.check (h : cb.Told id failed) (now : Instant) :
    (cb.check id.bytes now).1.Told id failed := by
  unfold Told at h ⊢
  rw [slot_breaker_check, check_limits]
  exact BackendBreaker.Told.check h now

theorem Told.dropGuard (h : cb.Told id failed) (g : HalfOpenGuard) :
    (cb.dropGuard g).Told id failed := by
  unfold Told at h ⊢
  rw [dropGuard_limits]
  cases cb.slot_breaker_dropGuard g id with
  | inl heq => exact heq ▸ h
  | inr heq => exact heq ▸ BackendBreaker.Told.dropGuard h

theorem state_dropGuard (g : HalfOpenGuard) :
    (cb.dropGuard g).state id.bytes = cb.state id.bytes := by
  have hkey := ArrayString.from?_bytes id
  rw [state_eq_slot _ hkey, state_eq_slot _ hkey]
  cases cb.slot_breaker_dropGuard g id with
  | inl heq => rw [heq]
  | inr heq => rw [heq, BackendBreaker.dropGuard_state]

theorem Told.recordSuccess (hne : cb.state id.bytes ≠ .open) :
    (cb.recordSuccess id.bytes).Told id 0 ∧ (cb.recordSuccess id.bytes).state id.bytes ≠ .open := by
  have hkey := ArrayString.from?_bytes id
  rw [state_eq_slot _ hkey] at hne
  rw [Told, slot_breaker_recordSuccess, recordSuccess_limits, state_eq_slot _ hkey,
    slot_breaker_recordSuccess]
  exact BackendBreaker.Told.recordSuccess hne

theorem Told.recordFailure (h : cb.Told id failed) (hne : cb.state id.bytes ≠ .open)
    (now : Instant) :
    (cb.recordFailure id.bytes now).Told id (failed + 1) ∧
      (cb.limits.failureThreshold.val.toNat ≤ failed + 1 →
        (cb.recordFailure id.bytes now).state id.bytes = .open) := by
  have hkey := ArrayString.from?_bytes id
  rw [state_eq_slot _ hkey] at hne
  rw [Told, slot_breaker_recordFailure, recordFailure_limits, state_eq_slot _ hkey,
    slot_breaker_recordFailure]
  exact BackendBreaker.Told.recordFailure h hne now

theorem state_check_ne_open {now : Instant} (h : (cb.check id.bytes now).2.1 ≠ .open) :
    (cb.check id.bytes now).1.state id.bytes ≠ .open := by
  have hkey := ArrayString.from?_bytes id
  rw [cb.check_answer hkey] at h
  rw [state_eq_slot _ hkey, slot_breaker_check]
  exact BackendBreaker.check_state_ne_open h

end CircuitBreakers

/-! ## Runs of a writer -/

/-- A writer with its breaker, and the number of batches that failed since the last one was
    written. -/
structure FailureRun (W : Type) where
  writer : BackendWriter W
  shared : IngressShared
  failed : Nat

/-- A batch with the answers that the environment gives to it. -/
structure HandledBatch (W : Type) where
  datagrams : List Datagram
  env : BatchAnswers W

namespace FailureRun

/-- A writer that has just been spawned, with breakers of its own. -/
def start (backend : BackendConfig) (ingressId : ArrayString 64) (worker : UInt16)
    (retry : RetryConfig) (config : CircuitBreakerConfig) : FailureRun W :=
  { writer :=
      { backend, ingressId, worker, retry
        state := { stream := none, attempt := 0, cooldownUntil := none }
        stage := .idle }
    shared := { circuit := .new config, counters := .new }
    failed := 0 }

variable [AsyncWrite W]

def outcome (codec : Bitcode Envelope) (s : FailureRun W) (a : HandledBatch W) : BatchOutcome :=
  s.writer.outcome codec s.shared a.datagrams a.env

def step (codec : Bitcode Envelope) (s : FailureRun W) (a : HandledBatch W) : FailureRun W :=
  let r := s.writer.writeBatch codec s.shared a.datagrams a.env
  { writer := r.1
    shared := r.2
    failed :=
      match s.outcome codec a with
      | .relayed => 0
      | .dialFailed | .writeFailed => s.failed + 1
      | .empty | .shed => s.failed }

/-- After a failure, at the given time and with the given random number: the backoff was computed for
    the number of failed batches, and the circuit is open once they are as many as its threshold. -/
structure Accounted (s : FailureRun W) (now : Instant) (draw : Nat) : Prop where
  attempt : s.writer.state.attempt.toNat = min s.failed (2 ^ 32 - 1)
  cooldown : s.writer.state.cooldownUntil =
    some (now + backoffDelay (s.failed - 1) s.writer.retry draw)
  opened : s.shared.circuit.limits.failureThreshold.val.toNat ≤ s.failed →
    s.shared.circuit.state s.writer.backend.id.bytes = .open

/-- If the batch fails, the failure is accounted for. -/
def AccountsFor (codec : Bitcode Envelope) (s : FailureRun W) (a : HandledBatch W) : Prop :=
  match s.outcome codec a with
  | .dialFailed => (s.step codec a).Accounted a.env.dialedAt a.env.dialDraw
  | .writeFailed => (s.step codec a).Accounted a.env.writtenAt a.env.writeDraw
  | _ => True

/-- A batch that fails right after another one fails in its dial. -/
def FailsInDial (codec : Bitcode Envelope) (s : FailureRun W) (a : HandledBatch W) : Prop :=
  s.outcome codec a = .writeFailed → s.failed = 0

instance (codec : Bitcode Envelope) (s : FailureRun W) (a : HandledBatch W) :
    Decidable (s.FailsInDial codec a) :=
  inferInstanceAs (Decidable (_ → _))

/-- What is true between batches, as long as failures in a row are failed dials. -/
structure Inv (s : FailureRun W) : Prop where
  stream : s.writer.state.stream.isSome → s.failed = 0
  attempt : s.writer.state.attempt.toNat = min s.failed (2 ^ 32 - 1)
  told : s.shared.circuit.Told s.writer.backend.id s.failed

end FailureRun

theorem BackendWriter.toNat_nextAttempt {attempt : UInt32} {failed : Nat}
    (h : attempt.toNat = min failed (2 ^ 32 - 1)) :
    (nextAttempt attempt).toNat = min (failed + 1) (2 ^ 32 - 1) := by
  unfold nextAttempt
  split
  · rename_i hmax
    rw [hmax] at h ⊢
    have hlast : (0xffffffff : UInt32).toNat = 2 ^ 32 - 1 := rfl
    omega
  · rename_i hne
    have hlt := attempt.toNat_lt
    have hne' : attempt.toNat ≠ 2 ^ 32 - 1 := fun heq => hne (UInt32.toNat_inj.mp heq)
    rw [UInt32.toNat_add, UInt32.toNat_one, Nat.mod_eq_of_lt (by omega)]
    omega

/-- From the 64th attempt on the delay does not grow. -/
theorem backoffDelay_of_le {attempt attempt' : Nat} (h : 64 ≤ attempt) (h' : 64 ≤ attempt')
    (config : RetryConfig) (draw : Nat) :
    backoffDelay attempt config draw = backoffDelay attempt' config draw := by
  have hlarge : ¬ attempt < 64 := by omega
  have hlarge' : ¬ attempt' < 64 := by omega
  simp only [backoffDelay, if_neg hlarge, if_neg hlarge']

/-- The attempt counter saturates long after the delay has stopped growing. -/
theorem backoffDelay_saturated {failed : Nat} (config : RetryConfig) (draw : Nat) :
    backoffDelay (min failed (2 ^ 32 - 1) - 1) config draw = backoffDelay (failed - 1) config draw := by
  by_cases hle : failed ≤ 2 ^ 32 - 1
  · rw [Nat.min_eq_left hle]
  · rw [Nat.min_eq_right (by omega)]
    exact backoffDelay_of_le (by decide) (by omega) config draw

/-! ## One batch -/

namespace IngressShared

variable {sh : IngressShared} {id : BackendId} (guard : Option HalfOpenGuard)

theorem told_dropGuard {failed : Nat} (h : sh.circuit.Told id failed) :
    (sh.dropGuard guard).circuit.Told id failed := by
  cases guard with
  | none => exact h
  | some g => exact h.dropGuard g

@[simp] theorem state_dropGuard :
    (sh.dropGuard guard).circuit.state id.bytes = sh.circuit.state id.bytes := by
  cases guard with
  | none => rfl
  | some g => exact CircuitBreakers.state_dropGuard g

@[simp] theorem limits_dropGuard : (sh.dropGuard guard).circuit.limits = sh.circuit.limits := by
  cases guard with
  | none => rfl
  | some g => exact sh.circuit.dropGuard_limits g

end IngressShared

namespace FailureRun

variable [AsyncWrite W] {s : FailureRun W}

omit [AsyncWrite W] in
/-- The failure after `failed` others, of which the breaker has heard. -/
theorem accounted_onFailure (w : BackendWriter W) (sh : IngressShared) {count : Nat} {now : Instant}
    {draw failed : Nat} {guard : Option HalfOpenGuard}
    (hattempt : w.state.attempt.toNat = min failed (2 ^ 32 - 1))
    (htold : sh.circuit.Told w.backend.id failed)
    (hne : sh.circuit.state w.backend.id.bytes ≠ .open) :
    let r := w.onFailure sh count now draw
    let s' : FailureRun W := { writer := r.1, shared := r.2.dropGuard guard, failed := failed + 1 }
    s'.Accounted now draw ∧ s'.Inv := by
  intro r s'
  have hnext := BackendWriter.toNat_nextAttempt hattempt
  obtain ⟨htold', hopened⟩ := htold.recordFailure hne now
  refine ⟨⟨hnext, ?_, ?_⟩, (fun h => by cases h), hnext, IngressShared.told_dropGuard guard htold'⟩
  · show some (now + backoffDelay ((BackendWriter.nextAttempt w.state.attempt).toNat - 1) _ _) = _
    rw [hnext, backoffDelay_saturated]
    rfl
  · intro hle
    rw [IngressShared.limits_dropGuard] at hle
    rw [IngressShared.state_dropGuard]
    exact hopened (sh.circuit.recordFailure_limits now ▸ hle)

omit [AsyncWrite W] in
/-- A batch that was written ends the count. -/
theorem inv_relayed {w : BackendWriter W} {circuit : CircuitBreakers} {counters : IngressCounters}
    {guard : Option HalfOpenGuard} (hattempt : w.state.attempt = 0)
    (hne : circuit.state w.backend.id.bytes ≠ .open) :
    Inv
      { writer := w
        shared := IngressShared.dropGuard
          { circuit := circuit.recordSuccess w.backend.id.bytes, counters } guard
        failed := 0 } := by
  have htold := (CircuitBreakers.Told.recordSuccess hne).1
  refine ⟨fun _ => rfl, ?_, IngressShared.told_dropGuard guard htold⟩
  show w.state.attempt.toNat = min 0 _
  rw [hattempt]
  rfl

/-- What happens to one batch: a failure is accounted for, unless it is the second in a row and
    came after a dial that succeeded. -/
theorem accountsFor_iff (h : s.Inv) (a : HandledBatch W) :
    (s.AccountsFor codec a ↔ s.FailsInDial codec a) ∧
      (s.FailsInDial codec a → (s.step codec a).Inv) := by
  have hchecked := h.told.check a.env.checkedAt
  have hrun := s.writer.batchRun codec s.shared a.datagrams a.env
  unfold AccountsFor FailsInDial step outcome
  generalize s.writer.outcome codec s.shared a.datagrams a.env = o at hrun ⊢
  generalize s.writer.writeBatch codec s.shared a.datagrams a.env = r at hrun ⊢
  cases hrun with
  | empty datagrams_eq =>
    exact ⟨iff_of_true trivial (fun h => by cases h), fun _ => ⟨h.stream, h.attempt, h.told⟩⟩
  | shed =>
    refine ⟨iff_of_true trivial (fun h => by cases h), fun _ => ⟨h.stream, h.attempt, ?_⟩⟩
    exact IngressShared.told_dropGuard _ hchecked
  | dialFailed admitted no_stream dial_eq r_eq =>
    subst r_eq
    have hne := CircuitBreakers.state_check_ne_open admitted
    obtain ⟨haccounted, hinv⟩ := accounted_onFailure s.writer
      { s.shared with circuit := (s.writer.checked s.shared a.env).1 } h.attempt hchecked hne
    exact ⟨iff_of_true haccounted (fun h => by cases h), fun _ => hinv⟩
  | writeFailed admitted ready write_eq r_eq =>
    subst r_eq
    have hne := CircuitBreakers.state_check_ne_open admitted
    cases ready with
    | kept stream_eq =>
      -- the stream was kept, so the last batch had been written
      have hfailed := h.stream (by rw [stream_eq]; rfl)
      obtain ⟨haccounted, hinv⟩ := accounted_onFailure s.writer
        { s.shared with circuit := (s.writer.checked s.shared a.env).1 } h.attempt hchecked hne
      exact ⟨iff_of_true haccounted (fun _ => hfailed), fun _ => hinv⟩
    | dialed no_stream dial_eq =>
      -- breaker and backoff hear of this failure as of the first one
      obtain ⟨htold, hne'⟩ := CircuitBreakers.Told.recordSuccess hne
      rename_i stream e
      obtain ⟨haccounted, hinv⟩ := @accounted_onFailure W
        { s.writer with state := { stream := some stream, attempt := 0, cooldownUntil := none } }
        { s.shared with circuit := (s.writer.checked s.shared a.env).1.recordSuccess _ }
        a.datagrams.length a.env.writtenAt a.env.writeDraw 0 (s.writer.checked s.shared a.env).2.2
        rfl htold hne'
      by_cases hfailed : s.failed = 0
      · simp only [hfailed]
        exact ⟨iff_of_true haccounted (fun _ => trivial), fun _ => hinv⟩
      · refine ⟨iff_of_false ?_ (fun h => hfailed (h rfl)), fun h => absurd (h rfl) hfailed⟩
        intro haccounted'
        have hone : (1 : UInt32).toNat = min (s.failed + 1) (2 ^ 32 - 1) := haccounted'.attempt
        rw [UInt32.toNat_one] at hone
        omega
  | relayed admitted ready write_eq =>
    refine ⟨iff_of_true trivial (fun h => by cases h), fun _ => ?_⟩
    have hne := CircuitBreakers.state_check_ne_open admitted
    cases ready with
    | kept stream_eq => exact inv_relayed rfl hne
    | dialed no_stream dial_eq => exact inv_relayed rfl (CircuitBreakers.Told.recordSuccess hne).2

omit [AsyncWrite W] in
theorem inv_start (backend : BackendConfig) (ingressId : ArrayString 64) (worker : UInt16)
    (retry : RetryConfig) (config : CircuitBreakerConfig) :
    (start backend ingressId worker retry config : FailureRun W).Inv :=
  ⟨fun _ => rfl, rfl, .new _⟩

end FailureRun

/-- In a run of a writer with breakers of its own, every failure is accounted for as the `k`th in a
    row, if and only if every batch that fails right after another one fails in its dial. -/
theorem writer_counts_failures_iff [AsyncWrite W] (codec : Bitcode Envelope)
    (backend : BackendConfig) (ingressId : ArrayString 64) (worker : UInt16) (retry : RetryConfig)
    (config : CircuitBreakerConfig) (as : List (HandledBatch W)) :
    RunOk (FailureRun.step codec) (FailureRun.AccountsFor codec)
        (.start backend ingressId worker retry config) as ↔
      RunOk (FailureRun.step codec) (FailureRun.FailsInDial codec)
        (.start backend ingressId worker retry config) as := by
  apply runOk_iff_of_invariant
  · intro s a hinv hdial
    exact (FailureRun.accountsFor_iff hinv a).2 hdial
  · intro s a hinv
    exact (FailureRun.accountsFor_iff hinv a).1
  · exact FailureRun.inv_start backend ingressId worker retry config

namespace Sample

/-- A batch of one datagram, on a stream with the given room if one is dialled. -/
def batchAt (now : Instant) (room : Nat) : HandledBatch Narrow :=
  { datagrams := [(arrival 1).datagram]
    env :=
      { checkedAt := now
        acquired := .ok { sent := [], room }
        dialedAt := now
        dialDraw := 0
        writtenAt := now
        writeDraw := 0 } }

/-- The writer of the sample backend, whose circuit opens after three failures. -/
def writerStart : FailureRun Narrow :=
  .start ingest (ingressEntry 20).id 0 (ingressConfig 20).retry (ingressConfig 20).circuitBreaker

/-- Three streams that take the preamble and the greeting, and no batch. -/
def acceptingThree : List (HandledBatch Narrow) :=
  [batchAt 0 9, batchAt (Duration.fromSecs 10) 9, batchAt (Duration.fromSecs 20) 9]

end Sample

/-- After three failures in a row the backoff is that of the first one, and the circuit is closed,
    though it is to open after three. -/
theorem accepted_dials_reset_count :
    let s := run (FailureRun.step Sample.payloadCodec) Sample.writerStart Sample.acceptingThree
    s.shared.circuit.limits.failureThreshold.val = 3 ∧ s.failed = 3 ∧
      s.writer.state.attempt = 1 ∧
      s.writer.state.cooldownUntil =
        some (Duration.fromSecs 20 + backoffDelay 0 s.writer.retry 0) ∧
      backoffDelay 0 s.writer.retry 0 ≠ backoffDelay 2 s.writer.retry 0 ∧
      s.shared.circuit.state s.writer.backend.id.bytes = .closed ∧
      ¬ s.Accounted (Duration.fromSecs 20) 0 := by
  intro s
  have hattempt : s.writer.state.attempt = 1 := by decide +kernel
  have hfailed : s.failed = 3 := by decide +kernel
  refine ⟨by decide +kernel, hfailed, hattempt, by decide +kernel, by decide +kernel,
    by decide +kernel, ?_⟩
  intro h
  have hcount := h.attempt
  rw [hattempt, hfailed] at hcount
  exact absurd hcount (by decide)

end Reduction
