import Reduction.ForStd.Run
import Reduction.Native.RelayTiming

/-!
# Idle relays

The tracker keeps the time of the last activity in whole milliseconds, so the
watchdog may find a relay idle although a byte has moved since it armed, in the
millisecond that it armed for.  It cannot have moved later than that, and the
deadline is reckoned from the beginning of the millisecond: what the watchdog
overlooks is less than a millisecond old when it arms.

The counters are read however the relay ends, and are the totals as 64 bits hold
them.
-/

namespace Reduction

open Run

/-- Some bytes were read or written. -/
def IoEvent.Moved (io : IoEvent) : Prop := ∃ n, io.result = .ok n ∧ 0 < n

/-- The counts as 64 bits hold them. -/
def RelayStats.wrapped (stats : RelayStats) : RelayStats :=
  { stats with bytesAToB := stats.bytesAToB % 2 ^ 64, bytesBToA := stats.bytesBToA % 2 ^ 64 }

namespace ActivityTracker

variable {tracker : ActivityTracker} {now : UInt64} {io : IoEvent}

theorem elapsedMs_mono {now' : UInt64} (h : now ≤ now') :
    tracker.elapsedMs now ≤ tracker.elapsedMs now' := by
  have hle : now.toNat ≤ now'.toNat := UInt64.le_iff_toNat_le.mp h
  apply Nat.div_le_div_right
  omega

/-- The milliseconds of a clock of 64 bits do not saturate. -/
theorem toNat_touch (tracker : ActivityTracker) (now : UInt64) :
    (tracker.touch now).lastActivityMs.toNat = tracker.elapsedMs now := by
  have hlt : tracker.elapsedMs now < 2 ^ 64 := by
    have hnow := now.toNat_lt
    have hdiv := Nat.div_le_self (now.toNat - tracker.start.toNat) 1000000
    unfold elapsedMs
    omega
  show (UInt64.ofNat (min (tracker.elapsedMs now) (2 ^ 64 - 1))).toNat = _
  rw [Nat.min_eq_left (by omega), UInt64.toNat_ofNat_of_lt' hlt]

/-- The counter of a side. -/
def counted (tracker : ActivityTracker) : Side → UInt64
  | .client => tracker.aToB
  | .backend => tracker.bToA

theorem counted_tracked (tracker : ActivityTracker) (now : UInt64) (io : IoEvent) (side : Side) :
    (tracker.tracked now io).counted side =
      tracker.counted side + .ofNat (bytesRead side [io]) := by
  obtain ⟨side', isRead, result⟩ := io
  cases result with
  | error e => simp [tracked, bytesRead]
  | ok n =>
    by_cases hn : 0 < n
    · cases side <;> cases side' <;> cases isRead <;>
        simp [tracked, bytesRead, hn, addRead, touch, counted]
    · have hzero : n = 0 := by omega
      simp [tracked, bytesRead, hzero]

theorem start_tracked : (tracker.tracked now io).start = tracker.start := by
  obtain ⟨side, isRead, result⟩ := io
  cases result with
  | error e => rfl
  | ok n => cases side <;> cases isRead <;> by_cases hn : 0 < n <;>
      simp [tracked, hn, addRead, touch]

/-- The tracker is touched by what moves bytes, and by nothing else. -/
theorem lastActivityMs_tracked (tracker : ActivityTracker) (now : UInt64) (io : IoEvent) :
    io.Moved ∧ (tracker.tracked now io).lastActivityMs.toNat = tracker.elapsedMs now ∨
      ¬ io.Moved ∧ (tracker.tracked now io).lastActivityMs = tracker.lastActivityMs := by
  obtain ⟨side, isRead, result⟩ := io
  cases result with
  | error e =>
    right
    refine ⟨?_, rfl⟩
    rintro ⟨n, hn, -⟩
    cases hn
  | ok n =>
    by_cases hn : 0 < n
    · left
      refine ⟨⟨n, rfl, hn⟩, ?_⟩
      simp only [tracked, hn, if_true]
      cases isRead with
      | false => exact toNat_touch tracker now
      | true => cases side <;> exact toNat_touch _ now
    · right
      refine ⟨?_, by simp [tracked, hn]⟩
      rintro ⟨m, hm, hpos⟩
      cases hm
      exact hn hpos

end ActivityTracker

theorem bytesRead_concat (side : Side) (ios : List IoEvent) (io : IoEvent) :
    bytesRead side (ios ++ [io]) = bytesRead side ios + bytesRead side [io] := by
  simp [bytesRead]

theorem firstError_concat {ios : List IoEvent} (h : firstError ios = none) (io : IoEvent) :
    firstError (ios ++ [io]) = firstError [io] := by
  induction ios with
  | nil => rfl
  | cons first ios ih =>
    rw [List.cons_append, firstError]
    cases hresult : first.result with
    | error e =>
      rw [firstError, hresult] at h
      cases h
    | ok n =>
      rw [firstError, hresult] at h
      exact ih h

namespace TimedRelay

variable {s : TimedRelay} {t₀ now : UInt64} {idleTimeout : Duration}

def events (s : TimedRelay) : List IoEvent := s.ios.map Prod.snd

/-- No byte has moved in the idle timeout before the time, but for a millisecond. -/
def IdleAt (s : TimedRelay) (idleTimeout : Duration) (now : UInt64) : Prop :=
  ∀ p ∈ s.ios, p.2.Moved → p.1.toNat + idleTimeout < now.toNat + Duration.fromMillis 1

/-- What is returned is what the relay without times returns, and an idle relay was idle. -/
def Right (t₀ : UInt64) (idleTimeout : Duration) (s : TimedRelay) : Prop :=
  ∀ now result, s.returned = some (now, result) → ∃ ended,
    result = (relayBidirectional { ios := s.events, ended, duration := now.toNat - t₀.toNat }).map
      RelayStats.wrapped ∧
    (ended = .idleTimeout → s.IdleAt idleTimeout now)

/-- What the tracker knows. -/
structure Tracks (t₀ : UInt64) (idleTimeout : Duration) (s : TimedRelay) : Prop where
  start : s.tracker.start = t₀
  timeout : s.idleTimeout = idleTimeout
  /-- The last activity is not in the future. -/
  last_le : s.tracker.lastActivityMs.toNat ≤ s.tracker.elapsedMs s.clock
  touched : ∀ p ∈ s.ios, p.2.Moved → s.tracker.elapsedMs p.1 ≤ s.tracker.lastActivityMs.toNat
  counted : ∀ side, s.tracker.counted side = .ofNat (bytesRead side s.events)

structure Kept (t₀ : UInt64) (idleTimeout : Duration) (s : TimedRelay) : Prop where
  tracks : s.Tracks t₀ idleTimeout
  unfailed : s.returned = none → firstError s.events = none
  right : s.Right t₀ idleTimeout

theorem kept_start (t₀ : UInt64) (idleTimeout : Duration) :
    (start t₀ idleTimeout).Kept t₀ idleTimeout := by
  refine ⟨⟨rfl, rfl, Nat.zero_le _, ?_, ?_⟩, fun _ => rfl, ?_⟩
  · intro p hp
    cases hp
  · intro side
    cases side <;> rfl
  · intro now result h
    cases h

/-- The watchdog wakes at its deadline or later, and the last activity is the one it armed for. -/
theorem Tracks.idleAt (h : s.Tracks t₀ idleTimeout)
    (hdeadline : s.deadline s.tracker.lastActivityMs ≤ now.toNat) : s.IdleAt idleTimeout now := by
  intro p hp hmoved
  have htouched := h.touched p hp hmoved
  have hms := Nat.lt_div_mul_add (a := p.1.toNat - s.tracker.start.toNat) (b := 1000000) (by decide)
  unfold deadline at hdeadline
  rw [h.timeout] at hdeadline
  unfold ActivityTracker.elapsedMs at htouched
  unfold Duration.fromMillis at hdeadline ⊢
  omega

theorem Tracks.finish_ok (h : s.Tracks t₀ idleTimeout) (hunfailed : firstError s.events = none)
    {ended : RelayEnd} (hidle : ended = .idleTimeout → s.IdleAt idleTimeout now) :
    (s.finish now (.ok ended)).Right t₀ idleTimeout := by
  intro now' result hreturned
  obtain ⟨rfl, rfl⟩ := Prod.mk.inj (Option.some.inj hreturned)
  refine ⟨ended, ?_, hidle⟩
  have haToB : s.tracker.aToB = .ofNat (bytesRead .client s.events) := h.counted .client
  have hbToA : s.tracker.bToA = .ofNat (bytesRead .backend s.events) := h.counted .backend
  show _ = (relayBidirectional { ios := s.events, ended, duration := _ }).map _
  simp only [relayBidirectional, hunfailed, h.start, haToB, hbToA, UInt64.toNat_ofNat']
  rfl

/-- The relay after a read or write that was answered. -/
def withIo (s : TimedRelay) (now : UInt64) (event : IoEvent) : TimedRelay :=
  { s with
    tracker := s.tracker.tracked now event
    ios := s.ios ++ [(now, event)]
    clock := now }

theorem events_withIo (s : TimedRelay) (now : UInt64) (event : IoEvent) :
    (s.withIo now event).events = s.events ++ [event] := by
  simp [events, withIo]

theorem Tracks.withIo (h : s.Tracks t₀ idleTimeout) (hclock : s.clock ≤ now) (event : IoEvent) :
    (s.withIo now event).Tracks t₀ idleTimeout := by
  have hlast := h.last_le.trans (ActivityTracker.elapsedMs_mono hclock)
  have helapsed : ∀ t, (s.tracker.tracked now event).elapsedMs t = s.tracker.elapsedMs t := by
    intro t
    rw [ActivityTracker.elapsedMs, ActivityTracker.start_tracked, ActivityTracker.elapsedMs]
  constructor
  · exact ActivityTracker.start_tracked.trans h.start
  · exact h.timeout
  · show (s.tracker.tracked now event).lastActivityMs.toNat ≤ _
    rw [TimedRelay.withIo, helapsed]
    rcases s.tracker.lastActivityMs_tracked now event with ⟨-, heq⟩ | ⟨-, heq⟩
    · exact heq.le
    · rw [heq]
      exact hlast
  · intro p hp hmoved
    rw [TimedRelay.withIo, helapsed]
    -- what moved before this was touched by then
    rcases s.tracker.lastActivityMs_tracked now event with ⟨-, heq⟩ | ⟨hstill, heq⟩
    · rw [heq]
      rcases List.mem_append.mp hp with hp | hp
      · exact (h.touched p hp hmoved).trans hlast
      · rw [List.mem_singleton.mp hp]
    · rw [heq]
      rcases List.mem_append.mp hp with hp | hp
      · exact h.touched p hp hmoved
      · rw [List.mem_singleton.mp hp] at hmoved
        exact absurd hmoved hstill
  · intro side
    rw [events_withIo, bytesRead_concat, UInt64.ofNat_add, ← h.counted]
    exact s.tracker.counted_tracked now event side

/-- The relay goes on to a state that has not returned. -/
theorem Tracks.going (h : s.Tracks t₀ idleTimeout) (hnone : s.returned = none)
    (hunfailed : firstError s.events = none) : s.Kept t₀ idleTimeout := by
  refine ⟨h, fun _ => hunfailed, fun now result hreturned => ?_⟩
  cases hnone.symm.trans hreturned

/-- Or it returns. -/
theorem Tracks.finished (h : s.Tracks t₀ idleTimeout) {outcome : Except String RelayEnd}
    (hright : (s.finish now outcome).Right t₀ idleTimeout) :
    (s.finish now outcome).Kept t₀ idleTimeout := by
  refine ⟨{ h with }, fun hreturned => ?_, hright⟩
  cases hreturned

theorem Kept.act (h : s.Kept t₀ idleTimeout) (hnone : s.returned = none) (hclock : s.clock ≤ now)
    (a : TimedRelayAction) : ({ s.act now a with clock := now }).Kept t₀ idleTimeout := by
  have hunfailed := h.unfailed hnone
  have htracks : ({ s with clock := now } : TimedRelay).Tracks t₀ idleTimeout :=
    { h.tracks with last_le := h.tracks.last_le.trans (ActivityTracker.elapsedMs_mono hclock) }
  cases a with
  | io event =>
    have hio := h.tracks.withIo hclock event
    have herror := firstError_concat hunfailed event
    rw [← events_withIo s now] at herror
    obtain ⟨side, isRead, result⟩ := event
    cases result with
    | ok n => exact hio.going hnone herror
    | error e =>
      have hright : ((s.withIo now ⟨side, isRead, .error e⟩).finish now (.error e)).Right t₀
          idleTimeout := by
        intro now' result hreturned
        obtain ⟨rfl, rfl⟩ := Prod.mk.inj (Option.some.inj hreturned)
        refine ⟨.completed, ?_, fun hidle => by cases hidle⟩
        show _ = (relayBidirectional { ios := (s.withIo now _).events, ended := _, duration := _ }).map _
        simp only [relayBidirectional, herror, firstError]
        rfl
      exact hio.finished hright
  | copied => exact htracks.finished (htracks.finish_ok hunfailed fun hidle => by cases hidle)
  | cancelled => exact htracks.finished (htracks.finish_ok hunfailed fun hidle => by cases hidle)
  | watchdog =>
    unfold TimedRelay.act TimedRelay.watchdog
    cases harmed : s.armedAtMs with
    | none => exact Tracks.going { htracks with } hnone hunfailed
    | some armed =>
      by_cases hdeadline : s.deadline armed ≤ now.toNat
      · by_cases hsame : s.tracker.lastActivityMs = armed
        · simp only [hdeadline, hsame, if_true]
          refine htracks.finished (htracks.finish_ok hunfailed fun _ => htracks.idleAt ?_)
          show s.deadline s.tracker.lastActivityMs ≤ now.toNat
          rw [hsame]
          exact hdeadline
        · simp only [hdeadline, hsame, if_true, if_false]
          exact Tracks.going { htracks with } hnone hunfailed
      · simp only [hdeadline, if_false]
        exact htracks.going hnone hunfailed

theorem Kept.step (h : s.Kept t₀ idleTimeout) (a : UInt64 × TimedRelayAction) :
    (s.step a).Kept t₀ idleTimeout := by
  unfold TimedRelay.step
  split
  · exact h
  · rename_i hgoes
    rw [Bool.or_eq_true, not_or, Option.not_isSome_iff_eq_none, decide_eq_true_eq, UInt64.not_lt]
      at hgoes
    exact h.act hgoes.1 hgoes.2 a.2

/-- In every run of a relay that has returned a success, it returned `IdleTimeout` only if no byte
    had been read or written in the idle timeout before that, less a millisecond, and the counts are
    the totals that were read from each side, as 64 bits hold them. -/
theorem relay_idle_and_counted (t₀ : UInt64) (idleTimeout : Duration)
    (as : List (UInt64 × TimedRelayAction)) {now : UInt64} {stats : RelayStats}
    (h : (run step (start t₀ idleTimeout) as).returned = some (now, .ok stats)) :
    (stats.ended = .idleTimeout →
      ∀ p ∈ (run step (start t₀ idleTimeout) as).ios, p.2.Moved →
        p.1.toNat + idleTimeout < now.toNat + Duration.fromMillis 1) ∧
    stats.bytesAToB = bytesRead .client (run step (start t₀ idleTimeout) as).events % 2 ^ 64 ∧
    stats.bytesBToA = bytesRead .backend (run step (start t₀ idleTimeout) as).events % 2 ^ 64 := by
  have hkept := @run_invariant_of_step _ _ step (Kept t₀ idleTimeout) (fun s a hs => hs.step a) _
    (kept_start t₀ idleTimeout) as
  obtain ⟨ended, hresult, hidle⟩ := hkept.right now _ h
  unfold relayBidirectional at hresult
  split at hresult
  · cases hresult
  · cases hresult
    exact ⟨hidle, rfl, rfl⟩

end TimedRelay

namespace Sample

/-- Five bytes come from the client after 150 ms and are written to the backend in the same
    millisecond; the watchdog of 200 ms arms at the start, and again at its first deadline. -/
def relayedThenQuiet : List (UInt64 × TimedRelayAction) :=
  [(0, .watchdog), (150000000, .io { side := .client, isRead := true, result := .ok 5 }),
    (150900000, .io { side := .backend, isRead := false, result := .ok 5 }), (200000000, .watchdog),
    (200000000, .watchdog), (350000000, .watchdog)]

def quietRelay : TimedRelay :=
  run TimedRelay.step (.start 0 (Duration.fromMillis 200)) relayedThenQuiet

def quietStats : RelayStats :=
  { bytesAToB := 5, bytesBToA := 0, duration := Duration.fromMillis 350, ended := .idleTimeout }

end Sample

/-- The last byte was written 199.1 ms before the end. -/
theorem quiet_relay_idle :
    Sample.quietRelay.returned = some (350000000, .ok Sample.quietStats) ∧
    ∀ p ∈ Sample.quietRelay.ios, p.2.Moved →
      p.1.toNat + Duration.fromMillis 200 < (350000000 : UInt64).toNat + Duration.fromMillis 1 := by
  have hreturned : Sample.quietRelay.returned = some (350000000, .ok Sample.quietStats) := rfl
  exact ⟨hreturned, (TimedRelay.relay_idle_and_counted 0 (Duration.fromMillis 200)
    Sample.relayedThenQuiet hreturned).1 rfl⟩

end Reduction
