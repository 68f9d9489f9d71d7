import Reduction.ForStd.Run
import Reduction.Native.Circuit

/-!
# Half-open probe accounting

`half_open_inflight` is meant to count the probes of the current half-open
period.  A guard however may outlive the period it was issued in (it travels
with a streaming response body), and its drop looks only at the breaker's
present state.  This file follows one backend id through arbitrary sequences of
calls.

## Key results

- `inflight_counts_probes`: as long as no guard of an earlier period is dropped
  while the breaker is half-open, the counter is the number of live guards of
  the current period, stays within `half_open_max_requests`, and a half-open
  breaker without such a guard admits the next check
- `stale_drop_miscounts`: one stale drop is enough to lose the count
-/

namespace Reduction

theorem NonZeroU32.toNat_pos (n : NonZeroU32) : 0 < n.val.toNat :=
  Nat.pos_of_ne_zero fun h => n.property (UInt32.toNat_inj.mp h)

namespace CircuitBreakers

/-! ## The breaker of one id after a call -/

/-- The breaker that `entry` hands out for `key`. -/
def slot (cb : CircuitBreakers) (key : BackendId) : ArcBreaker :=
  (cb.breakers.lookup key).getD ⟨cb.nextArc, .new⟩

variable (cb : CircuitBreakers)

@[simp] theorem entry_snd (key : BackendId) : (cb.entry key).2 = cb.slot key := by
  unfold entry slot
  split <;> simp_all

@[simp] theorem entry_limits (key : BackendId) : (cb.entry key).1.limits = cb.limits := by
  unfold entry
  split <;> rfl

@[simp] theorem lookup_store (key : BackendId) (arc : Nat) (b : BackendBreaker) :
    (cb.store key arc b).breakers.lookup key = some ⟨arc, b⟩ := by
  simp [store]

variable {key : BackendId} {id : Bytes}

@[simp] theorem store_limits (key : BackendId) (arc : Nat) (b : BackendBreaker) :
    (cb.store key arc b).limits = cb.limits := rfl

theorem slot_of_lookup {a : ArcBreaker} (h : cb.breakers.lookup key = some a) :
    cb.slot key = a := by
  simp [slot, h]

/-- `state` reads the breaker that `entry` would hand out: an absent one counts as closed. -/
theorem state_eq_slot (hkey : ArrayString.from? id = some key) :
    cb.state id = (cb.slot key).breaker.state := by
  cases h : cb.breakers.lookup key <;> simp [state, get, slot, hkey, h, BackendBreaker.new]

/-- `check` runs the cells of the id's breaker, creating it first if need be. -/
theorem lookup_check (hkey : ArrayString.from? id = some key) (now : Instant) :
    (cb.check id now).1.breakers.lookup key =
      some ⟨(cb.slot key).arc, ((cb.slot key).breaker.check cb.limits now).1⟩ := by
  simp [check, hkey]

theorem check_answer (hkey : ArrayString.from? id = some key) (now : Instant) :
    (cb.check id now).2 =
      (((cb.slot key).breaker.check cb.limits now).2.1,
        if ((cb.slot key).breaker.check cb.limits now).2.2 then
          some ⟨key, (cb.slot key).arc⟩ else none) := by
  simp [check, hkey]

theorem lookup_recordFailure (hkey : ArrayString.from? id = some key) (now : Instant) :
    (cb.recordFailure id now).breakers.lookup key =
      some ⟨(cb.slot key).arc, (cb.slot key).breaker.recordFailure cb.limits now⟩ := by
  simp [recordFailure, hkey]

theorem lookup_recordSuccess (hkey : ArrayString.from? id = some key) :
    (cb.recordSuccess id).breakers.lookup key =
      (cb.breakers.lookup key).map fun a => ⟨a.arc, a.breaker.recordSuccess⟩ := by
  cases h : cb.breakers.lookup key <;> simp [recordSuccess, get, hkey, h]

variable (g : HalfOpenGuard)

@[simp] theorem dropGuard_limits : (cb.dropGuard g).limits = cb.limits := by
  unfold dropGuard
  split
  · split <;> rfl
  · rfl

theorem lookup_dropGuard {a : ArcBreaker} (h : cb.breakers.lookup key = some a) :
    (cb.dropGuard ⟨key, a.arc⟩).breakers.lookup key = some ⟨a.arc, a.breaker.dropGuard⟩ := by
  simp [dropGuard, h]

theorem slot_breaker_check (id : BackendId) (now : Instant) :
    ((cb.check id.bytes now).1.slot id).breaker = ((cb.slot id).breaker.check cb.limits now).1 := by
  rw [slot_of_lookup _ (cb.lookup_check (ArrayString.from?_bytes id) now)]

/-- An absent breaker stays absent, and a new one is as it would be after a success. -/
theorem slot_breaker_recordSuccess (id : BackendId) :
    ((cb.recordSuccess id.bytes).slot id).breaker = (cb.slot id).breaker.recordSuccess := by
  unfold slot
  rw [cb.lookup_recordSuccess (ArrayString.from?_bytes id)]
  cases cb.breakers.lookup id <;> rfl

theorem slot_breaker_recordFailure (id : BackendId) (now : Instant) :
    ((cb.recordFailure id.bytes now).slot id).breaker =
      (cb.slot id).breaker.recordFailure cb.limits now := by
  rw [slot_of_lookup _ (cb.lookup_recordFailure (ArrayString.from?_bytes id) now)]

/-- Whoever's guard it is. -/
theorem slot_breaker_dropGuard (id : BackendId) :
    ((cb.dropGuard g).slot id).breaker = (cb.slot id).breaker ∨
      ((cb.dropGuard g).slot id).breaker = (cb.slot id).breaker.dropGuard := by
  unfold dropGuard
  split
  · rename_i arc b hlookup
    split
    · by_cases hid : g.backendId = id
      · subst hid
        rw [cb.slot_of_lookup hlookup, slot_of_lookup _ (cb.lookup_store _ _ _)]
        exact .inr rfl
      · refine .inl ?_
        rw [slot, store, AList.lookup_insert_ne (Ne.symm hid), slot]
    · exact .inl rfl
  · exact .inl rfl

/-! ## The breakers of the other ids -/

section Frame

variable {id key : BackendId}

theorem slot_breaker_congr {cb cb' : CircuitBreakers}
    (h : cb'.breakers.lookup key = cb.breakers.lookup key) :
    (cb'.slot key).breaker = (cb.slot key).breaker := by
  unfold slot
  rw [h]
  cases cb.breakers.lookup key <;> rfl

theorem lookup_store_ne (h : key ≠ id) (arc : Nat) (b : BackendBreaker) :
    (cb.store id arc b).breakers.lookup key = cb.breakers.lookup key := by
  rw [store, AList.lookup_insert_ne h]

theorem lookup_entry_ne (h : key ≠ id) :
    (cb.entry id).1.breakers.lookup key = cb.breakers.lookup key := by
  unfold entry
  split
  · rfl
  · exact AList.lookup_insert_ne h

theorem lookup_check_ne (h : key ≠ id) (now : Instant) :
    (cb.check id.bytes now).1.breakers.lookup key = cb.breakers.lookup key := by
  rw [check, ArrayString.from?_bytes]
  exact (lookup_store_ne _ h _ _).trans (cb.lookup_entry_ne h)

theorem lookup_recordSuccess_ne (h : key ≠ id) :
    (cb.recordSuccess id.bytes).breakers.lookup key = cb.breakers.lookup key := by
  simp only [recordSuccess, get, ArrayString.from?_bytes]
  cases cb.breakers.lookup id with
  | none => rfl
  | some a => exact cb.lookup_store_ne h _ _

theorem lookup_recordFailure_ne (h : key ≠ id) (now : Instant) :
    (cb.recordFailure id.bytes now).breakers.lookup key = cb.breakers.lookup key := by
  rw [recordFailure, ArrayString.from?_bytes]
  exact (lookup_store_ne _ h _ _).trans (cb.lookup_entry_ne h)

theorem lookup_dropGuard_ne {g : HalfOpenGuard} (h : key ≠ g.backendId) :
    (cb.dropGuard g).breakers.lookup key = cb.breakers.lookup key := by
  unfold dropGuard
  split
  · split
    · exact cb.lookup_store_ne h _ _
    · rfl
  · rfl

@[simp] theorem check_limits (now : Instant) : (cb.check id.bytes now).1.limits = cb.limits := by
  simp [check]

@[simp] theorem recordSuccess_limits : (cb.recordSuccess id.bytes).limits = cb.limits := by
  unfold recordSuccess
  split <;> rfl

@[simp] theorem recordFailure_limits (now : Instant) :
    (cb.recordFailure id.bytes now).limits = cb.limits := by
  simp [recordFailure]

end Frame

end CircuitBreakers

namespace BackendBreaker

/-! ## What a call does to the cells -/

variable (b : BackendBreaker)

variable (limits : BreakerLimits) (now : Instant)

/-- The five things a `check` can do. -/
theorem check_cases :
    (b.state = .closed ∧ b.check limits now = (b, .closed, false)) ∨
    (b.state = .open ∧ b.check limits now = (b, .open, false)) ∨
    (b.state = .open ∧
      b.check limits now = ({ b with halfOpenInflight := 1, state := .halfOpen }, .halfOpen, true)) ∨
    (b.state = .halfOpen ∧ limits.halfOpenMaxRequests.val ≤ b.halfOpenInflight ∧
      b.check limits now = (b, .open, false)) ∨
    (b.state = .halfOpen ∧ b.halfOpenInflight < limits.halfOpenMaxRequests.val ∧
      b.check limits now =
        ({ b with halfOpenInflight := b.halfOpenInflight + 1 }, .halfOpen, true)) := by
  cases hs : b.state with
  | closed => exact .inl ⟨rfl, by simp [check, hs]⟩
  | «open» =>
    cases ht : b.shouldTransition limits now with
    | false => exact .inr (.inl ⟨rfl, by simp [check, hs, ht]⟩)
    | true => exact .inr (.inr (.inl ⟨rfl, by simp [check, hs, ht]⟩))
  | halfOpen =>
    by_cases hm : limits.halfOpenMaxRequests.val ≤ b.halfOpenInflight
    · -- the wrapping increment is undone before anyone sees it
      refine .inr (.inr (.inr (.inl ⟨rfl, hm, ?_⟩)))
      simp [check, hs, hm]
      rw [← hs]
    · refine .inr (.inr (.inr (.inr ⟨rfl, by simpa using hm, ?_⟩)))
      simp [check, hs, hm]

theorem recordSuccess_state_ne : b.recordSuccess.state ≠ .halfOpen := by
  unfold recordSuccess
  split <;> simp_all

theorem recordFailure_state_ne : (b.recordFailure limits now).state ≠ .halfOpen := by
  unfold recordFailure
  split
  · dsimp only
    split <;> simp_all
  · simp
  · simp_all

@[simp] theorem dropGuard_state : b.dropGuard.state = b.state := by
  unfold dropGuard
  split <;> rfl

theorem dropGuard_inflight (h : b.state = .halfOpen) :
    b.dropGuard.halfOpenInflight = b.halfOpenInflight - 1 := by
  simp [dropGuard, h]

end BackendBreaker

/-! ## Runs of one backend id -/

/-- A live guard, with the half-open period it was issued in. -/
structure Probe where
  guard : HalfOpenGuard
  period : Nat

/-- The breakers under a sequence of calls for one id.  `period` counts the half-open periods begun
    so far and `live` holds the guards not dropped yet; both only observe the breakers. -/
structure ProbeRun where
  cb : CircuitBreakers
  now : Instant
  period : Nat
  live : List Probe

/-- A whole operation on one backend id. -/
inductive ProbeOp where
  | check
  | recordSuccess
  | recordFailure
  | drop (i : Nat)
  | elapse (d : Duration)

namespace ProbeRun

def init (config : CircuitBreakerConfig) (now : Instant) : ProbeRun :=
  { cb := .new config, now, period := 0, live := [] }

/-- Move on to the breakers `cb`; a half-open period begins when the id's state turns half-open. -/
def observe (s : ProbeRun) (id : Bytes) (cb : CircuitBreakers) : ProbeRun :=
  { s with
    cb
    period := if s.cb.state id ≠ .halfOpen ∧ cb.state id = .halfOpen then s.period + 1 else s.period }

/-- Keep the guard a `check` handed out. -/
def issue (s : ProbeRun) (guard : Option HalfOpenGuard) : ProbeRun :=
  match guard with
  | some g => { s with live := ⟨g, s.period⟩ :: s.live }
  | none => s

def step (id : Bytes) (s : ProbeRun) : ProbeOp → ProbeRun
  | .check =>
    let (cb, _, guard) := s.cb.check id s.now
    (s.observe id cb).issue guard
  | .recordSuccess => s.observe id (s.cb.recordSuccess id)
  | .recordFailure => s.observe id (s.cb.recordFailure id s.now)
  | .drop i =>
    match s.live[i]? with
    | some p => { s.observe id (s.cb.dropGuard p.guard) with live := s.live.eraseIdx i }
    | none => s
  | .elapse d => { s with now := s.now + d }

/-- The number of live guards that were issued in the current half-open period. -/
def current (s : ProbeRun) : Nat := s.live.countP fun p => p.period = s.period

/-- The breaker of `id` counts its probes: whenever it is half-open, the counter is the number of
    live guards of the current period and within the limit, and with no such guard the next check is
    admitted as a probe. -/
def CountsProbes (id : Bytes) (s : ProbeRun) : Prop :=
  ∀ key a, s.cb.get id = some (key, a) → a.breaker.state = .halfOpen →
    a.breaker.halfOpenInflight.toNat = s.current ∧
    a.breaker.halfOpenInflight ≤ s.cb.limits.halfOpenMaxRequests.val ∧
    (s.current = 0 → ∀ now, ∃ g, (s.cb.check id now).2 = (.halfOpen, some g))

/-- No guard of an earlier half-open period is dropped while the breaker is half-open. -/
def FreshDrop (id : Bytes) (s : ProbeRun) : ProbeOp → Prop
  | .drop i => ∀ p, s.live[i]? = some p → s.cb.state id = .halfOpen → p.period = s.period
  | _ => True

/-! ## The invariant -/

/-- The counting invariant for an id with key `key`. -/
structure Inv (key : BackendId) (s : ProbeRun) : Prop where
  /-- Every live guard points at the breaker that is in the map. -/
  own : ∀ p ∈ s.live, ∃ a, s.cb.breakers.lookup key = some a ∧ p.guard = ⟨key, a.arc⟩
  periodLe : ∀ p ∈ s.live, p.period ≤ s.period
  counted : (s.cb.slot key).breaker.state = .halfOpen →
    (s.cb.slot key).breaker.halfOpenInflight.toNat = s.current
  capped : (s.cb.slot key).breaker.state = .halfOpen →
    (s.cb.slot key).breaker.halfOpenInflight ≤ s.cb.limits.halfOpenMaxRequests.val

theorem init_inv (key : BackendId) (config : CircuitBreakerConfig) (now : Instant) :
    Inv key (init config now) := by
  have hslot : ((init config now).cb.slot key).breaker.state = .closed := rfl
  exact ⟨by simp [init], by simp [init], by simp [hslot], by simp [hslot]⟩

variable {key : BackendId} {s : ProbeRun} {id : Bytes} {cb : CircuitBreakers}

/-- A call that leaves the breaker out of the half-open state cannot disturb the count. -/
theorem Inv.observe_of_ne (hinv : Inv key s) (hkey : ArrayString.from? id = some key)
    (harc : ∀ a, s.cb.breakers.lookup key = some a →
      ∃ b, cb.breakers.lookup key = some ⟨a.arc, b⟩) (hne : (cb.slot key).breaker.state ≠ .halfOpen)
    :
    Inv key (s.observe id cb) := by
  have hperiod : (s.observe id cb).period = s.period := by
    simp [observe, cb.state_eq_slot hkey, hne]
  refine ⟨fun p hp => ?_, fun p hp => ?_, fun h => absurd h hne, fun h => absurd h hne⟩
  · obtain ⟨a, ha, hg⟩ := hinv.own p hp
    obtain ⟨b, hb⟩ := harc a ha
    exact ⟨_, hb, hg⟩
  · rw [hperiod]
    exact hinv.periodLe p hp

/-- A `check` that answers without handing out a guard leaves the cells as they were. -/
theorem Inv.observe_unchanged (hinv : Inv key s) (hkey : ArrayString.from? id = some key)
    (hlookup : cb.breakers.lookup key = some (s.cb.slot key)) (hlimits : cb.limits = s.cb.limits) :
    Inv key (s.observe id cb) := by
  have hslot := cb.slot_of_lookup hlookup
  have hperiod : (s.observe id cb).period = s.period := by
    simp [observe, cb.state_eq_slot hkey, s.cb.state_eq_slot hkey, hslot]
  have hcurrent : (s.observe id cb).current = s.current := by
    simp only [current, hperiod]; rfl
  refine ⟨fun p hp => ?_, fun p hp => ?_, ?_, ?_⟩
  · obtain ⟨a, ha, hg⟩ := hinv.own p hp
    exact ⟨_, hlookup, by rw [hg, s.cb.slot_of_lookup ha]⟩
  · rw [hperiod]
    exact hinv.periodLe p hp
  · rw [hcurrent]
    simpa [observe, hslot] using hinv.counted
  · simpa [observe, hslot, hlimits] using hinv.capped

/-- Keeping a freshly issued guard: it is the one more that the counter was raised by. -/
theorem Inv.issue_probe (hinv : Inv key s) {b : BackendBreaker}
    (hlookup : cb.breakers.lookup key = some ⟨(s.cb.slot key).arc, b⟩)
    (hperiod : s.period ≤ (s.observe id cb).period)
    (hcount : b.halfOpenInflight.toNat = (s.observe id cb).current + 1)
    (hcap : b.halfOpenInflight ≤ cb.limits.halfOpenMaxRequests.val) :
    Inv key ((s.observe id cb).issue (some ⟨key, (s.cb.slot key).arc⟩)) := by
  have hslot := cb.slot_of_lookup hlookup
  refine ⟨fun p hp => ⟨_, hlookup, ?_⟩, fun p hp => ?_, fun _ => ?_, fun _ => ?_⟩
  · rcases List.mem_cons.mp hp with rfl | hp
    · rfl
    · obtain ⟨a, ha, hg⟩ := hinv.own p hp
      rw [hg, s.cb.slot_of_lookup ha]
  · rcases List.mem_cons.mp hp with rfl | hp
    · exact le_rfl
    · exact (hinv.periodLe p hp).trans hperiod
  · have hissue : ((s.observe id cb).issue (some ⟨key, (s.cb.slot key).arc⟩)).current =
        (s.observe id cb).current + 1 :=
      List.countP_cons_of_pos (by simp [issue])
    rw [hissue, ← hcount]
    simp [issue, observe, hslot]
  · simpa [issue, observe, hslot] using hcap

theorem check_inv (hinv : Inv key s) (hkey : ArrayString.from? id = some key) :
    Inv key (step id s .check) := by
  have hlookup := s.cb.lookup_check hkey s.now
  have hanswer := s.cb.check_answer hkey s.now
  have hlimits : (s.cb.check id s.now).1.limits = s.cb.limits := by
    simp [CircuitBreakers.check, hkey]
  have hstep : step id s .check =
      (s.observe id (s.cb.check id s.now).1).issue (s.cb.check id s.now).2.2 := rfl
  rw [hstep]
  generalize s.cb.check id s.now = r at hlookup hanswer hlimits ⊢
  obtain ⟨cb, answer, guard⟩ := r
  dsimp only at hlookup hanswer hlimits ⊢
  rcases (s.cb.slot key).breaker.check_cases s.cb.limits s.now with
    ⟨_, h⟩ | ⟨_, h⟩ | ⟨hs, h⟩ | ⟨_, _, h⟩ | ⟨hs, hlt, h⟩ <;>
    simp only [h, Prod.mk.injEq, Bool.false_eq_true, ↓reduceIte] at hlookup hanswer <;>
    obtain ⟨rfl, rfl⟩ := hanswer
  · exact hinv.observe_unchanged hkey hlookup hlimits
  · exact hinv.observe_unchanged hkey hlookup hlimits
  · -- a new period begins: no live guard can belong to it yet
    have hperiod : (s.observe id cb).period = s.period + 1 := by
      simp [observe, cb.state_eq_slot hkey, s.cb.state_eq_slot hkey, hs, cb.slot_of_lookup hlookup]
    have hcurrent : (s.observe id cb).current = 0 := by
      refine List.countP_eq_zero.mpr fun p hp => ?_
      have := hinv.periodLe p hp
      simp only [hperiod, decide_eq_true_eq]
      omega
    refine hinv.issue_probe hlookup (by omega) (by rw [hcurrent]; rfl) ?_
    rw [hlimits, UInt32.le_iff_toNat_le]
    exact s.cb.limits.halfOpenMaxRequests.toNat_pos
  · exact hinv.observe_unchanged hkey hlookup hlimits
  · have hperiod : (s.observe id cb).period = s.period := by
      simp [observe, s.cb.state_eq_slot hkey, hs]
    have hcurrent : (s.observe id cb).current = s.current := by
      simp only [current, hperiod]; rfl
    -- below the limit, which is itself a `u32`, the increment does not wrap
    have hadd : ((s.cb.slot key).breaker.halfOpenInflight + 1).toNat =
        (s.cb.slot key).breaker.halfOpenInflight.toNat + 1 := by
      have hbound := s.cb.limits.halfOpenMaxRequests.val.toNat_lt
      rw [UInt32.lt_iff_toNat_lt] at hlt
      rw [UInt32.toNat_add, UInt32.toNat_one, Nat.mod_eq_of_lt (by omega)]
    refine hinv.issue_probe hlookup hperiod.ge ?_ ?_
    · rw [hcurrent, hadd, hinv.counted hs]
    · rw [hlimits, UInt32.le_iff_toNat_le, hadd]
      exact UInt32.lt_iff_toNat_lt.mp hlt

theorem recordSuccess_inv (hinv : Inv key s) (hkey : ArrayString.from? id = some key) :
    Inv key (step id s .recordSuccess) := by
  have hlookup := s.cb.lookup_recordSuccess hkey
  refine hinv.observe_of_ne hkey
    (fun a ha => ⟨a.breaker.recordSuccess, by rw [hlookup, ha]; rfl⟩) ?_
  cases ha : s.cb.breakers.lookup key with
  | none => simp [CircuitBreakers.slot, hlookup, ha, BackendBreaker.new]
  | some a => simpa [CircuitBreakers.slot, hlookup, ha] using a.breaker.recordSuccess_state_ne

theorem recordFailure_inv (hinv : Inv key s) (hkey : ArrayString.from? id = some key) :
    Inv key (step id s .recordFailure) := by
  have hlookup := s.cb.lookup_recordFailure hkey s.now
  refine hinv.observe_of_ne hkey (fun a ha => ?_) ?_
  · rw [hlookup, s.cb.slot_of_lookup ha]
    exact ⟨_, rfl⟩
  · rw [CircuitBreakers.slot_of_lookup _ hlookup]
    exact (s.cb.slot key).breaker.recordFailure_state_ne s.cb.limits s.now

/-- Dropping a guard in a half-open breaker lowers the counter and the count of the current period
    together, provided that the guard is of that period. -/
theorem drop_inv (hinv : Inv key s) (hkey : ArrayString.from? id = some key) {i : Nat}
    (hfresh : FreshDrop id s (.drop i)) : Inv key (step id s (.drop i)) := by
  cases hi : s.live[i]? with
  | none => simpa [step, hi] using hinv
  | some p =>
    obtain ⟨a, ha, hg⟩ := hinv.own p (List.mem_of_getElem? hi)
    have hlookup := s.cb.lookup_dropGuard ha
    rw [← hg] at hlookup
    have hslot := CircuitBreakers.slot_of_lookup _ hlookup
    have hslot₀ := s.cb.slot_of_lookup ha
    have hstate : (s.cb.dropGuard p.guard).state id = s.cb.state id := by
      rw [CircuitBreakers.state_eq_slot _ hkey, s.cb.state_eq_slot hkey, hslot, hslot₀]
      simp
    have hstep : step id s (.drop i) =
        { s with cb := s.cb.dropGuard p.guard, live := s.live.eraseIdx i } := by
      simp [step, hi, observe, hstate]
    rw [hstep]
    have hmem : ∀ p' ∈ s.live.eraseIdx i, p' ∈ s.live := fun p' => List.mem_of_mem_eraseIdx
    -- in the half-open state the dropped guard is one of those counted
    have hcount : a.breaker.state = .halfOpen →
        (s.live.eraseIdx i).countP (fun p => p.period = s.period) + 1 = s.current := by
      intro hs
      have hp := hfresh p hi (by rw [s.cb.state_eq_slot hkey, hslot₀]; exact hs)
      obtain ⟨hlt, rfl⟩ := List.getElem?_eq_some_iff.mp hi
      rw [current, ← (List.getElem_cons_eraseIdx_perm hlt).countP_eq]
      exact (List.countP_cons_of_pos (by simpa using hp)).symm
    -- and it is counted, so the counter is not zero and the decrement does not wrap either
    have hsub : a.breaker.state = .halfOpen →
        a.breaker.dropGuard.halfOpenInflight.toNat = a.breaker.halfOpenInflight.toNat - 1 := by
      intro hs
      have hcounted := hinv.counted (by rw [hslot₀]; exact hs)
      rw [hslot₀] at hcounted
      have := hcount hs
      rw [a.breaker.dropGuard_inflight hs, UInt32.toNat_sub_of_le _ _ (by
        rw [UInt32.le_iff_toNat_le, UInt32.toNat_one]; omega)]
      rfl
    refine ⟨fun p' hp' => ?_, fun p' hp' => hinv.periodLe p' (hmem p' hp'), ?_, ?_⟩
    · obtain ⟨a', ha', hg'⟩ := hinv.own p' (hmem p' hp')
      obtain rfl : a = a' := Option.some.inj (ha.symm.trans ha')
      exact ⟨_, hlookup, hg'⟩
    · simp only [hslot, BackendBreaker.dropGuard_state]
      intro hs
      have hcounted := hinv.counted (by rw [hslot₀]; exact hs)
      rw [hslot₀] at hcounted
      have := hcount hs
      rw [hsub hs, hcounted, ← this]
      rfl
    · simp only [hslot, BackendBreaker.dropGuard_state, CircuitBreakers.dropGuard_limits]
      intro hs
      have hcapped := hinv.capped (by rw [hslot₀]; exact hs)
      rw [hslot₀, UInt32.le_iff_toNat_le] at hcapped
      rw [UInt32.le_iff_toNat_le, hsub hs]
      omega

theorem step_inv (hkey : ArrayString.from? id = some key) (s : ProbeRun) (op : ProbeOp)
    (hinv : Inv key s) (hfresh : FreshDrop id s op) : Inv key (step id s op) := by
  cases op with
  | check => exact check_inv hinv hkey
  | recordSuccess => exact recordSuccess_inv hinv hkey
  | recordFailure => exact recordFailure_inv hinv hkey
  | drop i => exact drop_inv hinv hkey hfresh
  | elapse d => exact ⟨hinv.own, hinv.periodLe, hinv.counted, hinv.capped⟩

theorem Inv.countsProbes (hinv : Inv key s) (hkey : ArrayString.from? id = some key) :
    CountsProbes id s := by
  intro key' a hget hs
  obtain ⟨rfl, ha⟩ : key = key' ∧ s.cb.breakers.lookup key = some a := by
    simp only [CircuitBreakers.get, hkey, Option.map_eq_some_iff, Prod.mk.injEq] at hget
    obtain ⟨a', ha', rfl, rfl⟩ := hget
    exact ⟨rfl, ha'⟩
  have hslot := s.cb.slot_of_lookup ha
  have hcounted := hinv.counted (by rw [hslot]; exact hs)
  have hcapped := hinv.capped (by rw [hslot]; exact hs)
  rw [hslot] at hcounted hcapped
  refine ⟨hcounted, hcapped, fun hzero now => ⟨⟨key, a.arc⟩, ?_⟩⟩
  have hmax := s.cb.limits.halfOpenMaxRequests.property
  have hinflight : a.breaker.halfOpenInflight = 0 := UInt32.toNat_inj.mp (hcounted.trans hzero)
  have hlt : ¬ s.cb.limits.halfOpenMaxRequests.val ≤ a.breaker.halfOpenInflight := by
    rw [hinflight, UInt32.not_le]
    exact UInt32.pos_iff_ne_zero.mpr hmax
  rw [s.cb.check_answer hkey, hslot]
  simp [BackendBreaker.check, hs, hlt]

/-- In every run in which no guard of an earlier half-open period is dropped while the breaker is
    half-open, the breaker counts its probes. -/
theorem inflight_counts_probes (config : CircuitBreakerConfig) (now : Instant) (id : Bytes)
    (ops : List ProbeOp) (hops : Run.RunOk (step id) (FreshDrop id) (init config now) ops) :
    CountsProbes id (Run.run (step id) (init config now) ops) := by
  cases hkey : (ArrayString.from? id : Option BackendId) with
  | none =>
    -- an id that does not fit the key type has no breaker
    intro key a hget
    simp [CircuitBreakers.get, hkey] at hget
  | some key =>
    exact (Run.run_invariant (step_inv hkey) (init_inv key config now) hops).countsProbes hkey

/-- One failure opens the circuit, it recovers at once, and `max` probes are let through. -/
def eagerConfig (max : NonZeroU32) : CircuitBreakerConfig :=
  { failureThreshold := ⟨1, by decide⟩, recoveryTimeoutSecs := 0, halfOpenMaxRequests := max }

/-- Two probes of one period, the first of them dropped: one is still counted. -/
theorem inflight_counts_two_probes :
    let id := Bytes.ascii "b1"
    let s := Run.run (step id) (init (eagerConfig ⟨2, by decide⟩) 0)
      [.recordFailure, .check, .check, .drop 1]
    s.cb.state id = .halfOpen ∧ s.current = 1 ∧ CountsProbes id s := by
  refine ⟨by decide, by decide,
    inflight_counts_probes _ _ _ _ ⟨trivial, trivial, trivial, ?_, trivial⟩⟩
  intro p hp _
  obtain rfl := Option.some.inj hp
  decide

/-- A guard of the first period is dropped in the second one, and then the second period's own
    guard: the counter wraps below zero with no guard live. -/
theorem stale_drop_miscounts :
    ¬ CountsProbes (Bytes.ascii "b1") (Run.run (step (Bytes.ascii "b1"))
      (init (eagerConfig ⟨1, by decide⟩) 0)
      [.recordFailure, .check, .recordFailure, .check, .drop 1, .drop 0]) := by
  intro h
  have hcount := (h ⟨Bytes.ascii "b1", by decide⟩
    ⟨0, { state := .halfOpen, consecutiveFailures := 1, halfOpenInflight := 4294967295
          openedAt := some 0 }⟩
    (by decide) rfl).1
  exact absurd hcount (by decide)

end ProbeRun

end Reduction
