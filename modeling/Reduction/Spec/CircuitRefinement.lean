import Reduction.Spec.CircuitProbes

/-!
# The breaker as an automaton

A breaker keeps its state in four cells.  `Automaton` is what the cells stand
for: a closed breaker with a count of failures, an open one with the time it
opened at, and a half-open one with its live probes.

Calls on many ids are taken one after the other, each of them whole, and callers
drop the guards they were handed when they like.  `Simulates` relates the cells
of one id and its live guards to the automaton of the id, which sees the calls
for this id only.

- `Refines.check`, `Refines.recordSuccess`, `Refines.recordFailure`,
  `Refines.drop`: one call on the cells and on the automaton
- `breaker_refines_automaton`: the answers and the state of every id are those of
  its automaton, if no guard outlives its half-open period into the next one
-/

namespace Reduction

open Run

/-! ## The automaton of one id -/

inductive Automaton where
  | closed (failures : Nat)
  | open (since : Instant)
  /-- The probes that are live, by the number of their guard. -/
  | halfOpen (probes : List Nat)
deriving DecidableEq

namespace Automaton

def state : Automaton → CircuitState
  | .closed _ => .closed
  | .open _ => .open
  | .halfOpen _ => .halfOpen

/-- A check, whose guard would get the number `guard`: the automaton after it, the answer, and
    whether the guard is handed out. -/
def check (limits : BreakerLimits) (now : Instant) (guard : Nat) :
    Automaton → Automaton × CircuitState × Bool
  | .closed failures => (.closed failures, .closed, false)
  | .open since =>
    if now - since < limits.recoveryTimeout then (.open since, .open, false)
    else (.halfOpen [guard], .halfOpen, true)
  | .halfOpen probes =>
    if probes.length < limits.halfOpenMaxRequests.val.toNat then
      (.halfOpen (guard :: probes), .halfOpen, true)
    else (.halfOpen probes, .open, false)

def recordSuccess : Automaton → Automaton
  | .closed _ => .closed 0
  | .open since => .open since
  | .halfOpen _ => .closed 0

def recordFailure (limits : BreakerLimits) (now : Instant) : Automaton → Automaton
  | .closed failures =>
    if failures + 1 = limits.failureThreshold.val.toNat then .open now else .closed (failures + 1)
  | .open since => .open since
  | .halfOpen _ => .open now

/-- A probe ends with its guard. -/
def drop (guard : Nat) : Automaton → Automaton
  | .halfOpen probes => .halfOpen (probes.erase guard)
  | a => a

end Automaton

/-- A call on one id; a guard is known by its number among those handed out for the id. -/
inductive BreakerCall where
  | check
  | recordSuccess
  | recordFailure
  | drop (guard : Nat)

/-- What the automaton of one id sees of a run. -/
inductive IdAction where
  | call (c : BreakerCall)
  | elapse (d : Duration)

/-- The automaton of an id, with the clock and the number of guards handed out. -/
structure Reference where
  automaton : Automaton
  now : Instant
  issued : Nat

namespace Reference

variable (limits : BreakerLimits)

def init (now : Instant) : Reference := { automaton := .closed 0, now, issued := 0 }

def step (r : Reference) : IdAction → Reference
  | .call .check =>
    let (automaton, _, issued) := r.automaton.check limits r.now r.issued
    { r with automaton, issued := if issued then r.issued + 1 else r.issued }
  | .call .recordSuccess => { r with automaton := r.automaton.recordSuccess }
  | .call .recordFailure => { r with automaton := r.automaton.recordFailure limits r.now }
  | .call (.drop guard) => { r with automaton := r.automaton.drop guard }
  | .elapse d => { r with now := r.now + d }

/-- The answer to a check, with the number of the guard. -/
def answer (r : Reference) : IdAction → List (CircuitState × Option Nat)
  | .call .check =>
    let (_, answer, issued) := r.automaton.check limits r.now r.issued
    [(answer, if issued then some r.issued else none)]
  | _ => []

end Reference

/-! ## Runs over many ids -/

inductive BreakerAction where
  | call (id : BackendId) (c : BreakerCall)
  | elapse (d : Duration)

/-- The part of a run that the automaton of `id` sees. -/
def BreakerAction.seenBy (id : BackendId) : BreakerAction → Option IdAction
  | .call id' c => if id' = id then some (.call c) else none
  | .elapse d => some (.elapse d)

/-- The breakers, and for each id the guards that were handed out, until they are dropped. -/
structure BreakerRun where
  cb : CircuitBreakers
  now : Instant
  guards : BackendId → List (Option HalfOpenGuard)

namespace BreakerRun

def init (config : CircuitBreakerConfig) (now : Instant) : BreakerRun :=
  { cb := .new config, now, guards := fun _ => [] }

/-- Keep the guard that a `check` for `id` handed out. -/
def keep (s : BreakerRun) (id : BackendId) : Option HalfOpenGuard → BreakerRun
  | some g => { s with guards := Function.update s.guards id (s.guards id ++ [some g]) }
  | none => s

@[simp] theorem keep_cb (s : BreakerRun) (id : BackendId) (guard : Option HalfOpenGuard) :
    (s.keep id guard).cb = s.cb := by
  cases guard <;> rfl

def step (s : BreakerRun) : BreakerAction → BreakerRun
  | .call id .check =>
    let (cb, _, guard) := s.cb.check id.bytes s.now
    { s with cb }.keep id guard
  | .call id .recordSuccess => { s with cb := s.cb.recordSuccess id.bytes }
  | .call id .recordFailure => { s with cb := s.cb.recordFailure id.bytes s.now }
  | .call id (.drop i) =>
    match (s.guards id)[i]? with
    | some (some g) =>
      { s with
        cb := s.cb.dropGuard g
        guards := Function.update s.guards id ((s.guards id).set i none) }
    | _ => s
  | .elapse d => { s with now := s.now + d }

/-- The answers to checks for `id`, with the number of the guard. -/
def answer (id : BackendId) (s : BreakerRun) : BreakerAction → List (CircuitState × Option Nat)
  | .call id' .check =>
    if id' = id then
      let (_, answer, guard) := s.cb.check id.bytes s.now
      [(answer, guard.map fun _ => (s.guards id).length)]
    else []
  | _ => []

/-- When the call begins a half-open period of its id, no guard of the id is live. -/
def NoStaleGuard (s : BreakerRun) : BreakerAction → Prop
  | .call id c =>
    s.cb.state id.bytes ≠ .halfOpen → (s.step (.call id c)).cb.state id.bytes = .halfOpen →
      ∀ g ∈ s.guards id, g = none
  | .elapse _ => True

instance (s : BreakerRun) (a : BreakerAction) : Decidable (s.NoStaleGuard a) := by
  unfold NoStaleGuard
  split <;> infer_instance

end BreakerRun

/-! ## The cells and the automaton -/

/-- The cells of a breaker stand for the automaton, where `live` are the numbers of the guards that
    are not dropped yet. -/
def Refines (limits : BreakerLimits) (live : Nat → Prop) (b : BackendBreaker) : Automaton → Prop
  | .closed failures =>
    b.state = .closed ∧ b.consecutiveFailures.toNat = failures ∧
      failures < limits.failureThreshold.val.toNat
  | .open since => b.state = .open ∧ b.openedAt = some since
  | .halfOpen probes =>
    b.state = .halfOpen ∧ b.halfOpenInflight.toNat = probes.length ∧
      probes.length ≤ limits.halfOpenMaxRequests.val.toNat ∧ probes.Nodup ∧
      ∀ n, n ∈ probes ↔ live n

namespace Refines

variable {limits : BreakerLimits} {live : Nat → Prop} {b : BackendBreaker} {a : Automaton}

theorem state_eq (h : Refines limits live b a) : b.state = a.state := by
  cases a with
  | closed failures => exact h.1
  | «open» since => exact h.1
  | halfOpen probes => exact h.1

theorem new (limits : BreakerLimits) : Refines limits live .new (.closed 0) :=
  ⟨rfl, rfl, limits.failureThreshold.toNat_pos⟩

/-- Below a limit that is itself a `u32`, an increment does not wrap. -/
theorem toNat_succ {n max : UInt32} (h : n.toNat < max.toNat) : (n + 1).toNat = n.toNat + 1 := by
  have hbound := max.toNat_lt
  rw [UInt32.toNat_add, UInt32.toNat_one, Nat.mod_eq_of_lt (by omega)]

variable {guard : Nat}

/-- The answer and the guard of a check are those of the automaton.  With a new half-open period
    no other guard may be live. -/
theorem check (h : Refines limits live b a) {now : Instant} (hguard : ¬ live guard)
    (hfresh : b.state ≠ .halfOpen → (b.check limits now).1.state = .halfOpen → ∀ n, ¬ live n) :
    (b.check limits now).2 = (a.check limits now guard).2 ∧
      Refines limits (fun n => live n ∨ (n = guard ∧ (b.check limits now).2.2 = true))
        (b.check limits now).1 (a.check limits now guard).1 := by
  cases a with
  | closed failures =>
    have hcheck : b.check limits now = (b, .closed, false) := by simp [BackendBreaker.check, h.1]
    rw [hcheck]
    exact ⟨rfl, h⟩
  | «open» since =>
    obtain ⟨hstate, hsince⟩ := h
    have hshould : b.shouldTransition limits now = decide (limits.recoveryTimeout ≤ now - since) := by
      rw [BackendBreaker.shouldTransition, hsince]
    by_cases helapsed : now - since < limits.recoveryTimeout
    · have hcheck : b.check limits now = (b, .open, false) := by
        simp [BackendBreaker.check, hstate, hshould, helapsed]
      rw [hcheck, Automaton.check, if_pos helapsed]
      exact ⟨rfl, hstate, hsince⟩
    · have hcheck : b.check limits now =
          ({ b with halfOpenInflight := 1, state := .halfOpen }, .halfOpen, true) := by
        simp [BackendBreaker.check, hstate, hshould, Nat.le_of_not_lt helapsed]
      have hnone := hfresh (by rw [hstate]; decide) (by rw [hcheck])
      have hmax : 1 ≤ limits.halfOpenMaxRequests.val.toNat := limits.halfOpenMaxRequests.toNat_pos
      rw [hcheck, Automaton.check, if_neg helapsed]
      refine ⟨rfl, rfl, rfl, hmax, List.nodup_singleton _, ?_⟩
      intro n
      simp [hnone n]
  | halfOpen probes =>
    obtain ⟨hstate, hcount, hcap, hnodup, hlive⟩ := h
    by_cases hroom : probes.length < limits.halfOpenMaxRequests.val.toNat
    · have hlt : ¬ limits.halfOpenMaxRequests.val ≤ b.halfOpenInflight := by
        rw [UInt32.le_iff_toNat_le, hcount]
        omega
      have hcheck : b.check limits now =
          ({ b with halfOpenInflight := b.halfOpenInflight + 1 }, .halfOpen, true) := by
        simp [BackendBreaker.check, hstate, hlt]
      have hnew : guard ∉ probes := fun hmem => hguard ((hlive guard).mp hmem)
      have hadd := toNat_succ (hcount.symm ▸ hroom)
      rw [hcheck, Automaton.check, if_pos hroom]
      refine ⟨rfl, hstate, ?_, hroom, List.nodup_cons.mpr ⟨hnew, hnodup⟩, ?_⟩
      · rw [hadd, hcount, List.length_cons]
      · intro n
        rw [List.mem_cons, hlive n, or_comm]
        simp
    · have hle : limits.halfOpenMaxRequests.val ≤ b.halfOpenInflight := by
        rw [UInt32.le_iff_toNat_le, hcount]
        omega
      have hcheck : b.check limits now = (b, .open, false) := by
        rcases b.check_cases limits now with ⟨hs, _⟩ | ⟨hs, _⟩ | ⟨hs, _⟩ | ⟨_, _, heq⟩ | ⟨_, hlt, _⟩
        · rw [hstate] at hs
          cases hs
        · rw [hstate] at hs
          cases hs
        · rw [hstate] at hs
          cases hs
        · exact heq
        · exact absurd hle (UInt32.not_le.mpr hlt)
      rw [hcheck, Automaton.check, if_neg hroom]
      refine ⟨rfl, hstate, hcount, hcap, hnodup, ?_⟩
      intro n
      rw [hlive n]
      simp

theorem recordSuccess (h : Refines limits live b a) :
    Refines limits live b.recordSuccess a.recordSuccess := by
  have hpos := limits.failureThreshold.toNat_pos
  cases a with
  | closed failures =>
    rw [BackendBreaker.recordSuccess, h.1]
    exact ⟨rfl, rfl, hpos⟩
  | «open» since =>
    rw [BackendBreaker.recordSuccess, h.1]
    exact h
  | halfOpen probes =>
    rw [BackendBreaker.recordSuccess, h.1]
    exact ⟨rfl, rfl, hpos⟩

theorem recordFailure (h : Refines limits live b a) (now : Instant) :
    Refines limits live (b.recordFailure limits now) (a.recordFailure limits now) := by
  cases a with
  | closed failures =>
    obtain ⟨hstate, hcount, hlt⟩ := h
    have hadd := toNat_succ (hcount.symm ▸ hlt)
    rw [hcount] at hadd
    by_cases hreached : failures + 1 = limits.failureThreshold.val.toNat
    · have hge : limits.failureThreshold.val ≤ b.consecutiveFailures + 1 := by
        rw [UInt32.le_iff_toNat_le, hadd]
        omega
      simp only [BackendBreaker.recordFailure, hstate, ge_iff_le, if_pos hge,
        Automaton.recordFailure, if_pos hreached]
      exact ⟨rfl, rfl⟩
    · have hlt' : ¬ limits.failureThreshold.val ≤ b.consecutiveFailures + 1 := by
        rw [UInt32.le_iff_toNat_le, hadd]
        omega
      simp only [BackendBreaker.recordFailure, hstate, ge_iff_le, if_neg hlt',
        Automaton.recordFailure, if_neg hreached]
      exact ⟨rfl, hadd, by omega⟩
  | «open» since =>
    rw [BackendBreaker.recordFailure, h.1]
    exact h
  | halfOpen probes =>
    rw [BackendBreaker.recordFailure, h.1]
    exact ⟨rfl, rfl⟩

/-- The probe of a live guard is one of those that are counted. -/
theorem drop (h : Refines limits live b a) (hguard : live guard) :
    Refines limits (fun n => live n ∧ n ≠ guard) b.dropGuard (a.drop guard) := by
  cases a with
  | closed failures =>
    rw [BackendBreaker.dropGuard, h.1]
    exact h
  | «open» since =>
    rw [BackendBreaker.dropGuard, h.1]
    exact h
  | halfOpen probes =>
    obtain ⟨hstate, hcount, hcap, hnodup, hlive⟩ := h
    have hmem : guard ∈ probes := (hlive guard).mpr hguard
    have hlen := List.length_erase_of_mem hmem
    have hpos := List.length_pos_of_mem hmem
    have hsub : (b.halfOpenInflight - 1).toNat = b.halfOpenInflight.toNat - 1 := by
      rw [UInt32.toNat_sub_of_le _ _ (by rw [UInt32.le_iff_toNat_le, UInt32.toNat_one]; omega)]
      rfl
    rw [BackendBreaker.dropGuard, if_pos hstate]
    refine ⟨hstate, ?_, ?_, hnodup.erase guard, ?_⟩
    · rw [hsub, hcount, hlen]
    · omega
    · intro n
      rw [hnodup.mem_erase_iff, hlive n, and_comm]

theorem congr_live {live' : Nat → Prop} (h : Refines limits live b a)
    (heq : ∀ n, live n ↔ live' n) : Refines limits live' b a := by
  have hlive : live = live' := funext fun n => propext (heq n)
  rw [← hlive]
  exact h

end Refines

/-! ## One action -/

/-- The breaker of `id` and its guards stand for the automaton of `id`. -/
structure Simulates (id : BackendId) (s : BreakerRun) (r : Reference) : Prop where
  now : r.now = s.now
  issued : r.issued = (s.guards id).length
  /-- A live guard points at the breaker that is in the map. -/
  own : ∀ g, some g ∈ s.guards id → ∃ a, s.cb.breakers.lookup id = some a ∧ g = ⟨id, a.arc⟩
  cells : Refines s.cb.limits (fun n => ∃ g, (s.guards id)[n]? = some (some g))
    (s.cb.slot id).breaker r.automaton

namespace Simulates

variable {id : BackendId} {s : BreakerRun} {r : Reference}

theorem init (id : BackendId) (config : CircuitBreakerConfig) (now : Instant) :
    Simulates id (.init config now) (.init now) :=
  ⟨rfl, rfl, (fun g hg => by cases hg), .new _⟩

theorem state_eq (h : Simulates id s r) : s.cb.state id.bytes = r.automaton.state := by
  rw [s.cb.state_eq_slot (ArrayString.from?_bytes id), h.cells.state_eq]

/-- A call for another id leaves the breaker of `id` as it is. -/
theorem frame (h : Simulates id s r) {s' : BreakerRun} (hnow : s'.now = s.now)
    (hguards : s'.guards id = s.guards id) (hlimits : s'.cb.limits = s.cb.limits)
    (hlookup : s'.cb.breakers.lookup id = s.cb.breakers.lookup id) : Simulates id s' r := by
  refine ⟨h.now.trans hnow.symm, ?_, ?_, ?_⟩
  · rw [hguards]
    exact h.issued
  · rw [hguards, hlookup]
    exact h.own
  · rw [hguards, hlimits, CircuitBreakers.slot_breaker_congr hlookup]
    exact h.cells

theorem other (h : Simulates id s r) {id' : BackendId} (hne : id ≠ id') (c : BreakerCall)
    (hown : ∀ g, some g ∈ s.guards id' → g.backendId = id') :
    Simulates id (s.step (.call id' c)) r := by
  cases c with
  | check =>
    have hlookup := s.cb.lookup_check_ne hne s.now
    have hlimits := @CircuitBreakers.check_limits s.cb id' s.now
    show Simulates id (BreakerRun.keep _ id' (s.cb.check id'.bytes s.now).2.2) r
    cases (s.cb.check id'.bytes s.now).2.2 with
    | none => exact h.frame rfl rfl hlimits hlookup
    | some g => exact h.frame rfl (Function.update_of_ne hne _ _) hlimits hlookup
  | recordSuccess =>
    exact h.frame rfl rfl s.cb.recordSuccess_limits (s.cb.lookup_recordSuccess_ne hne)
  | recordFailure =>
    exact h.frame rfl rfl (s.cb.recordFailure_limits s.now) (s.cb.lookup_recordFailure_ne hne s.now)
  | drop i =>
    simp only [BreakerRun.step]
    split
    · rename_i g hg
      have hid := hown g (List.mem_of_getElem? hg)
      exact h.frame rfl (Function.update_of_ne hne _ _) (s.cb.dropGuard_limits g)
        (s.cb.lookup_dropGuard_ne (hid ▸ hne))
    · exact h

/-- The number of the next guard is the number of none. -/
theorem not_live_issued (h : Simulates id s r) :
    ¬ ∃ g, (s.guards id)[r.issued]? = some (some g) := by
  rintro ⟨g, hg⟩
  rw [h.issued, List.getElem?_eq_none (Nat.le_refl _)] at hg
  cases hg

/-- The breaker of `id` has changed, and a guard may have been handed out. -/
theorem keep (h : Simulates id s r) {cb : CircuitBreakers} {b : BackendBreaker} {a : Automaton}
    {issued : Bool} (hlookup : cb.breakers.lookup id = some ⟨(s.cb.slot id).arc, b⟩)
    (hlimits : cb.limits = s.cb.limits)
    (hcells : Refines s.cb.limits
      (fun n => (∃ g, (s.guards id)[n]? = some (some g)) ∨ (n = r.issued ∧ issued = true)) b a) :
    Simulates id
      (BreakerRun.keep { s with cb } id (if issued then some ⟨id, (s.cb.slot id).arc⟩ else none))
      { automaton := a, now := r.now, issued := if issued then r.issued + 1 else r.issued } := by
  have hown : ∀ g, some g ∈ s.guards id → g = ⟨id, (s.cb.slot id).arc⟩ := by
    intro g hg
    obtain ⟨a, ha, rfl⟩ := h.own g hg
    rw [s.cb.slot_of_lookup ha]
  have hslot := cb.slot_of_lookup hlookup
  cases issued with
  | false =>
    refine ⟨h.now, h.issued, fun g hg => ⟨_, hlookup, hown g hg⟩, ?_⟩
    show Refines cb.limits (fun n => ∃ g, (s.guards id)[n]? = some (some g)) (cb.slot id).breaker a
    rw [hlimits, hslot]
    exact hcells.congr_live fun n => by simp
  | true =>
    have hguards : (BreakerRun.keep { s with cb } id (some ⟨id, (s.cb.slot id).arc⟩)).guards id =
        s.guards id ++ [some ⟨id, (s.cb.slot id).arc⟩] := Function.update_self _ _ _
    refine ⟨h.now, ?_, ?_, ?_⟩
    · show r.issued + 1 = _
      rw [if_pos rfl, hguards, List.length_append, h.issued]
      rfl
    · intro g hg
      rw [if_pos rfl, hguards, List.mem_append, List.mem_singleton] at hg
      refine ⟨_, hlookup, ?_⟩
      cases hg with
      | inl hold => exact hown g hold
      | inr hnew => exact Option.some.inj hnew
    · rw [if_pos rfl, hguards]
      show Refines cb.limits _ (cb.slot id).breaker a
      rw [hlimits, hslot]
      apply hcells.congr_live
      intro n
      rw [h.issued]
      -- the new guard stands right behind the old ones
      rcases Nat.lt_trichotomy n (s.guards id).length with hlt | heq | hgt
      · rw [List.getElem?_append_left hlt]
        simp [Nat.ne_of_lt hlt]
      · subst heq
        simp
      · have hlen : (s.guards id ++ [some (⟨id, (s.cb.slot id).arc⟩ : HalfOpenGuard)]).length ≤ n := by
          rw [List.length_append, List.length_singleton]
          exact hgt
        rw [List.getElem?_eq_none hlen, List.getElem?_eq_none (Nat.le_of_lt hgt)]
        simp [Nat.ne_of_gt hgt]

theorem state_check (id : BackendId) (s : BreakerRun) :
    (s.step (.call id .check)).cb.state id.bytes =
      ((s.cb.slot id).breaker.check s.cb.limits s.now).1.state := by
  rw [BreakerRun.step, BreakerRun.keep_cb,
    CircuitBreakers.state_eq_slot _ (ArrayString.from?_bytes id), s.cb.slot_breaker_check]

theorem check (h : Simulates id s r) (hok : s.NoStaleGuard (.call id .check)) :
    Simulates id (s.step (.call id .check)) (r.step s.cb.limits (.call .check)) ∧
      s.answer id (.call id .check) = r.answer s.cb.limits (.call .check) := by
  have hkey := ArrayString.from?_bytes id
  have hanswer := s.cb.check_answer hkey s.now
  -- a new half-open period begins without a live guard
  have hfresh : (s.cb.slot id).breaker.state ≠ .halfOpen →
      ((s.cb.slot id).breaker.check s.cb.limits s.now).1.state = .halfOpen →
      ∀ n : Nat, ¬ ∃ g, (s.guards id)[n]? = some (some g) := by
    rintro hbefore hafter n ⟨g, hg⟩
    have hnone := hok (by rwa [s.cb.state_eq_slot hkey]) (by rwa [state_check]) (some g)
      (List.mem_of_getElem? hg)
    cases hnone
  obtain ⟨hsame, hcells⟩ := h.cells.check h.not_live_issued hfresh
  rw [hsame] at hanswer hcells
  have hsim := h.keep (s.cb.lookup_check hkey s.now) (s.cb.check_limits s.now) hcells
  rw [← h.now] at hsim hanswer
  constructor
  · show Simulates id (BreakerRun.keep _ id (s.cb.check id.bytes s.now).2.2) _
    rw [← h.now, hanswer]
    exact hsim
  · simp only [BreakerRun.answer, if_pos, Reference.answer, ← h.now, hanswer, ← h.issued]
    split <;> rfl

theorem recordSuccess (h : Simulates id s r) :
    Simulates id (s.step (.call id .recordSuccess)) (r.step s.cb.limits (.call .recordSuccess)) := by
  have hlookup := s.cb.lookup_recordSuccess (ArrayString.from?_bytes id)
  refine ⟨h.now, h.issued, ?_, ?_⟩
  · intro g hg
    obtain ⟨a, ha, rfl⟩ := h.own g hg
    rw [ha, Option.map_some] at hlookup
    exact ⟨_, hlookup, rfl⟩
  · show Refines (s.cb.recordSuccess id.bytes).limits _ _ r.automaton.recordSuccess
    rw [s.cb.recordSuccess_limits, BreakerRun.step, s.cb.slot_breaker_recordSuccess]
    exact h.cells.recordSuccess

theorem recordFailure (h : Simulates id s r) :
    Simulates id (s.step (.call id .recordFailure)) (r.step s.cb.limits (.call .recordFailure)) := by
  have hlookup := s.cb.lookup_recordFailure (ArrayString.from?_bytes id) s.now
  refine ⟨h.now, h.issued, ?_, ?_⟩
  · intro g hg
    obtain ⟨a, ha, rfl⟩ := h.own g hg
    refine ⟨_, hlookup, ?_⟩
    rw [s.cb.slot_of_lookup ha]
  · show Refines (s.cb.recordFailure id.bytes s.now).limits _ _ _
    rw [s.cb.recordFailure_limits, BreakerRun.step, s.cb.slot_breaker_recordFailure, ← h.now]
    exact h.cells.recordFailure r.now

theorem drop (h : Simulates id s r) (i : Nat) :
    Simulates id (s.step (.call id (.drop i))) (r.step s.cb.limits (.call (.drop i))) := by
  simp only [BreakerRun.step, Reference.step]
  split
  · rename_i g hg
    obtain ⟨a, ha, rfl⟩ := h.own g (List.mem_of_getElem? hg)
    have hlookup := s.cb.lookup_dropGuard ha
    have hguards : Function.update s.guards id ((s.guards id).set i none) id =
        (s.guards id).set i none := Function.update_self _ _ _
    refine ⟨h.now, ?_, ?_, ?_⟩
    · show r.issued = (Function.update s.guards id _ id).length
      rw [hguards, List.length_set]
      exact h.issued
    · intro g (hg : some g ∈ Function.update s.guards id _ id)
      rw [hguards] at hg
      obtain ⟨a', ha', rfl⟩ := h.own g
        ((List.mem_or_eq_of_mem_set hg).resolve_right (by simp))
      cases ha.symm.trans ha'
      exact ⟨_, hlookup, rfl⟩
    · have hcells := h.cells.drop ⟨_, hg⟩
      rw [s.cb.slot_of_lookup ha] at hcells
      show Refines (s.cb.dropGuard _).limits
        (fun n => ∃ g, (Function.update s.guards id _ id)[n]? = some (some g))
        ((s.cb.dropGuard _).slot id).breaker _
      rw [s.cb.dropGuard_limits, CircuitBreakers.slot_of_lookup _ hlookup, hguards]
      apply hcells.congr_live
      intro n
      rw [List.getElem?_set]
      by_cases hn : i = n
      · subst hn
        simp
      · simp [hn, Ne.symm hn]
  · rename_i hdead
    refine ⟨h.now, h.issued, h.own, ?_⟩
    -- a guard that is not live is no probe
    have hcells := h.cells
    cases hauto : r.automaton with
    | closed failures =>
      rw [hauto] at hcells
      exact hcells
    | «open» since =>
      rw [hauto] at hcells
      exact hcells
    | halfOpen probes =>
      rw [hauto] at hcells
      have hnot : i ∉ probes := by
        intro hmem
        obtain ⟨g, hg⟩ := (hcells.2.2.2.2 i).mp hmem
        exact hdead g hg
      rw [Automaton.drop, List.erase_of_not_mem hnot]
      exact hcells

end Simulates

/-! ## Whole runs -/

variable {s : BreakerRun} {r : BackendId → Reference}

/-- One action on the breakers is one on each automaton that sees it. -/
theorem simulates_step (h : ∀ id, Simulates id s (r id)) {a : BreakerAction}
    (hok : s.NoStaleGuard a) (id : BackendId) :
    Simulates id (s.step a) ((a.seenBy id).elim (r id) ((r id).step s.cb.limits)) ∧
      s.answer id a = (a.seenBy id).elim [] ((r id).answer s.cb.limits) := by
  cases a with
  | elapse d =>
    refine ⟨⟨?_, (h id).issued, (h id).own, (h id).cells⟩, rfl⟩
    show (r id).now + d = s.now + d
    rw [(h id).now]
  | call id' c =>
    by_cases hid : id' = id
    · subst hid
      simp only [BreakerAction.seenBy, if_pos, Option.elim_some]
      cases c with
      | check => exact (h id').check hok
      | recordSuccess => exact ⟨(h id').recordSuccess, rfl⟩
      | recordFailure => exact ⟨(h id').recordFailure, rfl⟩
      | drop i => exact ⟨(h id').drop i, rfl⟩
    · have hown : ∀ g, some g ∈ s.guards id' → g.backendId = id' := by
        intro g hg
        obtain ⟨a, -, rfl⟩ := (h id').own g hg
        rfl
      simp only [BreakerAction.seenBy, if_neg hid, Option.elim_none]
      refine ⟨(h id).other (Ne.symm hid) c hown, ?_⟩
      cases c with
      | check => simp [BreakerRun.answer, hid]
      | recordSuccess => rfl
      | recordFailure => rfl
      | drop i => rfl

theorem limits_step (s : BreakerRun) (a : BreakerAction) : (s.step a).cb.limits = s.cb.limits := by
  cases a with
  | elapse d => rfl
  | call id c =>
    cases c with
    | check =>
      rw [BreakerRun.step, BreakerRun.keep_cb]
      exact s.cb.check_limits s.now
    | recordSuccess => exact s.cb.recordSuccess_limits
    | recordFailure => exact s.cb.recordFailure_limits s.now
    | drop i =>
      simp only [BreakerRun.step]
      split
      · exact s.cb.dropGuard_limits _
      · rfl

theorem simulates_run {limits : BreakerLimits} (hlimits : s.cb.limits = limits)
    (h : ∀ id, Simulates id s (r id)) {as : List BreakerAction}
    (hok : RunOk BreakerRun.step BreakerRun.NoStaleGuard s as) (id : BackendId) :
    Simulates id (run BreakerRun.step s as)
        (run (Reference.step limits) (r id) (as.filterMap (·.seenBy id))) ∧
      emitted BreakerRun.step (BreakerRun.answer id) s as =
        emitted (Reference.step limits) (Reference.answer limits) (r id)
          (as.filterMap (·.seenBy id)) := by
  -- all ids together, since a call for one of them must leave the others alone
  induction as generalizing s r with
  | nil => exact ⟨h id, rfl⟩
  | cons a as ih =>
    have hstep := simulates_step h hok.1
    rw [hlimits] at hstep
    obtain ⟨hsim, hanswers⟩ := ih ((limits_step s a).trans hlimits) (fun id => (hstep id).1) hok.2
    rw [run_cons, emitted, (hstep id).2, List.filterMap_cons]
    cases hseen : a.seenBy id with
    | none =>
      rw [hseen] at hsim hanswers
      exact ⟨hsim, hanswers⟩
    | some x =>
      rw [hseen] at hsim hanswers
      exact ⟨hsim, by rw [hanswers]; rfl⟩

/-- For every id, the answers to its checks and its state are those of its automaton, which sees the
    calls for this id only, in every run in which no guard of the id is live when a half-open period
    of the id begins. -/
theorem breaker_refines_automaton (config : CircuitBreakerConfig) (now : Instant)
    (as : List BreakerAction)
    (hok : RunOk BreakerRun.step BreakerRun.NoStaleGuard (.init config now) as) (id : BackendId) :
    let limits := (CircuitBreakers.new config).limits
    let seen := as.filterMap (·.seenBy id)
    emitted BreakerRun.step (BreakerRun.answer id) (.init config now) as =
        emitted (Reference.step limits) (Reference.answer limits) (.init now) seen ∧
      (run BreakerRun.step (.init config now) as).cb.state id.bytes =
        (run (Reference.step limits) (.init now) seen).automaton.state := by
  obtain ⟨hsim, hanswers⟩ :=
    simulates_run rfl (fun id => Simulates.init id config now) hok id
  exact ⟨hanswers, hsim.state_eq⟩

namespace Sample

def firstId : BackendId := ⟨Bytes.ascii "first", by decide⟩

def secondId : BackendId := ⟨Bytes.ascii "second", by decide⟩

/-- The circuit of one backend opens, is probed, opens again and is closed by the second probe, while
    another backend fails once. -/
def twoPeriods : List BreakerAction :=
  [.call firstId .recordFailure, .call secondId .recordFailure, .call firstId .check, .elapse 1,
    .call firstId .check, .call firstId .check, .call firstId .recordFailure,
    .call firstId (.drop 0), .call firstId .check, .call firstId .recordSuccess,
    .call secondId .check]

end Sample

/-- Both periods of the sample run begin without a live guard. -/
theorem two_periods_refine_automaton :
    let config := ProbeRun.eagerConfig ⟨1, by decide⟩
    RunOk BreakerRun.step BreakerRun.NoStaleGuard (.init config 0) Sample.twoPeriods ∧
      emitted BreakerRun.step (BreakerRun.answer Sample.firstId) (.init config 0)
          Sample.twoPeriods =
        [(.halfOpen, some 0), (.open, none), (.open, none), (.halfOpen, some 1)] ∧
      ∀ id, (run BreakerRun.step (.init config 0) Sample.twoPeriods).cb.state id.bytes =
        (run (Reference.step (CircuitBreakers.new config).limits) (.init 0)
          (Sample.twoPeriods.filterMap (·.seenBy id))).automaton.state := by
  intro config
  have hok : RunOk BreakerRun.step BreakerRun.NoStaleGuard (.init config 0) Sample.twoPeriods := by
    decide +kernel
  refine ⟨hok, by decide +kernel, ?_⟩
  intro id
  exact (breaker_refines_automaton config 0 Sample.twoPeriods hok id).2

end Reduction
