import Reduction.ForStd.Interleaving
import Reduction.Native.CircuitSteps
import Reduction.Spec.CircuitProbes

/-!
# Circuit breakers under concurrency

A call of a breaker is a sequence of loads and stores, and the steps of other
calls fall between them.  A call that has loaded the state acts on it later, when
it may have changed: a success can clear the `opened_at` that a failure has just
set, two checks can both make the breaker half-open, and a guard can be counted
down in a period it does not belong to.

`Timely` says which steps do not come too late.  In a run of such steps, an open
breaker knows since when (`Stamped`) and a half-open one counts the guards of its
period (`Counted`), whatever the order of the steps is otherwise.

- `timely_breaker_sound`: the result for runs of timely steps;
- `late_steps_break_breaker`: runs with steps that come too late;
- `serial_calls_are_whole`: calls that do not overlap are those of `Native.Circuit`.
-/

namespace Reduction

open Run Interleaving

/-! ## What a call is about to do -/

/-- What other calls have to know of a call in progress. -/
inductive BreakerRole where
  | none
  /-- About to make the breaker half-open, with the count of its first guard stored. -/
  | opening
  /-- About to give back a place of the period. -/
  | owing (period : Nat)
  /-- About to end the period, with the count set to zero. -/
  | closing (period : Nat)
  /-- About to clear `opened_at`, with the breaker closed. -/
  | clearing
  /-- About to set `opened_at`, with the breaker opened. -/
  | stamping
deriving DecidableEq

namespace BreakerPc

def role : BreakerPc → BreakerRole
  | .checkStoreState => .opening
  | .checkFetchSub p | .dropFetchSub p | .dropLoad p => .owing p
  | .successState p | .failureReopen p => .closing p
  | .successOpenedAt => .clearing
  | .failureOpenedAt => .stamping
  | _ => .none

/-- The period that a call has seen. -/
def since : BreakerPc → Nat
  | .checkFetchAdd p | .checkFetchSub p | .successFailures p | .successInflight p
  | .successState p | .failureInflight p | .failureReopen p | .dropLoad p | .dropFetchSub p => p
  | _ => 0

variable {pc : BreakerPc}

theorem since_of_role {p : Nat} (h : pc.role = .owing p ∨ pc.role = .closing p) : pc.since = p := by
  cases pc <;> rcases h with h | h <;> cases h <;> rfl

/-- A call sees the period of its load. -/
theorem since_exec {limits : BreakerLimits} {b : BackendBreaker} {period : Nat} {now : Instant}
    (h : pc.since ≤ period) : (pc.exec limits b period now).2.1.since ≤ period := by
  cases pc <;> simp only [exec] <;> (repeat' split) <;>
    first | exact h | exact Nat.zero_le _ | exact le_rfl

/-- What the steps of a call do to the cells that matter, and which roles they lead to. -/
inductive Does (limits : BreakerLimits) (b : BackendBreaker) (period : Nat) (now : Instant) :
    BreakerPc → BackendBreaker × BreakerPc × Bool → Prop
  | plain {pc pc' : BreakerPc} {b' : BackendBreaker} (state_eq : b'.state = b.state)
      (inflight_eq : b'.halfOpenInflight = b.halfOpenInflight)
      (openedAt_eq : b'.openedAt = b.openedAt)
      (role_eq : pc.role = .none) (role_eq' : pc'.role = .none) :
      Does limits b period now pc (b', pc', false)
  | storeInflight :
      Does limits b period now .checkStoreInflight
        ({ b with halfOpenInflight := 1 }, .checkStoreState, false)
  | halfOpen :
      Does limits b period now .checkStoreState ({ b with state := .halfOpen }, .done, true)
  | place {p : Nat} (room : b.halfOpenInflight < limits.halfOpenMaxRequests.val) :
      Does limits b period now (.checkFetchAdd p)
        ({ b with halfOpenInflight := b.halfOpenInflight + 1 }, .done, true)
  | refused {p : Nat} :
      Does limits b period now (.checkFetchAdd p)
        ({ b with halfOpenInflight := b.halfOpenInflight + 1 }, .checkFetchSub p, false)
  | giveBack {pc : BreakerPc} {p : Nat} (pc_eq : pc = .checkFetchSub p ∨ pc = .dropFetchSub p)
      (role_eq : pc.role = .owing p) :
      Does limits b period now pc
        ({ b with halfOpenInflight := b.halfOpenInflight - 1 }, .done, false)
  | reset {pc pc' : BreakerPc} {p : Nat}
      (pc_eq : pc = .successInflight p ∨ pc = .failureInflight p) (role_eq : pc.role = .none)
      (role_eq' : pc'.role = .closing p) :
      Does limits b period now pc ({ b with halfOpenInflight := 0 }, pc', false)
  | close {p : Nat} :
      Does limits b period now (.successState p)
        ({ b with state := .closed }, .successOpenedAt, false)
  | reopen {pc : BreakerPc} (role_ne : pc.role ≠ .stamping) :
      Does limits b period now pc ({ b with state := .open }, .failureOpenedAt, false)
  | clear : Does limits b period now .successOpenedAt ({ b with openedAt := none }, .done, false)
  | stamp :
      Does limits b period now .failureOpenedAt ({ b with openedAt := some now }, .done, false)
  | dropSeen {g : Nat} (half_open : b.state = .halfOpen) :
      Does limits b period now (.dropLoad g) (b, .dropFetchSub period, false)
  | dropOver {g : Nat} (not_half_open : b.state ≠ .halfOpen) :
      Does limits b period now (.dropLoad g) (b, .done, false)

theorem does (limits : BreakerLimits) (b : BackendBreaker) (period : Nat) (now : Instant)
    (pc : BreakerPc) : Does limits b period now pc (pc.exec limits b period now) := by
  cases pc with
  | done => exact .plain rfl rfl rfl rfl rfl
  | checkLoad => dsimp only [exec]; split <;> exact .plain rfl rfl rfl rfl rfl
  | checkOpenedAt => dsimp only [exec]; split <;> exact .plain rfl rfl rfl rfl rfl
  | checkStoreInflight => exact .storeInflight
  | checkStoreState => exact .halfOpen
  | checkFetchAdd p =>
    dsimp only [exec]
    split
    · exact .refused
    · rename_i hroom
      exact .place (UInt32.not_le.mp hroom)
  | checkFetchSub p => exact .giveBack (.inl rfl) rfl
  | successLoad => dsimp only [exec]; split <;> exact .plain rfl rfl rfl rfl rfl
  | successFailures p => exact .plain rfl rfl rfl rfl rfl
  | successInflight p => exact .reset (.inl rfl) rfl rfl
  | successState p => exact .close
  | successOpenedAt => exact .clear
  | successReset => exact .plain rfl rfl rfl rfl rfl
  | failureLoad => dsimp only [exec]; split <;> exact .plain rfl rfl rfl rfl rfl
  | failureFetchAdd => dsimp only [exec]; split <;> exact .plain rfl rfl rfl rfl rfl
  | failureOpen => exact .reopen (fun h => by cases h)
  | failureOpenedAt => exact .stamp
  | failureInflight p => exact .reset (.inr rfl) rfl rfl
  | failureReopen p => exact .reopen (fun h => by cases h)
  | dropLoad g =>
    dsimp only [exec]
    split
    · rename_i hs
      exact .dropSeen hs
    · rename_i hs
      exact .dropOver hs
  | dropFetchSub p => exact .giveBack (.inr rfl) rfl

end BreakerPc

namespace SharedBreaker

/-- How many calls have the role. -/
def playing (s : SharedBreaker) (r : BreakerRole) : Nat :=
  Interleaving.playing BreakerPc.role s.calls r

/-- The guards that were handed out since the breaker last became half-open and are held. -/
def held (s : SharedBreaker) : Nat := s.guards.count s.period

/-- The next step of a call does not come too late for what the call has loaded. -/
def MayMove (s : SharedBreaker) : BreakerPc → Prop
  -- not while a success is about to clear what is set here
  | .failureOpenedAt => s.playing .clearing = 0
  -- not while another check makes the breaker half-open, or after it has
  | .checkStoreInflight => s.cells.state ≠ .halfOpen ∧ s.playing .opening = 0
  -- a place is taken in the period that the check has seen, while no call is about to end it
  | .checkFetchAdd p =>
    s.cells.state = .halfOpen ∧ p = s.period ∧ s.playing (.closing p) = 0 ∧
      s.cells.halfOpenInflight ≠ 0xffffffff
  -- the count of a later period is left alone
  | .checkFetchSub p | .dropFetchSub p | .successInflight p | .failureInflight p =>
    (s.cells.state = .halfOpen → p = s.period) ∧ s.playing .opening = 0
  -- a guard goes out of scope before a later period begins
  | .dropLoad g => s.cells.state = .halfOpen → g = s.period
  | _ => True

instance decidableMayMove (s : SharedBreaker) : ∀ pc, Decidable (s.MayMove pc)
  | .failureOpenedAt => inferInstanceAs (Decidable (s.playing .clearing = 0))
  | .checkStoreInflight =>
    inferInstanceAs (Decidable (s.cells.state ≠ .halfOpen ∧ s.playing .opening = 0))
  | .checkFetchAdd p =>
    inferInstanceAs (Decidable (s.cells.state = .halfOpen ∧ p = s.period ∧
      s.playing (.closing p) = 0 ∧ s.cells.halfOpenInflight ≠ 0xffffffff))
  | .checkFetchSub p | .dropFetchSub p | .successInflight p | .failureInflight p =>
    inferInstanceAs (Decidable ((s.cells.state = .halfOpen → p = s.period) ∧
      s.playing .opening = 0))
  | .dropLoad g => inferInstanceAs (Decidable (s.cells.state = .halfOpen → g = s.period))
  | .done | .checkLoad | .checkOpenedAt | .checkStoreState | .successLoad | .successFailures _
  | .successState _ | .successOpenedAt | .successReset | .failureLoad | .failureFetchAdd
  | .failureOpen | .failureReopen _ => .isTrue trivial

def Timely (s : SharedBreaker) : SharedAction → Prop
  | .move i _ =>
    match s.calls[i]? with
    | some pc => s.MayMove pc
    | none => True
  | _ => True

instance decidableTimely (s : SharedBreaker) : ∀ a, Decidable (s.Timely a)
  | .start _ | .drop _ => .isTrue trivial
  | .move i _ =>
    match h : s.calls[i]? with
    | some pc => decidable_of_iff (s.MayMove pc) (by simp only [Timely, h])
    | none => .isTrue (by simp only [Timely, h])

variable {s : SharedBreaker} {i : Nat} {pc : BreakerPc} {now : Instant}
  {r : BackendBreaker × BreakerPc × Bool}

theorem playing_moved (h : s.calls[i]? = some pc) (r : BackendBreaker × BreakerPc × Bool)
    (q : BreakerRole) :
    (s.moved i r).playing q + (if pc.role = q then 1 else 0) =
      s.playing q + if r.2.1.role = q then 1 else 0 := playing_set h r.2.1 q

theorem playing_role_pos (h : s.calls[i]? = some pc) : 0 < s.playing pc.role :=
  playing_pos (List.mem_of_getElem? h)

/-! ## An open breaker knows since when -/

/-- `opened_at` is set and stays so, or is about to be set. -/
def Stamped (s : SharedBreaker) : Prop :=
  s.cells.state = .open →
    0 < s.playing .stamping ∨ (s.cells.openedAt.isSome = true ∧ s.playing .clearing = 0)

theorem Stamped.congr {s' : SharedBreaker} (h : s.Stamped) (hstate : s'.cells.state = s.cells.state)
    (hopened : s'.cells.openedAt = s.cells.openedAt)
    (hstamp : s'.playing .stamping = s.playing .stamping)
    (hclear : s'.playing .clearing = s.playing .clearing) : s'.Stamped := by
  unfold Stamped
  rw [hstate, hopened, hstamp, hclear]
  exact h

theorem Stamped.moved (h : s.Stamped) (hget : s.calls[i]? = some pc) (hmay : s.MayMove pc)
    (hdoes : BreakerPc.Does s.limits s.cells s.period now pc r) : (s.moved i r).Stamped := by
  have hstamp := playing_moved hget r .stamping
  have hclear := playing_moved hget r .clearing
  cases hdoes with
  | plain state_eq inflight_eq openedAt_eq role_eq role_eq' =>
    simp only [role_eq, role_eq', reduceCtorEq, if_false, Nat.add_zero] at hstamp hclear
    exact h.congr state_eq openedAt_eq hstamp hclear
  | giveBack pc_eq role_eq =>
    rw [role_eq] at hstamp hclear
    simp only [BreakerPc.role, reduceCtorEq, if_false, Nat.add_zero] at hstamp hclear
    exact h.congr rfl rfl hstamp hclear
  | reset pc_eq role_eq role_eq' =>
    simp only [role_eq, role_eq', reduceCtorEq, if_false, Nat.add_zero] at hstamp hclear
    exact h.congr rfl rfl hstamp hclear
  | storeInflight | place | refused | dropSeen | dropOver =>
    simp only [BreakerPc.role, reduceCtorEq, if_false, Nat.add_zero] at hstamp hclear
    exact h.congr rfl rfl hstamp hclear
  | halfOpen | close => exact fun hopen => by cases hopen
  | reopen role_ne =>
    -- the call that has opened the breaker sets `opened_at` next
    rw [if_neg role_ne] at hstamp
    simp only [BreakerPc.role, if_true] at hstamp
    exact fun _ => .inl (by omega)
  | clear =>
    -- not both: a breaker whose `opened_at` stays, and this call
    simp only [BreakerPc.role, reduceCtorEq, if_false, Nat.add_zero] at hstamp
    intro hopen
    cases h hopen with
    | inl hpos => exact .inl (by omega)
    | inr hset =>
      have hpos := playing_role_pos hget
      simp only [BreakerPc.role] at hpos
      omega
  | stamp =>
    have hnone : s.playing .clearing = 0 := hmay
    simp only [BreakerPc.role, reduceCtorEq, if_false, Nat.add_zero] at hclear
    exact fun _ => .inr ⟨rfl, hclear.trans hnone⟩

/-! ## A half-open breaker counts its guards -/

/-- The counter of a half-open breaker is the number of guards of its period, held or about to be
    given back, unless a call is about to end the period. -/
structure Counted (s : SharedBreaker) : Prop where
  opening_le : s.playing .opening ≤ 1
  opening_one : 0 < s.playing .opening →
    s.cells.state ≠ .halfOpen ∧ s.cells.halfOpenInflight = 1
  calls_since : ∀ pc ∈ s.calls, pc.since ≤ s.period
  guards_since : ∀ g ∈ s.guards, g ≤ s.period
  places : s.cells.state = .halfOpen → s.playing (.closing s.period) = 0 →
    s.cells.halfOpenInflight.toNat = s.held + s.playing (.owing s.period)
  bounded : s.held ≤ s.limits.halfOpenMaxRequests.val.toNat

theorem Counted.new (limits : BreakerLimits) : (SharedBreaker.new limits).Counted :=
  { opening_le := Nat.zero_le _
    opening_one := fun h => absurd h (Nat.lt_irrefl 0)
    calls_since := fun _ h => by cases h
    guards_since := fun _ h => by cases h
    places := fun h => by cases h
    bounded := Nat.zero_le _ }

variable {b : BackendBreaker}

theorem periodAfter_eq (h : b.state = .halfOpen → s.cells.state = .halfOpen) :
    s.periodAfter b = s.period := if_neg fun hturn => hturn.1 (h hturn.2)

/-- A step that does not make the breaker half-open. -/
theorem Counted.of_moved (h : s.Counted) {pc' : BreakerPc} {issued : Bool}
    (hstate : b.state = .halfOpen → s.cells.state = .halfOpen) (hsince : pc'.since ≤ s.period)
    (hopening : (s.moved i (b, pc', issued)).playing .opening ≤ 1)
    (hone : 0 < (s.moved i (b, pc', issued)).playing .opening →
      b.state ≠ .halfOpen ∧ b.halfOpenInflight = 1) (hplaces : b.state = .halfOpen →
      (s.moved i (b, pc', issued)).playing (.closing s.period) = 0 →
      b.halfOpenInflight.toNat =
        s.held + issued.toNat + (s.moved i (b, pc', issued)).playing (.owing s.period))
    (hbound : s.held + issued.toNat ≤ s.limits.halfOpenMaxRequests.val.toNat) :
    (s.moved i (b, pc', issued)).Counted := by
  have hperiod : (s.moved i (b, pc', issued)).period = s.period := periodAfter_eq hstate
  have hguards : (s.moved i (b, pc', issued)).guards =
      if issued then s.period :: s.guards else s.guards := by
    rw [← hperiod]
    rfl
  have hheld : (s.moved i (b, pc', issued)).held = s.held + issued.toNat := by
    rw [held, hperiod, hguards]
    cases issued with
    | false => rfl
    | true => exact List.count_cons_self
  refine ⟨hopening, hone, ?_, ?_, ?_, hheld ▸ hbound⟩
  · rw [hperiod]
    exact forall_mem_set h.calls_since hsince
  · rw [hperiod, hguards]
    cases issued with
    | false => exact h.guards_since
    | true => exact List.forall_mem_cons.mpr ⟨le_rfl, h.guards_since⟩
  · rw [hperiod, hheld]
    exact hplaces

variable {n : UInt32} {guards : List Nat} {present : Bool}

theorem toNat_fetchAdd (h : n ≠ 0xffffffff) : (n + 1).toNat = n.toNat + 1 := by
  have hne : n.toNat ≠ 4294967295 := fun heq => h (UInt32.toNat_inj.mp heq)
  have hlt := n.toNat_lt
  rw [UInt32.toNat_add, UInt32.toNat_one]
  omega

theorem toNat_fetchSub (h : 0 < n.toNat) : (n - 1).toNat = n.toNat - 1 :=
  UInt32.toNat_sub_of_le n 1 (UInt32.le_iff_toNat_le.mpr h)

/-- The step that makes the breaker half-open begins a period with one guard. -/
theorem Counted.halfOpen (h : s.Counted) (hget : s.calls[i]? = some .checkStoreState)
    (hb : b.state = .halfOpen) (hsame : b.halfOpenInflight = s.cells.halfOpenInflight) :
    (s.moved i (b, .done, true)).Counted := by
  have hpos := playing_role_pos hget
  obtain ⟨hstate, hinflight⟩ := h.opening_one hpos
  have hle := h.opening_le
  have hopening := playing_moved hget (b, .done, true) .opening
  simp only [BreakerPc.role, reduceCtorEq, if_false, if_true] at hpos hopening
  have hperiod : (s.moved i (b, .done, true)).period = s.period + 1 := if_pos ⟨hstate, hb⟩
  have hguards : (s.moved i (b, .done, true)).guards = (s.period + 1) :: s.guards := by
    rw [← hperiod]
    rfl
  have hcalls : ∀ pc ∈ s.calls.set i .done, pc.since ≤ s.period :=
    forall_mem_set h.calls_since (Nat.zero_le _)
  -- everything else belongs to an earlier period
  have howing : (s.moved i (b, .done, true)).playing (.owing (s.period + 1)) = 0 := by
    refine playing_eq_zero fun pc hpc hrole => ?_
    have hsince := BreakerPc.since_of_role (.inl hrole)
    have hle := hcalls pc hpc
    omega
  have hheld : (s.moved i (b, .done, true)).held = 1 := by
    have hnone : s.guards.count (s.period + 1) = 0 :=
      List.count_eq_zero.mpr fun hmem => by
        have hle := h.guards_since _ hmem
        omega
    rw [held, hperiod, hguards, List.count_cons_self, hnone]
  refine ⟨by omega, fun h => by omega, ?_, ?_, fun _ _ => ?_, ?_⟩
  · rw [hperiod]
    exact fun pc hpc => (hcalls pc hpc).trans (Nat.le_succ _)
  · rw [hperiod, hguards]
    exact List.forall_mem_cons.mpr
      ⟨le_rfl, fun g hg => (h.guards_since g hg).trans (Nat.le_succ _)⟩
  · rw [hperiod, hheld, howing]
    show b.halfOpenInflight.toNat = 1
    rw [hsame, hinflight]
    rfl
  · rw [hheld]
    exact s.limits.halfOpenMaxRequests.toNat_pos

theorem Counted.moved (h : s.Counted) (hget : s.calls[i]? = some pc) (hmay : s.MayMove pc)
    (hdoes : BreakerPc.Does s.limits s.cells s.period now pc r) (hsince : r.2.1.since ≤ s.period) :
    (s.moved i r).Counted := by
  have hopening := playing_moved hget r .opening
  have howing := playing_moved hget r (.owing s.period)
  have hclosing := playing_moved hget r (.closing s.period)
  cases hdoes with
  | plain state_eq inflight_eq openedAt_eq role_eq role_eq' =>
    simp only [role_eq, role_eq', reduceCtorEq, if_false, Nat.add_zero] at hopening howing hclosing
    refine h.of_moved (fun hs => state_eq ▸ hs) hsince ?_ ?_ ?_ h.bounded
    · rw [hopening]
      exact h.opening_le
    · rw [hopening, state_eq, inflight_eq]
      exact h.opening_one
    · rw [hclosing, howing, state_eq, inflight_eq]
      exact h.places
  | storeInflight =>
    obtain ⟨hstate, hnone⟩ := hmay
    simp only [BreakerPc.role, reduceCtorEq, if_false, if_true, Nat.add_zero] at hopening
    exact h.of_moved id hsince (by omega) (fun _ => ⟨hstate, rfl⟩) (fun hs => absurd hs hstate)
      h.bounded
  | halfOpen => exact h.halfOpen hget rfl rfl
  | place room =>
    obtain ⟨hstate, rfl, hending, hmax⟩ := hmay
    simp only [BreakerPc.role, reduceCtorEq, if_false, Nat.add_zero] at hopening howing hclosing
    have hplaces := h.places hstate hending
    have hroom := UInt32.lt_iff_toNat_lt.mp room
    refine h.of_moved id hsince (hopening.trans_le h.opening_le) ?_ ?_ ?_
    · rw [hopening]
      exact fun hpos => absurd hstate (h.opening_one hpos).1
    · intro _ _
      rw [toNat_fetchAdd hmax, howing, hplaces]
      exact Nat.add_right_comm _ _ _
    · show s.held + 1 ≤ _
      omega
  | refused =>
    obtain ⟨hstate, rfl, hending, hmax⟩ := hmay
    simp only [BreakerPc.role, reduceCtorEq, if_false, if_true, Nat.add_zero] at hopening howing
    have hplaces := h.places hstate hending
    refine h.of_moved id hsince (hopening.trans_le h.opening_le) ?_ ?_ h.bounded
    · rw [hopening]
      exact fun hpos => absurd hstate (h.opening_one hpos).1
    · intro _ _
      rw [toNat_fetchAdd hmax, howing, hplaces]
      rfl
  | @giveBack _ p pc_eq role_eq =>
    have hmay : (s.cells.state = .halfOpen → p = s.period) ∧ s.playing .opening = 0 := by
      rcases pc_eq with rfl | rfl <;> exact hmay
    rw [role_eq] at hopening howing hclosing
    simp only [BreakerPc.role, reduceCtorEq, if_false, Nat.add_zero] at hopening howing hclosing
    refine h.of_moved id hsince (hopening.trans_le h.opening_le) ?_ ?_ h.bounded
    · rw [hopening]
      exact fun hpos => absurd hmay.2 (Nat.ne_of_gt hpos)
    · intro hstate hending
      have hplaces := h.places hstate (hclosing ▸ hending)
      rw [hmay.1 hstate, if_pos rfl] at howing
      show (s.cells.halfOpenInflight - 1).toNat = s.held + 0 + _
      rw [toNat_fetchSub (by omega)]
      omega
  | @reset _ _ p pc_eq role_eq role_eq' =>
    have hmay : (s.cells.state = .halfOpen → p = s.period) ∧ s.playing .opening = 0 := by
      rcases pc_eq with rfl | rfl <;> exact hmay
    simp only [role_eq, role_eq', reduceCtorEq, if_false, Nat.add_zero] at hopening hclosing
    refine h.of_moved id hsince (hopening.trans_le h.opening_le) ?_ ?_ h.bounded
    · rw [hopening]
      exact fun hpos => absurd hmay.2 (Nat.ne_of_gt hpos)
    · -- the call itself is about to end the period
      intro hstate hending
      rw [hmay.1 hstate, if_pos rfl] at hclosing
      omega
  | close =>
    simp only [BreakerPc.role, reduceCtorEq, if_false, Nat.add_zero] at hopening
    exact h.of_moved (fun hs => by cases hs) hsince (hopening.trans_le h.opening_le)
      (fun hpos => ⟨(fun hs => by cases hs), (h.opening_one (hopening ▸ hpos)).2⟩)
      (fun hs => by cases hs) h.bounded
  | reopen role_ne =>
    simp only [BreakerPc.role, reduceCtorEq, if_false, Nat.add_zero] at hopening
    have hle := h.opening_le
    exact h.of_moved (fun hs => by cases hs) hsince (by omega)
      (fun hpos => ⟨(fun hs => by cases hs), (h.opening_one (by omega)).2⟩)
      (fun hs => by cases hs) h.bounded
  | clear | stamp =>
    simp only [BreakerPc.role, reduceCtorEq, if_false, Nat.add_zero] at hopening howing hclosing
    refine h.of_moved id hsince (hopening.trans_le h.opening_le) ?_ ?_ h.bounded
    · rw [hopening]
      exact h.opening_one
    · rw [hclosing, howing]
      exact h.places
  | @dropSeen g half_open =>
    have hperiod : g = s.period := hmay half_open
    subst hperiod
    simp only [BreakerPc.role, reduceCtorEq, if_false, if_true, Nat.add_zero,
      Nat.add_right_cancel_iff] at hopening howing hclosing
    refine h.of_moved id hsince (hopening.trans_le h.opening_le) ?_ ?_ h.bounded
    · rw [hopening]
      exact h.opening_one
    · rw [hclosing, howing]
      exact h.places
  | dropOver not_half_open =>
    simp only [BreakerPc.role, reduceCtorEq, if_false, Nat.add_zero] at hopening
    refine h.of_moved id hsince (hopening.trans_le h.opening_le) ?_
      (fun hs => absurd hs not_half_open) h.bounded
    rw [hopening]
    exact h.opening_one

/-- A call begins: it may take a guard out of the hands of its holder. -/
theorem Counted.begin (h : s.Counted) {pc : BreakerPc} (hsince : pc.since ≤ s.period)
    (hopening : pc.role ≠ .opening) (hclosing : pc.role ≠ .closing s.period)
    (hguards : ∀ g ∈ guards, g ∈ s.guards)
    (hheld : guards.count s.period + (if pc.role = .owing s.period then 1 else 0) = s.held) :
    ({ s with present, guards, calls := s.calls ++ [pc] } : SharedBreaker).Counted := by
  have hplaying : ∀ q, ({ s with present, guards, calls := s.calls ++ [pc] } :
      SharedBreaker).playing q = s.playing q + if pc.role = q then 1 else 0 := fun q =>
    playing_concat pc q
  have hle := h.bounded
  refine ⟨?_, ?_, forall_mem_concat h.calls_since hsince,
    fun g hg => h.guards_since g (hguards g hg), ?_, ?_⟩
  · rw [hplaying, if_neg hopening]
    exact h.opening_le
  · rw [hplaying, if_neg hopening]
    exact h.opening_one
  · intro hstate hending
    rw [hplaying, if_neg hclosing] at hending
    have hplaces := h.places hstate hending
    have howing := hplaying (.owing s.period)
    show s.cells.halfOpenInflight.toNat = guards.count s.period +
      ({ s with present, guards, calls := s.calls ++ [pc] } : SharedBreaker).playing
        (.owing s.period)
    omega
  · show guards.count s.period ≤ s.limits.halfOpenMaxRequests.val.toNat
    omega

theorem Stamped.begin (h : s.Stamped) {pc : BreakerPc} (hstamp : pc.role ≠ .stamping)
    (hclear : pc.role ≠ .clearing) :
    ({ s with present, guards, calls := s.calls ++ [pc] } : SharedBreaker).Stamped := by
  refine h.congr rfl rfl ?_ ?_
  · exact (playing_concat pc BreakerRole.stamping).trans (by rw [if_neg hstamp]; rfl)
  · exact (playing_concat pc BreakerRole.clearing).trans (by rw [if_neg hclear]; rfl)

/-! ## Runs -/

/-- The invariants of a run of timely steps. -/
structure Sound (limits : BreakerLimits) (s : SharedBreaker) : Prop where
  limits_eq : s.limits = limits
  stamped : s.Stamped
  counted : s.Counted

variable {limits : BreakerLimits}

theorem Sound.start (h : s.Sound limits) (entry : BreakerEntry) :
    (s.start entry).Sound limits := by
  have hbegin : ∀ {pc : BreakerPc} {present : Bool}, pc.role = .none → pc.since = 0 →
      ({ s with present, calls := s.calls ++ [pc] } : SharedBreaker).Sound limits := by
    intro pc present hrole hsince
    refine ⟨h.limits_eq, h.stamped.begin ?_ ?_, h.counted.begin ?_ ?_ ?_ (fun g hg => hg) ?_⟩
    · rw [hrole]; decide
    · rw [hrole]; decide
    · rw [hsince]; exact Nat.zero_le _
    · rw [hrole]; decide
    · rw [hrole]; exact fun h => by cases h
    · rw [hrole]; rfl
  cases entry with
  | check => exact hbegin rfl rfl
  | recordFailure => exact hbegin rfl rfl
  | recordSuccess =>
    refine hbegin ?_ ?_
    · split <;> rfl
    · split <;> rfl

theorem Sound.drop (h : s.Sound limits) {j g : Nat} (hget : s.guards[j]? = some g) :
    ({ s with guards := s.guards.eraseIdx j, calls := s.calls ++ [.dropLoad g] } :
      SharedBreaker).Sound limits := by
  obtain ⟨hj, hg⟩ := List.getElem?_eq_some_iff.mp hget
  have hperm := List.getElem_cons_eraseIdx_perm hj
  rw [hg] at hperm
  have hcount := hperm.count_eq s.period
  rw [List.count_cons] at hcount
  refine ⟨h.limits_eq, h.stamped.begin (fun h => by cases h) (fun h => by cases h),
    h.counted.begin (h.counted.guards_since g (List.mem_of_getElem? hget)) (fun h => by cases h)
      (fun h => by cases h) (fun g' hg' => List.mem_of_mem_eraseIdx hg') ?_⟩
  show (s.guards.eraseIdx j).count s.period + _ = s.guards.count s.period
  simpa only [BreakerPc.role, BreakerRole.owing.injEq, beq_iff_eq] using hcount

theorem Sound.step (h : s.Sound limits) (a : SharedAction) (hok : s.Timely a) :
    (s.step a).Sound limits := by
  cases a with
  | start entry => exact h.start entry
  | drop j =>
    dsimp only [SharedBreaker.step]
    split
    · rename_i g hget
      exact h.drop hget
    · exact h
  | move i now =>
    dsimp only [SharedBreaker.step, Timely] at hok ⊢
    split
    · rename_i pc hget
      rw [hget] at hok
      have hdoes := pc.does s.limits s.cells s.period now
      have hsince := h.counted.calls_since pc (List.mem_of_getElem? hget)
      exact ⟨h.limits_eq, h.stamped.moved hget hok hdoes,
        h.counted.moved hget hok hdoes (BreakerPc.since_exec hsince)⟩
    · exact h

theorem sound_run {as : List SharedAction}
    (hok : RunOk SharedBreaker.step Timely (new limits) as) :
    (run SharedBreaker.step (new limits) as).Sound limits :=
  run_invariant (fun _ a h hok => h.step a hok)
    ⟨rfl, (fun h => by cases h), Counted.new limits⟩ hok

/-- In a state without calls in progress, what a breaker promises. -/
structure Promise (s : SharedBreaker) : Prop where
  open_since : s.cells.state = .open → s.cells.openedAt.isSome = true
  guards_le : s.held ≤ s.limits.halfOpenMaxRequests.val.toNat

end SharedBreaker

/-- Any number of callers, in any order of their steps: as long as no step comes too late, an open
    breaker without calls in progress can become half-open again, and no more guards of a half-open
    period are held than it admits. -/
theorem timely_breaker_sound (limits : BreakerLimits) (as : List SharedAction)
    (hok : RunOk SharedBreaker.step SharedBreaker.Timely (.new limits) as)
    (hquiet : (run SharedBreaker.step (.new limits) as).Quiet) :
    (run SharedBreaker.step (.new limits) as).Promise := by
  have h := SharedBreaker.sound_run hok
  refine ⟨fun hopen => ?_, h.counted.bounded⟩
  cases h.stamped hopen with
  | inl hpos =>
    have hnone : (run SharedBreaker.step (.new limits) as).playing .stamping = 0 :=
      playing_eq_zero fun pc hpc => by
        rw [hquiet pc hpc]
        decide
    omega
  | inr hset => exact hset.1

namespace Sample

/-- One failure opens the breaker, which recovers at once. -/
def eagerBreaker (max : NonZeroU32) : SharedBreaker :=
  .new (CircuitBreakers.new (ProbeRun.eagerConfig max)).limits

/-- The call at `i` takes `n` steps. -/
def callMoves (i n : Nat) : List SharedAction := List.replicate n (.move i 0)

/-- The breaker is opened by one call and made half-open by another. -/
def probed : List SharedAction :=
  [.start .recordFailure] ++ callMoves 0 4 ++ [.start .check] ++ callMoves 1 4

/-- Two checks want a place at the same time and both give it back, then the guard goes and a third
    check gets one. -/
def crowdedProbe : List SharedAction :=
  probed ++ [.start .check, .start .check] ++ callMoves 2 1 ++ callMoves 3 2 ++ callMoves 2 1 ++ callMoves 3 1 ++
    callMoves 2 1 ++ [.drop 0] ++ callMoves 4 2 ++ [.start .check] ++ callMoves 5 2

/-- A success closes the breaker, a failure opens it again and sets `opened_at`, and the success
    goes on to clear it. -/
def lostStamp : List SharedAction :=
  probed ++ [.start .recordFailure, .start .recordSuccess] ++ callMoves 2 1 ++ callMoves 3 4 ++ callMoves 2 3 ++
    callMoves 3 1 ++ [.drop 0] ++ callMoves 4 1

/-- Two checks find the breaker open, and both make it half-open. -/
def twoTransitions : List SharedAction :=
  [.start .recordFailure] ++ callMoves 0 4 ++ [.start .check, .start .check] ++ callMoves 1 2 ++
    callMoves 2 2 ++ callMoves 1 2 ++ callMoves 2 2

end Sample

/-- The steps of the two checks and of the guard alternate, and none comes too late. -/
theorem crowded_probe_sound :
    let s := Sample.eagerBreaker ⟨1, by decide⟩
    RunOk SharedBreaker.step SharedBreaker.Timely s Sample.crowdedProbe ∧
      (run SharedBreaker.step s Sample.crowdedProbe).Quiet ∧
      (run SharedBreaker.step s Sample.crowdedProbe).held = 1 ∧
      (run SharedBreaker.step s Sample.crowdedProbe).Promise := by
  intro s
  have hok : RunOk SharedBreaker.step SharedBreaker.Timely s Sample.crowdedProbe := by
    decide +kernel
  have hquiet : (run SharedBreaker.step s Sample.crowdedProbe).Quiet := by decide +kernel
  exact ⟨hok, hquiet, by decide +kernel, timely_breaker_sound _ _ hok hquiet⟩

/-- Without calls in progress: a breaker that is open and does not know since when, and two guards
    where one is admitted. -/
theorem late_steps_break_breaker :
    let s := Sample.eagerBreaker ⟨1, by decide⟩
    ((run SharedBreaker.step s Sample.lostStamp).Quiet ∧
      (run SharedBreaker.step s Sample.lostStamp).cells.state = .open ∧
      (run SharedBreaker.step s Sample.lostStamp).cells.openedAt = none) ∧
    (run SharedBreaker.step s Sample.twoTransitions).Quiet ∧
      (run SharedBreaker.step s Sample.twoTransitions).limits.halfOpenMaxRequests.val.toNat <
        (run SharedBreaker.step s Sample.twoTransitions).held := by
  decide +kernel

/-! ## Calls one after the other -/

namespace SharedBreaker

variable (s : SharedBreaker)

/-- The cells after a whole call, and whether it hands out a guard. -/
def outcome (now : Instant) : SharedAction → BackendBreaker × Bool
  | .start .check => ((s.cells.check s.limits now).1, (s.cells.check s.limits now).2.2)
  | .start .recordSuccess => (if s.present then s.cells.recordSuccess else s.cells, false)
  | .start .recordFailure => (s.cells.recordFailure s.limits now, false)
  | .drop j => (if j < s.guards.length then s.cells.dropGuard else s.cells, false)
  | .move i t => ((s.step (.move i t)).cells, false)

variable (a : SharedAction × Instant)

/-- A call as one step. -/
def whole : SharedBreaker :=
  (s.step a.1).moved s.calls.length ((s.outcome a.2 a.1).1, .done, (s.outcome a.2 a.1).2)

/-- The call in its own steps, of which there are at most five. -/
def alone : SharedBreaker :=
  run step (s.step a.1) (List.replicate 5 (.move s.calls.length a.2))

theorem alone_eq_whole : s.alone a = s.whole a := by
  obtain ⟨_ | j | ⟨i, t⟩, now⟩ := a <;> unfold alone whole
  case start entry =>
    cases entry with
    | check =>
      by_cases ht : s.cells.shouldTransition s.limits now <;>
      by_cases hfull : s.limits.halfOpenMaxRequests.val ≤ s.cells.halfOpenInflight <;>
      cases hs : s.cells.state <;>
        simp [outcome, step, start, moved, periodAfter, BreakerPc.exec, BackendBreaker.check, *]
    | recordSuccess =>
      cases hpresent : s.present <;> cases hs : s.cells.state <;>
        simp [outcome, step, start, moved, periodAfter, BreakerPc.exec,
          BackendBreaker.recordSuccess, *]
    | recordFailure =>
      by_cases hreached : s.limits.failureThreshold.val ≤ s.cells.consecutiveFailures + 1 <;>
      cases hs : s.cells.state <;>
        simp [outcome, step, start, moved, periodAfter, BreakerPc.exec,
          BackendBreaker.recordFailure, *]
  case drop =>
    by_cases hj : j < s.guards.length <;> by_cases hs : s.cells.state = .halfOpen <;>
      simp [outcome, step, moved, periodAfter, BreakerPc.exec, BackendBreaker.dropGuard,
        List.set_eq_of_length_le, *]
  case move =>
    cases hcall : s.calls[i]? <;>
      simp [outcome, step, moved, periodAfter, List.set_eq_of_length_le, *]

end SharedBreaker

end Reduction
