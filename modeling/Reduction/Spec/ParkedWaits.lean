import Reduction.Spec.ControlPeers

/-!
# Wake-ups for parked requests

`wait_for_session` arms its wake-up before it looks for a session, and `register`
inserts the session before it notifies.  The handle is made by the first that
waits, and nobody notifies without one.

- `RegistrySystem.wakeNotify_step`, `Committed.step`, `holders_step`: what an
  action on the registry does to the handles, to the registrations between their
  insert and their notify, and to the sessions
- `no_lost_wakeup`: a request that is suspended, with no wake-up on its way, has
  missed no session
-/

namespace Reduction

open Run

namespace TunnelRegistry

variable {reg : TunnelRegistry} {id : BackendId}

/-- The wake-up handle of the backend was made. -/
def HasHandle (reg : TunnelRegistry) (id : BackendId) : Prop := (reg.wakeNotify.get id).isSome

theorem isTunnelBackend_iff_holders : reg.isTunnelBackend id = true ↔ reg.holders id ≠ [] := by
  unfold isTunnelBackend holders DashMap.bucket
  cases reg.sessions.get id with
  | none => simp
  | some entry => simp

theorem notified_notifySessionWaiters (h : reg.HasHandle id) :
    (reg.notifySessionWaiters id).notified id = reg.notified id + 1 := by
  obtain ⟨n, hn⟩ := Option.isSome_iff_exists.mp h
  unfold notified notifySessionWaiters
  rw [DashMap.get_modify, if_pos rfl, hn]
  rfl

theorem notified_le_notifySessionWaiters (reg : TunnelRegistry) (id id' : BackendId) :
    reg.notified id ≤ (reg.notifySessionWaiters id').notified id := by
  unfold notified notifySessionWaiters
  rw [DashMap.get_modify]
  by_cases hid : id = id'
  · subst hid
    rw [if_pos rfl]
    cases reg.wakeNotify.get id with
    | none => exact Nat.le_refl _
    | some n => exact Nat.le_succ n
  · rw [if_neg hid]

theorem HasHandle.notifySessionWaiters (h : reg.HasHandle id) (id' : BackendId) :
    (reg.notifySessionWaiters id').HasHandle id := by
  unfold HasHandle TunnelRegistry.notifySessionWaiters
  rw [DashMap.get_modify]
  by_cases hid : id = id'
  · subst hid
    rw [if_pos rfl, Option.isSome_map]
    exact h
  · rw [if_neg hid]
    exact h

/-- `wake_handle` changes nothing but for the handle that it makes. -/
theorem notified_wakeHandle (reg : TunnelRegistry) (name : Bytes) (id : BackendId) :
    (reg.wakeHandle name).1.notified id = reg.notified id := by
  unfold wakeHandle notified
  cases hname : (ArrayString.from? name : Option BackendId) with
  | none => rfl
  | some key =>
    dsimp only
    rw [DashMap.get_insert]
    by_cases hid : id = key
    · rw [if_pos hid, hid]
      rfl
    · rw [if_neg hid]

theorem HasHandle.wakeHandle (h : reg.HasHandle id) (name : Bytes) :
    (reg.wakeHandle name).1.HasHandle id := by
  unfold HasHandle TunnelRegistry.wakeHandle
  cases hname : (ArrayString.from? name : Option BackendId) with
  | none => exact h
  | some key =>
    dsimp only
    rw [DashMap.get_insert]
    split
    · rfl
    · exact h

theorem hasHandle_wakeHandle {name : Bytes} (h : ArrayString.from? name = some id) :
    (reg.wakeHandle name).1.HasHandle id := by
  unfold HasHandle wakeHandle
  rw [h]
  dsimp only
  rw [DashMap.get_insert, if_pos rfl]
  rfl

theorem registerStep_push (reg : TunnelRegistry) (s : TunnelSession) :
    (reg.registerStep s .push).1 = (reg.pushSession s).1 := by
  unfold registerStep
  rcases reg.pushSession s with ⟨reg', _ | _⟩ <;> rfl

theorem wakeNotify_pushSession (reg : TunnelRegistry) (s : TunnelSession) :
    (reg.pushSession s).1.wakeNotify = reg.wakeNotify := by
  unfold pushSession
  dsimp only
  split <;> rfl

end TunnelRegistry

/-! ## Actions on the registry -/

/-- Only `register` notifies. -/
theorem RegistryOp.wakeNotify_step (o : RegistryOp) (st : TunnelState) (input : CallInput) :
    (o.step st input).1.registry.wakeNotify = st.registry.wakeNotify := by
  have hderegister : ∀ id sid stage,
      (st.registry.deregisterStep id sid stage).1.wakeNotify = st.registry.wakeNotify := by
    intro id sid stage
    cases stage with
    | peers => rfl
    | retain =>
      simp only [TunnelRegistry.deregisterStep]
      split <;> rfl
    | removeBucket removed => rfl
  cases o with
  | deregister id sid stage =>
    rw [← hderegister id sid stage, step]
    rcases st.registry.deregisterStep id sid stage with ⟨reg, _ | _⟩ <;> rfl
  | deregisterAll id => rfl
  | recordHeartbeat id sid => rfl
  | acquireStream id =>
    have h : (st.registry.nextSession id).1.wakeNotify = st.registry.wakeNotify := by
      unfold TunnelRegistry.nextSession
      dsimp only
      split <;> rfl
    rw [← h, step]
    rcases st.registry.nextSession id with ⟨reg, _ | _⟩ <;> rfl
  | dropClosed id sid stage =>
    rw [← hderegister id sid stage, step]
    rcases st.registry.deregisterStep id sid stage with ⟨reg, _ | _⟩ <;> rfl
  | openStream conn => rfl
  | revokeMatching set stage =>
    have h : (st.revokeStep set input stage).1.registry.wakeNotify = st.registry.wakeNotify := by
      cases stage with
      | start => rfl
      | buckets todo revoked =>
        simp only [TunnelState.revokeStep]
        split <;> rfl
      | dropEmpty revoked => rfl
    rw [← h, step]
    rcases st.revokeStep set input stage with ⟨st', _ | _⟩ <;> rfl
  | shutdownAll stage =>
    have h : (st.shutdownStep input stage).1.registry.wakeNotify = st.registry.wakeNotify := by
      cases stage with
      | start => rfl
      | buckets todo =>
        simp only [TunnelState.shutdownStep]
        split <;> rfl
      | clear => rfl
    rw [← h, step]
    rcases st.shutdownStep input stage with ⟨st', _ | _⟩ <;> rfl

namespace RegistrySystem

variable {sys : RegistrySystem} {id : BackendId}

/-- Some `register` of the backend lies between its insert and its notify. -/
def Committed (sys : RegistrySystem) (id : BackendId) : Prop :=
  ∃ i s stage, sys.calls i = .register s stage ∧ stage ≠ .push ∧ s.backendId = id

/-- The registry after an action: what became of its handles and of its sessions. -/
theorem wakeNotify_step (sys : RegistrySystem) (a : RegistryAction) :
    (sys.step a).state.registry.wakeNotify = sys.state.registry.wakeNotify ∨
      ∃ i input s, a = .advance i input ∧ sys.calls i = .register s .notify ∧
        (sys.step a).state.registry = sys.state.registry.notifySessionWaiters s.backendId := by
  cases a with
  | register i s =>
    simp only [step]
    split <;> exact .inl rfl
  | call i o =>
    simp only [step]
    split <;> exact .inl rfl
  | connectionLost conn => exact .inl rfl
  | advance i input =>
    simp only [step]
    cases hcall : sys.calls i with
    | register s stage =>
      rw [advance_register_state sys input hcall]
      cases stage with
      | push =>
        left
        rw [TunnelRegistry.registerStep_push, TunnelRegistry.wakeNotify_pushSession]
      | insertPeer =>
        left
        simp only [TunnelRegistry.registerStep]
        split <;> rfl
      | notify => exact .inr ⟨i, input, s, rfl, hcall, rfl⟩
    | op o =>
      left
      rw [advance_op_state sys input hcall]
      exact o.wakeNotify_step _ _
    | done result =>
      left
      simp only [advance, hcall]

/-- An action never takes a handle or a notification back. -/
theorem notified_step (sys : RegistrySystem) (a : RegistryAction) (id : BackendId) :
    sys.state.registry.notified id ≤ (sys.step a).state.registry.notified id := by
  rcases sys.wakeNotify_step a with hsame | ⟨_, _, s, _, _, hnotify⟩
  · unfold TunnelRegistry.notified
    rw [hsame]
  · rw [hnotify]
    exact TunnelRegistry.notified_le_notifySessionWaiters _ _ _

theorem hasHandle_step (h : sys.state.registry.HasHandle id) (a : RegistryAction) :
    (sys.step a).state.registry.HasHandle id := by
  rcases sys.wakeNotify_step a with hsame | ⟨_, _, s, _, _, hnotify⟩
  · unfold TunnelRegistry.HasHandle
    rw [hsame]
    exact h
  · rw [hnotify]
    exact h.notifySessionWaiters _

/-- Another task's call stays at its stage. -/
theorem calls_setCall_of_ne {i j : Nat} (h : j ≠ i) (call : RegistryCall) :
    (sys.setCall i call).calls j = sys.calls j := Function.update_of_ne h _ _

theorem calls_advance_of_ne {i j : Nat} (h : j ≠ i) (input : CallInput) :
    (sys.advance i input).calls j = sys.calls j := by
  unfold advance
  repeat' split
  all_goals first | rfl | exact calls_setCall_of_ne h _

/-- A registration past its insert goes on until it notifies. -/
theorem Committed.step (h : sys.Committed id) (a : RegistryAction) :
    (sys.step a).Committed id ∨
      (sys.step a).state.registry = sys.state.registry.notifySessionWaiters id := by
  obtain ⟨i, s, stage, hcall, hstage, rfl⟩ := h
  have hstays : ∀ {sys' : RegistrySystem}, sys'.calls i = sys.calls i →
      sys'.Committed s.backendId :=
    fun heq => ⟨i, s, stage, heq.trans hcall, hstage, rfl⟩
  have hidle : sys.idle i = false := by
    unfold idle
    rw [hcall]
  cases a with
  | register i' s' =>
    left
    simp only [RegistrySystem.step]
    split
    · rename_i hi'
      refine hstays (calls_setCall_of_ne ?_ _)
      rintro rfl
      rw [hidle] at hi'
      cases hi'
    · exact hstays rfl
  | call i' o =>
    left
    simp only [RegistrySystem.step]
    split
    · rename_i hi'
      refine hstays (calls_setCall_of_ne ?_ _)
      rintro rfl
      rw [hidle] at hi'
      cases hi'
    · exact hstays rfl
  | connectionLost conn => exact .inl (hstays rfl)
  | advance i' input =>
    by_cases hi' : i = i'
    · subst hi'
      cases stage with
      | push => exact absurd rfl hstage
      | insertPeer =>
        left
        refine ⟨i, s, .notify, ?_, (fun h => by cases h), rfl⟩
        simp only [RegistrySystem.step, advance, hcall, TunnelRegistry.registerStep]
        exact Function.update_self _ _ _
      | notify =>
        right
        simp only [RegistrySystem.step]
        rw [advance_register_state sys input hcall]
        rfl
    · left
      exact hstays (calls_advance_of_ne hi' input)

/-- A backend without sessions gets one only by a `register` that then has to notify. -/
theorem holders_step (sys : RegistrySystem) (a : RegistryAction)
    (h : sys.state.registry.holders id = []) :
    (sys.step a).state.registry.holders id = [] ∨ (sys.step a).Committed id := by
  cases a with
  | register i s =>
    simp only [step]
    split <;> exact .inl h
  | call i o =>
    simp only [step]
    split <;> exact .inl h
  | connectionLost conn => exact .inl h
  | advance i input =>
    cases hcall : sys.calls i with
    | register s stage =>
      by_cases hpush : stage = .push
      · subst hpush
        obtain ⟨reg, result, heq⟩ :
          ∃ reg result, sys.state.registry.pushSession s = (reg, result) := ⟨_, _, rfl⟩
        have hadvance := advance_register_state sys input hcall
        rw [TunnelRegistry.registerStep_push] at hadvance
        simp only [step, hadvance]
        cases result with
        | error e =>
          left
          rw [TunnelRegistry.holders_pushSession_of_error _ _ (by rw [heq])]
          exact h
        | ok u =>
          by_cases hid : id = s.backendId
          · right
            refine ⟨i, s, .insertPeer, ?_, (fun h => by cases h), hid.symm⟩
            simp only [advance, hcall, TunnelRegistry.registerStep, heq]
            exact Function.update_self _ _ _
          · left
            rw [TunnelRegistry.holders_pushSession_of_ok _ _ (by rw [heq]), if_neg hid]
            exact h
      · left
        simp only [step]
        rw [advance_register_state sys input hcall,
          TunnelRegistry.holders_registerStep _ _ _ _ hpush]
        exact h
    | op o =>
      left
      simp only [step]
      rw [advance_op_state sys input hcall, o.holders_step, h, List.filter_nil]
    | done result =>
      left
      simp only [step, advance, hcall]
      exact h

end RegistrySystem

/-! ## Registrations and waits side by side -/

inductive ParkingAction where
  /-- Any call on the registry begins or goes on: `register`, every way to deregister, lookups. -/
  | registry (a : RegistryAction)
  /-- An idle task calls `wait_for_session`. -/
  | wait (j : Nat) (name : Bytes) (deadline : Instant)
  | poll (j : Nat) (input : WaitInput)

namespace RoutingSystem

variable {r : RoutingSystem} {name : Bytes} {notify : BackendId} {armed : Notify}

def parkStep (r : RoutingSystem) : ParkingAction → RoutingSystem
  | .registry a => { r with sys := r.sys.step a }
  | .wait j name deadline => r.step (.wait j name deadline)
  | .poll j input => r.step (.poll j input)

/-- The wait has its handle. -/
structure Handled (r : RoutingSystem) (name : Bytes) (notify : BackendId) : Prop where
  name : ArrayString.from? name = some notify
  handle : r.registry.HasHandle notify

/-- The wait was armed, and is suspended since it has found no session: while no wake-up is pending,
    there is none, or one that is still to be notified of. -/
structure Suspended (r : RoutingSystem) (name : Bytes) (notify : BackendId) (armed : Notify) : Prop
    extends r.Handled name notify where
  armed_le : armed ≤ r.registry.notified notify
  missed : ¬ armed < r.registry.notified notify → r.registry.holders notify ≠ [] →
    r.sys.Committed notify

/-- What a wait can rely on at each of its stages. -/
def Listens (r : RoutingSystem) (name : Bytes) : WaitStage → Prop
  | .handle => True
  | .arm notify => r.Handled name notify
  | .test notify armed => r.Handled name notify ∧ armed ≤ r.registry.notified notify
  | .select notify armed => r.Suspended name notify armed

theorem Handled.registry (h : r.Handled name notify) (a : RegistryAction) :
    Handled { r with sys := r.sys.step a } name notify :=
  ⟨h.name, RegistrySystem.hasHandle_step h.handle a⟩

theorem Suspended.registry (h : r.Suspended name notify armed) (a : RegistryAction) :
    Suspended { r with sys := r.sys.step a } name notify armed := by
  have hmono : r.registry.notified notify ≤ (r.sys.step a).state.registry.notified notify :=
    r.sys.notified_step a notify
  refine ⟨h.toHandled.registry a, Nat.le_trans h.armed_le hmono, ?_⟩
  intro hpending hsession
  replace hpending : ¬ armed < (r.sys.step a).state.registry.notified notify := hpending
  by_cases hbefore : r.registry.holders notify = []
  · exact (r.sys.holders_step a hbefore).resolve_left hsession
  · have hcommitted := h.missed (fun hlt => hpending (Nat.lt_of_lt_of_le hlt hmono)) hbefore
    cases hcommitted.step a with
    | inl hstill => exact hstill
    | inr hnotified =>
      -- the notification would be pending
      rw [hnotified, TunnelRegistry.notified_notifySessionWaiters h.handle] at hpending
      exact absurd (Nat.lt_succ_of_le h.armed_le) hpending

variable {stage : WaitStage}

theorem Listens.registry (h : r.Listens name stage) (a : RegistryAction) :
    Listens { r with sys := r.sys.step a } name stage := by
  cases stage with
  | handle => trivial
  | arm notify => exact Handled.registry h a
  | test notify armed => exact ⟨h.1.registry a, Nat.le_trans h.2 (r.sys.notified_step a notify)⟩
  | select notify armed => exact Suspended.registry h a

theorem waitStep_registry (reg : TunnelRegistry) (name : Bytes) (deadline : Instant)
    (input : WaitInput) (stage : WaitStage) (id : BackendId) :
    (reg.waitStep name deadline input stage).1.holders id = reg.holders id ∧
      (reg.waitStep name deadline input stage).1.notified id = reg.notified id ∧
      (reg.HasHandle id → (reg.waitStep name deadline input stage).1.HasHandle id) := by
  cases stage with
  | handle =>
    have hfst : (reg.waitStep name deadline input .handle).1 = (reg.wakeHandle name).1 := by
      unfold TunnelRegistry.waitStep
      rcases reg.wakeHandle name with ⟨reg', _ | _⟩ <;> rfl
    refine ⟨?_, ?_, ?_⟩
    · unfold TunnelRegistry.holders
      rw [TunnelRegistry.waitStep_sessions]
    · rw [hfst, TunnelRegistry.notified_wakeHandle]
    · rw [hfst]
      exact fun h => h.wakeHandle name
  | arm notify => exact ⟨rfl, rfl, fun h => h⟩
  | test notify armed => exact ⟨rfl, rfl, fun h => h⟩
  | select notify armed => exact ⟨rfl, rfl, fun h => h⟩

/-- What one wait relies on stays when another one makes a handle. -/
theorem Listens.of_registry {r' : RoutingSystem} (h : r.Listens name stage)
    (hcalls : r'.sys.calls = r.sys.calls)
    (hreg : ∀ id, r'.registry.holders id = r.registry.holders id ∧
      r'.registry.notified id = r.registry.notified id ∧
      (r.registry.HasHandle id → r'.registry.HasHandle id)) : r'.Listens name stage := by
  have hhandled : ∀ {notify}, r.Handled name notify → r'.Handled name notify :=
    fun h => ⟨h.name, (hreg _).2.2 h.handle⟩
  cases stage with
  | handle => trivial
  | arm notify => exact hhandled h
  | test notify armed =>
    refine ⟨hhandled h.1, ?_⟩
    rw [(hreg notify).2.1]
    exact h.2
  | select notify armed =>
    obtain ⟨hbase, harmed, hmissed⟩ := h
    refine ⟨hhandled hbase, ?_, ?_⟩
    · rw [(hreg notify).2.1]
      exact harmed
    · rw [(hreg notify).2.1, (hreg notify).1]
      intro hpending hsession
      obtain ⟨i, s, stage, hcall, hstage⟩ := hmissed hpending hsession
      exact ⟨i, s, stage, (congrFun hcalls i).trans hcall, hstage⟩

/-- The stage that follows, if the wait goes on. -/
theorem Listens.waitStep {stage' : WaitStage} {reg : TunnelRegistry} {deadline : Instant}
    {input : WaitInput} (h : r.Listens name stage)
    (hstep : r.registry.waitStep name deadline input stage = (reg, .more stage')) :
    (r.setRegistry reg).Listens name stage' := by
  cases stage with
  | handle =>
    simp only [TunnelRegistry.waitStep, TunnelRegistry.wakeHandle] at hstep
    cases hname : (ArrayString.from? name : Option BackendId) with
    | none =>
      rw [hname] at hstep
      cases hstep
    | some notify =>
      rw [hname] at hstep
      cases hstep
      have hhandle : (r.registry.wakeHandle name).1.HasHandle notify :=
        TunnelRegistry.hasHandle_wakeHandle hname
      unfold TunnelRegistry.wakeHandle at hhandle
      rw [hname] at hhandle
      exact ⟨hname, hhandle⟩
  | arm notify =>
    cases hstep
    exact ⟨⟨h.name, h.handle⟩, Nat.le_refl _⟩
  | test notify armed =>
    -- it goes on only if there is no session
    simp only [TunnelRegistry.waitStep] at hstep
    obtain ⟨hhandled, harmed⟩ := h
    cases hfound : r.registry.isTunnelBackendNamed name with
    | true =>
      rw [hfound] at hstep
      cases hstep
    | false =>
      rw [hfound] at hstep
      cases hstep
      refine ⟨⟨hhandled.name, hhandled.handle⟩, harmed, ?_⟩
      intro _ hsession
      unfold TunnelRegistry.isTunnelBackendNamed at hfound
      rw [hhandled.name] at hfound
      exact absurd (hfound.symm.trans (TunnelRegistry.isTunnelBackend_iff_holders.mpr hsession))
        Bool.false_ne_true
  | select notify armed =>
    simp only [TunnelRegistry.waitStep] at hstep
    split at hstep
    · cases hstep
      exact ⟨h.name, h.handle⟩
    · split at hstep
      · cases hstep
      · cases hstep
        exact h

/-- Every wait relies on what is so. -/
def AllListen (r : RoutingSystem) : Prop :=
  ∀ j name deadline stage, r.waits j = .waiting name deadline stage → r.Listens name stage

theorem AllListen.setWait (h : r.AllListen) {j : Nat} {call : WaitCall}
    (hcall : ∀ name deadline stage, call = .waiting name deadline stage → r.Listens name stage) :
    (r.setWait j call).AllListen := by
  intro j' name deadline stage hj'
  have hlistens : r.Listens name stage := by
    by_cases heq : j' = j
    · subst heq
      exact hcall name deadline stage ((Function.update_self _ _ _).symm.trans hj')
    · exact h j' name deadline stage ((Function.update_of_ne heq _ _).symm.trans hj')
  exact hlistens.of_registry rfl fun id => ⟨rfl, rfl, fun h => h⟩

theorem AllListen.waitStep (h : r.AllListen) (name : Bytes) (deadline : Instant)
    (input : WaitInput) (stage : WaitStage) :
    (r.setRegistry (r.registry.waitStep name deadline input stage).1).AllListen :=
  fun j' name' deadline' stage' hj' => (h j' name' deadline' stage' hj').of_registry rfl
    (waitStep_registry r.registry name deadline input stage)

theorem AllListen.parkStep (h : r.AllListen) (a : ParkingAction) : (r.parkStep a).AllListen := by
  cases a with
  | registry a =>
    intro j name deadline stage hj
    exact (h j name deadline stage hj).registry a
  | wait j name deadline =>
    simp only [RoutingSystem.parkStep, step]
    split
    · exact h
    · refine h.setWait fun name' deadline' stage' heq => ?_
      cases heq
      trivial
  | poll j input =>
    simp only [RoutingSystem.parkStep, step]
    cases hj : r.waits j with
    | idle => exact h
    | returned found => exact h
    | waiting name deadline stage =>
      have hlistens := h j name deadline stage hj
      have hothers := h.waitStep name deadline input stage
      dsimp only
      split
      · rename_i reg stage' hstep
        rw [hstep] at hothers
        refine hothers.setWait fun name' deadline' stage'' heq => ?_
        cases heq
        exact hlistens.waitStep hstep
      · rename_i reg found hstep
        rw [hstep] at hothers
        exact hothers.setWait fun name' deadline' stage'' heq => by cases heq

end RoutingSystem

/-- A request that is suspended on a backend, with no wake-up pending, has missed no session, unless
    a `register` of the backend is still to notify of it. -/
theorem no_lost_wakeup (maxSessionsPerBackend : UInt32) (as : List ParkingAction) {id : BackendId}
    (hquiet : ∀ i s stage,
      (run RoutingSystem.parkStep (.start maxSessionsPerBackend) as).sys.calls i =
        .register s stage → s.backendId = id → stage = .push)
    {j : Nat} {name : Bytes} {deadline : Instant} {notify : BackendId} {armed : Notify}
    (hsuspended : (run RoutingSystem.parkStep (.start maxSessionsPerBackend) as).waits j =
      .waiting name deadline (.select notify armed))
    (hname : ArrayString.from? name = some id)
    (hpending : ¬ armed <
      (run RoutingSystem.parkStep (.start maxSessionsPerBackend) as).registry.notified notify) :
    (run RoutingSystem.parkStep (.start maxSessionsPerBackend) as).registry.isTunnelBackend id =
      false := by
  have hlisten : (run RoutingSystem.parkStep (.start maxSessionsPerBackend) as).AllListen :=
    @run_invariant_of_step _ _ RoutingSystem.parkStep RoutingSystem.AllListen
      (fun _ a h => h.parkStep a) _ (fun j name deadline stage hj => by cases hj) as
  generalize run RoutingSystem.parkStep (.start maxSessionsPerBackend) as = r at *
  have hwait : r.Suspended name notify armed := hlisten j name deadline _ hsuspended
  obtain rfl : notify = id := Option.some.inj (hwait.name.symm.trans hname)
  by_contra hsession
  have hholders : r.registry.holders notify ≠ [] :=
    TunnelRegistry.isTunnelBackend_iff_holders.mp (Bool.eq_true_of_not_eq_false hsession)
  obtain ⟨i, s, stage, hcall, hstage, hid⟩ := hwait.missed hpending hholders
  exact hstage (hquiet i s stage hcall hid)

namespace Sample

def waitInput : WaitInput := { now := 0, wakeFirst := true }

/-- A task waits for `device-7` and is suspended; another one has called `register`. -/
def parkAndRegister : List ParkingAction :=
  [.wait 0 device.bytes 10, .poll 0 waitInput, .poll 0 waitInput, .poll 0 waitInput,
    .registry (.register 1 (session 1))]

end Sample

theorem suspended_before_register :
    let r := run RoutingSystem.parkStep (.start 4) Sample.parkAndRegister
    r.waits 0 = .waiting Sample.device.bytes 10 (.select Sample.device 0) ∧
      r.sys.calls 1 = .register (Sample.session 1) .push ∧
      r.registry.isTunnelBackend Sample.device = false := by
  have hsuspended : (run RoutingSystem.parkStep (.start 4) Sample.parkAndRegister).waits 0 =
      .waiting Sample.device.bytes 10 (.select Sample.device 0) := rfl
  have hname : ArrayString.from? Sample.device.bytes = some Sample.device := rfl
  refine ⟨hsuspended, rfl, no_lost_wakeup 4 _ ?_ hsuspended hname (by decide)⟩
  intro i s stage hcall _
  have hcalls : (run RoutingSystem.parkStep (.start 4) Sample.parkAndRegister).sys.calls =
      Function.update (fun _ => .done .finished) 1 (.register (Sample.session 1) .push) := rfl
  rw [hcalls, Function.update_apply] at hcall
  split at hcall
  · cases hcall
    rfl
  · cases hcall

end Reduction
