import Reduction.Native.ControlLoop
import Reduction.Spec.RevocationComplete

/-!
# The influence of a revoked control peer

`revoke_matching` takes a session out of the registry's sessions.  The entry of a
control peer among `control_peers` stays until the peer's task deregisters it,
and the peer's control loop runs until it takes the branch that ends it: a later
dispatch can still push a `Wake` to the peer, and a frame of the peer that is
already there can still be read and applied.

`PeerRun` keeps count of the sessions that revocations have removed.
`revoked_peers_have_no_influence` says what has to be heeded for them to be
without influence from the moment at which `revoke_matching` returns:

- a control loop that has been sent a `Shutdown` does not read on;
- a dispatch does not collect its peers before the tasks of revoked sessions have
  deregistered them.
-/

namespace Reduction

open Run

/-! ## Whose entries are among the control peers -/

/-- The session that a task has inserted among the control peers and has not yet taken out. -/
def ListenerTask.enrolled : ListenerTask → Option TunnelSession
  | register s .notify | recheck s | rollback s .peers | ack s | serve s | leave s .peers _ => some s
  | _ => none

section Peers

variable {sid : SessionId} {conn : ConnectionId}

variable (reg : TunnelRegistry) (set : RevocationSet) (input : CallInput)
  (stage : TunnelState.ShutdownStage)

theorem TunnelRegistry.peers_push (s : TunnelSession) :
    (reg.registerStep s .push).1.controlPeers = reg.controlPeers := by
  simp only [registerStep, pushSession]
  split
  · rename_i heq
    split at heq <;> cases heq
    rfl
  · rename_i heq
    split at heq <;> cases heq
    rfl

theorem TunnelRegistry.peers_insertPeer {reg : TunnelRegistry} {s : TunnelSession}
    (h : (reg.registerStep s .insertPeer).1.controlPeers.get sid = some conn) :
    reg.controlPeers.get sid = some conn ∨ (s.sessionId = sid ∧ s.connection = conn) := by
  simp only [registerStep] at h
  split at h
  · rw [DashMap.get_insert] at h
    split at h
    · rename_i heq
      exact .inr ⟨heq.symm, Option.some.inj h⟩
    · exact .inl h
  · exact .inl h

theorem TunnelRegistry.peers_deregisterStep {reg : TunnelRegistry} {id : BackendId}
    {sid' : SessionId} {stage : TunnelRegistry.DeregisterStage}
    (h : (reg.deregisterStep id sid' stage).1.controlPeers.get sid = some conn) :
    reg.controlPeers.get sid = some conn ∧ (stage = .peers → sid ≠ sid') := by
  cases stage with
  | peers =>
    simp only [deregisterStep, DashMap.get_remove] at h
    split at h
    · cases h
    · rename_i hne
      exact ⟨h, fun _ => hne⟩
  | retain =>
    simp only [deregisterStep] at h
    split at h
    · exact ⟨h, fun hstage => by cases hstage⟩
    · exact ⟨h, fun hstage => by cases hstage⟩
  | removeBucket removed => exact ⟨h, fun hstage => by cases hstage⟩

theorem TunnelRegistry.peers_nextSession (id : BackendId) :
    (reg.nextSession id).1.controlPeers = reg.controlPeers := by
  simp only [nextSession]
  split <;> rfl

variable (st : TunnelState)

theorem TunnelState.peers_revokeStep (stage : TunnelState.RevokeStage) :
    (st.revokeStep set input stage).1.registry.controlPeers = st.registry.controlPeers := by
  cases stage with
  | start => rfl
  | buckets todo revoked =>
    simp only [revokeStep]
    split <;> rfl
  | dropEmpty revoked => rfl

theorem TunnelState.peers_shutdownStep :
    (st.shutdownStep input stage).1.registry.controlPeers = st.registry.controlPeers := by
  cases stage with
  | start => rfl
  | buckets todo =>
    simp only [shutdownStep]
    split <;> rfl
  | clear => rfl

/-- The other calls insert no control peers. -/
theorem RegistryOp.peers_step {o : RegistryOp} {st : TunnelState} {input : CallInput}
    (h : (o.step st input).1.registry.controlPeers.get sid = some conn) :
    st.registry.controlPeers.get sid = some conn := by
  cases o with
  | deregister id sid' stage =>
    refine (@TunnelRegistry.peers_deregisterStep sid conn st.registry id sid' stage ?_).1
    simp only [step] at h
    split at h <;> rename_i heq <;> rw [heq] <;> exact h
  | dropClosed id sid' stage =>
    refine (@TunnelRegistry.peers_deregisterStep sid conn st.registry id sid' stage ?_).1
    simp only [step] at h
    split at h <;> rename_i heq <;> rw [heq] <;> exact h
  | deregisterAll id => exact h
  | recordHeartbeat id sid' => exact h
  | acquireStream id =>
    rw [← st.registry.peers_nextSession id]
    simp only [step] at h
    split at h <;> rename_i heq <;> rw [heq] <;> exact h
  | openStream conn' => exact h
  | revokeMatching set stage =>
    rw [← st.peers_revokeStep set input stage]
    simp only [step] at h
    split at h <;> rename_i heq <;> rw [heq] <;> exact h
  | shutdownAll stage =>
    rw [← st.peers_shutdownStep input stage]
    simp only [step] at h
    split at h <;> rename_i heq <;> rw [heq] <;> exact h

/-- What was sent stays sent. -/
theorem TunnelState.shutdowns_revokeStep (stage : TunnelState.RevokeStage) :
    st.shutdowns <+: (st.revokeStep set input stage).1.shutdowns := by
  cases stage with
  | start => exact List.prefix_refl _
  | buckets todo revoked =>
    simp only [revokeStep]
    split
    · exact List.prefix_append _ _
    · exact List.prefix_refl _
  | dropEmpty revoked => exact List.prefix_refl _

theorem TunnelState.shutdowns_shutdownStep :
    st.shutdowns <+: (st.shutdownStep input stage).1.shutdowns := by
  cases stage with
  | start => exact List.prefix_refl _
  | buckets todo =>
    simp only [shutdownStep]
    split
    · exact List.prefix_append _ _
    · exact List.prefix_refl _
  | clear => exact List.prefix_refl _

theorem RegistryOp.shutdowns_step (o : RegistryOp) (st : TunnelState) (input : CallInput) :
    st.shutdowns <+: (o.step st input).1.shutdowns := by
  cases o with
  | deregister | dropClosed | acquireStream =>
    simp only [step]
    split <;> exact List.prefix_refl _
  | deregisterAll | recordHeartbeat | openStream => exact List.prefix_refl _
  | revokeMatching set stage =>
    have hsent := st.shutdowns_revokeStep set input stage
    simp only [step]
    split <;> rename_i heq <;> rw [heq] at hsent <;> exact hsent
  | shutdownAll stage =>
    have hsent := st.shutdowns_shutdownStep input stage
    simp only [step]
    split <;> rename_i heq <;> rw [heq] at hsent <;> exact hsent

end Peers

namespace Listener

/-- Every entry among the control peers is one that a task will take out. -/
def Held (l : Listener) : Prop :=
  ∀ sid conn, l.state.registry.controlPeers.get sid = some conn →
    ∃ i s, (l.tasks i).enrolled = some s ∧ s.sessionId = sid ∧ s.connection = conn

variable {l : Listener} {i : Nat} {task : ListenerTask} {st : TunnelState}

/-- What a task does keeps the entries in hands, if it holds what it inserts and takes out what it
    does not hold any more. -/
theorem Held.of_task (h : l.Held)
    (hpeers : ∀ sid conn, st.registry.controlPeers.get sid = some conn →
      l.state.registry.controlPeers.get sid = some conn ∨
        ∃ s, task.enrolled = some s ∧ s.sessionId = sid ∧ s.connection = conn)
    (hleaves : ∀ s, (l.tasks i).enrolled = some s → task.enrolled = some s ∨
      ∀ conn, st.registry.controlPeers.get s.sessionId ≠ some conn) :
    ({ l with state := st }.setTask i task).Held := by
  intro sid conn hget
  have hself : ∀ s, task.enrolled = some s → s.sessionId = sid → s.connection = conn →
      ∃ i' s', (({ l with state := st }.setTask i task).tasks i').enrolled = some s' ∧
        s'.sessionId = sid ∧ s'.connection = conn := by
    intro s hs hsid hconn
    exact ⟨i, s, by simpa only [setTask, Function.update_self] using hs, hsid, hconn⟩
  cases hpeers sid conn hget with
  | inr hnew =>
    obtain ⟨s, hs, hsid, hconn⟩ := hnew
    exact hself s hs hsid hconn
  | inl hold =>
    obtain ⟨j, s, hs, hsid, hconn⟩ := h sid conn hold
    by_cases hj : j = i
    · subst hj
      cases hleaves s hs with
      | inl hstays => exact hself s hstays hsid hconn
      | inr hgone =>
        subst hsid
        exact absurd hget (hgone conn)
    · refine ⟨j, s, ?_, hsid, hconn⟩
      simpa only [setTask, Function.update_of_ne hj] using hs

/-- What a task does without inserting a control peer or giving one up. -/
theorem Held.goes_on (h : l.Held)
    (hpeers : ∀ sid conn, st.registry.controlPeers.get sid = some conn →
      l.state.registry.controlPeers.get sid = some conn)
    (hsame : ∀ s, (l.tasks i).enrolled = some s → task.enrolled = some s) :
    ({ l with state := st }.setTask i task).Held :=
  h.of_task (fun sid conn hget => .inl (hpeers sid conn hget)) fun s hs => .inl (hsame s hs)

variable {s : TunnelSession}

/-- The stages of a deregistration, by the task that holds the session. -/
theorem Held.deregister (h : l.Held) {stage : TunnelRegistry.DeregisterStage} {reg : TunnelRegistry}
    (hstage : ∀ s', (l.tasks i).enrolled = some s' → stage = .peers ∧ s' = s)
    (hreg : (l.state.registry.deregisterStep s.backendId s.sessionId stage).1 = reg) :
    ((l.setRegistry reg).setTask i task).Held := by
  subst hreg
  refine h.of_task (fun sid conn hget => .inl (TunnelRegistry.peers_deregisterStep hget).1) ?_
  intro s' hs'
  obtain ⟨rfl, rfl⟩ := hstage s' hs'
  exact .inr fun conn hget => (TunnelRegistry.peers_deregisterStep hget).2 rfl rfl

theorem Held.register (h : l.Held) {stage : TunnelRegistry.RegisterStage}
    (htask : l.tasks i = .register s stage) (input : ListenerInput) : (l.advance i input).Held := by
  unfold Listener.advance
  rw [htask]
  cases stage with
  | push =>
    have hpush := l.state.registry.peers_push s
    dsimp only
    split <;> rename_i heq <;> rw [heq] at hpush <;>
      refine h.goes_on (fun sid conn hget => hpush ▸ hget) fun s' hs' => ?_ <;>
      rw [htask] at hs' <;> cases hs'
  | insertPeer =>
    refine h.of_task (fun sid conn hget => ?_) fun s' hs' => ?_
    · exact (TunnelRegistry.peers_insertPeer hget).imp_right fun hnew => ⟨s, rfl, hnew.1, hnew.2⟩
    · rw [htask] at hs'
      cases hs'
  | notify =>
    refine h.goes_on (fun sid conn hget => hget) fun s' hs' => ?_
    rw [htask] at hs'
    exact hs'

/-- A task that goes on with what it holds. -/
theorem Held.stays (h : l.Held) {task' : ListenerTask} (htask : l.tasks i = task)
    (hsame : ∀ s, task.enrolled = some s → task'.enrolled = some s) : (l.setTask i task').Held :=
  h.goes_on (fun _ _ hget => hget) fun s hs => hsame s (htask ▸ hs)

theorem Held.advance (h : l.Held) (i : Nat) (input : ListenerInput) : (l.advance i input).Held := by
  cases htask : l.tasks i with
  | register s stage => exact h.register htask input
  | idle | rejected | ended =>
    simp only [Listener.advance, htask]
    exact h
  | precheck est | capacity est | commit est =>
    simp only [Listener.advance, htask]
    split <;> exact h.stays htask fun _ hs => by cases hs
  | recheck s | ack s =>
    simp only [Listener.advance, htask]
    split <;> exact h.stays htask fun _ hs => hs
  | serve s =>
    simp only [Listener.advance, htask]
    exact h.stays htask fun _ hs => hs
  | rollback s stage | leave s stage result =>
    have hstage : ∀ s', (l.tasks i).enrolled = some s' → stage = .peers ∧ s' = s := by
      intro s' hs'
      rw [htask] at hs'
      cases stage <;> cases hs'
      exact ⟨rfl, rfl⟩
    simp only [Listener.advance, htask]
    split <;> rename_i heq <;> exact h.deregister hstage (by rw [heq])
  | op o =>
    simp only [Listener.advance, htask]
    split <;> rename_i heq <;>
    · refine h.goes_on (fun sid conn hget => ?_) fun s hs => ?_
      · have hold := @RegistryOp.peers_step sid conn o l.state input.toCallInput
        rw [heq] at hold
        exact hold hget
      · rw [htask] at hs
        cases hs

theorem Held.step (h : l.Held) (a : ListenerAction) : (l.step a).Held := by
  -- a task that takes up something new holds nothing
  have hfree : ∀ {i : Nat} {task : ListenerTask}, l.free i = true → (l.setTask i task).Held := by
    intro i task hfree
    unfold free at hfree
    split at hfree <;> rename_i htask
    · exact h.stays htask fun _ hs => by cases hs
    · exact h.stays htask fun _ hs => by cases hs
    · exact h.stays htask fun _ hs => by cases hs
    · cases hfree
  cases a with
  | connect i est =>
    dsimp only [Listener.step]
    split
    · rename_i hi
      exact hfree hi
    · exact h
  | call i o =>
    dsimp only [Listener.step]
    split
    · rename_i hi
      exact hfree (Bool.and_eq_true_iff.mp hi).1
    · exact h
  | advance i input => exact h.advance i input
  | publish set => exact h
  | sweep input =>
    dsimp only [Listener.step, Listener.sweep]
    split
    · split <;> exact h
    · rename_i seen set stage hsweeper
      have hpeers := l.state.peers_revokeStep set input stage
      split <;> rename_i heq <;> rw [heq] at hpeers <;>
      · intro sid conn hget
        exact h sid conn (hpeers ▸ hget)
  | connectionLost conn => exact h

/-! ## What control channels have been sent -/

/-- A `Shutdown` was sent to the control loop of the session. -/
def Told (l : Listener) (sid : SessionId) : Prop := sid ∈ l.state.shutdowns.map Prod.fst

instance (l : Listener) (sid : SessionId) : Decidable (l.Told sid) :=
  inferInstanceAs (Decidable (sid ∈ l.state.shutdowns.map Prod.fst))

theorem shutdowns_advance (l : Listener) (i : Nat) (input : ListenerInput) :
    l.state.shutdowns <+: (l.advance i input).state.shutdowns := by
  cases htask : l.tasks i with
  | op o =>
    have hsent := o.shutdowns_step l.state input.toCallInput
    simp only [advance, htask]
    split <;> rename_i heq <;> rw [heq] at hsent <;> exact hsent
  | idle | rejected | ended | serve =>
    simp only [advance, htask]
    exact List.prefix_refl _
  | precheck | capacity | commit | register | recheck | rollback | ack | leave =>
    simp only [advance, htask]
    split <;> exact List.prefix_refl _

theorem shutdowns_step (l : Listener) (a : ListenerAction) :
    l.state.shutdowns <+: (l.step a).state.shutdowns := by
  cases a with
  | connect | call =>
    dsimp only [step]
    split <;> exact List.prefix_refl _
  | advance i input => exact l.shutdowns_advance i input
  | publish | connectionLost => exact List.prefix_refl _
  | sweep input =>
    dsimp only [step, sweep]
    split
    · split <;> exact List.prefix_refl _
    · rename_i seen set stage hsweeper
      have hsent := l.state.shutdowns_revokeStep set input stage
      split <;> rename_i heq <;> rw [heq] at hsent <;> exact hsent

theorem Told.mono {l l' : Listener} {sid : SessionId} (h : l.Told sid)
    (hsent : l.state.shutdowns <+: l'.state.shutdowns) : l'.Told sid :=
  (hsent.map Prod.fst).subset h

/-! ## What revocations remove -/

/-- The call of `revoke_matching` that a step belongs to, with its stage: the sweeper's or that of
    another task. -/
def revoking (l : Listener) :
    ListenerAction → Option (Option Nat × RevocationSet × TunnelState.RevokeStage × CallInput)
  | .sweep input =>
    match l.sweeper with
    | .sweeping _ set stage => some (none, set, stage, input)
    | .waiting _ => none
  | .advance i input =>
    match l.tasks i with
    | .op (.revokeMatching set stage) => some (some i, set, stage, input.toCallInput)
    | _ => none
  | _ => none

/-- The sessions of a bucket that a visit of `revoke_matching` removes. -/
def goneFrom (l : Listener) (set : RevocationSet) (id : BackendId) : List TunnelSession :=
  (l.state.registry.sessions.bucket id).filter fun s => set.isRevoked s.identity

/-- A session that is removed is sent a `Shutdown`. -/
theorem told_goneFrom {l : Listener} {a : ListenerAction} {k : Option Nat} {set : RevocationSet}
    {todo : List BackendId} {revoked : Nat} {input : CallInput} {id : BackendId}
    (h : l.revoking a = some (k, set, .buckets todo revoked, input)) (hid : input.bucket = some id)
    (hs : s ∈ l.goneFrom set id) : (l.step a).Told s.sessionId := by
  have hbucket : s.sessionId ∈ (l.state.revokeBucket set id).1.shutdowns.map Prod.fst := by
    show s.sessionId ∈ (l.state.shutdowns ++ _).map Prod.fst
    rw [List.map_append, List.map_map]
    exact List.mem_append_right _ (List.mem_map_of_mem hs)
  unfold revoking at h
  split at h
  · split at h
    · rename_i hsweeper
      cases h
      simp only [step, sweep, hsweeper, TunnelState.revokeStep, hid]
      exact hbucket
    · cases h
  · split at h
    · rename_i htask
      cases h
      simp only [step, advance, htask, RegistryOp.step, TunnelState.revokeStep, hid]
      exact hbucket
    · cases h
  · cases h

end Listener

/-! ## What the steps of the system do to the listener -/

namespace ControlSystem

variable {sys : ControlSystem}

/-- A frame changes no entry of the control peers. -/
theorem listener_handleFrame (sys : ControlSystem) (s : TunnelSession) (now : Instant)
    (frame : TunnelFrame) :
    ∃ reg, reg.controlPeers = sys.listener.state.registry.controlPeers ∧
      (sys.handleFrame s now frame).listener = sys.listener.setRegistry reg := by
  have hsame : ∃ reg, reg.controlPeers = sys.listener.state.registry.controlPeers ∧
      sys.listener = sys.listener.setRegistry reg := ⟨sys.listener.state.registry, rfl, rfl⟩
  cases frame with
  | heartbeat n =>
    exact ⟨(sys.listener.state.registry.recordHeartbeat s.backendId s.sessionId now).1, rfl, rfl⟩
  | health reported available =>
    dsimp only [handleFrame]
    split <;> exact hsame
  | refuseWake refused =>
    dsimp only [handleFrame]
    split
    · exact ⟨sys.listener.state.registry.notifySessionWaiters refused, rfl, rfl⟩
    · exact hsame
  | _ => exact hsame

theorem wakes_handleFrame (sys : ControlSystem) (s : TunnelSession) (now : Instant)
    (frame : TunnelFrame) : (sys.handleFrame s now frame).wakes = sys.wakes := by
  cases frame with
  | health reported available =>
    dsimp only [handleFrame]
    split <;> rfl
  | refuseWake refused =>
    dsimp only [handleFrame]
    split <;> rfl
  | _ => rfl

theorem listener_takeBranch (sys : ControlSystem) (s : TunnelSession) (now : Instant)
    (branch : ControlBranch) :
    ∃ reg, reg.controlPeers = sys.listener.state.registry.controlPeers ∧
      (sys.takeBranch s now branch).listener = sys.listener.setRegistry reg := by
  unfold takeBranch
  split
  · exact sys.listener_handleFrame s now _
  · exact ⟨_, rfl, rfl⟩

theorem wakes_loop (sys : ControlSystem) (i : Nat) (branch : ControlBranch) (now : Instant)
    (acked : Bool) : (sys.loop i branch now acked).wakes = sys.wakes := by
  have htake : ∀ s, (sys.takeBranch s now branch).wakes = sys.wakes := by
    intro s
    unfold takeBranch
    split
    · exact sys.wakes_handleFrame s now _
    · rfl
  unfold loop
  split
  · split
    · rfl
    · dsimp only
      split <;> exact htake _
  · rfl

theorem wakes_onListener (sys : ControlSystem) (a : ListenerAction) :
    (sys.onListener a).wakes = sys.wakes := by
  unfold onListener
  split
  · split <;> rfl
  · rfl

/-- What a step of the system does to the listener: a step of the listener, or a frame, after which
    the control loop may end. -/
inductive Moved (l : Listener) : Listener → Prop
  | step (a : ListenerAction) : Moved l (l.step a)
  | frame {reg : TunnelRegistry} (hpeers : reg.controlPeers = l.state.registry.controlPeers) :
      Moved l (l.setRegistry reg)
  | ended {reg : TunnelRegistry} {i : Nat} {s : TunnelSession}
      (hpeers : reg.controlPeers = l.state.registry.controlPeers) (hserves : l.tasks i = .serve s) :
      Moved l ((l.setRegistry reg).setTask i (.leave s .peers (.ok ())))

theorem Moved.refl (l : Listener) : Moved l l := @frame l l.state.registry rfl

theorem moved_loop (sys : ControlSystem) (i : Nat) (branch : ControlBranch) (now : Instant)
    (acked : Bool) : Moved sys.listener (sys.loop i branch now acked).listener := by
  unfold loop
  split
  · rename_i s hserves
    obtain ⟨reg, hpeers, hreg⟩ := sys.listener_takeBranch s now branch
    split
    · exact .refl _
    · dsimp only
      split
      · rw [hreg]
        exact .frame hpeers
      · dsimp only
        rw [hreg]
        exact .ended hpeers hserves
  · exact .refl _

theorem moved_step (sys : ControlSystem) (a : ControlAction) :
    Moved sys.listener (sys.step a).listener := by
  cases a with
  | listener a =>
    have hstep := Moved.step (l := sys.listener) a
    dsimp only [step, onListener]
    split
    · split
      · exact .refl _
      · exact hstep
    · exact hstep
  | loop i branch now acked => exact sys.moved_loop i branch now acked
  | dispatchWake j backendId timeoutMs =>
    dsimp only [step, dispatchWake]
    split <;> exact .refl _
  | visitPeer j peer =>
    dsimp only [step, visitPeer]
    split <;> exact .refl _
  | pushWake j opened =>
    dsimp only [step, pushWake]
    split <;> exact .refl _

/-- A step of a revocation is one of the listener. -/
theorem onListener_of_revoking {a : ListenerAction} (h : (sys.listener.revoking a).isSome) :
    (sys.onListener a).listener = sys.listener.step a := by
  unfold onListener
  split
  · split
    · rename_i hserves
      simp only [Listener.revoking, hserves, Option.isSome_none, Bool.false_eq_true] at h
    · rfl
  · rfl

variable {l l' : Listener}

theorem Moved.held (h : Moved l l') (hheld : l.Held) : l'.Held := by
  cases h with
  | step a => exact hheld.step a
  | frame hpeers =>
    intro sid conn hget
    exact hheld sid conn (hpeers ▸ hget)
  | ended hpeers hserves =>
    refine hheld.goes_on (fun sid conn hget => hpeers ▸ hget) fun s' hs' => ?_
    rw [hserves] at hs'
    exact hs'

theorem Moved.shutdowns (h : Moved l l') : l.state.shutdowns <+: l'.state.shutdowns := by
  cases h with
  | step a => exact l.shutdowns_step a
  | frame | ended => exact List.prefix_refl _

end ControlSystem

/-! ## Runs -/

/-- A run with the sessions that revocations have removed. -/
structure PeerRun where
  sys : ControlSystem
  /-- What the call of `revoke_matching` in progress has removed, for the sweeper and for each
      task. -/
  removing : Option Nat → List TunnelSession
  /-- What calls of `revoke_matching` that have returned have removed. -/
  revoked : List TunnelSession
  /-- What was revoked when the dispatch began. -/
  started : Nat → List TunnelSession
  /-- The connections to which `Wake` frames were pushed, with what was revoked when the dispatch
      began. -/
  pushes : List (ConnectionId × List TunnelSession)
  /-- The sessions whose `Health` and `RefuseWake` frames were applied, with what was revoked by
      then. -/
  applied : List (TunnelSession × List TunnelSession)

/-- The session whose `Health` or `RefuseWake` frame is applied. -/
def ControlSystem.applies (sys : ControlSystem) (i : Nat) : ControlBranch → List TunnelSession
  | .read (.frame frame) =>
    match sys.listener.tasks i, frame with
    | .serve s, .health _ _ => if s.isControlPeer && sys.health.isSome then [s] else []
    | .serve s, .refuseWake _ => if s.isControlPeer then [s] else []
    | _, _ => []
  | _ => []

/-- The connections that a dispatch has collected and not yet come to. -/
def WakeCall.peers : WakeCall → List ConnectionId
  | .idle => []
  | .collecting _ _ peers | .pushing _ peers => peers

namespace PeerRun

def start (sys : ControlSystem) : PeerRun :=
  { sys
    removing := fun _ => []
    revoked := []
    started := fun _ => []
    pushes := []
    applied := [] }

/-- The books on revocations, after a step of the listener. -/
def noteRemoved (s : PeerRun) (a : ListenerAction) : PeerRun :=
  match s.sys.listener.revoking a with
  | some (k, _, .start, _) => { s with removing := Function.update s.removing k [] }
  | some (k, set, .buckets _ _, input) =>
    match input.bucket with
    | some id =>
      { s with
        removing :=
          Function.update s.removing k (s.removing k ++ s.sys.listener.goneFrom set id) }
    | none => s
  | some (k, _, .dropEmpty _, _) => { s with revoked := s.revoked ++ s.removing k }
  | none => s

def step (s : PeerRun) (a : ControlAction) : PeerRun :=
  let sys := s.sys.step a
  match a with
  | .listener a => { s.noteRemoved a with sys }
  | .loop i branch _ _ =>
    { s with sys, applied := s.applied ++ (s.sys.applies i branch).map fun peer => (peer, s.revoked) }
  | .dispatchWake j _ _ =>
    match s.sys.wakes j with
    | .idle => { s with sys, started := Function.update s.started j s.revoked }
    | _ => { s with sys }
  | .visitPeer _ _ => { s with sys }
  | .pushWake j opened =>
    { s with
      sys
      pushes := s.pushes ++ (s.sys.pushed j opened).toList.map fun push => (push.1, s.started j) }

/-- A control loop that was sent a `Shutdown` does not read on, and a dispatch does not go over the
    control peers before those that were revoked when it began have been taken out. -/
def Heeds (s : PeerRun) : ControlAction → Prop
  | .loop i (.read _) _ _ => ∀ peer, s.sys.listener.tasks i = .serve peer →
      ¬ s.sys.listener.Told peer.sessionId
  | .visitPeer j (some _) => ∀ i peer, (s.sys.listener.tasks i).enrolled = some peer →
      ∀ r ∈ s.started j, r.connection ≠ peer.connection
  | _ => True

/-- No `Wake` was pushed to the connection of a session that was revoked when its dispatch began, and
    no frame was applied of a session that was revoked by then. -/
structure NoInfluence (s : PeerRun) : Prop where
  pushes : ∀ push ∈ s.pushes, ∀ r ∈ push.2, r.connection ≠ push.1
  applied : ∀ frame ∈ s.applied, ∀ r ∈ frame.2, r.sessionId ≠ frame.1.sessionId

/-- What carries it: entries are in hands, and removed sessions have been sent a `Shutdown`. -/
structure Inv (s : PeerRun) : Prop where
  held : s.sys.listener.Held
  removing_told : ∀ k, ∀ r ∈ s.removing k, s.sys.listener.Told r.sessionId
  revoked_told : ∀ r ∈ s.revoked, s.sys.listener.Told r.sessionId
  collected : ∀ j, ∀ conn ∈ (s.sys.wakes j).peers, ∀ r ∈ s.started j, r.connection ≠ conn
  noInfluence : s.NoInfluence

variable {s : PeerRun} {a : ControlAction}

theorem sys_step (s : PeerRun) (a : ControlAction) : (s.step a).sys = s.sys.step a := by
  cases a with
  | dispatchWake j backendId timeoutMs =>
    dsimp only [step]
    split <;> rfl
  | _ => rfl

theorem told_step {sid : SessionId} (h : s.sys.listener.Told sid) :
    (s.step a).sys.listener.Told sid := by
  rw [sys_step]
  exact h.mono (s.sys.moved_step a).shutdowns

/-- What a step of a revocation takes note of. -/
theorem Inv.told_noteRemoved (h : s.Inv) (a : ListenerAction) :
    (∀ k, ∀ r ∈ (s.noteRemoved a).removing k, (s.sys.onListener a).listener.Told r.sessionId) ∧
      ∀ r ∈ (s.noteRemoved a).revoked, (s.sys.onListener a).listener.Told r.sessionId := by
  have hmono : ∀ {sid}, s.sys.listener.Told sid → (s.sys.onListener a).listener.Told sid :=
    fun htold => htold.mono (s.sys.moved_step (.listener a)).shutdowns
  have hremoving : ∀ k, ∀ r ∈ s.removing k, (s.sys.onListener a).listener.Told r.sessionId :=
    fun k r hr => hmono (h.removing_told k r hr)
  have hrevoked : ∀ r ∈ s.revoked, (s.sys.onListener a).listener.Told r.sessionId :=
    fun r hr => hmono (h.revoked_told r hr)
  have hupdate : ∀ {k v}, (∀ r ∈ v, (s.sys.onListener a).listener.Told r.sessionId) →
      ∀ k', ∀ r ∈ Function.update s.removing k v k',
        (s.sys.onListener a).listener.Told r.sessionId := by
    intro k v hv
    rw [Function.forall_update_iff s.removing
      fun _ v => ∀ r ∈ v, (s.sys.onListener a).listener.Told r.sessionId]
    exact ⟨hv, fun k' _ => hremoving k'⟩
  unfold noteRemoved
  split
  · exact ⟨hupdate (fun r hr => by cases hr), hrevoked⟩
  · rename_i k set todo revoked input hrevoking
    split
    · rename_i id hid
      refine ⟨hupdate fun r hr => ?_, hrevoked⟩
      cases List.mem_append.mp hr with
      | inl hold => exact hremoving k r hold
      | inr hgone =>
        rw [ControlSystem.onListener_of_revoking (by rw [hrevoking]; rfl)]
        exact Listener.told_goneFrom hrevoking hid hgone
    · exact ⟨hremoving, hrevoked⟩
  · rename_i k set revoked input hrevoking
    refine ⟨hremoving, fun r hr => ?_⟩
    cases List.mem_append.mp hr with
    | inl hold => exact hrevoked r hold
    | inr hgone => exact hremoving k r hgone
  · exact ⟨hremoving, hrevoked⟩

/-- The other fields are not touched by it. -/
theorem noteRemoved_eq (s : PeerRun) (a : ListenerAction) :
    (s.noteRemoved a).started = s.started ∧ (s.noteRemoved a).pushes = s.pushes ∧
      (s.noteRemoved a).applied = s.applied := by
  unfold noteRemoved
  split
  · exact ⟨rfl, rfl, rfl⟩
  · split <;> exact ⟨rfl, rfl, rfl⟩
  · exact ⟨rfl, rfl, rfl⟩
  · exact ⟨rfl, rfl, rfl⟩

theorem Inv.held_step (h : s.Inv) (a : ControlAction) : (s.step a).sys.listener.Held := by
  rw [sys_step]
  exact (s.sys.moved_step a).held h.held

theorem Inv.listener (h : s.Inv) (a : ListenerAction) : (s.step (.listener a)).Inv := by
  obtain ⟨hremoving, hrevoked⟩ := h.told_noteRemoved a
  obtain ⟨hstarted, hpushes, happlied⟩ := s.noteRemoved_eq a
  constructor
  · exact h.held_step _
  · exact hremoving
  · exact hrevoked
  · intro j conn hconn r hr
    have hwakes : (s.step (.listener a)).sys.wakes = s.sys.wakes := s.sys.wakes_onListener a
    rw [hwakes] at hconn
    exact h.collected j conn hconn r (hstarted ▸ hr)
  · constructor
    · exact fun push hpush => h.noInfluence.pushes push (hpushes ▸ hpush)
    · exact fun frame hframe => h.noInfluence.applied frame (happlied ▸ hframe)

variable {i j : Nat} {branch : ControlBranch}

/-- A frame is applied by a control loop that read it. -/
theorem applies_serve {sys : ControlSystem} {peer : TunnelSession} (h : peer ∈ sys.applies i branch) :
    sys.listener.tasks i = .serve peer ∧ ∃ result, branch = .read result := by
  unfold ControlSystem.applies at h
  split at h
  · split at h
    · rename_i hserves
      split at h
      · exact ⟨List.mem_singleton.mp h ▸ hserves, _, rfl⟩
      · cases h
    · rename_i hserves
      split at h
      · exact ⟨List.mem_singleton.mp h ▸ hserves, _, rfl⟩
      · cases h
    · cases h
  · cases h

theorem Inv.loop (h : s.Inv) {now : Instant} {acked : Bool}
    (hok : s.Heeds (.loop i branch now acked)) : (s.step (.loop i branch now acked)).Inv := by
  constructor
  · exact h.held_step _
  · exact fun k r hr => told_step (h.removing_told k r hr)
  · exact fun r hr => told_step (h.revoked_told r hr)
  · intro j conn hconn
    have hwakes : (s.step (.loop i branch now acked)).sys.wakes = s.sys.wakes :=
      s.sys.wakes_loop i branch now acked
    rw [hwakes] at hconn
    exact h.collected j conn hconn
  · constructor
    · exact h.noInfluence.pushes
    · intro frame hframe r hr
      cases List.mem_append.mp hframe with
      | inl hold => exact h.noInfluence.applied frame hold r hr
      | inr hnew =>
        obtain ⟨peer, hpeer, rfl⟩ := List.mem_map.mp hnew
        obtain ⟨hserves, result, rfl⟩ := applies_serve hpeer
        -- the revoked session was sent a `Shutdown`, the one that reads on was not
        intro heq
        exact hok peer hserves (heq ▸ h.revoked_told r hr)

/-- Steps of a dispatch, which revoke nothing and apply no frame. -/
theorem Inv.of_dispatch (h : s.Inv) {s' : PeerRun} (hsys : s'.sys.listener = s.sys.listener)
    (hremoving : s'.removing = s.removing) (hrevoked : s'.revoked = s.revoked)
    (happlied : s'.applied = s.applied)
    (hcollected : ∀ j, ∀ conn ∈ (s'.sys.wakes j).peers, ∀ r ∈ s'.started j, r.connection ≠ conn)
    (hpushes : ∀ push ∈ s'.pushes, ∀ r ∈ push.2, r.connection ≠ push.1) : s'.Inv := by
  constructor
  · exact hsys ▸ h.held
  · rw [hremoving, hsys]
    exact h.removing_told
  · rw [hrevoked, hsys]
    exact h.revoked_told
  · exact hcollected
  · exact ⟨hpushes, happlied ▸ h.noInfluence.applied⟩

theorem Inv.dispatchWake (h : s.Inv) (j : Nat) (backendId : Bytes) (timeoutMs : UInt64) :
    (s.step (.dispatchWake j backendId timeoutMs)).Inv := by
  cases hwake : s.sys.wakes j with
  | idle =>
    -- a call that has just begun has collected nothing
    have hwakes : ∀ j', ((s.sys.dispatchWake j backendId timeoutMs).wakes j').peers =
        (s.sys.wakes j').peers := by
      intro j'
      unfold ControlSystem.dispatchWake
      rw [hwake]
      split
      · by_cases hj : j' = j
        · subst hj
          simp only [ControlSystem.setWake, Function.update_self, WakeCall.peers, hwake]
        · simp only [ControlSystem.setWake, Function.update_of_ne hj]
      · rfl
    have hlistener : (s.sys.dispatchWake j backendId timeoutMs).listener = s.sys.listener := by
      unfold ControlSystem.dispatchWake
      split <;> rfl
    simp only [step, hwake]
    refine h.of_dispatch hlistener rfl rfl rfl (fun j' conn hconn r hr => ?_) h.noInfluence.pushes
    simp only [ControlSystem.step, hwakes] at hconn
    by_cases hj : j' = j
    · subst hj
      rw [hwake] at hconn
      cases hconn
    · simp only [Function.update_of_ne hj] at hr
      exact h.collected j' conn hconn r hr
  | collecting | pushing =>
    simp only [step, ControlSystem.step, ControlSystem.dispatchWake, hwake]
    exact h

/-- A change of one dispatch, which keeps what was revoked when it began. -/
theorem Inv.setWake (h : s.Inv) {call : WakeCall}
    (hcall : ∀ conn ∈ call.peers, ∀ r ∈ s.started j, r.connection ≠ conn)
    {pushes : List (ConnectionId × List TunnelSession)}
    (hpushes : ∀ push ∈ pushes, ∀ r ∈ push.2, r.connection ≠ push.1) :
    { s with sys := s.sys.setWake j call, pushes }.Inv := by
  refine h.of_dispatch rfl rfl rfl rfl ?_ hpushes
  show ∀ j', ∀ conn ∈ (Function.update s.sys.wakes j call j').peers,
    ∀ r ∈ s.started j', r.connection ≠ conn
  rw [Function.forall_update_iff s.sys.wakes
    fun j' call => ∀ conn ∈ call.peers, ∀ r ∈ s.started j', r.connection ≠ conn]
  exact ⟨hcall, fun j' _ => h.collected j'⟩

theorem Inv.visitPeer (h : s.Inv) {peer : Option SessionId} (hok : s.Heeds (.visitPeer j peer)) :
    (s.step (.visitPeer j peer)).Inv := by
  have hcollected := h.collected j
  cases hwake : s.sys.wakes j with
  | collecting frame todo peers =>
    rw [hwake] at hcollected
    cases peer with
    | some sid =>
      simp only [step, ControlSystem.step, ControlSystem.visitPeer, hwake]
      refine h.setWake (fun conn hconn r hr => ?_) h.noInfluence.pushes
      cases List.mem_append.mp hconn with
      | inl hold => exact hcollected conn hold r hr
      | inr hnew =>
        -- the entry is in the hands of a task, which is not that of a revoked session
        obtain ⟨i, peer, henrolled, -, hpeer⟩ := h.held sid conn (Option.mem_toList.mp hnew)
        exact hpeer ▸ hok i peer henrolled r hr
    | none =>
      cases todo with
      | nil =>
        simp only [step, ControlSystem.step, ControlSystem.visitPeer, hwake]
        refine h.setWake ?_ h.noInfluence.pushes
        exact hcollected
      | cons sid todo =>
        simp only [step, ControlSystem.step, ControlSystem.visitPeer, hwake]
        exact h
  | idle | pushing =>
    simp only [step, ControlSystem.step, ControlSystem.visitPeer, hwake]
    exact h

theorem Inv.pushWake (h : s.Inv) (j : Nat) (opened : Bool) : (s.step (.pushWake j opened)).Inv := by
  have hcollected := h.collected j
  have hpushes : ∀ push ∈ (s.step (.pushWake j opened)).pushes, ∀ r ∈ push.2,
      r.connection ≠ push.1 := by
    intro push hpush
    cases List.mem_append.mp hpush with
    | inl hold => exact h.noInfluence.pushes push hold
    | inr hnew =>
      obtain ⟨⟨conn, frame⟩, hpushed, rfl⟩ := List.mem_map.mp hnew
      simp only [ControlSystem.pushed, Option.mem_toList] at hpushed
      split at hpushed
      · rename_i hwake
        split at hpushed
        · cases hpushed
          rw [hwake] at hcollected
          exact hcollected conn (List.mem_cons_self ..)
        · cases hpushed
      · cases hpushed
  have hsys : ∀ {sys}, s.sys.pushWake j = sys →
      { s with sys, pushes := (s.step (.pushWake j opened)).pushes }.Inv →
      (s.step (.pushWake j opened)).Inv := by
    intro sys hsys hinv
    subst hsys
    exact hinv
  refine hsys rfl ?_
  unfold ControlSystem.pushWake
  split
  · rename_i frame conn rest hwake
    rw [hwake] at hcollected
    refine h.setWake (fun conn' hconn' => ?_) hpushes
    exact hcollected conn' (List.mem_cons_of_mem conn hconn')
  · exact h.setWake (fun conn hconn => by cases hconn) hpushes
  · exact h.of_dispatch rfl rfl rfl rfl h.collected hpushes

theorem Inv.step (h : s.Inv) (hok : s.Heeds a) : (s.step a).Inv := by
  cases a with
  | listener a => exact h.listener a
  | loop i branch now acked => exact h.loop hok
  | dispatchWake j backendId timeoutMs => exact h.dispatchWake j backendId timeoutMs
  | visitPeer j peer => exact h.visitPeer hok
  | pushWake j opened => exact h.pushWake j opened

theorem inv_start (config : TunnelConfig) (maxSessionsPerBackend : UInt32)
    (health : Option HealthState) : (start (.init config maxSessionsPerBackend health)).Inv := by
  constructor
  · intro sid conn hget
    cases hget
  · exact fun k r hr => by cases hr
  · exact fun r hr => by cases hr
  · exact fun j conn hconn => by cases hconn
  · exact ⟨(fun push hpush => by cases hpush), (fun frame hframe => by cases hframe)⟩

end PeerRun

/-- In every run that heeds revocations, a session that `revoke_matching` has removed is without
    influence once the call has returned. -/
theorem revoked_peers_have_no_influence (config : TunnelConfig) (maxSessionsPerBackend : UInt32)
    (health : Option HealthState) (as : List ControlAction)
    (h : RunOk PeerRun.step PeerRun.Heeds (.start (.init config maxSessionsPerBackend health)) as) :
    (run PeerRun.step (.start (.init config maxSessionsPerBackend health)) as).NoInfluence :=
  (@run_invariant _ _ _ PeerRun.Heeds PeerRun.Inv (fun _ _ hinv hok => hinv.step hok) _ as
    (PeerRun.inv_start config maxSessionsPerBackend health) h).noInfluence

namespace Sample

/-- The devices 7 and 8 register as control peers, each on a connection of its own; then device 7 is
    revoked, and the sweeper goes over both. -/
def peerRevoked : List ControlAction :=
  let control : ArrayString 8 := ⟨Bytes.ascii "control", by decide⟩
  let actions : List ListenerAction :=
    registration 0 1 { establish device deviceName with capabilities := [control] } ++
    registration 1 2
      { establish second secondName with connection := 1, capabilities := [control] } ++
    [.publish { spki := [], backendIds := [device] },
      .sweep input, .sweep input,
      .sweep { input with bucket := some second },
      .sweep { input with bucket := some device },
      .sweep input, .sweep input]
  actions.map .listener

/-- A dispatch that visits the given control peers and pushes its frame to all of them. -/
def dispatch (peers : List SessionId) : List ControlAction :=
  [.dispatchWake 0 second.bytes 1000] ++
  peers.map (fun sid => .visitPeer 0 (some sid)) ++
  [.visitPeer 0 none] ++
  peers.map (fun _ => .pushWake 0 true)

/-- The control loop of device 7 ends and its task deregisters it, before a dispatch, and before
    device 8 refuses a `Wake`. -/
def peerLeft : List ControlAction :=
  peerRevoked ++ [.loop 0 .outbound 0 true] ++
  List.replicate 3 (.listener (.advance 0 (listenerInput 1))) ++
  dispatch [(session 2).sessionId] ++
  [.loop 1 (.read (.frame (.refuseWake second))) 0 true]

/-- A dispatch and a frame of device 7 come first. -/
def peerLingers : List ControlAction :=
  peerRevoked ++ dispatch [(session 1).sessionId, (session 2).sessionId] ++
  [.loop 0 (.read (.frame (.refuseWake second))) 0 true]

end Sample

/-- Device 7 gets no `Wake`, and device 8 goes on steering. -/
theorem left_peer_has_no_influence :
    let s := run PeerRun.step (.start (.init ⟨[], none⟩ 4 none)) Sample.peerLeft
    s.revoked.map TunnelSession.connection = [0] ∧ s.pushes.map Prod.fst = [1] ∧
    s.sys.refused.keys = [Sample.second] ∧ s.NoInfluence := by
  intro s
  have hok : RunOk PeerRun.step PeerRun.Heeds (.start (.init ⟨[], none⟩ 4 none))
      Sample.peerLeft := by
    repeat refine ⟨trivial, ?_⟩
    refine ⟨fun i peer h => ?_, ?_⟩
    · match i with
      | 0 => cases h
      | 1 =>
        cases h
        decide +kernel
      | i + 2 => cases h
    repeat refine ⟨trivial, ?_⟩
    refine ⟨fun peer h => ?_, trivial⟩
    cases h
    decide +kernel
  exact ⟨by decide +kernel, by decide +kernel, by decide +kernel,
    revoked_peers_have_no_influence ⟨[], none⟩ 4 none Sample.peerLeft hok⟩

/-- After `revoke_matching` has removed the session of device 7 and returned, a dispatch that starts
    later pushes a `Wake` to its connection, and its `RefuseWake` is applied. -/
theorem lingering_peer_steers :
    let s := run PeerRun.step (.start (.init ⟨[], none⟩ 4 none)) Sample.peerLingers
    (∃ push ∈ s.pushes, ∃ r ∈ push.2, r.connection = push.1) ∧
    (∃ frame ∈ s.applied, ∃ r ∈ frame.2, r.sessionId = frame.1.sessionId) ∧
    s.sys.refused.keys = [Sample.second] := by
  decide +kernel

end Reduction
