import Reduction.ForStd.Run
import Reduction.Native.Registry

/-!
# Sessions under interleaved registry calls

What one stage of a registry call does to the sessions of a bucket, and from it
what a whole interleaving does.

Of a session only its id and its identity matter here: a heartbeat changes the
rest.  `register` appends, every other stage keeps those sessions of a bucket
that it does not end.

## Key results

- `RegistryOp.holders_step`: the one description of every stage
- `registered_session_stays`: as long as no `deregister` removes a bucket that
  has been filled again, a registered session stays until it is ended
- `refilled_bucket_is_lost`: one such removal loses a session
-/

namespace Reduction

open Run

/-- What identifies a session for good. -/
abbrev TunnelSession.holder (s : TunnelSession) : SessionId × PeerIdentity :=
  (s.sessionId, s.identity)

/-- The sessions of a backend, each by its id and identity. -/
def TunnelRegistry.holders (reg : TunnelRegistry) (id : BackendId) :
    List (SessionId × PeerIdentity) :=
  (reg.sessions.bucket id).map TunnelSession.holder

/-! ## One stage -/

namespace TunnelRegistry

variable (reg : TunnelRegistry) (id : BackendId)

variable {s : TunnelSession}

theorem holders_pushSession_of_ok (h : (reg.pushSession s).2 = .ok ()) :
    (reg.pushSession s).1.holders id =
      if id = s.backendId then reg.holders id ++ [s.holder] else reg.holders id := by
  unfold pushSession at h ⊢
  dsimp only at h ⊢
  split at h
  · cases h
  · rename_i hroom
    rw [if_neg hroom, holders, DashMap.bucket_insert]
    by_cases hid : id = s.backendId
    · subst hid
      simp [holders]
    · simp [hid, holders]

theorem holders_pushSession_of_error {e : ReductionError} (h : (reg.pushSession s).2 = .error e) :
    (reg.pushSession s).1.holders id = reg.holders id := by
  unfold pushSession at h ⊢
  dsimp only at h ⊢
  split at h
  · rename_i hfull
    rw [if_pos hfull, holders, DashMap.bucket_insert]
    split <;> simp_all [holders]
  · cases h

/-- After its first stage a `register` leaves the sessions alone. -/
theorem holders_registerStep (s : TunnelSession) (stage : RegisterStage) (h : stage ≠ .push) :
    (reg.registerStep s stage).1.holders id = reg.holders id := by
  cases stage with
  | push => exact absurd rfl h
  | insertPeer =>
    simp only [registerStep]
    split <;> rfl
  | notify => rfl

variable (id' : BackendId) (sid : SessionId)

variable (stage : DeregisterStage) (now : Instant)

theorem map_holder_stampFirst (sessions : List TunnelSession) :
    (stampFirst sid now sessions).map TunnelSession.holder =
      sessions.map TunnelSession.holder := by
  -- a heartbeat touches neither the id nor the identity
  induction sessions with
  | nil => rfl
  | cons s rest ih =>
    rw [stampFirst]
    split
    · rfl
    · rw [List.map_cons, ih, List.map_cons]

theorem holders_recordHeartbeat :
    (reg.recordHeartbeat id' sid now).1.holders id = reg.holders id := by
  simp only [recordHeartbeat, holders]
  rw [DashMap.bucket_modify _ _ _ rfl]
  split
  · rename_i h
    rw [map_holder_stampFirst, h]
  · rfl

theorem holders_nextSession : (reg.nextSession id').1.holders id = reg.holders id := by
  simp only [nextSession]
  split <;> rfl

/-- The sessions that a stage of a `deregister` leaves in a bucket. -/
def DeregisterStage.keeps (id' : BackendId) (sid : SessionId) (id : BackendId) :
    DeregisterStage → SessionId × PeerIdentity → Bool
  | peers => fun _ => true
  | retain => fun h => !(id = id' && h.1 = sid)
  | removeBucket _ => fun _ => id' ≠ id

theorem holders_deregisterStep :
    (reg.deregisterStep id' sid stage).1.holders id =
      (reg.holders id).filter (stage.keeps id' sid id) := by
  cases stage with
  | peers => simp [deregisterStep, holders, DeregisterStage.keeps]
  -- a missing bucket and an empty one hold the same sessions, namely none
  | retain =>
    simp only [deregisterStep, DeregisterStage.keeps]
    cases hget : reg.sessions.get id' with
    | none =>
      by_cases hid : id = id'
      · subst hid
        simp [holders, DashMap.bucket, hget]
      · simp [hid]
    | some entry =>
      simp only [holders, DashMap.bucket_insert]
      by_cases hid : id = id'
      · subst hid
        simp [DashMap.bucket, hget, List.filter_map, Function.comp_def]
      · simp [hid]
  | removeBucket removed =>
    simp only [deregisterStep, holders, DashMap.bucket_remove, DeregisterStage.keeps]
    by_cases hid : id = id'
    · simp [hid]
    · simp [hid, Ne.symm hid]

theorem deregisterStep_kept :
    ∀ id, ∀ h ∈ (reg.deregisterStep id' sid stage).1.holders id, h ∈ reg.holders id := by
  intro id h hmem
  rw [holders_deregisterStep] at hmem
  exact (List.mem_filter.mp hmem).1

end TunnelRegistry

namespace RegistryOp

/-- The stage ends the session: a `deregister` names its id, a `deregister_all` its backend, a
    revocation matches its identity, or everything is shut down. -/
def ends (o : RegistryOp) (input : CallInput) (id : BackendId) (h : SessionId × PeerIdentity) :
    Bool :=
  match o with
  | deregister id' sid .retain | dropClosed id' sid .retain => id = id' && h.1 = sid
  | deregisterAll id' => id = id'
  | revokeMatching set (.buckets _ _) => input.bucket = some id && set.isRevoked h.2
  | shutdownAll .clear => true
  | _ => false

/-- The bucket that the stage removes because an earlier stage has seen it empty. -/
def removesBucket? : RegistryOp → Option BackendId
  | deregister id _ (.removeBucket _) | dropClosed id _ (.removeBucket _) => some id
  | _ => none

variable (st : TunnelState) (input : CallInput) (id : BackendId)

variable (set : RevocationSet) (o : RegistryOp)

theorem holders_revokeBucket (id' : BackendId) :
    (st.revokeBucket set id').1.registry.holders id =
      (st.registry.holders id).filter fun h => !(id' = id && set.isRevoked h.2) := by
  simp only [TunnelState.revokeBucket, TunnelRegistry.holders]
  rw [DashMap.bucket_modify _ _ _ rfl]
  by_cases hid : id = id'
  · subst hid
    simp [List.filter_map, Function.comp_def]
  · simp [hid, Ne.symm hid]

theorem holders_revokeStep (stage : TunnelState.RevokeStage) :
    (st.revokeStep set input stage).1.registry.holders id =
      (st.registry.holders id).filter fun h => !((revokeMatching set stage).ends input id h) := by
  cases stage with
  | start => simp [TunnelState.revokeStep, ends]
  | buckets todo revoked =>
    simp only [TunnelState.revokeStep, ends]
    cases hbucket : input.bucket with
    | none => simp
    | some id' =>
      dsimp only
      rw [holders_revokeBucket]
      simp
  | dropEmpty revoked =>
    simp [TunnelState.revokeStep, TunnelRegistry.holders, DashMap.bucket_retain_nonempty, ends]

theorem holders_shutdownStep (stage : TunnelState.ShutdownStage) :
    (st.shutdownStep input stage).1.registry.holders id =
      (st.registry.holders id).filter fun h => !((shutdownAll stage).ends input id h) := by
  cases stage with
  | start => simp [TunnelState.shutdownStep, ends]
  | buckets todo =>
    simp only [TunnelState.shutdownStep, ends]
    cases input.bucket <;> simp [TunnelState.closeBucket]
  | clear => simp [TunnelState.shutdownStep, TunnelRegistry.holders, ends]; rfl

/-- What `ends` and `removesBucket?` say of the two calls that deregister a session. -/
theorem keeps_eq {o : RegistryOp} {id' : BackendId} {sid : SessionId}
    {stage : TunnelRegistry.DeregisterStage}
    (ho : o = deregister id' sid stage ∨ o = dropClosed id' sid stage) :
    (fun h => !(o.ends input id h || o.removesBucket? = some id)) = stage.keeps id' sid id := by
  funext h
  rcases ho with rfl | rfl <;> cases stage <;>
  simp [ends, removesBucket?, TunnelRegistry.DeregisterStage.keeps]

/-- A stage keeps those sessions of a bucket that it does not end, or none if it removes the
    bucket. -/
theorem holders_step :
    (o.step st input).1.registry.holders id =
      (st.registry.holders id).filter fun h =>
        !(o.ends input id h || o.removesBucket? = some id) := by
  cases o with
  | deregister id' sid stage =>
    rw [keeps_eq input id (.inl rfl), ← TunnelRegistry.holders_deregisterStep, step]
    rcases st.registry.deregisterStep id' sid stage with ⟨reg, _ | _⟩ <;> rfl
  | dropClosed id' sid stage =>
    rw [keeps_eq input id (.inr rfl), ← TunnelRegistry.holders_deregisterStep, step]
    rcases st.registry.deregisterStep id' sid stage with ⟨reg, _ | _⟩ <;> rfl
  | deregisterAll id' =>
    simp only [step, TunnelRegistry.holders, DashMap.bucket_remove, ends, removesBucket?]
    by_cases hid : id = id' <;> simp [hid]
  | recordHeartbeat id' sid =>
    simp only [step]
    rw [TunnelRegistry.holders_recordHeartbeat]
    simp [ends, removesBucket?]
  | acquireStream id' =>
    have hnext := TunnelRegistry.holders_nextSession st.registry id id'
    simp only [step]
    generalize st.registry.nextSession id' = next at hnext ⊢
    rcases next with ⟨reg, _ | s⟩ <;> simpa [ends, removesBucket?] using hnext
  | openStream conn => simp [step, ends, removesBucket?]
  | revokeMatching set stage =>
    have hstage := holders_revokeStep st input id set stage
    simp only [removesBucket?, reduceCtorEq, decide_false, Bool.or_false]
    rw [← hstage, step]
    rcases st.revokeStep set input stage with ⟨st', _ | _⟩ <;> rfl
  | shutdownAll stage =>
    have hstage := holders_shutdownStep st input id stage
    simp only [removesBucket?, reduceCtorEq, decide_false, Bool.or_false]
    rw [← hstage, step]
    rcases st.shutdownStep input stage with ⟨st', _ | _⟩ <;> rfl

theorem step_kept :
    ∀ id, ∀ h ∈ (o.step st input).1.registry.holders id, h ∈ st.registry.holders id := by
  intro id h hmem
  rw [holders_step] at hmem
  exact (List.mem_filter.mp hmem).1

end RegistryOp

/-! ## Whole interleavings -/

namespace RegistrySystem

/-- The action ends the session. -/
def ends (sys : RegistrySystem) (s : TunnelSession) : RegistryAction → Bool
  | .advance i input =>
    match sys.calls i with
    | .op o => o.ends input s.backendId s.holder
    | _ => false
  | _ => false

/-- If the action is the last stage of a `deregister`, the bucket that it removes is still empty. -/
def removesEmpty (sys : RegistrySystem) : RegistryAction → Bool
  | .advance i _ =>
    match sys.calls i with
    | .op o => o.removesBucket?.all fun id => (sys.state.registry.sessions.bucket id).isEmpty
    | _ => true
  | _ => true

/-- The registry holds the session, as far as its id and identity go. -/
def Holds (sys : RegistrySystem) (s : TunnelSession) : Prop :=
  s.holder ∈ sys.state.registry.holders s.backendId

variable (sys : RegistrySystem)

variable {i : Nat} {s : TunnelSession}

theorem advance_register_state (input : CallInput) {stage : TunnelRegistry.RegisterStage}
    (h : sys.calls i = .register s stage) :
    (sys.advance i input).state.registry = (sys.state.registry.registerStep s stage).1 := by
  simp only [advance, h]
  rcases sys.state.registry.registerStep s stage with ⟨reg, _ | _⟩ <;> rfl

theorem advance_op_state (input : CallInput) {o : RegistryOp} (h : sys.calls i = .op o) :
    (sys.advance i input).state = (o.step sys.state input).1 := by
  simp only [advance, h]
  rcases o.step sys.state input with ⟨st, _ | _⟩ <;> rfl

/-- No stage of a `register` takes a session away. -/
theorem mem_holders_registerStep {reg : TunnelRegistry} {id : BackendId}
    {h : SessionId × PeerIdentity} (hmem : h ∈ reg.holders id) (s : TunnelSession)
    (stage : TunnelRegistry.RegisterStage) : h ∈ (reg.registerStep s stage).1.holders id := by
  by_cases hpush : stage = .push
  · subst hpush
    have hok := reg.holders_pushSession_of_ok id (s := s)
    have herr := fun e => reg.holders_pushSession_of_error id (s := s) (e := e)
    simp only [TunnelRegistry.registerStep]
    generalize reg.pushSession s = pushed at hok herr ⊢
    rcases pushed with ⟨reg', e | ⟨⟩⟩
    · rw [herr e rfl]
      exact hmem
    · rw [hok rfl]
      split
      · exact List.mem_append_left _ hmem
      · exact hmem
  · rw [reg.holders_registerStep id s stage hpush]
    exact hmem

/-- One action: a session that it does not end stays, if it removes no bucket that has been filled
    again. -/
theorem step_holds {sys : RegistrySystem} {a : RegistryAction} (hheld : sys.Holds s)
    (hempty : sys.removesEmpty a = true) (hends : sys.ends s a = false) : (sys.step a).Holds s := by
  cases a with
  | register i s' =>
    simp only [step]
    split <;> exact hheld
  | call i o =>
    simp only [step]
    split <;> exact hheld
  | connectionLost conn => exact hheld
  | advance i input =>
    simp only [step]
    simp only [ends] at hends
    simp only [removesEmpty] at hempty
    unfold Holds at hheld ⊢
    cases hcall : sys.calls i with
    | register s' stage =>
      rw [advance_register_state sys input hcall]
      exact mem_holders_registerStep hheld s' stage
    | done result =>
      simp only [advance, hcall]
      exact hheld
    | op o =>
      simp only [hcall] at hends hempty
      rw [advance_op_state sys input hcall, o.holders_step]
      refine List.mem_filter.mpr ⟨hheld, ?_⟩
      rw [hends, Bool.false_or, Bool.not_eq_true', decide_eq_false_iff_not]
      intro hremoved
      -- the bucket that goes would be the session's own, but that one is not empty
      rw [hremoved, Option.all_some, List.isEmpty_iff] at hempty
      simp [TunnelRegistry.holders, hempty] at hheld

end RegistrySystem

open RegistrySystem in
/-- A session stays in the registry from the moment its `register` pushed it on, whatever calls are
    interleaved, until one of them ends it, as long as no `deregister` removes a bucket that has
    been filled again since it was seen empty. -/
theorem registered_session_stays {sys : RegistrySystem} {i : Nat} {s : TunnelSession}
    (input : CallInput) (hcall : sys.calls i = .register s .push)
    (hok : (sys.state.registry.pushSession s).2 = .ok ()) {later : List RegistryAction}
    (hempty : RunOk step (fun sys a => sys.removesEmpty a = true) (sys.step (.advance i input))
      later)
    (hends : RunOk step (fun sys a => sys.ends s a = false) (sys.step (.advance i input)) later) :
    let reg := (run step (sys.step (.advance i input)) later).state.registry
    s.backendId ∈ reg.sessions.keys ∧
      ∃ s' ∈ reg.sessions.bucket s.backendId,
        s'.sessionId = s.sessionId ∧ s'.identity = s.identity := by
  intro reg
  -- the stage that pushes the session makes it held, and each later action keeps it so
  have hpushed : (sys.step (.advance i input)).Holds s := by
    simp only [step, Holds, advance_register_state sys input hcall]
    have hholders := sys.state.registry.holders_pushSession_of_ok s.backendId hok
    simp only [TunnelRegistry.registerStep]
    generalize sys.state.registry.pushSession s = pushed at hok hholders ⊢
    obtain ⟨reg', result⟩ := pushed
    cases hok
    rw [hholders, if_pos rfl]
    exact List.mem_append_right _ (List.mem_singleton_self _)
  have hstep : ∀ sys a, Holds sys s → removesEmpty sys a = true ∧ sys.ends s a = false →
      Holds (step sys a) s := fun sys a hheld hok => step_holds hheld hok.1 hok.2
  have hheld := run_invariant hstep hpushed (hempty.and hends)
  obtain ⟨s', hs', hholder⟩ := List.mem_map.mp hheld
  exact ⟨DashMap.mem_keys_of_mem_bucket hs', s', hs', Prod.mk.inj hholder⟩

namespace Sample

def device : BackendId := ⟨Bytes.ascii "device-7", by decide⟩

def deviceName : ArrayString 64 := ⟨Bytes.ascii "device-7", by decide⟩

/-- A session of `device-7`, told from the others by the last byte of its id. -/
def session (n : UInt8) : TunnelSession :=
  { sessionId := Vector.replicate 20 48 |>.push n
    backendId := device
    pool := ⟨Bytes.ascii "devices", by decide⟩
    remoteAddr := { ip := .v4 #v[192, 0, 2, 7], port := 4433 }
    connectedAt := 0
    lastHeartbeat := 0
    connection := n.toNat
    identity := { commonName := deviceName, spkiSha256 := Vector.replicate 32 n }
    isControlPeer := false }

def input : CallInput := { now := 0, bucket := none, openError := none }

/-- Task 0 has registered session 1, task 1 is about to deregister it. -/
def deregistering : RegistrySystem :=
  run RegistrySystem.step (.init 4)
    [.register 0 (session 1), .advance 0 input, .advance 0 input, .advance 0 input,
      .call 1 (.deregister device (session 1).sessionId .peers)]

/-- Session 2 comes before session 1 goes. -/
def overlapping : RegistrySystem := run RegistrySystem.step deregistering [.register 2 (session 2)]

/-- Session 2 comes when the `deregister` of session 1 has seen the bucket empty. -/
def refilling : RegistrySystem :=
  run RegistrySystem.step deregistering
    [.advance 1 input, .advance 1 input, .register 2 (session 2)]

end Sample

example : (Sample.deregistering.state.registry.sessions.bucket Sample.device).length = 1 := by
  decide +kernel

theorem overlapping_session_stays :
    let reg := (run RegistrySystem.step (Sample.overlapping.step (.advance 2 Sample.input))
      [.advance 2 Sample.input, .advance 1 Sample.input, .advance 1 Sample.input,
        .advance 2 Sample.input]).state.registry
    ∃ s' ∈ reg.sessions.bucket Sample.device,
      s'.sessionId = (Sample.session 2).sessionId ∧ s'.identity = (Sample.session 2).identity := by
  have hcall : Sample.overlapping.calls 2 = .register (Sample.session 2) .push := rfl
  have hok : (Sample.overlapping.state.registry.pushSession (Sample.session 2)).2 = .ok () := by
    decide +kernel
  exact (registered_session_stays Sample.input hcall hok (by decide +kernel) (by decide +kernel)).2

/-- The `register` of session 2 succeeds and nothing ends the session, but the last stage of the
    `deregister` of session 1 takes it away with the bucket. -/
theorem refilled_bucket_is_lost :
    let pushed := Sample.refilling.step (.advance 2 Sample.input)
    let later := [.advance 2 Sample.input, .advance 2 Sample.input, .advance 1 Sample.input]
    let final := run RegistrySystem.step pushed later
    pushed.state.registry.sessionCount Sample.device = 1 ∧
    final.calls 2 = .done (.registered (.ok ())) ∧
    RunOk RegistrySystem.step (fun sys a => sys.ends (Sample.session 2) a = false) pushed later ∧
    final.state.registry.sessionCount Sample.device = 0 := by
  refine ⟨by decide +kernel, rfl, by decide +kernel, by decide +kernel⟩

end Reduction
