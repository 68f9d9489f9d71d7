import Reduction.Native.Listener
import Reduction.Spec.RegistryCalls

/-!
# No revoked session survives a sweep

A registration checks the denylist before it registers and again afterwards; the
sweeper goes over the registry once for each denylist that it reads.  Neither
holds a lock across its steps.

The invariant: a session in the registry is one of a registration whose
re-check is not over, or the latest denylist does not name it, or the sweeper
still has to visit its bucket with the latest denylist.

## Key results

- `revoked_session_is_pending`: when the sweeper is through with the latest
  denylist, a session that it names is one of a registration whose re-check is
  not over
- `swept_registry_has_no_revoked_session`: so there is none if there is no such
  registration
-/

namespace Reduction

open Run

/-- The session that a registration has pushed and may have to take back: its re-check, with the
    rollback that follows from it, is not over. -/
def ListenerTask.pending : ListenerTask → Option TunnelSession
  | register s .insertPeer | register s .notify | recheck s
  | rollback s .peers | rollback s .retain => some s
  | _ => none

def Sweeper.seen : Sweeper → Nat
  | waiting seen => seen
  | sweeping seen _ _ => seen

/-- The pass over the registry will come to the bucket. -/
def TunnelState.RevokeStage.WillVisit (id : BackendId) : RevokeStage → Prop
  | start => True
  | buckets todo _ => id ∈ todo
  | dropEmpty _ => False

namespace Listener

/-- A registration of the session is still before the end of its re-check. -/
def Pending (l : Listener) (id : BackendId) (h : SessionId × PeerIdentity) : Prop :=
  ∃ i s, (l.tasks i).pending = some s ∧ s.backendId = id ∧ s.holder = h

/-- The sweeper still has to visit the bucket with the latest denylist. -/
def SweepDue (l : Listener) (id : BackendId) : Prop :=
  match l.sweeper with
  | .waiting seen => seen < l.revocation.version
  | .sweeping seen _ stage => seen < l.revocation.version ∨ stage.WillVisit id

structure Inv (l : Listener) : Prop where
  seen_le : l.sweeper.seen ≤ l.revocation.version
  reads_latest : ∀ seen set stage, l.sweeper = .sweeping seen set stage →
    seen = l.revocation.version → set = l.revocation.value
  cleared : ∀ id, ∀ h ∈ l.state.registry.holders id,
    l.Pending id h ∨ l.revocation.value.isRevoked h.2 = false ∨ l.SweepDue id

variable (config : TunnelConfig) (maxSessionsPerBackend : UInt32)

theorem init_inv : (init config maxSessionsPerBackend).Inv := by
  refine ⟨Nat.le_refl _, ?_, ?_⟩
  · intro seen set stage h
    cases h
  · intro id h hmem
    cases hmem

/-! ## Steps of the tasks -/

section Tasks

variable {l : Listener} {i : Nat} {task : ListenerTask} {st : TunnelState}

/-- What a task does keeps the invariant, if a session that it adds is pending from then on, and if
    the session that it had pending stays so, is not revoked, or is gone. -/
theorem Inv.task_step (hinv : l.Inv)
    (hadded : ∀ id, ∀ h ∈ st.registry.holders id, h ∈ l.state.registry.holders id ∨
      ∃ s, task.pending = some s ∧ s.backendId = id ∧ s.holder = h)
    (hpending : ∀ s, (l.tasks i).pending = some s → task.pending = some s ∨
      l.revocation.value.isRevoked s.identity = false ∨
      s.holder ∉ st.registry.holders s.backendId) :
    ({ l with state := st }.setTask i task).Inv := by
  refine ⟨hinv.seen_le, hinv.reads_latest, fun id h hmem => ?_⟩
  have hself : ∀ s, task.pending = some s → s.backendId = id → s.holder = h →
      ({ l with state := st }.setTask i task).Pending id h := by
    intro s hs hid hh
    exact ⟨i, s, by simpa [setTask] using hs, hid, hh⟩
  cases hadded id h hmem with
  | inr hnew =>
    obtain ⟨s, hs, hid, hh⟩ := hnew
    exact .inl (hself s hs hid hh)
  | inl hold =>
    rcases hinv.cleared id h hold with ⟨j, s, hs, hid, hh⟩ | hclear
    -- the session was pending: with another task it still is, with this one see above
    · by_cases hj : j = i
      · subst hj
        rcases hpending s hs with hstays | hgood | hgone
        · exact .inl (hself s hstays hid hh)
        · exact .inr (.inl (hh ▸ hgood))
        · subst hid hh
          exact absurd hmem hgone
      · refine .inl ⟨j, s, ?_, hid, hh⟩
        simpa [setTask, Function.update_of_ne hj] using hs
    · exact .inr hclear

/-- The case of a task that adds no session and had none pending. -/
theorem Inv.task_removes (hinv : l.Inv)
    (hkept : ∀ id, ∀ h ∈ st.registry.holders id, h ∈ l.state.registry.holders id)
    (hnone : (l.tasks i).pending = none) : ({ l with state := st }.setTask i task).Inv := by
  refine hinv.task_step (fun id h hmem => .inl (hkept id h hmem)) (fun s hs => ?_)
  rw [hnone] at hs
  cases hs

/-- The case of a task that only goes on. -/
theorem Inv.task_goes_on (hinv : l.Inv)
    (hnone : (l.tasks i).pending = none) : (l.setTask i task).Inv := by
  have hkept : ∀ id, ∀ h ∈ l.state.registry.holders id, h ∈ l.state.registry.holders id :=
    fun _ _ hmem => hmem
  exact hinv.task_removes hkept hnone

end Tasks

variable {s : TunnelSession} {l : Listener} {i : Nat}

variable {id : BackendId} {stage : TunnelRegistry.DeregisterStage}

/-- The first stage of a `register` adds its own session at most. -/
theorem mem_holders_push {reg reg' : TunnelRegistry} (h : reg.pushSession s = (reg', .ok ()))
    {x : SessionId × PeerIdentity} (hmem : x ∈ reg'.holders id) :
    x ∈ reg.holders id ∨ (s.backendId = id ∧ s.holder = x) := by
  have hholders := reg.holders_pushSession_of_ok id (s := s) (by rw [h])
  rw [h] at hholders
  rw [hholders] at hmem
  split at hmem
  · rename_i hid
    rcases List.mem_append.mp hmem with hold | hnew
    · exact .inl hold
    · exact .inr ⟨hid.symm, (List.mem_singleton.mp hnew).symm⟩
  · exact .inl hmem

theorem register_inv {stage : TunnelRegistry.RegisterStage} (hinv : l.Inv) (input : ListenerInput)
    (htask : l.tasks i = .register s stage) : (l.advance i input).Inv := by
  simp only [advance, htask]
  cases stage with
  | push =>
    have hnone : (l.tasks i).pending = none := by rw [htask]; rfl
    simp only [TunnelRegistry.registerStep]
    rcases hpush : l.state.registry.pushSession s with ⟨reg, e | ⟨⟩⟩
    · -- at the cap nothing is added
      refine hinv.task_removes (fun id x hmem => ?_) hnone
      have hholders := l.state.registry.holders_pushSession_of_error id (s := s) (e := e)
        (by rw [hpush])
      rw [hpush] at hholders
      exact hholders ▸ hmem
    · refine hinv.task_step (fun id x hmem => ?_) (fun s' hs' => ?_)
      · rcases mem_holders_push hpush hmem with hold | hnew
        · exact .inl hold
        · exact .inr ⟨s, rfl, hnew⟩
      · rw [hnone] at hs'
        cases hs'
  | insertPeer =>
    have hkept := fun id => l.state.registry.holders_registerStep id s .insertPeer (by simp)
    refine hinv.task_step (fun id x hmem => .inl (hkept id ▸ hmem)) (fun s' hs' => .inl ?_)
    rw [htask] at hs'
    exact hs'
  | notify =>
    have hkept := fun id => l.state.registry.holders_registerStep id s .notify (by simp)
    refine hinv.task_step (fun id x hmem => .inl (hkept id ▸ hmem)) (fun s' hs' => .inl ?_)
    rw [htask] at hs'
    exact hs'

/-- A session that passes the re-check is not revoked by the denylist of that moment; one that fails
    it stays pending until the rollback has taken it out of its bucket. -/
theorem recheck_inv (hinv : l.Inv) (input : ListenerInput) (htask : l.tasks i = .recheck s) :
    (l.advance i input).Inv := by
  simp only [advance, htask]
  cases hrevoked : l.revocation.value.isRevoked s.identity with
  | true =>
    refine hinv.task_step (fun id x hmem => .inl hmem) (fun s' hs' => .inl ?_)
    rw [htask] at hs'
    exact hs'
  | false =>
    refine hinv.task_step (fun id x hmem => .inl hmem) (fun s' hs' => .inr (.inl ?_))
    rw [htask] at hs'
    obtain rfl : s = s' := Option.some.inj hs'
    exact hrevoked

theorem rollback_inv (hinv : l.Inv) (input : ListenerInput) (htask : l.tasks i = .rollback s stage)
    :
    (l.advance i input).Inv := by
  have hkept := l.state.registry.deregisterStep_kept s.backendId s.sessionId stage
  simp only [advance, htask]
  cases stage with
  | peers =>
    refine hinv.task_step (fun id x hmem => .inl (hkept id x hmem)) (fun s' hs' => .inl ?_)
    rw [htask] at hs'
    exact hs'
  | retain =>
    -- this stage ends what is pending, because it takes the session out of its bucket
    have hgone : s.holder ∉ (l.state.registry.deregisterStep s.backendId s.sessionId
        .retain).1.holders s.backendId := by
      rw [TunnelRegistry.holders_deregisterStep]
      simp [TunnelRegistry.DeregisterStage.keeps]
    rcases hstep : l.state.registry.deregisterStep s.backendId s.sessionId .retain with
      ⟨reg, stage' | found⟩ <;> rw [hstep] at hkept hgone
    all_goals
      refine hinv.task_step (fun id x hmem => .inl (hkept id x hmem)) (fun s' hs' => .inr (.inr ?_))
      rw [htask] at hs'
      obtain rfl : s = s' := Option.some.inj hs'
      exact hgone
  | removeBucket removed => exact hinv.task_removes hkept (by rw [htask]; rfl)

theorem leave_inv {result : Except ReductionError Unit} (hinv : l.Inv) (input : ListenerInput)
    (htask : l.tasks i = .leave s stage result) : (l.advance i input).Inv := by
  have hnone : (l.tasks i).pending = none := by rw [htask]; rfl
  have hkept := l.state.registry.deregisterStep_kept s.backendId s.sessionId stage
  simp only [advance, htask]
  rcases hstep : l.state.registry.deregisterStep s.backendId s.sessionId stage with
    ⟨reg, stage' | found⟩ <;> rw [hstep] at hkept
  · exact hinv.task_removes hkept hnone
  · exact hinv.task_removes hkept hnone

theorem op_inv {o : RegistryOp} (hinv : l.Inv) (input : ListenerInput) (htask : l.tasks i = .op o) :
    (l.advance i input).Inv := by
  have hnone : (l.tasks i).pending = none := by rw [htask]; rfl
  have hkept := o.step_kept l.state input.toCallInput
  simp only [advance, htask]
  rcases hstep : o.step l.state input.toCallInput with ⟨st, o' | result⟩ <;> rw [hstep] at hkept
  · exact hinv.task_removes hkept hnone
  · exact hinv.task_removes hkept hnone

theorem advance_inv (hinv : l.Inv) (i : Nat) (input : ListenerInput) : (l.advance i input).Inv := by
  cases htask : l.tasks i with
  | register s stage => exact register_inv hinv input htask
  | recheck s => exact recheck_inv hinv input htask
  | rollback s stage => exact rollback_inv hinv input htask
  | leave s stage result => exact leave_inv hinv input htask
  | op o => exact op_inv hinv input htask
  | idle | rejected _ | ended _ =>
    simp only [advance, htask]
    exact hinv
  | precheck _ | capacity _ | commit _ | ack _ =>
    -- the sessions stay as they are, and none of these tasks has one pending
    simp only [advance, htask]
    split <;> exact hinv.task_goes_on (by rw [htask]; rfl)
  | serve s =>
    simp only [advance, htask]
    exact hinv.task_goes_on (by rw [htask]; rfl)

/-! ## Steps of the channel and of the sweeper -/

/-- A new denylist leaves the sweeper behind, so that a visit of every bucket is due. -/
theorem publish_inv (hinv : l.Inv) (set : RevocationSet) : (l.step (.publish set)).Inv := by
  -- what the old denylist cleared is due again under the new one
  have hbehind : l.sweeper.seen < (l.revocation.send set).version :=
    Nat.lt_succ_of_le hinv.seen_le
  refine ⟨Nat.le_of_lt hbehind, ?_, ?_⟩
  · intro seen set' stage hsweeper hseen
    simp only [step] at hsweeper hseen
    rw [hsweeper, Sweeper.seen] at hbehind
    omega
  · intro id h _
    refine .inr (.inr ?_)
    simp only [SweepDue, step]
    cases hsweeper : l.sweeper with
    | waiting seen =>
      rw [hsweeper] at hbehind
      exact hbehind
    | sweeping seen set' stage =>
      rw [hsweeper] at hbehind
      exact .inl hbehind

section Sweep

variable {l : Listener} {st : TunnelState} {seen : Nat} {set : RevocationSet}

/-- The sweeper goes on with the denylist that it has read.  That keeps the invariant if it adds no
    session, and if it leaves none that the denylist names in a bucket that it will not visit again.
    -/
theorem Inv.sweep_goes_on (hinv : l.Inv) {stage stage' : TunnelState.RevokeStage}
    (hsweeper : l.sweeper = .sweeping seen set stage)
    (hkept : ∀ id, ∀ h ∈ st.registry.holders id, h ∈ l.state.registry.holders id)
    (hvisit : ∀ id, ∀ h ∈ st.registry.holders id, stage.WillVisit id →
      set.isRevoked h.2 = false ∨ stage'.WillVisit id) :
    Inv { l with state := st, sweeper := .sweeping seen set stage' } := by
  have hle := hinv.seen_le
  rw [hsweeper, Sweeper.seen] at hle
  refine ⟨hle, ?_, fun id h hmem => ?_⟩
  · intro seen' set' stage'' heq
    cases heq
    exact hinv.reads_latest seen set stage hsweeper
  · rcases hinv.cleared id h (hkept id h hmem) with hpending | hgood | hdue
    · exact .inl hpending
    · exact .inr (.inl hgood)
    · simp only [SweepDue, hsweeper] at hdue
      by_cases hbehind : seen < l.revocation.version
      · exact .inr (.inr (.inl hbehind))
      · -- the sweeper is not behind, so the denylist that it has read is the latest
        have hlatest := hinv.reads_latest seen set stage hsweeper (by omega)
        rcases hvisit id h hmem (hdue.resolve_left hbehind) with hgood | hlater
        · exact .inr (.inl (hlatest ▸ hgood))
        · exact .inr (.inr (.inr hlater))

/-- The sweeper waits again when it has no bucket left to visit. -/
theorem Inv.sweep_ends (hinv : l.Inv) {revoked : Nat}
    (hsweeper : l.sweeper = .sweeping seen set (.dropEmpty revoked))
    (hkept : ∀ id, ∀ h ∈ st.registry.holders id, h ∈ l.state.registry.holders id) :
    Inv { l with state := st, sweeper := .waiting seen } := by
  have hle := hinv.seen_le
  rw [hsweeper, Sweeper.seen] at hle
  refine ⟨hle, by simp, fun id h hmem => ?_⟩
  rcases hinv.cleared id h (hkept id h hmem) with hpending | hgood | hdue
  · exact .inl hpending
  · exact .inr (.inl hgood)
  · simp only [SweepDue, hsweeper] at hdue
    exact .inr (.inr (hdue.resolve_right fun hvisit => hvisit))

end Sweep

theorem sweep_inv (hinv : l.Inv) (input : CallInput) : (l.sweep input).Inv := by
  unfold sweep
  cases hsweeper : l.sweeper with
  | waiting seen =>
    dsimp only
    split
    · -- the latest denylist has been read, and the whole registry is before the sweeper
      refine ⟨Nat.le_refl _, ?_, fun id h _ => .inr (.inr (.inr trivial))⟩
      intro seen' set stage heq _
      cases heq
      rfl
    · exact hinv
  | sweeping seen set stage =>
    cases stage with
    | start =>
      refine hinv.sweep_goes_on hsweeper (fun id h hmem => hmem) (fun id h hmem _ => .inr ?_)
      obtain ⟨s, hs, -⟩ := List.mem_map.mp hmem
      exact DashMap.mem_keys_of_mem_bucket hs
    | buckets todo revoked =>
      simp only [TunnelState.revokeStep]
      cases hbucket : input.bucket with
      | none =>
        refine hinv.sweep_goes_on hsweeper (fun id h hmem => hmem) (fun id h hmem hvisit => .inr ?_)
        cases htodo : todo.isEmpty with
        | false => exact hvisit
        | true =>
          rw [List.isEmpty_iff] at htodo
          rw [htodo] at hvisit
          cases hvisit
      | some id' =>
        have hholders := fun id => RegistryOp.holders_revokeBucket l.state id set id'
        refine hinv.sweep_goes_on hsweeper (fun id h hmem => ?_) (fun id h hmem hvisit => ?_)
        · rw [hholders] at hmem
          exact (List.mem_filter.mp hmem).1
        · rw [hholders] at hmem
          have hstays := (List.mem_filter.mp hmem).2
          by_cases hid : id' = id
          · -- what is left of the bucket that was visited, the denylist does not name
            exact .inl (by simpa [hid] using hstays)
          · exact .inr ((List.mem_erase_of_ne (Ne.symm hid)).mpr hvisit)
    | dropEmpty revoked =>
      refine hinv.sweep_ends hsweeper (fun id h hmem => ?_)
      simpa [TunnelState.revokeStep, TunnelRegistry.holders, DashMap.bucket_retain_nonempty]
        using hmem

/-! ## Every interleaving -/

theorem step_inv (hinv : l.Inv) (a : ListenerAction) : (l.step a).Inv := by
  have hfree : ∀ i, l.free i = true → (l.tasks i).pending = none := by
    intro i hfree
    unfold free at hfree
    cases htask : l.tasks i <;> simp_all [ListenerTask.pending]
  cases a with
  | connect i est =>
    simp only [step]
    split
    · rename_i hi
      exact hinv.task_goes_on (hfree i hi)
    · exact hinv
  | call i o =>
    simp only [step]
    split
    · rename_i hi
      exact hinv.task_goes_on (hfree i (Bool.and_eq_true_iff.mp hi).1)
    · exact hinv
  | advance i input => exact advance_inv hinv i input
  | publish set => exact publish_inv hinv set
  | sweep input => exact sweep_inv hinv input
  | connectionLost conn => exact ⟨hinv.seen_le, hinv.reads_latest, hinv.cleared⟩

theorem run_inv (actions : List ListenerAction) :
    (run step (init config maxSessionsPerBackend) actions).Inv := by
  have hstep : ∀ (l : Listener) a, l.Inv → (l.step a).Inv := fun l a hinv => step_inv hinv a
  exact run_invariant_of_step hstep (init_inv config maxSessionsPerBackend) actions

/-- When the sweeper is through with the latest denylist, a session that the denylist names is one
    of a registration whose re-check is not over. -/
theorem revoked_session_is_pending (hinv : l.Inv)
    (hswept : l.sweeper = .waiting l.revocation.version)
    (hs : s ∈ l.state.registry.sessions.bucket id)
    (hrevoked : l.revocation.value.isRevoked s.identity = true) : l.Pending id s.holder := by
  rcases hinv.cleared id s.holder (List.mem_map_of_mem hs) with hpending | hgood | hdue
  · exact hpending
  · rw [hrevoked] at hgood
    cases hgood
  · simp [SweepDue, hswept] at hdue

end Listener

/-- In whatever order registrations, session ends, publications and sweeps are interleaved: when the
    sweeper is through with the latest denylist and no registration is between its `register` and
    the end of its re-check, the registry has no session that the latest denylist revokes. -/
theorem swept_registry_has_no_revoked_session (config : TunnelConfig)
    (maxSessionsPerBackend : UInt32) (actions : List ListenerAction) :
    let l := run Listener.step (.init config maxSessionsPerBackend) actions
    l.sweeper = .waiting l.revocation.version → (∀ i, (l.tasks i).pending = none) →
      ∀ id, ∀ s ∈ l.state.registry.sessions.bucket id,
        l.revocation.value.isRevoked s.identity = false := by
  intro l hswept hsettled id s hs
  rw [← Bool.not_eq_true]
  intro hrevoked
  have hinv := Listener.run_inv config maxSessionsPerBackend actions
  obtain ⟨i, s', hpending, -⟩ := Listener.revoked_session_is_pending hinv hswept hs hrevoked
  rw [hsettled i] at hpending
  cases hpending

namespace Sample

def second : BackendId := ⟨Bytes.ascii "device-8", by decide⟩

def secondName : ArrayString 64 := ⟨Bytes.ascii "device-8", by decide⟩

def establish (backendId : BackendId) (name : ArrayString 64) : Established :=
  { connection := 0
    identity := { commonName := name, spkiSha256 := Vector.replicate 32 0 }
    remoteAddr := (session 0).remoteAddr
    backendId
    pool := (session 0).pool
    capabilities := [] }

def listenerInput (n : UInt8) : ListenerInput :=
  { input with generated := .ok (session n).sessionId, acked := true }

/-- Task `i` admits, registers, re-checks and acks. -/
def registration (i : Nat) (n : UInt8) (est : Established) : List ListenerAction :=
  .connect i est :: List.replicate 8 (.advance i (listenerInput n))

/-- The devices 7 and 8 register; then device 8 is revoked, and the sweeper goes over both. -/
def revocation : List ListenerAction :=
  registration 0 1 (establish device deviceName) ++
  registration 1 2 (establish second secondName) ++
  [.publish { spki := [], backendIds := [second] },
    .sweep input, .sweep input,
    .sweep { input with bucket := some second },
    .sweep { input with bucket := some device },
    .sweep input, .sweep input]

end Sample

/-- Device 7 is left, and not revoked. -/
theorem swept_registry_keeps_device :
    let l := run Listener.step (.init ⟨[], none⟩ 4) Sample.revocation
    l.state.registry.totalSessions = 1 ∧
    ∀ s ∈ l.state.registry.sessions.bucket Sample.device,
      l.revocation.value.isRevoked s.identity = false := by
  intro l
  have hswept : l.sweeper = .waiting l.revocation.version := rfl
  have hsettled : ∀ i, (l.tasks i).pending = none := by
    intro i
    match i with
    | 0 => rfl
    | 1 => rfl
    | i + 2 => rfl
  exact ⟨by decide +kernel, swept_registry_has_no_revoked_session ⟨[], none⟩ 4 Sample.revocation
    hswept hsettled Sample.device⟩

end Reduction
