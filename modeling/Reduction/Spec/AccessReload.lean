import Reduction.ForStd.Tasks
import Reduction.Native.RawRelay
import Reduction.Native.Startup
import Reduction.Spec.IngressConservation
import Reduction.Spec.ReloadCorrect

/-!
# Access rules across reloads

The HTTP handler and the raw relay ask the published routing state for the access
rules; the ingress listeners keep the rules that they were started with.
`Process.step` lets the configuration watcher, the reload task and the UDP
workers take turns, and `access_follows_reload_iff` says when all four entry
points decide by the latest configuration, once nothing is left to be applied.
-/

namespace Reduction

open Run

variable {W : Type} {codec : Bitcode Envelope}

/-! ## Runs -/

inductive ProcessAction (W : Type) where
  /-- `reload_config`: a configuration file was read. -/
  | sendConfig (config : ReductionConfig)
  /-- The reload task takes up the configuration in the channel. -/
  | taskReads
  | taskApplies (revocationFile : Option (Option RevocationSet))
  /-- A worker takes up the configuration in the channel. -/
  | workerReads (worker : Nat)
  /-- A worker or one of its writers does something else. -/
  | ingress (worker : Nat) (action : IngressAction W)

def IngressAction.isReload : IngressAction W → Bool
  | .reload _ => true
  | _ => false

namespace Process

def onWorker (s : Process W) (worker : Nat) (f : UdpWorker W → UdpWorker W) : Process W :=
  { s with listeners := { s.listeners with udp := s.listeners.udp.modify worker f } }

def step [AsyncWrite W] (codec : Bitcode Envelope) (s : Process W) : ProcessAction W → Process W
  | .sendConfig config =>
    if config.validate.toBool then { s with config := s.config.send config } else s
  | .taskReads =>
    if s.pending.isNone && s.config.changed s.taskSeen then
      { s with pending := some s.config.value, taskSeen := s.config.version }
    else s
  | .taskApplies revocationFile =>
    match s.pending with
    | some config =>
      { s with task := s.task.applyConfigReload config revocationFile, pending := none }
    | none => s
  | .workerReads worker =>
    s.onWorker worker fun w =>
      if s.config.changed w.seen then
        { state := w.state.step codec (.reload s.config.value), seen := s.config.version }
      else w
  | .ingress worker action =>
    if action.isReload then s
    else s.onWorker worker fun w => { w with state := w.state.step codec action }

/-- Nobody has a configuration left to read or to apply. -/
structure Quiescent (s : Process W) : Prop where
  pending : s.pending = none
  task : s.taskSeen = s.config.version
  workers : ∀ w ∈ s.listeners.udp, w.state.worker.isRunning → w.seen = s.config.version

/-- The access rules that requests and raw streams are held against. -/
def published (s : Process W) : AccessControl := s.task.reloadable.value.acl

/-- Every entry point refuses a peer for its address exactly when the rules refuse it. -/
structure FollowsAccess (s : Process W) (rules : AccessControl) : Prop where
  http : ∀ state env ip identity, env.aclDenies = (fun ip => !(s.published.check ip).toBool) →
    (rejectBeforeRouting state env ip identity = some (errorResponse .forbidden "access denied") ↔
      rules.check ip = .error .accessDenied)
  rawRelay : ∀ rateLimited ip identity,
    checkAdmission s.published rateLimited ip identity s.task.revocation.value = .error .acl ↔
      rules.check ip = .error .accessDenied
  udp : ∀ w ∈ s.listeners.udp, ∀ ui, w.state.worker = .running ui → ∀ rateLimited ip len,
    admitDatagram ui.acl rateLimited ip len ui.maxDatagramBytes = .error .acl ↔
      rules.check ip = .error .accessDenied
  tcp : ∀ listener ∈ s.listeners.tcp, ∀ rateLimited ip,
    admitConnection listener.acl rateLimited ip = .error .acl ↔
      rules.check ip = .error .accessDenied

end Process

/-! ## The decision at an entry point -/

/-- Two sets of rules that decide alike. -/
def AccessControl.Agrees (acl acl' : AccessControl) : Prop := ∀ ip, acl.check ip = acl'.check ip

namespace AccessControl

variable {acl rules : AccessControl}

theorem check_eq_error_iff (acl : AccessControl) (ip : IpAddr) :
    acl.check ip = .error .accessDenied ↔ (acl.check ip).toBool = false := by
  unfold check
  dsimp only
  split
  · exact iff_of_true rfl rfl
  · split
    · exact iff_of_true rfl rfl
    · exact iff_of_false (by simp) (by simp [Except.toBool])

theorem check_eq_ok_iff (acl : AccessControl) (ip : IpAddr) :
    acl.check ip = .ok () ↔ (acl.check ip).toBool = true := by
  cases acl.check ip with
  | ok u => exact iff_of_true rfl rfl
  | error e => exact iff_of_false (by simp) (by simp [Except.toBool])

/-- Rules agree when they refuse the same addresses. -/
theorem agrees_iff : acl.Agrees rules ↔
    ∀ ip, (acl.check ip).toBool = false ↔ rules.check ip = .error .accessDenied := by
  constructor
  · intro h ip
    rw [← h ip, check_eq_error_iff]
  · intro h ip
    cases hcheck : (acl.check ip).toBool with
    | false =>
      rw [(check_eq_error_iff acl ip).mpr hcheck, (h ip).mp hcheck]
    | true =>
      have hrules : (rules.check ip).toBool = true := by
        rw [← Bool.not_eq_false, ← check_eq_error_iff, ← h ip, hcheck]
        exact Bool.true_eq_false_eq_False
      rw [(check_eq_ok_iff acl ip).mpr hcheck, (check_eq_ok_iff rules ip).mpr hrules]

end AccessControl

variable {acl : AccessControl} {rateLimited : Bool} {ip : IpAddr} {parallelism : Nat}
  {config : ReductionConfig}

theorem ite_not_eq_error_iff {ε α : Type} {allowed : Bool} {denial : ε} {rest : Except ε α}
    (h : rest ≠ .error denial) :
    (if !allowed then .error denial else rest) = .error denial ↔ allowed = false := by
  cases allowed with
  | false => exact iff_of_true rfl rfl
  | true => exact iff_of_false h Bool.true_eq_false_eq_False

variable {identity : Option PeerIdentity} {listeners : IngressListeners W}

theorem checkAdmission_eq_acl_iff {revocation : RevocationSet} :
    checkAdmission acl rateLimited ip identity revocation = .error .acl ↔
      (acl.check ip).toBool = false := by
  refine ite_not_eq_error_iff ?_
  repeat' split
  all_goals simp

theorem admitDatagram_eq_acl_iff {len : Nat} {max : UInt32} :
    admitDatagram acl rateLimited ip len max = .error .acl ↔ (acl.check ip).toBool = false := by
  refine ite_not_eq_error_iff ?_
  repeat' split
  all_goals simp

theorem admitConnection_eq_acl_iff :
    admitConnection acl rateLimited ip = .error .acl ↔ (acl.check ip).toBool = false := by
  refine ite_not_eq_error_iff ?_
  split <;> simp

theorem rejectBeforeRouting_eq_denied_iff {state : ProxyState} {env : HandlerEnv} :
    rejectBeforeRouting state env ip identity = some (errorResponse .forbidden "access denied") ↔
      env.aclDenies ip = true := by
  unfold rejectBeforeRouting
  cases env.aclDenies ip with
  | true => exact iff_of_true rfl rfl
  | false =>
    refine iff_of_false ?_ Bool.false_ne_true
    -- every other answer has another text
    simp only [Bool.false_eq_true, if_false]
    repeat' split
    all_goals intro h
    all_goals first | exact absurd (Option.some.inj h) (by decide) | cases h

/-! ## The rules that the ingress listeners work with -/

theorem IngressState.worker_onWriter (s : IngressState W) (id : BackendId)
    (f : BackendWriter W → IngressShared → Option (BackendWriter W × IngressShared)) :
    (s.onWriter id f).worker = s.worker := by
  unfold onWriter
  repeat' split
  all_goals rfl

/-- A running worker has the rules. -/
def IngressState.HasAcl (s : IngressState W) (acl : AccessControl) : Prop :=
  ∀ ui, s.worker = .running ui → ui.acl = acl

namespace IngressState

variable {s : IngressState W} {ui' : UdpIngress}

theorem running_onWorker
    {f : UdpIngress → Lanes W → IngressShared → UdpIngress × Lanes W × IngressShared}
    (hf : ∀ ui, ∃ batches, (f ui s.lanes s.shared).1 = { ui with batches })
    (h : (s.onWorker f).worker = .running ui') :
    ∃ ui, s.worker = .running ui ∧ ∃ batches, ui' = { ui with batches } := by
  unfold IngressState.onWorker at h
  cases hworker : s.worker with
  | running ui =>
    rw [hworker] at h
    obtain ⟨batches, heq⟩ := hf ui
    injection h with h
    exact ⟨ui, rfl, batches, by rw [← h, heq]⟩
  | finished =>
    rw [hworker] at h
    cases hworker.symm.trans h
  | panicked =>
    rw [hworker] at h
    cases hworker.symm.trans h

theorem running_reload {cfg : ReductionConfig} (h : (s.reload cfg).worker = .running ui') :
    ∃ ui, s.worker = .running ui ∧ ui' = (ui.applyReload cfg).1 := by
  unfold IngressState.reload at h
  cases hworker : s.worker with
  | running ui =>
    rw [hworker] at h
    dsimp only at h
    split at h
    · cases h
    · injection h with h
      exact ⟨ui, rfl, h.symm⟩
  | finished =>
    rw [hworker] at h
    cases hworker.symm.trans h
  | panicked =>
    rw [hworker] at h
    cases hworker.symm.trans h

/-- A worker that runs after a step ran before it.  A reload sets its limits, and nothing else that
    it or a writer does changes more than its batches. -/
theorem running_step [AsyncWrite W] {a : IngressAction W}
    (h : (s.step codec a).worker = .running ui') :
    ∃ ui, s.worker = .running ui ∧
      ((∃ batches, ui' = { ui with batches }) ∨
        ∃ cfg, a = .reload cfg ∧ ui' = (ui.applyReload cfg).1) := by
  have hsame : ∀ {s' : IngressState W}, s'.worker = s.worker → s'.worker = .running ui' →
      ∃ ui, s.worker = .running ui ∧
        ((∃ batches, ui' = { ui with batches }) ∨
          ∃ cfg, a = .reload cfg ∧ ui' = (ui.applyReload cfg).1) :=
    fun heq h => ⟨ui', heq ▸ h, .inl ⟨_, rfl⟩⟩
  cases a with
  | datagram arrival =>
    obtain ⟨ui, hui, heq⟩ := running_onWorker (fun ui => ui.handleDatagram_eq _ _ arrival) h
    exact ⟨ui, hui, .inl heq⟩
  | tick now =>
    obtain ⟨ui, hui, heq⟩ := running_onWorker (fun ui => ui.flushEach_eq _ _ _) h
    exact ⟨ui, hui, .inl heq⟩
  | reload cfg =>
    simp only [IngressState.step] at h
    split at h
    · obtain ⟨ui, hui, heq⟩ := running_reload h
      exact ⟨ui, hui, .inr ⟨cfg, rfl, heq⟩⟩
    · exact hsame rfl h
  | stopWorker =>
    simp only [IngressState.step] at h
    split at h
    · split at h
      · cases h
      · exact hsame rfl h
    · exact hsame rfl h
  | dequeue id =>
    simp only [IngressState.step] at h
    split at h <;> exact hsame rfl h
  | check id now => exact hsame (worker_onWriter _ _ _) h
  | dial id acquired now draw => exact hsame (worker_onWriter _ _ _) h
  | write id now draw => exact hsame (worker_onWriter _ _ _) h
  | hangUp id =>
    simp only [IngressState.step] at h
    repeat' split at h
    all_goals exact hsame rfl h
  | stopWriter id =>
    simp only [IngressState.step] at h
    repeat' split at h
    all_goals exact hsame rfl h
  | breakers circuit => exact hsame rfl h
  | shutdown => exact hsame rfl h

end IngressState

theorem UdpIngress.acl_applyReload (ui : UdpIngress) (cfg : ReductionConfig) :
    (ui.applyReload cfg).1.acl = ui.acl := by
  unfold applyReload
  split <;> rfl

/-- Nothing that a worker or a writer does changes the rules, not even a reload. -/
theorem IngressState.HasAcl.step [AsyncWrite W] {s : IngressState W} (h : s.HasAcl acl)
    (a : IngressAction W) : (s.step codec a).HasAcl acl := by
  intro ui' hui'
  obtain ⟨ui, hui, ⟨batches, rfl⟩ | ⟨cfg, -, rfl⟩⟩ := running_step hui'
  · exact h ui hui
  · rw [UdpIngress.acl_applyReload]
    exact h ui hui

/-- All listeners have the rules. -/
structure IngressListeners.HasAcl (listeners : IngressListeners W) (acl : AccessControl) : Prop where
  udp : ∀ w ∈ listeners.udp, w.state.HasAcl acl
  tcp : ∀ listener ∈ listeners.tcp, listener.acl = acl

/-- A listener starts with the rules that it is given. -/
theorem UdpIngressParams.hasAcl_spawnWorker (params : UdpIngressParams) (pool : BackendPool)
    (i : UInt16) : (params.spawnWorker pool i : IngressState W).HasAcl params.acl := by
  intro ui hui
  simp only [spawnWorker, startWorker] at hui
  split at hui
  · cases hui
  · cases hui
    rfl

/-- The worker has just been spawned, with the given rules. -/
def UdpWorker.Fresh (w : UdpWorker W) (acl : AccessControl) : Prop :=
  ∃ (params : UdpIngressParams) (pool : BackendPool) (i : UInt16),
    params.acl = acl ∧ w = { state := params.spawnWorker pool i, seen := 0 }

theorem UdpIngressParams.fresh_spawnWorkers {params : UdpIngressParams}
    {workers : List (UdpWorker W)} (h : params.spawnWorkers parallelism = .ok workers) :
    ∀ w ∈ workers, w.Fresh params.acl := by
  obtain ⟨pool, -, hworkers⟩ := bind_eq_ok.mp h
  obtain rfl := Except.ok.inj hworkers
  intro w hw
  obtain ⟨i, -, rfl⟩ := List.mem_map.mp hw
  exact ⟨params, pool, _, rfl, rfl⟩

/-- Every listener starts with the rules of the configuration. -/
theorem ReductionConfig.fresh_spawnIngressListeners
    (h : config.spawnIngressListeners parallelism = .ok listeners) :
    (∀ w ∈ listeners.udp, w.Fresh config.acl) ∧
      ∀ listener ∈ listeners.tcp, listener.acl = config.acl := by
  have hstep : ∀ (done : List IngressConfig) entry (ls ls' : IngressListeners W),
      ((∀ w ∈ ls.udp, w.Fresh config.acl) ∧ ∀ l ∈ ls.tcp, l.acl = config.acl) →
      config.spawnIngressListener parallelism ls entry = .ok ls' →
      (∀ w ∈ ls'.udp, w.Fresh config.acl) ∧ ∀ l ∈ ls'.tcp, l.acl = config.acl := by
    rintro done entry ls ls' ⟨hudp, htcp⟩ hentry
    unfold spawnIngressListener at hentry
    split at hentry
    · obtain ⟨workers, hworkers, heq⟩ := bind_eq_ok.mp hentry
      obtain rfl := Except.ok.inj heq
      exact ⟨List.forall_mem_append.mpr ⟨hudp, UdpIngressParams.fresh_spawnWorkers hworkers⟩, htcp⟩
    · obtain ⟨listener, hlistener, heq⟩ := bind_eq_ok.mp hentry
      obtain rfl := Except.ok.inj heq
      obtain ⟨pool, -, hpool⟩ := bind_eq_ok.mp hlistener
      obtain rfl := Except.ok.inj hpool
      exact ⟨hudp, List.forall_mem_append.mpr ⟨htcp, List.forall_mem_singleton.mpr rfl⟩⟩
  have hnone : (∀ w ∈ ([] : List (UdpWorker W)), w.Fresh config.acl) ∧
      ∀ l ∈ ([] : List TcpIngress), l.acl = config.acl :=
    ⟨(fun w hw => by cases hw), (fun l hl => by cases hl)⟩
  exact foldlM_invariant hstep hnone h

theorem ReductionConfig.hasAcl_spawnIngressListeners
    (h : config.spawnIngressListeners parallelism = .ok listeners) :
    listeners.HasAcl config.acl := by
  obtain ⟨hudp, htcp⟩ := fresh_spawnIngressListeners h
  refine ⟨?_, htcp⟩
  intro w hw
  obtain ⟨params, pool, i, hacl, rfl⟩ := hudp w hw
  rw [← hacl]
  exact params.hasAcl_spawnWorker pool i

/-! ## The rules that are published -/

/-- The configuration that the reload task applied last, out of those it took up in this order: one
    whose pools do not build is not applied. -/
def lastApplied (config : ReductionConfig) (read : List ReductionConfig) : ReductionConfig :=
  read.foldl (fun applied c => if c.buildBackendPools.toBool then c else applied) config

namespace Process

/-- The configurations that the reload task works off, in this order. -/
def readBy (s : Process W) : ProcessAction W → List ReductionConfig
  | .taskApplies _ => s.pending.toList
  | _ => []

/-- A task that has seen the configuration in the channel has worked it off, or is about to. -/
structure CaughtUp (s : Process W) (config : ReductionConfig) (read : List ReductionConfig) :
    Prop where
  seen_le : s.taskSeen ≤ s.config.version
  latest : s.taskSeen = s.config.version →
    (read ++ s.pending.toList).getLast?.getD config = s.config.value

variable {config : ReductionConfig} {s : Process W}

/-- The process at startup. -/
theorem start_ok {cache : ResponseCache} {revocation : RevocationSet} {parallelism : Nat}
    (h : Process.start config cache revocation parallelism = .ok s) :
    s.config = .channel config ∧ config.reloadableState = .ok s.task.reloadable.value ∧
      s.CaughtUp config [] ∧ config.spawnIngressListeners parallelism = .ok s.listeners := by
  obtain ⟨task, htask, h⟩ := bind_eq_ok.mp h
  obtain ⟨listeners, hlisteners, h⟩ := bind_eq_ok.mp h
  obtain ⟨state, hstate, htask⟩ := bind_eq_ok.mp htask
  cases htask
  cases h
  exact ⟨rfl, hstate, ⟨Nat.le_refl _, fun _ => rfl⟩, hlisteners⟩

variable [AsyncWrite W]

/-- A reload publishes the state of its configuration if the pools build. -/
theorem routing_step (h : config.reloadableState = .ok s.task.reloadable.value)
    (a : ProcessAction W) :
    (lastApplied config (s.readBy a)).reloadableState =
      .ok (s.step codec a).task.reloadable.value := by
  cases a with
  | sendConfig c =>
    simp only [step]
    split <;> exact h
  | taskReads =>
    simp only [step]
    split <;> exact h
  | taskApplies revocationFile =>
    simp only [step, readBy]
    cases hpending : s.pending with
    | none => exact h
    | some c =>
      show (if c.buildBackendPools.toBool then c else config : ReductionConfig).reloadableState =
        .ok (s.task.applyConfigReload c revocationFile).reloadable.value
      rw [c.toBool_buildBackendPools]
      cases hstate : c.reloadableState with
      | ok state =>
        rw [ReloadTask.reloadable_applyConfigReload hstate]
        exact hstate
      | error e =>
        rw [(ReloadTask.applyConfigReload_of_error hstate).1]
        exact h
  | workerReads worker => exact h
  | ingress worker action =>
    simp only [step]
    split <;> exact h

/-- At every point of a run the published state is that of the configuration applied last. -/
theorem routing_run (codec : Bitcode Envelope)
    (h : config.reloadableState = .ok s.task.reloadable.value) (as : List (ProcessAction W)) :
    (lastApplied config (emitted (step codec) readBy s as)).reloadableState =
      .ok (run (step codec) s as).task.reloadable.value := by
  induction as generalizing s config with
  | nil => exact h
  | cons a as ih =>
    rw [run_cons, ← ih (routing_step h a), emitted]
    unfold lastApplied
    rw [List.foldl_append]

variable {read : List ReductionConfig}

theorem CaughtUp.step (h : s.CaughtUp config read) (a : ProcessAction W) :
    (s.step codec a).CaughtUp config (read ++ s.readBy a) := by
  cases a with
  | sendConfig c =>
    simp only [Process.step, readBy, List.append_nil]
    split
    · have hle := h.seen_le
      constructor
      · show s.taskSeen ≤ s.config.version + 1
        omega
      · intro (heq : s.taskSeen = s.config.version + 1)
        omega
    · exact h
  | taskReads =>
    simp only [Process.step, readBy, List.append_nil]
    split
    · refine ⟨Nat.le_refl _, fun _ => ?_⟩
      show (read ++ [s.config.value]).getLast?.getD config = s.config.value
      rw [List.getLast?_concat, Option.getD_some]
    · exact h
  | taskApplies revocationFile =>
    simp only [Process.step, readBy]
    cases hpending : s.pending with
    | none =>
      rw [Option.toList_none, List.append_nil]
      exact h
    | some c =>
      refine ⟨h.seen_le, fun hseen => ?_⟩
      have hlatest := h.latest hseen
      rw [hpending] at hlatest
      rw [Option.toList_none, List.append_nil]
      exact hlatest
  | workerReads worker =>
    simp only [readBy, List.append_nil]
    exact ⟨h.seen_le, h.latest⟩
  | ingress worker action =>
    simp only [Process.step, readBy, List.append_nil]
    split
    · exact h
    · exact ⟨h.seen_le, h.latest⟩

theorem CaughtUp.of_run (codec : Bitcode Envelope) (h : s.CaughtUp config read)
    (as : List (ProcessAction W)) :
    (run (Process.step codec) s as).CaughtUp config
      (read ++ emitted (Process.step codec) readBy s as) := by
  induction as generalizing s read with
  | nil =>
    rw [emitted, List.append_nil]
    exact h
  | cons a as ih =>
    rw [emitted, ← List.append_assoc]
    exact ih (h.step a)

theorem hasAcl_step {acl : AccessControl} (h : s.listeners.HasAcl acl) (a : ProcessAction W) :
    (s.step codec a).listeners.HasAcl acl := by
  cases a with
  | sendConfig c =>
    simp only [step]
    split <;> exact h
  | taskReads =>
    simp only [step]
    split <;> exact h
  | taskApplies revocationFile =>
    simp only [step]
    split <;> exact h
  | workerReads worker =>
    refine ⟨Tasks.forall_modify h.udp (fun w _ hw => ?_) worker, h.tcp⟩
    split
    · exact hw.step _
    · exact hw
  | ingress worker action =>
    simp only [step]
    split
    · exact h
    · exact ⟨Tasks.forall_modify h.udp (fun w _ hw => hw.step action) worker, h.tcp⟩

end Process

/-- A configuration that was taken up last and whose pools build is the one that is applied. -/
theorem lastApplied_eq_of_build {latest : ReductionConfig} {read : List ReductionConfig}
    (hlast : read.getLast?.getD config = latest) (hbuild : latest.buildBackendPools.toBool) :
    lastApplied config read = latest := by
  cases hread : read.getLast? with
  | none =>
    rw [hread, Option.getD_none] at hlast
    rw [List.getLast?_eq_none_iff.mp hread]
    exact hlast
  | some c =>
    obtain rfl : c = latest := by rw [hread] at hlast; exact hlast
    obtain ⟨before, rfl⟩ := List.getLast?_eq_some_iff.mp hread
    rw [lastApplied, List.foldl_concat, if_pos hbuild]

/-! ## The entry points -/

namespace Process

theorem followsAccess_iff {s : Process W} {acl rules : AccessControl}
    (hacl : s.listeners.HasAcl acl) :
    s.FollowsAccess rules ↔ s.published.Agrees rules ∧
      ((s.listeners.tcp ≠ [] ∨ ∃ w ∈ s.listeners.udp, w.state.worker.isRunning) →
        acl.Agrees rules) := by
  constructor
  · intro h
    refine ⟨AccessControl.agrees_iff.mpr fun ip => ?_, fun hlisten => ?_⟩
    · rw [← h.rawRelay false ip none, checkAdmission_eq_acl_iff]
    · refine AccessControl.agrees_iff.mpr fun ip => ?_
      cases hlisten with
      | inl htcp =>
        obtain ⟨listener, hmem⟩ := List.exists_mem_of_ne_nil _ htcp
        rw [← h.tcp listener hmem false ip, admitConnection_eq_acl_iff, hacl.tcp listener hmem]
      | inr hudp =>
        obtain ⟨w, hmem, hrunning⟩ := hudp
        cases hworker : w.state.worker with
        | running ui =>
          rw [← h.udp w hmem ui hworker false ip 0, admitDatagram_eq_acl_iff,
            hacl.udp w hmem ui hworker]
        | finished =>
          rw [hworker] at hrunning
          cases hrunning
        | panicked =>
          rw [hworker] at hrunning
          cases hrunning
  · rintro ⟨hpublished, hlisten⟩
    rw [AccessControl.agrees_iff] at hpublished
    constructor
    · intro state env ip identity henv
      rw [rejectBeforeRouting_eq_denied_iff, henv, ← hpublished ip, Bool.not_eq_true']
    · intro rateLimited ip identity
      rw [checkAdmission_eq_acl_iff, ← hpublished ip]
    · intro w hmem ui hworker rateLimited ip len
      have hagrees := hlisten (.inr ⟨w, hmem, by rw [hworker]; rfl⟩)
      rw [admitDatagram_eq_acl_iff, hacl.udp w hmem ui hworker,
        AccessControl.agrees_iff.mp hagrees ip]
    · intro listener hmem rateLimited ip
      have hagrees := hlisten (.inl (List.ne_nil_of_mem hmem))
      rw [admitConnection_eq_acl_iff, hacl.tcp listener hmem,
        AccessControl.agrees_iff.mp hagrees ip]

end Process

/-- When nothing is left to be applied, all entry points decide by the latest configuration, unless
    its pools do not build and what is published decides otherwise, or an ingress listener is still
    there that was started with rules which decide otherwise. -/
theorem access_follows_reload_iff [AsyncWrite W] {config : ReductionConfig} {cache : ResponseCache}
    {revocation : RevocationSet} {parallelism : Nat} {s₀ : Process W}
    (hstart : Process.start config cache revocation parallelism = .ok s₀)
    {as : List (ProcessAction W)} (hquiet : (run (Process.step codec) s₀ as).Quiescent) :
    let s := run (Process.step codec) s₀ as
    let latest := s.config.value
    s.FollowsAccess (.new latest.access.allow latest.access.deny) ↔
      (latest.buildBackendPools.toBool ∨
        (lastApplied config (emitted (Process.step codec) Process.readBy s₀ as)).acl.Agrees
          latest.acl) ∧
      ((s.listeners.tcp ≠ [] ∨ ∃ w ∈ s.listeners.udp, w.state.worker.isRunning) →
        config.acl.Agrees latest.acl) := by
  obtain ⟨-, hrouting₀, hcaught₀, hlisteners⟩ := Process.start_ok hstart
  have hacl₀ : s₀.listeners.HasAcl config.acl := config.hasAcl_spawnIngressListeners hlisteners
  intro s latest
  have hacl : s.listeners.HasAcl config.acl :=
    @run_invariant_of_step _ _ _ (fun s : Process W => s.listeners.HasAcl config.acl)
      (fun _ a h => Process.hasAcl_step h a) s₀ hacl₀ as
  have hpublished : s.published =
      (lastApplied config (emitted (Process.step codec) Process.readBy s₀ as)).acl :=
    (ReductionConfig.reloadableState_ok (Process.routing_run codec hrouting₀ as)).2.2
  have hlast := (hcaught₀.of_run codec as).latest hquiet.task
  rw [hquiet.pending, Option.toList_none, List.append_nil, List.nil_append] at hlast
  rw [Process.followsAccess_iff hacl, hpublished]
  show AccessControl.Agrees _ latest.acl ∧ (_ → config.acl.Agrees latest.acl) ↔ _
  refine and_congr_left fun _ => ⟨.inr, fun h => ?_⟩
  cases h with
  | inl hbuild =>
    rw [lastApplied_eq_of_build hlast hbuild]
    exact fun _ => rfl
  | inr hagrees => exact hagrees

namespace Sample

/-- No ingress listener. -/
def webOnly : ReductionConfig := { ingressConfig 20 with ingress := [] }

/-- A UDP and a TCP listener. -/
def listening : ReductionConfig :=
  { ingressConfig 20 with
    ingress :=
      [ingressEntry 20,
        { ingressEntry 20 with protocol := .tcp, listen := { b1.address with port := 5001 } }] }

/-- The peers of one network are shut out. -/
def shutOut (config : ReductionConfig) : ReductionConfig :=
  { config with access := { allow := [], deny := [.v4 (Vector.replicate 4 10) ⟨8, by decide⟩] } }

/-- A peer of that network. -/
def peer : IpAddr := b2.address.ip

def reloadTo (config : ReductionConfig) : List (ProcessAction Bytes) :=
  [.sendConfig config, .taskReads, .taskApplies none, .workerReads 0]

end Sample

/-- Without ingress the new rules are in force. -/
theorem access_follows_reload_http :
    ∃ s₀ : Process Bytes, Process.start Sample.webOnly (.new (Sample.state 2).cacheConfig)
        .default 1 = .ok s₀ ∧
      let s := run (Process.step Sample.payloadCodec) s₀
        (Sample.reloadTo (Sample.shutOut Sample.webOnly))
      s.config.value.access = (Sample.shutOut Sample.webOnly).access ∧ s.Quiescent ∧
        s.FollowsAccess (.new s.config.value.access.allow s.config.value.access.deny) := by
  obtain ⟨s₀, hstart, hquiet, hlatest, hudp, htcp⟩ : ∃ s₀ : Process Bytes,
      Process.start Sample.webOnly (.new (Sample.state 2).cacheConfig) .default 1 = .ok s₀ ∧
      let s := run (Process.step Sample.payloadCodec) s₀
        (Sample.reloadTo (Sample.shutOut Sample.webOnly))
      s.Quiescent ∧ s.config.value = Sample.shutOut Sample.webOnly ∧ s.listeners.udp = [] ∧
        s.listeners.tcp = [] :=
    ⟨_, rfl, ⟨rfl, rfl, (fun w hw => by cases hw)⟩, rfl, rfl, rfl⟩
  refine ⟨s₀, hstart, by rw [hlatest], hquiet,
    (access_follows_reload_iff hstart hquiet).mpr ⟨.inl (by rw [hlatest]; rfl), ?_⟩⟩
  rintro (hlisten | ⟨w, hw, -⟩)
  · exact absurd htcp hlisten
  · rw [hudp] at hw
    cases hw

/-- The handler refuses the peer, and both ingress listeners go on serving it. -/
theorem ingress_keeps_startup_access :
    Sample.listening.validate = .ok () ∧ (Sample.shutOut Sample.listening).validate = .ok () ∧
    ∃ s₀ : Process Bytes, Process.start Sample.listening (.new (Sample.state 2).cacheConfig)
        .default 1 = .ok s₀ ∧
      let s := run (Process.step Sample.payloadCodec) s₀
        (Sample.reloadTo (Sample.shutOut Sample.listening))
      s.Quiescent ∧ s.config.value.acl.check Sample.peer = .error .accessDenied ∧
        s.published.check Sample.peer = .error .accessDenied ∧
        (∃ w ∈ s.listeners.udp, ∃ ui, w.state.worker = .running ui ∧
          admitDatagram ui.acl false Sample.peer 1 ui.maxDatagramBytes = .ok ()) ∧
        ∃ listener ∈ s.listeners.tcp,
          admitConnection listener.acl false Sample.peer = .ok () := by
  refine ⟨by decide, by decide, _, rfl, ⟨rfl, rfl, ?_⟩, by decide, by decide,
    ⟨_, List.mem_cons_self, _, rfl, by decide⟩, _, List.mem_cons_self, by decide⟩
  intro w hw _
  rw [List.mem_singleton.mp hw]
  rfl

end Reduction
