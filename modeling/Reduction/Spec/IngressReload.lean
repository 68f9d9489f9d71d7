import Reduction.Spec.ReloadReport

/-!
# UDP workers across reloads

A worker takes its batch limits, its linger time and its datagram bound from the
first entry with its id in the configuration that it reads.  Validation accepts a
linger time of zero, which the worker's timer does not survive, and it keeps the
listen addresses of the entries apart but not their ids.

- `udp_workers_survive_iff`: no worker is lost to its timer
- `reload_addresses_worker_iff`: a worker has the settings of the entry with its
  own listen address
-/

namespace Reduction

open Run

variable {W : Type} {codec : Bitcode Envelope}

/-- The entry, once for each of its UDP workers. -/
def IngressConfig.perWorker (parallelism : Nat) (entry : IngressConfig) : List IngressConfig :=
  match entry.protocol with
  | .udp => List.replicate (resolveWorkerCount entry.workers parallelism) entry
  | .tcp => []

namespace ReductionConfig

/-- The entry of each UDP worker, in the order in which the workers are spawned. -/
def workerEntries (config : ReductionConfig) (parallelism : Nat) : List IngressConfig :=
  config.ingress.flatMap (IngressConfig.perWorker parallelism)

/-- The entry that `apply_reload` finds for a worker. -/
def entryOf (config : ReductionConfig) (id : ArrayString 64) : Option IngressConfig :=
  config.ingress.find? fun entry => entry.id = id

/-- Every UDP entry has a worker. -/
theorem mem_workerEntries {config : ReductionConfig} {parallelism : Nat} {entry : IngressConfig} :
    entry ∈ config.workerEntries parallelism ↔ entry ∈ config.ingress ∧ entry.protocol = .udp := by
  have hcount : resolveWorkerCount entry.workers parallelism ≠ 0 := by
    unfold resolveWorkerCount
    omega
  unfold workerEntries IngressConfig.perWorker
  rw [List.mem_flatMap]
  constructor
  · rintro ⟨e, he, hmem⟩
    cases hprotocol : e.protocol with
    | udp =>
      rw [hprotocol] at hmem
      obtain ⟨-, rfl⟩ := List.mem_replicate.mp hmem
      exact ⟨he, hprotocol⟩
    | tcp =>
      rw [hprotocol] at hmem
      cases hmem
  · rintro ⟨he, hprotocol⟩
    refine ⟨entry, he, ?_⟩
    rw [hprotocol]
    exact List.mem_replicate.mpr ⟨hcount, rfl⟩

end ReductionConfig

/-! ## What a reload sets -/

namespace UdpIngress

variable {ui : UdpIngress} {entry entry' : IngressConfig} {cfg : ReductionConfig}

/-- The worker has the batch limits, the linger time and the datagram bound of the entry. -/
def HasSettings (ui : UdpIngress) (entry : IngressConfig) : Prop :=
  ui.limits =
    { maxDatagrams := entry.batchMaxDatagrams
      maxBytes := entry.batchMaxBytes
      linger := Duration.fromMillis entry.lingerMs.toNat } ∧
  ui.maxDatagramBytes = entry.maxDatagramBytes

theorem HasSettings.iff_sameTunables (h : ui.HasSettings entry) :
    ui.HasSettings entry' ↔ entry.SameTunables entry' := by
  obtain ⟨hlimits, hmax⟩ := h
  unfold HasSettings
  rw [hlimits, hmax, BatchLimits.mk.injEq, linger_inj]
  constructor
  · rintro ⟨⟨hdatagrams, hbytes, hlinger⟩, hmax⟩
    exact ⟨hdatagrams, hbytes, hlinger, hmax⟩
  · rintro ⟨hdatagrams, hbytes, hlinger, hmax⟩
    exact ⟨⟨hdatagrams, hbytes, hlinger⟩, hmax⟩

theorem ingressId_applyReload (ui : UdpIngress) (cfg : ReductionConfig) :
    (ui.applyReload cfg).1.ingressId = ui.ingressId := by
  unfold applyReload
  split <;> rfl

/-- The flag tells of every change of the linger time. -/
theorem linger_applyReload (h : (ui.applyReload cfg).2 = false) :
    (ui.applyReload cfg).1.limits.linger = ui.limits.linger := by
  unfold applyReload at h ⊢
  split
  · rfl
  · rename_i entry hsome
    rw [hsome] at h
    exact (Decidable.not_not.mp (of_decide_eq_false h)).symm

/-- A worker with a timer loses it to a linger time of zero: zero is always a change. -/
theorem reloadPanics_iff (hlinger : ui.limits.linger ≠ 0) :
    ui.reloadPanics cfg = true ↔
      ∃ entry, cfg.entryOf ui.ingressId = some entry ∧ entry.lingerMs = 0 := by
  unfold reloadPanics applyReload
  split
  · rename_i hnone
    refine iff_of_false Bool.false_ne_true ?_
    rintro ⟨entry, hentry, -⟩
    cases hnone.symm.trans hentry
  · rename_i entry hsome
    dsimp only
    rw [Bool.and_eq_true, decide_eq_true_eq, decide_eq_true_eq, linger_eq_zero]
    constructor
    · rintro ⟨-, hzero⟩
      exact ⟨entry, hsome, hzero⟩
    · rintro ⟨found, hfound, hzero⟩
      cases hsome.symm.trans hfound
      rw [linger_eq_zero.mpr hzero]
      exact ⟨hlinger, hzero⟩

end UdpIngress

/-! ## The timer of a worker -/

/-- A running worker has a timer. -/
def IngressState.LingerSet (s : IngressState W) : Prop :=
  ∀ ui, s.worker = .running ui → ui.limits.linger ≠ 0

namespace IngressState

variable {s : IngressState W} {cfg : ReductionConfig}

theorem panicked_reload_iff (h : s.LingerSet) : (s.reload cfg).worker = .panicked ↔
    s.worker = .panicked ∨ ∃ ui, s.worker = .running ui ∧
      ∃ entry, cfg.entryOf ui.ingressId = some entry ∧ entry.lingerMs = 0 := by
  unfold reload
  cases hworker : s.worker with
  | running ui =>
    have hiff := @UdpIngress.reloadPanics_iff ui cfg (h ui hworker)
    dsimp only
    by_cases hpanics : ui.reloadPanics cfg
    · rw [if_pos hpanics]
      exact iff_of_true rfl (.inr ⟨ui, rfl, hiff.mp hpanics⟩)
    · rw [if_neg hpanics]
      refine iff_of_false (fun h => by cases h) ?_
      rintro (hpanicked | ⟨ui', hui', hzero⟩)
      · cases hpanicked
      · cases hui'
        exact hpanics (hiff.mpr hzero)
  | finished =>
    refine iff_of_false (fun h => by cases hworker.symm.trans h) ?_
    rintro (hpanicked | ⟨ui, hui, -⟩)
    · cases hpanicked
    · cases hui
  | panicked => exact iff_of_true hworker (.inl rfl)

theorem LingerSet.reload (h : s.LingerSet) (cfg : ReductionConfig) : (s.reload cfg).LingerSet := by
  intro ui' hui'
  obtain ⟨ui, hui, rfl⟩ := running_reload hui'
  -- a worker that runs after the reload did not panic in it
  unfold IngressState.reload at hui'
  rw [hui] at hui'
  dsimp only at hui'
  split at hui'
  · cases hui'
  · rename_i hpanics
    intro hzero
    cases hflag : (ui.applyReload cfg).2 with
    | false => exact h ui hui ((UdpIngress.linger_applyReload hflag).symm.trans hzero)
    | true =>
      apply hpanics
      unfold UdpIngress.reloadPanics
      rw [hflag, hzero]
      rfl

variable [AsyncWrite W] {a : IngressAction W}

theorem LingerSet.step (h : s.LingerSet) (ha : a.isReload = false) :
    (s.step codec a).LingerSet := by
  intro ui' hui'
  obtain ⟨ui, hui, ⟨batches, rfl⟩ | ⟨cfg, rfl, -⟩⟩ := running_step hui'
  · exact h ui hui
  · cases ha

omit [AsyncWrite W] in
theorem panicked_onWorker
    (f : UdpIngress → Lanes W → IngressShared → UdpIngress × Lanes W × IngressShared) :
    (s.onWorker f).worker = .panicked ↔ s.worker = .panicked := by
  unfold IngressState.onWorker
  cases hworker : s.worker with
  | running ui => exact iff_of_false (fun h => by cases h) (fun h => by cases h)
  | finished => exact iff_of_false (fun h => by cases hworker.symm.trans h) (fun h => by cases h)
  | panicked => exact iff_of_true hworker rfl

/-- Nothing but a reload makes a worker panic. -/
theorem panicked_step_iff (ha : a.isReload = false) :
    (s.step codec a).worker = .panicked ↔ s.worker = .panicked := by
  cases a with
  | datagram arrival => exact panicked_onWorker _
  | tick now => exact panicked_onWorker _
  | reload cfg => cases ha
  | stopWorker =>
    simp only [IngressState.step]
    split
    · rename_i ui hworker
      split
      · rw [hworker]
        exact iff_of_false (fun h => by cases h) (fun h => by cases h)
      · exact Iff.rfl
    · exact Iff.rfl
  | dequeue id =>
    simp only [IngressState.step]
    split <;> exact Iff.rfl
  | check id now => rw [IngressState.step, worker_onWriter]
  | dial id acquired now draw => rw [IngressState.step, worker_onWriter]
  | write id now draw => rw [IngressState.step, worker_onWriter]
  | hangUp id =>
    simp only [IngressState.step]
    repeat' split
    all_goals exact Iff.rfl
  | stopWriter id =>
    simp only [IngressState.step]
    repeat' split
    all_goals exact Iff.rfl
  | breakers circuit => exact Iff.rfl
  | shutdown => exact Iff.rfl

end IngressState

/-! ## The timers of all workers -/

namespace Process

/-- Every running worker has a timer, and what is in the channel passed `validate`. -/
structure TimersSet (s : Process W) : Prop where
  valid : s.config.value.validate.toBool
  workers : ∀ w ∈ s.listeners.udp, w.state.LingerSet

/-- No worker is gone with a panic. -/
def NonePanicked (s : Process W) : Prop := ∀ w ∈ s.listeners.udp, w.state.worker ≠ .panicked

/-- The worker that reads the configuration finds a linger time other than zero, if it finds an
    entry. -/
def ReadsLinger (s : Process W) : ProcessAction W → Prop
  | .workerReads i => ∀ w, s.listeners.udp[i]? = some w → s.config.changed w.seen →
    ∀ ui, w.state.worker = .running ui →
      ∀ entry, s.config.value.entryOf ui.ingressId = some entry → entry.lingerMs ≠ 0
  | _ => True

variable [AsyncWrite W] {s : Process W}

theorem TimersSet.step (h : s.TimersSet) (a : ProcessAction W) : (s.step codec a).TimersSet := by
  cases a with
  | sendConfig c =>
    simp only [Process.step]
    split
    · rename_i hvalid
      exact ⟨hvalid, h.workers⟩
    · exact h
  | taskReads =>
    simp only [Process.step]
    split
    · exact ⟨h.valid, h.workers⟩
    · exact h
  | taskApplies revocationFile =>
    simp only [Process.step]
    split
    · exact ⟨h.valid, h.workers⟩
    · exact h
  | workerReads i =>
    refine ⟨h.valid, Tasks.forall_modify h.workers (fun w _ hw => ?_) i⟩
    split
    · rw [IngressState.step, if_pos h.valid]
      exact hw.reload _
    · exact hw
  | ingress i action =>
    simp only [Process.step]
    split
    · exact h
    · rename_i hreload
      refine ⟨h.valid, Tasks.forall_modify h.workers (fun w _ hw => ?_) i⟩
      exact hw.step (Bool.not_eq_true _ ▸ hreload)

/-- The steps that lose no worker. -/
theorem nonePanicked_step_iff (h : s.TimersSet) (a : ProcessAction W) :
    (s.step codec a).NonePanicked ↔ s.NonePanicked ∧ s.ReadsLinger a := by
  cases a with
  | sendConfig c =>
    simp only [Process.step, ReadsLinger, and_true]
    split <;> exact Iff.rfl
  | taskReads =>
    simp only [Process.step, ReadsLinger, and_true]
    split <;> exact Iff.rfl
  | taskApplies revocationFile =>
    simp only [Process.step, ReadsLinger, and_true]
    split <;> exact Iff.rfl
  | workerReads i =>
    apply Tasks.forall_modify_iff
    intro w hw
    by_cases hchanged : s.config.changed w.seen
    · have hset : w.state.LingerSet := h.workers w (List.mem_of_getElem? hw)
      rw [if_pos hchanged]
      show (w.state.step codec (.reload s.config.value)).worker ≠ .panicked ↔ _
      rw [IngressState.step, if_pos h.valid, Ne, IngressState.panicked_reload_iff hset, not_or]
      refine and_congr_right fun _ => ?_
      constructor
      · intro hnone _ ui hui entry hentry hzero
        exact hnone ⟨ui, hui, entry, hentry, hzero⟩
      · rintro hlinger ⟨ui, hui, entry, hentry, hzero⟩
        exact hlinger hchanged ui hui entry hentry hzero
    · rw [if_neg hchanged]
      exact (and_iff_left (fun hc => absurd hc hchanged)).symm
  | ingress i action =>
    simp only [Process.step, ReadsLinger, and_true]
    split
    · exact Iff.rfl
    · rename_i hreload
      have hother : action.isReload = false := Bool.not_eq_true _ ▸ hreload
      refine (Tasks.forall_modify_iff (q := fun _ => True) ?_).trans
        (and_iff_left fun _ _ => trivial)
      intro w _
      rw [and_true, Ne, Ne, not_iff_not]
      exact IngressState.panicked_step_iff hother

end Process

/-! ## Startup -/

/-- The worker has just been spawned for the entry. -/
def UdpWorker.SpawnedFor (config : ReductionConfig) (w : UdpWorker W) (entry : IngressConfig) :
    Prop :=
  ∃ (pool : BackendPool) (i : UInt16),
    w = { state := (config.udpParams entry).spawnWorker pool i, seen := 0 }

variable {config : ReductionConfig}

/-- The workers that a process starts with, one for each of the entries. -/
theorem ReductionConfig.spawnedFor_spawnIngressListeners {parallelism : Nat}
    {listeners : IngressListeners W} (h : config.spawnIngressListeners parallelism = .ok listeners) :
    List.Forall₂ (UdpWorker.SpawnedFor config) listeners.udp
      (config.workerEntries parallelism) := by
  have hstep : ∀ (done : List IngressConfig) entry (ls ls' : IngressListeners W),
      List.Forall₂ (UdpWorker.SpawnedFor config) ls.udp
        (done.flatMap (IngressConfig.perWorker parallelism)) →
      config.spawnIngressListener parallelism ls entry = .ok ls' →
      List.Forall₂ (UdpWorker.SpawnedFor config) ls'.udp
        ((done ++ [entry]).flatMap (IngressConfig.perWorker parallelism)) := by
    intro done entry ls ls' hdone hentry
    rw [List.flatMap_append, List.flatMap_singleton]
    unfold spawnIngressListener at hentry
    unfold IngressConfig.perWorker
    cases hprotocol : entry.protocol with
    | udp =>
      rw [hprotocol] at hentry
      obtain ⟨workers, hworkers, heq⟩ := bind_eq_ok.mp hentry
      obtain rfl := Except.ok.inj heq
      obtain ⟨pool, -, hworkers⟩ := bind_eq_ok.mp hworkers
      obtain rfl := Except.ok.inj hworkers
      refine List.rel_append hdone ?_
      rw [List.forall₂_map_left_iff, List.forall₂_iff_zip]
      refine ⟨by rw [List.length_range, List.length_replicate], ?_⟩
      intro i e hmem
      obtain rfl := List.eq_of_mem_replicate (List.of_mem_zip hmem).2
      exact ⟨pool, _, rfl⟩
    | tcp =>
      rw [hprotocol] at hentry
      obtain ⟨listener, -, heq⟩ := bind_eq_ok.mp hentry
      obtain rfl := Except.ok.inj heq
      rw [List.append_nil]
      exact hdone
  exact foldlM_invariant hstep .nil h

variable {w : UdpWorker W} {entry : IngressConfig}

/-- A worker starts unless the linger time of its entry is zero. -/
theorem UdpWorker.SpawnedFor.panicked_iff (h : w.SpawnedFor config entry) :
    w.state.worker = .panicked ↔ entry.lingerMs = 0 := by
  obtain ⟨pool, i, rfl⟩ := h
  rw [worker_spawnWorker, UdpIngressParams.startWorker, ← linger_eq_zero]
  show (if Duration.fromMillis entry.lingerMs.toNat = 0 then _ else _) = _ ↔ _
  split
  · rename_i hzero
    exact iff_of_true rfl hzero
  · rename_i hzero
    exact iff_of_false (fun h => by cases h) hzero

/-- A worker that runs has the settings of its entry. -/
theorem UdpWorker.SpawnedFor.running (h : w.SpawnedFor config entry) {ui : UdpIngress}
    (hui : w.state.worker = .running ui) :
    ui.ingressId = entry.id ∧ ui.HasSettings entry ∧ ui.limits.linger ≠ 0 := by
  obtain ⟨pool, i, rfl⟩ := h
  rw [worker_spawnWorker, UdpIngressParams.startWorker] at hui
  split at hui
  · cases hui
  · rename_i hlinger
    cases hui
    exact ⟨rfl, ⟨rfl, rfl⟩, hlinger⟩

namespace Process

variable {config : ReductionConfig} {cache : ResponseCache} {revocation : RevocationSet}
  {parallelism : Nat} {s : Process W}

theorem spawnedFor_start (h : Process.start config cache revocation parallelism = .ok s) :
    List.Forall₂ (UdpWorker.SpawnedFor config) s.listeners.udp (config.workerEntries parallelism) :=
  config.spawnedFor_spawnIngressListeners (start_ok h).2.2.2

theorem TimersSet.of_start (hvalid : config.validate = .ok ())
    (h : Process.start config cache revocation parallelism = .ok s) : s.TimersSet := by
  constructor
  · rw [(start_ok h).1]
    show config.validate.toBool
    rw [hvalid]
    rfl
  · intro w hw ui hui
    obtain ⟨entry, -, hspawned⟩ := (spawnedFor_start h).exists_of_mem hw
    exact (hspawned.running hui).2.2

theorem nonePanicked_start (h : Process.start config cache revocation parallelism = .ok s) :
    s.NonePanicked ↔ ∀ entry ∈ config.ingress, entry.protocol = .udp → entry.lingerMs ≠ 0 := by
  have hspawned := spawnedFor_start h
  constructor
  · intro hnone entry hmem hprotocol hzero
    have hentry : entry ∈ config.workerEntries parallelism :=
      ReductionConfig.mem_workerEntries.mpr ⟨hmem, hprotocol⟩
    obtain ⟨w, hw, hfor⟩ := hspawned.flip.exists_of_mem hentry
    exact hnone w hw (UdpWorker.SpawnedFor.panicked_iff hfor |>.mpr hzero)
  · intro hlinger w hw hpanicked
    obtain ⟨entry, hentry, hfor⟩ := hspawned.exists_of_mem hw
    obtain ⟨hmem, hprotocol⟩ := ReductionConfig.mem_workerEntries.mp hentry
    exact hlinger entry hmem hprotocol (hfor.panicked_iff.mp hpanicked)

end Process

/-- No worker is lost to its timer if and only if no UDP entry of the startup configuration has a
    linger time of zero, and no running worker reads one.  Validation rules out neither. -/
theorem udp_workers_survive_iff [AsyncWrite W] {config : ReductionConfig}
    (hvalid : config.validate = .ok ()) {cache : ResponseCache} {revocation : RevocationSet}
    {parallelism : Nat} {s₀ : Process W}
    (hstart : Process.start config cache revocation parallelism = .ok s₀)
    (as : List (ProcessAction W)) :
    (∀ w ∈ (run (Process.step codec) s₀ as).listeners.udp, w.state.worker ≠ .panicked) ↔
      (∀ entry ∈ config.ingress, entry.protocol = .udp → entry.lingerMs ≠ 0) ∧
        RunOk (Process.step codec) Process.ReadsLinger s₀ as := by
  rw [← Process.nonePanicked_start hstart]
  exact run_iff_runOk (fun _ a h => Process.TimersSet.step h a)
    (fun _ a h => Process.nonePanicked_step_iff h a) (.of_start hvalid hstart) as

/-- A reload to another linger time leaves the worker running. -/
theorem udp_worker_survives_longer_linger :
    (Sample.ingressConfig 20).validate = .ok () ∧ (Sample.ingressConfig 30).validate = .ok () ∧
    ∃ s₀ : Process Bytes, Process.start (Sample.ingressConfig 20)
        (.new (Sample.state 2).cacheConfig) .default 1 = .ok s₀ ∧
      let s := run (Process.step Sample.payloadCodec) s₀ (Sample.reloadTo (Sample.ingressConfig 30))
      s.config.version = 1 ∧ ∀ w ∈ s.listeners.udp, w.state.worker ≠ .panicked := by
  have hvalid : (Sample.ingressConfig 20).validate = .ok () := by decide
  refine ⟨hvalid, by decide, _, rfl, rfl, (udp_workers_survive_iff hvalid rfl _).mpr ⟨?_, ?_⟩⟩
  · intro entry hentry _
    rw [List.mem_singleton.mp hentry]
    decide
  · refine ⟨trivial, trivial, trivial, ?_, trivial⟩
    -- the worker can only find the one entry that there is
    intro w _ _ ui _ entry hentry
    have hmem : entry ∈ (Sample.ingressConfig 30).ingress := List.mem_of_find?_eq_some hentry
    rw [List.mem_singleton.mp hmem]
    decide

/-- A linger time of zero passes `validate`, and the worker is gone as soon as it is spawned. -/
theorem zero_linger_ends_worker :
    (Sample.ingressConfig 0).validate = .ok () ∧
    ∃ s₀ : Process Bytes, Process.start (Sample.ingressConfig 0)
        (.new (Sample.state 2).cacheConfig) .default 1 = .ok s₀ ∧
      ∃ w ∈ s₀.listeners.udp, w.state.worker = .panicked :=
  ⟨by decide, _, rfl, _, List.mem_cons_self, rfl⟩

/-! ## The entry of a worker -/

namespace Process

/-- A worker and the entry that it was started for: as long as it has not read a configuration, its
    settings are those of the entry. -/
structure StartedFor (w : UdpWorker W) (entry : IngressConfig) : Prop where
  id : ∀ ui, w.state.worker = .running ui → ui.ingressId = entry.id
  fresh : w.seen = 0 → ∀ ui, w.state.worker = .running ui → ui.HasSettings entry

variable {config : ReductionConfig} {w : UdpWorker W} {entry : IngressConfig}

theorem StartedFor.of_spawned (h : w.SpawnedFor config entry) : StartedFor w entry :=
  ⟨fun _ hui => (h.running hui).1, fun _ _ hui => (h.running hui).2.1⟩

/-- The workers belong to the entries, one by one, and have not seen more than was published. -/
structure WorkersFor (s : Process W) (entries : List IngressConfig) : Prop where
  workers : List.Forall₂ StartedFor s.listeners.udp entries
  follows : s.Follows

variable [AsyncWrite W] {s : Process W}

theorem StartedFor.ingress (h : StartedFor w entry) {a : IngressAction W} (ha : a.isReload = false) :
    StartedFor { w with state := w.state.step codec a } entry := by
  have hbefore : ∀ ui', (w.state.step codec a).worker = .running ui' →
      ∃ ui, w.state.worker = .running ui ∧ ∃ batches, ui' = { ui with batches } := by
    intro ui' hui'
    obtain ⟨ui, hui, heq | ⟨cfg, rfl, -⟩⟩ := IngressState.running_step hui'
    · exact ⟨ui, hui, heq⟩
    · cases ha
  constructor
  · intro ui' hui'
    obtain ⟨ui, hui, batches, rfl⟩ := hbefore ui' hui'
    exact h.id ui hui
  · intro hseen ui' hui'
    obtain ⟨ui, hui, batches, rfl⟩ := hbefore ui' hui'
    exact h.fresh hseen ui hui

/-- A worker that reads a configuration keeps its id. -/
theorem StartedFor.read (h : StartedFor w entry) (c : ReductionConfig) {version : Nat}
    (hversion : version ≠ 0) :
    StartedFor { state := w.state.step codec (.reload c), seen := version } entry := by
  refine ⟨?_, fun hseen => absurd hseen hversion⟩
  intro ui' hui'
  obtain ⟨ui, hui, ⟨batches, rfl⟩ | ⟨cfg, -, rfl⟩⟩ := IngressState.running_step hui'
  · exact h.id ui hui
  · rw [UdpIngress.ingressId_applyReload]
    exact h.id ui hui

theorem WorkersFor.step {entries : List IngressConfig} (h : s.WorkersFor entries)
    (a : ProcessAction W) : (s.step codec a).WorkersFor entries := by
  refine ⟨?_, h.follows.step a⟩
  cases a with
  | sendConfig c =>
    simp only [Process.step]
    split <;> exact h.workers
  | taskReads =>
    simp only [Process.step]
    split <;> exact h.workers
  | taskApplies revocationFile =>
    simp only [Process.step]
    split <;> exact h.workers
  | workerReads i =>
    refine Tasks.forall₂_modify h.workers ?_ i
    intro w hw entry hstarted
    split
    · rename_i hchanged
      have hle := (h.follows.workers w hw).seen_le
      have hne : w.seen ≠ s.config.version := of_decide_eq_true hchanged
      exact hstarted.read _ (by omega)
    · exact hstarted
  | ingress i action =>
    simp only [Process.step]
    split
    · exact h.workers
    · rename_i hreload
      refine Tasks.forall₂_modify h.workers ?_ i
      intro w _ entry hstarted
      exact hstarted.ingress (Bool.not_eq_true _ ▸ hreload)

omit [AsyncWrite W] in
variable {cache : ResponseCache} {revocation : RevocationSet} {parallelism : Nat}

theorem WorkersFor.of_start (h : Process.start config cache revocation parallelism = .ok s) :
    s.WorkersFor (config.workerEntries parallelism) :=
  ⟨(spawnedFor_start h).imp fun _ _ => .of_spawned, .of_start h⟩

/-- The channel holds the configuration of startup until another one is published. -/
theorem value_of_version_zero (codec : Bitcode Envelope)
    (h : Process.start config cache revocation parallelism = .ok s) (as : List (ProcessAction W)) :
    (run (Process.step codec) s as).config.version = 0 →
      (run (Process.step codec) s as).config.value = config := by
  refine @run_invariant_of_step _ _ _
    (fun s : Process W => s.config.version = 0 → s.config.value = config) ?_ s ?_ as
  · intro s a hs
    cases a with
    | sendConfig c =>
      simp only [Process.step]
      split
      · exact fun hzero => absurd hzero (Nat.succ_ne_zero _)
      · exact hs
    | taskReads =>
      simp only [Process.step]
      split <;> exact hs
    | taskApplies revocationFile =>
      simp only [Process.step]
      split <;> exact hs
    | workerReads i => exact hs
    | ingress i action =>
      simp only [Process.step]
      split <;> exact hs
  · intro _
    rw [(start_ok h).1]
    rfl

end Process

/-- The entry is still there: only what a reload can apply may differ. -/
structure IngressConfig.StaysAs (entry entry' : IngressConfig) : Prop where
  listen : entry.listen = entry'.listen
  id : entry.id = entry'.id
  backendIds : entry.backendIds = entry'.backendIds
  queueDepthPerBackend : entry.queueDepthPerBackend = entry'.queueDepthPerBackend
  workers : entry.workers = entry'.workers

/-- A worker that has read the latest configuration has the settings of the entry with its listen
    address if and only if nothing was reloaded yet, or the first entry with its id has the same
    ones. -/
theorem reload_addresses_worker_iff [AsyncWrite W] {config : ReductionConfig}
    (hvalid : config.validate = .ok ()) {cache : ResponseCache} {revocation : RevocationSet}
    {parallelism : Nat} {s₀ : Process W}
    (hstart : Process.start config cache revocation parallelism = .ok s₀)
    (as : List (ProcessAction W)) {w : UdpWorker W} {entry entry' : IngressConfig} {ui : UdpIngress}
    (hw : (w, entry) ∈
      (run (Process.step codec) s₀ as).listeners.udp.zip (config.workerEntries parallelism))
    (hrunning : w.state.worker = .running ui)
    (hseen : w.seen = (run (Process.step codec) s₀ as).config.version)
    (hentry' : entry' ∈ (run (Process.step codec) s₀ as).config.value.ingress)
    (hstays : entry.StaysAs entry') :
    ui.HasSettings entry' ↔
      (run (Process.step codec) s₀ as).config.version = 0 ∨
        ∀ first, (run (Process.step codec) s₀ as).config.value.entryOf entry.id = some first →
          first.SameTunables entry' := by
  have hinv : (run (Process.step codec) s₀ as).WorkersFor (config.workerEntries parallelism) :=
    @run_invariant_of_step _ _ _ (fun s : Process W => s.WorkersFor _)
      (fun _ a h => Process.WorkersFor.step h a) s₀ (.of_start hstart) as
  have hvalue := Process.value_of_version_zero codec hstart as
  generalize run (Process.step codec) s₀ as = s at *
  have hfor : Process.StartedFor w entry := (List.forall₂_iff_zip.mp hinv.workers).2 hw
  obtain ⟨hmem, hmemEntry⟩ := List.of_mem_zip hw
  by_cases hversion : s.config.version = 0
  · -- the two entries have one listen address in one valid configuration
    rw [hvalue hversion] at hentry'
    have hentry := (ReductionConfig.mem_workerEntries.mp hmemEntry).1
    have heq : entry = entry' :=
      List.inj_on_of_nodup_map (ReductionConfig.listens_nodup hvalid) hentry hentry' hstays.listen
    rw [← heq]
    exact iff_of_true (hfor.fresh (hseen.trans hversion) ui hrunning) (.inl hversion)
  · have hid : ui.ingressId = entry.id := hfor.id ui hrunning
    obtain ⟨first, hfirst⟩ : ∃ first, s.config.value.entryOf entry.id = some first :=
      Option.isSome_iff_exists.mp
        (List.find?_isSome.mpr ⟨entry', hentry', decide_eq_true hstays.id.symm⟩)
    have hsettings : ui.HasSettings first :=
      (hinv.follows.workers w hmem).tunables hseen hversion ui hrunning first (hid ▸ hfirst)
    rw [hsettings.iff_sameTunables, or_iff_right hversion]
    constructor
    · intro hsame found hfound
      cases hfirst.symm.trans hfound
      exact hsame
    · exact fun h => h first hfirst

namespace Sample

/-- Two listeners under one id: the second one sends single datagrams. -/
def twins : ReductionConfig :=
  { ingressConfig 20 with
    ingress :=
      [ingressEntry 20,
        { ingressEntry 20 with
          listen := { b1.address with port := 5001 }
          batchMaxDatagrams := 1 }] }

/-- Both workers read the configuration, which is published once more. -/
def rereadBy (config : ReductionConfig) : List (ProcessAction Bytes) :=
  [.sendConfig config, .workerReads 0, .workerReads 1]

end Sample

/-- The worker of an only entry follows it to another linger time. -/
theorem only_entry_addresses_worker :
    ∃ s₀ : Process Bytes, Process.start (Sample.ingressConfig 20)
        (.new (Sample.state 2).cacheConfig) .default 1 = .ok s₀ ∧
      let s := run (Process.step Sample.payloadCodec) s₀
        (Sample.rereadBy (Sample.ingressConfig 30))
      s.config.version = 1 ∧ ∃ w ∈ s.listeners.udp, ∃ ui, w.state.worker = .running ui ∧
        ui.HasSettings (Sample.ingressEntry 30) := by
  have hvalid : (Sample.ingressConfig 20).validate = .ok () := by decide
  refine ⟨_, rfl, rfl, _, List.mem_cons_self, _, rfl, ?_⟩
  refine (reload_addresses_worker_iff hvalid rfl
    (Sample.rereadBy (Sample.ingressConfig 30)) List.mem_cons_self rfl rfl List.mem_cons_self
    ⟨rfl, rfl, rfl, rfl, rfl⟩).mpr (.inr ?_)
  intro first hfirst
  have hmem : first ∈ (Sample.ingressConfig 30).ingress := List.mem_of_find?_eq_some hfirst
  rw [List.mem_singleton.mp hmem]
  exact ⟨rfl, rfl, rfl, rfl⟩

/-- Of two entries with one id the second one's worker takes the batch size of the first. -/
theorem twin_takes_first_settings :
    Sample.twins.validate = .ok () ∧
    ∃ s₀ : Process Bytes, Process.start Sample.twins
        (.new (Sample.state 2).cacheConfig) .default 1 = .ok s₀ ∧
      let s := run (Process.step Sample.payloadCodec) s₀ (Sample.rereadBy Sample.twins)
      ∃ w entry, (w, entry) ∈ s.listeners.udp.zip (Sample.twins.workerEntries 1) ∧
        w.seen = s.config.version ∧ entry ∈ s.config.value.ingress ∧
        ∃ ui, w.state.worker = .running ui ∧ ui.limits.maxDatagrams = 2 ∧
          entry.batchMaxDatagrams = 1 ∧ ¬ ui.HasSettings entry := by
  refine ⟨by decide, _, rfl, _, _, List.mem_cons_of_mem _ List.mem_cons_self, rfl,
    List.mem_cons_of_mem _ List.mem_cons_self, _, rfl, rfl, rfl, ?_⟩
  intro h
  have hbatch : (2 : UInt32) = 1 := congrArg BatchLimits.maxDatagrams h.1
  exact absurd hbatch (by decide)

end Reduction
