import Reduction.ForStd.Run
import Reduction.Native.FsWatch

/-!
# Which certificates are reloaded

The four files of a `CertWatcher` share one generation, and a thread that is still
newest when it wakes reloads only the sides of its own event.  An event on one
side therefore keeps the thread of the other side from reloading, and nothing
makes up for it.

`CertRun` keeps count of the sides that are `stale`, with an event and no reload
since, and of those whose last event was `overtaken` while its thread slept.
`reloaded_iff_not_overtaken` says that these are the same when all threads have
woken.
-/

namespace Reduction

open Run

inductive CertAction where
  | event (now : Instant) (event : FsEvent)
  | wake (worker : Nat)

/-- A `CertWatcher` in use. -/
structure CertRun where
  certs : CertReload
  /-- How many events were accepted. -/
  taken : Nat
  /-- The side had an event and was not reloaded since. -/
  stale : CertSide → Bool
  /-- After the last event on the side, an event was accepted that does not concern the side, before
      the thread of the former had woken. -/
  overtaken : CertSide → Bool

namespace CertRun

def start (paths : CertWatcher) (now : Instant) : CertRun :=
  { certs := .start paths now
    taken := 0
    stale := fun _ => false
    overtaken := fun _ => false }

def step (s : CertRun) : CertAction → CertRun
  | .event now event =>
    let certs := s.certs.onEvent now event
    if s.certs.watcher.accepts event then
      { certs
        taken := s.taken + 1
        stale := fun side => s.certs.paths.affected event side || s.stale side
        overtaken := fun side =>
          !s.certs.paths.affected event side && (s.stale side || s.overtaken side) }
    else { s with certs }
  | .wake i =>
    let (certs, reloaded) := s.certs.onWake i
    { s with certs, stale := fun side => s.stale side && !reloaded.contains side }

/-- Time does not pass the moment at which a thread is to wake; what happens at the same moment does
    so in any order. -/
def Punctual (s : CertRun) : CertAction → Prop
  | .event now _ => s.certs.now ≤ now ∧ ∀ w ∈ s.certs.workers, now ≤ w.wakeAt
  | .wake i =>
    match s.certs.workers[i]? with
    | some worker => ∀ w ∈ s.certs.workers, worker.wakeAt ≤ w.wakeAt
    | none => False

instance (s : CertRun) : ∀ a, Decidable (s.Punctual a)
  | .event now _ =>
    inferInstanceAs (Decidable (s.certs.now ≤ now ∧ ∀ w ∈ s.certs.workers, now ≤ w.wakeAt))
  | .wake i =>
    match h : s.certs.workers[i]? with
    | some worker =>
      decidable_of_iff (∀ w ∈ s.certs.workers, worker.wakeAt ≤ w.wakeAt)
        (by simp only [Punctual, h])
    | none => .isFalse (by simp only [Punctual, h, not_false_iff])

/-- Every side that had an event has been reloaded after its last one. -/
def AllReloaded (s : CertRun) : Prop := ∀ side, s.stale side = false

def NoneOvertaken (s : CertRun) : Prop := ∀ side, s.overtaken side = false

/-! ## A stale side has a thread, or was overtaken -/

/-- The thread will reload the side, unless another event comes. -/
def Pending (s : CertRun) (side : CertSide) (w : CertWorker) : Prop :=
  w.myGeneration = s.certs.watcher.generation ∧ s.certs.paths.affected w.event side = true

def Covered (s : CertRun) : Prop :=
  ∀ side, s.stale side = true →
    s.overtaken side = true ∨ ∃ w ∈ s.certs.workers, s.Pending side w

/-- An overtaken side stays stale, and no thread is left that could reload it. -/
def Lost (s : CertRun) : Prop :=
  s.taken < 2 ^ 64 →
    s.certs.watcher.generation.toNat = s.taken ∧
    (∀ w ∈ s.certs.workers, w.myGeneration.toNat ≤ s.taken) ∧
    ∀ side, s.overtaken side = true → s.stale side = true ∧
      ∀ w ∈ s.certs.workers, s.certs.paths.affected w.event side = true →
        w.myGeneration.toNat < s.taken

variable {s : CertRun}

theorem contains_reloads (w : CertWatcher) (event : FsEvent) (side : CertSide) :
    (w.reloads event).contains side = w.affected event side := by
  cases hs : w.affected event .server <;> cases hc : w.affected event .client <;>
    cases side <;> simp [CertWatcher.reloads, hs, hc]

/-- What the steps do: an event is accepted or not, a thread reloads the sides of its event or
    nothing. -/
theorem step_cases (s : CertRun) (a : CertAction) :
    (∃ now event, s.certs.watcher.accepts event = true ∧
      s.step a =
        { certs := s.certs.onEvent now event
          taken := s.taken + 1
          stale := fun side => s.certs.paths.affected event side || s.stale side
          overtaken := fun side =>
            !s.certs.paths.affected event side && (s.stale side || s.overtaken side) }) ∨
    (∃ now, s.step a = { s with certs := { s.certs with now } }) ∨
    (∃ i worker, s.certs.workers[i]? = some worker ∧ ∃ reloaded,
      (reloaded = true ↔ worker.myGeneration = s.certs.watcher.generation) ∧
      s.step a =
        { s with
          certs :=
            { s.certs with now := worker.wakeAt, workers := s.certs.workers.eraseIdx i }
          stale := fun side =>
            s.stale side && !(reloaded && s.certs.paths.affected worker.event side) }) := by
  cases a with
  | event now event =>
    cases haccepts : s.certs.watcher.accepts event with
    | true => exact .inl ⟨now, event, haccepts, if_pos haccepts⟩
    | false =>
      refine .inr (.inl ⟨now, ?_⟩)
      simp only [step, CertReload.onEvent, haccepts, Bool.false_eq_true, if_false]
  | wake i =>
    cases hget : s.certs.workers[i]? with
    | none =>
      refine .inr (.inl ⟨s.certs.now, ?_⟩)
      simp only [step, CertReload.onWake, hget, List.contains_nil, Bool.not_false, Bool.and_true]
    | some worker =>
      refine .inr (.inr ⟨i, worker, hget, s.certs.watcher.isNewest worker.myGeneration, ?_, ?_⟩)
      · rw [TrailingEdgeWatcher.isNewest, decide_eq_true_iff]
        exact eq_comm
      · simp only [step, CertReload.onWake, hget]
        cases s.certs.watcher.isNewest worker.myGeneration with
        | true => simp only [if_true, contains_reloads, Bool.true_and]
        | false =>
          simp only [Bool.false_eq_true, if_false, List.contains_nil, Bool.false_and]

theorem onEvent_of_accepts {r : CertReload} {now : Instant} {event : FsEvent}
    (h : r.watcher.accepts event = true) :
    r.onEvent now event =
      { r with
        watcher := r.watcher.next
        now
        workers := r.workers ++
          [{ wakeAt := now + CertWatcher.debounce
             myGeneration := r.watcher.next.generation
             event }] } := if_pos h

/-- A thread is the one that wakes, or sleeps on. -/
theorem mem_eraseIdx_or {workers : List CertWorker} {i : Nat} {worker w : CertWorker}
    (hget : workers[i]? = some worker) (hw : w ∈ workers) :
    w = worker ∨ w ∈ workers.eraseIdx i := by
  obtain ⟨hi, hworker⟩ := List.getElem?_eq_some_iff.mp hget
  have hmem := (List.getElem_cons_eraseIdx_perm hi).mem_iff.mpr hw
  rw [hworker] at hmem
  exact List.mem_cons.mp hmem

theorem Covered.step (h : s.Covered) (a : CertAction) : (s.step a).Covered := by
  rcases s.step_cases a with ⟨now, event, haccepts, heq⟩ | ⟨now, heq⟩ |
    ⟨i, worker, hget, reloaded, hreloaded, heq⟩
  · rw [heq, onEvent_of_accepts haccepts]
    intro side hstale
    dsimp only at hstale ⊢
    cases haffected : s.certs.paths.affected event side with
    | true => exact .inr ⟨_, List.mem_append_right _ (List.mem_singleton_self _), rfl, haffected⟩
    | false =>
      rw [haffected, Bool.false_or] at hstale
      rw [hstale]
      exact .inl rfl
  · rw [heq]
    exact h
  · rw [heq]
    intro side hstale
    obtain ⟨hstale, hnot⟩ := Bool.and_eq_true_iff.mp hstale
    cases h side hstale with
    | inl hovertaken => exact .inl hovertaken
    | inr hpending =>
      obtain ⟨w, hw, hnewest, haffected⟩ := hpending
      cases mem_eraseIdx_or hget hw with
      | inl hwakes =>
        -- the thread that wakes reloads the side
        subst hwakes
        rw [hreloaded.mpr hnewest, haffected] at hnot
        cases hnot
      | inr hsleeps => exact .inr ⟨w, hsleeps, hnewest, haffected⟩

theorem Lost.step (h : s.Lost) (a : CertAction) : (s.step a).Lost := by
  rcases s.step_cases a with ⟨now, event, haccepts, heq⟩ | ⟨now, heq⟩ |
    ⟨i, worker, hget, reloaded, hreloaded, heq⟩
  · rw [heq, onEvent_of_accepts haccepts]
    intro hlt
    have hlt : s.taken + 1 < 2 ^ 64 := hlt
    obtain ⟨hgeneration, hworkers, hovertaken⟩ := h (by omega)
    have hnext : s.certs.watcher.next.generation.toNat = s.taken + 1 := by
      show (s.certs.watcher.generation + 1).toNat = _
      rw [UInt64.toNat_add, hgeneration]
      exact Nat.mod_eq_of_lt hlt
    refine ⟨hnext, fun w hw => ?_, fun side hside => ?_⟩
    · cases List.mem_append.mp hw with
      | inl hmem => exact (hworkers w hmem).trans (Nat.le_succ _)
      | inr hmem => rw [List.mem_singleton.mp hmem, hnext]
    · obtain ⟨hnot, hor⟩ := Bool.and_eq_true_iff.mp hside
      have hnot : s.certs.paths.affected event side = false := by simpa using hnot
      have hstale : s.stale side = true := by
        cases Bool.or_eq_true_iff.mp hor with
        | inl hstale => exact hstale
        | inr hover => exact (hovertaken side hover).1
      refine ⟨Bool.or_eq_true_iff.mpr (.inr hstale), fun w hw haffected => ?_⟩
      cases List.mem_append.mp hw with
      | inl hmem => exact Nat.lt_succ_of_le (hworkers w hmem)
      | inr hmem =>
        rw [List.mem_singleton.mp hmem] at haffected
        cases hnot.symm.trans haffected
  · rw [heq]
    exact h
  · rw [heq]
    intro hlt
    obtain ⟨hgeneration, hworkers, hovertaken⟩ := h hlt
    refine ⟨hgeneration, fun w hw => hworkers w (List.mem_of_mem_eraseIdx hw), fun side hside => ?_⟩
    obtain ⟨hstale, hold⟩ := hovertaken side hside
    refine ⟨?_, fun w hw => hold w (List.mem_of_mem_eraseIdx hw)⟩
    -- a thread that is newest does not concern the side
    have hnot : (reloaded && s.certs.paths.affected worker.event side) = false := by
      refine Bool.eq_false_iff.mpr fun hboth => ?_
      obtain ⟨hnewest, haffected⟩ := Bool.and_eq_true_iff.mp hboth
      have hlt := hold worker (List.mem_of_getElem? hget) haffected
      rw [hreloaded.mp hnewest, hgeneration] at hlt
      exact Nat.lt_irrefl _ hlt
    show (s.stale side && !(reloaded && s.certs.paths.affected worker.event side)) = true
    rw [hnot, hstale]
    rfl

variable (paths : CertWatcher) (now : Instant) (as : List CertAction)

theorem covered_run : (run step (start paths now) as).Covered :=
  @run_invariant_of_step _ _ _ Covered (fun _ a h => h.step a) (start paths now)
    (fun _ h => by cases h) as

theorem lost_run : (run step (start paths now) as).Lost :=
  @run_invariant_of_step _ _ _ Lost (fun _ a h => h.step a) (start paths now)
    (fun _ => ⟨rfl, (fun _ h => by cases h), (fun _ h => by cases h)⟩) as

end CertRun

/-- When all threads have woken, whatever the times of the events were: a side that had events was
    reloaded after the last one if that was not overtaken by an event that does not concern the
    side, and, below `2 ^ 64` events, only then. -/
theorem reloaded_iff_not_overtaken (paths : CertWatcher) (now : Instant) (as : List CertAction)
    (hquiet : (run CertRun.step (.start paths now) as).certs.workers = []) :
    ((run CertRun.step (.start paths now) as).NoneOvertaken →
      (run CertRun.step (.start paths now) as).AllReloaded) ∧
    ((run CertRun.step (.start paths now) as).taken < 2 ^ 64 →
      (run CertRun.step (.start paths now) as).AllReloaded →
      (run CertRun.step (.start paths now) as).NoneOvertaken) := by
  constructor
  · intro hnone side
    refine Bool.eq_false_iff.mpr fun hstale => ?_
    cases CertRun.covered_run paths now as side hstale with
    | inl hovertaken => cases (hnone side).symm.trans hovertaken
    | inr hpending =>
      obtain ⟨w, hw, -⟩ := hpending
      rw [hquiet] at hw
      cases hw
  · intro hlt hall side
    refine Bool.eq_false_iff.mpr fun hovertaken => ?_
    obtain ⟨-, -, hlost⟩ := CertRun.lost_run paths now as hlt
    cases (hall side).symm.trans (hlost side hovertaken).1

namespace Sample

def certPaths : CertWatcher :=
  { server :=
      { certPath := Bytes.ascii "/tls/server.pem", keyPath := Bytes.ascii "/tls/server.key" }
    client := some
      { certPath := Bytes.ascii "/tls/client.pem", keyPath := Bytes.ascii "/tls/client.key" } }

def serverSaved : FsEvent := { kind := .modify, paths := [Bytes.ascii "/tls/server.pem"] }

def clientSaved : FsEvent := { kind := .create, paths := [Bytes.ascii "/tls/client.pem"] }

/-- The client certificate is saved after the server certificate has settled. -/
def apart : List CertAction :=
  [.event 0 serverSaved, .wake 0, .event (Duration.fromMillis 400) clientSaved, .wake 0]

/-- The client certificate is saved a tenth of a second after the server certificate. -/
def together : List CertAction :=
  [.event 0 serverSaved, .event (Duration.fromMillis 100) clientSaved, .wake 0, .wake 0]

end Sample

theorem saves_apart_are_reloaded :
    let s := run CertRun.step (.start Sample.certPaths 0) Sample.apart
    RunOk CertRun.step CertRun.Punctual (.start Sample.certPaths 0) Sample.apart ∧
      s.certs.workers = [] ∧ s.taken = 2 ∧ s.NoneOvertaken ∧ s.AllReloaded := by
  intro s
  have hquiet : s.certs.workers = [] := by decide +kernel
  have hnone : s.NoneOvertaken := by
    intro side
    cases side with
    | server => decide +kernel
    | client => decide +kernel
  exact ⟨by decide +kernel, hquiet, by decide +kernel, hnone,
    (reloaded_iff_not_overtaken _ _ _ hquiet).1 hnone⟩

/-- Only the thread of the client's event reloads, and it reloads the client side. -/
theorem saves_together_lose_server :
    let s := run CertRun.step (.start Sample.certPaths 0) Sample.together
    RunOk CertRun.step CertRun.Punctual (.start Sample.certPaths 0) Sample.together ∧
      s.certs.workers = [] ∧ s.stale .client = false ∧ s.stale .server = true ∧
      ¬ s.AllReloaded := by
  intro s
  have hstale : s.stale .server = true := by decide +kernel
  refine ⟨by decide +kernel, by decide +kernel, by decide +kernel, hstale, fun hall => ?_⟩
  cases (hall .server).symm.trans hstale

end Reduction
