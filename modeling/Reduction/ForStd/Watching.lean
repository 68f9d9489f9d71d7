import Reduction.ForStd.Concurrent

/-!
# Tasks that watch a channel

A task with an objection to some values of a `watch` channel looks at the latest
value and, as long as it does not object, waits for a change.  A value that is
sent between the look and the wait, or before the first look, makes the wait end
at once: `WatchTask.Fresh` is kept by everything that a sender and the task can
do, and says that a task that waits in vain has looked at the latest value.
-/

/-- A `watch` channel with its sender, which may be gone. -/
structure Broadcast (α : Type*) where
  watch : Watch α
  senderDropped : Bool

namespace Broadcast

variable {α : Type*}

/-- `watch::channel`. -/
def new (a : α) : Broadcast α := { watch := .channel a, senderDropped := false }

def send (b : Broadcast α) (a : α) : Broadcast α :=
  if b.senderDropped then b else { b with watch := b.watch.send a }

def dropSender (b : Broadcast α) : Broadcast α := { b with senderDropped := true }

/-- What `changed` completes with: the version that is then marked seen, or an error if there will
    be no other. -/
def changed (b : Broadcast α) (seen : Nat) : Option (Except Unit Nat) :=
  if b.watch.changed seen then some (.ok b.watch.version)
  else if b.senderDropped then some (.error ())
  else none

theorem version_le_send (b : Broadcast α) (a : α) :
    b.watch.version ≤ (b.send a).watch.version := by
  unfold send
  split
  · exact Nat.le_refl _
  · exact Nat.le_succ _

theorem eq_version_of_changed {b : Broadcast α} {seen : Nat} (h : b.changed seen = none) :
    seen = b.watch.version := by
  unfold changed at h
  split at h
  · cases h
  · rename_i hsame
    by_contra hne
    exact hsame (by simp [Watch.changed, hne])

theorem eq_version_of_changed_ok {b : Broadcast α} {seen version : Nat}
    (h : b.changed seen = some (.ok version)) : version = b.watch.version := by
  unfold changed at h
  split at h
  · cases h
    rfl
  · split at h <;> cases h

end Broadcast

inductive WatchPhase where
  /-- About to look at the latest value. -/
  | testing
  /-- In `select!`, until the token is cancelled or the value has changed. -/
  | waiting
  | returned
deriving DecidableEq

/-- A task with a receiver of its own. -/
structure WatchTask where
  seen : Nat
  phase : WatchPhase
deriving DecidableEq

/-- The branches of the wait. -/
inductive WaitBranch where
  | cancelled
  | changed
deriving DecidableEq

namespace WatchTask

variable {α : Type*}

/-- A task that starts with a clone of a receiver. -/
def spawn (seen : Nat) : WatchTask := { seen, phase := .testing }

/-- The task goes on, in the wait by the given branch; it answers whether it cancels the token. -/
def step (objects : α → Bool) (b : Broadcast α) (cancelled : Bool) (branch : WaitBranch)
    (t : WatchTask) : WatchTask × Bool :=
  match t.phase with
  | .testing =>
    if objects b.watch.value then ({ t with phase := .returned }, true)
    else ({ t with phase := .waiting }, false)
  | .waiting =>
    match branch with
    | .cancelled => (if cancelled then { t with phase := .returned } else t, false)
    | .changed =>
      match b.changed t.seen with
      | some (.ok version) => ({ seen := version, phase := .testing }, false)
      | some (.error _) => ({ t with phase := .returned }, false)
      | none => (t, false)
  | .returned => (t, false)

/-- The task waits, and neither branch of its wait is ready. -/
structure Suspended (b : Broadcast α) (cancelled : Bool) (t : WatchTask) : Prop where
  waiting : t.phase = .waiting
  uncancelled : cancelled = false
  unchanged : b.changed t.seen = none

/-- The task has marked no value seen that is not there, and if it waits and has marked the latest
    value seen, it does not object to it. -/
structure Fresh (objects : α → Bool) (b : Broadcast α) (t : WatchTask) : Prop where
  seen_le : t.seen ≤ b.watch.version
  tested : t.phase = .waiting → t.seen = b.watch.version → objects b.watch.value = false

variable {objects : α → Bool} {b : Broadcast α} {t : WatchTask}

theorem fresh_spawn {seen : Nat} (h : seen ≤ b.watch.version) : (spawn seen).Fresh objects b :=
  ⟨h, fun hwaiting => by cases hwaiting⟩

/-- A new value ends the wait, whatever it is. -/
theorem Fresh.send (h : t.Fresh objects b) (a : α) : t.Fresh objects (b.send a) := by
  unfold Broadcast.send
  split
  · exact h
  · refine ⟨Nat.le_succ_of_le h.seen_le, ?_⟩
    intro _ hseen
    have hle := h.seen_le
    simp only [Watch.send] at hseen
    omega

theorem Fresh.dropSender (h : t.Fresh objects b) : t.Fresh objects b.dropSender :=
  ⟨h.seen_le, h.tested⟩

theorem Fresh.step (h : t.Fresh objects b) (cancelled : Bool) (branch : WaitBranch) :
    (t.step objects b cancelled branch).1.Fresh objects b := by
  unfold WatchTask.step
  cases hphase : t.phase with
  | testing =>
    cases hobjects : objects b.watch.value with
    | true => exact ⟨h.seen_le, fun hwaiting => by cases hwaiting⟩
    | false => exact ⟨h.seen_le, fun _ _ => hobjects⟩
  | returned => exact h
  | waiting =>
    cases branch with
    | cancelled =>
      cases cancelled with
      | true => exact ⟨h.seen_le, fun hwaiting => by cases hwaiting⟩
      | false => exact h
    | changed =>
      simp only
      cases hchanged : b.changed t.seen with
      | none => exact h
      | some answer =>
        cases answer with
        | error _ => exact ⟨h.seen_le, fun hwaiting => by cases hwaiting⟩
        | ok version =>
          exact ⟨(Broadcast.eq_version_of_changed_ok hchanged).le, fun hwaiting => by cases hwaiting⟩

/-- A task that waits in vain does not object to the latest value. -/
theorem Fresh.unobjected (h : t.Fresh objects b) {cancelled : Bool}
    (hsuspended : t.Suspended b cancelled) : objects b.watch.value = false :=
  h.tested hsuspended.waiting (Broadcast.eq_version_of_changed hsuspended.unchanged)

end WatchTask
