import Mathlib

/-!
# Values over time

A value that is set at certain times is the log of its settings, oldest first.
Between two settings the first one is in force, from its own time on.
-/

namespace Timeline

variable {α : Type*}

/-- The value in force at a time: the last one that was set by then. -/
def at? (log : List (Nat × α)) (x : Nat) : Option α :=
  (log.filter fun e => e.1 ≤ x).getLast?.map Prod.snd

theorem at?_concat (log : List (Nat × α)) (now : Nat) (v : α) (x : Nat) :
    at? (log ++ [(now, v)]) x = if now ≤ x then some v else at? log x := by
  rw [at?, List.filter_append]
  by_cases h : now ≤ x
  · simp [h]
  · simp [h, at?]

/-- Every value in force at `start` or later meets `p`, if the log stays as it is. -/
def From (p : α → Prop) (log : List (Nat × α)) (start : Nat) : Prop :=
  ∀ x, start ≤ x → ∀ v, at? log x = some v → p v

variable {p : α → Prop} {log : List (Nat × α)} {start now : Nat} {v : α}

theorem From.mono (h : From p log start) {later : Nat} (hle : start ≤ later) : From p log later :=
  fun x hx => h x (hle.trans hx)

theorem From.concat (h : From p log start) (hv : p v) : From p (log ++ [(now, v)]) start := by
  intro x hx w hw
  rw [at?_concat] at hw
  split at hw
  · cases hw
    exact hv
  · exact h x hx w hw

/-- From the time at which a value is set on, no other one counts. -/
theorem from_concat_self (hv : p v) : From p (log ++ [(now, v)]) now := by
  intro x hx w hw
  rw [at?_concat, if_pos hx] at hw
  cases hw
  exact hv

end Timeline
