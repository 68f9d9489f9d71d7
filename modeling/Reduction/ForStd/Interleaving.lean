import Reduction.ForStd.Run

/-!
# Calls that run side by side

A system in which any number of calls are in progress keeps them in a list, and a
step moves one of them on: the list changes at one place.  An invariant of such a
system says how many calls stand where.  `playing` counts the calls with a given
role, and `playing_set` says what becomes of the count when one call moves on.
-/

namespace Interleaving

variable {α β : Type*}

/-- How many of the calls have the role `r`. -/
def playing [DecidableEq β] (role : α → β) (calls : List α) (r : β) : Nat :=
  (calls.map role).count r

section

variable [DecidableEq β] {role : α → β} {calls : List α}

theorem playing_cons (c : α) (r : β) :
    playing role (c :: calls) r = playing role calls r + if role c = r then 1 else 0 := by
  rw [playing, List.map_cons, List.count_cons]
  simp only [playing, beq_iff_eq]

/-- A new call adds to the count of its own role. -/
theorem playing_concat (c : α) (r : β) :
    playing role (calls ++ [c]) r = playing role calls r + if role c = r then 1 else 0 := by
  rw [playing, List.map_append, List.count_append, List.map_singleton, List.count_singleton]
  simp only [playing, beq_iff_eq]

/-- A call that moves on leaves its role and takes on another. -/
theorem playing_set {i : Nat} {c : α} (h : calls[i]? = some c) (c' : α) (r : β) :
    playing role (calls.set i c') r + (if role c = r then 1 else 0) =
      playing role calls r + if role c' = r then 1 else 0 := by
  induction calls generalizing i with
  | nil => cases h
  | cons a rest ih =>
    cases i with
    | zero =>
      cases h
      rw [List.set_cons_zero, playing_cons, playing_cons]
      omega
    | succ i =>
      have hrest := ih h
      rw [List.set_cons_succ, playing_cons, playing_cons]
      omega

theorem playing_pos {c : α} (h : c ∈ calls) : 0 < playing role calls (role c) :=
  List.count_pos_iff.mpr (List.mem_map_of_mem h)

/-- A role that no call can have is not played. -/
theorem playing_eq_zero {r : β} (h : ∀ c ∈ calls, role c ≠ r) : playing role calls r = 0 := by
  refine List.count_eq_zero.mpr fun hmem => ?_
  obtain ⟨c, hc, heq⟩ := List.mem_map.mp hmem
  exact h c hc heq

end

/-- What holds for every call holds when one of them is replaced by another such call. -/
theorem forall_mem_set {p : α → Prop} {calls : List α} {i : Nat} {c' : α} (h : ∀ c ∈ calls, p c)
    (hc' : p c') : ∀ c ∈ calls.set i c', p c := by
  intro c hc
  cases List.mem_or_eq_of_mem_set hc with
  | inl hmem => exact h c hmem
  | inr heq => exact heq ▸ hc'

theorem forall_mem_concat {p : α → Prop} {calls : List α} {c' : α} (h : ∀ c ∈ calls, p c)
    (hc' : p c') : ∀ c ∈ calls ++ [c'], p c := by
  intro c hc
  cases List.mem_append.mp hc with
  | inl hmem => exact h c hmem
  | inr hmem => exact List.mem_singleton.mp hmem ▸ hc'

end Interleaving
