import Mathlib

/-!
# Lists of tasks

A system keeps its tasks of one kind in a list, and a step changes one of them.
-/

namespace Tasks

variable {α : Type*}

/-- What holds of all tasks, and of the one that is changed after its change. -/
theorem forall_modify {p : α → Prop} {tasks : List α} (h : ∀ t ∈ tasks, p t) {f : α → α}
    (hf : ∀ t ∈ tasks, p t → p (f t)) (i : Nat) : ∀ t ∈ tasks.modify i f, p t := by
  by_cases hi : i < tasks.length
  · obtain ⟨before, t, after, rfl, -, heq⟩ := List.exists_of_modify f hi
    have ht : t ∈ before ++ t :: after := List.mem_append_right _ List.mem_cons_self
    rw [heq]
    intro t' ht'
    rw [List.mem_append, List.mem_cons] at ht'
    rcases ht' with hmem | rfl | hmem
    · exact h t' (List.mem_append_left _ hmem)
    · exact hf t ht (h t ht)
    · exact h t' (List.mem_append_right _ (List.mem_cons_of_mem _ hmem))
  · rw [List.modify_eq_self (Nat.le_of_not_lt hi)]
    exact h

/-- What a change keeps under a condition on the task that is changed. -/
theorem forall_modify_iff {p q : α → Prop} {tasks : List α} {f : α → α} {i : Nat}
    (hf : ∀ t, tasks[i]? = some t → (p (f t) ↔ p t ∧ q t)) :
    (∀ t ∈ tasks.modify i f, p t) ↔ (∀ t ∈ tasks, p t) ∧ ∀ t, tasks[i]? = some t → q t := by
  by_cases hi : i < tasks.length
  · obtain ⟨before, t, after, rfl, hlength, heq⟩ := List.exists_of_modify f hi
    have hget : (before ++ t :: after)[i]? = some t := by
      rw [← hlength, List.getElem?_append_right (Nat.le_refl _), Nat.sub_self]
      rfl
    rw [heq, List.forall_mem_append, List.forall_mem_append, List.forall_mem_cons,
      List.forall_mem_cons, hf t hget]
    constructor
    · rintro ⟨hbefore, ⟨hp, hq⟩, hafter⟩
      refine ⟨⟨hbefore, hp, hafter⟩, ?_⟩
      intro t' ht'
      cases hget.symm.trans ht'
      exact hq
    · rintro ⟨⟨hbefore, hp, hafter⟩, hq⟩
      exact ⟨hbefore, ⟨hp, hq t hget⟩, hafter⟩
  · have hnone : tasks[i]? = none := List.getElem?_eq_none (Nat.le_of_not_lt hi)
    rw [List.modify_eq_self (Nat.le_of_not_lt hi)]
    constructor
    · intro h
      refine ⟨h, ?_⟩
      intro t ht
      cases hnone.symm.trans ht
    · exact And.left

/-- The tasks stay related, one by one, to what they belong to. -/
theorem forall₂_modify {β : Type*} {R : α → β → Prop} {tasks : List α} {ys : List β}
    (h : List.Forall₂ R tasks ys) {f : α → α} (hf : ∀ t ∈ tasks, ∀ y, R t y → R (f t) y)
    (i : Nat) : List.Forall₂ R (tasks.modify i f) ys := by
  induction h generalizing i with
  | nil =>
    rw [List.modify_nil]
    exact .nil
  | @cons t y tasks ys ht hrest ih =>
    rw [List.forall_mem_cons] at hf
    cases i with
    | zero => exact .cons (hf.1 y ht) hrest
    | succ i => exact .cons ht (ih hf.2 i)

/-- A sum over all tasks, with one of them apart. -/
theorem sum_eq_add {tasks : List α} {i : Nat} {t : α} (h : tasks[i]? = some t) (g : α → Nat) :
    (tasks.map g).sum = ((tasks.eraseIdx i).map g).sum + g t := by
  obtain ⟨hi, rfl⟩ := List.getElem?_eq_some_iff.mp h
  have hperm := (List.getElem_cons_eraseIdx_perm hi).map g
  rw [← hperm.sum_eq, List.map_cons, List.sum_cons, Nat.add_comm]

/-- The other tasks stay as they are. -/
theorem sum_set {tasks : List α} {i : Nat} {t : α} (h : tasks[i]? = some t) (t' : α)
    (g : α → Nat) : ((tasks.set i t').map g).sum = ((tasks.eraseIdx i).map g).sum + g t' := by
  obtain ⟨hi, -⟩ := List.getElem?_eq_some_iff.mp h
  rw [sum_eq_add (List.getElem?_set_self hi) g, List.eraseIdx_set_eq]

theorem forall_set {p : α → Prop} {tasks : List α} (h : ∀ t ∈ tasks, p t) {t' : α} (ht' : p t')
    (i : Nat) : ∀ t ∈ tasks.set i t', p t := by
  intro t ht
  cases List.mem_or_eq_of_mem_set ht with
  | inl hmem => exact h t hmem
  | inr heq => exact heq ▸ ht'

/-- Tasks that count for one or for nothing. -/
theorem sum_add_countP {tasks : List α} {g : α → Nat} (h : ∀ t ∈ tasks, g t ≤ 1) :
    (tasks.map g).sum + tasks.countP (fun t => g t = 0) = tasks.length := by
  induction tasks with
  | nil => rfl
  | cons t tasks ih =>
    rw [List.forall_mem_cons] at h
    have hrest := ih h.2
    have ht := h.1
    rw [List.map_cons, List.sum_cons, List.countP_cons, List.length_cons]
    by_cases hzero : g t = 0
    · simp only [hzero, decide_true, if_true]
      omega
    · simp only [hzero, decide_false, Bool.false_eq_true, if_false]
      omega

end Tasks
