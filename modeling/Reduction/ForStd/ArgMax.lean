import Mathlib

/-!
# The first of the greatest

`List.argmax` returns the first element of a list at which a function is greatest.
Here is what that means in terms of the elements before and after it, and what
becomes of it when other elements leave the list or come to it.
-/

namespace List

variable {α β : Type*} [LinearOrder β] {f : α → β} {l : List α} {m : α}

/-- An element that beats all before it and is not beaten by any after it. -/
theorem argmax_split {before after : List α} (hbefore : ∀ a ∈ before, f a < f m)
    (hafter : ∀ a ∈ after, f a ≤ f m) : argmax f (before ++ m :: after) = some m := by
  induction after using List.reverseRecOn with
  | nil =>
    rw [argmax_concat]
    cases h : argmax f before with
    | none => rfl
    | some c =>
      have hlt := hbefore c (argmax_mem h)
      simp only [hlt, if_true]
  | append_singleton after a ih =>
    have hrest := ih fun a' ha' => hafter a' (mem_append_left _ ha')
    have hle := hafter a (mem_append_right _ (mem_singleton_self a))
    rw [← cons_append, ← append_assoc, argmax_concat, hrest]
    simp only [not_lt_of_ge hle, if_false]

/-- The greatest element is the first: it beats all before it. -/
theorem argmax_eq_some_iff_split :
    argmax f l = some m ↔ ∃ before after, l = before ++ m :: after ∧
      (∀ a ∈ before, f a < f m) ∧ ∀ a ∈ after, f a ≤ f m := by
  constructor
  · intro h
    induction l using List.reverseRecOn generalizing m with
    | nil => cases h
    | append_singleton l a ih =>
      rw [argmax_concat] at h
      cases hl : argmax f l with
      | none =>
        rw [hl] at h
        cases h
        rw [argmax_eq_none] at hl
        exact ⟨[], [], by rw [hl], fun a' ha' => absurd ha' not_mem_nil,
          fun a' ha' => absurd ha' not_mem_nil⟩
      | some c =>
        rw [hl] at h
        by_cases hlt : f c < f a
        · simp only [hlt, if_true] at h
          cases h
          refine ⟨l, [], rfl, ?_, fun a' ha' => absurd ha' not_mem_nil⟩
          intro a' ha'
          exact (le_of_mem_argmax ha' hl).trans_lt hlt
        · simp only [hlt, if_false] at h
          cases h
          obtain ⟨before, after, rfl, hbefore, hafter⟩ := ih hl
          refine ⟨before, after ++ [a], by simp, hbefore, ?_⟩
          intro a' ha'
          rcases mem_append.mp ha' with ha' | ha'
          · exact hafter a' ha'
          · rw [mem_singleton.mp ha']
            exact not_lt.mp hlt
  · rintro ⟨before, after, rfl, hbefore, hafter⟩
    exact argmax_split hbefore hafter

/-- Those that are not the greatest can go. -/
theorem argmax_filter {p : α → Bool} (h : ∀ m, argmax f l = some m → p m = true) :
    argmax f (l.filter p) = argmax f l := by
  cases hl : argmax f l with
  | none =>
    rw [argmax_eq_none.mp hl]
    rfl
  | some m =>
    obtain ⟨before, after, rfl, hbefore, hafter⟩ := argmax_eq_some_iff_split.mp hl
    rw [filter_append, filter_cons_of_pos (h m hl)]
    exact argmax_split (fun a ha => hbefore a (mem_of_mem_filter ha))
      (fun a ha => hafter a (mem_of_mem_filter ha))

/-- The first of the greatest among those that pass a test. -/
theorem argmax_filter_eq_some_iff_split {p : α → Bool} :
    argmax f (l.filter p) = some m ↔ ∃ before after, l = before ++ m :: after ∧ p m = true ∧
      (∀ a ∈ before, p a = true → f a < f m) ∧ ∀ a ∈ after, p a = true → f a ≤ f m := by
  constructor
  · intro h
    obtain ⟨passed, rest, hfilter, hpassed, hrest⟩ := argmax_eq_some_iff_split.mp h
    obtain ⟨before, tail, rfl, rfl, htail⟩ := filter_eq_append_iff.mp hfilter
    obtain ⟨skipped, after, rfl, hskipped, hm, rfl⟩ := filter_eq_cons_iff.mp htail
    refine ⟨before ++ skipped, after, by simp, hm, ?_, ?_⟩
    · intro a ha hp
      rcases mem_append.mp ha with ha | ha
      · exact hpassed a (mem_filter.mpr ⟨ha, hp⟩)
      · exact absurd hp (hskipped a ha)
    · intro a ha hp
      exact hrest a (mem_filter.mpr ⟨ha, hp⟩)
  · rintro ⟨before, after, rfl, hm, hbefore, hafter⟩
    rw [filter_append, filter_cons_of_pos hm]
    refine argmax_split ?_ ?_
    · intro a ha
      exact hbefore a (mem_of_mem_filter ha) (of_mem_filter ha)
    · intro a ha
      exact hafter a (mem_of_mem_filter ha) (of_mem_filter ha)

/-- A step of the scan that keeps the best so far together with its value. -/
def keepBest (f : α → β) (best : Option (α × β)) (a : α) : Option (α × β) :=
  match best with
  | none => some (a, f a)
  | some (_, value) => if value < f a then some (a, f a) else best

theorem foldl_keepBest (f : α → β) (l : List α) :
    l.foldl (keepBest f) none = (argmax f l).map fun a => (a, f a) := by
  induction l using List.reverseRecOn with
  | nil => rfl
  | append_singleton l a ih =>
    rw [foldl_concat, ih, argmax_concat]
    cases argmax f l with
    | none => rfl
    | some c =>
      by_cases h : f c < f a
      · simp [keepBest, h]
      · simp [keepBest, h]

end List
