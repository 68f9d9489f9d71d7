import Reduction.ForStd.Float

/-!
# The best of a list of numbers

A scan that keeps the first element, and later ones that are strictly greater than
the best so far.  If the first value is a number the scan ends at a greatest one.
If it is a NaN nothing is greater than it, and the scan ends where it began.
-/

namespace F64

theorem lt_trans {a b c : F64} (hab : a.lt b = true) (hbc : b.lt c = true) : a.lt c = true := by
  cases a <;> cases b <;> cases c <;> simp [lt] at hab hbc ⊢
  exact hab.trans hbc

theorem ne_nan_of_lt {a b : F64} (h : a.lt b = true) : b ≠ nan := by
  rintro rfl
  cases a <;> cases h

theorem lt_irrefl (a : F64) : a.lt a = false := by
  cases a <;> simp [lt]

theorem nan_lt (a : F64) : nan.lt a = false := by
  cases a <;> rfl

variable {α : Type} {f : α → F64}

/-- A step of the scan. -/
def keepBest (f : α → F64) (best : Option (α × F64)) (a : α) : Option (α × F64) :=
  match best with
  | none => some (a, f a)
  | some (_, value) => if value.lt (f a) then some (a, f a) else best

/-- A NaN is not replaced. -/
theorem foldl_keepBest_nan (l : List α) (a : α) :
    l.foldl (keepBest f) (some (a, nan)) = some (a, nan) := by
  induction l with
  | nil => rfl
  | cons b l ih =>
    rw [List.foldl_cons, keepBest, nan_lt]
    exact ih

/-- From a number the scan comes to one that nothing exceeds. -/
theorem foldl_keepBest_number (l : List α) {a : α} (ha : f a ≠ nan) :
    ∃ b, l.foldl (keepBest f) (some (a, f a)) = some (b, f b) ∧ f b ≠ nan ∧
      ∀ c ∈ a :: l, (f b).lt (f c) = false := by
  -- from the right: what has been passed is not above the best so far
  induction l using List.reverseRecOn with
  | nil =>
    refine ⟨a, rfl, ha, ?_⟩
    intro c hc
    rw [List.mem_singleton.mp hc]
    exact lt_irrefl (f a)
  | append_singleton l c ih =>
    obtain ⟨b, hfold, hb, hbest⟩ := ih
    rw [List.foldl_concat, hfold, keepBest]
    by_cases hlt : (f b).lt (f c) = true
    · refine ⟨c, if_pos hlt, ne_nan_of_lt hlt, ?_⟩
      intro d hd
      by_contra habove
      have hbd := lt_trans hlt (Bool.eq_true_of_not_eq_false habove)
      rw [← List.cons_append, List.mem_append, List.mem_singleton] at hd
      rcases hd with hd | rfl
      · rw [hbest d hd] at hbd
        cases hbd
      · exact habove (lt_irrefl (f d))
    · refine ⟨b, if_neg hlt, hb, ?_⟩
      intro d hd
      rw [← List.cons_append, List.mem_append, List.mem_singleton] at hd
      rcases hd with hd | rfl
      · exact hbest d hd
      · exact Bool.eq_false_iff.mpr hlt

end F64
