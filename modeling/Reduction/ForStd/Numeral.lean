import Mathlib

/-!
# Numerals

The value of a list of digits, most significant first, in any base: of a list
that is put together from two, how great it can be, and that digits of one number
are determined by it.
-/

namespace Numeral

variable {α : Type*} {digit : α → Nat} {base : Nat}

/-- The value of a list of digits. -/
def value (digit : α → Nat) (base : Nat) (l : List α) : Nat :=
  l.foldl (fun acc a => acc * base + digit a) 0

@[simp] theorem value_nil : value digit base [] = 0 := rfl

theorem value_concat (l : List α) (a : α) :
    value digit base (l ++ [a]) = value digit base l * base + digit a := by
  rw [value, List.foldl_append]
  rfl

theorem value_append (l l' : List α) :
    value digit base (l ++ l') = value digit base l * base ^ l'.length + value digit base l' := by
  induction l' using List.reverseRecOn with
  | nil => simp
  | append_singleton l' a ih =>
    rw [← List.append_assoc, value_concat, ih, value_concat, List.length_append,
      List.length_singleton, pow_succ]
    ring

theorem value_lt (hdigit : ∀ a, digit a < base) (l : List α) :
    value digit base l < base ^ l.length := by
  induction l using List.reverseRecOn with
  | nil => simp
  | append_singleton l a ih =>
    have ha := hdigit a
    rw [value_concat, List.length_append, List.length_singleton, pow_succ]
    calc value digit base l * base + digit a
        < value digit base l * base + base := by omega
      _ = (value digit base l + 1) * base := by ring
      _ ≤ base ^ l.length * base := Nat.mul_le_mul_right base ih

/-- The leading digits are what a division leaves. -/
theorem value_append_div (hdigit : ∀ a, digit a < base) (l l' : List α) :
    value digit base (l ++ l') / base ^ l'.length = value digit base l := by
  have hlt := value_lt hdigit l'
  rw [value_append, Nat.mul_comm, Nat.mul_add_div (by omega), Nat.div_eq_of_lt hlt, Nat.add_zero]

theorem value_inj (hdigit : ∀ a, digit a < base) (hinj : Function.Injective digit)
    {l l' : List α} (hlength : l.length = l'.length)
    (h : value digit base l = value digit base l') : l = l' := by
  induction l using List.reverseRecOn generalizing l' with
  | nil => exact (List.length_eq_zero_iff.mp hlength.symm).symm
  | append_singleton l a ih =>
    cases l' using List.reverseRecOn with
    | nil => simp at hlength
    | append_singleton l' a' =>
      have ha := hdigit a
      have ha' := hdigit a'
      rw [value_concat, value_concat] at h
      -- the last digit is the remainder, the others are the quotient
      have hlast : digit a = digit a' := by
        have hmod := congrArg (· % base) h
        simpa [Nat.add_mod, Nat.mod_eq_of_lt ha, Nat.mod_eq_of_lt ha'] using hmod
      rw [hlast, Nat.add_right_cancel_iff] at h
      have hrest := Nat.eq_of_mul_eq_mul_right (by omega) h
      simp only [List.length_append, List.length_singleton, Nat.add_right_cancel_iff] at hlength
      rw [ih hlength hrest, hinj hlast]

end Numeral
