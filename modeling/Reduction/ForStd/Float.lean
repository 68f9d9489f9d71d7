import Mathlib

/-!
# Double-precision numbers without rounding

The values of `f64` as the rationals with two infinities and one NaN.  The
operations are exact on finite numbers and follow IEEE 754 elsewhere; the sign
of zero is not represented.  Every comparison with a NaN is false.
-/

inductive F64 where
  | nan
  | negInf
  | posInf
  | fin (q : ℚ)
deriving DecidableEq

namespace F64

def zero : F64 := fin 0

def one : F64 := fin 1

/-- `n as f64`. -/
def ofNat (n : Nat) : F64 := fin n

/-- `a < b`. -/
def lt : F64 → F64 → Bool
  | nan, _ | _, nan => false
  | negInf, negInf => false
  | negInf, _ => true
  | _, negInf => false
  | posInf, _ => false
  | fin _, posInf => true
  | fin a, fin b => a < b

/-- `a <= b`. -/
def le : F64 → F64 → Bool
  | nan, _ | _, nan => false
  | negInf, _ => true
  | _, negInf => false
  | _, posInf => true
  | posInf, fin _ => false
  | fin a, fin b => a ≤ b

def neg : F64 → F64
  | nan => nan
  | negInf => posInf
  | posInf => negInf
  | fin q => fin (-q)

/-- An infinity with the sign of a number, and NaN for zero. -/
def infWithSign (q : ℚ) : F64 := if 0 < q then posInf else if q < 0 then negInf else nan

def add : F64 → F64 → F64
  | nan, _ | _, nan => nan
  | posInf, negInf | negInf, posInf => nan
  | posInf, _ | _, posInf => posInf
  | negInf, _ | _, negInf => negInf
  | fin a, fin b => fin (a + b)

def sub (a b : F64) : F64 := a.add b.neg

def mul : F64 → F64 → F64
  | nan, _ | _, nan => nan
  | posInf, posInf | negInf, negInf => posInf
  | posInf, negInf | negInf, posInf => negInf
  | posInf, fin q | fin q, posInf => infWithSign q
  | negInf, fin q | fin q, negInf => infWithSign (-q)
  | fin a, fin b => fin (a * b)

def div : F64 → F64 → F64
  | nan, _ | _, nan => nan
  | fin a, fin b => if b = 0 then infWithSign a else fin (a / b)
  | fin _, _ => zero
  | posInf, fin b => if b < 0 then negInf else posInf
  | negInf, fin b => if b < 0 then posInf else negInf
  | _, _ => nan

/-- `f64::clamp`: a NaN passes. -/
def clamp (x lo hi : F64) : F64 :=
  let x := if x.lt lo then lo else x
  if hi.lt x then hi else x

theorem mul_fin (a b : ℚ) : (fin a).mul (fin b) = fin (a * b) := rfl

theorem sub_fin (a b : ℚ) : (fin a).sub (fin b) = fin (a - b) := by
  rw [sub_eq_add_neg]
  rfl

theorem div_fin (a : ℚ) {b : ℚ} (h : b ≠ 0) : (fin a).div (fin b) = fin (a / b) := if_neg h

/-- A finite number stays finite between finite bounds. -/
theorem clamp_fin (q lo hi : ℚ) : ∃ p, (fin q).clamp (fin lo) (fin hi) = fin p := by
  unfold clamp
  dsimp only
  split <;> split <;> exact ⟨_, rfl⟩

variable {a b : F64}

theorem not_le_of_lt (h : a.lt b = true) : b.le a = false := by
  cases a <;> cases b <;> simp [lt, le] at h ⊢
  exact h

/-- Numbers that are not in one order are in the other. -/
theorem lt_of_not_le (ha : a ≠ nan) (hb : b ≠ nan) (h : b.le a = false) : a.lt b = true := by
  cases a <;> cases b <;> simp [lt, le] at ha hb h ⊢
  exact h

theorem le_antisymm (hab : a.le b = true) (hba : b.le a = true) : a = b := by
  cases a <;> cases b <;> simp only [le, Bool.false_eq_true, decide_eq_true_eq] at hab hba
  · rfl
  · rfl
  · rw [hab.antisymm hba]

end F64
