import Mathlib

/-!
# Streaming encoders

An encoder that is fed and drained in passes.  A pass is offered input and room
for output, consumes some of the one and writes into some of the other, and keeps
what it has not written yet.  `Passes` collects what a sequence of passes has
consumed and written, and `Encodes` is what one expects of an encoder: passes get
on, and all that was written, up to the pass that ends the stream, decodes to all
that was consumed.
-/

/-- An encoder over `α`, whose passes fail with an `ε`. -/
structure StreamEncoder (α ε : Type) where
  State : Type
  /-- Input and room; the number of consumed items, and what was written. -/
  run : State → List α → Nat → Except ε (State × Nat × List α)
  /-- A pass that ends the stream; the number is 0 when nothing is left to be written. -/
  finish : State → Nat → Except ε (State × Nat × List α)
  /-- A bound for what the encoder can write without further input. -/
  held : State → Nat
  /-- What an item of input can add to that. -/
  expansion : Nat
  run_consumed : ∀ {s input room s' n out}, run s input room = .ok (s', n, out) → n ≤ input.length
  run_held : ∀ {s input room s' n out}, run s input room = .ok (s', n, out) →
    held s' + out.length ≤ held s + expansion * n
  finish_held : ∀ {s room s' left out}, finish s room = .ok (s', left, out) →
    held s' + out.length ≤ held s

namespace StreamEncoder

variable {α ε : Type} {z : StreamEncoder α ε} {s₀ s s' : z.State} {i o i' o' : List α}

/-- A bound for the passes that can still get on with the input. -/
def runMeasure (z : StreamEncoder α ε) (s : z.State) (input : List α) : Nat :=
  (z.expansion + 1) * input.length + z.held s

/-- A pass that consumes or writes comes out of the bound. -/
theorem runMeasure_lt {input out : List α} {room n : Nat}
    (h : z.run s input room = .ok (s', n, out)) (hprogress : ¬ (out = [] ∧ n = 0)) :
    z.runMeasure s' (input.drop n) < z.runMeasure s input := by
  have hle := z.run_consumed h
  have hheld := z.run_held h
  have hmoves : 0 < out.length + n := by
    by_contra hnone
    exact hprogress ⟨List.length_eq_zero_iff.mp (by omega), by omega⟩
  have hmul : (z.expansion + 1) * n = z.expansion * n + n := Nat.succ_mul _ _
  have hmono : (z.expansion + 1) * n ≤ (z.expansion + 1) * input.length :=
    Nat.mul_le_mul_left _ hle
  unfold runMeasure
  rw [List.length_drop, Nat.mul_sub]
  omega

/-- The passes from `s₀` to a state have consumed the first list and written the second. -/
inductive Passes (z : StreamEncoder α ε) (s₀ : z.State) : List α → List α → z.State → Prop
  | start : Passes z s₀ [] [] s₀
  | run {i o s input room s' n out} : Passes z s₀ i o s → z.run s input room = .ok (s', n, out) →
      Passes z s₀ (i ++ input.take n) (o ++ out) s'
  | finish {i o s room s' left out} : Passes z s₀ i o s → z.finish s room = .ok (s', left, out) →
      Passes z s₀ i (o ++ out) s'

/-- What is expected of an encoder that starts in `s₀`. -/
structure Encodes (z : StreamEncoder α ε) (s₀ : z.State) (decode : List α → Option (List α)) :
    Prop where
  run_ok : ∀ {i o s input room}, Passes z s₀ i o s → input ≠ [] → 0 < room →
    ∃ s' n out, z.run s input room = .ok (s', n, out) ∧ (n ≠ 0 ∨ out ≠ [])
  finish_ok : ∀ {i o s room}, Passes z s₀ i o s → 0 < room →
    ∃ s' left out, z.finish s room = .ok (s', left, out) ∧ (left = 0 ∨ out ≠ [])
  decodes : ∀ {i o s room s' out}, Passes z s₀ i o s → z.finish s room = .ok (s', 0, out) →
    decode (o ++ out) = some i

end StreamEncoder
