import Mathlib

/-!
# Output buffers

A buffer that is filled from its start, and enlarged when it is full.  What has been
written is its first part, `content`; the rest is `room`.
-/

structure OutBuffer (α : Type) where
  cells : List α
  filled : Nat
  filled_le : filled ≤ cells.length

namespace OutBuffer

variable {α : Type} {items : List α} {n : Nat}

/-- A buffer of `n` cells, none of them filled. -/
def zeroed (zero : α) (n : Nat) : OutBuffer α :=
  { cells := List.replicate n zero, filled := 0, filled_le := Nat.zero_le _ }

def room (b : OutBuffer α) : Nat := b.cells.length - b.filled

def content (b : OutBuffer α) : List α := b.cells.take b.filled

/-- Items into the cells after the filled ones, of which there are enough. -/
def write (b : OutBuffer α) (items : List α) : OutBuffer α :=
  { cells := b.cells.take b.filled ++ items ++ b.cells.drop (b.filled + items.length)
    filled := b.filled + items.length
    filled_le := by
      have hle := b.filled_le
      rw [List.length_append, List.length_append, List.length_take, List.length_drop]
      omega }

/-- `n` more cells, once all are filled. -/
def enlargeIfFull (b : OutBuffer α) (zero : α) (n : Nat) : OutBuffer α :=
  if b.filled = b.cells.length then
    { cells := b.cells ++ List.replicate n zero
      filled := b.filled
      filled_le := by
        rw [List.length_append]
        exact Nat.le_trans b.filled_le (Nat.le_add_right _ _) }
  else b

@[simp] theorem content_zeroed (zero : α) (n : Nat) : (zeroed zero n).content = [] := rfl

@[simp] theorem room_zeroed (zero : α) (n : Nat) : (zeroed zero n).room = n := by
  simp [room, zeroed]

/-- What is written comes after what there was. -/
@[simp] theorem content_write (b : OutBuffer α) : (b.write items).content = b.content ++ items := by
  have hle := b.filled_le
  have hlength : (b.cells.take b.filled ++ items).length = b.filled + items.length := by
    rw [List.length_append, List.length_take, Nat.min_eq_left hle]
  show (b.cells.take b.filled ++ items ++ _).take (b.filled + items.length) = _
  rw [← hlength, List.take_left]
  rfl

theorem room_write (b : OutBuffer α) : (b.write items).room = b.room - items.length := by
  have hle := b.filled_le
  simp only [room, write, List.length_append, List.length_take, List.length_drop]
  omega

@[simp] theorem content_enlargeIfFull (b : OutBuffer α) (zero : α) (n : Nat) :
    (b.enlargeIfFull zero n).content = b.content := by
  unfold enlargeIfFull
  split
  · exact List.take_append_of_le_length b.filled_le
  · rfl

theorem room_enlargeIfFull (b : OutBuffer α) (zero : α) (n : Nat) :
    (b.enlargeIfFull zero n).room = if b.room = 0 then n else b.room := by
  have hle := b.filled_le
  have hfull : b.filled = b.cells.length ↔ b.room = 0 := by
    unfold room
    omega
  unfold enlargeIfFull
  by_cases h : b.room = 0
  · rw [if_pos (hfull.mpr h), if_pos h]
    simp only [room, List.length_append, List.length_replicate]
    have := hfull.mpr h
    omega
  · rw [if_neg (fun heq => h (hfull.mp heq)), if_neg h]

theorem room_enlargeIfFull_pos (b : OutBuffer α) (zero : α) (hn : 0 < n) :
    0 < (b.enlargeIfFull zero n).room := by
  rw [room_enlargeIfFull]
  split
  · exact hn
  · omega

end OutBuffer
