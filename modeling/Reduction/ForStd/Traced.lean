import Mathlib

/-!
# Computations with a trace

A computation that reports events as it goes is Mathlib's `Writer` over a list
of events.  `val` and `events` are its two halves, with the simp lemmas that
compute them through `do` blocks.
-/

/-- A computation of an `α` that emits events of type `ε`. -/
abbrev Traced (ε : Type) := Writer (List ε)

namespace Traced

variable {ε α β : Type}

/-- The result of the computation. -/
def val (x : Traced ε α) : α := (Id.run x.run).1

/-- The events it emitted, in order. -/
def events (x : Traced ε α) : List ε := (Id.run x.run).2

/-- Emit one event. -/
def emit (e : ε) : Traced ε Unit := tell [e]

@[simp] theorem val_pure (a : α) : (pure a : Traced ε α).val = a := rfl

@[simp] theorem events_pure (a : α) : (pure a : Traced ε α).events = [] := rfl

@[simp] theorem val_bind (x : Traced ε α) (f : α → Traced ε β) :
    (x >>= f).val = (f x.val).val := rfl

@[simp] theorem events_bind (x : Traced ε α) (f : α → Traced ε β) :
    (x >>= f).events = x.events ++ (f x.val).events := rfl

@[simp] theorem val_emit (e : ε) : (emit e).val = () := rfl

@[simp] theorem events_emit (e : ε) : (emit e).events = [e] := rfl

end Traced
