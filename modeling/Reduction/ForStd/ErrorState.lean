import Mathlib

/-!
# Programs whose state survives errors

What an `EStateM` program has done to its state stays done when it fails, so the
state that it leaves matters either way.
-/

namespace EStateM

universe u

variable {ε σ α β : Type u} {x : EStateM ε σ α} {f : α → EStateM ε σ β} {s s' : σ}

/-- The state that the program leaves, whether it returns or fails. -/
def final (x : EStateM ε σ α) (s : σ) : σ :=
  match x.run s with
  | .ok _ s' => s'
  | .error _ s' => s'

theorem final_of_ok {a : α} (h : x.run s = .ok a s') : x.final s = s' := by
  unfold final
  rw [h]

theorem final_of_error {e : ε} (h : x.run s = .error e s') : x.final s = s' := by
  unfold final
  rw [h]

theorem run_bind_of_ok {a : α} (h : x.run s = .ok a s') : (x >>= f).run s = (f a).run s' := by
  show (match x.run s with
    | .ok a s' => (f a).run s'
    | .error e s' => .error e s') = _
  rw [h]

theorem run_bind_of_error {e : ε} (h : x.run s = .error e s') :
    (x >>= f).run s = .error e s' := by
  show (match x.run s with
    | .ok a s' => (f a).run s'
    | .error e s' => .error e s') = _
  rw [h]

theorem final_bind_of_ok {a : α} (h : x.run s = .ok a s') :
    (x >>= f).final s = (f a).final s' := by
  unfold final
  rw [run_bind_of_ok h]

theorem final_bind_of_error {e : ε} (h : x.run s = .error e s') : (x >>= f).final s = s' :=
  final_of_error (run_bind_of_error h)

/-! ## What a program does not touch -/

variable {τ : Type*} {view : σ → τ}

/-- The program may change the state only where the view does not show it. -/
def Keeps (view : σ → τ) (x : EStateM ε σ α) : Prop := ∀ s, view (x.final s) = view s

namespace Keeps

theorem pure (a : α) : Keeps view (Pure.pure a : EStateM ε σ α) := fun _ => rfl

theorem throw (e : ε) : Keeps view (MonadExcept.throw e : EStateM ε σ α) := fun _ => rfl

theorem modify {g : σ → σ} (h : ∀ s, view (g s) = view s) :
    Keeps view (modify g : EStateM ε σ PUnit) := h

/-- What comes after the first part of a program leaves the view as that part left it. -/
theorem final_bind (hf : ∀ a, Keeps view (f a)) (s : σ) :
    view ((x >>= f).final s) = view (x.final s) := by
  cases hrun : x.run s with
  | ok a s' => rw [final_bind_of_ok hrun, hf a s', final_of_ok hrun]
  | error e s' => rw [final_bind_of_error hrun, final_of_error hrun]

theorem bind (hx : Keeps view x) (hf : ∀ a, Keeps view (f a)) : Keeps view (x >>= f) :=
  fun s => (final_bind hf s).trans (hx s)

theorem of_ok (hx : Keeps view x) {a : α} (h : x.run s = .ok a s') : view s' = view s := by
  rw [← final_of_ok h]
  exact hx s

theorem of_error (hx : Keeps view x) {e : ε} (h : x.run s = .error e s') : view s' = view s := by
  rw [← final_of_error h]
  exact hx s

end Keeps

end EStateM
