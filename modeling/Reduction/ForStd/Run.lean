import Mathlib

/-!
# Runs of a step function

A system that reacts to one action at a time is a function `step : σ → α → σ`;
a run is the state it reaches on a list of actions.  `RunOk` says that every
step of a run is taken in a state that permits it, and `run_invariant` is the
induction over runs, done once.
-/

namespace Run

variable {σ α : Type*}

/-- The state reached from `s` by the actions `as`, in order. -/
def run (step : σ → α → σ) (s : σ) (as : List α) : σ := as.foldl step s

@[simp] theorem run_nil (step : σ → α → σ) (s : σ) : run step s [] = s := rfl

@[simp] theorem run_cons (step : σ → α → σ) (s : σ) (a : α) (as : List α) :
    run step s (a :: as) = run step (step s a) as := rfl

theorem run_concat (step : σ → α → σ) (s : σ) (as : List α) (a : α) :
    run step s (as ++ [a]) = step (run step s as) a := List.foldl_concat step s a as

theorem run_append (step : σ → α → σ) (s : σ) (as bs : List α) :
    run step s (as ++ bs) = run step (run step s as) bs := List.foldl_append

/-- What is reached step by step by permitted actions is reached by a run of them. -/
theorem exists_run_of_reflTransGen {step : σ → α → σ} {ok : α → Prop} {s t : σ}
    (h : Relation.ReflTransGen (fun s t => ∃ a, ok a ∧ t = step s a) s t) :
    ∃ as, (∀ a ∈ as, ok a) ∧ run step s as = t := by
  induction h with
  | refl => exact ⟨[], by simp, rfl⟩
  | tail _ hlast ih =>
    obtain ⟨as, has, hrun⟩ := ih
    obtain ⟨a, ha, rfl⟩ := hlast
    refine ⟨as ++ [a], ?_, ?_⟩
    · intro b hb
      rcases List.mem_append.mp hb with hb | hb
      · exact has b hb
      · rw [List.mem_singleton.mp hb]
        exact ha
    · rw [run_concat, hrun]

/-- Every action of the run is taken in a state that `ok` permits it in. -/
def RunOk (step : σ → α → σ) (ok : σ → α → Prop) : σ → List α → Prop
  | _, [] => True
  | s, a :: as => ok s a ∧ RunOk step ok (step s a) as

instance decidableRunOk (step : σ → α → σ) (ok : σ → α → Prop) [∀ s a, Decidable (ok s a)] :
    ∀ s as, Decidable (RunOk step ok s as)
  | _, [] => .isTrue trivial
  | s, a :: as =>
    have := decidableRunOk step ok (step s a) as
    inferInstanceAs (Decidable (ok s a ∧ RunOk step ok (step s a) as))

/-- A run that is permitted in two ways is permitted in both at once. -/
theorem RunOk.and {step : σ → α → σ} {ok ok' : σ → α → Prop} {s : σ} {as : List α}
    (h : RunOk step ok s as) (h' : RunOk step ok' s as) :
    RunOk step (fun s a => ok s a ∧ ok' s a) s as := by
  induction as generalizing s with
  | nil => exact trivial
  | cons a as ih => exact ⟨⟨h.1, h'.1⟩, ih h.2 h'.2⟩

theorem RunOk.of_forall {step : σ → α → σ} {ok : α → Prop} {as : List α} (h : ∀ a ∈ as, ok a)
    (s : σ) : RunOk step (fun _ a => ok a) s as := by
  induction as generalizing s with
  | nil => exact trivial
  | cons a as ih =>
    exact ⟨h a List.mem_cons_self, ih (fun a' ha' => h a' (List.mem_cons_of_mem _ ha')) _⟩

theorem runOk_append {step : σ → α → σ} {ok : σ → α → Prop} {s : σ} {as bs : List α} :
    RunOk step ok s (as ++ bs) ↔ RunOk step ok s as ∧ RunOk step ok (run step s as) bs := by
  induction as generalizing s with
  | nil => exact (and_iff_right trivial).symm
  | cons a as ih => rw [List.cons_append, RunOk, RunOk, ih, run_cons, and_assoc]

theorem runOk_concat {step : σ → α → σ} {ok : σ → α → Prop} {s : σ} {as : List α} {a : α} :
    RunOk step ok s (as ++ [a]) ↔ RunOk step ok s as ∧ ok (run step s as) a := by
  rw [runOk_append, RunOk, RunOk, and_iff_left trivial]

/-- A run is permitted if each of its actions is, in the state that those before it lead to. -/
theorem runOk_iff_forall {step : σ → α → σ} {ok : σ → α → Prop} {s : σ} {as : List α} :
    RunOk step ok s as ↔ ∀ done a todo, as = done ++ a :: todo → ok (run step s done) a := by
  induction as generalizing s with
  | nil => exact iff_of_true trivial (by simp)
  | cons b as ih =>
    constructor
    · rintro ⟨hb, hrest⟩ done a todo h
      cases done with
      | nil =>
        obtain ⟨rfl, rfl⟩ := List.cons.inj h
        exact hb
      | cons c done =>
        obtain ⟨rfl, rfl⟩ := List.cons.inj h
        exact ih.mp hrest done a todo rfl
    · intro h
      refine ⟨h [] b as rfl, ih.mpr ?_⟩
      rintro done a todo rfl
      exact h (b :: done) a todo rfl

/-- All states of a run are good if the first is and every step leads to a good one. -/
theorem forall_run_iff_runOk {step : σ → α → σ} {good : σ → Prop} {s : σ} {as : List α} :
    (∀ done, done <+: as → good (run step s done)) ↔
      good s ∧ RunOk step (fun s a => good (step s a)) s as := by
  induction as generalizing s with
  | nil =>
    constructor
    · intro h
      exact ⟨h [] List.nil_prefix, trivial⟩
    · rintro ⟨h, -⟩ done hdone
      rw [List.prefix_nil.mp hdone]
      exact h
  | cons a as ih =>
    constructor
    · intro h
      have hrest := ih.mp fun done hdone => h (a :: done) (List.cons_prefix_cons.mpr ⟨rfl, hdone⟩)
      exact ⟨h [] List.nil_prefix, hrest⟩
    · rintro ⟨h, hrest⟩ done hdone
      cases done with
      | nil => exact h
      | cons b done =>
        obtain ⟨rfl, hbefore⟩ := List.cons_prefix_cons.mp hdone
        exact ih.mpr hrest done hbefore

/-- What holds at the start and is kept by every permitted step holds after a run of such steps. -/
theorem run_invariant {step : σ → α → σ} {ok : σ → α → Prop} {inv : σ → Prop}
    (hstep : ∀ s a, inv s → ok s a → inv (step s a))
    {s : σ} {as : List α} (hinv : inv s) (hok : RunOk step ok s as) :
    inv (run step s as) := by
  induction as generalizing s with
  | nil => exact hinv
  | cons a as ih => exact ih (hstep s a hinv hok.1) hok.2

/-- What follows for every permitted step from the invariant holds of all steps along the run. -/
theorem RunOk.of_invariant {step : σ → α → σ} {ok ok' : σ → α → Prop} {inv : σ → Prop}
    (hstep : ∀ s a, inv s → ok s a → inv (step s a)) (hok' : ∀ s a, inv s → ok s a → ok' s a)
    {s : σ} {as : List α} (hinv : inv s) (hok : RunOk step ok s as) : RunOk step ok' s as := by
  induction as generalizing s with
  | nil => exact trivial
  | cons a as ih => exact ⟨hok' s a hinv hok.1, ih (hstep s a hinv hok.1) hok.2⟩

/-- Two ways to permit steps that agree wherever the invariant holds permit the same runs. -/
theorem runOk_iff_of_invariant {step : σ → α → σ} {ok ok' : σ → α → Prop} {inv : σ → Prop}
    (hstep : ∀ s a, inv s → ok' s a → inv (step s a)) (hiff : ∀ s a, inv s → (ok s a ↔ ok' s a))
    {s : σ} (hinv : inv s) (as : List α) : RunOk step ok s as ↔ RunOk step ok' s as := by
  induction as generalizing s with
  | nil => exact Iff.rfl
  | cons a as ih =>
    constructor
    · intro h
      have hok := (hiff s a hinv).mp h.1
      exact ⟨hok, (ih (hstep s a hinv hok)).mp h.2⟩
    · intro h
      exact ⟨(hiff s a hinv).mpr h.1, (ih (hstep s a hinv h.1)).mpr h.2⟩

/-- The invariant rule for steps that are permitted in every state. -/
theorem run_invariant_of_step {step : σ → α → σ} {inv : σ → Prop}
    (hstep : ∀ s a, inv s → inv (step s a)) {s : σ} (hinv : inv s) (as : List α) :
    inv (run step s as) := by
  induction as generalizing s with
  | nil => exact hinv
  | cons a as ih => exact ih (hstep s a hinv)

/-- A run never loses what it has reached if and only if no step of it does. -/
theorem stays_iff_runOk {step : σ → α → σ} {good : σ → Prop} {s : σ} {as : List α} :
    (∀ done done', done <+: done' → done' <+: as → good (run step s done) →
        good (run step s done')) ↔
      RunOk step (fun s a => good s → good (step s a)) s as := by
  constructor
  · intro h
    rw [runOk_iff_forall]
    rintro done a todo rfl hgood
    rw [← run_concat step s done a]
    refine h done (done ++ [a]) (List.prefix_append _ _) ⟨todo, ?_⟩ hgood
    rw [List.append_assoc, List.singleton_append]
  · rintro h done _ ⟨more, rfl⟩ ⟨rest, rfl⟩ hgood
    rw [List.append_assoc, runOk_append, runOk_append] at h
    rw [run_append]
    exact run_invariant (fun _ _ hgood hok => hok hgood) hgood h.2.1

/-- Two systems whose steps keep them related stay related along a run. -/
theorem run_related {τ : Type*} {step : σ → α → σ} {step' : τ → α → τ} {R : σ → τ → Prop}
    (hstep : ∀ s t a, R s t → R (step s a) (step' t a)) {s : σ} {t : τ} (h : R s t)
    (as : List α) : R (run step s as) (run step' t as) := by
  induction as generalizing s t with
  | nil => exact h
  | cons a as ih => exact ih (hstep s t a h)

/-- A run ends well if and only if every step was permitted, where the permitted steps are those that
    keep a good state good and no other step makes a bad one good. -/
theorem run_iff_runOk {step : σ → α → σ} {ok : σ → α → Prop} {inv good : σ → Prop}
    (hstep : ∀ s a, inv s → inv (step s a))
    (hgood : ∀ s a, inv s → (good (step s a) ↔ good s ∧ ok s a)) {s : σ} (hinv : inv s)
    (as : List α) : good (run step s as) ↔ good s ∧ RunOk step ok s as := by
  induction as generalizing s with
  | nil => exact (and_iff_left trivial).symm
  | cons a as ih =>
    rw [run_cons, ih (hstep s a hinv), hgood s a hinv, and_assoc]
    rfl

/-! ## What a run gives out -/

/-- The output of all steps of a run, in order. -/
def emitted {β : Type*} (step : σ → α → σ) (out : σ → α → List β) : σ → List α → List β
  | _, [] => []
  | s, a :: as => out s a ++ emitted step out (step s a) as

/-- The costs of the steps of a run add up to nothing if every step is free. -/
theorem sum_emitted_eq_zero_iff {step : σ → α → σ} {cost : σ → α → Nat} {s : σ} {as : List α} :
    (emitted step (fun s a => [cost s a]) s as).sum = 0 ↔
      RunOk step (fun s a => cost s a = 0) s as := by
  induction as generalizing s with
  | nil => simp [emitted, RunOk]
  | cons a as ih =>
    rw [emitted, List.singleton_append, List.sum_cons, Nat.add_eq_zero_iff, ih]
    rfl

/-! ## Steps and loops that may fail -/

/-- Two fallible steps succeed if both do. -/
theorem bind_eq_ok {ε β γ : Type} {x : Except ε β} {f : β → Except ε γ} {c : γ} :
    x >>= f = .ok c ↔ ∃ b, x = .ok b ∧ f b = .ok c := by
  cases x with
  | ok b =>
    constructor
    · intro h
      exact ⟨b, rfl, h⟩
    · rintro ⟨b', hb, h⟩
      cases hb
      exact h
  | error e =>
    constructor
    · intro h
      cases h
    · rintro ⟨b', hb, -⟩
      cases hb

/-- Two fallible steps fail if the first does, or the second after it. -/
theorem bind_eq_error {ε β γ : Type} {x : Except ε β} {f : β → Except ε γ} {e : ε} :
    x >>= f = .error e ↔ x = .error e ∨ ∃ b, x = .ok b ∧ f b = .error e := by
  cases x with
  | ok b =>
    constructor
    · intro h
      exact .inr ⟨b, rfl, h⟩
    · rintro (h | ⟨b', hb, h⟩)
      · cases h
      · cases hb
        exact h
  | error e' =>
    constructor
    · intro h
      cases h
      exact .inl rfl
    · rintro (h | ⟨b', hb, -⟩)
      · cases h
        rfl
      · cases hb

theorem mapError_eq_ok {ε ε' β : Type} {x : Except ε β} {f : ε → ε'} {b : β} :
    x.mapError f = .ok b ↔ x = .ok b := by
  cases x with
  | ok b' =>
    show (Except.ok b' : Except ε' β) = .ok b ↔ _
    rw [Except.ok.injEq, Except.ok.injEq]
  | error e => exact iff_of_false (fun h => by cases h) (fun h => by cases h)

theorem exists_ok {ε β : Type} {x : Except ε β} (h : x.toBool = true) : ∃ b, x = .ok b := by
  cases x with
  | ok b => exact ⟨b, rfl⟩
  | error e => cases h

/-- What passes two checks passed them both. -/
theorem checked_eq_ok {ε β : Type} {c d : Prop} [Decidable c] [Decidable d] {e e' : ε}
    {x : Except ε β} {b : β} :
    (if c then .error e else if d then .error e' else x) = .ok b ↔ ¬ c ∧ ¬ d ∧ x = .ok b := by
  by_cases hc : c
  · simp [hc]
  · by_cases hd : d
    · simp [hc, hd]
    · simp [hc, hd]

/-- What holds of the start, and of every round that succeeds together with the elements done so far,
    holds of a loop that ran to its end. -/
theorem foldlM_invariant {ε : Type*} {step : σ → α → Except ε σ} {inv : List α → σ → Prop}
    (hstep : ∀ done a s s', inv done s → step s a = .ok s' → inv (done ++ [a]) s')
    {s s' : σ} {as : List α} (hinv : inv [] s) (h : as.foldlM step s = .ok s') : inv as s' := by
  have hloop : ∀ done s, inv done s → as.foldlM step s = .ok s' → inv (done ++ as) s' := by
    clear hinv h
    induction as with
    | nil =>
      intro done s hinv h
      obtain rfl : s = s' := Except.ok.inj h
      rwa [List.append_nil]
    | cons a as ih =>
      intro done s hinv h
      rw [List.foldlM_cons] at h
      cases ha : step s a with
      | error e =>
        rw [ha] at h
        cases h
      | ok s₁ =>
        rw [ha] at h
        have hrest := ih (done ++ [a]) s₁ (hstep done a s s₁ hinv ha) h
        rwa [List.append_assoc] at hrest
  exact hloop [] s hinv h

/-- A loop that refuses a key it has seen, and otherwise remembers it, passes distinct keys only. -/
theorem nodup_of_foldlM_seen {ε κ : Type*} {check : List κ → α → Except ε (List κ)} {key : α → κ}
    (hcheck : ∀ seen a seen', check seen a = .ok seen' → key a ∉ seen ∧ seen' = key a :: seen)
    {as : List α} {seen : List κ} (h : as.foldlM check [] = .ok seen) : (as.map key).Nodup := by
  have hstep : ∀ (done : List α) a (seen seen' : List κ),
      seen = (done.map key).reverse ∧ (done.map key).Nodup → check seen a = .ok seen' →
      seen' = ((done ++ [a]).map key).reverse ∧ ((done ++ [a]).map key).Nodup := by
    rintro done a seen seen' ⟨rfl, hnodup⟩ ha
    obtain ⟨hfresh, rfl⟩ := hcheck _ _ _ ha
    rw [List.mem_reverse] at hfresh
    rw [List.map_append, List.map_singleton, List.reverse_append, ← List.concat_eq_append]
    exact ⟨rfl, hnodup.concat hfresh⟩
  exact (foldlM_invariant hstep ⟨rfl, List.nodup_nil⟩ h).2

/-- A loop runs to its end if every round on its elements succeeds. -/
theorem foldlM_exists_ok {ε : Type*} {step : σ → α → Except ε σ} {as : List α}
    (h : ∀ a ∈ as, ∀ s, ∃ s', step s a = .ok s') (s : σ) :
    ∃ s', as.foldlM step s = .ok s' := by
  induction as generalizing s with
  | nil => exact ⟨s, rfl⟩
  | cons a as ih =>
    obtain ⟨s₁, hs₁⟩ := h a List.mem_cons_self s
    obtain ⟨s', hs'⟩ := ih (fun a' ha' => h a' (List.mem_cons_of_mem _ ha')) s₁
    refine ⟨s', ?_⟩
    rw [List.foldlM_cons, hs₁]
    exact hs'

end Run
