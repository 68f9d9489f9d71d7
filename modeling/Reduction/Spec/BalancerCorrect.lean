import Reduction.Native.Balancer

/-!
# What a selection returns

A selection returns an eligible backend of the pool, and it finds one whenever
there is one.
-/

namespace Reduction

namespace BackendPool

/-- The backends that a selection may return: effective weight above zero, and not excluded. -/
def Eligible (env : BalancerEnv) (excluded : List BackendId) (b : BackendConfig) : Prop :=
  (env.weight b).le .zero = false ∧ b.id ∉ excluded

variable {env : BalancerEnv} {clientIp : IpAddr} {excluded : List BackendId}

variable {b : BackendConfig} {pool : BackendPool}

theorem selectStep_of_not_eligible (h : ¬ Eligible env excluded b)
    (best : Option (BackendConfig × F64)) : selectStep env clientIp excluded best b = best := by
  unfold selectStep
  have hskip : ((env.weight b).le .zero || excluded.contains b.id) = true := by
    rw [Bool.or_eq_true, List.contains_iff_mem]
    by_contra hnot
    rw [not_or, Bool.not_eq_true] at hnot
    exact h hnot
  simp only [hskip, if_true]

/-- An eligible backend becomes the best one so far, or loses to the one before. -/
theorem selectStep_of_eligible (h : Eligible env excluded b) (best : Option (BackendConfig × F64)) :
    (∃ score, selectStep env clientIp excluded best b = some (b, score)) ∨
      (best.isSome = true ∧ selectStep env clientIp excluded best b = best) := by
  unfold selectStep
  have hkeep : ((env.weight b).le .zero || excluded.contains b.id) = false := by
    simp [h.1, h.2]
  simp only [hkeep, Bool.false_eq_true, if_false]
  cases best with
  | none => exact .inl ⟨_, rfl⟩
  | some best =>
    by_cases hbetter : best.2.lt (rendezvousScore env.ln clientIp b.id.bytes (env.weight b)) = true
    · exact .inl ⟨_, by simp only [hbetter, if_true]; rfl⟩
    · exact .inr ⟨rfl, by simp [hbetter]⟩

variable (bs : List BackendConfig) (best : Option (BackendConfig × F64))

/-- What the scan holds was held before or is an eligible backend that it passed. -/
theorem foldl_selectStep_mem {score : F64}
    (h : bs.foldl (selectStep env clientIp excluded) best = some (b, score)) :
    best = some (b, score) ∨ b ∈ bs ∧ Eligible env excluded b := by
  -- the best so far changes along the scan, so it is generalised
  induction bs generalizing best with
  | nil => exact .inl h
  | cons c cs ih =>
    rw [List.foldl_cons] at h
    cases ih _ h with
    | inr hmem => exact .inr ⟨List.mem_cons_of_mem _ hmem.1, hmem.2⟩
    | inl hstep =>
      by_cases hc : Eligible env excluded c
      · rcases selectStep_of_eligible hc best with ⟨score', hnew⟩ | ⟨-, hold⟩
        · rw [hnew] at hstep
          obtain ⟨rfl, rfl⟩ := Prod.mk.inj (Option.some.inj hstep)
          exact .inr ⟨List.mem_cons_self, hc⟩
        · exact .inl (hold ▸ hstep)
      · rw [selectStep_of_not_eligible hc] at hstep
        exact .inl hstep

/-- The scan holds a backend once it has passed an eligible one. -/
theorem foldl_selectStep_isSome (h : best.isSome = true ∨ ∃ b ∈ bs, Eligible env excluded b) :
    (bs.foldl (selectStep env clientIp excluded) best).isSome = true := by
  induction bs generalizing best with
  | nil =>
    rcases h with h | ⟨b, hb, -⟩
    · exact h
    · simp at hb
  | cons c cs ih =>
    rw [List.foldl_cons]
    apply ih
    by_cases hc : Eligible env excluded c
    · left
      rcases selectStep_of_eligible hc best with ⟨score, hnew⟩ | ⟨hsome, hold⟩
      · rw [hnew]
        rfl
      · rw [hold]
        exact hsome
    · rw [selectStep_of_not_eligible hc]
      refine h.imp_right ?_
      rintro ⟨b, hb, helig⟩
      cases List.mem_cons.mp hb with
      | inl heq => exact absurd (heq ▸ helig) hc
      | inr hb => exact ⟨b, hb, helig⟩

theorem select_mem (h : pool.selectWithPressureExcluding clientIp env excluded = some b) :
    b ∈ pool.backends ∧ Eligible env excluded b := by
  obtain ⟨⟨b', score⟩, hfold, rfl⟩ := Option.map_eq_some_iff.mp h
  rcases foldl_selectStep_mem _ _ hfold with hnone | hmem
  · cases hnone
  · exact hmem

theorem select_isSome (clientIp : IpAddr) (hb : b ∈ pool.backends) (helig : Eligible env excluded b) :
    ∃ b', pool.selectWithPressureExcluding clientIp env excluded = some b' := by
  rw [← Option.isSome_iff_exists, selectWithPressureExcluding, Option.isSome_map]
  exact foldl_selectStep_isSome _ _ (.inr ⟨b, hb, helig⟩)

/-- A pool of one backend gives it to every client. -/
theorem select_eq_of_single (clientIp : IpAddr) (hpool : pool.backends = [b])
    (helig : Eligible env excluded b) :
    pool.selectWithPressureExcluding clientIp env excluded = some b := by
  have hmem : b ∈ pool.backends := by rw [hpool]; exact List.mem_singleton.mpr rfl
  obtain ⟨b', hselect⟩ := select_isSome clientIp hmem helig
  have hb := (select_mem hselect).1
  rw [hpool, List.mem_singleton] at hb
  rw [hselect, hb]

end BackendPool

end Reduction
