import Reduction.ForStd.ArgMax
import Reduction.Native.Health
import Reduction.Native.Rendezvous
import Reduction.Spec.HandlerRuns

/-!
# Which backend a selection returns

A selection returns the first backend of the highest score among those that it
does not skip, so what it skips can leave the pool without a change.  It skips a
weight that is at most zero.  A weight that is not a number is not above zero,
but it is not skipped.

- `selects_best_iff`: whatever the scores, the selection is the first best one among
  the candidates of positive weight, if and only if all weights are numbers
- `weight_of_nan_load_selected`: a report with a load that is not a number makes
  such a weight
-/

namespace Reduction

/-! ## The source's scores -/

theorem BackendPool.selectWithPressureExcluding_eq (pool : BackendPool) (clientIp : IpAddr)
    (env : BalancerEnv) (excluded : List BackendId) :
    pool.selectWithPressureExcluding clientIp env excluded =
      pool.selectBy (.rendezvous env.ln) clientIp env excluded := by
  have hstep : selectStep env clientIp excluded = fun best b =>
      if (env.weight b).le .zero || excluded.contains b.id then best
      else (Scoring.rendezvous env.ln).consider clientIp best b b.id.bytes (env.weight b) := by
    funext best b
    cases best <;> rfl
  rw [selectWithPressureExcluding, hstep, selectBy]

namespace IpAddr

variable (octets : Vector UInt8 4) (a b : UInt8)

/-- The first byte of a segment. -/
theorem segment_high : (UInt16.ofNat (a.toNat * 256 + b.toNat) >>> 8).toUInt8 = a := by
  have ha := a.toNat_lt
  have hb := b.toNat_lt
  apply UInt8.toNat_inj.mp
  rw [UInt16.toNat_toUInt8, UInt16.toNat_shiftRight, UInt16.toNat_ofNat']
  rw [show (8 : UInt16).toNat % 16 = 8 from rfl, Nat.shiftRight_eq_div_pow]
  omega

/-- The second byte of a segment. -/
theorem segment_low : (UInt16.ofNat (a.toNat * 256 + b.toNat)).toUInt8 = b := by
  have ha := a.toNat_lt
  have hb := b.toNat_lt
  apply UInt8.toNat_inj.mp
  rw [UInt16.toNat_toUInt8, UInt16.toNat_ofNat']
  omega

theorem toIpv4Mapped_toIpv6Mapped : toIpv4Mapped (toIpv6Mapped octets) = some octets := by
  have hmapped : toIpv4Mapped (toIpv6Mapped octets) =
      some #v[(UInt16.ofNat (octets[0].toNat * 256 + octets[1].toNat) >>> 8).toUInt8,
        (UInt16.ofNat (octets[0].toNat * 256 + octets[1].toNat)).toUInt8,
        (UInt16.ofNat (octets[2].toNat * 256 + octets[3].toNat) >>> 8).toUInt8,
        (UInt16.ofNat (octets[2].toNat * 256 + octets[3].toNat)).toUInt8] := if_pos rfl
  simp only [segment_high, segment_low] at hmapped
  rw [hmapped, Option.some.injEq]
  ext i hi
  obtain rfl | rfl | rfl | rfl : i = 0 ∨ i = 1 ∨ i = 2 ∨ i = 3 := by omega
  · rfl
  · rfl
  · rfl
  · rfl

/-- Both forms of an IPv4 address have the same canonical form. -/
theorem toCanonical_mapped : (v6 (toIpv6Mapped octets)).toCanonical = (v4 octets).toCanonical := by
  simp only [toCanonical, toIpv4Mapped_toIpv6Mapped]

end IpAddr

/-! ## What a selection should return -/

/-- Positive effective weight, and not excluded. -/
def Candidate (env : BalancerEnv) (excluded : List BackendId) (b : BackendConfig) : Prop :=
  F64.zero.lt (env.weight b) = true ∧ b.id ∉ excluded

/-- The pool without the backends of an id. -/
def BackendPool.without (pool : BackendPool) (id : BackendId) : BackendPool :=
  { backends := pool.backends.filter fun b => b.id ≠ id
    bounded := (List.length_filter_le _ _).trans pool.bounded }

section Selection

variable {S : Type} [LinearOrder S] (score : IpAddr → Bytes → F64 → S) (clientIp : IpAddr)
  (env : BalancerEnv) (excluded : List BackendId)

/-- The score of a backend. -/
def rank (b : BackendConfig) : S := score clientIp.toCanonical b.id.bytes (env.weight b)

/-- The first of the candidates with the highest score. -/
def FirstBest (backends : List BackendConfig) (b : BackendConfig) : Prop :=
  ∃ before after, backends = before ++ b :: after ∧ Candidate env excluded b ∧
    (∀ c ∈ before, Candidate env excluded c →
      rank score clientIp env c < rank score clientIp env b) ∧
    ∀ c ∈ after, Candidate env excluded c →
      rank score clientIp env c ≤ rank score clientIp env b

/-- The selection is the first best candidate, and others do not matter for it. -/
structure SelectsBest (pool : BackendPool) : Prop where
  best : ∀ b, pool.selectBy (.ofOrder score) clientIp env excluded = some b ↔
    FirstBest score clientIp env excluded pool.backends b
  none : pool.selectBy (.ofOrder score) clientIp env excluded = none ↔
    ∀ b ∈ pool.backends, ¬ Candidate env excluded b
  /-- A backend that was not selected is removed or excluded. -/
  other : ∀ id, (∀ b, pool.selectBy (.ofOrder score) clientIp env excluded = some b → b.id ≠ id) →
    (pool.without id).selectBy (.ofOrder score) clientIp env excluded =
        pool.selectBy (.ofOrder score) clientIp env excluded ∧
      pool.selectBy (.ofOrder score) clientIp env (id :: excluded) =
        pool.selectBy (.ofOrder score) clientIp env excluded
  /-- A backend is added anywhere. -/
  added : ∀ (larger : BackendPool) before c after, pool.backends = before ++ after →
    larger.backends = before ++ c :: after → (∀ b ∈ pool.backends, b.id ≠ c.id) →
    larger.selectBy (.ofOrder score) clientIp env excluded = some c ∨
      larger.selectBy (.ofOrder score) clientIp env excluded =
        pool.selectBy (.ofOrder score) clientIp env excluded
  /-- The selected backend is removed. -/
  rest : ∀ b, pool.selectBy (.ofOrder score) clientIp env excluded = some b →
    ∀ c, (pool.without b.id).selectBy (.ofOrder score) clientIp env excluded = some c ↔
      FirstBest score clientIp env excluded (pool.backends.filter fun b' => b'.id ≠ b.id) c
  mapped : ∀ octets, pool.selectBy (.ofOrder score) (.v4 octets) env excluded =
    pool.selectBy (.ofOrder score) (.v6 (IpAddr.toIpv6Mapped octets)) env excluded
  agrees : pool.selectBy (.ofOrder score) clientIp env [] =
    ((Scoring.ofOrder score).selectBackend clientIp (pool.backends.map fun b => b.id.bytes)
      (pool.backends.map env.weight)).bind (pool.backends[·]?)

/-! ## The scan -/

/-- What the loop does not skip. -/
def eligible (b : BackendConfig) : Bool := !((env.weight b).le .zero || excluded.contains b.id)

theorem consider_eq_keepBest (best : Option (BackendConfig × S)) (b : BackendConfig) :
    (Scoring.ofOrder score).consider clientIp best b b.id.bytes (env.weight b) =
      List.keepBest (rank score clientIp env) best b := by
  cases best with
  | none => rfl
  | some best =>
    by_cases h : best.2 < rank score clientIp env b
    · rw [List.keepBest, if_pos h]
      exact if_pos (decide_eq_true h)
    · rw [List.keepBest, if_neg h]
      exact if_neg fun hless => h (of_decide_eq_true hless)

theorem BackendPool.selectBy_eq_argmax (pool : BackendPool) :
    pool.selectBy (.ofOrder score) clientIp env excluded =
      (pool.backends.filter (eligible env excluded)).argmax (rank score clientIp env) := by
  have hstep : (fun (best : Option (BackendConfig × S)) (b : BackendConfig) =>
      if (env.weight b).le .zero || excluded.contains b.id then best
      else (Scoring.ofOrder score).consider clientIp best b b.id.bytes (env.weight b)) =
    fun best b =>
      if eligible env excluded b = true then List.keepBest (rank score clientIp env) best b
      else best := by
    funext best b
    cases hskip : ((env.weight b).le .zero || excluded.contains b.id) with
    | true => simp only [eligible, hskip, Bool.not_true, Bool.false_eq_true, if_true, if_false]
    | false =>
      simp only [eligible, hskip, Bool.not_false, Bool.false_eq_true, if_true, if_false]
      exact consider_eq_keepBest score clientIp env best b
  rw [selectBy]
  simp only [hstep]
  rw [← List.foldl_filter, List.foldl_keepBest, Option.map_map]
  cases (pool.backends.filter (eligible env excluded)).argmax (rank score clientIp env) <;> rfl

/-! ## What follows for the selection -/

variable {score clientIp env excluded}

variable {b : BackendConfig} {pool : BackendPool}

theorem eligible_eq_true :
    eligible env excluded b = true ↔ (env.weight b).le .zero = false ∧ b.id ∉ excluded := by
  rw [eligible, Bool.not_eq_true', Bool.or_eq_false_iff, ← List.contains_iff_mem, Bool.not_eq_true]

/-- The loop skips what is no candidate, if the weight is a number. -/
theorem eligible_iff_candidate (h : b.id ∉ excluded → env.weight b ≠ .nan) :
    eligible env excluded b = true ↔ Candidate env excluded b := by
  rw [eligible_eq_true]
  constructor
  · rintro ⟨hweight, hid⟩
    exact ⟨F64.lt_of_not_le (by simp [F64.zero]) (h hid) hweight, hid⟩
  · rintro ⟨hweight, hid⟩
    exact ⟨F64.not_le_of_lt hweight, hid⟩

/-- All weights that count are numbers. -/
def Weighed (env : BalancerEnv) (excluded : List BackendId) (pool : BackendPool) : Prop :=
  ∀ b ∈ pool.backends, b.id ∉ excluded → env.weight b ≠ .nan

theorem Weighed.without (h : Weighed env excluded pool) (id : BackendId) :
    Weighed env excluded (pool.without id) :=
  fun b hb => h b (List.mem_of_mem_filter hb)

theorem selectBy_eq_some_iff (h : Weighed env excluded pool) (b : BackendConfig) :
    pool.selectBy (.ofOrder score) clientIp env excluded = some b ↔
      FirstBest score clientIp env excluded pool.backends b := by
  rw [pool.selectBy_eq_argmax, List.argmax_filter_eq_some_iff_split]
  refine exists₂_congr fun before after => and_congr_right fun hsplit => ?_
  have hcandidate : ∀ c ∈ before ++ b :: after,
      eligible env excluded c = true ↔ Candidate env excluded c :=
    fun c hc => eligible_iff_candidate (h c (hsplit ▸ hc))
  refine and_congr (hcandidate b (by simp)) (and_congr ?_ ?_)
  · refine forall₂_congr fun c hc => ?_
    rw [hcandidate c (List.mem_append_left _ hc)]
  · refine forall₂_congr fun c hc => ?_
    rw [hcandidate c (by simp [hc])]

theorem selectBy_eq_none_iff (h : Weighed env excluded pool) :
    pool.selectBy (.ofOrder score) clientIp env excluded = none ↔
      ∀ b ∈ pool.backends, ¬ Candidate env excluded b := by
  rw [pool.selectBy_eq_argmax, List.argmax_eq_none, List.filter_eq_nil_iff]
  refine forall₂_congr fun b hb => not_congr ?_
  exact eligible_iff_candidate (h b hb)

/-- Removing and excluding a backend that is not selected leaves the selection as it is. -/
theorem selectBy_without {id : BackendId}
    (h : ∀ b, pool.selectBy (.ofOrder score) clientIp env excluded = some b → b.id ≠ id) :
    (pool.without id).selectBy (.ofOrder score) clientIp env excluded =
        pool.selectBy (.ofOrder score) clientIp env excluded ∧
      pool.selectBy (.ofOrder score) clientIp env (id :: excluded) =
        pool.selectBy (.ofOrder score) clientIp env excluded := by
  simp only [BackendPool.selectBy_eq_argmax] at h ⊢
  have hkept := List.argmax_filter (p := fun b => b.id ≠ id)
    fun m hm => decide_eq_true (h m hm)
  constructor
  · rw [← hkept, BackendPool.without, List.filter_filter, List.filter_filter]
    refine congrArg _ (List.filter_congr fun b _ => ?_)
    exact Bool.and_comm _ _
  · rw [← hkept, List.filter_filter]
    refine congrArg _ (List.filter_congr fun b _ => ?_)
    rw [Bool.eq_iff_iff, Bool.and_eq_true, eligible_eq_true, eligible_eq_true, List.mem_cons,
      not_or, decide_eq_true_eq]
    exact ⟨fun ⟨hweight, hne, hid⟩ => ⟨hne, hweight, hid⟩,
      fun ⟨hne, hweight, hid⟩ => ⟨hweight, hne, hid⟩⟩

/-- A new backend takes the selection or leaves it as it is. -/
theorem selectBy_added {larger : BackendPool} {before after : List BackendConfig}
    {c : BackendConfig} (hpool : pool.backends = before ++ after)
    (hlarger : larger.backends = before ++ c :: after) (hnew : ∀ b ∈ pool.backends, b.id ≠ c.id) :
    larger.selectBy (.ofOrder score) clientIp env excluded = some c ∨
      larger.selectBy (.ofOrder score) clientIp env excluded =
        pool.selectBy (.ofOrder score) clientIp env excluded := by
  by_cases hselected : larger.selectBy (.ofOrder score) clientIp env excluded = some c
  · exact .inl hselected
  · refine .inr ?_
    have hother : ∀ b, larger.selectBy (.ofOrder score) clientIp env excluded = some b →
        b.id ≠ c.id := by
      intro b hb
      have hmem : b ∈ larger.backends := by
        rw [larger.selectBy_eq_argmax] at hb
        exact List.mem_of_mem_filter (List.argmax_mem hb)
      rw [hlarger, List.mem_append, List.mem_cons] at hmem
      rcases hmem with hmem | rfl | hmem
      · exact hnew b (hpool ▸ List.mem_append_left _ hmem)
      · exact absurd hb hselected
      · exact hnew b (hpool ▸ List.mem_append_right _ hmem)
    -- Without the new backend the pool is the old one.
    have hwithout : (larger.without c.id).backends = pool.backends := by
      have hkept : pool.backends.filter (fun b => b.id ≠ c.id) = pool.backends :=
        List.filter_eq_self.mpr fun b hb => decide_eq_true (hnew b hb)
      show larger.backends.filter (fun b => b.id ≠ c.id) = pool.backends
      rw [hlarger, List.filter_append, List.filter_cons_of_neg (by simp), ← List.filter_append,
        ← hpool, hkept]
    rw [← (selectBy_without hother).1]
    simp only [BackendPool.selectBy_eq_argmax, hwithout]

/-- Both loops are at the same backend: one by the backend, one by its index. -/
inductive SameBest (all : List BackendConfig) :
    Option (BackendConfig × S) → Option (Nat × S) → Prop
  | unset : SameBest all none none
  | set {b : BackendConfig} {i : Nat} (h : all[i]? = some b) (value : S) :
    SameBest all (some (b, value)) (some (i, value))

variable {all : List BackendConfig} {best : Option (BackendConfig × S)} {best' : Option (Nat × S)}

theorem SameBest.consider (h : SameBest all best best') {i : Nat} (hi : all[i]? = some b)
    (scoring : Scoring S) (id : Bytes) (weight : F64) :
    SameBest all (scoring.consider clientIp best b id weight)
      (scoring.consider clientIp best' i id weight) := by
  cases h with
  | unset => exact .set hi _
  | set hbest value =>
    simp only [Scoring.consider]
    split
    · exact .set hi _
    · exact .set hbest value

theorem SameBest.map_fst (h : SameBest all best best') :
    best.map Prod.fst = (best'.map Prod.fst).bind (all[·]?) := by
  cases h with
  | unset => rfl
  | set h value => exact h.symm

/-- With nothing excluded, both loops end at the same backend. -/
theorem selectBy_eq_selectBackend (pool : BackendPool) (scoring : Scoring S) :
    pool.selectBy scoring clientIp env [] =
      (scoring.selectBackend clientIp (pool.backends.map fun b => b.id.bytes)
        (pool.backends.map env.weight)).bind (pool.backends[·]?) := by
  have hsame : SameBest pool.backends
      (pool.backends.zipIdx.foldl (fun best c =>
        if (env.weight c.1).le .zero || ([] : List BackendId).contains c.1.id then best
        else scoring.consider clientIp best c.1 c.1.id.bytes (env.weight c.1)) none)
      (pool.backends.zipIdx.foldl (fun best c =>
        if ((pool.backends.map env.weight)[c.2]?.getD .one).le .zero then best
        else scoring.consider clientIp best c.2 c.1.id.bytes
          ((pool.backends.map env.weight)[c.2]?.getD .one)) none) := by
    refine List.foldl_rel .unset ?_
    rintro ⟨b, i⟩ hmem best best' hbest
    have hi : pool.backends[i]? = some b := List.mem_zipIdx_iff_getElem?.mp hmem
    rw [List.getElem?_map, hi, Option.map_some, Option.getD_some]
    by_cases hweight : (env.weight b).le .zero = true
    · simp only [hweight, Bool.true_or, if_true]
      exact hbest
    · simp only [hweight, List.contains_nil, Bool.or_self, Bool.false_eq_true, if_false]
      exact hbest.consider hi scoring _ _
  have hpool : pool.selectBy scoring clientIp env [] =
      (pool.backends.zipIdx.foldl (fun best c =>
        if (env.weight c.1).le .zero || ([] : List BackendId).contains c.1.id then best
        else scoring.consider clientIp best c.1 c.1.id.bytes (env.weight c.1)) none).map Prod.fst := by
    conv_lhs => rw [BackendPool.selectBy, ← List.zipIdx_map_fst 0 pool.backends]
    rw [List.foldl_map]
  have hindex : scoring.selectBackend clientIp (pool.backends.map fun b => b.id.bytes)
        (pool.backends.map env.weight) =
      (pool.backends.zipIdx.foldl (fun best c =>
        if ((pool.backends.map env.weight)[c.2]?.getD .one).le .zero then best
        else scoring.consider clientIp best c.2 c.1.id.bytes
          ((pool.backends.map env.weight)[c.2]?.getD .one)) none).map Prod.fst := by
    rw [Scoring.selectBackend, List.zipIdx_map, List.foldl_map]
    rfl
  rw [hpool, hindex]
  exact hsame.map_fst

/-- The client counts by its canonical form only. -/
theorem selectBy_mapped (pool : BackendPool) (octets : Vector UInt8 4) :
    pool.selectBy (.ofOrder score) (.v4 octets) env excluded =
      pool.selectBy (.ofOrder score) (.v6 (IpAddr.toIpv6Mapped octets)) env excluded := by
  have hrank : rank score (.v6 (IpAddr.toIpv6Mapped octets)) env =
      rank score (.v4 octets) env := by
    funext b
    rw [rank, IpAddr.toCanonical_mapped, rank]
  rw [BackendPool.selectBy_eq_argmax, BackendPool.selectBy_eq_argmax, hrank]

theorem Weighed.selectsBest (h : Weighed env excluded pool) :
    SelectsBest score clientIp env excluded pool where
  best := selectBy_eq_some_iff h
  none := selectBy_eq_none_iff h
  other _ hother := selectBy_without hother
  added _ _ _ _ hpool hlarger hnew := selectBy_added hpool hlarger hnew
  rest b _ := selectBy_eq_some_iff (h.without b.id)
  mapped := selectBy_mapped pool
  agrees := selectBy_eq_selectBackend pool _

end Selection

/-- A backend that alone scores above the others is selected, unless the loop skips it. -/
theorem selectBy_favourite {pool : BackendPool} (hdistinct : (pool.backends.map (·.id)).Nodup)
    {env : BalancerEnv} {excluded : List BackendId} {b : BackendConfig} (hb : b ∈ pool.backends)
    (heligible : eligible env excluded b = true) (clientIp : IpAddr) :
    pool.selectBy (.ofOrder fun _ id _ => if id = b.id.bytes then 1 else 0) clientIp env excluded =
      some b := by
  rw [pool.selectBy_eq_argmax]
  have hmem : b ∈ pool.backends.filter (eligible env excluded) :=
    List.mem_filter.mpr ⟨hb, heligible⟩
  cases hbest : (pool.backends.filter (eligible env excluded)).argmax
      (rank (fun _ id _ => if id = b.id.bytes then 1 else 0) clientIp env) with
  | none =>
    rw [List.argmax_eq_none.mp hbest] at hmem
    cases hmem
  | some c =>
    have hle := List.le_of_mem_argmax hmem hbest
    have hc := List.mem_of_mem_filter (List.argmax_mem hbest)
    simp only [rank, if_true] at hle
    split at hle
    · rename_i hid
      have hids : c.id = b.id := ArrayString.bytes_injective hid
      rw [List.inj_on_of_nodup_map hdistinct hc hb hids]
    · omega

/-- For every scoring into a linear order the selection is the first best candidate, if and only if
    no weight that counts is NaN. -/
theorem selects_best_iff {pool : BackendPool} (hdistinct : (pool.backends.map (·.id)).Nodup)
    (env : BalancerEnv) (excluded : List BackendId) :
    (∀ (S : Type) [LinearOrder S] (score : IpAddr → Bytes → F64 → S) (clientIp : IpAddr),
      SelectsBest score clientIp env excluded pool) ↔
    ∀ b ∈ pool.backends, b.id ∉ excluded → env.weight b ≠ .nan := by
  constructor
  · intro h b hb hid hnan
    have heligible : eligible env excluded b = true := by
      rw [eligible_eq_true, hnan]
      exact ⟨rfl, hid⟩
    -- A scoring that prefers the backend leads to it.
    have hselected := selectBy_favourite hdistinct hb heligible (.v4 #v[0, 0, 0, 0])
    obtain ⟨_, _, _, hcandidate, _⟩ := ((h Nat _ _).best b).mp hselected
    have hpositive := hcandidate.1
    rw [hnan] at hpositive
    cases hpositive
  · intro h S _ score clientIp
    exact Weighed.selectsBest h

namespace Sample

/-- A report of a load that is not a number. -/
def nanReport : BackendHealth :=
  { backendId := b1.id, load := .nan, latencyMs := 0, availability := .online }

/-- The weights with that report. -/
def nanEnv : BalancerEnv :=
  { weightFactor :=
      ((HealthState.withConfig 4 (Duration.fromSecs 30) 100).update [nanReport] 0).weightFactor 0
    pressure := fun _ => .zero
    ln := fun _ => .fin (-1) }

end Sample

/-- The weights of the sample pool are numbers. -/
theorem two_backends_select_best :
    SelectsBest (fun _ id _ => id.length) (.v4 #v[192, 0, 2, 1])
      Sample.balancer [] Sample.twoBackends :=
  (selects_best_iff (by decide) Sample.balancer []).mpr (by decide +kernel) _ _ _

/-- The weight of the first backend is not a number, and the selection returns that backend rather
    than the one of positive weight. -/
theorem weight_of_nan_load_selected :
    let client := IpAddr.v4 #v[192, 0, 2, 1]
    Sample.nanEnv.weight Sample.b1 = .nan ∧
    ¬ Candidate Sample.nanEnv [] Sample.b1 ∧ Candidate Sample.nanEnv [] Sample.b2 ∧
    Sample.twoBackends.selectWithPressureExcluding client Sample.nanEnv [] = some Sample.b1 ∧
    Sample.twoBackends.selectBy (.ofOrder fun _ _ _ => 0) client Sample.nanEnv [] =
      some Sample.b1 := by
  have hnan : Sample.nanEnv.weight Sample.b1 = .nan := by decide +kernel
  refine ⟨hnan, ?_, ⟨by decide +kernel, by decide⟩, by decide +kernel, by decide +kernel⟩
  rintro ⟨hpositive, -⟩
  rw [hnan] at hpositive
  cases hpositive

end Reduction
