import Mathlib

/-!
# Lists that correspond

What a loop that fails at the first bad element makes of a list corresponds to
it element by element, and a search on both sides finds elements that correspond.
-/

namespace List

variable {α β ε : Type} {R : α → β → Prop}

theorem mapM_eq_ok {f : α → Except ε β} {as : List α} {bs : List β} :
    as.mapM f = .ok bs ↔ Forall₂ (fun a b => f a = .ok b) as bs := by
  induction as generalizing bs with
  | nil =>
    rw [mapM_nil, forall₂_nil_left_iff]
    exact ⟨fun h => (Except.ok.inj h).symm, fun h => h ▸ rfl⟩
  | cons a as ih =>
    rw [mapM_cons, forall₂_cons_left_iff]
    cases ha : f a with
    | error e =>
      constructor
      · intro h
        cases h
      · rintro ⟨b, bs', hb, -⟩
        cases hb
    | ok b =>
      cases has : as.mapM f with
      | error e =>
        constructor
        · intro h
          cases h
        · rintro ⟨b', bs', -, hbs', -⟩
          rw [← ih, has] at hbs'
          cases hbs'
      | ok bs₁ =>
        have hbs₁ := ih.mp has
        constructor
        · intro h
          obtain rfl : b :: bs₁ = bs := Except.ok.inj h
          exact ⟨b, bs₁, rfl, hbs₁, rfl⟩
        · rintro ⟨b', bs', hb', hbs', rfl⟩
          have heq := ih.mpr hbs'
          rw [has] at heq
          cases hb'
          cases heq
          rfl

theorem Forall₂.rel_find? {as : List α} {bs : List β} (h : Forall₂ R as bs) {p : α → Bool}
    {q : β → Bool} (hpq : ∀ a b, R a b → q b = p a) : Option.Rel R (as.find? p) (bs.find? q) := by
  induction h with
  | nil => exact .none
  | cons hab _ ih =>
    rw [find?_cons, find?_cons, hpq _ _ hab]
    split
    · exact .some hab
    · exact ih

theorem Forall₂.exists_of_mem {as : List α} {bs : List β} (h : Forall₂ R as bs) {a : α}
    (ha : a ∈ as) : ∃ b ∈ bs, R a b := by
  induction h with
  | nil => cases ha
  | cons hab _ ih =>
    cases ha with
    | head => exact ⟨_, .head _, hab⟩
    | tail _ ha =>
      obtain ⟨b, hb, hr⟩ := ih ha
      exact ⟨b, .tail _ hb, hr⟩

theorem exists_forall₂ {as : List α} (h : ∀ a ∈ as, ∃ b, R a b) : ∃ bs, Forall₂ R as bs := by
  induction as with
  | nil => exact ⟨[], .nil⟩
  | cons a as ih =>
    rw [forall_mem_cons] at h
    obtain ⟨b, hb⟩ := h.1
    obtain ⟨bs, hbs⟩ := ih h.2
    exact ⟨b :: bs, .cons hb hbs⟩

/-- A key that no other element has finds its element. -/
theorem find?_key {κ : Type} [DecidableEq κ] {key : α → κ} {as : List α} (h : (as.map key).Nodup)
    {a : α} (ha : a ∈ as) : as.find? (fun x => key x = key a) = some a := by
  cases hfind : as.find? (fun x => key x = key a) with
  | none =>
    have hne := find?_eq_none.mp hfind a ha
    simp at hne
  | some b =>
    have hkey : key b = key a := by simpa using find?_some hfind
    rw [inj_on_of_nodup_map h (mem_of_find?_eq_some hfind) ha hkey]

/-- In a list that is ordered by a key, greatest first, the first of some elements with distinct
    keys is the one with the greatest key. -/
theorem find?_eq_some_iff_greatest {key : α → Nat} {p : α → Bool} {l : List α} {a : α}
    (hsorted : l.Pairwise fun a b => key b ≤ key a)
    (hinj : ∀ a ∈ l, ∀ b ∈ l, p a = true → p b = true → key a = key b → a = b) :
    l.find? p = some a ↔ a ∈ l ∧ p a = true ∧ ∀ b ∈ l, p b = true → b ≠ a → key b < key a := by
  have hgreatest : ∀ a, l.find? p = some a → ∀ b ∈ l, p b = true → b ≠ a → key b < key a := by
    intro a hfind b hb hpb hne
    obtain ⟨hpa, before, after, rfl, hbefore⟩ := find?_eq_some_iff_append.mp hfind
    have ha : a ∈ before ++ a :: after := by simp
    rw [mem_append, mem_cons] at hb
    rcases hb with hb | rfl | hb
    · have hnot := hbefore b hb
      rw [hpb] at hnot
      cases hnot
    · exact absurd rfl hne
    · have hle := rel_of_pairwise_cons (pairwise_append.mp hsorted).2.1 hb
      refine lt_of_le_of_ne hle fun hkey => hne ?_
      exact hinj b (by simp [hb]) a ha hpb hpa hkey
  constructor
  · intro h
    exact ⟨mem_of_find?_eq_some h, find?_some h, hgreatest a h⟩
  · rintro ⟨ha, hpa, hbest⟩
    cases hfind : l.find? p with
    | none => exact absurd hpa (find?_eq_none.mp hfind a ha)
    | some c =>
      by_contra hne
      have hca : c ≠ a := fun h => hne (congrArg some h)
      have hlt := hbest c (mem_of_find?_eq_some hfind) (find?_some hfind) hca
      have hgt := hgreatest c hfind a ha hpa hca.symm
      omega

/-! ## Parts of a list -/

/-- The elements of a list, counted by their keys. -/
theorem sum_length_filter_key {κ : Type} [DecidableEq κ] {key : α → κ} {l : List α}
    {keys : Finset κ} (h : ∀ a ∈ l, key a ∈ keys) :
    ∑ k ∈ keys, (l.filter fun a => key a = k).length = l.length := by
  induction l with
  | nil => simp
  | cons a l ih =>
    rw [forall_mem_cons] at h
    have hone : ∀ k, ((a :: l).filter fun a => key a = k).length =
        (l.filter fun a => key a = k).length + if key a = k then 1 else 0 := by
      intro k
      by_cases hk : key a = k
      · simp [hk]
      · simp [hk]
    rw [Finset.sum_congr rfl fun k _ => hone k, Finset.sum_add_distrib, ih h.2,
      Finset.sum_ite_eq, if_pos h.1, length_cons]

end List

/-- A loop over a vector that fails at the first bad element. -/
theorem Vector.mapM_eq_ok {α β ε : Type} {n : Nat} {f : α → Except ε β} {as : Vector α n}
    {bs : Vector β n} : as.mapM f = .ok bs ↔ ∀ i (hi : i < n), f as[i] = .ok bs[i] := by
  have hlists : Vector.toList <$> as.mapM f = as.toList.mapM f := by
    rw [← Vector.toList_toArray, ← Array.toList_mapM, ← Vector.toArray_mapM, Functor.map_map]
    rfl
  have hiff : as.mapM f = .ok bs ↔ as.toList.mapM f = .ok bs.toList := by
    rw [← hlists]
    cases as.mapM f with
    | error e =>
      constructor
      · intro h
        cases h
      · intro h
        cases h
    | ok cs =>
      constructor
      · rintro ⟨⟩
        rfl
      · intro h
        rw [Vector.toList_inj.mp (Except.ok.inj h)]
  rw [hiff, List.mapM_eq_ok, List.forall₂_iff_get]
  simp only [List.get_eq_getElem, Vector.getElem_toList, Vector.length_toList, true_and]
  exact ⟨fun h i hi => h i hi hi, fun h i hi _ => h i hi⟩
