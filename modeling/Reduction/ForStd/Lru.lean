import Mathlib

/-!
# Bounded map with least-recently-used eviction

`LruCache` is a list of key-value pairs, the most recently used first.  The
structure carries what makes it a bounded map: no key occurs twice and there
are never more entries than the capacity.

`peek` reads an entry without touching the order; the lemmas below say what
every operation does to it, so that clients never look at the order.
-/

/-- A map of at most `cap` entries, most recently used first. -/
structure LruCache (K V : Type) where
  cap : Nat
  entries : List (K × V)
  cap_pos : 0 < cap
  bounded : entries.length ≤ cap
  nodup : (entries.map Prod.fst).Nodup

namespace LruCache

variable {K V : Type}

/-- `LruCache::new`. -/
def new (cap : Nat) (cap_pos : 0 < cap) : LruCache K V :=
  { cap, entries := [], cap_pos, bounded := Nat.zero_le cap, nodup := List.nodup_nil }

/-- The number of entries. -/
def len (c : LruCache K V) : Nat := c.entries.length

/-- `clear`. -/
def clear (c : LruCache K V) : LruCache K V :=
  { c with entries := [], bounded := Nat.zero_le _, nodup := List.nodup_nil }

variable [DecidableEq K]

/-- The entries under other keys than `k`. -/
def others (c : LruCache K V) (k : K) : List (K × V) := c.entries.filter fun e => e.1 ≠ k

theorem nodup_others (c : LruCache K V) (k : K) : ((c.others k).map Prod.fst).Nodup :=
  (List.filter_sublist.map Prod.fst).nodup c.nodup

theorem length_others_le (c : LruCache K V) (k : K) : (c.others k).length ≤ c.cap :=
  Nat.le_trans (List.length_filter_le _ _) c.bounded

/-- The value of `k`, with the order of use left alone. -/
def peek (c : LruCache K V) (k : K) : Option V :=
  (c.entries.find? fun e => e.1 = k).map Prod.snd

/-- `pop`: remove the entry of `k`. -/
def pop (c : LruCache K V) (k : K) : LruCache K V :=
  { c with
    entries := c.others k
    bounded := c.length_others_le k
    nodup := c.nodup_others k }

/-- `put`: make `v` the most recently used entry, under `k`; when a new key finds the map full, the
    least recently used entry goes. -/
def put (c : LruCache K V) (k : K) (v : V) : LruCache K V :=
  { c with
    entries := (k, v) :: (c.others k).take (c.cap - 1)
    bounded := by
      have := c.cap_pos
      simp only [List.length_cons, List.length_take]
      omega
    nodup := by
      have hsub := ((c.others k).take_sublist (c.cap - 1)).map Prod.fst
      refine List.nodup_cons.mpr ⟨fun hmem => ?_, hsub.nodup (c.nodup_others k)⟩
      obtain ⟨e, he, hk⟩ := List.mem_map.mp (hsub.subset hmem)
      exact absurd hk (by simpa using List.of_mem_filter he) }

/-- `get`: the value of `k`, which becomes the most recently used entry. -/
def get (c : LruCache K V) (k : K) : LruCache K V × Option V :=
  match c.peek k with
  | some v => (c.put k v, some v)
  | none => (c, none)

/-! ## What the operations do to an entry -/

theorem peek_eq_some_iff (c : LruCache K V) (k : K) (v : V) :
    c.peek k = some v ↔ (k, v) ∈ c.entries := by
  simp only [peek, Option.map_eq_some_iff]
  constructor
  · rintro ⟨e, he, rfl⟩
    have hk : e.1 = k := by simpa using List.find?_some he
    rw [← hk]
    exact List.mem_of_find?_eq_some he
  · intro hmem
    obtain ⟨e, he⟩ := Option.isSome_iff_exists.mp
      (List.find?_isSome.mpr ⟨(k, v), hmem, by simp⟩ :
        (c.entries.find? fun e => e.1 = k).isSome)
    refine ⟨e, he, ?_⟩
    -- the keys are distinct, so the entry found is the one given
    have hk : e.1 = k := by simpa using List.find?_some he
    have heq := List.inj_on_of_nodup_map c.nodup (List.mem_of_find?_eq_some he) hmem hk
    rw [heq]

variable {c : LruCache K V} {k k' : K} {w : V} {ks : List K}

/-- What is there after a `put` is the new entry, or was there before under another key. -/
theorem peek_put {v : V} (h : (c.put k v).peek k' = some w) :
    (k' = k ∧ w = v) ∨ (k' ≠ k ∧ c.peek k' = some w) := by
  rw [peek_eq_some_iff] at h ⊢
  rcases List.mem_cons.mp h with heq | hmem
  · exact .inl (Prod.mk.inj heq)
  · have hmem := List.mem_filter.mp (List.mem_of_mem_take hmem)
    exact .inr ⟨by simpa using hmem.2, hmem.1⟩

/-- As long as there is room, a `put` touches no other entry. -/
theorem peek_put_of_room (h : (c.others k).length < c.cap) (v : V) (k' : K) :
    (c.put k v).peek k' = if k' = k then some v else c.peek k' := by
  have hall : (c.others k).take (c.cap - 1) = c.others k := List.take_of_length_le (by omega)
  ext w
  rw [peek_eq_some_iff]
  show (k', w) ∈ (k, v) :: (c.others k).take (c.cap - 1) ↔ _
  rw [hall, List.mem_cons, others, List.mem_filter, ← peek_eq_some_iff]
  by_cases hk : k' = k
  · simp [hk, eq_comm]
  · simp [hk]

/-- There is room for every key of a list that is no longer than the capacity. -/
theorem length_others_lt (hcap : ks.length ≤ c.cap) (hkeys : ∀ e ∈ c.entries, e.1 ∈ ks)
    (hk : k ∈ ks) : (c.others k).length < c.cap := by
  have hsub : (c.others k).map Prod.fst ⊆ ks.erase k := by
    intro k' hk'
    obtain ⟨e, he, rfl⟩ := List.mem_map.mp hk'
    obtain ⟨he, hne⟩ := List.mem_filter.mp he
    exact (List.mem_erase_of_ne (by simpa using hne)).mpr (hkeys e he)
  have hle := (List.subperm_of_subset (c.nodup_others k) hsub).length_le
  rw [List.length_map, List.length_erase_of_mem hk] at hle
  have := List.length_pos_of_mem hk
  omega

/-- With room for all keys, the entry of each is what was put last. -/
theorem peek_foldl_put (key : V → K) (vs : List V) (hcap : ks.length ≤ c.cap)
    (hkeys : ∀ e ∈ c.entries, e.1 ∈ ks) (hvs : ∀ v ∈ vs, key v ∈ ks) (k : K) :
    (vs.foldl (fun c v => c.put (key v) v) c).peek k =
      (vs.reverse.find? fun v => key v = k).or (c.peek k) := by
  induction vs generalizing c with
  | nil => rfl
  | cons v vs ih =>
    have hv : key v ∈ ks := hvs v List.mem_cons_self
    have hkeys' : ∀ e ∈ (c.put (key v) v).entries, e.1 ∈ ks := by
      intro e he
      cases List.mem_cons.mp he with
      | inl heq => rw [heq]; exact hv
      | inr hmem => exact hkeys e (List.mem_filter.mp (List.mem_of_mem_take hmem)).1
    have hrest := ih (c := c.put (key v) v) hcap hkeys' fun v' hv' => hvs v' (List.mem_cons_of_mem _ hv')
    rw [List.foldl_cons, hrest, peek_put_of_room (length_others_lt hcap hkeys hv),
      List.reverse_cons, List.find?_append, Option.or_assoc]
    congr 1
    by_cases hk : k = key v
    · simp [hk]
    · simp [hk, Ne.symm hk]

theorem cap_foldl_put (key : V → K) (vs : List V) (c : LruCache K V) :
    (vs.foldl (fun c v => c.put (key v) v) c).cap = c.cap := by
  induction vs generalizing c with
  | nil => rfl
  | cons v vs ih => rw [List.foldl_cons, ih]; rfl

/-- Without room for all keys, one of them has no entry. -/
theorem exists_peek_eq_none (hnodup : ks.Nodup) (hcap : c.cap < ks.length) :
    ∃ k ∈ ks, c.peek k = none := by
  by_contra hall
  simp only [not_exists, not_and] at hall
  have hsub : ks ⊆ c.entries.map Prod.fst := by
    intro k hk
    obtain ⟨v, hv⟩ := Option.ne_none_iff_exists'.mp (hall k hk)
    exact List.mem_map.mpr ⟨(k, v), (peek_eq_some_iff c k v).mp hv, rfl⟩
  have hle := (List.subperm_of_subset hnodup hsub).length_le
  rw [List.length_map] at hle
  have := c.bounded
  omega

/-- What is there after a `pop` was there before, under another key. -/
theorem peek_pop (h : (c.pop k).peek k' = some w) : k' ≠ k ∧ c.peek k' = some w := by
  rw [peek_eq_some_iff] at h ⊢
  have hmem := List.mem_filter.mp h
  exact ⟨by simpa using hmem.2, hmem.1⟩

/-- A `get` changes the order of use only: it adds no entry and changes no value. -/
theorem peek_get (h : (c.get k).1.peek k' = some w) : c.peek k' = some w := by
  unfold get at h
  split at h
  · rename_i v hv
    rcases peek_put h with ⟨rfl, rfl⟩ | ⟨_, h⟩
    · exact hv
    · exact h
  · exact h

@[simp] theorem get_snd (c : LruCache K V) (k : K) : (c.get k).2 = c.peek k := by
  unfold get
  split <;> simp_all

@[simp] theorem peek_clear (c : LruCache K V) (k : K) : c.clear.peek k = none := rfl

@[simp] theorem peek_new (cap : Nat) (cap_pos : 0 < cap) (k : K) :
    (new cap cap_pos : LruCache K V).peek k = none := rfl

@[simp] theorem get_cap (c : LruCache K V) (k : K) : (c.get k).1.cap = c.cap := by
  unfold get
  split <;> rfl

end LruCache
