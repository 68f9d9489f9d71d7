import Mathlib

/-!
# State that tasks share

A concurrent map whose single operations are atomic, a watch channel, which
holds the latest of the values sent through it, and a bounded queue, which holds
all of them until they are received.

The map is an association list with distinct keys; the lemmas below say what
each operation does to the value under a key, so that clients never look at the
order of the entries.
-/

/-- `DashMap`: every operation on it is one atomic step. -/
abbrev DashMap (κ ν : Type*) := AList fun _ : κ => ν

namespace DashMap

variable {κ ν : Type*} [DecidableEq κ]

def get (m : DashMap κ ν) (k : κ) : Option ν := AList.lookup k m

def insert (m : DashMap κ ν) (k : κ) (v : ν) : DashMap κ ν := AList.insert k v m

def remove (m : DashMap κ ν) (k : κ) : DashMap κ ν := AList.erase k m

/-- `get_mut`, with what is done to the value while the guard is held. -/
def modify (m : DashMap κ ν) (k : κ) (f : ν → ν) : DashMap κ ν :=
  match m.get k with
  | some v => m.insert k (f v)
  | none => m

def retain (m : DashMap κ ν) (p : κ → ν → Bool) : DashMap κ ν :=
  { entries := m.entries.filter fun e => p e.1 e.2
    nodupKeys := m.nodupKeys.sublist List.filter_sublist }

theorem get_insert (m : DashMap κ ν) (k k' : κ) (v : ν) :
    (m.insert k v).get k' = if k' = k then some v else m.get k' := by
  by_cases h : k' = k
  · subst h
    simp [get, insert]
  · rw [if_neg h, get, insert, AList.lookup_insert_ne h, get]

theorem insert_ne_empty (m : DashMap κ ν) (k : κ) (v : ν) : m.insert k v ≠ ∅ := by
  intro h
  have hget := m.get_insert k k v
  rw [h, if_pos rfl] at hget
  cases hget

theorem get_remove (m : DashMap κ ν) (k k' : κ) :
    (m.remove k).get k' = if k' = k then none else m.get k' := by
  by_cases h : k' = k
  · subst h
    simp [get, remove]
  · rw [if_neg h, get, remove, AList.lookup_erase_ne h, get]

theorem get_modify (m : DashMap κ ν) (k k' : κ) (f : ν → ν) :
    (m.modify k f).get k' = if k' = k then (m.get k).map f else m.get k' := by
  unfold modify
  cases hk : m.get k with
  | some v => rw [get_insert, Option.map_some]
  | none =>
    by_cases h : k' = k
    · subst h
      simp [hk]
    · rw [if_neg h]

theorem get_retain (m : DashMap κ ν) (p : κ → ν → Bool) (k : κ) :
    (m.retain p).get k = (m.get k).filter (p k) := by
  apply Option.ext
  intro v
  -- membership of the entry lists decides, since keys are distinct before and after
  have hentry := AList.mem_lookup_iff (s := m) (a := k) (b := v)
  have hkept := AList.mem_lookup_iff (s := m.retain p) (a := k) (b := v)
  rw [Option.mem_def] at hentry hkept
  rw [get, get, Option.filter_eq_some_iff, hentry, hkept]
  simp [retain]

/-! ## Buckets

A map to lists, read so that an absent key and an empty list are the same. -/

section Buckets

variable (m : DashMap κ (List ν)) (k k' : κ)

/-- The list under a key, empty if there is none. -/
def bucket : List ν := (m.get k).getD []

theorem bucket_insert (vs : List ν) :
    (m.insert k vs).bucket k' = if k' = k then vs else m.bucket k' := by
  rw [bucket, get_insert]
  split <;> rfl

theorem bucket_remove : (m.remove k).bucket k' = if k' = k then [] else m.bucket k' := by
  rw [bucket, get_remove]
  split <;> rfl

theorem bucket_modify {f : List ν → List ν} (hf : f [] = []) :
    (m.modify k f).bucket k' = if k' = k then f (m.bucket k) else m.bucket k' := by
  rw [bucket, get_modify]
  split
  · cases h : m.get k <;> simp [bucket, h, hf]
  · rfl

/-- Dropping the empty lists changes no bucket. -/
theorem bucket_retain_nonempty : (m.retain fun _ vs => !vs.isEmpty).bucket k = m.bucket k := by
  rw [bucket, get_retain, bucket]
  cases m.get k with
  | none => rfl
  | some vs => cases vs <;> rfl

variable {m k} in
theorem mem_keys_of_mem_bucket {v : ν} (h : v ∈ m.bucket k) : k ∈ m.keys := by
  cases hk : m.get k with
  | none => simp [bucket, hk] at h
  | some vs => exact AList.lookup_isSome.mp (by rw [← get, hk]; rfl)

end Buckets

theorem of_all_entries {m : DashMap κ ν} {p : ν → Bool} (h : m.entries.all (fun e => p e.2) = true)
    {k : κ} {v : ν} (hget : m.get k = some v) : p v = true :=
  List.all_eq_true.mp h ⟨k, v⟩ (AList.mem_lookup_iff.mp hget)

/-! ## Sums over a map -/

section Total

variable (f : ν → Nat) (m : DashMap κ ν) (k : κ)

/-- The sum of `f` over all values. -/
def total : Nat := (m.entries.map fun e => f e.2).sum

omit [DecidableEq κ] in
@[simp] theorem total_empty : total f (∅ : DashMap κ ν) = 0 := rfl

theorem total_insert (v : ν) : (m.insert k v).total f = f v + (m.remove k).total f := by
  simp [total, insert, remove, AList.insert, List.kinsert_def, AList.erase]

/-- The value under one key apart. -/
theorem total_eq_add : m.total f = (m.get k).elim 0 f + (m.remove k).total f := by
  unfold total get remove
  obtain ⟨entries, nodupKeys⟩ := m
  show (entries.map fun e => f e.2).sum = (List.dlookup k entries).elim 0 f +
    ((List.kerase k entries).map fun e => f e.2).sum
  induction entries with
  | nil => rfl
  | cons e rest ih =>
    by_cases hk : k = e.1
    · obtain ⟨k', v⟩ := e
      subst hk
      have hrest : List.kerase k (⟨k, v⟩ :: rest) = rest := List.kerase_cons_eq rfl
      rw [List.dlookup_cons_eq, hrest, List.map_cons, List.sum_cons]
      rfl
    · obtain ⟨k', v⟩ := e
      rw [List.dlookup_cons_ne _ _ hk, List.kerase_cons_ne hk, List.map_cons, List.map_cons,
        List.sum_cons, List.sum_cons, ih (List.nodupKeys_cons.mp nodupKeys).2]
      omega

variable {f m} in
theorem total_eq_zero (h : ∀ k v, m.get k = some v → f v = 0) : m.total f = 0 := by
  unfold total
  rw [List.sum_eq_zero_iff_forall_eq_nat]
  intro n hn
  obtain ⟨e, he, rfl⟩ := List.mem_map.mp hn
  exact h e.1 e.2 (AList.mem_lookup_iff.mpr he)

end Total

/-- The sum over the values is the sum over the buckets. -/
theorem total_eq_sum_bucket (f : List ν → Nat) (m : DashMap κ (List ν)) :
    m.total f = ∑ k ∈ m.keys.toFinset, f (m.bucket k) := by
  rw [List.sum_toFinset _ (AList.keys_nodup m), AList.keys, List.keys, List.map_map, total]
  congr 1
  refine List.map_congr_left fun e he => ?_
  have hget : m.get e.1 = some e.2 := AList.mem_lookup_iff.mpr he
  rw [Function.comp_apply, bucket, hget, Option.getD_some]

end DashMap

/-- A `watch` channel: the latest value, and how many values have been sent so far. -/
structure Watch (α : Type*) where
  value : α
  version : Nat

namespace Watch

variable {α : Type*}

/-- `watch::channel`. -/
def channel (a : α) : Watch α := { value := a, version := 0 }

def send (w : Watch α) (a : α) : Watch α := { value := a, version := w.version + 1 }

/-- Whether `changed` resolves for a receiver that has seen the value of the given version. -/
def changed (w : Watch α) (seen : Nat) : Bool := seen ≠ w.version

end Watch

/-! ## Bounded channels -/

/-- An `mpsc` channel: the values that were sent and not received yet, oldest first.  With the
    receiver, what is still queued is dropped. -/
structure Channel (α : Type*) where
  queue : List α
  capacity : Nat
  closed : Bool
  bounded : queue.length ≤ capacity
  drained : closed = true → queue = []

inductive TrySendError where
  | full
  | closed

namespace Channel

variable {α : Type*}

/-- `mpsc::channel`. -/
def new (capacity : Nat) : Channel α :=
  { queue := [], capacity, closed := false, bounded := Nat.zero_le _, drained := fun _ => rfl }

/-- `try_send`: a closed channel answers so even if it is full. -/
def trySend (c : Channel α) (a : α) : Except TrySendError (Channel α) :=
  if hclosed : c.closed then
    .error .closed
  else if hroom : c.queue.length < c.capacity then
    .ok
      { c with
        queue := c.queue ++ [a]
        bounded := by rw [List.length_append]; exact hroom
        drained := fun h => absurd h hclosed }
  else
    .error .full

/-- `recv`, when a value is there. -/
def recv (c : Channel α) : Option (α × Channel α) :=
  match hqueue : c.queue with
  | [] => none
  | a :: rest =>
    some (a,
      { c with
        queue := rest
        bounded := by
          have := c.bounded
          rw [hqueue, List.length_cons] at this
          omega
        drained := fun h => by
          have := c.drained h
          rw [hqueue] at this
          cases this })

/-- The receiver is dropped. -/
def close (c : Channel α) : Channel α :=
  { c with queue := [], closed := true, bounded := Nat.zero_le _, drained := fun _ => rfl }

theorem trySend_ok {c c' : Channel α} {a : α} (h : c.trySend a = .ok c') :
    c'.queue = c.queue ++ [a] ∧ c'.closed = c.closed := by
  unfold trySend at h
  split at h
  · cases h
  · split at h
    · cases h
      exact ⟨rfl, rfl⟩
    · cases h

theorem recv_eq_some {c c' : Channel α} {a : α} (h : c.recv = some (a, c')) :
    c.queue = a :: c'.queue ∧ c'.closed = c.closed := by
  unfold recv at h
  split at h
  · cases h
  · rename_i hqueue
    cases h
    exact ⟨hqueue, rfl⟩

end Channel
