import Mathlib

/-!
# Taking turns

A sequence of choices among `n` candidates is even when no candidate has been
chosen two times more often than another.  Choosing one after the other around
the circle is even at every point; in general a choice keeps a sequence even if
and only if it goes to one of those that were chosen least often.
-/

namespace RoundRobin

/-- Any two of the candidates were chosen equally often, up to one time. -/
def Even (n : Nat) (chosen : List Nat) : Prop :=
  ∀ a < n, ∀ b < n, chosen.count a ≤ chosen.count b + 1

variable {n : Nat}

theorem even_nil : Even n [] := fun _ _ _ _ => Nat.zero_le _

variable {k a : Nat}

/-- A choice keeps a sequence even if and only if nobody was chosen less often. -/
theorem even_concat_iff {chosen : List Nat} (h : Even n chosen) (hk : k < n) :
    Even n (chosen ++ [k]) ↔ ∀ a < n, chosen.count k ≤ chosen.count a := by
  have hcount : ∀ a, (chosen ++ [k]).count a = chosen.count a + if k = a then 1 else 0 := by
    intro a
    rw [List.count_append, List.count_singleton]
    simp
  constructor
  · intro heven a ha
    have hka := heven k hk a ha
    rw [hcount, hcount, if_pos rfl] at hka
    split at hka
    · rename_i heq
      rw [heq]
    · omega
  · intro hleast a ha b hb
    have hab := h a ha b hb
    have hb' := hleast b hb
    rw [hcount, hcount]
    split
    · rename_i heq
      rw [← heq]
      split <;> omega
    · split <;> omega

/-- The choices of a turn that starts with `k` and goes around the circle. -/
def turns (n k m : Nat) : List Nat := (List.range m).map fun i => (k + i) % n

theorem turns_succ (n k m : Nat) : turns n k (m + 1) = turns n k m ++ [(k + m) % n] := by
  rw [turns, List.range_succ, List.map_append, List.map_singleton, turns]

/-- Where a candidate stands, seen from the one that starts. -/
theorem add_mod_eq_iff (hk : k < n) (ha : a < n) (m : Nat) :
    (k + m) % n = a ↔ m % n = (a + (n - k)) % n := by
  have hn : 0 < n := by omega
  rcases Nat.lt_or_ge (m % n + k) n with hlt | hge
  · have hsum : (k + m) % n = k + m % n := by
      rw [← Nat.add_mod_mod, Nat.mod_eq_of_lt (by omega)]
    rcases Nat.lt_or_ge a k with hak | hak
    · rw [hsum, Nat.mod_eq_of_lt (show a + (n - k) < n by omega)]
      omega
    · have hpos : (a + (n - k)) % n = a - k := by
        rw [show a + (n - k) = (a - k) + n by omega, Nat.add_mod_right, Nat.mod_eq_of_lt (by omega)]
      rw [hsum, hpos]
      omega
  · have hlt := Nat.mod_lt m hn
    have hsum : (k + m) % n = k + m % n - n := by
      rw [← Nat.add_mod_mod, show k + m % n = (k + m % n - n) + n by omega, Nat.add_mod_right,
        Nat.mod_eq_of_lt (by omega)]
      omega
    rcases Nat.lt_or_ge a k with hak | hak
    · rw [hsum, Nat.mod_eq_of_lt (show a + (n - k) < n by omega)]
      omega
    · have hpos : (a + (n - k)) % n = a - k := by
        rw [show a + (n - k) = (a - k) + n by omega, Nat.add_mod_right, Nat.mod_eq_of_lt (by omega)]
      rw [hsum, hpos]
      omega

/-- Every full turn chooses everyone once, and what there is of the last turn those at its start. -/
theorem count_turns (hk : k < n) (ha : a < n) (m : Nat) :
    (turns n k m).count a = m / n + if (a + (n - k)) % n < m % n then 1 else 0 := by
  have hn : 0 < n := by omega
  have hpos : (a + (n - k)) % n < n := Nat.mod_lt _ hn
  induction m with
  | zero => simp [turns]
  | succ m ih =>
    have hiff := add_mod_eq_iff hk ha m
    have hmod := Nat.mod_lt m hn
    have hm := Nat.mod_add_div m n
    rw [turns_succ, List.count_append, ih, List.count_singleton]
    simp only [beq_iff_eq, hiff]
    rcases Nat.lt_or_ge (m % n + 1) n with hlt | hge
    · obtain ⟨hdiv, hrem⟩ := (Nat.div_mod_unique (d := m / n) (c := m % n + 1) hn).mpr
        ⟨show m % n + 1 + n * (m / n) = m + 1 by omega, hlt⟩
      rw [hdiv, hrem]
      split <;> split <;> split <;> omega
    · -- The last turn is full: everyone has been chosen once more.
      have hfull : 0 + n * (m / n + 1) = m + 1 := by
        rw [Nat.mul_add]
        omega
      obtain ⟨hdiv, hrem⟩ := (Nat.div_mod_unique hn).mpr ⟨hfull, hn⟩
      rw [hdiv, hrem]
      split <;> split <;> split <;> omega

theorem even_turns (hk : k < n) (m : Nat) : Even n (turns n k m) := by
  intro a ha b hb
  rw [count_turns hk ha, count_turns hk hb]
  split <;> split <;> omega

end RoundRobin
