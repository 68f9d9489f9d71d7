import Reduction.ForStd.Bytes

/-!
# Hexadecimal text

Two digits for each byte, in lower case.  Digits of either case, two at a time,
make up the bytes that they are the text of (`text_eq_of_join`), and no other bytes
have that text (`text_injective`).
-/

namespace Hex

/-- A digit of either case. -/
def isDigit (b : UInt8) : Bool :=
  (48 ≤ b && b ≤ 57) || (97 ≤ b && b ≤ 102) || (65 ≤ b && b ≤ 70)

/-- The digit of a value, in lower case. -/
def digit (n : UInt8) : UInt8 := if n < 10 then 48 + n else 87 + n

/-- The value of a digit. -/
def value (b : UInt8) : UInt8 :=
  if b ≤ 57 then b - 48 else if 97 ≤ b then b - 97 + 10 else b - 65 + 10

/-- The byte of two values. -/
def join (hi lo : UInt8) : UInt8 := hi <<< 4 ||| lo

def text (bytes : Bytes) : Bytes :=
  bytes.flatMap fun b : UInt8 => [digit (b >>> 4), digit (b &&& 15)]

theorem value_lt {b : UInt8} (h : isDigit b = true) : value b < 16 := by
  revert b
  decide +kernel

theorem digit_value {b : UInt8} (h : isDigit b = true) : digit (value b) = Bytes.lowerByte b := by
  revert b
  decide +kernel

/-- Text is in lower case. -/
theorem lowerByte_digits (b : UInt8) :
    Bytes.lowerByte (digit (b >>> 4)) = digit (b >>> 4) ∧
      Bytes.lowerByte (digit (b &&& 15)) = digit (b &&& 15) := by
  revert b
  decide +kernel

theorem eq_of_digits {b b' : UInt8} (hhi : digit (b >>> 4) = digit (b' >>> 4))
    (hlo : digit (b &&& 15) = digit (b' &&& 15)) : b = b' := by
  have hinj : ∀ b : UInt8, join (value (digit (b >>> 4))) (value (digit (b &&& 15))) = b := by
    decide +kernel
  rw [← hinj b, hhi, hlo, hinj b']

theorem digits_join {hi lo : UInt8} (hhi : hi < 16) (hlo : lo < 16) :
    digit (join hi lo >>> 4) = digit hi ∧ digit (join hi lo &&& 15) = digit lo := by
  have hjoin : ∀ hi lo : Fin 16,
      join (UInt8.ofNat hi) (UInt8.ofNat lo) >>> 4 = UInt8.ofNat hi ∧
        join (UInt8.ofNat hi) (UInt8.ofNat lo) &&& 15 = UInt8.ofNat lo := by
    decide +kernel
  obtain ⟨hhi', hlo'⟩ := hjoin ⟨hi.toNat, hhi⟩ ⟨lo.toNat, hlo⟩
  simp only [UInt8.ofNat_toNat] at hhi' hlo'
  rw [hhi', hlo']
  exact ⟨rfl, rfl⟩

theorem text_injective : Function.Injective text := by
  intro bytes
  induction bytes with
  | nil =>
    intro bytes' h
    cases bytes' with
    | nil => rfl
    | cons b' bytes' => cases h
  | cons b bytes ih =>
    intro bytes' h
    cases bytes' with
    | nil => cases h
    | cons b' bytes' =>
      simp only [text, List.flatMap_cons, List.cons_append, List.nil_append, List.cons.injEq] at h
      obtain ⟨hhi, hlo, hrest⟩ := h
      rw [eq_of_digits hhi hlo, ih hrest]

theorem toAsciiLowercase_text (bytes : Bytes) :
    Bytes.toAsciiLowercase (text bytes) = text bytes := by
  induction bytes with
  | nil => rfl
  | cons b bytes ih =>
    obtain ⟨hhi, hlo⟩ := lowerByte_digits b
    simp only [text, Bytes.toAsciiLowercase, List.flatMap_cons, List.map_append, List.map_cons,
      List.map_nil, hhi, hlo] at ih ⊢
    rw [ih]

/-- Two digits for each byte, in either case, are its text. -/
theorem text_eq_of_join {s bytes : Bytes} (hs : ∀ b ∈ s, isDigit b = true)
    (hlength : s.length = 2 * bytes.length)
    (h : ∀ i (hi : i < bytes.length), bytes[i] = join (value s[2 * i]) (value s[2 * i + 1])) :
    text bytes = Bytes.toAsciiLowercase s := by
  induction bytes generalizing s with
  | nil =>
    obtain rfl := List.length_eq_zero_iff.mp hlength
    rfl
  | cons b bytes ih =>
    rw [List.length_cons] at hlength
    obtain ⟨hi, s, rfl⟩ := List.exists_cons_of_length_pos (l := s) (by omega)
    rw [List.length_cons] at hlength
    obtain ⟨lo, s, rfl⟩ := List.exists_cons_of_length_pos (l := s) (by omega)
    rw [List.length_cons] at hlength
    rw [List.forall_mem_cons, List.forall_mem_cons] at hs
    obtain ⟨hhi, hlo, hs⟩ := hs
    have hb : b = join (value hi) (value lo) := h 0 (Nat.succ_pos _)
    have hrest := ih hs (by omega) (fun i hi => h (i + 1) (Nat.succ_lt_succ hi))
    obtain ⟨hfirst, hsecond⟩ := digits_join (value_lt hhi) (value_lt hlo)
    rw [text, List.flatMap_cons, hb, hfirst, hsecond, digit_value hhi, digit_value hlo]
    exact congrArg (fun t => Bytes.lowerByte hi :: Bytes.lowerByte lo :: t) hrest

end Hex
