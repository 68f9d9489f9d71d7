import Mathlib

/-!
# Byte strings

Text as a list of bytes, with the ASCII operations that string slices offer
(`trim`, `split`, case-insensitive comparison, decimal rendering) and the
fixed-capacity inline string of the `arrayvec` crate.

A UTF-8 string is represented by its bytes, so a statement about every
`Bytes` value covers every string.
-/

/-- A byte string. -/
abbrev Bytes := List UInt8

namespace Bytes

/-- The bytes of an ASCII literal. -/
def ascii (s : String) : Bytes :=
  s.toList.map fun c => UInt8.ofNat c.toNat

/-- `u8::to_ascii_lowercase`. -/
def lowerByte (b : UInt8) : UInt8 :=
  if 65 ≤ b ∧ b ≤ 90 then b + 32 else b

/-- `str::to_ascii_lowercase`. -/
def toAsciiLowercase (s : Bytes) : Bytes := s.map lowerByte

/-- `str::eq_ignore_ascii_case`. -/
def eqIgnoreAsciiCase (s t : Bytes) : Bool :=
  s.toAsciiLowercase == t.toAsciiLowercase

/-- ASCII white space, as `char::is_whitespace` has it: tab to carriage return, and space. -/
def isSpace (b : UInt8) : Bool := (9 ≤ b && b ≤ 13) || b == 32

/-- `str::trim` on ASCII text. -/
def trim (s : Bytes) : Bytes := (s.dropWhile isSpace).rdropWhile isSpace

/-- The comma byte. -/
def comma : UInt8 := 44

/-- `str::split(',')`. -/
def splitComma (s : Bytes) : List Bytes := s.splitOn comma

/-- A decimal digit. -/
def isDigit (b : UInt8) : Bool := 48 ≤ b && b ≤ 57

/-- `parse::<uN>`: an optional plus sign and at least one digit, in range. -/
def parseUnsigned (width : Nat) (s : Bytes) : Option Nat :=
  let digits := if s.head? = some 43 then s.tail else s
  if digits ≠ [] ∧ digits.all isDigit then
    let n := digits.foldl (fun acc b => acc * 10 + (b.toNat - 48)) 0
    if n < 2 ^ width then some n else none
  else
    none

/-- The colon byte. -/
def colon : UInt8 := 58

/-- The decimal digits of a number, as `Display` renders it. -/
def decimal (n : Nat) : Bytes := (Nat.toDigits 10 n).map fun c => UInt8.ofNat c.toNat

/-- The lower-case hexadecimal digits of a number, as `LowerHex` renders it. -/
def hex (n : Nat) : Bytes := (Nat.toDigits 16 n).map fun c => UInt8.ofNat c.toNat

variable {n : Nat}

private theorem digit_toNat_bounds {c : Char} (hc : c ∈ Nat.toDigits 10 n) :
    48 ≤ c.toNat ∧ c.toNat ≤ 57 := by
  have hdigit := Nat.isDigit_of_mem_toDigits (by decide) (by decide) hc
  simp only [Char.isDigit, Bool.and_eq_true, decide_eq_true_eq] at hdigit
  exact ⟨hdigit.1, hdigit.2⟩

private theorem digitByte_toNat {c : Char} (hc : c ∈ Nat.toDigits 10 n) :
    (UInt8.ofNat c.toNat).toNat = c.toNat := by
  have := digit_toNat_bounds hc
  simp [Nat.mod_eq_of_lt (show c.toNat < 256 by omega)]

/-- A decimal rendering holds digits only. -/
theorem isDigit_of_mem_decimal {b : UInt8} (h : b ∈ decimal n) : isDigit b = true := by
  obtain ⟨c, hc, rfl⟩ := List.mem_map.mp h
  have hbounds := digit_toNat_bounds hc
  have hbyte := digitByte_toNat hc
  simp only [isDigit, Bool.and_eq_true, decide_eq_true_eq, UInt8.le_iff_toNat_le, hbyte]
  exact hbounds

theorem colon_not_mem_decimal (n : Nat) : colon ∉ decimal n := by
  intro h
  exact absurd (isDigit_of_mem_decimal h) (by decide)

/-- The digits can be read back from their bytes. -/
private theorem toDigits_of_decimal (n : Nat) :
    (decimal n).map (fun b => Char.ofNat b.toNat) = Nat.toDigits 10 n := by
  rw [decimal, List.map_map]
  refine (List.map_congr_left fun c hc => ?_).trans (List.map_id _)
  simp [digitByte_toNat hc]

theorem decimal_injective : Function.Injective decimal := by
  intro m n h
  have hdigits : Nat.toDigits 10 m = Nat.toDigits 10 n := by
    rw [← toDigits_of_decimal, ← toDigits_of_decimal, h]
  rw [← Nat.ofDigitChars_ten_toDigits (n := m), ← Nat.ofDigitChars_ten_toDigits (n := n), hdigits]

/-- A length-prefixed field: the length in decimal, a colon, the bytes. -/
def lengthPrefixed (s : Bytes) : Bytes := decimal s.length ++ colon :: s

/-- A length-prefixed field can be told from whatever follows it. -/
theorem lengthPrefixed_append_inj {s t u v : Bytes}
    (h : s.lengthPrefixed ++ u = t.lengthPrefixed ++ v) : s = t ∧ u = v := by
  simp only [lengthPrefixed, List.append_assoc, List.cons_append] at h
  -- the first colon ends the length on both sides
  have hsplit : decimal s.length = decimal t.length ∧ s ++ u = t ++ v := by
    have hs := colon_not_mem_decimal s.length
    have ht := colon_not_mem_decimal t.length
    rcases List.append_eq_append_iff.mp h with ⟨w, hw, hr⟩ | ⟨w, hw, hr⟩
    · cases w with
      | nil => simp_all
      | cons x w =>
        have hx : x = colon := by simpa using (List.cons.inj hr).1.symm
        exact absurd (by simp [hw, hx]) ht
    · cases w with
      | nil => simp_all
      | cons x w =>
        have hx : x = colon := by simpa using (List.cons.inj hr).1.symm
        exact absurd (by simp [hw, hx]) hs
  exact List.append_inj hsplit.2 (decimal_injective hsplit.1)

end Bytes

/-- `fmt::Write`: a sink that text is appended to; `none` is a write error. -/
class FmtWrite (W : Type) where
  writeStr : W → Bytes → Option W

/-- Write a list of pieces in order, as `write!` does, stopping at the first error. -/
def FmtWrite.writePieces {W : Type} [FmtWrite W] (buf : W) (pieces : List Bytes) : Option W :=
  pieces.foldlM FmtWrite.writeStr buf

/-- Writing into a `String` never fails. -/
instance : FmtWrite Bytes where
  writeStr buf s := some (buf ++ s)

/-- `ArrayString<CAP>`: an inline string of at most `cap` bytes. -/
structure ArrayString (cap : Nat) where
  bytes : Bytes
  fits : bytes.length ≤ cap
deriving DecidableEq

namespace ArrayString

/-- `ArrayString::from`: fails when the text is longer than the capacity. -/
def from? {cap : Nat} (s : Bytes) : Option (ArrayString cap) :=
  if h : s.length ≤ cap then some ⟨s, h⟩ else none

variable {cap : Nat}

@[simp] theorem from?_bytes (s : ArrayString cap) : from? s.bytes = some s := by
  rw [from?, dif_pos s.fits]

theorem bytes_of_from? {s : Bytes} {t : ArrayString cap} (h : from? s = some t) : t.bytes = s := by
  unfold from? at h
  split at h
  · cases h
    rfl
  · cases h

theorem bytes_injective : Function.Injective (bytes : ArrayString cap → Bytes) := by
  intro s t h
  cases s
  cases t
  simp_all

/-- `ArrayString::new`. -/
def empty {cap : Nat} : ArrayString cap := ⟨[], Nat.zero_le cap⟩

/-- `as_str`, for a message; the bytes are UTF-8. -/
def asStr {cap : Nat} (s : ArrayString cap) : String :=
  (String.fromUTF8? ⟨s.bytes.toArray⟩).getD ""

/-- A write that would overflow the capacity fails and leaves the buffer alone. -/
instance {cap : Nat} : FmtWrite (ArrayString cap) where
  writeStr buf s := from? (buf.bytes ++ s)

end ArrayString

namespace FmtWrite

/-- Writing pieces into a `String` appends them all. -/
theorem writePieces_bytes (buf : Bytes) (pieces : List Bytes) :
    writePieces buf pieces = some (buf ++ pieces.flatten) := by
  induction pieces generalizing buf with
  | nil => simp [writePieces]
  | cons p ps ih =>
    have hstep : writePieces buf (p :: ps) = writePieces (buf ++ p) ps := rfl
    rw [hstep, ih, List.append_assoc, List.flatten_cons]

/-- Pieces that were written into an inline string are all there, as in a `String`. -/
theorem writePieces_arrayString {cap : Nat} {buf out : ArrayString cap} {pieces : List Bytes}
    (h : writePieces buf pieces = some out) : out.bytes = buf.bytes ++ pieces.flatten := by
  induction pieces generalizing buf with
  | nil =>
    obtain rfl : buf = out := Option.some.inj h
    simp
  | cons p ps ih =>
    simp only [writePieces, List.foldlM_cons, writeStr, ArrayString.from?] at h
    split at h
    · rename_i hfits
      have hrest : writePieces (⟨buf.bytes ++ p, hfits⟩ : ArrayString cap) ps = some out := h
      rw [ih hrest, List.append_assoc, List.flatten_cons]
    · exact nomatch h

end FmtWrite
