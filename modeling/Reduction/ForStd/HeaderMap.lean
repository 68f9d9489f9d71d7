import Reduction.ForStd.Bytes

/-!
# HTTP header fields

The header types of the `http` crate: a field name is a lower-case token, a
field value is a string of bytes without control characters other than tab, and
a `HeaderMap` holds any number of values for a name, in order.

The map is a list of fields.  Only the order of the values of one name is
meaningful, and all operations keep it.
-/

namespace Http

/-- The bytes of a lower-case token. -/
def isNameByte (b : UInt8) : Bool :=
  (48 ≤ b && b ≤ 57) || (97 ≤ b && b ≤ 122) ||
    [33, 35, 36, 37, 38, 39, 42, 43, 45, 46, 94, 95, 96, 124, 126].contains b

/-- A field name: a non-empty lower-case token that is not overlong. -/
def isName (s : Bytes) : Bool := s ≠ [] && s.length ≤ 65535 && s.all isNameByte

/-- The bytes of a field value: tab, or anything from space on except delete. -/
def isValueByte (b : UInt8) : Bool := (32 ≤ b && b ≠ 127) || b == 9

/-- The bytes that `to_str` accepts. -/
def isVisible (b : UInt8) : Bool := (32 ≤ b && b < 127) || b == 9

structure HeaderName where
  bytes : Bytes
  valid : isName bytes = true
deriving DecidableEq

/-- `HeaderName::from_static`. -/
def HeaderName.lit (s : String) (valid : isName (Bytes.ascii s) = true) : HeaderName :=
  ⟨Bytes.ascii s, valid⟩

/-- `HeaderName::from_bytes`: upper-case letters are folded, anything else outside a token is an
    error. -/
def HeaderName.fromBytes? (s : Bytes) : Option HeaderName :=
  if h : isName s.toAsciiLowercase = true then some ⟨s.toAsciiLowercase, h⟩ else none

structure HeaderValue where
  bytes : Bytes
  valid : bytes.all isValueByte = true
deriving DecidableEq

/-- `HeaderValue::from_static`. -/
def HeaderValue.lit (s : String) (valid : (Bytes.ascii s).all isValueByte = true) :
    HeaderValue :=
  ⟨Bytes.ascii s, valid⟩

/-- `HeaderValue::from_str`. -/
def HeaderValue.fromStr? (s : Bytes) : Option HeaderValue :=
  if h : s.all isValueByte = true then some ⟨s, h⟩ else none

/-- `HeaderValue::from` of a number: its decimal digits. -/
def HeaderValue.ofNat (n : Nat) : HeaderValue :=
  ⟨Bytes.decimal n, by
    rw [List.all_eq_true]
    intro b hb
    have hdigit := Bytes.isDigit_of_mem_decimal hb
    simp only [Bytes.isDigit, isValueByte, Bool.and_eq_true, Bool.or_eq_true, decide_eq_true_eq,
      UInt8.le_iff_toNat_le] at hdigit ⊢
    left
    constructor
    · exact Nat.le_trans (by decide) hdigit.1
    · rintro rfl
      exact absurd hdigit.2 (by decide)⟩

/-- `HeaderValue::to_str`: the text of a value of visible ASCII. -/
def HeaderValue.toStr? (v : HeaderValue) : Option Bytes :=
  if v.bytes.all isVisible then some v.bytes else none

/-- `HeaderValue::is_empty`. -/
def HeaderValue.isEmpty (v : HeaderValue) : Bool := v.bytes.isEmpty

/-- The fields of a message. -/
abbrev HeaderMap := List (HeaderName × HeaderValue)

namespace HeaderMap

/-- `get_all`: the values of a name, in order. -/
def getAll (h : HeaderMap) (n : HeaderName) : List HeaderValue :=
  (h.filter fun f => f.1 = n).map Prod.snd

/-- `get`: the first value of a name. -/
def get (h : HeaderMap) (n : HeaderName) : Option HeaderValue := (h.getAll n).head?

/-- `contains_key`. -/
def containsKey (h : HeaderMap) (n : HeaderName) : Bool := (h.get n).isSome

/-- `remove`: all values of a name go. -/
def remove (h : HeaderMap) (n : HeaderName) : HeaderMap := h.filter fun f => f.1 ≠ n

/-- `insert`: the value replaces all values of its name. -/
def insert (h : HeaderMap) (n : HeaderName) (v : HeaderValue) : HeaderMap := h.remove n ++ [(n, v)]

/-- Remove each of the given names. -/
def removeAll (h : HeaderMap) (ns : List HeaderName) : HeaderMap := ns.foldl remove h

/-! ## The values of a name after an update -/

variable (h : HeaderMap) (n : HeaderName)

@[simp] theorem getAll_remove_self : (h.remove n).getAll n = [] := by
  simp [getAll, remove, List.filter_filter]

theorem getAll_remove_of_ne {n m : HeaderName} (hne : m ≠ n) :
    (h.remove n).getAll m = h.getAll m := by
  simp only [getAll, remove, List.filter_filter]
  congr 1
  refine List.filter_congr fun f _ => ?_
  by_cases hf : f.1 = m <;> simp [hf, hne]

theorem getAll_insert (m : HeaderName) (v : HeaderValue) :
    (h.insert n v).getAll m = if m = n then [v] else h.getAll m := by
  by_cases hm : m = n
  · subst hm
    have hself := getAll_remove_self h m
    simp only [getAll, List.map_eq_nil_iff] at hself
    simp [insert, getAll, List.filter_append, hself]
  · have hne : ¬ n = m := fun hn => hm hn.symm
    rw [if_neg hm, ← getAll_remove_of_ne h hm]
    simp [insert, getAll, List.filter_append, hne]

/-- After removing several names, exactly these have lost all their values. -/
theorem getAll_removeAll (ns : List HeaderName) (m : HeaderName) :
    (h.removeAll ns).getAll m = if m ∈ ns then [] else h.getAll m := by
  induction ns generalizing h with
  | nil => simp [removeAll]
  | cons n ns ih =>
    have hstep : h.removeAll (n :: ns) = (h.remove n).removeAll ns := rfl
    rw [hstep, ih]
    by_cases hm : m = n
    · subst hm; simp
    · simp [hm, getAll_remove_of_ne h hm]

/-! ## List fields

A field whose value is a comma-separated list may come in several lines, and then stands for the
list that joins them. -/

/-- The elements of a comma-separated list, without the white space around them; empty ones do not
    count. -/
def elements (list : Bytes) : List Bytes := (list.splitComma.map Bytes.trim).filter (· ≠ [])

/-- The lines of a name, joined by commas. -/
def joined (h : HeaderMap) (n : HeaderName) : Bytes :=
  [Bytes.comma].intercalate ((h.getAll n).map HeaderValue.bytes)

/-- The members of a list field. -/
def members (h : HeaderMap) (n : HeaderName) : List Bytes := elements (h.joined n)

theorem elements_join (lines : List Bytes) :
    elements ([Bytes.comma].intercalate lines) = lines.flatMap elements := by
  induction lines with
  | nil => rfl
  | cons line rest ih =>
    cases rest with
    | nil => simp
    | cons next rest =>
      rw [List.intercalate_cons_cons, List.flatMap_cons, ← ih]
      simp only [elements, Bytes.splitComma, List.append_assoc, List.singleton_append,
        List.splitOn_append_cons_self, List.map_append, List.filter_append]

/-- The members of a list field are those of its lines. -/
theorem members_eq : h.members n = (h.getAll n).flatMap fun v => elements v.bytes := by
  rw [members, joined, elements_join, List.flatMap_map]

end HeaderMap

end Http
