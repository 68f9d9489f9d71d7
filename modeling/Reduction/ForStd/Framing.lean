import Reduction.ForStd.Bytes

/-!
# Length-prefixed frames on a byte stream

The pieces that a framed protocol is made of: the big-endian length, reads of an
exact number of bytes, writers that may fail, and the loop that reads a number
of frames.

A reader is the bytes that are still to come.  A writer is any type with a
`written` history that a successful write extends by exactly its argument.
-/

/-! ## Big-endian lengths -/

namespace Framing

/-- `u32::to_be_bytes`. -/
def toBeBytes (n : UInt32) : Bytes :=
  [UInt8.ofNat (n.toNat / 2 ^ 24), UInt8.ofNat (n.toNat / 2 ^ 16), UInt8.ofNat (n.toNat / 2 ^ 8),
    UInt8.ofNat n.toNat]

/-- `u32::from_be_bytes`. -/
def fromBeBytes (bytes : Bytes) : UInt32 :=
  UInt32.ofNat (bytes.foldl (fun acc b => acc * 2 ^ 8 + b.toNat) 0)

@[simp] theorem length_toBeBytes (n : UInt32) : (toBeBytes n).length = 4 := rfl

@[simp] theorem fromBeBytes_toBeBytes (n : UInt32) : fromBeBytes (toBeBytes n) = n := by
  have hlt := n.toNat_lt
  apply UInt32.toNat_inj.mp
  simp only [fromBeBytes, toBeBytes, List.foldl_cons, List.foldl_nil, UInt32.toNat_ofNat',
    UInt8.toNat_ofNat']
  omega

/-- A length below `2 ^ 24` starts with a zero byte. -/
theorem head_toBeBytes {n : UInt32} (h : n.toNat < 2 ^ 24) :
    ∃ rest, toBeBytes n = 0 :: rest := by
  have hzero : n.toNat / 2 ^ 24 = 0 := Nat.div_eq_of_lt h
  exact ⟨_, by simp only [toBeBytes, hzero]; rfl⟩

/-! ## Readers -/

/-- `read_exact`: the next `n` bytes and the stream after them. -/
def readExact (n : Nat) (stream : Bytes) : Except String (Bytes × Bytes) :=
  if n ≤ stream.length then .ok (stream.take n, stream.drop n) else .error "early eof"

variable {n : Nat}

variable {s stream rest payload : Bytes}

theorem readExact_append {t : Bytes} (h : s.length = n) : readExact n (s ++ t) = .ok (s, t) := by
  subst h
  simp [readExact]

theorem readExact_short (h : s.length < n) : readExact n s = .error "early eof" := by
  rw [readExact, if_neg (by omega)]

/-- Read `n` frames, one after the other, with a reader of one frame. -/
def readMany {F ε : Type} (read : Bytes → Except ε (F × Bytes)) :
    Nat → Bytes → Except ε (List F × Bytes)
  | 0, stream => .ok ([], stream)
  | n + 1, stream =>
    match read stream with
    | .error e => .error e
    | .ok (frame, rest) =>
      match readMany read n rest with
      | .error e => .error e
      | .ok (frames, rest) => .ok (frame :: frames, rest)

/-- If one frame is read back whatever follows it, so is a list of frames. -/
theorem readMany_flatten {F ε : Type} {read : Bytes → Except ε (F × Bytes)}
    {writes : F → Bytes → Prop}
    (hread : ∀ f bytes tail, writes f bytes → read (bytes ++ tail) = .ok (f, tail))
    {frames : List F} {chunks : List Bytes} (h : List.Forall₂ writes frames chunks)
    (tail : Bytes) :
    readMany read frames.length (chunks.flatten ++ tail) = .ok (frames, tail) := by
  induction h with
  | nil => rfl
  | @cons f bytes frames chunks hwrite hrest ih =>
    have hfirst := hread f bytes (chunks.flatten ++ tail) hwrite
    rw [List.flatten_cons, List.append_assoc, List.length_cons, readMany, hfirst]
    simp only [ih]

/-- One more frame from what the first `n` leave. -/
theorem readMany_succ {F ε : Type} {read : Bytes → Except ε (F × Bytes)} {mid : Bytes}
    {frames : List F} {frame : F} (hmany : readMany read n stream = .ok (frames, mid))
    (hread : read mid = .ok (frame, rest)) :
    readMany read (n + 1) stream = .ok (frames ++ [frame], rest) := by
  induction n generalizing stream frames with
  | zero =>
    cases hmany
    simp only [readMany, hread, List.nil_append]
  | succ n ih =>
    rw [readMany] at hmany ⊢
    cases hfirst : read stream with
    | error e =>
      rw [hfirst] at hmany
      cases hmany
    | ok first =>
      simp only [hfirst] at hmany ⊢
      cases hrest : readMany read n first.2 with
      | error e =>
        rw [hrest] at hmany
        cases hmany
      | ok others =>
        rw [hrest] at hmany
        cases hmany
        rw [ih hrest]
        rfl

/-- If what follows a frame does not change how it is read, what follows frames does not either. -/
theorem readMany_append {F ε : Type} {read : Bytes → Except ε (F × Bytes)}
    (happend : ∀ {s frame rest}, read s = .ok (frame, rest) → ∀ tail,
      read (s ++ tail) = .ok (frame, rest ++ tail)) {frames : List F}
    (h : readMany read n stream = .ok (frames, rest)) (tail : Bytes) :
    readMany read n (stream ++ tail) = .ok (frames, rest ++ tail) := by
  induction n generalizing stream frames with
  | zero =>
    cases h
    rfl
  | succ n ih =>
    rw [readMany] at h ⊢
    cases hfirst : read stream with
    | error e =>
      rw [hfirst] at h
      cases h
    | ok first =>
      simp only [hfirst] at h
      cases hrest : readMany read n first.2 with
      | error e =>
        rw [hrest] at h
        cases h
      | ok others =>
        rw [hrest] at h
        cases h
        simp only [happend hfirst tail, ih hrest]

/-! ## Frames -/

/-- A payload behind its length. -/
def frame (payload : Bytes) : Bytes := toBeBytes (UInt32.ofNat payload.length) ++ payload

theorem length_frame (payload : Bytes) : (frame payload).length = 4 + payload.length := by
  simp [frame]

theorem take_frame_append (payload tail : Bytes) :
    (frame payload ++ tail).take 4 = toBeBytes (UInt32.ofNat payload.length) := by
  rw [frame, List.append_assoc, List.take_append_of_le_length (by simp), List.take_of_length_le
    (by simp)]

theorem drop_frame_append (payload tail : Bytes) :
    (frame payload ++ tail).drop 4 = payload ++ tail := by
  rw [frame, List.append_assoc, List.drop_append_of_le_length (by simp), List.drop_of_length_le
    (by simp), List.nil_append]

theorem toNat_ofNat_length (h : payload.length < 2 ^ 32) :
    (UInt32.ofNat payload.length).toNat = payload.length := by
  rw [UInt32.toNat_ofNat', Nat.mod_eq_of_lt h]

/-- The frame of a short payload starts with a zero byte. -/
theorem head_frame (h : payload.length < 2 ^ 24) : ∃ rest, frame payload = 0 :: rest := by
  have hlen := toNat_ofNat_length (show payload.length < 2 ^ 32 by omega)
  obtain ⟨rest, hrest⟩ := head_toBeBytes (show (UInt32.ofNat payload.length).toNat < 2 ^ 24 by omega)
  exact ⟨rest ++ payload, by rw [frame, hrest, List.cons_append]⟩

end Framing

/-! ## Writers -/

/-- `AsyncWrite`: a sink for bytes whose writes and flushes may fail.  A write that succeeds has
    put exactly its bytes behind those written before. -/
class AsyncWrite (W : Type) where
  writeAll : W → Bytes → Except String W
  flush : W → Except String W
  written : W → Bytes
  written_writeAll : ∀ {w w' bytes}, writeAll w bytes = .ok w' → written w' = written w ++ bytes
  written_flush : ∀ {w w'}, flush w = .ok w' → written w' = written w

/-- A `Vec<u8>` takes every write. -/
instance : AsyncWrite Bytes where
  writeAll w bytes := .ok (w ++ bytes)
  flush w := .ok w
  written w := w
  written_writeAll h := (Except.ok.inj h).symm
  written_flush h := (Except.ok.inj h).symm
