import Reduction.ForStd.Run
import Reduction.Native.Protocol

/-!
# Frames survive the wire

Whatever list of frames is written, the reader gets it back and stops exactly
where the writer did; the buffer decoder and the stream reader accept the same
frames; a frame cut short is refused; and a frame is never mistaken for a
preamble.  The laws are the same for the tunnel and the ingress protocol.

- `writeFrame_writes`: what `write_frame` puts on the wire, for each protocol
- `readFrame_frame`: what `read_frame` makes of a well-formed frame
- `decode_ok_iff`: `decode` accepts what `read_frame` accepts, for each protocol
- `FrameLaws.of_writes`: the laws from these facts
-/

namespace Reduction

open Framing Run

/-! ## The laws -/

/-- `write` accepted `f` on some writer, and put `bytes` on the wire for it. -/
def Writes {W F : Type} [AsyncWrite W] (write : W → F → Except ReductionError W) (f : F)
    (bytes : Bytes) : Prop :=
  ∃ w w', write w f = .ok w' ∧ AsyncWrite.written w' = AsyncWrite.written w ++ bytes

/-- What holds of the frames of one protocol. -/
structure FrameLaws {F : Type} (writes : F → Bytes → Prop)
    (readFrame : Bytes → Except ReductionError (F × Bytes))
    (decode : Bytes → Except ReductionError F) : Prop where
  /-- Written frames are read back in order, up to whatever follows them. -/
  reads_written : ∀ frames chunks tail, List.Forall₂ writes frames chunks →
    readMany readFrame frames.length (chunks.flatten ++ tail) = .ok (frames, tail)
  /-- The buffer decoder and the stream reader accept the same frame of a buffer. -/
  decode_iff_read : ∀ buf f, decode buf = .ok f ↔ ∃ rest, readFrame buf = .ok (f, rest)
  /-- A written frame that is cut short is refused. -/
  rejects_cut : ∀ f bytes cut, writes f bytes → cut <+: bytes → cut ≠ bytes →
    (∃ e, readFrame cut = .error e) ∧ ∃ e, decode cut = .error e
  /-- A stream that starts with a written frame is no preamble of either protocol. -/
  not_preamble : ∀ f bytes tail, writes f bytes →
    (∃ e, TunnelProtocol.readPreamble (bytes ++ tail) = .error e) ∧
      ∃ e, IngressProtocol.readPreamble (bytes ++ tail) = .error e

/-! ## Reading -/

namespace FrameProtocol

variable {F : Type} (p : FrameProtocol) (codec : Bitcode F)

variable {stream rest : Bytes} {len : UInt32} {f : F}

theorem readFrame_short (h : stream.length < lengthPrefixSize) :
    p.readFrame codec stream = .error (p.error "read length: early eof") := by
  rw [readFrame, readExact_short h]
  rfl

theorem readFrame_of_length (h : lengthPrefixSize ≤ stream.length) :
    p.readFrame codec stream =
      p.readPayload codec (fromBeBytes (stream.take lengthPrefixSize))
        (stream.drop lengthPrefixSize) := by
  rw [readFrame, readExact, if_pos h]
  rfl

/-- A payload that is there and within the limit is decoded. -/
theorem readPayload_of_le (hmax : len.toNat ≤ p.maxFrame) (hroom : len.toNat ≤ stream.length) :
    p.readPayload codec len stream =
      (p.safeDecode codec (stream.take len.toNat)).map fun f => (f, stream.drop len.toNat) := by
  rw [readPayload, if_neg (by omega), readExact, if_pos hroom]
  show (p.safeDecode codec (stream.take len.toNat) >>=
    fun f => Except.ok (f, stream.drop len.toNat)) = _
  cases p.safeDecode codec (stream.take len.toNat) <;> rfl

theorem readPayload_short (h : stream.length < len.toNat) :
    ∃ e, p.readPayload codec len stream = .error e := by
  rw [readPayload, readExact_short h]
  split
  · exact ⟨_, rfl⟩
  · exact ⟨_, rfl⟩

/-- A frame within the limit is read whole, whatever follows it. -/
theorem readFrame_frame {payload : Bytes} (hmax : payload.length ≤ p.maxFrame)
    (hlen : payload.length < 2 ^ 32) (tail : Bytes) :
    p.readFrame codec (frame payload ++ tail) =
      (p.safeDecode codec payload).map fun f => (f, tail) := by
  have htake : (frame payload ++ tail).take lengthPrefixSize =
      toBeBytes (UInt32.ofNat payload.length) := take_frame_append payload tail
  have hdrop : (frame payload ++ tail).drop lengthPrefixSize = payload ++ tail :=
    drop_frame_append payload tail
  have hsize : lengthPrefixSize ≤ (frame payload ++ tail).length := by
    rw [List.length_append, length_frame, lengthPrefixSize]
    omega
  have hnat := toNat_ofNat_length hlen
  rw [readFrame_of_length p codec hsize, htake, hdrop, fromBeBytes_toBeBytes,
    readPayload_of_le p codec (by omega) (by rw [List.length_append]; omega), hnat,
    List.take_left, List.drop_left]

/-- A strict initial part of a frame is refused for want of bytes. -/
theorem readFrame_cut {payload cut : Bytes} (hlen : payload.length < 2 ^ 32)
    (hcut : cut <+: frame payload) (hne : cut ≠ frame payload) :
    ∃ e, p.readFrame codec cut = .error e := by
  by_cases hshort : cut.length < lengthPrefixSize
  · exact ⟨_, p.readFrame_short codec hshort⟩
  · have hsize : lengthPrefixSize ≤ cut.length := by omega
    have hlt : cut.length < (frame payload).length := by
      have hle := hcut.length_le
      have hneq : cut.length ≠ (frame payload).length := fun h => hne (hcut.eq_of_length h)
      omega
    -- the length came through whole, so the payload is what is missing
    have htake : cut.take lengthPrefixSize = toBeBytes (UInt32.ofNat payload.length) := by
      obtain ⟨rest, hrest⟩ := hcut
      have happend : cut.take lengthPrefixSize = (cut ++ rest).take lengthPrefixSize :=
        (List.take_append_of_le_length hsize).symm
      rw [happend, hrest, ← List.append_nil (frame payload)]
      exact take_frame_append payload []
    rw [readFrame_of_length p codec hsize, htake, fromBeBytes_toBeBytes]
    apply readPayload_short
    rw [toNat_ofNat_length hlen, List.length_drop]
    rw [length_frame] at hlt
    simp only [lengthPrefixSize] at hsize ⊢
    omega

/-- On a buffer that holds a length, `read_frame` succeeds if the payload is there, is within the
    limit and decodes. -/
theorem readFrame_ok_iff {buf : Bytes} (hsize : lengthPrefixSize ≤ buf.length)
    (hlen : fromBeBytes (buf.take lengthPrefixSize) = len) :
    (∃ rest, p.readFrame codec buf = .ok (f, rest)) ↔
      len.toNat ≤ p.maxFrame ∧ lengthPrefixSize + len.toNat ≤ buf.length ∧
      p.safeDecode codec ((buf.take (lengthPrefixSize + len.toNat)).drop lengthPrefixSize) =
        .ok f := by
  have hslice : (buf.take (lengthPrefixSize + len.toNat)).drop lengthPrefixSize =
      (buf.drop lengthPrefixSize).take len.toNat := by
    rw [List.drop_take, Nat.add_sub_cancel_left]
  have hdrop : (buf.drop lengthPrefixSize).length = buf.length - lengthPrefixSize :=
    List.length_drop
  rw [readFrame_of_length p codec hsize, hlen, hslice]
  by_cases hmax : len.toNat ≤ p.maxFrame
  · by_cases hroom : len.toNat ≤ (buf.drop lengthPrefixSize).length
    · rw [readPayload_of_le p codec hmax hroom]
      cases p.safeDecode codec ((buf.drop lengthPrefixSize).take len.toNat) with
      | error e => simp [Except.map]
      | ok f' =>
        simp only [Except.map, Except.ok.injEq, Prod.mk.injEq, exists_and_left, exists_eq', and_true]
        constructor
        · intro h
          exact ⟨hmax, by omega, h⟩
        · rintro ⟨-, -, h⟩
          exact h
    · have hshort : (buf.drop lengthPrefixSize).length < len.toNat := by omega
      obtain ⟨e, he⟩ := p.readPayload_short codec hshort
      constructor
      · rintro ⟨rest, h⟩
        rw [he] at h
        cases h
      · rintro ⟨-, hle, -⟩
        omega
  · constructor
    · rintro ⟨rest, h⟩
      rw [readPayload, if_pos (by omega)] at h
      cases h
    · rintro ⟨hle, -⟩
      exact absurd hle hmax

/-- What starts with another byte than the magic is no preamble. -/
theorem readPreamble_error {b m : UInt8} {magic : Bytes} (hmagic : p.magic = m :: magic)
    (hne : b ≠ m) : ∃ e, p.readPreamble (b :: rest) = .error e := by
  rw [readPreamble, readExact]
  split
  · refine ⟨p.error p.badMagic, ?_⟩
    show (if ((b :: rest).take preambleLen).take p.magic.length ≠ p.magic then
      Except.error (p.error p.badMagic) else _) = _
    rw [if_pos]
    intro heq
    rw [hmagic, preambleLen, List.take_succ_cons, List.length_cons, List.take_succ_cons] at heq
    exact hne (List.cons.inj heq).1
  · exact ⟨_, rfl⟩

theorem mapErr_eq_ok {α : Type} {label : String} {r : Except String α} {a : α} :
    p.mapErr label r = .ok a ↔ r = .ok a := by
  cases r with
  | ok b => simp [mapErr]
  | error e => simp [mapErr]

theorem readExact_eq_ok {n : Nat} {bytes : Bytes} :
    readExact n stream = .ok (bytes, rest) ↔ stream = bytes ++ rest ∧ bytes.length = n := by
  constructor
  · intro h
    rw [readExact] at h
    split at h
    case isTrue hle =>
      cases h
      exact ⟨(List.take_append_drop n stream).symm, List.length_take_of_le hle⟩
    case isFalse => cases h
  · rintro ⟨rfl, hlength⟩
    exact readExact_append hlength

/-- What a frame was read from: its length, a payload of that length, and the rest. -/
theorem readFrame_eq_ok :
    p.readFrame codec stream = .ok (f, rest) ↔
      ∃ lenBuf payload, stream = lenBuf ++ (payload ++ rest) ∧
        lenBuf.length = lengthPrefixSize ∧ payload.length = (fromBeBytes lenBuf).toNat ∧
        (fromBeBytes lenBuf).toNat ≤ p.maxFrame ∧ p.safeDecode codec payload = .ok f := by
  constructor
  · intro h
    rw [readFrame, bind_eq_ok] at h
    obtain ⟨⟨lenBuf, behind⟩, hlen, h⟩ := h
    obtain ⟨rfl, hsize⟩ := readExact_eq_ok.mp ((mapErr_eq_ok p).mp hlen)
    simp only [readPayload] at h
    split at h
    case isTrue => cases h
    case isFalse hmax =>
      obtain ⟨⟨payload, rest'⟩, hpayload, hdone⟩ := bind_eq_ok.mp h
      obtain ⟨rfl, hcount⟩ := readExact_eq_ok.mp ((mapErr_eq_ok p).mp hpayload)
      obtain ⟨f', hdecode, hresult⟩ := bind_eq_ok.mp hdone
      cases hresult
      exact ⟨lenBuf, payload, rfl, hsize, hcount, by omega, hdecode⟩
  · rintro ⟨lenBuf, payload, rfl, hsize, hcount, hmax, hdecode⟩
    rw [readFrame, readExact_append hsize]
    show p.readPayload codec (fromBeBytes lenBuf) (payload ++ rest) = _
    rw [readPayload, if_neg (by omega), readExact_append hcount]
    show (p.safeDecode codec payload >>= fun f => Except.ok (f, rest)) = _
    rw [hdecode]
    rfl

/-- What follows a frame does not change how it is read. -/
theorem readFrame_append (h : p.readFrame codec stream = .ok (f, rest)) (tail : Bytes) :
    p.readFrame codec (stream ++ tail) = .ok (f, rest ++ tail) := by
  obtain ⟨lenBuf, payload, rfl, hread⟩ := (readFrame_eq_ok p codec).mp h
  refine (readFrame_eq_ok p codec).mpr ⟨lenBuf, payload, ?_, hread⟩
  simp only [List.append_assoc]

end FrameProtocol

/-! ## Writing -/

namespace TunnelProtocol

theorem frameLen_ok {payload : Bytes} {len : UInt32} (h : frameLen payload = .ok len) :
    payload.length ≤ maxFrameSize ∧ len = UInt32.ofNat payload.length := by
  unfold frameLen at h
  dsimp only at h
  split at h
  · cases h
  · split at h
    · cases h
    · cases h
      exact ⟨by omega, rfl⟩

variable {W : Type} [AsyncWrite W] {codec : Bitcode TunnelFrame}

/-- `write_frame` puts the frame of the encoded payload on the wire. -/
theorem writeFrame_writes {f : TunnelFrame} {bytes : Bytes}
    (h : Writes (writeFrame (W := W) codec) f bytes) :
    bytes = frame (codec.encode f) ∧ (codec.encode f).length ≤ maxFrameSize := by
  obtain ⟨w, w', hwrite, hwritten⟩ := h
  obtain ⟨len, hlen, hwrite⟩ := bind_eq_ok.mp hwrite
  obtain ⟨w₁, hw₁, hwrite⟩ := bind_eq_ok.mp hwrite
  obtain ⟨w₂, hw₂, hflush⟩ := bind_eq_ok.mp hwrite
  have h₁ := AsyncWrite.written_writeAll (protocol.mapErr_eq_ok.mp hw₁)
  have h₂ := AsyncWrite.written_writeAll (protocol.mapErr_eq_ok.mp hw₂)
  have h₃ := AsyncWrite.written_flush (protocol.mapErr_eq_ok.mp hflush)
  obtain ⟨hmax, rfl⟩ := frameLen_ok hlen
  -- both writes went to the same history, one behind the other
  rw [h₃, h₂, h₁, List.append_assoc] at hwritten
  exact ⟨(List.append_cancel_left hwritten).symm, hmax⟩

/-- `decode` accepts what `read_frame` accepts, though it measures the buffer first. -/
theorem decode_ok_iff (codec : Bitcode TunnelFrame) (buf : Bytes) (f : TunnelFrame) :
    decode codec buf = .ok f ↔ ∃ rest, readFrame codec buf = .ok (f, rest) := by
  unfold decode readFrame
  dsimp only
  by_cases hshort : buf.length < lengthPrefixSize
  · rw [if_pos hshort, protocol.readFrame_short codec hshort]
    simp
  · generalize hlen : fromBeBytes (buf.take lengthPrefixSize) = len
    rw [if_neg hshort, checked_eq_ok, protocol.readFrame_ok_iff codec (by omega) hlen]
    show _ ↔ len.toNat ≤ maxFrameSize ∧ _ ∧ _
    rw [Nat.not_lt, Nat.not_lt, and_left_comm]

end TunnelProtocol

namespace IngressProtocol

theorem encode_ok {codec : Bitcode Envelope} {f : Envelope} {bytes : Bytes}
    (h : encode codec f = .ok bytes) :
    bytes = frame (codec.encode f) ∧ (codec.encode f).length ≤ maxEnvelopeFrame := by
  unfold encode at h
  dsimp only at h
  split at h
  · cases h
  · split at h
    · cases h
    · cases h
      exact ⟨rfl, by omega⟩

variable {W : Type} [AsyncWrite W] {codec : Bitcode Envelope}

/-- `write_frame` puts the frame of the encoded payload on the wire. -/
theorem writeFrame_writes {f : Envelope} {bytes : Bytes}
    (h : Writes (writeFrame (W := W) codec) f bytes) :
    bytes = frame (codec.encode f) ∧ (codec.encode f).length ≤ maxEnvelopeFrame := by
  obtain ⟨w, w', hwrite, hwritten⟩ := h
  obtain ⟨encoded, hencode, hwrite⟩ := bind_eq_ok.mp hwrite
  obtain ⟨w₁, hw₁, hflush⟩ := bind_eq_ok.mp hwrite
  have h₁ := AsyncWrite.written_writeAll (protocol.mapErr_eq_ok.mp hw₁)
  have h₂ := AsyncWrite.written_flush (protocol.mapErr_eq_ok.mp hflush)
  rw [h₂, h₁] at hwritten
  rw [← List.append_cancel_left hwritten]
  exact encode_ok hencode

/-- `decode` accepts what `read_frame` accepts. -/
theorem decode_ok_iff (codec : Bitcode Envelope) (buf : Bytes) (f : Envelope) :
    decode codec buf = .ok f ↔ ∃ rest, readFrame codec buf = .ok (f, rest) := by
  unfold decode readFrame
  dsimp only
  by_cases hshort : buf.length < lengthPrefixSize
  · rw [if_pos hshort, protocol.readFrame_short codec hshort]
    simp
  · generalize hlen : fromBeBytes (buf.take lengthPrefixSize) = len
    rw [if_neg hshort, checked_eq_ok, protocol.readFrame_ok_iff codec (by omega) hlen]
    show _ ↔ len.toNat ≤ maxEnvelopeFrame ∧ _ ∧ _
    rw [Nat.not_lt, Nat.not_lt]

end IngressProtocol

/-! ## The laws hold -/

/-- Short frames are no preambles: they start with a zero byte, and both magics with a letter. -/
theorem frame_not_preamble {payload : Bytes} (h : payload.length < 2 ^ 24) (tail : Bytes) :
    (∃ e, TunnelProtocol.readPreamble (frame payload ++ tail) = .error e) ∧
      ∃ e, IngressProtocol.readPreamble (frame payload ++ tail) = .error e := by
  obtain ⟨rest, hrest⟩ := head_frame h
  rw [hrest, List.cons_append]
  constructor
  · exact TunnelProtocol.protocol.readPreamble_error (m := 82) rfl (by decide)
  · exact IngressProtocol.protocol.readPreamble_error (m := 82) rfl (by decide)

/-- The laws follow from what is written for a frame, if the codec inverts itself. -/
theorem FrameLaws.of_writes {F : Type} (p : FrameProtocol) (codec : Bitcode F)
    (hcodec : ∀ f, codec.decode (codec.encode f) = .ok f) (hlimit : p.maxFrame < 2 ^ 24)
    {writes : F → Bytes → Prop} {decode : Bytes → Except ReductionError F}
    (hwrites : ∀ {f bytes}, writes f bytes →
      bytes = frame (codec.encode f) ∧ (codec.encode f).length ≤ p.maxFrame)
    (hdecode : ∀ buf f, decode buf = .ok f ↔ ∃ rest, p.readFrame codec buf = .ok (f, rest)) :
    FrameLaws writes (p.readFrame codec) decode where
  reads_written := by
    intro frames chunks tail h
    refine readMany_flatten ?_ h tail
    intro f bytes tail hw
    obtain ⟨rfl, hmax⟩ := hwrites hw
    rw [p.readFrame_frame codec hmax (by omega), FrameProtocol.safeDecode, hcodec]
    rfl
  decode_iff_read := hdecode
  rejects_cut := by
    intro f bytes cut hw hcut hne
    obtain ⟨rfl, hmax⟩ := hwrites hw
    obtain ⟨e, he⟩ := p.readFrame_cut codec (by omega) hcut hne
    refine ⟨⟨e, he⟩, ?_⟩
    cases hbuf : decode cut with
    | error e' => exact ⟨e', rfl⟩
    | ok f' =>
      obtain ⟨rest, hrest⟩ := (hdecode cut f').mp hbuf
      rw [he] at hrest
      cases hrest
  not_preamble := by
    intro f bytes tail hw
    obtain ⟨rfl, hmax⟩ := hwrites hw
    exact frame_not_preamble (by omega) tail

/-- Both protocols keep the laws, on every writer, if bitcode decoding inverts its encoding. -/
theorem frames_survive_the_wire {W : Type} [AsyncWrite W] (tunnel : Bitcode TunnelFrame)
    (ingress : Bitcode Envelope)
    (htunnel : ∀ f, tunnel.decode (tunnel.encode f) = .ok f)
    (hingress : ∀ f, ingress.decode (ingress.encode f) = .ok f) :
    FrameLaws (Writes (TunnelProtocol.writeFrame (W := W) tunnel))
        (TunnelProtocol.readFrame tunnel) (TunnelProtocol.decode tunnel) ∧
      FrameLaws (Writes (IngressProtocol.writeFrame (W := W) ingress))
        (IngressProtocol.readFrame ingress) (IngressProtocol.decode ingress) := by
  constructor
  · exact .of_writes TunnelProtocol.protocol tunnel htunnel (by decide)
      TunnelProtocol.writeFrame_writes (TunnelProtocol.decode_ok_iff tunnel)
  · exact .of_writes IngressProtocol.protocol ingress hingress (by decide)
      IngressProtocol.writeFrame_writes (IngressProtocol.decode_ok_iff ingress)

/-! ## A codec that inverts itself

The assumption on bitcode can be met: frames are countable, so each can have a payload length of its
own. -/

instance {cap : Nat} : Countable (ArrayString cap) :=
  Function.Injective.countable (f := ArrayString.bytes) fun a b h => by
    cases a
    cases b
    simpa using h

instance countableOctets {n : Nat} : Countable (Vector UInt8 n) :=
  Function.Injective.countable (f := Vector.toList) fun _ _ h => Vector.toList_inj.mp h

deriving instance Countable for TunnelFrame
deriving instance Countable for Peer
deriving instance Countable for Datagram
deriving instance Countable for Envelope

namespace Bitcode

variable {F : Type} [Countable F]

/-- A number for each frame, and zero for `short`. -/
noncomputable def index (short f : F) : Nat :=
  let number := (exists_injective_nat F).choose
  Equiv.swap (number short) 0 (number f)

variable (short : F)

theorem index_injective : Function.Injective (index short) :=
  (Equiv.injective _).comp (exists_injective_nat F).choose_spec

@[simp] theorem index_self : index short short = 0 := Equiv.swap_apply_left _ _

open Classical in
/-- Frames as runs of zero bytes. -/
noncomputable def unary (short : F) : Bitcode F where
  encode f := List.replicate (index short f) 0
  decode payload :=
    if h : ∃ f, index short f = payload.length then .ok h.choose else .err "no such frame"

theorem decode_encode_unary (f : F) : (unary short).decode ((unary short).encode f) = .ok f := by
  have hex : ∃ f', index short f' = (List.replicate (index short f) (0 : UInt8)).length :=
    ⟨f, (List.length_replicate ..).symm⟩
  have hchoose : hex.choose = f := by
    apply index_injective short
    rw [hex.choose_spec, List.length_replicate]
  exact (dif_pos hex).trans (congrArg Decoded.ok hchoose)

@[simp] theorem encode_unary_self : (unary short).encode short = [] := by
  show List.replicate (index short short) (0 : UInt8) = []
  rw [index_self, List.replicate_zero]

end Bitcode

/-- Two acknowledgements, and an empty batch, read back from in front of three more bytes. -/
theorem short_frames_survive_the_wire :
    readMany (TunnelProtocol.readFrame (.unary .heartbeatAck)) 2 [0, 0, 0, 0, 0, 0, 0, 0, 7, 8, 9] =
        .ok ([.heartbeatAck, .heartbeatAck], [7, 8, 9]) ∧
      readMany (IngressProtocol.readFrame (.unary (.batch []))) 1 [0, 0, 0, 0, 7, 8, 9] =
        .ok ([.batch []], [7, 8, 9]) := by
  have hack : Writes (W := Bytes) (TunnelProtocol.writeFrame (.unary .heartbeatAck)) .heartbeatAck
      [0, 0, 0, 0] := by
    refine ⟨[], [0, 0, 0, 0], ?_, rfl⟩
    simp only [TunnelProtocol.writeFrame, Bitcode.encode_unary_self]
    rfl
  have hbatch : Writes (W := Bytes) (IngressProtocol.writeFrame (.unary (.batch []))) (.batch [])
      [0, 0, 0, 0] := by
    refine ⟨[], [0, 0, 0, 0], ?_, rfl⟩
    simp only [IngressProtocol.writeFrame, IngressProtocol.encode, Bitcode.encode_unary_self]
    rfl
  have laws := frames_survive_the_wire (W := Bytes) (.unary .heartbeatAck) (.unary (.batch []))
    (Bitcode.decode_encode_unary _) (Bitcode.decode_encode_unary _)
  constructor
  · exact laws.1.reads_written _ _ [7, 8, 9] (.cons hack (.cons hack .nil))
  · exact laws.2.reads_written _ _ [7, 8, 9] (.cons hbatch .nil)

end Reduction
