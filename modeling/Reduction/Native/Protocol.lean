import Reduction.ForStd.Framing
import Reduction.Native.Registry

/-!
# The framed protocols

Model of `src/tunnel/protocol.rs` and `src/ingress/protocol.rs`: a preamble of
magic and version, then frames of a big-endian length and a bitcode payload.

The two protocols share the preamble, `safe_decode` and `read_frame`, up to the
magic and the error variant.  They check lengths in different orders in `encode`
and `decode`, and write frames in different pieces, so each has its own.

The bitcode crate is a parameter.
-/

namespace Reduction

open Framing

/-! ## What the protocols share -/

/-- What comes of a call of `bitcode::decode` under `catch_unwind`. -/
inductive Decoded (F : Type) where
  | panicked
  | err (msg : String)
  | ok (frame : F)

structure Bitcode (F : Type) where
  encode : F → Bytes
  decode : Bytes → Decoded F

/-- `LENGTH_PREFIX_SIZE`. -/
def lengthPrefixSize : Nat := 4

/-- `PREAMBLE_LEN`. -/
def preambleLen : Nat := 5

/-- `PROTOCOL_VERSION`, the same in both protocols. -/
def protocolVersion : UInt8 := 1

/-- In what the shared functions differ. -/
structure FrameProtocol where
  /-- The variant of `ReductionError`. -/
  error : String → ReductionError
  /-- `PROTOCOL_MAGIC`. -/
  magic : Bytes
  badMagic : String
  maxFrame : Nat

namespace FrameProtocol

variable (p : FrameProtocol)

/-- `map_err`, with the message behind a label. -/
def mapErr {α : Type} (label : String) : Except String α → Except ReductionError α
  | .ok a => .ok a
  | .error e => .error (p.error (label ++ ": " ++ e))

def writePreamble {W : Type} [AsyncWrite W] (w : W) : Except ReductionError W := do
  let w ← p.mapErr "write preamble" (AsyncWrite.writeAll w (p.magic ++ [protocolVersion]))
  p.mapErr "flush preamble" (AsyncWrite.flush w)

/-- `read_preamble`: the peer's version, if it speaks the protocol at all. -/
def readPreamble (stream : Bytes) : Except ReductionError (UInt8 × Bytes) := do
  let (buf, rest) ← p.mapErr "read preamble" (readExact preambleLen stream)
  if buf.take p.magic.length ≠ p.magic then
    .error (p.error p.badMagic)
  else
    .ok (buf.getD p.magic.length 0, rest)

def safeDecode {F : Type} (codec : Bitcode F) (payload : Bytes) : Except ReductionError F :=
  match codec.decode payload with
  | .panicked => .error (p.error "decode panic (possibly oversized field)")
  | .err msg => .error (p.error ("decode error: " ++ msg))
  | .ok frame => .ok frame

def tooLarge (len : UInt32) : ReductionError :=
  p.error ("frame too large: " ++ toString len ++ " bytes")

def truncated (expectedTotal got : Nat) : ReductionError :=
  p.error
    ("frame truncated: expected " ++ toString expectedTotal ++ " bytes, got " ++ toString got)

/-- `read_frame` behind the length: the limit is checked before the payload is waited for. -/
def readPayload {F : Type} (codec : Bitcode F) (len : UInt32) (stream : Bytes) :
    Except ReductionError (F × Bytes) :=
  if p.maxFrame < len.toNat then
    .error (p.tooLarge len)
  else do
    let (payload, rest) ← p.mapErr "read payload" (readExact len.toNat stream)
    let frame ← p.safeDecode codec payload
    .ok (frame, rest)

def readFrame {F : Type} (codec : Bitcode F) (stream : Bytes) :
    Except ReductionError (F × Bytes) := do
  let (lenBuf, rest) ← p.mapErr "read length" (readExact lengthPrefixSize stream)
  p.readPayload codec (fromBeBytes lenBuf) rest

end FrameProtocol

/-! ## The tunnel protocol -/

/-- `ArrayVec<T, CAP>`. -/
abbrev ArrayVec (α : Type) (cap : Nat) := { items : List α // items.length ≤ cap }

inductive TunnelFrame where
  | register (backendId : BackendId) (pool : ArrayString 32)
      (capabilities : ArrayVec (ArrayString 8) 4)
  | registerAck (sessionId : SessionId)
  | heartbeat (timestampMs : UInt64)
  | heartbeatAck
  | newStream (streamId : UInt64)
  | health (backendId : BackendId) (available : Bool)
  | wake (backendId : BackendId) (timeoutMs : UInt64)
  | refuseWake (backendId : BackendId)
  | shutdown (reason : ArrayString 64)
deriving DecidableEq

namespace TunnelProtocol

/-- `MAX_FRAME_SIZE`. -/
def maxFrameSize : Nat := 64 * 1024

def protocol : FrameProtocol :=
  { error := .tunnel
    magic := Bytes.ascii "RDTN"
    badMagic := "bad protocol magic: peer is not a reduction tunnel endpoint"
    maxFrame := maxFrameSize }

def writePreamble {W : Type} [AsyncWrite W] (w : W) : Except ReductionError W :=
  protocol.writePreamble w

def readPreamble (stream : Bytes) : Except ReductionError (UInt8 × Bytes) :=
  protocol.readPreamble stream

/-- The two checks that `encode` and `write_frame` make: the length as a `u32` first. -/
def frameLen (payload : Bytes) : Except ReductionError UInt32 :=
  if 2 ^ 32 ≤ payload.length then
    .error (.tunnel ("frame payload too large: " ++ toString payload.length ++ " bytes"))
  else
    let len := UInt32.ofNat payload.length
    if maxFrameSize < payload.length then .error (protocol.tooLarge len) else .ok len

def encode (codec : Bitcode TunnelFrame) (frame : TunnelFrame) : Except ReductionError Bytes := do
  let payload := codec.encode frame
  let len ← frameLen payload
  .ok (toBeBytes len ++ payload)

def decode (codec : Bitcode TunnelFrame) (buf : Bytes) : Except ReductionError TunnelFrame :=
  if buf.length < lengthPrefixSize then
    .error (.tunnel "frame too short for length prefix")
  else
    let len := fromBeBytes (buf.take lengthPrefixSize)
    let expectedTotal := lengthPrefixSize + len.toNat
    -- here the buffer is measured before the declared length is
    if buf.length < expectedTotal then
      .error (protocol.truncated expectedTotal buf.length)
    else if maxFrameSize < len.toNat then
      .error (protocol.tooLarge len)
    else
      protocol.safeDecode codec ((buf.take expectedTotal).drop lengthPrefixSize)

def readFrame (codec : Bitcode TunnelFrame) (stream : Bytes) :
    Except ReductionError (TunnelFrame × Bytes) :=
  protocol.readFrame codec stream

/-- `write_frame`: length and payload are two writes. -/
def writeFrame {W : Type} [AsyncWrite W] (codec : Bitcode TunnelFrame) (w : W)
    (frame : TunnelFrame) : Except ReductionError W := do
  let payload := codec.encode frame
  let len ← frameLen payload
  let w ← protocol.mapErr "write length" (AsyncWrite.writeAll w (toBeBytes len))
  let w ← protocol.mapErr "write payload" (AsyncWrite.writeAll w payload)
  protocol.mapErr "flush" (AsyncWrite.flush w)

end TunnelProtocol

/-! ## The ingress protocol -/

/-- The original peer of a datagram, its IP in 16 bytes. -/
structure Peer where
  ip : Vector UInt8 16
  port : UInt16
deriving DecidableEq

namespace Peer

theorem octet_lt (i : Fin 16) (h : 12 ≤ i.val) : i.val - 12 < 4 := by omega

theorem segment_lt (i : Fin 16) : i.val / 2 < 8 := by omega

/-- The 16 bytes of an address; an IPv4 address goes in as `::ffff:a.b.c.d`. -/
def ipOctets : IpAddr → Vector UInt8 16
  | .v4 octets =>
    Vector.ofFn fun i : Fin 16 =>
      if h : 12 ≤ i.val then octets.get ⟨i.val - 12, octet_lt i h⟩
      else if 10 ≤ i.val then 0xff else 0
  | .v6 segments =>
    Vector.ofFn fun i : Fin 16 =>
      let segment := segments.get ⟨i.val / 2, segment_lt i⟩
      if i.val % 2 = 0 then (segment >>> 8).toUInt8 else segment.toUInt8

/-- `from_socket_addr`. -/
def fromSocketAddr (addr : SocketAddr) : Peer := { ip := ipOctets addr.ip, port := addr.port }

end Peer

structure Datagram where
  peer : Peer
  recvAtUnixNanos : UInt64
  payload : Bytes
deriving DecidableEq

inductive Envelope where
  | hello (ingressId : ArrayString 64) (worker : UInt16)
  | batch (datagrams : List Datagram)
  | open (peer : Peer)
deriving DecidableEq

namespace IngressProtocol

/-- `MAX_ENVELOPE_FRAME`. -/
def maxEnvelopeFrame : Nat := 64 * 1024

def protocol : FrameProtocol :=
  { error := .ingress
    magic := Bytes.ascii "RDIG"
    badMagic := "bad protocol magic: peer is not a reduction ingress endpoint"
    maxFrame := maxEnvelopeFrame }

def writePreamble {W : Type} [AsyncWrite W] (w : W) : Except ReductionError W :=
  protocol.writePreamble w

def readPreamble (stream : Bytes) : Except ReductionError (UInt8 × Bytes) :=
  protocol.readPreamble stream

def encode (codec : Bitcode Envelope) (envelope : Envelope) : Except ReductionError Bytes :=
  let payload := codec.encode envelope
  if maxEnvelopeFrame < payload.length then
    .error (.ingress ("envelope frame too large: " ++ toString payload.length ++ " bytes"))
  else if 2 ^ 32 ≤ payload.length then
    .error (.ingress ("envelope payload too large: " ++ toString payload.length ++ " bytes"))
  else
    .ok (toBeBytes (UInt32.ofNat payload.length) ++ payload)

def decode (codec : Bitcode Envelope) (buf : Bytes) : Except ReductionError Envelope :=
  if buf.length < lengthPrefixSize then
    .error (.ingress "frame too short for length prefix")
  else
    let len := fromBeBytes (buf.take lengthPrefixSize)
    -- here the declared length is checked before the buffer is measured against it
    if maxEnvelopeFrame < len.toNat then
      .error (protocol.tooLarge len)
    else
      let expectedTotal := lengthPrefixSize + len.toNat
      if buf.length < expectedTotal then
        .error (protocol.truncated expectedTotal buf.length)
      else
        protocol.safeDecode codec ((buf.take expectedTotal).drop lengthPrefixSize)

def readFrame (codec : Bitcode Envelope) (stream : Bytes) :
    Except ReductionError (Envelope × Bytes) :=
  protocol.readFrame codec stream

/-- `write_frame`: the encoded frame is one write. -/
def writeFrame {W : Type} [AsyncWrite W] (codec : Bitcode Envelope) (w : W)
    (envelope : Envelope) : Except ReductionError W := do
  let frame ← encode codec envelope
  let w ← protocol.mapErr "write frame" (AsyncWrite.writeAll w frame)
  protocol.mapErr "flush frame" (AsyncWrite.flush w)

end IngressProtocol

end Reduction
