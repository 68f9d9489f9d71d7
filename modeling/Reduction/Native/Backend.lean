import Reduction.ForStd.Float
import Reduction.Native.Types

/-!
# Backends and errors

Model of `src/config/types/backend.rs`, of `src/error.rs`, and of the socket
addresses that the standard library provides.
-/

namespace Reduction

/-! ## Addresses -/

inductive IpAddr where
  | v4 (octets : Vector UInt8 4)
  | v6 (segments : Vector UInt16 8)
deriving DecidableEq

structure SocketAddr where
  ip : IpAddr
  port : UInt16
deriving DecidableEq

namespace IpAddr

/-- The two bytes of a segment, in network order. -/
def segmentBytes (s : UInt16) : Bytes := [(s >>> 8).toUInt8, s.toUInt8]

/-- `to_ipv4_mapped`: the IPv4 address inside `::ffff:a.b.c.d`. -/
def toIpv4Mapped (segments : Vector UInt16 8) : Option (Vector UInt8 4) :=
  if segments.toList.take 6 = [0, 0, 0, 0, 0, 0xffff] then
    some #v[(segments[6] >>> 8).toUInt8, segments[6].toUInt8,
      (segments[7] >>> 8).toUInt8, segments[7].toUInt8]
  else
    none

/-- `to_canonical`: IPv4-mapped addresses become IPv4 addresses. -/
def toCanonical : IpAddr → IpAddr
  | v4 octets => v4 octets
  | v6 segments =>
    match toIpv4Mapped segments with
    | some octets => v4 octets
    | none => v6 segments

def octets : IpAddr → Bytes
  | v4 octets => octets.toList
  | v6 segments => segments.toList.flatMap segmentBytes

def v4Text (octets : Vector UInt8 4) : Bytes :=
  (Bytes.ascii ".").intercalate (octets.toList.map fun o => Bytes.decimal o.toNat)

def segmentsText (segments : List UInt16) : Bytes :=
  (Bytes.ascii ":").intercalate (segments.map fun s => Bytes.hex s.toNat)

/-- The first longest run of zero segments, as start and length. -/
def longestZeros (segments : List UInt16) : Nat × Nat :=
  let scan := segments.zipIdx.foldl
    (fun (acc : (Nat × Nat) × (Nat × Nat)) (s : UInt16 × Nat) =>
      let (longest, current) := acc
      if s.1 = 0 then
        let current := (if current.2 = 0 then s.2 else current.1, current.2 + 1)
        (if current.2 > longest.2 then current else longest, current)
      else
        (longest, (0, 0)))
    ((0, 0), (0, 0))
  scan.1

/-- `Display for IpAddr`. -/
def toText : IpAddr → Bytes
  | v4 octets => v4Text octets
  | v6 segments =>
    match toIpv4Mapped segments with
    | some octets => Bytes.ascii "::ffff:" ++ v4Text octets
    | none =>
      let segs := segments.toList
      let (start, len) := longestZeros segs
      if len > 1 then
        segmentsText (segs.take start) ++ Bytes.ascii "::" ++ segmentsText (segs.drop (start + len))
      else
        segmentsText segs

/-- `127.0.0.1`. -/
def localhost : IpAddr := v4 #v[127, 0, 0, 1]

end IpAddr

/-! ## Backends -/

inductive TransportKind where
  | tcp
  | quic
deriving DecidableEq

inductive BackendScheme where
  | https
  | http
deriving DecidableEq

structure BackendConfig where
  id : BackendId
  pool : ArrayString 32
  address : SocketAddr
  host : Bytes
  weight : F64
  transport : TransportKind
  scheme : BackendScheme
  maxConnections : UInt32
  -- a control plane may start the backend on demand, so that a miss is a cold start
  wakeable : Bool
deriving DecidableEq

/-! ## Errors -/

/-- The variants that wrap an error of another crate carry its message. -/
inductive ReductionError where
  | config (msg : String)
  | configParse (msg : String)
  | tls (msg : String)
  | identity (msg : String)
  | io (msg : String)
  | transport (msg : String)
  | backendUnavailable
  | queueFull
  | rateLimited
  | accessDenied
  | forward (msg : String)
  | circuitOpen (backend : String)
  | connectTunnel (msg : String)
  | tunnel (msg : String)
  | noBackendSession (backend : String)
  | ingress (msg : String)
  | acme (msg : String)
deriving DecidableEq

namespace ReductionError

/-- `Display for ReductionError`. -/
def display : ReductionError → String
  | config msg => "config: " ++ msg
  | configParse msg => "config parse: " ++ msg
  | tls msg => "tls: " ++ msg
  | identity msg => "identity: " ++ msg
  | io msg => "io: " ++ msg
  | transport msg => "transport: " ++ msg
  | backendUnavailable => "backend unavailable"
  | queueFull => "queue full"
  | rateLimited => "rate limited"
  | accessDenied => "access denied"
  | forward msg => "forward: " ++ msg
  | circuitOpen backend => "circuit open for backend " ++ backend
  | connectTunnel msg => "connect tunnel: " ++ msg
  | tunnel msg => "tunnel: " ++ msg
  | noBackendSession backend => "no tunnel sessions for backend " ++ backend
  | ingress msg => "ingress: " ++ msg
  | acme msg => "acme: " ++ msg

/-- The backend could not be reached: for a wakeable one a cold start, not a failure. -/
def isTransportMiss : ReductionError → Bool
  | noBackendSession _ | backendUnavailable | forward _ => true
  | _ => false

end ReductionError

end Reduction
