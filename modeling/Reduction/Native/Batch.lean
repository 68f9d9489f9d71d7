import Reduction.Native.Protocol

/-!
# Batches of datagrams

Model of `src/ingress/batch.rs`: the datagrams that wait for one backend, and
the three conditions under which they are handed off.
-/

namespace Reduction

inductive FlushReason where
  | count
  | bytes
  | linger
deriving DecidableEq

structure BatchLimits where
  maxDatagrams : UInt32
  maxBytes : UInt32
  linger : Duration
deriving DecidableEq

/-- The payload of datagrams, without their envelope. -/
def payloadSize (datagrams : List Datagram) : Nat := (datagrams.map fun d => d.payload.length).sum

/-- The byte count follows the datagrams, and the clock runs while there are any. -/
structure Batch where
  datagrams : List Datagram
  payloadBytes : Nat
  openedAt : Option Instant
  payload_eq : payloadBytes = payloadSize datagrams
  opened_iff : openedAt.isSome ↔ datagrams ≠ []

namespace Batch

def new : Batch :=
  { datagrams := []
    payloadBytes := 0
    openedAt := none
    payload_eq := rfl
    opened_iff := by simp }

def isEmpty (b : Batch) : Bool := b.datagrams.isEmpty

def len (b : Batch) : Nat := b.datagrams.length

/-- `push`: the first datagram starts the clock. -/
def push (b : Batch) (now : Instant) (datagram : Datagram) : Batch :=
  { datagrams := b.datagrams ++ [datagram]
    payloadBytes := b.payloadBytes + datagram.payload.length
    openedAt := if b.datagrams.isEmpty then some now else b.openedAt
    payload_eq := by simp [b.payload_eq, payloadSize]
    opened_iff := by
      have := b.opened_iff
      cases hb : b.datagrams <;> simp_all }

/-- `fill_flush`: the count is looked at before the bytes. -/
def fillFlush (b : Batch) (limits : BatchLimits) : Option FlushReason :=
  if b.datagrams.isEmpty then
    none
  else if limits.maxDatagrams.toNat ≤ b.datagrams.length then
    some .count
  else if limits.maxBytes.toNat ≤ b.payloadBytes then
    some .bytes
  else
    none

def lingerExpired (b : Batch) (limits : BatchLimits) (now : Instant) : Bool :=
  match b.openedAt with
  | some opened => limits.linger ≤ now - opened
  | none => false

/-- `take`: the datagrams, and the batch without them. -/
def take (b : Batch) : Batch × List Datagram := (new, b.datagrams)

end Batch

end Reduction
