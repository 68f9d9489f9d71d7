import Reduction.Native.Backend

/-!
# Access control

Model of `src/acl.rs`, and of the CIDR networks of the `ipnet` crate.
-/

namespace Reduction

namespace IpAddr

/-- The address as a number, in network order. -/
def toBits : IpAddr → Nat
  | v4 octets => octets.toList.foldl (fun acc o => acc * 2 ^ 8 + o.toNat) 0
  | v6 segments => segments.toList.foldl (fun acc s => acc * 2 ^ 16 + s.toNat) 0

end IpAddr

/-- A network: an address, which may have host bits set, and a number of leading bits. -/
inductive IpNet where
  | v4 (addr : Vector UInt8 4) (len : Fin 33)
  | v6 (addr : Vector UInt16 8) (len : Fin 129)
deriving DecidableEq

namespace IpNet

/-- `network() <= ip && ip <= broadcast()`, for addresses of `width` bits. -/
def covers (width len addr ip : Nat) : Bool :=
  let size := 2 ^ (width - len)
  let network := addr / size * size
  network ≤ ip && ip ≤ network + (size - 1)

/-- `contains`: a network holds addresses of its own family only. -/
def contains (net : IpNet) (ip : IpAddr) : Bool :=
  match net, ip with
  | v4 addr len, .v4 _ => covers 32 len (IpAddr.v4 addr).toBits ip.toBits
  | v6 addr len, .v6 _ => covers 128 len (IpAddr.v6 addr).toBits ip.toBits
  | _, _ => false

end IpNet

/-- `IPV4_MAPPED_PREFIX_BITS`. -/
def ipv4MappedPrefixBits : Nat := 96

/-- `canonicalize_net`: `::ffff:a.b.c.d/N` becomes `a.b.c.d/(N-96)`. -/
def canonicalizeNet (net : IpNet) : IpNet :=
  match net with
  | .v4 _ _ => net
  | .v6 addr len =>
    if len.val < ipv4MappedPrefixBits then
      net
    else
      match IpAddr.toIpv4Mapped addr with
      | some mapped =>
        -- `Ipv4Net::new` takes at most 32 bits, and `N` is at most 128
        .v4 mapped ⟨len.val - ipv4MappedPrefixBits, by unfold ipv4MappedPrefixBits; omega⟩
      | none => net

structure AccessControl where
  allow : List IpNet
  deny : List IpNet
deriving DecidableEq

namespace AccessControl

def new (allow deny : List IpNet) : AccessControl :=
  { allow := allow.map canonicalizeNet, deny := deny.map canonicalizeNet }

def isAllowed (acl : AccessControl) (ip : IpAddr) : Bool := acl.allow.any fun net => net.contains ip

def isDenied (acl : AccessControl) (ip : IpAddr) : Bool := acl.deny.any fun net => net.contains ip

/-- `check`: the deny list goes first, and an allow list makes membership mandatory. -/
def check (acl : AccessControl) (ip : IpAddr) : Except ReductionError Unit :=
  let ip := ip.toCanonical
  if acl.isDenied ip then
    .error .accessDenied
  else if !acl.allow.isEmpty && !acl.isAllowed ip then
    .error .accessDenied
  else
    .ok ()

end AccessControl

end Reduction
