import Reduction.ForStd.Numeral
import Reduction.Spec.RendezvousSelection

/-!
# Access decisions in one address space

IPv4 addresses are the block `::ffff:0:0/96` of the 128-bit addresses, and an IPv4
network of `n` leading bits is one of `96 + n`.  Networks hold the addresses of
their own family only, so rules and peers are folded to IPv4 before they are
compared; what comes out is membership in the one address space.

## Key results

* `IpNet.contains_canonical_iff`: what a folded rule holds of a folded peer,
* `access_decided_by_embedding`.
-/

namespace Reduction

open Numeral

/-! ## Addresses -/

namespace IpAddr

/-- The address among the 128-bit ones. -/
def embed : IpAddr → Nat
  | v4 octets => 0xffff * 2 ^ 32 + (v4 octets).toBits
  | v6 segments => (v6 segments).toBits

variable (segments : Vector UInt16 8)

theorem toBits_v6 : (v6 segments).toBits = value UInt16.toNat (2 ^ 16) segments.toList := rfl

variable (octets : Vector UInt8 4)

theorem toBits_v4_lt : (v4 octets).toBits < 2 ^ 32 := by
  have hlt := value_lt (fun o : UInt8 => o.toNat_lt) octets.toList
  rwa [Vector.length_toList] at hlt

theorem embed_v4_div : (v4 octets).embed / 2 ^ 32 = 0xffff := by
  have hlt := toBits_v4_lt octets
  rw [embed]
  omega

/-- The leading 96 bits are the first six segments. -/
theorem toBits_v6_div :
    (v6 segments).toBits / 2 ^ 32 = value UInt16.toNat (2 ^ 16) (segments.toList.take 6) := by
  have hsplit := value_append_div (fun s : UInt16 => s.toNat_lt) (segments.toList.take 6)
    (segments.toList.drop 6)
  rw [List.take_append_drop, List.length_drop, Vector.length_toList] at hsplit
  exact hsplit

/-- An address is IPv4-mapped exactly when it lies in `::ffff:0:0/96`. -/
theorem toIpv4Mapped_isSome_iff :
    (toIpv4Mapped segments).isSome = true ↔ (v6 segments).toBits / 2 ^ 32 = 0xffff := by
  have hvalue : value UInt16.toNat (2 ^ 16) [0, 0, 0, 0, 0, 0xffff] = 0xffff := by decide
  rw [toBits_v6_div, ← hvalue, toIpv4Mapped]
  constructor
  · intro h
    split at h
    case isTrue htake => rw [htake]
    case isFalse => cases h
  · intro h
    have htake := value_inj (fun s : UInt16 => s.toNat_lt) (fun _ _ => UInt16.toNat_inj.mp)
      (by rw [List.length_take, Vector.length_toList]; rfl) h
    rw [if_pos htake]
    rfl

theorem segment_bytes (s : UInt16) :
    (s >>> 8).toUInt8.toNat * 2 ^ 8 + s.toUInt8.toNat = s.toNat := by
  have hlt := s.toNat_lt
  rw [UInt16.toNat_toUInt8, UInt16.toNat_toUInt8, UInt16.toNat_shiftRight,
    show (8 : UInt16).toNat % 16 = 8 from rfl, Nat.shiftRight_eq_div_pow]
  omega

theorem drop_toList {α : Type*} {n : Nat} (xs : Vector α n) (i : Nat) (hi : i < n) :
    xs.toList.drop i = xs[i] :: xs.toList.drop (i + 1) := by
  have hlength := xs.length_toList
  rw [List.drop_eq_getElem_cons (by omega), Vector.getElem_toList]

/-- A mapped address and the IPv4 address inside it are one. -/
theorem embed_of_toIpv4Mapped {segments : Vector UInt16 8} {octets : Vector UInt8 4}
    (h : toIpv4Mapped segments = some octets) : (v6 segments).embed = (v4 octets).embed := by
  have hhigh := (toIpv4Mapped_isSome_iff segments).mp (by rw [h]; rfl)
  have hlow : (v6 segments).toBits % 2 ^ 32 = (v4 octets).toBits := by
    have hsix := segment_bytes segments[6]
    have hseven := segment_bytes segments[7]
    have hbits : (v6 segments).toBits =
        value UInt16.toNat (2 ^ 16) (segments.toList.take 6) * 2 ^ 32 +
          (segments[6].toNat * 2 ^ 16 + segments[7].toNat) := by
      have happend := @value_append _ UInt16.toNat (2 ^ 16)
        (segments.toList.take 6) (segments.toList.drop 6)
      rw [List.take_append_drop, drop_toList _ 6 (by decide), drop_toList _ 7 (by decide),
        List.drop_of_length_le (Nat.le_of_eq segments.length_toList)] at happend
      rw [toBits_v6, happend]
      simp [value]
    unfold toIpv4Mapped at h
    split at h
    case isTrue =>
      cases h
      have hbound := segments[6].toNat_lt
      have hbound' := segments[7].toNat_lt
      rw [hbits]
      simp only [toBits, Vector.toList_mk, List.foldl_cons, List.foldl_nil]
      omega
    case isFalse => cases h
  rw [embed, embed]
  omega

theorem embed_toCanonical (ip : IpAddr) : ip.toCanonical.embed = ip.embed := by
  cases ip with
  | v4 octets => rfl
  | v6 segments =>
    cases h : toIpv4Mapped segments with
    | none => simp only [toCanonical, h]
    | some octets =>
      simp only [toCanonical, h]
      exact (embed_of_toIpv4Mapped h).symm

/-- An address that is still IPv6 is not in the IPv4 block. -/
theorem toBits_div_of_toCanonical {ip : IpAddr} {segments : Vector UInt16 8}
    (h : ip.toCanonical = v6 segments) : (v6 segments).toBits / 2 ^ 32 ≠ 0xffff := by
  cases ip with
  | v4 octets => cases h
  | v6 segments' =>
    cases hmapped : toIpv4Mapped segments' with
    | some octets =>
      simp only [toCanonical, hmapped] at h
      cases h
    | none =>
      simp only [toCanonical, hmapped] at h
      cases h
      intro hblock
      have hsome := (toIpv4Mapped_isSome_iff segments).mpr hblock
      rw [hmapped] at hsome
      cases hsome

end IpAddr

/-! ## Networks -/

namespace IpNet

/-- The address of the network among the 128-bit ones, and its leading bits. -/
def embed : IpNet → Nat × Nat
  | v4 addr len => ((IpAddr.v4 addr).embed, 96 + len.val)
  | v6 addr len => ((IpAddr.v6 addr).embed, len.val)

/-- An address lies in a network: their leading bits are equal. -/
def InLeading (net : Nat × Nat) (ip : Nat) : Prop :=
  ip / 2 ^ (128 - net.2) = net.1 / 2 ^ (128 - net.2)

def Holds (net : IpNet) (ip : Nat) : Prop := InLeading net.embed ip

instance decidableHolds (net : IpNet) (ip : Nat) : Decidable (net.Holds ip) :=
  inferInstanceAs (Decidable (_ / _ = _ / _))

/-- The network is wider than `::ffff:0:0/96` and holds all of it. -/
def CoversMapped (net : IpNet) : Prop :=
  net.embed.2 < 96 ∧ ∀ octets, net.Holds (IpAddr.v4 octets).embed

theorem covers_iff {width len addr ip : Nat} :
    covers width len addr ip = true ↔ ip / 2 ^ (width - len) = addr / 2 ^ (width - len) := by
  have hpos : 0 < 2 ^ (width - len) := Nat.two_pow_pos _
  rw [Nat.div_eq_iff hpos]
  simp only [covers, Bool.and_eq_true, decide_eq_true_eq]
  omega

/-- Addresses that agree in their leading bits agree in fewer of them. -/
theorem div_eq_of_le {a b k m : Nat} (hle : k ≤ m) (h : a / 2 ^ k = b / 2 ^ k) :
    a / 2 ^ m = b / 2 ^ m := by
  obtain ⟨d, rfl⟩ := Nat.exists_eq_add_of_le hle
  rw [pow_add, ← Nat.div_div_eq_div_mul, ← Nat.div_div_eq_div_mul, h]

variable (net : IpNet)

theorem embed_canonicalizeNet : (canonicalizeNet net).embed = net.embed := by
  cases net with
  | v4 addr len => rfl
  | v6 addr len =>
    unfold canonicalizeNet
    dsimp only
    split
    · rfl
    case isFalse hlen =>
      cases h : IpAddr.toIpv4Mapped addr with
      | none => rfl
      | some mapped =>
        simp only [embed, IpAddr.embed_of_toIpv4Mapped h, Prod.mk.injEq, true_and]
        rw [ipv4MappedPrefixBits] at hlen ⊢
        omega

/-- What a folded rule is. -/
theorem canonicalizeNet_cases :
    (∃ addr len, canonicalizeNet net = v4 addr len) ∨
      ∃ addr len, canonicalizeNet net = v6 addr len ∧
        (len.val < 96 ∨ IpAddr.toIpv4Mapped addr = none) := by
  cases net with
  | v4 addr len => exact .inl ⟨addr, len, rfl⟩
  | v6 addr len =>
    unfold canonicalizeNet
    dsimp only
    split
    case isTrue hlen => exact .inr ⟨addr, len, rfl, .inl hlen⟩
    case isFalse =>
      cases h : IpAddr.toIpv4Mapped addr with
      | none => exact .inr ⟨addr, len, rfl, .inr h⟩
      | some mapped => exact .inl ⟨_, _, rfl⟩

/-- In the IPv4 block, the leading bits of a network are those behind the first 96. -/
theorem holds_v4_iff {addr ip : Vector UInt8 4} {len : Fin 33} :
    (v4 addr len).Holds (IpAddr.v4 ip).embed ↔
      (IpAddr.v4 ip).toBits / 2 ^ (32 - len.val) = (IpAddr.v4 addr).toBits / 2 ^ (32 - len.val) := by
  have hwidth : 128 - (96 + len.val) = 32 - len.val := by omega
  have hpos : 0 < 2 ^ (32 - len.val) := Nat.two_pow_pos _
  have hblock : 0xffff * 2 ^ 32 = 2 ^ (32 - len.val) * (0xffff * 2 ^ len.val) := by
    rw [Nat.mul_left_comm, ← pow_add, Nat.sub_add_cancel (by omega)]
  simp only [Holds, InLeading, embed, IpAddr.embed]
  rw [hwidth, hblock, Nat.mul_add_div hpos, Nat.mul_add_div hpos, Nat.add_left_cancel_iff]

/-- Folded rules hold the folded peers that lie in them. -/
theorem contains_canonical_iff {net : IpNet} (hnet : ¬ net.CoversMapped) (ip : IpAddr) :
    (canonicalizeNet net).contains ip.toCanonical = true ↔ net.Holds ip.embed := by
  have hholds : net.Holds ip.embed ↔ (canonicalizeNet net).Holds ip.toCanonical.embed := by
    rw [Holds, Holds, embed_canonicalizeNet, IpAddr.embed_toCanonical]
  have hcovers : ¬ (canonicalizeNet net).CoversMapped := by
    rw [CoversMapped] at hnet ⊢
    simpa only [Holds, embed_canonicalizeNet] using hnet
  have houtside : ∀ segments, ip.toCanonical = .v6 segments →
      (IpAddr.v6 segments).toBits / 2 ^ 32 ≠ 0xffff :=
    fun segments h => IpAddr.toBits_div_of_toCanonical h
  rw [hholds]
  generalize ip.toCanonical = ip' at houtside ⊢
  rcases canonicalizeNet_cases net with ⟨addr, len, hfolded⟩ | ⟨addr, len, hfolded, hshape⟩
  · rw [hfolded]
    cases ip' with
    | v4 octets => rw [holds_v4_iff, contains, covers_iff]
    | v6 segments =>
      refine iff_of_false (by simp [contains]) fun hheld => houtside segments rfl ?_
      have hblock : (IpAddr.v6 segments).embed / 2 ^ 32 = (IpAddr.v4 addr).embed / 2 ^ 32 :=
        div_eq_of_le (show 128 - (96 + len.val) ≤ 32 by omega) hheld
      rwa [IpAddr.embed_v4_div] at hblock
  · rw [hfolded] at hcovers ⊢
    cases ip' with
    | v6 segments => rw [contains, covers_iff]; rfl
    | v4 octets =>
      refine iff_of_false (by simp [contains]) fun hheld => ?_
      by_cases hlen : len.val < 96
      · -- with fewer than 96 bits, one address of the block brings in all
        refine hcovers ⟨hlen, fun octets' => ?_⟩
        have hsame : (IpAddr.v4 octets').embed / 2 ^ 32 = (IpAddr.v4 octets).embed / 2 ^ 32 := by
          rw [IpAddr.embed_v4_div, IpAddr.embed_v4_div]
        have hle : 32 ≤ 128 - (v6 addr len).embed.2 := by
          show 32 ≤ 128 - len.val
          omega
        exact (div_eq_of_le hle hsame).trans hheld
      · have hblock : (IpAddr.v4 octets).embed / 2 ^ 32 = (IpAddr.v6 addr).embed / 2 ^ 32 := by
          refine div_eq_of_le ?_ hheld
          show 128 - len.val ≤ 32
          omega
        rw [IpAddr.embed_v4_div] at hblock
        have hsome := (IpAddr.toIpv4Mapped_isSome_iff addr).mpr hblock.symm
        rcases hshape with hshort | hnone
        · exact hlen hshort
        · rw [hnone] at hsome
          cases hsome

end IpNet

/-! ## Decisions -/

namespace AccessControl

variable (acl : AccessControl) (ip : IpAddr)

theorem check_cases : acl.check ip = .ok () ∨ acl.check ip = .error .accessDenied := by
  unfold check
  dsimp only
  split
  · exact .inr rfl
  · split
    · exact .inr rfl
    · exact .inl rfl

/-- There is only one way to refuse. -/
theorem check_congr {acl acl' : AccessControl} {ip ip' : IpAddr}
    (h : acl.check ip = .ok () ↔ acl'.check ip' = .ok ()) : acl.check ip = acl'.check ip' := by
  rcases acl.check_cases ip with hok | hdenied
  · rw [hok, h.mp hok]
  · rcases acl'.check_cases ip' with hok' | hdenied'
    · have hok := h.mpr hok'
      rw [hdenied] at hok
      cases hok
    · rw [hdenied, hdenied']

theorem check_eq_ok :
    acl.check ip = .ok () ↔ acl.isDenied ip.toCanonical = false ∧
      (acl.allow ≠ [] → acl.isAllowed ip.toCanonical = true) := by
  unfold check
  dsimp only
  cases acl.isDenied ip.toCanonical with
  | true => simp
  | false =>
    cases acl.isAllowed ip.toCanonical with
    | true => simp
    | false => simp

end AccessControl

/-- The decision in the one address space, for networks given by address and leading bits. -/
def Admits (allow deny : List (Nat × Nat)) (ip : Nat) : Prop :=
  (∀ net ∈ deny, ¬ IpNet.InLeading net ip) ∧ (allow ≠ [] → ∃ net ∈ allow, IpNet.InLeading net ip)

theorem any_canonicalizeNet_iff {nets : List IpNet} (hnets : ∀ net ∈ nets, ¬ net.CoversMapped)
    (ip : IpAddr) :
    (nets.map canonicalizeNet).any (fun net => net.contains ip.toCanonical) = true ↔
      ∃ net ∈ nets.map IpNet.embed, IpNet.InLeading net ip.embed := by
  rw [List.any_map, List.any_eq_true]
  simp only [List.mem_map, exists_exists_and_eq_and]
  refine exists_congr fun net => and_congr_right fun hmem => ?_
  exact IpNet.contains_canonical_iff (hnets net hmem) ip

theorem check_new_iff {allow deny : List IpNet} (hallow : ∀ net ∈ allow, ¬ net.CoversMapped)
    (hdeny : ∀ net ∈ deny, ¬ net.CoversMapped) (ip : IpAddr) :
    (AccessControl.new allow deny).check ip = .ok () ↔
      Admits (allow.map IpNet.embed) (deny.map IpNet.embed) ip.embed := by
  have hempty : (AccessControl.new allow deny).allow ≠ [] ↔ allow.map IpNet.embed ≠ [] := by
    simp [AccessControl.new]
  rw [AccessControl.check_eq_ok, Admits, hempty]
  refine and_congr ?_ (imp_congr_right fun _ => any_canonicalizeNet_iff hallow ip)
  rw [← Bool.not_eq_true, AccessControl.isDenied, AccessControl.new,
    any_canonicalizeNet_iff hdeny ip]
  simp only [not_exists, not_and]

/-- How the rules of a configuration decide. -/
structure DecidesByEmbedding (allow deny : List IpNet) : Prop where
  decides : ∀ ip : IpAddr, (AccessControl.new allow deny).check ip = .ok () ↔
    Admits (allow.map IpNet.embed) (deny.map IpNet.embed) ip.embed
  /-- The notation of a peer does not matter. -/
  peers : ∀ octets, (AccessControl.new allow deny).check (.v4 octets) =
    (AccessControl.new allow deny).check (.v6 (IpAddr.toIpv6Mapped octets))
  /-- The notation of the rules does not matter. -/
  rules : ∀ allow' deny', allow'.map IpNet.embed = allow.map IpNet.embed →
    deny'.map IpNet.embed = deny.map IpNet.embed → ∀ ip,
    (AccessControl.new allow' deny').check ip = (AccessControl.new allow deny).check ip

/-- `CoversMapped` is about the embedded network only. -/
theorem forall_not_coversMapped_congr {nets nets' : List IpNet}
    (h : nets'.map IpNet.embed = nets.map IpNet.embed) (hnets : ∀ net ∈ nets, ¬ net.CoversMapped) :
    ∀ net ∈ nets', ¬ net.CoversMapped := by
  intro net' hmem' hcovers
  have hmem := List.mem_map_of_mem (f := IpNet.embed) hmem'
  rw [h, List.mem_map] at hmem
  obtain ⟨net, hmem, hembed⟩ := hmem
  refine hnets net hmem ?_
  rw [IpNet.CoversMapped] at hcovers ⊢
  simpa only [IpNet.Holds, hembed] using hcovers

theorem access_decided_by_embedding {allow deny : List IpNet}
    (hallow : ∀ net ∈ allow, ¬ net.CoversMapped) (hdeny : ∀ net ∈ deny, ¬ net.CoversMapped) :
    DecidesByEmbedding allow deny := by
  refine ⟨check_new_iff hallow hdeny, fun octets => ?_, fun allow' deny' hallow' hdeny' ip => ?_⟩
  · refine AccessControl.check_congr ?_
    rw [check_new_iff hallow hdeny, check_new_iff hallow hdeny,
      ← IpAddr.embed_toCanonical (.v6 _), IpAddr.toCanonical_mapped]
    rfl
  · refine AccessControl.check_congr ?_
    rw [check_new_iff hallow hdeny, check_new_iff (forall_not_coversMapped_congr hallow' hallow)
      (forall_not_coversMapped_congr hdeny' hdeny), hallow', hdeny']

namespace Sample

/-- `10.0.0.0/8`. -/
def tenNet : IpNet := .v4 #v[10, 0, 0, 0] 8

/-- `::ffff:10.1.0.0/112`. -/
def mappedNet : IpNet := .v6 #v[0, 0, 0, 0, 0, 0xffff, 0x0a01, 0] 112

/-- `2001:db8::/32`. -/
def shortNet : IpNet := .v6 #v[0x2001, 0x0db8, 0, 0, 0, 0, 0, 0] 32

theorem shortNet_not_coversMapped : ¬ shortNet.CoversMapped := by
  rintro ⟨-, hholds⟩
  exact absurd (hholds #v[10, 0, 0, 0]) (by decide +kernel)

end Sample

open Sample in
theorem mixed_rules_decided_by_embedding :
    DecidesByEmbedding [tenNet, shortNet] [mappedNet] ∧
      ((AccessControl.new [tenNet, shortNet] [mappedNet]).check (.v4 #v[10, 2, 0, 1]) = .ok ()) := by
  refine ⟨access_decided_by_embedding ?_ ?_, by decide +kernel⟩
  · intro net hnet
    simp only [List.mem_cons, List.not_mem_nil, or_false] at hnet
    rcases hnet with rfl | rfl
    · rintro ⟨hlen, -⟩
      exact absurd hlen (by decide)
    · exact shortNet_not_coversMapped
  · intro net hnet
    rw [List.mem_singleton] at hnet
    subst hnet
    rintro ⟨hlen, -⟩
    exact absurd hlen (by decide)

end Reduction
