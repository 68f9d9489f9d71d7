import Reduction.ForStd.Hex
import Reduction.ForStd.List
import Reduction.Native.RawAuthz
import Reduction.Native.RevocationFile
import Reduction.Spec.RegistryCalls

/-!
# How the two lists name keys

The denylist decodes a key hash to its bytes, the allowlist lowers its case and
compares it with what `spki_hex` prints.  Both accept 64 hexadecimal digits of
either case (`decodeSpkiHex_eq_ok_iff`, `normalizeSpkiHex_eq_ok_iff`), and no two
keys have the same digits, so that they name the same keys.
-/

namespace Reduction

open Run

/-- 64 hexadecimal digits of either case. -/
def IsKeyHex (s : Bytes) : Prop := s.length = 64 ∧ ∀ b ∈ s, Hex.isDigit b = true

-- the letters end at `f`
example : Hex.isDigit 102 = true ∧ Hex.isDigit 103 = false := by decide +kernel

theorem PeerIdentity.spkiHex_eq_text (id : PeerIdentity) :
    id.spkiHex = Hex.text id.spkiSha256.toList := rfl

/-! ## The denylist -/

namespace RevocationSet

variable {hex : Bytes} {index : Nat} {key : Vector UInt8 32}

theorem hexNibble_eq_ok_iff {byte n : UInt8} :
    hexNibble byte index = .ok n ↔ Hex.isDigit byte = true ∧ n = Hex.value byte := by
  -- the ranges of the digits do not overlap
  have hranges : ∀ byte : UInt8,
      ((48 ≤ byte && byte ≤ 57) = true → Hex.value byte = byte - 48) ∧
      ((97 ≤ byte && byte ≤ 102) = true → Hex.value byte = byte - 97 + 10) ∧
      ((65 ≤ byte && byte ≤ 70) = true → Hex.value byte = byte - 65 + 10) := by
    decide +kernel
  obtain ⟨hdecimal, hlower, hupper⟩ := hranges byte
  unfold hexNibble Hex.isDigit
  by_cases h₁ : (48 ≤ byte && byte ≤ 57) = true
  · simp [h₁, hdecimal h₁, eq_comm]
  · by_cases h₂ : (97 ≤ byte && byte ≤ 102) = true
    · simp [h₁, h₂, hlower h₂, eq_comm]
    · by_cases h₃ : (65 ≤ byte && byte ≤ 70) = true
      · simp [h₁, h₂, h₃, hupper h₃, eq_comm]
      · simp [h₁, h₂, h₃]

/-- The two digits of a byte. -/
theorem hexNibbles_eq_ok_iff {hi lo b : UInt8} :
    (do
      let hi ← hexNibble hi index
      let lo ← hexNibble lo index
      .ok (hi <<< 4 ||| lo)) = (.ok b : Except ReductionError UInt8) ↔
      Hex.isDigit hi = true ∧ Hex.isDigit lo = true ∧
        b = Hex.join (Hex.value hi) (Hex.value lo) := by
  simp only [bind_eq_ok, hexNibble_eq_ok_iff]
  constructor
  · rintro ⟨_, ⟨hhi, rfl⟩, _, ⟨hlo, rfl⟩, h⟩
    exact ⟨hhi, hlo, (Except.ok.inj h).symm⟩
  · rintro ⟨hhi, hlo, rfl⟩
    exact ⟨_, ⟨hhi, rfl⟩, _, ⟨hlo, rfl⟩, rfl⟩

/-- The key that 64 digits are the text of. -/
theorem exists_key (hlength : hex.length = 64) (hdigits : ∀ b ∈ hex, Hex.isDigit b = true) :
    ∃ key : Vector UInt8 32,
      (∀ i (hi : i < 32), key[i] = Hex.join (Hex.value hex[2 * i]) (Hex.value hex[2 * i + 1])) ∧
        Hex.text key.toList = hex.toAsciiLowercase := by
  refine ⟨Vector.ofFn fun i : Fin 32 =>
    Hex.join (Hex.value hex[2 * i.val]) (Hex.value hex[2 * i.val + 1]), ?_, ?_⟩
  · intro i hi
    rw [Vector.getElem_ofFn]
  · apply Hex.text_eq_of_join hdigits
    · intro i hi
      rw [Vector.getElem_toList, Vector.getElem_ofFn]
    · rw [Vector.length_toList, hlength]

theorem decodeSpkiHex_eq_ok_iff :
    decodeSpkiHex hex index = .ok key ↔
      IsKeyHex hex ∧ Hex.text key.toList = hex.toAsciiLowercase := by
  unfold decodeSpkiHex
  by_cases h : hex.length ≠ spkiHexLen
  · rw [dif_pos h]
    constructor
    · intro herror
      cases herror
    · exact fun hkey => absurd hkey.1.1 h
  · have hlength : hex.length = 64 := not_not.mp h
    rw [dif_neg h, Vector.mapM_eq_ok]
    simp only [Vector.getElem_ofFn, hexNibbles_eq_ok_iff]
    constructor
    · intro hbytes
      have hdigits : ∀ b ∈ hex, Hex.isDigit b = true := by
        intro b hb
        obtain ⟨i, hi, rfl⟩ := List.getElem_of_mem hb
        rcases Nat.even_or_odd' i with ⟨k, rfl | rfl⟩
        · exact (hbytes k (by omega)).1
        · exact (hbytes k (by omega)).2.1
      obtain ⟨key', hjoin, htext⟩ := exists_key hlength hdigits
      have heq : key = key' := by
        apply Vector.ext
        intro i hi
        rw [(hbytes i hi).2.2, hjoin i hi]
      rw [heq]
      exact ⟨⟨hlength, hdigits⟩, htext⟩
    · rintro ⟨⟨-, hdigits⟩, hkey⟩ i hi
      obtain ⟨key', hjoin, htext⟩ := exists_key hlength hdigits
      have heq := Vector.toList_inj.mp (Hex.text_injective (hkey.trans htext.symm))
      rw [heq]
      exact ⟨hdigits _ (List.getElem_mem _), hdigits _ (List.getElem_mem _), hjoin i hi⟩

theorem exists_decodeSpkiHex (h : IsKeyHex hex) (index : Nat) :
    ∃ key, decodeSpkiHex hex index = .ok key := by
  obtain ⟨key, -, htext⟩ := exists_key h.1 h.2
  exact ⟨key, decodeSpkiHex_eq_ok_iff.mpr ⟨h, htext⟩⟩

end RevocationSet

namespace RevocationEntry

/-- The entry names the identity, by its key or by its common name. -/
def Names (e : RevocationEntry) (id : PeerIdentity) : Prop :=
  (∃ s, e.spki = some s ∧ s.eqIgnoreAsciiCase id.spkiHex = true) ∨
    e.backendId = some id.commonName.bytes

/-- What the entry names is in the set. -/
structure KeptIn (e : RevocationEntry) (set : RevocationSet) : Prop where
  named : e.spki ≠ none ∨ e.backendId ≠ none
  spki : ∀ s, e.spki = some s → ∃ key ∈ set.spki, Hex.text key.toList = s.toAsciiLowercase
  backendId : ∀ b, e.backendId = some b → ∃ id ∈ set.backendIds, id.bytes = b

end RevocationEntry

namespace RevocationSet

variable {set set' : RevocationSet} {e : RevocationEntry} {index : Nat} {id : PeerIdentity}

theorem addSpki_ok {spki : Option Bytes} (h : set.addSpki spki index = .ok set') :
    set'.backendIds = set.backendIds ∧
      (∀ s, spki = some s → ∃ key ∈ set'.spki, Hex.text key.toList = s.toAsciiLowercase) ∧
        ∀ key, key ∈ set'.spki ↔ key ∈ set.spki ∨
          ∃ s, spki = some s ∧ Hex.text key.toList = s.toAsciiLowercase := by
  cases spki with
  | none =>
    cases h
    exact ⟨rfl, (fun s h => by cases h), fun key => by simp⟩
  | some s =>
    obtain ⟨key, hkey, h⟩ := bind_eq_ok.mp h
    cases h
    have htext := (decodeSpkiHex_eq_ok_iff.mp hkey).2
    refine ⟨rfl, ?_, ?_⟩
    · rintro _ ⟨⟩
      exact ⟨key, List.mem_cons_self, htext⟩
    · intro key'
      rw [List.mem_cons]
      constructor
      · rintro (rfl | hmem)
        · exact .inr ⟨s, rfl, htext⟩
        · exact .inl hmem
      · rintro (hmem | ⟨_, ⟨⟩, htext'⟩)
        · exact .inr hmem
        · exact .inl (Vector.toList_inj.mp (Hex.text_injective (htext'.trans htext.symm)))

theorem addBackendId_ok {backendId : Option Bytes}
    (h : set.addBackendId backendId index = .ok set') :
    set'.spki = set.spki ∧
      (∀ b, backendId = some b → ∃ id ∈ set'.backendIds, id.bytes = b) ∧
        ∀ id, id ∈ set'.backendIds ↔ id ∈ set.backendIds ∨ backendId = some id.bytes := by
  cases backendId with
  | none =>
    cases h
    exact ⟨rfl, (fun b h => by cases h), fun id => by simp⟩
  | some b =>
    cases hparsed : (ArrayString.from? b : Option BackendId) with
    | none =>
      simp only [addBackendId, hparsed] at h
      cases h
    | some parsed =>
      simp only [addBackendId, hparsed] at h
      cases h
      have hbytes := ArrayString.bytes_of_from? hparsed
      refine ⟨rfl, ?_, ?_⟩
      · rintro _ ⟨⟩
        exact ⟨parsed, List.mem_cons_self, hbytes⟩
      · intro id
        rw [List.mem_cons, Option.some_inj, ← hbytes]
        constructor
        · rintro (rfl | hmem)
          · exact .inr rfl
          · exact .inl hmem
        · rintro (hmem | heq)
          · exact .inr hmem
          · exact .inl (ArrayString.bytes_injective heq.symm)

/-- What one round adds. -/
structure Added (set : RevocationSet) (e : RevocationEntry) (set' : RevocationSet) : Prop where
  kept : e.KeptIn set'
  spki : ∀ key, key ∈ set'.spki ↔ key ∈ set.spki ∨
    ∃ s, e.spki = some s ∧ Hex.text key.toList = s.toAsciiLowercase
  backendIds : ∀ id, id ∈ set'.backendIds ↔ id ∈ set.backendIds ∨ e.backendId = some id.bytes

theorem addEntry_ok (h : set.addEntry (e, index) = .ok set') : set.Added e set' := by
  unfold addEntry at h
  dsimp only at h
  split at h
  · cases h
  · rename_i hnamed
    obtain ⟨set₁, hspki, hids⟩ := bind_eq_ok.mp h
    rw [Bool.and_eq_true, Option.isNone_iff_eq_none, Option.isNone_iff_eq_none,
      not_and_or] at hnamed
    obtain ⟨hids₁, hkept, hspki₁⟩ := addSpki_ok hspki
    obtain ⟨hspki', hkept', hids'⟩ := addBackendId_ok hids
    rw [← hspki'] at hkept hspki₁
    rw [hids₁] at hids'
    exact ⟨⟨hnamed, hkept, hkept'⟩, hspki₁, hids'⟩

theorem isRevoked_iff : set.isRevoked id = true ↔
    id.spkiSha256 ∈ set.spki ∨ ∃ name ∈ set.backendIds, name.bytes = id.commonName.bytes := by
  unfold isRevoked
  rw [Bool.or_eq_true, List.contains_iff_mem, List.any_eq_true]
  simp only [decide_eq_true_eq]

/-- An identity is named by the text of its key. -/
theorem names_iff : e.Names id ↔
    (∃ s, e.spki = some s ∧ Hex.text id.spkiSha256.toList = s.toAsciiLowercase) ∨
      e.backendId = some id.commonName.bytes := by
  unfold RevocationEntry.Names Bytes.eqIgnoreAsciiCase
  simp only [beq_iff_eq, PeerIdentity.spkiHex_eq_text, Hex.toAsciiLowercase_text]
  simp only [eq_comm]

/-- A common name is short enough for the denylist. -/
theorem exists_backendId (name : ArrayString 64) : ∃ id : BackendId, id.bytes = name.bytes :=
  ⟨⟨name.bytes, Nat.le_trans name.fits (by decide)⟩, rfl⟩

theorem Added.isRevoked_iff (h : set.Added e set') :
    set'.isRevoked id = true ↔ set.isRevoked id = true ∨ e.Names id := by
  rw [RevocationSet.isRevoked_iff, RevocationSet.isRevoked_iff, names_iff, h.spki]
  obtain ⟨name, hname⟩ := exists_backendId id.commonName
  have hids : ∀ ids : List BackendId,
      (∃ n ∈ ids, n.bytes = id.commonName.bytes) ↔ name ∈ ids := by
    intro ids
    constructor
    · rintro ⟨n, hn, hbytes⟩
      rw [← ArrayString.bytes_injective (hbytes.trans hname.symm)]
      exact hn
    · exact fun h => ⟨name, h, hname⟩
  rw [hids, hids, h.backendIds, hname]
  exact or_or_or_comm

theorem Added.keptIn (h : set.Added e set') {e' : RevocationEntry} (hkept : e'.KeptIn set) :
    e'.KeptIn set' := by
  refine ⟨hkept.named, ?_, ?_⟩
  · intro s hs
    obtain ⟨key, hkey, htext⟩ := hkept.spki s hs
    exact ⟨key, (h.spki key).mpr (.inl hkey), htext⟩
  · intro b hb
    obtain ⟨name, hname, hbytes⟩ := hkept.backendId b hb
    exact ⟨name, (h.backendIds name).mpr (.inl hname), hbytes⟩

/-- A file that is accepted: who it revokes, and that every entry counts. -/
theorem foldlM_addEntry_ok {file : List (RevocationEntry × Nat)}
    (h : file.foldlM addEntry .default = .ok set) :
    (∀ id, set.isRevoked id = true ↔ ∃ e ∈ file.map Prod.fst, e.Names id) ∧
      ∀ e ∈ file.map Prod.fst, e.KeptIn set := by
  refine @foldlM_invariant _ _ _ addEntry (fun file set =>
    (∀ id, set.isRevoked id = true ↔ ∃ e ∈ file.map Prod.fst, e.Names id) ∧
      ∀ e ∈ file.map Prod.fst, e.KeptIn set) ?_ _ _ _ ?_ h
  · rintro file ⟨e, index⟩ set set' ⟨hrevoked, hkept⟩ hstep
    have hadded := addEntry_ok hstep
    rw [List.map_append]
    constructor
    · intro id
      rw [hadded.isRevoked_iff, hrevoked]
      simp only [List.mem_append, List.map_singleton, List.mem_singleton, or_and_right, exists_or,
        exists_eq_left]
    · intro e' he'
      rcases List.mem_append.mp he' with he' | he'
      · exact hadded.keptIn (hkept e' he')
      · rw [List.mem_singleton.mp he']
        exact hadded.kept
  · exact ⟨fun id => by simp [isRevoked, default], fun e he => by cases he⟩

variable {fromStr : Bytes → Except ReductionError (List RevocationEntry)} {toml : Bytes}

theorem parse_ok {file : List RevocationEntry} (htoml : fromStr toml = .ok file)
    (h : parse fromStr toml = .ok set) :
    (∀ id, set.isRevoked id = true ↔ ∃ e ∈ file, e.Names id) ∧ ∀ e ∈ file, e.KeptIn set := by
  unfold parse at h
  rw [htoml] at h
  have hfile := foldlM_addEntry_ok h
  rw [List.zipIdx_map_fst] at hfile
  exact hfile

/-- A file with one entry, which names a key. -/
theorem exists_parse_key_iff {s reason : Bytes}
    (htoml : fromStr toml = .ok [{ spki := some s, backendId := none, reason }]) :
    (∃ set, parse fromStr toml = .ok set) ↔ IsKeyHex s := by
  constructor
  · rintro ⟨set, h⟩
    obtain ⟨file, hfile, h⟩ := bind_eq_ok.mp h
    cases htoml.symm.trans hfile
    obtain ⟨set₁, hentry, -⟩ := bind_eq_ok.mp h
    obtain ⟨set₂, hspki, -⟩ := bind_eq_ok.mp hentry
    obtain ⟨key, hkey, -⟩ := bind_eq_ok.mp hspki
    exact (decodeSpkiHex_eq_ok_iff.mp hkey).1
  · intro hs
    obtain ⟨key, hkey⟩ := exists_decodeSpkiHex hs 0
    refine ⟨{ spki := [key], backendIds := [] }, bind_eq_ok.mpr ⟨_, htoml, ?_⟩⟩
    refine bind_eq_ok.mpr ⟨{ spki := [key], backendIds := [] }, ?_, rfl⟩
    refine bind_eq_ok.mpr ⟨{ spki := [key], backendIds := [] }, ?_, rfl⟩
    exact bind_eq_ok.mpr ⟨key, hkey, rfl⟩

end RevocationSet

/-! ## The allowlist -/

theorem lowerHex_eq (byte : UInt8) :
    lowerHex byte = if Hex.isDigit byte then some (Bytes.lowerByte byte) else none := by
  revert byte
  decide +kernel

variable {hex : Bytes}

theorem normalizeSpkiHex_eq_ok_iff {backendId : BackendId} {spki : ArrayString 64} :
    normalizeSpkiHex hex backendId = .ok spki ↔
      IsKeyHex hex ∧ spki.bytes = hex.toAsciiLowercase := by
  unfold normalizeSpkiHex
  by_cases h : hex.length ≠ spkiHexLen
  · rw [dif_pos h]
    constructor
    · intro herror
      cases herror
    · exact fun hkey => absurd hkey.1.1 h
  · have hlength : hex.length = 64 := not_not.mp h
    rw [dif_neg h]
    cases hfind : hex.find? fun byte => (lowerHex byte).isNone with
    | some other =>
      constructor
      · intro herror
        cases herror
      · intro hkey
        have hnone := List.find?_some hfind
        rw [lowerHex_eq, if_pos (hkey.1.2 other (List.mem_of_find?_eq_some hfind))] at hnone
        cases hnone
    | none =>
      have hdigits : ∀ b ∈ hex, Hex.isDigit b = true := by
        intro b hb
        have hsome := List.find?_eq_none.mp hfind b hb
        rw [lowerHex_eq] at hsome
        by_contra hdigit
        rw [if_neg hdigit] at hsome
        exact hsome rfl
      have hlower : (hex.map fun byte => (lowerHex byte).getD byte) = hex.toAsciiLowercase := by
        refine List.map_congr_left fun b hb => ?_
        rw [lowerHex_eq, if_pos (hdigits b hb), Option.getD_some]
      constructor
      · intro hok
        cases hok
        exact ⟨⟨hlength, hdigits⟩, hlower⟩
      · rintro ⟨-, hspki⟩
        obtain ⟨bytes, hle⟩ := spki
        obtain rfl : bytes = _ := hspki.trans hlower.symm
        rfl

theorem exists_normalizeSpkiHex (h : IsKeyHex hex) (backendId : BackendId) :
    ∃ spki, normalizeSpkiHex hex backendId = .ok spki := by
  have hfits : hex.toAsciiLowercase.length ≤ 64 := by
    rw [Bytes.toAsciiLowercase, List.length_map, h.1]
  exact ⟨⟨hex.toAsciiLowercase, hfits⟩, normalizeSpkiHex_eq_ok_iff.mpr ⟨h, rfl⟩⟩

namespace RawRelayAuthz

variable {backendId : BackendId} {known : List BackendId} {s : Bytes}

/-- An entry that names a key. -/
theorem new_key_eq_ok_iff {authz : RawRelayAuthz} (hknown : backendId ∈ known) :
    new [{ backendId, allowedCns := [], allowedSpkis := [s] }] known = .ok authz ↔
      ∃ spki, normalizeSpkiHex s backendId = .ok spki ∧
        authz = { byBackend := DashMap.insert ∅ backendId { cns := [], spkis := [spki] } } := by
  have hentry : addEntry known ∅ { backendId, allowedCns := [], allowedSpkis := [s] } =
      normalizeSpkiHex s backendId >>= fun spki =>
        .ok (DashMap.insert ∅ backendId { cns := [], spkis := [spki] }) := by
    unfold addEntry
    rw [if_neg (by simpa using hknown), if_neg (by simp)]
    cases hspki : normalizeSpkiHex s backendId with
    | error e =>
      simp only [List.mapM_cons, hspki]
      rfl
    | ok spki =>
      simp only [List.mapM_cons, List.mapM_nil, hspki]
      rfl
  constructor
  · intro h
    obtain ⟨byBackend, hloop, h⟩ := bind_eq_ok.mp h
    cases h
    obtain ⟨first, hfirst, hrest⟩ := bind_eq_ok.mp hloop
    cases hrest
    rw [hentry] at hfirst
    obtain ⟨spki, hspki, h⟩ := bind_eq_ok.mp hfirst
    cases h
    exact ⟨spki, hspki, rfl⟩
  · rintro ⟨spki, hspki, rfl⟩
    refine bind_eq_ok.mpr ⟨_, bind_eq_ok.mpr ⟨_, ?_, rfl⟩, rfl⟩
    rw [hentry, hspki]
    rfl

theorem isAllowed_insert {spki : ArrayString 64} {id : PeerIdentity} :
    isAllowed { byBackend := DashMap.insert ∅ backendId { cns := [], spkis := [spki] } }
      backendId.bytes id = true ↔ spki.bytes = id.spkiHex := by
  unfold isAllowed
  rw [ArrayString.from?_bytes, Option.bind_some, DashMap.get_insert, if_pos rfl]
  simp

end RawRelayAuthz

/-! ## Both -/

/-- The key of an entry of the denylist and of one of the allowlist. -/
structure KeysAgree (fromStr : Bytes → Except ReductionError (List RevocationEntry))
    (toml s : Bytes) (backendId : BackendId) (known : List BackendId) (id : PeerIdentity) :
    Prop where
  revocable : (∃ set, RevocationSet.parse fromStr toml = .ok set) ↔ IsKeyHex s
  allowable : (∃ authz, RawRelayAuthz.new
    [{ backendId, allowedCns := [], allowedSpkis := [s] }] known = .ok authz) ↔ IsKeyHex s
  revokes : ∀ set, RevocationSet.parse fromStr toml = .ok set →
    (set.isRevoked id = true ↔ s.eqIgnoreAsciiCase id.spkiHex = true)
  admits : ∀ authz, RawRelayAuthz.new
    [{ backendId, allowedCns := [], allowedSpkis := [s] }] known = .ok authz →
    (authz.isAllowed backendId.bytes id = true ↔ s.eqIgnoreAsciiCase id.spkiHex = true)

/-- The denylist and the allowlist accept the same keys, 64 hexadecimal digits of either case, and
    an entry names the peer whose key has these digits.  A file revokes those that some entry of it
    names, and drops no entry. -/
theorem keys_named_alike (fromStr : Bytes → Except ReductionError (List RevocationEntry))
    (s : Bytes) (id : PeerIdentity) :
    (∀ toml reason backendId known,
        fromStr toml = .ok [{ spki := some s, backendId := none, reason }] → backendId ∈ known →
          KeysAgree fromStr toml s backendId known id) ∧
      ∀ toml file set, fromStr toml = .ok file → RevocationSet.parse fromStr toml = .ok set →
        (set.isRevoked id = true ↔ ∃ e ∈ file, e.Names id) ∧ ∀ e ∈ file, e.KeptIn set := by
  constructor
  · intro toml reason backendId known htoml hknown
    constructor
    · exact RevocationSet.exists_parse_key_iff htoml
    · constructor
      · rintro ⟨authz, h⟩
        obtain ⟨spki, hspki, -⟩ := (RawRelayAuthz.new_key_eq_ok_iff hknown).mp h
        exact (normalizeSpkiHex_eq_ok_iff.mp hspki).1
      · intro hs
        obtain ⟨spki, hspki⟩ := exists_normalizeSpkiHex hs backendId
        exact ⟨_, (RawRelayAuthz.new_key_eq_ok_iff hknown).mpr ⟨spki, hspki, rfl⟩⟩
    · intro set h
      rw [(RevocationSet.parse_ok htoml h).1 id]
      simp [RevocationEntry.Names]
    · intro authz h
      obtain ⟨spki, hspki, rfl⟩ := (RawRelayAuthz.new_key_eq_ok_iff hknown).mp h
      rw [RawRelayAuthz.isAllowed_insert, (normalizeSpkiHex_eq_ok_iff.mp hspki).2,
        Bytes.eqIgnoreAsciiCase, beq_iff_eq, PeerIdentity.spkiHex_eq_text,
        Hex.toAsciiLowercase_text]
  · intro toml file set htoml h
    obtain ⟨hrevoked, hkept⟩ := RevocationSet.parse_ok htoml h
    exact ⟨hrevoked id, hkept⟩

namespace Sample

/-- The key of a device, as the lists name it. -/
def upperCaseKey : Bytes := (List.replicate 32 (Bytes.ascii "A9")).flatten

def keyedPeer : PeerIdentity :=
  { commonName := deviceName, spkiSha256 := Vector.replicate 32 0xa9 }

def keyFile (_ : Bytes) : Except ReductionError (List RevocationEntry) :=
  .ok [{ spki := some upperCaseKey, backendId := none, reason := [] }]

end Sample

open Sample in
theorem upper_case_key_revokes_and_admits :
    (∃ set, RevocationSet.parse keyFile [] = .ok set ∧ set.isRevoked keyedPeer = true) ∧
      ∃ authz, RawRelayAuthz.new
        [{ backendId := device, allowedCns := [], allowedSpkis := [upperCaseKey] }] [device] =
          .ok authz ∧ authz.isAllowed device.bytes keyedPeer = true := by
  have hagree := (keys_named_alike keyFile upperCaseKey keyedPeer).1 [] [] device [device] rfl
    List.mem_cons_self
  have hkey : IsKeyHex upperCaseKey := ⟨by decide +kernel, by decide +kernel⟩
  have heq : upperCaseKey.eqIgnoreAsciiCase keyedPeer.spkiHex = true := by decide +kernel
  obtain ⟨set, hset⟩ := hagree.revocable.mpr hkey
  obtain ⟨authz, hauthz⟩ := hagree.allowable.mpr hkey
  exact ⟨⟨set, hset, (hagree.revokes set hset).mpr heq⟩, authz, hauthz,
    (hagree.admits authz hauthz).mpr heq⟩

end Reduction
