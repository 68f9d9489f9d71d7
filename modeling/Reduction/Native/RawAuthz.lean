import Reduction.Native.Config

/-!
# Raw relay authorization

Model of `src/proxy/raw_authz.rs`: which devices may open a raw relay to which
backend.  The policy is built from the configuration at startup, and a policy
that is not well-formed keeps the proxy from starting.
-/

namespace Reduction

/-- The identities that one backend admits. -/
structure BackendPolicy where
  cns : List (ArrayString 64)
  spkis : List (ArrayString 64)

structure RawRelayAuthz where
  byBackend : DashMap BackendId BackendPolicy

/-- `SPKI_HEX_LEN`. -/
def spkiHexLen : Nat := 64

/-- One byte of `normalize_spki_hex`, in lower case. -/
def lowerHex (byte : UInt8) : Option UInt8 :=
  if (48 ≤ byte && byte ≤ 57) || (97 ≤ byte && byte ≤ 102) then some byte
  else if 65 ≤ byte && byte ≤ 70 then some (byte + 32)
  else none

/-- `normalize_spki_hex`. -/
def normalizeSpkiHex (hex : Bytes) (backendId : BackendId) :
    Except ReductionError (ArrayString 64) :=
  if h : hex.length ≠ spkiHexLen then
    .error (.config ("raw_relay_authz backend '" ++ backendId.asStr ++ "': spki must be " ++
      toString spkiHexLen ++ " hex chars, got " ++ toString hex.length))
  else
    match hex.find? fun byte => (lowerHex byte).isNone with
    | some other =>
      .error (.config ("raw_relay_authz backend '" ++ backendId.asStr ++
        "': spki contains non-hex byte 0x" ++
        displayText [hexDigit (other >>> 4), hexDigit (other &&& 15)]))
    | none =>
      .ok ⟨hex.map fun byte => (lowerHex byte).getD byte, by
        rw [List.length_map, not_not.mp h]
        exact Nat.le_refl _⟩

namespace RawRelayAuthz

/-- One round of `new`. -/
def addEntry (knownBackendIds : List BackendId) (byBackend : DashMap BackendId BackendPolicy)
    (entry : RawRelayAuthzEntry) : Except ReductionError (DashMap BackendId BackendPolicy) :=
  if !knownBackendIds.contains entry.backendId then
    .error (.config ("raw_relay_authz entry names backend '" ++ entry.backendId.asStr ++
      "', which is not a configured backend (no route/pool resolves to that id); the restriction " ++
      "would silently not apply"))
  else if entry.allowedCns.isEmpty && entry.allowedSpkis.isEmpty then
    .error (.config ("raw_relay_authz entry for backend '" ++ entry.backendId.asStr ++
      "' names neither allowed_cns nor allowed_spkis"))
  else do
    let spkis ← entry.allowedSpkis.mapM fun spki => normalizeSpkiHex spki entry.backendId
    if (byBackend.get entry.backendId).isSome then
      .error (.config ("duplicate raw_relay_authz entry for backend '" ++ entry.backendId.asStr ++
        "'"))
    else
      .ok (byBackend.insert entry.backendId { cns := entry.allowedCns, spkis })

def new (entries : List RawRelayAuthzEntry) (knownBackendIds : List BackendId) :
    Except ReductionError RawRelayAuthz := do
  let byBackend ← entries.foldlM (addEntry knownBackendIds) ∅
  .ok { byBackend }

/-- `is_allowed`: without a policy nobody is. -/
def isAllowed (authz : RawRelayAuthz) (backendId : Bytes) (identity : PeerIdentity) : Bool :=
  match (ArrayString.from? backendId).bind authz.byBackend.get with
  | none => false
  | some policy =>
    (policy.cns.any fun cn => cn.bytes == identity.commonName.bytes) ||
      policy.spkis.any fun spki => spki.bytes == identity.spkiHex

end RawRelayAuthz

end Reduction
