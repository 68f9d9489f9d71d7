import Reduction.Native.Config

/-!
# Revocation files

Model of `RevocationSet::parse` in `src/tunnel/revocation.rs`.  The TOML reader is
a parameter; what it makes of a file is the list of its entries.
-/

namespace Reduction

/-- An entry of the `[[revoked]]` array; its reason must be there, and is not kept. -/
structure RevocationEntry where
  spki : Option Bytes
  backendId : Option Bytes
  reason : Bytes

namespace RevocationSet

/-- `SPKI_HEX_LEN`. -/
def spkiHexLen : Nat := 64

/-- `MAX_BACKEND_ID_LEN`. -/
def maxBackendIdLen : Nat := 256

/-- `hex_nibble`. -/
def hexNibble (byte : UInt8) (index : Nat) : Except ReductionError UInt8 :=
  if 48 ≤ byte && byte ≤ 57 then .ok (byte - 48)
  else if 97 ≤ byte && byte ≤ 102 then .ok (byte - 97 + 10)
  else if 65 ≤ byte && byte ≤ 70 then .ok (byte - 65 + 10)
  else
    .error (.config ("revocation entry " ++ toString index ++ ": spki contains non-hex byte 0x" ++
      displayText [hexDigit (byte >>> 4), hexDigit (byte &&& 15)]))

/-- `decode_spki_hex`. -/
def decodeSpkiHex (hex : Bytes) (index : Nat) : Except ReductionError (Vector UInt8 32) :=
  if h : hex.length ≠ spkiHexLen then
    .error (.config ("revocation entry " ++ toString index ++ ": spki must be " ++
      toString spkiHexLen ++ " hex chars, got " ++ toString hex.length))
  else
    have hlength : hex.length = 64 := not_not.mp h
    (Vector.ofFn fun i : Fin 32 => (hex[2 * i.val], hex[2 * i.val + 1])).mapM fun digits => do
      let hi ← hexNibble digits.1 index
      let lo ← hexNibble digits.2 index
      .ok (hi <<< 4 ||| lo)

/-- The `spki` of an entry. -/
def addSpki (set : RevocationSet) (spki : Option Bytes) (index : Nat) :
    Except ReductionError RevocationSet :=
  match spki with
  | none => .ok set
  | some hex => do
    let key ← decodeSpkiHex hex index
    .ok { set with spki := key :: set.spki }

/-- The `backend_id` of an entry. -/
def addBackendId (set : RevocationSet) (backendId : Option Bytes) (index : Nat) :
    Except ReductionError RevocationSet :=
  match backendId with
  | none => .ok set
  | some id =>
    match ArrayString.from? id with
    | some parsed => .ok { set with backendIds := parsed :: set.backendIds }
    | none =>
      .error (.config ("revocation entry " ++ toString index ++ ": backend_id exceeds " ++
        toString maxBackendIdLen ++ " chars"))

/-- One round of `parse`, for the entry at an index. -/
def addEntry (set : RevocationSet) (entry : RevocationEntry × Nat) :
    Except ReductionError RevocationSet :=
  let (entry, index) := entry
  if entry.spki.isNone && entry.backendId.isNone then
    .error (.config ("revocation entry " ++ toString index ++
      " names neither spki nor backend_id"))
  else do
    let set ← set.addSpki entry.spki index
    set.addBackendId entry.backendId index

/-- `RevocationSet::parse`. -/
def parse (fromStr : Bytes → Except ReductionError (List RevocationEntry)) (toml : Bytes) :
    Except ReductionError RevocationSet := do
  let revoked ← fromStr toml
  revoked.zipIdx.foldlM addEntry .default

end RevocationSet

end Reduction
