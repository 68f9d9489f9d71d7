import Reduction.Native.Types

/-!
# The revocation denylist

Model of `RevocationSet` in `src/tunnel/revocation.rs`: the keys and the device
names that are denied service.
-/

namespace Reduction

/-- The two hash sets, as lists: only membership in them is asked for. -/
structure RevocationSet where
  spki : List (Vector UInt8 32)
  backendIds : List BackendId

namespace RevocationSet

/-- `RevocationSet::default`: nothing is revoked. -/
def default : RevocationSet := { spki := [], backendIds := [] }

/-- `is_revoked`: by key, or by the device name of the certificate. -/
def isRevoked (set : RevocationSet) (identity : PeerIdentity) : Bool :=
  set.spki.contains identity.spkiSha256 ||
    set.backendIds.any fun id => id.bytes = identity.commonName.bytes

end RevocationSet

end Reduction
