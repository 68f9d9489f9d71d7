import Reduction.Native.Handler
import Reduction.Native.RawRelay

/-!
# Rate limits

Model of `src/ratelimit.rs`, and of the two admission checks on the limiter that
they share: `check_admission` and `reject_before_routing` ask it only behind the
access rules, and every question may take a token.

The token buckets are those of `governor`; `σ` is their state.
-/

namespace Reduction

open Http Traced

/-- The limiter that `RateLimit` wraps. -/
structure KeyedLimiter (σ : Type) where
  /-- `check_key`: whether the bucket of the key has a token, which is then taken. -/
  checkKey : IpAddr → StateM σ Bool

namespace KeyedLimiter

variable {σ : Type} (limiter : KeyedLimiter σ)

/-- `RateLimit::check`. -/
def check (key : IpAddr) : StateM σ (Except ReductionError Unit) := do
  -- one host has one bucket, whichever listener family it comes through
  let key := key.toCanonical
  if ← limiter.checkKey key then
    pure (.ok ())
  else
    pure (.error .rateLimited)

/-- `check_admission` on the limiter. -/
def checkAdmission (acl : AccessControl) (clientIp : IpAddr) (identity : Option PeerIdentity)
    (revocation : RevocationSet) : StateM σ (Except RejectReason Unit) := do
  if !(acl.check clientIp).toBool then
    pure (.error .acl)
  else if !(← limiter.check clientIp).toBool then
    pure (.error .rateLimit)
  else
    match identity with
    | none => pure (.error .noIdentity)
    | some identity => pure (if revocation.isRevoked identity then .error .revoked else .ok ())

/-- `reject_before_routing` on the limiter; `env.rateLimited` is not read. -/
def rejectBeforeRouting (state : ProxyState) (env : HandlerEnv) (clientIp : IpAddr)
    (clientIdentity : Option PeerIdentity) : StateM σ (Option Response) := do
  if env.aclDenies clientIp then
    pure (some (errorResponse .forbidden "access denied"))
  else if !(← limiter.check clientIp).toBool then
    pure (some (errorResponse .tooManyRequests "rate limited"))
  else if clientIdentity.isNone && !state.clientAuth.allowsAnonymous then
    pure (some (errorResponse .forbidden "client identity required"))
  else
    match clientIdentity with
    | none => pure none
    | some identity =>
      pure (if env.isRevoked identity then some (errorResponse .forbidden "revoked") else none)

/-- The limiter refuses the client if it is asked now. -/
def refuses (tokens : σ) (clientIp : IpAddr) : Bool :=
  !((limiter.check clientIp).run tokens).1.toBool

/-- `handle_raw_stream` on the limiter, which it asks in `check_admission` only. -/
def handleRawStream (env : RawStreamEnv) :
    StateM σ (Traced (RelayEvent RawRefusal) (Except ReductionError Unit)) := fun tokens =>
  (Reduction.handleRawStream { env with rateLimited := limiter.refuses tokens env.clientIp },
    ((limiter.checkAdmission env.acl env.clientIp env.identity env.revocation).run tokens).2)

end KeyedLimiter

end Reduction
