import Reduction.Native.CacheControl

/-!
# Caching, compression and retry decisions

Model of `src/proxy/handler/policy.rs`, of `src/retry.rs` and of
`compress_response` in `src/proxy/handler/body.rs`.  The zstd encoder and
decoder are parameters: the proxy only asks whether an encoder can be set up
and whether a body decompresses.
-/

namespace Reduction

open Http

/-- The two things the proxy asks of zstd. -/
structure Zstd where
  /-- `CompressedBody::with_level`: the compressed form of a body, or an initialisation failure. -/
  withLevel : Body → Int → Option Body
  /-- `compression::decompress_bounded`. -/
  decompressBounded : Bytes → Nat → Option Bytes

structure CompressionConfig where
  enabled : Bool
  minBytes : UInt32
  level : Int
deriving DecidableEq

structure RetryConfig where
  maxRetries : UInt32
  baseDelayMs : UInt64
  maxDelayMs : UInt64
  jitterMs : UInt64
deriving DecidableEq

/-! ## Responses -/

/-- `error_response`. -/
def errorResponse (status : StatusCode) (message : String) : Response :=
  { status, headers := [], body := .ofBytes (Bytes.ascii message) }

def responseIsEncoded (response : Response) : Bool := response.headers.containsKey contentEncoding

/-- `compress_response`: short bodies pass unchanged, and a failed encoder set-up is a 500. -/
def compressResponse (zstd : Zstd) (response : Response) (minBytes : UInt32) (level : Int) :
    Response :=
  let declared := (response.headers.get contentLength).bind HeaderValue.toStr? |>.bind
    (Bytes.parseUnsigned 32)
  match declared with
  | some len =>
    if len < minBytes.toNat then response else compress
  | none => compress
where
  compress : Response :=
    match zstd.withLevel response.body level with
    | some body =>
      { response with
        headers :=
          (response.headers.insert contentEncoding (.lit "zstd" (by decide))).remove contentLength
        body }
    | none => errorResponse .internalServerError "response compression failed"

/-- The encoding that the proxy adds. -/
def zstdValue : HeaderValue := .lit "zstd" (by decide)

def maybeCompress (zstd : Zstd) (response : Response) (acceptsZstd : Bool)
    (directives : CacheDirectives) (config : CompressionConfig) : Response :=
  if config.enabled && acceptsZstd && !responseIsEncoded response &&
      response.status ≠ .partialContent && !directives.noTransform then
    compressResponse zstd response config.minBytes config.level
  else
    response

/-- Only a full 200 is cacheable. -/
def isCacheableStatus (status : StatusCode) : Bool := status = .ok

/-- One comma-separated token of a `Vary` line names a header that the cache accounts for. -/
def varyTokenPermitted (token : Bytes) : Bool :=
  let name := token.trim.toAsciiLowercase
  name == acceptEncoding.bytes || name == headerClientId.bytes || name == headerClientSpki.bytes

def varyPermitsCaching (headers : HeaderMap) : Bool :=
  match (headers.get vary).bind HeaderValue.toStr? with
  | none => true
  | some line => line.splitComma.all varyTokenPermitted

def responsePermitsSharedCaching (requestHasCookie : Bool) (directives : CacheDirectives) : Bool :=
  !requestHasCookie && directives.isPublic

def isRetryableStatus (status : StatusCode) : Bool :=
  status.code == 502 || status.code == 503 || status.code == 429

/-! ## Retries -/

def isIdempotentMethod : Method → Bool
  | .get | .head | .options | .trace | .put | .delete => true
  | _ => false

/-- Idempotent methods may always be replayed, others only with a non-empty `Idempotency-Key`. -/
def retriesPermitted (method : Method) (headers : HeaderMap) : Bool :=
  isIdempotentMethod method ||
    ((headers.get headerIdempotencyKey).map fun v => !v.isEmpty).getD false

/-- `retry::backoff_delay`; `draw` is the random number, reduced to the jitter range. -/
def backoffDelay (attempt : Nat) (config : RetryConfig) (draw : Nat) : Duration :=
  -- `checked_shl` fails from 64 on, and then the factor saturates
  let factor := if attempt < 64 then 2 ^ attempt else 2 ^ 64 - 1
  let expDelayMs :=
    min (min (config.baseDelayMs.toNat * factor) (2 ^ 64 - 1)) config.maxDelayMs.toNat
  let jitterMs := if config.jitterMs > 0 then draw % config.jitterMs.toNat else 0
  Duration.fromMillis (min (expDelayMs + jitterMs) (2 ^ 64 - 1))

end Reduction
