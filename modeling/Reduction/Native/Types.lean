import Reduction.ForStd.HeaderMap

/-!
# Shared types

Time, ids, peer identities and HTTP messages, as the modules of the proxy use
them.
-/

namespace Reduction

open Http

/-! ## Time and numbers -/

/-- A span of time, in nanoseconds. -/
abbrev Duration := Nat

/-- A reading of the monotonic clock, in nanoseconds. -/
abbrev Instant := Nat

/-- `Duration::from_secs`. -/
def Duration.fromSecs (secs : Nat) : Duration := secs * 1000000000

/-- `Duration::from_millis`. -/
def Duration.fromMillis (ms : Nat) : Duration := ms * 1000000

abbrev NonZeroU32 := { n : UInt32 // n ≠ 0 }

abbrev NonZeroU64 := { n : UInt64 // n ≠ 0 }

abbrev PathBuf := Bytes

/-- The id of a backend, as the configuration and the registries hold it. -/
abbrev BackendId := ArrayString 256

/-! ## Identity -/

/-- The handshake-proven identity of an mTLS peer. -/
structure PeerIdentity where
  commonName : ArrayString 64
  spkiSha256 : Vector UInt8 32
deriving DecidableEq

/-- One lower-case hex digit. -/
def hexDigit (n : UInt8) : UInt8 := if n < 10 then 48 + n else 87 + n

/-- `PeerIdentity::spki_hex`: the key hash in lower-case hex. -/
def PeerIdentity.spkiHex (id : PeerIdentity) : Bytes :=
  id.spkiSha256.toList.flatMap fun b : UInt8 => [hexDigit (b >>> 4), hexDigit (b &&& 15)]

/-! ## Names of header fields -/

def acceptEncoding : HeaderName := .lit "accept-encoding" (by decide)
def cacheControl : HeaderName := .lit "cache-control" (by decide)
def connection : HeaderName := .lit "connection" (by decide)
def contentEncoding : HeaderName := .lit "content-encoding" (by decide)
def contentLength : HeaderName := .lit "content-length" (by decide)
def cookie : HeaderName := .lit "cookie" (by decide)
def forwarded : HeaderName := .lit "forwarded" (by decide)
def host : HeaderName := .lit "host" (by decide)
def keepAlive : HeaderName := .lit "keep-alive" (by decide)
def proxyAuthenticate : HeaderName := .lit "proxy-authenticate" (by decide)
def proxyAuthorization : HeaderName := .lit "proxy-authorization" (by decide)
def range : HeaderName := .lit "range" (by decide)
def retryAfter : HeaderName := .lit "retry-after" (by decide)
def te : HeaderName := .lit "te" (by decide)
def trailer : HeaderName := .lit "trailer" (by decide)
def transferEncoding : HeaderName := .lit "transfer-encoding" (by decide)
def upgrade : HeaderName := .lit "upgrade" (by decide)
def vary : HeaderName := .lit "vary" (by decide)
def headerClientId : HeaderName := .lit "x-reduction-client-id" (by decide)
def headerClientSpki : HeaderName := .lit "x-reduction-client-spki" (by decide)
def headerXForwardedFor : HeaderName := .lit "x-forwarded-for" (by decide)
def headerXForwardedHost : HeaderName := .lit "x-forwarded-host" (by decide)
def headerXForwardedProto : HeaderName := .lit "x-forwarded-proto" (by decide)
def headerXRealIp : HeaderName := .lit "x-real-ip" (by decide)
def headerIdempotencyKey : HeaderName := .lit "idempotency-key" (by decide)

/-! ## HTTP messages -/

/-- `http::StatusCode`. -/
structure StatusCode where
  code : Nat
  valid : 100 ≤ code ∧ code < 1000
deriving DecidableEq

namespace StatusCode

def ok : StatusCode := ⟨200, by decide⟩
def partialContent : StatusCode := ⟨206, by decide⟩
def badRequest : StatusCode := ⟨400, by decide⟩
def forbidden : StatusCode := ⟨403, by decide⟩
def notFound : StatusCode := ⟨404, by decide⟩
def payloadTooLarge : StatusCode := ⟨413, by decide⟩
def tooManyRequests : StatusCode := ⟨429, by decide⟩
def internalServerError : StatusCode := ⟨500, by decide⟩
def badGateway : StatusCode := ⟨502, by decide⟩
def serviceUnavailable : StatusCode := ⟨503, by decide⟩

/-- `is_server_error`. -/
def isServerError (s : StatusCode) : Bool := 500 ≤ s.code && s.code < 600

end StatusCode

/-- `http::Method`. -/
inductive Method where
  | get
  | head
  | options
  | trace
  | put
  | delete
  | post
  | patch
  | connect
  | extension (name : Bytes)
deriving DecidableEq

/-- `Method::as_str`. -/
def Method.asStr : Method → Bytes
  | .get => Bytes.ascii "GET"
  | .head => Bytes.ascii "HEAD"
  | .options => Bytes.ascii "OPTIONS"
  | .trace => Bytes.ascii "TRACE"
  | .put => Bytes.ascii "PUT"
  | .delete => Bytes.ascii "DELETE"
  | .post => Bytes.ascii "POST"
  | .patch => Bytes.ascii "PATCH"
  | .connect => Bytes.ascii "CONNECT"
  | .extension name => name

/-- How a body ends, once all its data was read. -/
inductive BodyEnd where
  | clean
  /-- `LengthLimitError` of a `Limited` body. -/
  | lengthLimit
  | failed
deriving DecidableEq

/-- A message body: the data it yields, and how it ends. -/
structure Body where
  data : Bytes
  ending : BodyEnd
deriving DecidableEq

/-- `Body::from(bytes)`. -/
def Body.ofBytes (data : Bytes) : Body := ⟨data, .clean⟩

/-- `Limited::new(body, cap)`: a body that fails once it has yielded more than `cap` bytes. -/
def Body.limited (b : Body) (cap : Nat) : Body :=
  if b.data.length ≤ cap then b else ⟨b.data.take cap, .lengthLimit⟩

/-- `body.collect()`: all the data, or the way the body failed. -/
def Body.collect (b : Body) : Except BodyEnd Bytes :=
  match b.ending with
  | .clean => .ok b.data
  | e => .error e

structure Response where
  status : StatusCode
  headers : HeaderMap
  body : Body
deriving DecidableEq

/-- The parts of a request without its body. -/
structure Parts where
  method : Method
  path : Bytes
  query : Option Bytes
  headers : HeaderMap
deriving DecidableEq

/-- `uri.path_and_query()`. -/
def Parts.pathAndQuery (p : Parts) : Bytes :=
  match p.query with
  | some q => p.path ++ Bytes.ascii "?" ++ q
  | none => p.path

structure Request where
  parts : Parts
  body : Body
deriving DecidableEq

end Reduction
