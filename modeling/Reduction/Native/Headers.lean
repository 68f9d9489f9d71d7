import Reduction.Native.Backend
import Reduction.Native.Policy

/-!
# Header rewriting

Model of `src/proxy/handler/headers.rs`.
-/

namespace Reduction

open Http

/-- Connection-specific fields, which describe one hop and are not relayed. -/
def hopByHopHeaders : List HeaderName :=
  [connection, keepAlive, proxyAuthenticate, proxyAuthorization,
    .lit "proxy-connection" (by decide), te, trailer, transferEncoding, upgrade,
    .lit "http2-settings" (by decide)]

/-- The message of `InvalidHeaderValue`. -/
def invalidHeaderValue : String := "failed to parse header value"

/-- `HeaderValue::from_str` with the error mapped to `Forward`. -/
def headerValueOr (what : String) (text : Bytes) : Except ReductionError HeaderValue :=
  match HeaderValue.fromStr? text with
  | some v => .ok v
  | none => .error (.forward ("invalid " ++ what ++ " header: " ++ invalidHeaderValue))

def applyIdentityHeaders (headers : HeaderMap) (identity : Option PeerIdentity) :
    Except ReductionError HeaderMap :=
  let headers := headers.removeAll [headerClientId, headerClientSpki]
  match identity with
  | none => .ok headers
  | some identity => do
    let cn ← headerValueOr "client-id" identity.commonName.bytes
    let spki ← headerValueOr "client-spki" identity.spkiHex
    .ok ((headers.insert headerClientId cn).insert headerClientSpki spki)

def applyForwardedHeaders (headers : HeaderMap) (clientIp : IpAddr) :
    Except ReductionError HeaderMap := do
  let headers := headers.removeAll
    [headerXForwardedFor, headerXForwardedProto, headerXForwardedHost, forwarded, headerXRealIp]
  let ip ← headerValueOr "client-ip" clientIp.toText
  .ok ((headers.insert headerXForwardedFor ip).insert headerXRealIp ip)

/-- The field names that the `Connection` lines nominate; lines that are not visible ASCII and
    names that are not tokens are passed over. -/
def connectionNominated (headers : HeaderMap) : List HeaderName :=
  (((headers.getAll connection).filterMap HeaderValue.toStr?).flatMap Bytes.splitComma).filterMap
    fun name => HeaderName.fromBytes? name.trim

def stripHopByHopHeaders (headers : HeaderMap) : HeaderMap :=
  (headers.removeAll hopByHopHeaders).removeAll (connectionNominated headers)

/-- `HeaderInjector::set`: names and values that do not parse are dropped. -/
def headerInjectorSet (headers : HeaderMap) (key value : Bytes) : HeaderMap :=
  match HeaderName.fromBytes? key, HeaderValue.fromStr? value with
  | some name, some val => headers.insert name val
  | _, _ => headers

/-- The trace context of a span: the values of its two header fields. -/
structure TraceContext where
  traceparent : Bytes
  tracestate : Bytes

/-- `inject_context` of the W3C propagator: nothing is set without a valid span context. -/
def injectContext (headers : HeaderMap) : Option TraceContext → HeaderMap
  | some cx =>
    headerInjectorSet (headerInjectorSet headers (Bytes.ascii "traceparent") cx.traceparent)
      (Bytes.ascii "tracestate") cx.tracestate
  | none => headers

end Reduction
