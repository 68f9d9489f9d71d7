import Reduction.Native.CompressBody
import Reduction.Native.Policy

/-!
# Compression of streamed responses

`maybe_compress` in `src/proxy/handler/policy.rs` and `compress_response` in
`src/proxy/handler/body.rs` on a response whose body is still to be polled.
`Native/Policy` has the same two functions with a body that is known by the data it
yields and with zstd as a black box.
-/

namespace Reduction

open Http

structure StreamedResponse (B : Type) where
  status : StatusCode
  headers : HeaderMap
  body : B

/-- `Body::from` of a message. -/
def Incoming.ofMessage {ε : Type} (message : String) : Incoming ε :=
  { frames := [(0, .ok (.data (Bytes.ascii message)))], endAt := 0, taken := [] }

/-- The body that goes to the client: as it came, or compressed. -/
inductive OutgoingBody (z : ZstdEncoder) (ε : Type) where
  | plain (body : Incoming ε)
  | compressed (body : CompressedBody z ε)

namespace OutgoingBody

variable {z : ZstdEncoder} {ε : Type}

/-- A frame of a body that is not compressed, among those of bodies that may be. -/
def passed : Except ε Frame → Except (CompressError ε) Frame
  | .ok frame => .ok frame
  | .error e => .error (.inner e)

def pollFrame (body : OutgoingBody z ε) (now : Instant) : FramePoll ε × OutgoingBody z ε :=
  match body with
  | .plain body =>
    match body.pollFrame now with
    | (.ready frame, body) => (.ready (frame.map passed), .plain body)
    | (.pending, body) => (.pending, .plain body)
  | .compressed body =>
    match body.pollFrame now with
    | (poll, body) => (poll, .compressed body)

end OutgoingBody

namespace StreamedResponse

variable {z : ZstdEncoder} {ε : Type} (newEncoder : Int → Option z.State) (offloads : List Offload)
  (response : StreamedResponse (Incoming ε))

def unchanged : StreamedResponse (OutgoingBody z ε) :=
  { response with body := .plain response.body }

def errorResponse (status : StatusCode) (message : String) :
    StreamedResponse (OutgoingBody z ε) :=
  { status, headers := [], body := .plain (.ofMessage message) }

/-- `compress_response`; `newEncoder` is the set-up of an encoder, which may fail. -/
def compressResponse (minBytes : UInt32) (level : Int) : StreamedResponse (OutgoingBody z ε) :=
  let declared := (response.headers.get contentLength).bind HeaderValue.toStr? |>.bind
    (Bytes.parseUnsigned 32)
  match declared with
  | some len => if len < minBytes.toNat then response.unchanged else compress level
  | none => compress level
where
  compress (level : Int) : StreamedResponse (OutgoingBody z ε) :=
    match newEncoder level with
    | some s =>
      { response with
        headers := (response.headers.insert contentEncoding zstdValue).remove contentLength
        body := .compressed (.withEncoder response.body offloads s) }
    | none => errorResponse .internalServerError "response compression failed"

/-- `maybe_compress`. -/
def maybeCompress (acceptsZstd : Bool) (directives : CacheDirectives)
    (config : CompressionConfig) : StreamedResponse (OutgoingBody z ε) :=
  if config.enabled && acceptsZstd && !response.headers.containsKey contentEncoding &&
      response.status ≠ .partialContent && !directives.noTransform then
    response.compressResponse newEncoder offloads config.minBytes config.level
  else
    response.unchanged

end StreamedResponse

end Reduction
