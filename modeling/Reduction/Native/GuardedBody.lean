import Reduction.Native.Attempt
import Reduction.Native.CompressBody

/-!
# The body of a response

Model of `src/proxy/guarded_body.rs` and of what `handle_response` does with the
body of a final response.  `store_and_respond` (`src/proxy/handler/attempt/respond.rs`)
collects a body that is to be cached; any other is compressed if the client wants
it, and streamed to the client under the idle timer of `guard_streaming_body`.
Either way the connection permit is held until the body has ended.

A `Sleep` has elapsed from its deadline on.
-/

namespace Reduction

open Http

/-- The body behind the guards: as the backend sends it, or compressed by `maybe_compress`. -/
inductive StreamBody (z : ZstdEncoder) (ε : Type) where
  | plain (body : Incoming ε)
  | compressed (body : CompressedBody z ε)

namespace StreamBody

variable {z : ZstdEncoder} {ε : Type}

/-- The backend's body. -/
def incoming : StreamBody z ε → Incoming ε
  | .plain body => body
  | .compressed body => body.inner

/-- A frame of the backend's body, as one of a body that compresses nothing. -/
def framePoll : Poll (Option (Except ε Frame)) → FramePoll ε
  | .pending => .pending
  | .ready none => .ready none
  | .ready (some (.error e)) => .ready (some (.error (.inner e)))
  | .ready (some (.ok frame)) => .ready (some (.ok frame))

def pollFrame (body : StreamBody z ε) (now : Instant) : FramePoll ε × StreamBody z ε :=
  match body with
  | .plain body => (framePoll (body.pollFrame now).1, .plain (body.pollFrame now).2)
  | .compressed body => ((body.pollFrame now).1, .compressed (body.pollFrame now).2)

end StreamBody

inductive GuardedBodyError (ε : Type) where
  | inner (e : CompressError ε)
  | idleTimeout (d : Duration)
deriving DecidableEq

/-- `GuardedBody`, with the deadline of its timer.  The guards are held by the body and read by no
    one. -/
structure GuardedBody (z : ZstdEncoder) (ε : Type) where
  inner : StreamBody z ε
  idle : Instant
  idleTimeout : Duration
  done : Bool

namespace GuardedBody

variable {z : ZstdEncoder} {ε : Type}

def new (inner : StreamBody z ε) (idleTimeout : Duration) (now : Instant) : GuardedBody z ε :=
  { inner, idle := now + idleTimeout, idleTimeout, done := false }

def pollFrame (body : GuardedBody z ε) (now : Instant) :
    Poll (Option (Except (GuardedBodyError ε) Frame)) × GuardedBody z ε :=
  if body.done then
    (.ready none, body)
  else
    match body.inner.pollFrame now with
    | (.ready (some (.ok frame)), inner) =>
      (.ready (some (.ok frame)), { body with inner, idle := now + body.idleTimeout })
    | (.ready (some (.error e)), inner) =>
      (.ready (some (.error (.inner e))), { body with inner, done := true })
    | (.ready none, inner) => (.ready none, { body with inner, done := true })
    | (.pending, inner) =>
      if body.idle ≤ now then
        (.ready (some (.error (.idleTimeout body.idleTimeout))), { body with inner, done := true })
      else
        (.pending, { body with inner })

end GuardedBody

/-- `maybe_compress` and `guard_streaming_body`: the body is compressed if there is an encoder for
    it. -/
def guardStreamingBody {z : ZstdEncoder} {ε : Type} (inner : Incoming ε) (offloads : List Offload)
    (encoder : Option z.State) (idleTimeout : Duration) (now : Instant) : GuardedBody z ε :=
  match encoder with
  | none => .new (.plain inner) idleTimeout now
  | some s => .new (.compressed (.withEncoder inner offloads s)) idleTimeout now

/-! ## Collecting -/

/-- The loop of `collect`, which polls for frames until the body ends, fails or is pending. -/
def collect {ε : Type} : Nat → Incoming ε → Bytes → Instant →
    Poll (Except ε Bytes) × Incoming ε × Bytes
  | 0, body, collected, _ => (.pending, body, collected)
  | fuel + 1, body, collected, now =>
    match body.pollFrame now with
    | (.pending, body) => (.pending, body, collected)
    | (.ready none, body) => (.ready (.ok collected), body, collected)
    | (.ready (some (.error e)), body) => (.ready (.error e), body, collected)
    | (.ready (some (.ok (.data data))), body) => collect fuel body (collected ++ data) now
    | (.ready (some (.ok (.trailers _))), body) => collect fuel body collected now

/-! ## The body of a final response -/

/-- Where the body of a response is read. -/
inductive BodyReader (z : ZstdEncoder) (ε : Type) where
  /-- In `store_and_respond`, while `handle_response` holds the permit. -/
  | storing (body : Incoming ε) (collected : Bytes)
  /-- By the server that sends the response, with the permit among the guards. -/
  | streaming (body : GuardedBody z ε)
  /-- The body has ended, and the permit is released. -/
  | ended

namespace BodyReader

variable {z : ZstdEncoder} {ε : Type}

/-- `handle_response`, for a response that is not retried. -/
def start (ctx : RequestCtx) (response : Response) (inner : Incoming ε) (offloads : List Offload)
    (encoder : Option z.State) (idleTimeout : Duration) (now : Instant) : BodyReader z ε :=
  if shouldCacheResponse ctx response response.status (.fromResponse response.headers) then
    .storing inner []
  else
    .streaming (guardStreamingBody inner offloads encoder idleTimeout now)

/-- One poll of the task that reads the body; it is pending or gets on. -/
def poll (reader : BodyReader z ε) (now : Instant) : Poll Unit × BodyReader z ε :=
  match reader with
  | .ended => (.ready (), .ended)
  | .storing body collected =>
    match collect (body.frames.length + 1) body collected now with
    | (.pending, body, collected) => (.pending, .storing body collected)
    | (.ready _, _, _) => (.ready (), .ended)
  | .streaming body =>
    match body.pollFrame now with
    | (.pending, body) => (.pending, .streaming body)
    | (.ready _, body) => (.ready (), if body.done then .ended else .streaming body)

/-- The deadline of the timer that is armed while the reader is pending. -/
def timer : BodyReader z ε → Option Instant
  | .storing _ _ => none
  | .streaming body => some body.idle
  | .ended => none

end BodyReader

end Reduction
