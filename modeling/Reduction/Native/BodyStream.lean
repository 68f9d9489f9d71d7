import Reduction.Native.Types

/-!
# Bodies that are polled

A message body as its consumer sees it: each poll yields the next frame, the end
of the body or `Pending`.  What a poll of the backend's body answers depends on
the time only, by what has arrived by then.
-/

namespace Reduction

open Http

inductive Poll (α : Type) where
  | ready (value : α)
  | pending
deriving DecidableEq

inductive Frame where
  | data (bytes : Bytes)
  | trailers (fields : HeaderMap)
deriving DecidableEq

/-- The body of a backend's response: the frames that are still to come, each with the time of its
    arrival, and the time of the end after them. -/
structure Incoming (ε : Type) where
  frames : List (Instant × Except ε Frame)
  endAt : Instant
  /-- The frames that were taken, by the times of their arrival and of the poll that took them. -/
  taken : List (Instant × Instant)

namespace Incoming

variable {ε : Type}

/-- The body after a frame was taken, with what is left. -/
def took (body : Incoming ε) (arrival now : Instant) (frames : List (Instant × Except ε Frame)) :
    Incoming ε :=
  { body with frames, taken := body.taken ++ [(arrival, now)] }

/-- `poll_frame` at the given time. -/
def pollFrame (body : Incoming ε) (now : Instant) :
    Poll (Option (Except ε Frame)) × Incoming ε :=
  match body.frames with
  | (arrival, frame) :: frames =>
    if arrival ≤ now then (.ready (some frame), body.took arrival now frames)
    else (.pending, body)
  | [] => if body.endAt ≤ now then (.ready none, body) else (.pending, body)

end Incoming

end Reduction
