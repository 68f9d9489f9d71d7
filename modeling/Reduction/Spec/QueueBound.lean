import Reduction.ForStd.Interleaving
import Reduction.Native.RequestQueues
import Reduction.Spec.ReloadCorrect

/-!
# The queue of a pool across reloads

A reload that removes a pool drops its queue from the map, and a later request of the
pool makes a new one with all its permits, whatever is still held of the old.  So the
number of requests that hold a permit of a pool is bounded as long as a queue is only
removed when no request refers to it.
-/

namespace Reduction

open Run Interleaving

namespace QueuedRequest

/-- The pool and the queue that a request refers to. -/
def handle : QueuedRequest → Option (BackendId × Nat)
  | queued id queue | admitted id queue => some (id, queue)
  | _ => none

/-- The pool that a request holds a permit of. -/
@[simp] def permitOf : QueuedRequest → Option BackendId
  | admitted id _ => some id
  | _ => none

theorem handle_of_permitOf {r : QueuedRequest} {id : BackendId} (h : r.permitOf = some id) :
    ∃ queue, r.handle = some (id, queue) := by
  cases r with
  | admitted id' queue =>
    cases h
    exact ⟨queue, rfl⟩
  | _ => cases h

end QueuedRequest

namespace RequestQueues

variable {s : RequestQueues} {i : Nat} {r r' : QueuedRequest} {id : BackendId} {queue : Nat}

/-- How many requests hold a permit of the pool. -/
def holding (s : RequestQueues) (id : BackendId) : Nat :=
  playing QueuedRequest.permitOf s.requests (some id)

/-- No request refers to the queue that is removed next. -/
def NextIdle (s : RequestQueues) : Prop :=
  ∀ id ∈ s.removedBackendIds.head?, ∀ queue ∈ s.queues.get id, ∀ r ∈ s.requests,
    r.handle ≠ some (id, queue)

instance decidableNextIdle (s : RequestQueues) : Decidable s.NextIdle :=
  inferInstanceAs (Decidable (∀ id ∈ s.removedBackendIds.head?, ∀ queue ∈ s.queues.get id,
    ∀ r ∈ s.requests, r.handle ≠ some (id, queue)))

/-- Queues are removed when they are idle. -/
def RemovesIdle (s : RequestQueues) : QueueAction → Prop
  | .removeQueue => s.NextIdle
  | _ => True

instance decidableRemovesIdle (s : RequestQueues) : ∀ a, Decidable (s.RemovesIdle a)
  | .removeQueue => inferInstanceAs (Decidable s.NextIdle)
  | .request _ | .advance _ | .publish _ => .isTrue trivial

/-! ## One queue for each pool -/

/-- Requests refer to the queue that the map has for their pool, and its permits are held or left. -/
structure Current (depth : UInt32) (s : RequestQueues) : Prop where
  made : s.defaultQueueDepth = depth
  refer : ∀ r ∈ s.requests, ∀ id queue, r.handle = some (id, queue) →
    s.queues.get id = some queue
  counted : ∀ id queue, s.queues.get id = some queue →
    ∃ q, s.objects[queue]? = some q ∧ q.available + s.holding id = depth.toNat
  apart : ∀ id id' queue, s.queues.get id = some queue → s.queues.get id' = some queue → id = id'

variable {depth : UInt32}

theorem Current.holding_eq_zero (h : s.Current depth) (hnone : s.queues.get id = none) :
    s.holding id = 0 := by
  refine playing_eq_zero fun r hr hpermit => ?_
  obtain ⟨queue, hhandle⟩ := QueuedRequest.handle_of_permitOf hpermit
  have hsome := h.refer r hr id queue hhandle
  rw [hnone] at hsome
  cases hsome

theorem Current.holding_le (h : s.Current depth) (id : BackendId) : s.holding id ≤ depth.toNat := by
  cases hslot : s.queues.get id with
  | none =>
    rw [h.holding_eq_zero hslot]
    exact Nat.zero_le _
  | some queue =>
    obtain ⟨q, -, hcount⟩ := h.counted id queue hslot
    omega

/-- A queue that is made on demand is a new object with all its permits, none of which is held. -/
theorem Current.entry (h : s.Current depth) (id : BackendId) :
    (s.entry id).1.Current depth ∧ (s.entry id).1.queues.get id = some (s.entry id).2 ∧
      (s.entry id).1.requests = s.requests := by
  unfold RequestQueues.entry
  cases hslot : s.queues.get id with
  | some queue => exact ⟨h, hslot, rfl⟩
  | none =>
    have hold : ∀ {id' queue}, s.queues.get id' = some queue → id' ≠ id := by
      rintro id' queue hget rfl
      rw [hslot] at hget
      cases hget
    have hlt : ∀ {id' queue}, s.queues.get id' = some queue → queue < s.objects.length := by
      intro id' queue hget
      obtain ⟨q, hq, -⟩ := h.counted id' queue hget
      exact (List.getElem?_eq_some_iff.mp hq).1
    refine ⟨⟨h.made, ?_, ?_, ?_⟩, by rw [DashMap.get_insert, if_pos rfl], rfl⟩
    · intro r hr id' queue hhandle
      have hget := h.refer r hr id' queue hhandle
      rw [DashMap.get_insert, if_neg (hold hget)]
      exact hget
    · intro id' queue hget
      rw [DashMap.get_insert] at hget
      split at hget
      · rename_i hid
        cases hget
        refine ⟨.new s.defaultQueueDepth, List.getElem?_concat_length, ?_⟩
        have hnone := h.holding_eq_zero hslot
        rw [hid, h.made]
        show depth.toNat + s.holding id = depth.toNat
        omega
      · obtain ⟨q, hq, hcount⟩ := h.counted id' queue hget
        exact ⟨q, by rw [List.getElem?_append_left (hlt hget)]; exact hq, hcount⟩
    · intro id₁ id₂ queue h₁ h₂
      rw [DashMap.get_insert] at h₁ h₂
      split at h₁ <;> split at h₂
      · rename_i hid₁ hid₂
        rw [hid₁, hid₂]
      · cases h₁
        exact absurd (hlt h₂) (Nat.lt_irrefl _)
      · cases h₂
        exact absurd (hlt h₁) (Nat.lt_irrefl _)
      · exact h.apart id₁ id₂ queue h₁ h₂

/-- A request moves on without a permit. -/
theorem Current.setRequest (h : s.Current depth) (hget : s.requests[i]? = some r)
    (hpermit : r.permitOf = none) (hpermit' : r'.permitOf = none)
    (hhandle : ∀ id queue, r'.handle = some (id, queue) → s.queues.get id = some queue) :
    { s with requests := s.requests.set i r' }.Current depth := by
  refine { h with refer := forall_mem_set h.refer hhandle, counted := fun id queue hslot => ?_ }
  obtain ⟨q, hq, hcount⟩ := h.counted id queue hslot
  have hplay := @playing_set _ _ _ QueuedRequest.permitOf _ _ _ hget r' (some id)
  rw [hpermit, hpermit'] at hplay
  refine ⟨q, hq, ?_⟩
  dsimp only [holding] at hcount ⊢
  omega

/-- A request takes a permit of its queue, or gives it back. -/
theorem Current.setPermit (h : s.Current depth) (hget : s.requests[i]? = some r)
    (href : r.handle = some (id, queue)) {q q' : RequestQueue} (hq : s.objects[queue]? = some q)
    (href' : ∀ p, r'.handle = some p → p = (id, queue))
    (hcount : q'.available + (if r'.permitOf = some id then 1 else 0) =
      q.available + if r.permitOf = some id then 1 else 0) :
    { s with
      objects := s.objects.set queue q'
      requests := s.requests.set i r' }.Current depth := by
  have hslot := h.refer r (List.mem_of_getElem? hget) id queue href
  refine ⟨h.made, forall_mem_set h.refer ?_, ?_, h.apart⟩
  · intro id' queue' hhandle
    cases href' _ hhandle
    exact hslot
  · intro id' queue' hslot'
    obtain ⟨q₁, hq₁, hcount₁⟩ := h.counted id' queue' hslot'
    have hplay := @playing_set _ _ _ QueuedRequest.permitOf _ _ _ hget r' (some id')
    by_cases hid : id' = id
    · rw [hid, hslot] at hslot'
      cases hslot'
      rw [hq] at hq₁
      cases hq₁
      rw [hid] at hplay hcount₁ ⊢
      refine ⟨q', List.getElem?_set_self (List.getElem?_eq_some_iff.mp hq).1, ?_⟩
      dsimp only [holding] at hcount₁ ⊢
      omega
    · -- the queue of another pool is another object, and its permits stay where they are
      have hother : ∀ {r₁ : QueuedRequest} {queue₁}, (∀ p, r₁.handle = some p → p = (id, queue₁)) →
          r₁.permitOf ≠ some id' := by
        intro r₁ queue₁ hr₁ hpermit
        obtain ⟨queue₂, hhandle⟩ := QueuedRequest.handle_of_permitOf hpermit
        cases hr₁ _ hhandle
        exact hid rfl
      have hr : r.permitOf ≠ some id' :=
        hother fun p hp => Option.some.inj (hp.symm.trans href)
      rw [if_neg hr, if_neg (hother href')] at hplay
      have hne : queue ≠ queue' := by
        rintro rfl
        exact hid (h.apart id' id queue hslot' hslot)
      refine ⟨q₁, by rw [List.getElem?_set_ne hne]; exact hq₁, ?_⟩
      dsimp only [holding] at hcount₁ ⊢
      omega

theorem Current.advance (h : s.Current depth) (hget : s.requests[i]? = some r) :
    (s.advance i r).Current depth := by
  cases r with
  | resolved id =>
    obtain ⟨hentry, hslot, hrequests⟩ := h.entry id
    refine hentry.setRequest (by rw [hrequests]; exact hget) rfl rfl ?_
    intro id' queue' hhandle
    cases hhandle
    exact hslot
  | queued id queue =>
    have hslot := h.refer _ (List.mem_of_getElem? hget) id queue rfl
    obtain ⟨q, hq, -⟩ := h.counted id queue hslot
    rw [RequestQueues.advance, hq, Option.bind_some, RequestQueue.tryAcquireOwned]
    by_cases hfull : q.available = 0
    · rw [if_pos hfull]
      exact h.setRequest hget rfl rfl (fun _ _ hhandle => by cases hhandle)
    · rw [if_neg hfull]
      refine h.setPermit hget rfl hq (fun p hp => (Option.some.inj hp).symm) ?_
      simp only [QueuedRequest.permitOf, reduceCtorEq, if_true, if_false]
      omega
  | admitted id queue =>
    have hslot := h.refer _ (List.mem_of_getElem? hget) id queue rfl
    obtain ⟨q, hq, -⟩ := h.counted id queue hslot
    rw [RequestQueues.advance, List.modify_eq_set_getElem?, hq]
    refine h.setPermit hget rfl hq (fun _ hp => by cases hp) ?_
    simp [RequestQueue.release]
  | ended => exact h

theorem Current.step (h : s.Current depth) {a : QueueAction} (hidle : s.RemovesIdle a) :
    (s.step a).Current depth := by
  cases a with
  | request path =>
    rw [RequestQueues.step]
    split
    · split
      · refine
          { h with
            refer := forall_mem_concat h.refer (fun _ _ hhandle => by cases hhandle)
            counted := fun id queue hslot => ?_ }
        obtain ⟨q, hq, hcount⟩ := h.counted id queue hslot
        refine ⟨q, hq, ?_⟩
        rw [holding, playing_concat]
        simpa [holding] using hcount
      · exact h
    · exact h
  | advance i =>
    rw [RequestQueues.step]
    cases hget : s.requests[i]? with
    | none => exact h
    | some r => exact h.advance hget
  | publish config =>
    rw [RequestQueues.step]
    split
    · exact { h with }
    · exact h
  | removeQueue =>
    rw [RequestQueues.step]
    cases hremoved : s.removedBackendIds with
    | nil => exact h
    | cons id ids =>
      have hkept : ∀ {id' queue}, (s.queues.remove id).get id' = some queue →
          s.queues.get id' = some queue := by
        intro id' queue hslot
        rw [DashMap.get_remove] at hslot
        split at hslot
        · cases hslot
        · exact hslot
      refine ⟨h.made, ?_, fun id' queue hslot => h.counted id' queue (hkept hslot),
        fun id₁ id₂ queue h₁ h₂ => h.apart id₁ id₂ queue (hkept h₁) (hkept h₂)⟩
      intro r hr id' queue hhandle
      have hslot := h.refer r hr id' queue hhandle
      rw [DashMap.get_remove]
      split
      · -- the request would refer to the queue that is removed
        rename_i hid
        rw [hid] at hslot hhandle
        have hnot := hidle id (by rw [hremoved]; rfl) queue hslot r hr
        exact absurd hhandle hnot
      · exact hslot

end RequestQueues

namespace Sample

/-- A request that is admitted, with its two steps. -/
def admits (i : Nat) : List QueueAction :=
  [.request (Bytes.ascii "/"), .advance i, .advance i]

/-- The pool is removed and added again. -/
def readds : List QueueAction := [.publish emptyConfig, .removeQueue, .publish aloneConfig]

/-- The pool comes back while the first request holds its permit. -/
def heldAcross : List QueueAction := admits 0 ++ readds ++ admits 1

/-- The first request has ended when the pool is removed. -/
def endedBefore : List QueueAction := admits 0 ++ [.advance 0] ++ readds ++ admits 1

end Sample

namespace RequestQueues

/-- If queues are removed only while no request refers to them, then at no point more requests hold
    a permit of a pool than the queues have depth. -/
theorem permits_bounded_across_reloads (reloadable : ReloadableState) (depth : UInt32)
    (actions : List QueueAction) (h : RunOk step RemovesIdle (start reloadable depth) actions) :
    ∀ done, done <+: actions →
      ∀ id, (run step (start reloadable depth) done).holding id ≤ depth.toNat := by
  rintro done ⟨rest, rfl⟩ id
  have hstart : (start reloadable depth).Current depth :=
    ⟨rfl, (fun _ hr => by cases hr), (fun _ _ hslot => by cases hslot),
      (fun _ _ _ hslot => by cases hslot)⟩
  have hdone := @run_invariant _ _ step RemovesIdle (Current depth)
    (fun _ _ h hidle => h.step hidle) _ done hstart (runOk_append.mp h).1
  exact hdone.holding_le id

/-- The second request is admitted by the new queue when nothing is held of the old one. -/
theorem permits_bounded_after_end :
    ∃ state ∈ Sample.aloneConfig.reloadableState.toOption,
      (run step (start state 1) Sample.endedBefore).objects.length = 2 ∧
        ∀ done, done <+: Sample.endedBefore →
          ∀ id, (run step (start state 1) done).holding id ≤ UInt32.toNat 1 := by
  have hrun : ∃ state ∈ Sample.aloneConfig.reloadableState.toOption,
      (run step (start state 1) Sample.endedBefore).objects.length = 2 ∧
        RunOk step RemovesIdle (start state 1) Sample.endedBefore := by decide +kernel
  obtain ⟨state, hstate, htwo, hok⟩ := hrun
  exact ⟨state, hstate, htwo, permits_bounded_across_reloads state 1 Sample.endedBefore hok⟩

/-- Two requests of the pool hold a permit at once, each of another queue of depth one. -/
theorem removed_queue_still_held :
    Sample.aloneConfig.validate = .ok () ∧ Sample.emptyConfig.validate = .ok () ∧
      ∃ state ∈ Sample.aloneConfig.reloadableState.toOption,
        (run step (start state 1) Sample.heldAcross).holding Sample.b1.id = 2 := by
  decide +kernel

end RequestQueues

end Reduction
