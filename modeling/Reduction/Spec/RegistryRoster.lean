import Reduction.ForStd.List
import Reduction.ForStd.Run
import Reduction.Native.RegistryWhole

/-!
# The registry as a plain list of sessions

For calls that come one after the other the registry is no more than the list of
its sessions, in the order of their registration; the buckets, and when they are
made and removed, cannot be seen.

- `TunnelState.Lists.call`: every whole call does to the buckets what it does to
  the list, and answers the same
- `registry_bookkeeping`: what follows for every sequence of calls
-/

namespace Reduction

open Run

/-! ## The list -/

namespace Roster

/-- The sessions of one backend. -/
def backend (roster : List TunnelSession) (id : BackendId) : List TunnelSession :=
  roster.filter fun s => s.backendId = id

def names (id : BackendId) (sid : SessionId) (s : TunnelSession) : Bool :=
  s.backendId = id && s.sessionId = sid

/-- Stamp the first session of that backend and id. -/
def stamp (id : BackendId) (sid : SessionId) (now : Instant) :
    List TunnelSession → List TunnelSession
  | [] => []
  | s :: rest =>
    if names id sid s then { s with lastHeartbeat := now } :: rest else s :: stamp id sid now rest

/-- What a call does to a list with room for `cap` sessions of each backend. -/
def call (cap : UInt32) (roster : List TunnelSession) :
    WholeCall → List TunnelSession × CallResult
  | .register s =>
    if cap.toNat ≤ (backend roster s.backendId).length then
      (roster, .registered (.error (.tunnel ("max sessions (" ++ toString cap.toNat ++
        ") reached for backend " ++ s.backendId.asStr))))
    else
      (roster ++ [s], .registered (.ok ()))
  | .deregister id sid =>
    (roster.filter fun s => !names id sid s, .removed (roster.any (names id sid)))
  | .deregisterAll id =>
    (roster.filter fun s => s.backendId ≠ id, .count (backend roster id).length)
  | .recordHeartbeat id sid now =>
    (stamp id sid now roster, .stamped (roster.any (names id sid)))
  | .revokeMatching set _ =>
    (roster.filter fun s => !set.isRevoked s.identity,
      .count (roster.filter fun s => set.isRevoked s.identity).length)
  | .shutdownAll _ => ([], .finished)

variable {roster : List TunnelSession} {cap : UInt32}

theorem backend_filter (p : TunnelSession → Bool) (id : BackendId) :
    backend (roster.filter p) id = (backend roster id).filter p := by
  rw [backend, backend, List.filter_filter, List.filter_filter]
  exact List.filter_congr fun s _ => Bool.and_comm _ _

variable (s : TunnelSession) (now : Instant)

theorem backend_append (id : BackendId) :
    backend (roster ++ [s]) id =
      if id = s.backendId then backend roster id ++ [s] else backend roster id := by
  rw [backend, List.filter_append]
  by_cases hid : id = s.backendId
  · simp [hid, backend]
  · simp [hid, Ne.symm hid, backend]

theorem backendId_of_mem {s : TunnelSession} {id : BackendId} (h : s ∈ backend roster id) :
    s.backendId = id := by
  simpa using (List.mem_filter.mp h).2

variable (id' : BackendId) (sid : SessionId) (id : BackendId)

/-- Within the sessions of a backend its id need not be looked at. -/
theorem filter_names :
    ((backend roster id).filter fun s => !names id' sid s) =
      if id = id' then (backend roster id).filter fun s => s.sessionId ≠ sid
      else backend roster id := by
  by_cases hid : id = id'
  · rw [if_pos hid]
    refine List.filter_congr fun s hs => ?_
    simp [names, backendId_of_mem hs, hid]
  · rw [if_neg hid]
    refine List.filter_eq_self.mpr fun s hs => ?_
    simp [names, backendId_of_mem hs, hid]

theorem filter_backendId :
    ((backend roster id).filter fun s => s.backendId ≠ id') =
      if id = id' then [] else backend roster id := by
  by_cases hid : id = id'
  · rw [if_pos hid]
    refine List.filter_eq_nil_iff.mpr fun s hs => ?_
    simp [backendId_of_mem hs, hid]
  · rw [if_neg hid]
    refine List.filter_eq_self.mpr fun s hs => ?_
    simp [backendId_of_mem hs, hid]

theorem any_names (sid : SessionId) :
    roster.any (names id sid) = (backend roster id).any fun s => s.sessionId = sid := by
  rw [backend, List.any_filter]
  rfl

theorem backend_cons (id : BackendId) :
    backend (s :: roster) id =
      if s.backendId = id then s :: backend roster id else backend roster id := by
  by_cases hid : s.backendId = id
  · rw [if_pos hid, backend, List.filter_cons_of_pos (by simpa using hid), backend]
  · rw [if_neg hid, backend, List.filter_cons_of_neg (by simpa using hid), backend]

theorem backend_stamp (id : BackendId) :
    backend (stamp id' sid now roster) id =
      if id = id' then TunnelRegistry.stampFirst sid now (backend roster id)
      else backend roster id := by
  induction roster with
  | nil => simp [stamp, backend, TunnelRegistry.stampFirst]
  | cons s rest ih =>
    by_cases hbackend : s.backendId = id'
    · by_cases hsid : s.sessionId = sid
      · -- The session that is stamped keeps its backend.
        rw [stamp, if_pos (by simp [names, hbackend, hsid]), backend_cons, backend_cons]
        by_cases hid : id = id'
        · simp [hid, hbackend, TunnelRegistry.stampFirst, hsid]
        · simp [hid, hbackend, Ne.symm hid]
      · rw [stamp, if_neg (by simp [names, hsid]), backend_cons, backend_cons, ih]
        by_cases hid : id = id'
        · simp [hid, hbackend, TunnelRegistry.stampFirst, hsid]
        · simp [hid, hbackend, Ne.symm hid]
    · rw [stamp, if_neg (by simp [names, hbackend]), backend_cons, backend_cons, ih]
      by_cases hid : id = id'
      · simp [hid, hbackend]
      · simp [hid]

theorem length_stampFirst (sessions : List TunnelSession) :
    (TunnelRegistry.stampFirst sid now sessions).length = sessions.length := by
  induction sessions with
  | nil => rfl
  | cons s rest ih =>
    rw [TunnelRegistry.stampFirst]
    split
    · rfl
    · rw [List.length_cons, List.length_cons, ih]

/-- No backend has more sessions than there is room for. -/
theorem call_bounded (h : ∀ id, (backend roster id).length ≤ cap.toNat) (c : WholeCall) :
    ∀ id, (backend (call cap roster c).1 id).length ≤ cap.toNat := by
  intro id
  cases c with
  | register s =>
    simp only [call]
    split
    · exact h id
    · rename_i hroom
      rw [backend_append]
      split
      · rename_i hid
        rw [List.length_append, List.length_singleton, hid]
        omega
      · exact h id
  | deregister id' sid =>
    simp only [call]
    rw [backend_filter]
    exact (List.length_filter_le _ _).trans (h id)
  | deregisterAll id' =>
    simp only [call]
    rw [backend_filter]
    exact (List.length_filter_le _ _).trans (h id)
  | recordHeartbeat id' sid now =>
    simp only [call]
    rw [backend_stamp]
    split
    · rw [length_stampFirst]
      exact h id
    · exact h id
  | revokeMatching set rank =>
    simp only [call]
    rw [backend_filter]
    exact (List.length_filter_le _ _).trans (h id)
  | shutdownAll rank => exact Nat.zero_le _

/-- The sessions of all backends together. -/
theorem sum_length_backend {ids : Finset BackendId} (h : ∀ s ∈ roster, s.backendId ∈ ids) :
    ∑ id ∈ ids, (backend roster id).length = roster.length :=
  List.sum_length_filter_key h

end Roster

/-! ## The buckets -/

namespace TunnelRegistry

variable {reg : TunnelRegistry}

variable (id id' : BackendId) (sid : SessionId)

theorem isTunnelBackend_iff : reg.isTunnelBackend id = true ↔ 0 < reg.sessionCount id := by
  unfold isTunnelBackend sessionCount DashMap.bucket
  cases reg.sessions.get id with
  | none => simp
  | some entry => cases entry <;> simp

theorem register_of_full {s : TunnelSession}
    (h : reg.maxSessionsPerBackend.toNat ≤ (reg.sessions.bucket s.backendId).length) :
    reg.register s =
      ({ reg with sessions := reg.sessions.insert s.backendId (reg.sessions.bucket s.backendId) },
        .error (.tunnel ("max sessions (" ++ toString reg.maxSessionsPerBackend.toNat ++
          ") reached for backend " ++ s.backendId.asStr))) := by
  simp only [register, pushSession, if_pos h]

theorem sessions_register_of_room {s : TunnelSession}
    (h : ¬ reg.maxSessionsPerBackend.toNat ≤ (reg.sessions.bucket s.backendId).length) :
    (reg.register s).1.sessions =
        reg.sessions.insert s.backendId (reg.sessions.bucket s.backendId ++ [s]) ∧
      (reg.register s).2 = .ok () := by
  unfold register pushSession
  rw [if_neg h]
  constructor
  · show (notifySessionWaiters _ s.backendId).sessions = _
    split <;> rfl
  · rfl

theorem maxSessions_register (s : TunnelSession) :
    (reg.register s).1.maxSessionsPerBackend = reg.maxSessionsPerBackend := by
  unfold register pushSession
  dsimp only
  by_cases hfull : reg.maxSessionsPerBackend.toNat ≤ (reg.sessions.bucket s.backendId).length
  · rw [if_pos hfull]
  · rw [if_neg hfull]
    cases s.isControlPeer <;> rfl

/-- A bucket that is made for nothing holds nothing. -/
theorem bucket_insert_bucket :
    (reg.sessions.insert id (reg.sessions.bucket id)).bucket id' = reg.sessions.bucket id' := by
  rw [DashMap.bucket_insert]
  split
  · rename_i hid
    rw [hid]
  · rfl

theorem deregister_of_get_none {id : BackendId} (h : reg.sessions.get id = none)
    (sid : SessionId) :
    reg.deregister id sid = ({ reg with controlPeers := reg.controlPeers.remove sid }, false) := by
  simp only [deregister, h]

theorem deregister_of_get_some {id : BackendId} {entry : List TunnelSession}
    (h : reg.sessions.get id = some entry) (sid : SessionId) :
    let kept := entry.filter fun s => s.sessionId ≠ sid
    reg.deregister id sid =
      ({ reg with
          controlPeers := reg.controlPeers.remove sid
          sessions :=
            if kept.isEmpty then (reg.sessions.insert id kept).remove id
            else reg.sessions.insert id kept },
        decide (kept.length < entry.length)) := by
  simp only [deregister, h]
  split <;> rfl

theorem maxSessions_deregister :
    (reg.deregister id sid).1.maxSessionsPerBackend = reg.maxSessionsPerBackend := by
  cases hget : reg.sessions.get id with
  | none => rw [deregister_of_get_none hget]
  | some entry => rw [deregister_of_get_some hget]

/-- Whether an emptied bucket is removed does not show. -/
theorem bucket_deregister (id : BackendId) :
    (reg.deregister id' sid).1.sessions.bucket id =
      if id = id' then (reg.sessions.bucket id).filter fun s => s.sessionId ≠ sid
      else reg.sessions.bucket id := by
  cases hget : reg.sessions.get id' with
  | none =>
    rw [deregister_of_get_none hget]
    by_cases hid : id = id'
    · subst hid
      simp [DashMap.bucket, hget]
    · rw [if_neg hid]
  | some entry =>
    rw [deregister_of_get_some hget]
    by_cases hid : id = id'
    · subst hid
      have hentry : reg.sessions.bucket id = entry := by rw [DashMap.bucket, hget]; rfl
      rw [if_pos rfl, hentry]
      dsimp only
      split
      · rename_i hempty
        rw [DashMap.bucket_remove, if_pos rfl]
        exact (List.isEmpty_iff.mp hempty).symm
      · rw [DashMap.bucket_insert, if_pos rfl]
    · rw [if_neg hid]
      dsimp only
      split
      · rw [DashMap.bucket_remove, if_neg hid, DashMap.bucket_insert, if_neg hid]
      · rw [DashMap.bucket_insert, if_neg hid]

theorem deregister_found :
    (reg.deregister id sid).2 = (reg.sessions.bucket id).any fun s => s.sessionId = sid := by
  cases hget : reg.sessions.get id with
  | none =>
    rw [deregister_of_get_none hget]
    simp [DashMap.bucket, hget]
  | some entry =>
    rw [deregister_of_get_some hget]
    have hentry : reg.sessions.bucket id = entry := by rw [DashMap.bucket, hget]; rfl
    rw [hentry, Bool.eq_iff_iff, decide_eq_true_iff, List.length_filter_lt_length_iff_exists]
    simp

theorem bucket_recordHeartbeat (now : Instant) (id : BackendId) :
    (reg.recordHeartbeat id' sid now).1.sessions.bucket id =
      if id = id' then stampFirst sid now (reg.sessions.bucket id)
      else reg.sessions.bucket id := by
  simp only [recordHeartbeat]
  rw [DashMap.bucket_modify _ _ _ rfl]
  split
  · rename_i hid
    rw [hid]
  · rfl

variable (reg)

variable (rank : BackendId → Nat)

theorem visitOrder_perm : (reg.visitOrder rank).Perm reg.sessions.keys :=
  List.mergeSort_perm _ _

theorem nodup_visitOrder : (reg.visitOrder rank).Nodup :=
  (reg.visitOrder_perm rank).nodup_iff.mpr (AList.keys_nodup _)

/-- A backend without a bucket has no sessions. -/
theorem bucket_of_not_mem_keys {id : BackendId} (h : id ∉ reg.sessions.keys) :
    reg.sessions.bucket id = [] :=
  List.eq_nil_iff_forall_not_mem.mpr fun _ hs => h (DashMap.mem_keys_of_mem_bucket hs)

end TunnelRegistry

namespace TunnelState

variable (st : TunnelState) (set : RevocationSet)

theorem bucket_revokeBucket (id' id : BackendId) :
    (st.revokeBucket set id').1.registry.sessions.bucket id =
      if id = id' then (st.registry.sessions.bucket id).filter fun s => !set.isRevoked s.identity
      else st.registry.sessions.bucket id := by
  simp only [revokeBucket]
  rw [DashMap.bucket_modify _ _ _ rfl]
  split
  · rename_i hid
    rw [hid]
  · rfl

/-- The loop visits each bucket once. -/
theorem revokeBuckets_spec {order : List BackendId} (hnodup : order.Nodup) (revoked : Nat) :
    (∀ id, (revokeBuckets set st revoked order).1.registry.sessions.bucket id =
      if id ∈ order then (st.registry.sessions.bucket id).filter fun s => !set.isRevoked s.identity
      else st.registry.sessions.bucket id) ∧
    (revokeBuckets set st revoked order).2 = revoked + (order.map fun id =>
      ((st.registry.sessions.bucket id).filter fun s => set.isRevoked s.identity).length).sum := by
  induction order generalizing st revoked with
  | nil => exact ⟨fun id => by simp [revokeBuckets], by simp [revokeBuckets]⟩
  | cons id' rest ih =>
    obtain ⟨hnot, hrest⟩ := List.nodup_cons.mp hnodup
    obtain ⟨hbuckets, hcount⟩ := ih (st.revokeBucket set id').1 hrest
      (revoked + (st.revokeBucket set id').2)
    rw [revokeBuckets]
    refine ⟨?_, ?_⟩
    · intro id
      rw [hbuckets id, bucket_revokeBucket]
      by_cases hid : id = id'
      · subst hid
        simp [hnot]
      · simp [hid]
    · have hothers : ∀ id ∈ rest, (st.revokeBucket set id').1.registry.sessions.bucket id =
          st.registry.sessions.bucket id := by
        intro id hid
        have hne : id ≠ id' := fun heq => hnot (heq ▸ hid)
        rw [bucket_revokeBucket, if_neg hne]
      rw [hcount, List.map_cons, List.sum_cons, List.map_congr_left fun id hid => by
        rw [hothers id hid]]
      simp only [revokeBucket]
      omega

variable (order : List BackendId)

theorem maxSessions_revokeBuckets (revoked : Nat) :
    (revokeBuckets set st revoked order).1.registry.maxSessionsPerBackend =
      st.registry.maxSessionsPerBackend := by
  induction order generalizing st revoked with
  | nil => rfl
  | cons id rest ih =>
    rw [revokeBuckets, ih]
    rfl

theorem revokeMatching_spec (rank : BackendId → Nat) :
    (∀ id, (st.revokeMatching set rank).1.registry.sessions.bucket id =
      (st.registry.sessions.bucket id).filter fun s => !set.isRevoked s.identity) ∧
    (st.revokeMatching set rank).2 = ∑ id ∈ st.registry.sessions.keys.toFinset,
      ((st.registry.sessions.bucket id).filter fun s => set.isRevoked s.identity).length := by
  obtain ⟨hbuckets, hcount⟩ := st.revokeBuckets_spec set
    (st.registry.nodup_visitOrder rank) 0
  refine ⟨?_, ?_⟩
  · intro id
    simp only [revokeMatching]
    rw [DashMap.bucket_retain_nonempty, hbuckets id]
    split
    · rfl
    · rename_i hnot
      -- What is not visited has no bucket.
      rw [(st.registry.visitOrder_perm rank).mem_iff] at hnot
      rw [st.registry.bucket_of_not_mem_keys hnot, List.filter_nil]
  · simp only [revokeMatching]
    rw [hcount, Nat.zero_add, List.sum_toFinset _ (AList.keys_nodup _)]
    exact ((st.registry.visitOrder_perm rank).map _).sum_eq

theorem registry_closeBuckets : (order.foldl closeBucket st).registry = st.registry := by
  induction order generalizing st with
  | nil => rfl
  | cons id rest ih => exact ih (st.closeBucket id)

/-! ## The buckets and the list -/

/-- The buckets hold the sessions of the list, each under its own backend and in order. -/
structure Lists (cap : UInt32) (roster : List TunnelSession) (st : TunnelState) : Prop where
  cap_eq : st.registry.maxSessionsPerBackend = cap
  bucket_eq : ∀ id, st.registry.sessions.bucket id = Roster.backend roster id

variable {cap : UInt32} {roster : List TunnelSession} {st}

theorem lists_new (cap : UInt32) : (new cap).Lists cap [] :=
  ⟨rfl, fun _ => rfl⟩

/-- Every session of the list has a bucket. -/
theorem Lists.mem_keys (h : st.Lists cap roster) :
    ∀ s ∈ roster, s.backendId ∈ st.registry.sessions.keys.toFinset := by
  intro s hs
  have hmem : s ∈ st.registry.sessions.bucket s.backendId := by
    rw [h.bucket_eq]
    exact List.mem_filter.mpr ⟨hs, by simp⟩
  exact List.mem_toFinset.mpr (DashMap.mem_keys_of_mem_bucket hmem)

theorem Lists.totalSessions_eq (h : st.Lists cap roster) :
    st.registry.totalSessions = roster.length := by
  have htotal := DashMap.total_eq_sum_bucket List.length st.registry.sessions
  simp only [h.bucket_eq] at htotal
  exact htotal.trans (Roster.sum_length_backend h.mem_keys)

theorem Lists.revoked_eq (h : st.Lists cap roster) (rank : BackendId → Nat) :
    (st.revokeMatching set rank).2 =
      (roster.filter fun s => set.isRevoked s.identity).length := by
  rw [(st.revokeMatching_spec set rank).2]
  simp only [h.bucket_eq, ← Roster.backend_filter]
  exact Roster.sum_length_backend fun s hs => h.mem_keys s (List.mem_filter.mp hs).1

theorem Lists.register (h : st.Lists cap roster) (s : TunnelSession) :
    (st.call (.register s)).1.Lists cap (Roster.call cap roster (.register s)).1 ∧
      (st.call (.register s)).2 = (Roster.call cap roster (.register s)).2 := by
  have hcap := h.cap_eq
  have hbucket := h.bucket_eq s.backendId
  simp only [TunnelState.call, Roster.call]
  by_cases hfull : cap.toNat ≤ (Roster.backend roster s.backendId).length
  · rw [TunnelRegistry.register_of_full (by rw [hcap, hbucket]; exact hfull), if_pos hfull]
    refine ⟨⟨hcap, ?_⟩, by rw [hcap]⟩
    intro id
    exact (TunnelRegistry.bucket_insert_bucket s.backendId id).trans (h.bucket_eq id)
  · have hroom : ¬ st.registry.maxSessionsPerBackend.toNat ≤
        (st.registry.sessions.bucket s.backendId).length := by
      rw [hcap, hbucket]
      exact hfull
    obtain ⟨hsessions, hok⟩ := TunnelRegistry.sessions_register_of_room hroom
    rw [if_neg hfull]
    refine ⟨⟨?_, ?_⟩, by rw [hok]⟩
    · exact (TunnelRegistry.maxSessions_register s).trans hcap
    · intro id
      dsimp only
      rw [hsessions, DashMap.bucket_insert, Roster.backend_append, h.bucket_eq, h.bucket_eq]
      split
      · rename_i hid
        rw [hid]
      · rfl

/-- Every whole call does to the buckets what it does to the list, and answers the same. -/
theorem Lists.call (h : st.Lists cap roster) (c : WholeCall) :
    (st.call c).1.Lists cap (Roster.call cap roster c).1 ∧
      (st.call c).2 = (Roster.call cap roster c).2 := by
  cases c with
  | register s => exact h.register s
  | deregister id' sid =>
    simp only [TunnelState.call, Roster.call]
    refine ⟨⟨?_, ?_⟩, ?_⟩
    · exact (TunnelRegistry.maxSessions_deregister id' sid).trans h.cap_eq
    · intro id
      rw [TunnelRegistry.bucket_deregister, Roster.backend_filter, h.bucket_eq,
        Roster.filter_names]
    · rw [TunnelRegistry.deregister_found, Roster.any_names, h.bucket_eq]
  | deregisterAll id' =>
    simp only [TunnelState.call, Roster.call, TunnelRegistry.deregisterAll]
    refine ⟨⟨h.cap_eq, ?_⟩, ?_⟩
    · intro id
      dsimp only
      rw [DashMap.bucket_remove, Roster.backend_filter, h.bucket_eq, Roster.filter_backendId]
    · rw [TunnelRegistry.sessionCount, h.bucket_eq]
  | recordHeartbeat id' sid now =>
    simp only [TunnelState.call, Roster.call]
    refine ⟨⟨h.cap_eq, ?_⟩, ?_⟩
    · intro id
      rw [TunnelRegistry.bucket_recordHeartbeat, Roster.backend_stamp, h.bucket_eq]
    · rw [Roster.any_names, ← h.bucket_eq]
      rfl
  | revokeMatching set rank =>
    simp only [TunnelState.call, Roster.call]
    refine ⟨⟨?_, ?_⟩, by rw [h.revoked_eq]⟩
    · exact (maxSessions_revokeBuckets st set _ 0).trans h.cap_eq
    · intro id
      rw [(st.revokeMatching_spec set rank).1, Roster.backend_filter, h.bucket_eq]
  | shutdownAll rank =>
    refine ⟨⟨?_, fun _ => rfl⟩, rfl⟩
    show ((st.registry.visitOrder rank).foldl closeBucket st).registry.maxSessionsPerBackend = cap
    rw [registry_closeBuckets]
    exact h.cap_eq

/-- After any sequence of calls the buckets hold a list with room for no more than the cap. -/
theorem lists_afterCalls (cap : UInt32) (calls : List WholeCall) :
    ∃ roster, (afterCalls cap calls).Lists cap roster ∧
      ∀ id, (Roster.backend roster id).length ≤ cap.toNat := by
  refine ⟨run (fun roster c => (Roster.call cap roster c).1) [] calls, ?_, ?_⟩
  · exact @run_related _ _ _ (fun st c => (TunnelState.call st c).1) _
      (fun st roster => st.Lists cap roster) (fun st roster c h => (h.call c).1) _ _
      (lists_new cap) calls
  · exact @run_invariant_of_step _ _ _ (fun roster => ∀ id, (Roster.backend roster id).length ≤ _)
      (fun roster c h => Roster.call_bounded h c) _ (fun _ => Nat.zero_le _) calls

/-- The sessions of the list are counted by any backends that include all with sessions. -/
theorem Lists.backendId_mem (h : st.Lists cap roster) {ids : Finset BackendId}
    (hids : ∀ id, 0 < st.registry.sessionCount id → id ∈ ids) : ∀ s ∈ roster, s.backendId ∈ ids := by
  intro s hs
  apply hids
  rw [TunnelRegistry.sessionCount, h.bucket_eq]
  exact List.length_pos_of_mem (List.mem_filter.mpr ⟨hs, by simp⟩)

end TunnelState

end Reduction
