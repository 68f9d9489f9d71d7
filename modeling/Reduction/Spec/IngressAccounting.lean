import Reduction.ForStd.Interleaving
import Reduction.ForStd.Tasks
import Reduction.Native.AcceptLoop
import Reduction.Spec.RelayCases

/-!
# The books of a TCP ingress

Whatever the loop and the tasks do, and in which order: every connection that was
accepted is settled once, by a relay or by a drop under one reason, and until then
it is in progress.

- `handleConnection_lawful`: the whole trace of a connection settles it once, and
  gives an outcome to the backend whose breaker let it pass
- `AcceptLoop.inv_step`: the books balance after every step
- `ingress_accounting`: at every point of every run
-/

namespace Reduction

open Interleaving Run

/-! ## One connection -/

namespace RelayEvent

/-- The event settles its connection. -/
def isSettlement : RelayEvent TcpDropReason → Bool
  | .rejected _ | .relayed _ => true
  | _ => false

/-- The backend whose breaker lets the connection pass. -/
def passed? : RelayEvent TcpDropReason → Option BackendId
  | .checked id answer _ => if answer = .open then none else some id
  | _ => none

end RelayEvent

/-- A whole trace: it settles the connection once, it gives as many outcomes as there are breakers
    passed, and only its first event can pass one. -/
structure LawfulTrace (trace : List (RelayEvent TcpDropReason)) : Prop where
  settles : trace.countP RelayEvent.isSettlement = 1
  outcomes : (trace.filterMap RelayEvent.outcome?).map Prod.fst =
    trace.filterMap RelayEvent.passed?
  first : trace.tail.filterMap RelayEvent.passed? = []

theorem lawful_rejected (reason : TcpDropReason) : LawfulTrace [.rejected reason] :=
  ⟨rfl, rfl, rfl⟩

theorem handleConnection_lawful (pool : BackendPool) (peer : SocketAddr) (env : TcpConnEnv) :
    LawfulTrace (handleConnection pool peer env).events := by
  have hcase := connection_case pool peer env
  generalize (handleConnection pool peer env).events = events at hcase ⊢
  cases hcase with
  | noBackend => exact lawful_rejected .noBackend
  | circuitOpen b guard => cases guard <;> exact ⟨rfl, rfl, rfl⟩
  | dialed b answer guard hselect hcircuit hclosed events hrelay =>
    have hpassed : (RelayEvent.checked b.id answer guard : RelayEvent TcpDropReason).passed? =
        some b.id := if_neg hclosed
    cases hrelay with
    | undialed e hopen =>
      cases guard <;> exact ⟨rfl, by rw [List.filterMap_cons_some hpassed]; rfl, rfl⟩
    | relayed stats hopen hok =>
      cases guard <;> exact ⟨rfl, by rw [List.filterMap_cons_some hpassed]; rfl, rfl⟩
    | failed side msg hopen hfailed =>
      cases guard <;> exact ⟨rfl, by rw [List.filterMap_cons_some hpassed]; rfl, rfl⟩

namespace Connection

/-- How often the connection has been settled. -/
def settlements (c : Connection) : Nat := c.trace.countP RelayEvent.isSettlement

/-- The backends whose breakers have let it pass. -/
def passed (c : Connection) : List BackendId := c.trace.filterMap RelayEvent.passed?

/-- The backends that it has given an outcome to. -/
def outcomes (c : Connection) : List BackendId :=
  (c.trace.filterMap RelayEvent.outcome?).map Prod.fst

structure Valid (c : Connection) : Prop where
  lawful : LawfulTrace (c.trace ++ c.todo)
  ended : c.ended = true → c.todo = []

variable {c : Connection}

theorem Valid.settlements_le (h : c.Valid) : c.settlements ≤ 1 := by
  have hall := h.lawful.settles
  rw [List.countP_append] at hall
  unfold settlements
  omega

theorem Valid.settled (h : c.Valid) (hended : c.ended = true) : c.settlements = 1 := by
  have hall := h.lawful.settles
  rw [h.ended hended, List.append_nil] at hall
  exact hall

theorem Valid.outcomes_eq (h : c.Valid) (hended : c.ended = true) : c.outcomes = c.passed := by
  have hall := h.lawful.outcomes
  rw [h.ended hended, List.append_nil] at hall
  exact hall

/-- All that can be passed has been passed with the first event. -/
theorem Valid.outcomes_initial (h : c.Valid) : c.outcomes <+: c.passed ∧ c.passed.length ≤ 1 := by
  have hall := h.lawful.outcomes
  have hfirst := h.lawful.first
  unfold outcomes passed
  cases htrace : c.trace with
  | nil => exact ⟨List.nil_prefix, Nat.zero_le _⟩
  | cons e rest =>
    rw [htrace] at hall hfirst
    rw [List.cons_append, List.tail_cons, List.filterMap_append, List.append_eq_nil_iff] at hfirst
    obtain ⟨hrest, htodo⟩ := hfirst
    rw [List.filterMap_append, List.map_append, List.filterMap_append, htodo, List.append_nil]
      at hall
    refine ⟨⟨_, hall⟩, ?_⟩
    rw [← List.singleton_append, List.filterMap_append, hrest, List.append_nil]
    exact List.length_filterMap_le _ [e]

/-- What a task does next moves from its future to its past. -/
theorem Valid.next {e : RelayEvent TcpDropReason} {todo : List (RelayEvent TcpDropReason)}
    (h : c.Valid) (htodo : c.todo = e :: todo) :
    ({ c with trace := c.trace ++ [e], todo } : Connection).Valid := by
  have hended : c.ended ≠ true := by
    intro hended
    rw [h.ended hended] at htodo
    cases htodo
  refine ⟨?_, fun h => absurd h hended⟩
  show LawfulTrace (c.trace ++ [e] ++ todo)
  rw [List.append_assoc, List.singleton_append, ← htodo]
  exact h.lawful

theorem settlements_next (c : Connection) (e : RelayEvent TcpDropReason)
    (todo : List (RelayEvent TcpDropReason)) :
    ({ c with trace := c.trace ++ [e], todo } : Connection).settlements =
      c.settlements + if e.isSettlement then 1 else 0 := by
  unfold settlements
  rw [List.countP_append, List.countP_singleton]

end Connection

/-! ## The books -/

namespace TcpIngressCounters

/-- All connections that have been counted as relayed or as dropped. -/
def settled (c : TcpIngressCounters) : Nat := c.relayed + c.totalDropped

variable (c : TcpIngressCounters)

theorem settled_recordDrop (reason : TcpDropReason) :
    (c.recordDrop reason).settled = c.settled + 1 := by
  cases reason <;> simp [settled, totalDropped, recordDrop, Function.update] <;> omega

variable (e : RelayEvent TcpDropReason)

theorem settled_record : (c.record e).settled = c.settled + if e.isSettlement then 1 else 0 := by
  cases e with
  | rejected reason => exact c.settled_recordDrop reason
  | relayed bytes =>
    show c.relayed + 1 + c.totalDropped = c.relayed + c.totalDropped + 1
    omega
  | _ => rfl

theorem accepted_record : (c.record e).accepted = c.accepted := by
  cases e <;> rfl

end TcpIngressCounters

namespace AcceptPhase

/-- The loop holds a connection that it has accepted. -/
def held : AcceptPhase → Nat
  | .accepting | .stopped => 0
  | _ => 1

/-- The loop holds a permit for it. -/
def reserved : AcceptPhase → Nat
  | .spawning _ => 1
  | _ => 0

end AcceptPhase

namespace AcceptLoop

/-- Accepted, and not settled yet. -/
def inProgress (s : AcceptLoop) : Nat :=
  s.phase.held + s.connections.countP fun c => c.settlements = 0

/-- The tasks that have not ended. -/
def running (s : AcceptLoop) : Nat := playing Connection.ended s.connections false

/-- The books of a loop that was started with `permits`. -/
structure Balanced (permits : Nat) (s : AcceptLoop) : Prop where
  valid : ∀ c ∈ s.connections, c.Valid
  accepted : s.counters.accepted = s.phase.held + s.connections.length
  settled : s.counters.settled = (s.connections.map Connection.settlements).sum
  permits : s.permits + s.running + s.phase.reserved = permits

variable {permits : Nat} {s : AcceptLoop} (ingress : TcpIngress)

variable (listener : TcpListener)

theorem balanced_new : (new listener).Balanced listener.maxConnections.toNat :=
  { valid := List.forall_mem_nil _
    accepted := rfl
    settled := rfl
    permits := rfl }

theorem Balanced.advance (h : s.Balanced permits) : (s.advance ingress).Balanced permits := by
  obtain ⟨hvalid, haccepted, hsettled, hpermits⟩ := h
  unfold AcceptLoop.advance
  unfold running at hpermits
  cases hphase : s.phase with
  | accepting => exact ⟨hvalid, haccepted, hsettled, hpermits⟩
  | stopped => exact ⟨hvalid, haccepted, hsettled, hpermits⟩
  | admitting conn =>
    rw [hphase] at haccepted hpermits
    dsimp only
    cases admitConnection ingress.acl conn.rateLimited conn.peer.ip with
    | error reason => exact ⟨hvalid, haccepted, hsettled, hpermits⟩
    | ok _ => exact ⟨hvalid, haccepted, hsettled, hpermits⟩
  | acquiring conn =>
    rw [hphase] at haccepted hpermits
    by_cases hfree : 0 < s.permits
    · simp only [if_pos hfree]
      refine ⟨hvalid, haccepted, hsettled, ?_⟩
      show s.permits - 1 + playing Connection.ended s.connections false + 1 = permits
      simp only [AcceptPhase.reserved] at hpermits
      omega
    · simp only [if_neg hfree]
      exact ⟨hvalid, haccepted, hsettled, hpermits⟩
  | spawning conn =>
    rw [hphase] at haccepted hpermits
    refine ⟨?_, ?_, ?_, ?_⟩
    · refine forall_mem_concat hvalid ⟨?_, fun h => absurd h Bool.false_ne_true⟩
      exact handleConnection_lawful ingress.pool conn.peer conn.env
    · show s.counters.accepted = 0 + (s.connections ++ [_]).length
      rw [List.length_append, List.length_singleton]
      simp only [AcceptPhase.held] at haccepted
      omega
    · show s.counters.settled = ((s.connections ++ [_]).map Connection.settlements).sum
      rw [List.map_append, List.sum_append, hsettled]
      rfl
    · show s.permits + playing Connection.ended (s.connections ++ [_]) false + 0 = permits
      rw [playing_concat]
      simp only [AcceptPhase.reserved] at hpermits
      simp only [if_true]
      omega
  | dropping conn reason =>
    rw [hphase] at haccepted hpermits
    refine ⟨?_, ?_, ?_, ?_⟩
    · exact forall_mem_concat hvalid ⟨lawful_rejected reason, fun _ => rfl⟩
    · show s.counters.accepted = 0 + (s.connections ++ [_]).length
      rw [List.length_append, List.length_singleton]
      simp only [AcceptPhase.held] at haccepted
      omega
    · show (s.counters.recordDrop reason).settled =
        ((s.connections ++ [_]).map Connection.settlements).sum
      rw [List.map_append, List.sum_append, TcpIngressCounters.settled_recordDrop, hsettled]
      rfl
    · show s.permits + playing Connection.ended (s.connections ++ [_]) false + 0 = permits
      rw [playing_concat]
      exact hpermits

variable {c : Connection}

theorem runTask_end (hended : c.ended = false) (htodo : c.todo = []) (i : Nat) :
    s.runTask i c =
      { s with
        permits := s.permits + 1
        connections := s.connections.set i { c with ended := true } } := by
  simp [AcceptLoop.runTask, hended, htodo]

theorem runTask_next (hended : c.ended = false) {e : RelayEvent TcpDropReason}
    {todo : List (RelayEvent TcpDropReason)} (htodo : c.todo = e :: todo) (i : Nat) :
    s.runTask i c =
      { s with
        counters := s.counters.record e
        connections := s.connections.set i { c with trace := c.trace ++ [e], todo } } := by
  simp [AcceptLoop.runTask, hended, htodo]

theorem Balanced.runTask (h : s.Balanced permits) {i : Nat} (hc : s.connections[i]? = some c) :
    (s.runTask i c).Balanced permits := by
  cases hended : c.ended with
  | true =>
    rw [AcceptLoop.runTask, if_pos hended]
    exact h
  | false =>
    have hvalid := h.valid c (List.mem_of_getElem? hc)
    have haccepted := h.accepted
    have hsettled := h.settled
    have hpermits : s.permits + playing Connection.ended s.connections false + _ = _ := h.permits
    rw [Tasks.sum_eq_add hc] at hsettled
    cases htodo : c.todo with
    | nil =>
      -- The future returns, and its permit is dropped.
      have hmoved := @playing_set _ _ _ Connection.ended _ _ _ hc { c with ended := true } false
      rw [runTask_end hended htodo]
      refine ⟨forall_mem_set h.valid ⟨hvalid.lawful, fun _ => htodo⟩, ?_, ?_, ?_⟩
      · rw [List.length_set]
        exact haccepted
      · rw [Tasks.sum_set hc]
        exact hsettled
      · show s.permits + 1 + playing Connection.ended (s.connections.set i _) false +
          s.phase.reserved = permits
        simp only [hended, if_true, Bool.true_eq_false, if_false] at hmoved
        omega
    | cons e todo =>
      have hmoved := @playing_set _ _ _ Connection.ended _ _ _ hc
        { c with trace := c.trace ++ [e], todo } false
      rw [runTask_next hended htodo]
      refine ⟨forall_mem_set h.valid (hvalid.next htodo), ?_, ?_, ?_⟩
      · rw [List.length_set, TcpIngressCounters.accepted_record]
        exact haccepted
      · rw [Tasks.sum_set hc, TcpIngressCounters.settled_record, Connection.settlements_next]
        omega
      · show s.permits + playing Connection.ended (s.connections.set i _) false +
          s.phase.reserved = permits
        simp only at hmoved
        omega

/-- The books balance after every step. -/
theorem Balanced.step (h : s.Balanced permits) (a : AcceptAction) :
    (s.step ingress a).Balanced permits := by
  cases a with
  | accept conn =>
    unfold AcceptLoop.step
    cases hphase : s.phase with
    | accepting =>
      obtain ⟨hvalid, haccepted, hsettled, hpermits⟩ := h
      rw [hphase] at haccepted hpermits
      refine ⟨hvalid, ?_, hsettled, hpermits⟩
      show s.counters.accepted + 1 = 1 + s.connections.length
      simp only [AcceptPhase.held] at haccepted
      omega
    | _ => exact h
  | acceptFailed => exact h
  | shutdown =>
    unfold AcceptLoop.step
    cases hphase : s.phase with
    | accepting =>
      obtain ⟨hvalid, haccepted, hsettled, hpermits⟩ := h
      rw [hphase] at haccepted hpermits
      exact ⟨hvalid, haccepted, hsettled, hpermits⟩
    | _ => exact h
  | advance => exact h.advance ingress
  | task i =>
    simp only [AcceptLoop.step]
    cases hc : s.connections[i]? with
    | none => exact h
    | some c => exact h.runTask hc

theorem balanced_run (actions : List AcceptAction) :
    (run (step listener.ingress) (new listener) actions).Balanced listener.maxConnections.toNat :=
  @run_invariant_of_step _ _ _ (Balanced listener.maxConnections.toNat)
    (fun _ a h => Balanced.step listener.ingress h a) _ (balanced_new listener) actions

/-- A balance has everything accepted on one side, and the settled and the open on the other. -/
theorem Balanced.accepted_eq (h : s.Balanced permits) :
    s.counters.accepted = s.counters.relayed + s.counters.totalDropped + s.inProgress := by
  have hopen := Tasks.sum_add_countP fun c hc => (h.valid c hc).settlements_le
  have hsettled : s.counters.relayed + s.counters.totalDropped = _ := h.settled
  rw [h.accepted, hsettled, inProgress, ← hopen]
  omega

end AcceptLoop

/-- At every point of every run: what was accepted is relayed, dropped under one of the reasons or
    in progress, and is the connection that the loop holds or one of `connections`; none of these is
    settled twice, and each that has ended is settled; no more tasks run than there are permits; and
    a connection has given an outcome only to the backend whose breaker it has passed, at most one,
    and exactly one when it has ended. -/
theorem ingress_accounting (listener : TcpListener) (actions : List AcceptAction) :
    let s := run (AcceptLoop.step listener.ingress) (.new listener) actions
    s.counters.accepted = s.counters.relayed + s.counters.totalDropped + s.inProgress ∧
    s.counters.accepted = s.phase.held + s.connections.length ∧
    (∀ c ∈ s.connections, c.settlements ≤ 1 ∧ (c.ended = true → c.settlements = 1)) ∧
    s.running ≤ listener.maxConnections.toNat ∧
    ∀ c ∈ s.connections, c.outcomes <+: c.passed ∧ c.passed.length ≤ 1 ∧
      (c.ended = true → c.outcomes = c.passed) := by
  intro s
  have hbalanced : s.Balanced listener.maxConnections.toNat :=
    AcceptLoop.balanced_run listener actions
  refine ⟨hbalanced.accepted_eq, hbalanced.accepted, ?_, ?_, ?_⟩
  · intro c hc
    exact ⟨(hbalanced.valid c hc).settlements_le, (hbalanced.valid c hc).settled⟩
  · have hpermits := hbalanced.permits
    omega
  · intro c hc
    obtain ⟨hinitial, hone⟩ := (hbalanced.valid c hc).outcomes_initial
    exact ⟨hinitial, hone, (hbalanced.valid c hc).outcomes_eq⟩

end Reduction
