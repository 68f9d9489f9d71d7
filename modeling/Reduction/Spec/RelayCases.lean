import Reduction.Native.RawRelay
import Reduction.Native.TcpIngress
import Reduction.Spec.AttemptCases

/-!
# What a raw stream and a TCP connection can do

`rawStream_case` and `connection_case` say once how `handle_raw_stream` and
`handle_connection` can end: at which gate a client is turned away, and with
which gates behind it a backend is dialed, with the whole trace in every case.
-/

namespace Reduction

open Traced

/-! ## Relays -/

/-- The trace of a guard that goes out of scope. -/
def guardDrops {R : Type} (guard : Option HalfOpenGuard) : List (RelayEvent R) :=
  guard.toList.map .guardDropped

theorem dropHalfOpen_events {R : Type} (guard : Option HalfOpenGuard) :
    (dropHalfOpen guard : Traced (RelayEvent R) Unit).events = guardDrops guard := by
  cases guard <;> rfl

/-- An outcome recorded with a circuit breaker. -/
def RelayEvent.outcome? {R : Type} : RelayEvent R → Option (BackendId × Outcome)
  | .recordFailure id => some (id, .failure)
  | .recordSuccess id => some (id, .success)
  | _ => none

theorem mem_relay_recordFailure {R : Type} {events : List (RelayEvent R)} {id : BackendId} :
    .recordFailure id ∈ events ↔ (id, Outcome.failure) ∈ events.filterMap RelayEvent.outcome? := by
  rw [List.mem_filterMap]
  constructor
  · intro h
    exact ⟨_, h, rfl⟩
  · rintro ⟨e, he, hout⟩
    cases e with
    | recordFailure id' =>
      obtain ⟨rfl, -⟩ := Prod.mk.inj (Option.some.inj hout)
      exact he
    | recordSuccess id' => cases hout
    | _ => cases hout

/-- What `relay_bidirectional` returns. -/
theorem relayBidirectional_case (env : RelayEnv) :
    (∃ stats, relayBidirectional env = .ok stats ∧ firstError env.ios = none) ∨
    ∃ side msg e, relayBidirectional env = .error e ∧ firstError env.ios = some (side, msg) := by
  unfold relayBidirectional
  cases firstError env.ios with
  | none => exact .inl ⟨_, rfl, rfl⟩
  | some failure => exact .inr ⟨failure.1, failure.2, _, rfl, rfl⟩

/-! ## Raw streams -/

/-- The trace of a dial and of what follows it. -/
inductive RawRelayCase (env : RawStreamEnv) (b : BackendConfig) :
    List (RelayEvent RawRefusal) → Prop
  | undialed (e : ReductionError) (hopen : env.acquireError b = some e) :
      RawRelayCase env b [.dialed b, .recordFailure b.id]
  | relayed (stats : RelayStats) (hopen : env.acquireError b = none)
      (hok : firstError env.relay.ios = none) :
      RawRelayCase env b [.dialed b, .relaying b, .recordSuccess b.id, .relayed stats.total]
  | failed (side : Side) (msg : String) (hopen : env.acquireError b = none)
      (hfailed : firstError env.relay.ios = some (side, msg)) :
      RawRelayCase env b [.dialed b, .relaying b, .recordFailure b.id, .relayError]

theorem relayRawStream_case (env : RawStreamEnv) (b : BackendConfig) :
    RawRelayCase env b (relayRawStream env b).events := by
  cases hopen : env.acquireError b with
  | some e =>
    have hevents : (relayRawStream env b).events = [.dialed b, .recordFailure b.id] := by
      simp [relayRawStream, hopen]
    rw [hevents]
    exact .undialed e hopen
  | none =>
    rcases relayBidirectional_case env.relay with ⟨stats, hrelay, hok⟩ |
      ⟨side, msg, e, hrelay, hfailed⟩
    · have hevents : (relayRawStream env b).events =
          [.dialed b, .relaying b, .recordSuccess b.id, .relayed stats.total] := by
        simp [relayRawStream, hopen, hrelay, recordRelayOutcome]
      rw [hevents]
      exact .relayed stats hopen hok
    · have hevents : (relayRawStream env b).events =
          [.dialed b, .relaying b, .recordFailure b.id, .relayError] := by
        simp [relayRawStream, hopen, hrelay, recordRelayOutcome]
      rw [hevents]
      exact .failed side msg hopen hfailed

/-- The answer of `check_admission` to a raw stream. -/
abbrev RawStreamEnv.admission (env : RawStreamEnv) : Except RejectReason Unit :=
  checkAdmission env.acl env.rateLimited env.clientIp env.identity env.revocation

/-- The gates that a raw stream has passed when the backend is dialed. -/
structure RawGates (env : RawStreamEnv) (b : BackendConfig) (answer : CircuitState)
    (guard : Option HalfOpenGuard) : Prop where
  admitted : env.admission = .ok ()
  authorized : ∃ identity backendId pool, env.identity = some identity ∧
    env.routingHeader = .ok backendId ∧ env.authz.isAllowed backendId identity = true ∧
    env.backendPools backendId = some pool ∧
    pool.selectWithPressureExcluding env.clientIp env.balancer [] = some b
  checked : env.circuit b.id = (answer, guard)
  closed : answer ≠ .open
  permitted : env.permit b = true

/-- How `handle_raw_stream` can end. -/
inductive RawStreamCase (env : RawStreamEnv) : List (RelayEvent RawRefusal) → Prop
  | unadmitted (reason : RejectReason) (hadmission : env.admission = .error reason) :
      RawStreamCase env [.rejected (.admission reason)]
  | unread (hadmitted : env.admission = .ok ()) : RawStreamCase env []
  | refused (hadmitted : env.admission = .ok ()) (reason : RawRefusal)
      (hreason : ∀ r, reason ≠ .admission r) : RawStreamCase env [.rejected reason]
  | circuitOpen (hadmitted : env.admission = .ok ()) (b : BackendConfig)
      (guard : Option HalfOpenGuard) :
      RawStreamCase env
        (.checked b.id .open guard :: .rejected .circuitOpen :: guardDrops guard)
  | noPermit (hadmitted : env.admission = .ok ()) (b : BackendConfig) (answer : CircuitState)
      (guard : Option HalfOpenGuard) :
      RawStreamCase env
        (.checked b.id answer guard :: .rejected .connectionLimit :: guardDrops guard)
  | dialed (b : BackendConfig) (answer : CircuitState) (guard : Option HalfOpenGuard)
      (hgates : RawGates env b answer guard) (events : List (RelayEvent RawRefusal))
      (hrelay : RawRelayCase env b events) :
      RawStreamCase env (.checked b.id answer guard :: .permitAcquired b.id ::
        (events ++ .permitReleased b.id :: guardDrops guard))

/-- From the choice of a backend on. -/
theorem gateRawStream_case {env : RawStreamEnv} {identity : PeerIdentity} {backendId : Bytes}
    {pool : BackendPool}
    (hadmission : env.admission = .ok ())
    (hidentity : env.identity = some identity) (hheader : env.routingHeader = .ok backendId)
    (hallowed : env.authz.isAllowed backendId identity = true)
    (hpool : env.backendPools backendId = some pool) :
    RawStreamCase env (gateRawStream env pool).events := by
  unfold gateRawStream
  cases hselect : pool.selectWithPressureExcluding env.clientIp env.balancer [] with
  | none => exact .refused hadmission .noBackend (by simp)
  | some b =>
    rcases hcircuit : env.circuit b.id with ⟨answer, guard⟩
    by_cases hopen : answer = .open
    · subst hopen
      simp only [hcircuit, events_bind, events_emit, if_true, dropHalfOpen_events, events_pure,
        List.append_nil]
      exact .circuitOpen hadmission b guard
    · cases hpermit : env.permit b with
      | false =>
        simp only [hcircuit, hopen, hpermit, events_bind, events_emit, if_false, Bool.false_eq_true,
          dropHalfOpen_events, events_pure, List.append_nil]
        exact .noPermit hadmission b answer guard
      | true =>
        simp only [hcircuit, hopen, hpermit, events_bind, events_emit, if_false, if_true,
          dropHalfOpen_events, events_pure, List.append_nil]
        exact .dialed b answer guard
          { admitted := hadmission
            authorized := ⟨identity, backendId, pool, hidentity, hheader, hallowed, hpool, hselect⟩
            checked := hcircuit
            closed := hopen
            permitted := hpermit } _ (relayRawStream_case env b)

theorem rawStream_case (env : RawStreamEnv) : RawStreamCase env (handleRawStream env).events := by
  cases hadmission : checkAdmission env.acl env.rateLimited env.clientIp env.identity
      env.revocation with
  | error reason =>
    simp only [handleRawStream, authorizeRawEdge, hadmission, events_bind, events_emit, val_bind,
      val_pure, events_pure, List.append_nil]
    exact .unadmitted reason hadmission
  | ok admitted =>
    cases hidentity : env.identity with
    | none =>
      have hnamed := hadmission
      rw [hidentity] at hnamed
      simp only [handleRawStream, authorizeRawEdge, hidentity, hnamed]
      exact .unread hadmission
    | some identity =>
      have hnamed := hadmission
      rw [hidentity] at hnamed
      cases hheader : env.routingHeader with
      | error e =>
        simp only [handleRawStream, authorizeRawEdge, hidentity, hnamed, hheader]
        exact .unread hadmission
      | ok backendId =>
        cases hallowed : env.authz.isAllowed backendId identity with
        | false =>
          simp only [handleRawStream, authorizeRawEdge, hidentity, hnamed, hheader, hallowed]
          exact .refused hadmission .unauthorized (by simp)
        | true =>
          cases hpool : env.backendPools backendId with
          | none =>
            simp only [handleRawStream, authorizeRawEdge, hidentity, hnamed, hheader, hallowed,
              if_true, events_bind, events_pure, val_pure, hpool, List.append_nil]
            exact .unread hadmission
          | some pool =>
            simp only [handleRawStream, authorizeRawEdge, hidentity, hnamed, hheader, hallowed,
              if_true, events_bind, events_pure, val_pure, hpool, List.nil_append]
            exact gateRawStream_case hadmission hidentity hheader hallowed hpool

/-! ## TCP connections -/

/-- The trace of a dial and of what follows it. -/
inductive TcpRelayCase (env : TcpConnEnv) (b : BackendConfig) :
    List (RelayEvent TcpDropReason) → Prop
  | undialed (e : ReductionError) (hopen : env.openError b = some e) :
      TcpRelayCase env b [.dialed b, .recordFailure b.id, .rejected .protocol]
  | relayed (stats : RelayStats) (hopen : env.openError b = none)
      (hok : firstError env.relay.ios = none) :
      TcpRelayCase env b [.dialed b, .relaying b, .recordSuccess b.id, .relayed stats.total]
  | failed (side : Side) (msg : String) (hopen : env.openError b = none)
      (hfailed : firstError env.relay.ios = some (side, msg)) :
      TcpRelayCase env b [.dialed b, .relaying b, .recordFailure b.id, .rejected .protocol]

theorem relayConnection_case (env : TcpConnEnv) (b : BackendConfig) :
    TcpRelayCase env b (relayConnection env b).events := by
  cases hopen : env.openError b with
  | some e =>
    have hevents : (relayConnection env b).events =
        [.dialed b, .recordFailure b.id, .rejected .protocol] := by
      simp [relayConnection, hopen]
    rw [hevents]
    exact .undialed e hopen
  | none =>
    rcases relayBidirectional_case env.relay with ⟨stats, hrelay, hok⟩ |
      ⟨side, msg, e, hrelay, hfailed⟩
    · have hevents : (relayConnection env b).events =
          [.dialed b, .relaying b, .recordSuccess b.id, .relayed stats.total] := by
        simp [relayConnection, hopen, hrelay]
      rw [hevents]
      exact .relayed stats hopen hok
    · have hevents : (relayConnection env b).events =
          [.dialed b, .relaying b, .recordFailure b.id, .rejected .protocol] := by
        simp [relayConnection, hopen, hrelay]
      rw [hevents]
      exact .failed side msg hopen hfailed

/-- How `handle_connection` can end. -/
inductive ConnectionCase (pool : BackendPool) (peer : SocketAddr) (env : TcpConnEnv) :
    List (RelayEvent TcpDropReason) → Prop
  | noBackend : ConnectionCase pool peer env [.rejected .noBackend]
  | circuitOpen (b : BackendConfig) (guard : Option HalfOpenGuard) :
      ConnectionCase pool peer env
        (.checked b.id .open guard :: .rejected .circuitOpen :: guardDrops guard)
  | dialed (b : BackendConfig) (answer : CircuitState) (guard : Option HalfOpenGuard)
      (hselect : pool.select peer.ip env.weightFactor env.ln = some b)
      (hcircuit : env.circuit b.id = (answer, guard)) (hclosed : answer ≠ .open)
      (events : List (RelayEvent TcpDropReason)) (hrelay : TcpRelayCase env b events) :
      ConnectionCase pool peer env (.checked b.id answer guard :: (events ++ guardDrops guard))

theorem connection_case (pool : BackendPool) (peer : SocketAddr) (env : TcpConnEnv) :
    ConnectionCase pool peer env (handleConnection pool peer env).events := by
  unfold handleConnection
  cases hselect : pool.select peer.ip env.weightFactor env.ln with
  | none => exact .noBackend
  | some b =>
    rcases hcircuit : env.circuit b.id with ⟨answer, guard⟩
    by_cases hopen : answer = .open
    · subst hopen
      simp only [hcircuit, events_bind, events_emit, if_true, dropHalfOpen_events]
      exact .circuitOpen b guard
    · simp only [hcircuit, hopen, events_bind, events_emit, if_false, dropHalfOpen_events]
      exact .dialed b answer guard hselect hcircuit hopen _ (relayConnection_case env b)

end Reduction
