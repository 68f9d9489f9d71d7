import Reduction.Native.RateLimit
import Reduction.Spec.FailureOrigins

/-!
# The gates of a raw relay

A raw stream reaches a backend through seven gates.  The first four are those of
the HTTP path, written a second time; the others hold a permit and the guard of a
probe until the call returns.

- `KeyedLimiter.checkAdmission_run`, `KeyedLimiter.rejectBeforeRouting_run`: the
  two admission checks ask the limiter at the same moment, and answer as their
  models without a limiter
- `raw_relay_gates`: what has been passed when a backend is dialed, and what is
  left when the call returns
-/

namespace Reduction

open Http Traced

/-! ## Admission -/

namespace KeyedLimiter

variable {σ : Type} (limiter : KeyedLimiter σ)

/-- The tokens after an admission check: the limiter is asked behind the access rules. -/
def asked (denied : Bool) (clientIp : IpAddr) (tokens : σ) : σ :=
  if denied then tokens else ((limiter.check clientIp).run tokens).2

theorem checkAdmission_run (acl : AccessControl) (clientIp : IpAddr)
    (identity : Option PeerIdentity) (revocation : RevocationSet) (tokens : σ) :
    (limiter.checkAdmission acl clientIp identity revocation).run tokens =
      (Reduction.checkAdmission acl (limiter.refuses tokens clientIp) clientIp identity revocation,
        limiter.asked (!(acl.check clientIp).toBool) clientIp tokens) := by
  unfold checkAdmission Reduction.checkAdmission asked refuses
  cases (acl.check clientIp).toBool with
  | false => rfl
  | true =>
    rcases hcheck : (limiter.check clientIp).run tokens with ⟨answer, tokens'⟩
    simp only [Bool.not_true, Bool.false_eq_true, if_false, StateT.run_bind, hcheck]
    cases answer with
    | error e => rfl
    | ok _ => cases identity <;> rfl

/-- `reject_before_routing` on the limiter answers as its model on what the limiter says. -/
theorem rejectBeforeRouting_run (state : ProxyState) (env : HandlerEnv) (clientIp : IpAddr)
    (identity : Option PeerIdentity) (tokens : σ) :
    (limiter.rejectBeforeRouting state env clientIp identity).run tokens =
      (Reduction.rejectBeforeRouting state { env with rateLimited := limiter.refuses tokens }
        clientIp identity, limiter.asked (env.aclDenies clientIp) clientIp tokens) := by
  unfold rejectBeforeRouting Reduction.rejectBeforeRouting asked refuses
  dsimp only
  cases hacl : env.aclDenies clientIp with
  | true => simp only [if_true, StateT.run_pure]; rfl
  | false =>
    obtain ⟨answer, tokens', hcheck⟩ :
        ∃ answer tokens', (limiter.check clientIp).run tokens = (answer, tokens') := ⟨_, _, rfl⟩
    simp only [Bool.false_eq_true, if_false, StateT.run_bind, hcheck]
    cases answer with
    | error e => rfl
    | ok _ =>
      cases identity with
      | none => cases hauth : state.clientAuth.allowsAnonymous <;> simp only <;> rfl
      | some identity => rfl

end KeyedLimiter

/-- Under mandatory client authentication both checks admit the same clients. -/
theorem checkAdmission_iff_rejectBeforeRouting {state : ProxyState} {http : HandlerEnv}
    {acl : AccessControl} {revocation : RevocationSet} (hauth : state.clientAuth = .required)
    (hacl : ∀ ip, http.aclDenies ip = !(acl.check ip).toBool)
    (hrevoked : ∀ identity, http.isRevoked identity = revocation.isRevoked identity)
    (clientIp : IpAddr) (identity : Option PeerIdentity) :
    checkAdmission acl (http.rateLimited clientIp) clientIp identity revocation = .ok () ↔
      rejectBeforeRouting state http clientIp identity = none := by
  unfold checkAdmission rejectBeforeRouting
  rw [hacl clientIp]
  cases (acl.check clientIp).toBool with
  | false => exact iff_of_false (by simp) (by simp)
  | true =>
    cases http.rateLimited clientIp with
    | true => exact iff_of_false (by simp) (by simp)
    | false =>
      cases identity with
      | none => exact iff_of_false (by simp) (by simp [hauth, ClientAuthPolicy.allowsAnonymous])
      | some identity =>
        simp only [hrevoked]
        cases revocation.isRevoked identity with
        | true => exact iff_of_false (by simp) (by simp)
        | false => exact iff_of_true (by simp) (by simp)

/-! ## The call -/

theorem checkAdmission_eq_ok {acl : AccessControl} {rateLimited : Bool} {clientIp : IpAddr}
    {identity : Option PeerIdentity} {revocation : RevocationSet}
    (h : checkAdmission acl rateLimited clientIp identity revocation = .ok ()) :
    (acl.check clientIp).toBool = true ∧ rateLimited = false ∧
      ∃ named, identity = some named ∧ revocation.isRevoked named = false := by
  unfold checkAdmission at h
  split at h
  · cases h
  · rename_i hacl
    split at h
    · cases h
    · rename_i hlimit
      cases identity with
      | none => cases h
      | some named =>
        refine ⟨by simpa using hacl, by simpa using hlimit, named, rfl, ?_⟩
        by_contra hrevoked
        simp [hrevoked] at h

namespace RelayEvent

variable {R : Type}

/-- A backend that is dialed. -/
def dialed? : RelayEvent R → Option BackendConfig
  | .dialed b => some b
  | _ => none

/-- The backend of a permit that is taken. -/
def permitAcquired? : RelayEvent R → Option BackendId
  | .permitAcquired id => some id
  | _ => none

def permitReleased? : RelayEvent R → Option BackendId
  | .permitReleased id => some id
  | _ => none

/-- The guard of a probe that a breaker has let through. -/
def guardObtained? : RelayEvent R → Option HalfOpenGuard
  | .checked _ _ guard => guard
  | _ => none

def guardDropped? : RelayEvent R → Option HalfOpenGuard
  | .guardDropped guard => some guard
  | _ => none

end RelayEvent

/-- What has been passed when `b` is dialed. -/
structure PassedGates {σ : Type} (limiter : KeyedLimiter σ) (tokens : σ) (env : RawStreamEnv)
    (b : BackendConfig) : Prop where
  allowed : (env.acl.check env.clientIp).toBool = true
  unlimited : limiter.refuses tokens env.clientIp = false
  authorized : ∃ identity backendId pool, env.identity = some identity ∧
    env.revocation.isRevoked identity = false ∧ env.routingHeader = .ok backendId ∧
    env.authz.isAllowed backendId identity = true ∧ env.backendPools backendId = some pool ∧
    pool.selectWithPressureExcluding env.clientIp env.balancer [] = some b
  closed : (env.circuit b.id).1 ≠ .open
  permitted : env.permit b = true

/-- What a call leaves behind: one outcome for each dial, and no permit and no guard. -/
structure Settled (events : List (RelayEvent RawRefusal)) : Prop where
  outcomes : (events.filterMap RelayEvent.outcome?).map Prod.fst =
    (events.filterMap RelayEvent.dialed?).map BackendConfig.id
  permits : events.filterMap RelayEvent.permitReleased? =
    events.filterMap RelayEvent.permitAcquired?
  guards : events.filterMap RelayEvent.guardDropped? =
    events.filterMap RelayEvent.guardObtained?

variable {env : RawStreamEnv} {b : BackendConfig}

theorem RawGates.passed {σ : Type} {limiter : KeyedLimiter σ} {tokens : σ} {answer : CircuitState}
    {guard : Option HalfOpenGuard} (hlimit : env.rateLimited = limiter.refuses tokens env.clientIp)
    (h : RawGates env b answer guard) : PassedGates limiter tokens env b := by
  obtain ⟨hacl, hlimited, named, hnamed, hrevoked⟩ := checkAdmission_eq_ok h.admitted
  obtain ⟨identity, backendId, pool, hidentity, hheader, hallowed, hpool, hselect⟩ := h.authorized
  obtain rfl : named = identity := Option.some.inj (hnamed.symm.trans hidentity)
  exact
    { allowed := hacl
      unlimited := hlimit.symm.trans hlimited
      authorized := ⟨named, backendId, pool, hidentity, hrevoked, hheader, hallowed, hpool, hselect⟩
      closed := by rw [h.checked]; exact h.closed
      permitted := h.permitted }

/-- A stream that is turned away behind its breaker leaves nothing. -/
theorem settled_refused (id : BackendId) (answer : CircuitState) (guard : Option HalfOpenGuard)
    (reason : RawRefusal) :
    Settled (.checked id answer guard :: .rejected reason :: guardDrops guard) := by
  cases guard with
  | none => exact ⟨rfl, rfl, rfl⟩
  | some guard => exact ⟨rfl, rfl, rfl⟩

variable {events : List (RelayEvent RawRefusal)}

theorem settled_dialed (hrelay : RawRelayCase env b events) (answer : CircuitState)
    (guard : Option HalfOpenGuard) :
    Settled (.checked b.id answer guard :: .permitAcquired b.id ::
      (events ++ .permitReleased b.id :: guardDrops guard)) := by
  cases hrelay with
  | undialed e hopen => cases guard <;> exact ⟨rfl, rfl, rfl⟩
  | relayed stats hopen hok => cases guard <;> exact ⟨rfl, rfl, rfl⟩
  | failed side msg hopen hfailed => cases guard <;> exact ⟨rfl, rfl, rfl⟩

theorem handleRawStream_settled (env : RawStreamEnv) : Settled (handleRawStream env).events := by
  have hcase := rawStream_case env
  generalize (handleRawStream env).events = events at hcase ⊢
  cases hcase with
  | unadmitted reason => exact ⟨rfl, rfl, rfl⟩
  | unread => exact ⟨rfl, rfl, rfl⟩
  | refused hadmitted reason => exact ⟨rfl, rfl, rfl⟩
  | circuitOpen hadmitted b guard => exact settled_refused b.id .open guard .circuitOpen
  | noPermit hadmitted b answer guard => exact settled_refused b.id answer guard .connectionLimit
  | dialed b answer guard hgates events hrelay => exact settled_dialed hrelay answer guard

/-- The admission check turns a stream away if and only if the trace says so. -/
theorem admission_refused_iff (env : RawStreamEnv) :
    (∃ reason, .rejected (.admission reason) ∈ (handleRawStream env).events) ↔
      env.admission ≠ .ok () := by
  have hcase := rawStream_case env
  generalize (handleRawStream env).events = events at hcase ⊢
  cases hcase with
  | unadmitted reason hadmission => exact iff_of_true ⟨reason, by simp⟩ (by simp [hadmission])
  | unread hadmitted => exact iff_of_false (by simp) (by simp [hadmitted])
  | refused hadmitted reason hreason =>
    refine iff_of_false ?_ (by simp [hadmitted])
    rintro ⟨r, hmem⟩
    have hrejected := List.mem_singleton.mp hmem
    exact hreason r (RelayEvent.rejected.inj hrejected).symm
  | circuitOpen hadmitted b guard =>
    exact iff_of_false (by simp [guardDrops]) (by simp [hadmitted])
  | noPermit hadmitted b answer guard =>
    exact iff_of_false (by simp [guardDrops]) (by simp [hadmitted])
  | dialed b answer guard hgates events hrelay =>
    refine iff_of_false ?_ (by simp [hgates.admitted])
    cases hrelay <;> simp [guardDrops]

/-- The trace of a relay starts with its only dial. -/
theorem RawRelayCase.dialed_first (h : RawRelayCase env b events) :
    ∃ rest, events = .dialed b :: rest ∧ ∀ b', .dialed b' ∉ rest := by
  cases h with
  | undialed e hopen => exact ⟨_, rfl, by simp⟩
  | relayed stats hopen hok => exact ⟨_, rfl, by simp⟩
  | failed side msg hopen hfailed => exact ⟨_, rfl, by simp⟩

/-- A dial comes behind a permit for the backend, and behind the other gates. -/
theorem dialed_passed {σ : Type} {limiter : KeyedLimiter σ} {tokens : σ} {env : RawStreamEnv}
    {b : BackendConfig} (hlimit : env.rateLimited = limiter.refuses tokens env.clientIp)
    {before after : List (RelayEvent RawRefusal)}
    (h : (handleRawStream env).events = before ++ .dialed b :: after) :
    PassedGates limiter tokens env b ∧ .permitAcquired b.id ∈ before := by
  have hmem : .dialed b ∈ (handleRawStream env).events := by rw [h]; simp
  have hcase := rawStream_case env
  generalize (handleRawStream env).events = events at hcase h hmem
  cases hcase with
  | unadmitted reason => simp at hmem
  | unread => simp at hmem
  | refused hadmitted reason => simp at hmem
  | circuitOpen hadmitted b' guard => simp [guardDrops] at hmem
  | noPermit hadmitted b' answer guard => simp [guardDrops] at hmem
  | dialed b' answer guard hgates events hrelay =>
    obtain ⟨rest, rfl, hrest⟩ := hrelay.dialed_first
    obtain rfl : b = b' := by
      simpa [guardDrops, hrest] using hmem
    refine ⟨hgates.passed hlimit, ?_⟩
    -- Nothing but the breaker's answer and the permit comes before the dial.
    rcases before with _ | ⟨answered, _ | ⟨permit, others⟩⟩
    · cases h
    · cases h
    · simp only [List.cons_append, List.cons.injEq] at h
      obtain ⟨-, hpermit, -⟩ := h
      rw [← hpermit]
      simp

/-- `handle_raw_stream` dials a backend only behind all of its gates; it admits those whom
    `reject_before_routing` admits, with the same question to the limiter; every dial yields one
    outcome for its backend, nothing else yields one, and no permit and no guard is left. -/
theorem raw_relay_gates {σ : Type} (limiter : KeyedLimiter σ) (tokens : σ) (state : ProxyState)
    (http : HandlerEnv) (env : RawStreamEnv) (hauth : state.clientAuth = .required)
    (hacl : ∀ ip, http.aclDenies ip = !(env.acl.check ip).toBool)
    (hrevoked : ∀ identity, http.isRevoked identity = env.revocation.isRevoked identity) :
    let call := (limiter.handleRawStream env).run tokens
    let reject := (limiter.rejectBeforeRouting state http env.clientIp env.identity).run tokens
    (∀ b before after, call.1.events = before ++ .dialed b :: after →
      PassedGates limiter tokens env b ∧ .permitAcquired b.id ∈ before) ∧
    ((∀ reason, .rejected (.admission reason) ∉ call.1.events) ↔ reject.1 = none) ∧
    call.2 = reject.2 ∧
    Settled call.1.events := by
  intro call reject
  let read : RawStreamEnv := { env with rateLimited := limiter.refuses tokens env.clientIp }
  have hreject : reject = (rejectBeforeRouting state
      { http with rateLimited := limiter.refuses tokens } env.clientIp env.identity,
      limiter.asked (http.aclDenies env.clientIp) env.clientIp tokens) :=
    limiter.rejectBeforeRouting_run state http env.clientIp env.identity tokens
  refine ⟨?_, ?_, ?_, handleRawStream_settled read⟩
  · intro b before after h
    obtain ⟨hpassed, hpermit⟩ := @dialed_passed _ limiter tokens read _ rfl _ _ h
    exact ⟨⟨hpassed.allowed, hpassed.unlimited, hpassed.authorized, hpassed.closed,
      hpassed.permitted⟩, hpermit⟩
  · have hrefused := admission_refused_iff read
    have hsame := @checkAdmission_iff_rejectBeforeRouting state
      { http with rateLimited := limiter.refuses tokens } env.acl env.revocation hauth hacl hrevoked
      env.clientIp env.identity
    rw [hreject, ← not_exists]
    exact ((not_congr hrefused).trans not_not).trans hsame
  · rw [hreject, hacl]
    exact congrArg Prod.snd
      (limiter.checkAdmission_run env.acl env.clientIp env.identity env.revocation tokens)

namespace Sample

/-- One bucket for all, with as many tokens as the state says. -/
def countdown : KeyedLimiter Nat :=
  { checkKey := fun _ tokens => (decide (0 < tokens), tokens - 1) }

/-- A request that reads the rules and the revocations of the sample stream. -/
def sameRules : HandlerEnv :=
  { answering .ok with
    aclDenies := fun ip => !(rawReset.acl.check ip).toBool
    isRevoked := rawReset.revocation.isRevoked }

end Sample

open Sample in
/-- With one token left the sample stream takes it and dials `b1`. -/
theorem raw_relay_gates_reset :
    (∃ before after, ((countdown.handleRawStream rawReset).run 1).1.events =
      before ++ .dialed b1 :: after) ∧
    PassedGates countdown 1 rawReset b1 ∧ ((countdown.handleRawStream rawReset).run 1).2 = 0 ∧
    ((countdown.rejectBeforeRouting { state 0 with clientAuth := .required } sameRules
      rawReset.clientIp rawReset.identity).run 1).2 = 0 := by
  have hgates := raw_relay_gates countdown 1 { state 0 with clientAuth := .required } sameRules
    rawReset rfl (fun _ => rfl) fun _ => rfl
  have hdialed : ((countdown.handleRawStream rawReset).run 1).1.events.filterMap
      RelayEvent.dialed? = [b1] := by decide +kernel
  obtain ⟨e, hmem, he⟩ := List.mem_filterMap.mp (hdialed ▸ List.mem_singleton_self b1)
  cases e with
  | dialed b =>
    obtain rfl : b = b1 := Option.some.inj he
    obtain ⟨before, after, hdial⟩ := List.append_of_mem hmem
    exact ⟨⟨before, after, hdial⟩, (hgates.1 _ _ _ hdial).1, rfl, hgates.2.2.1.symm⟩
  | _ => cases he

end Reduction
