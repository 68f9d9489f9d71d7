import Reduction.Native.RegistryWait
import Reduction.Spec.TunnelFairness

/-!
# Whether control peers are kept apart from backends

A control peer registers a session like any backend, and neither `acquire_stream`
nor `is_tunnel_backend` nor `wait_for_session` looks at `is_control_peer`.

- `control_peers_unroutable_iff`: whatever lookups come after a history of
  registrations, control peers stay apart if and only if the history accepted none
- `control_peer_is_dialed`: a stream on the connection of a control peer
-/

namespace Reduction

open Run

/-! ## Registrations and lookups side by side -/

/-- The registry with its callers, and the tasks that wait for sessions. -/
structure RoutingSystem where
  sys : RegistrySystem
  waits : Nat → WaitCall

inductive RoutingAction where
  /-- An idle task calls `register`. -/
  | register (i : Nat) (s : TunnelSession)
  /-- An idle task calls `acquire_stream`. -/
  | acquire (i : Nat) (id : BackendId)
  | advance (i : Nat) (input : CallInput)
  /-- An idle task calls `wait_for_session`. -/
  | wait (j : Nat) (name : Bytes) (deadline : Instant)
  | poll (j : Nat) (input : WaitInput)

namespace RoutingSystem

def start (maxSessionsPerBackend : UInt32) : RoutingSystem :=
  { sys := .init maxSessionsPerBackend, waits := fun _ => .idle }

abbrev registry (r : RoutingSystem) : TunnelRegistry := r.sys.state.registry

def setWait (r : RoutingSystem) (j : Nat) (call : WaitCall) : RoutingSystem :=
  { r with waits := Function.update r.waits j call }

def setRegistry (r : RoutingSystem) (reg : TunnelRegistry) : RoutingSystem :=
  { r with sys := { r.sys with state := { r.sys.state with registry := reg } } }

/-- An action that the state does not permit changes nothing. -/
def step (r : RoutingSystem) : RoutingAction → RoutingSystem
  | .register i s => { r with sys := r.sys.step (.register i s) }
  | .acquire i id => { r with sys := r.sys.step (.call i (.acquireStream id)) }
  | .advance i input => { r with sys := r.sys.step (.advance i input) }
  | .wait j name deadline =>
    match r.waits j with
    | .waiting _ _ _ => r
    | _ => r.setWait j (.waiting name deadline .handle)
  | .poll j input =>
    match r.waits j with
    | .waiting name deadline stage =>
      match r.registry.waitStep name deadline input stage with
      | (reg, .more stage) => (r.setRegistry reg).setWait j (.waiting name deadline stage)
      | (reg, .done found) => (r.setRegistry reg).setWait j (.returned found)
    | _ => r

/-- The step begins a `register` call or goes on with one. -/
def registers (r : RoutingSystem) : RoutingAction → Bool
  | .register _ _ => true
  | .advance i _ => (r.sys.calls i matches .register _ _)
  | _ => false

/-- The step puts the session of a control peer into a bucket. -/
def admitsControlPeer (r : RoutingSystem) : RoutingAction → Bool
  | .advance i _ =>
    match r.sys.calls i with
    | .register s .push => s.isControlPeer && (r.registry.pushSession s).2.isOk
    | _ => false
  | _ => false

/-- The connection on which the step opens a stream. -/
def opens (r : RoutingSystem) : RoutingAction → Option ConnectionId
  | .advance i input =>
    match r.sys.calls i with
    | .op (.openStream conn) => if input.openError.isNone then some conn else none
    | _ => none
  | _ => none

/-- The text for which the step returns `true` from `wait_for_session`. -/
def reports (r : RoutingSystem) : RoutingAction → Option Bytes
  | .poll j input =>
    match r.waits j with
    | .waiting name deadline stage =>
      match (r.registry.waitStep name deadline input stage).2 with
      | .done true => some name
      | _ => none
    | _ => none
  | _ => none

/-- The backend has a session that is not a control peer. -/
def Routable (r : RoutingSystem) (id : BackendId) : Prop :=
  ∃ s ∈ r.registry.sessions.bucket id, s.isControlPeer = false

/-- The connection is that of a control peer with a session. -/
def OfControlPeer (r : RoutingSystem) (conn : ConnectionId) : Prop :=
  ∃ id, ∃ s ∈ r.registry.sessions.bucket id, s.isControlPeer = true ∧ s.connection = conn

/-- What the step does and what the registry says after it take no control peer for a backend. -/
structure Separates (r : RoutingSystem) (a : RoutingAction) : Prop where
  opened : ∀ conn, r.opens a = some conn → ¬ (r.step a).OfControlPeer conn
  backends : ∀ id, (r.step a).registry.isTunnelBackend id = true → (r.step a).Routable id
  reported : ∀ name, r.reports a = some name →
    ∃ id, ArrayString.from? name = some id ∧ (r.step a).Routable id

/-- However lookups go on after the actions, while nobody registers, control peers stay apart. -/
def Unroutable (maxSessionsPerBackend : UInt32) (actions : List RoutingAction) : Prop :=
  ∀ later,
    RunOk step (fun r a => r.registers a = false) (run step (start maxSessionsPerBackend) actions)
      later →
    RunOk step Separates (start maxSessionsPerBackend) (actions ++ later)

end RoutingSystem

/-! ## What the actions do to the sessions -/

/-- A push adds its session if there is room, and nothing else. -/
theorem TunnelRegistry.bucket_pushSession (reg : TunnelRegistry) (s : TunnelSession)
    (id : BackendId) :
    (reg.pushSession s).1.sessions.bucket id =
      if id = s.backendId ∧ (reg.pushSession s).2.isOk = true then reg.sessions.bucket id ++ [s]
      else reg.sessions.bucket id := by
  unfold pushSession
  dsimp only
  by_cases hfull : reg.maxSessionsPerBackend.toNat ≤ (reg.sessions.bucket s.backendId).length
  · rw [if_pos hfull, DashMap.bucket_insert]
    by_cases hid : id = s.backendId
    · simp [hid, Except.isOk, Except.toBool]
    · simp [hid]
  · rw [if_neg hfull, DashMap.bucket_insert]
    by_cases hid : id = s.backendId
    · simp [hid, Except.isOk, Except.toBool]
    · simp [hid]

/-- A bucket that takes a session has room for it. -/
theorem TunnelRegistry.length_lt_of_pushSession {reg : TunnelRegistry} {s : TunnelSession}
    (hok : (reg.pushSession s).2.isOk = true) :
    (reg.sessions.bucket s.backendId).length < reg.maxSessionsPerBackend.toNat := by
  unfold pushSession at hok
  dsimp only at hok
  split at hok
  · cases hok
  · omega

theorem TunnelRegistry.waitStep_sessions (reg : TunnelRegistry) (name : Bytes) (deadline : Instant)
    (input : WaitInput) (stage : WaitStage) :
    (reg.waitStep name deadline input stage).1.sessions = reg.sessions := by
  cases stage with
  | handle =>
    simp only [waitStep, wakeHandle]
    cases (ArrayString.from? name : Option BackendId) <;> rfl
  | arm notify => rfl
  | test notify armed => rfl
  | select notify armed => rfl

/-- A wait that ends well has seen the backend. -/
theorem TunnelRegistry.isTunnelBackendNamed_of_waitStep {reg : TunnelRegistry} {name : Bytes}
    {deadline : Instant} {input : WaitInput} {stage : WaitStage}
    (h : (reg.waitStep name deadline input stage).2 = .done true) :
    reg.isTunnelBackendNamed name = true := by
  cases stage with
  | handle =>
    simp only [waitStep, wakeHandle] at h
    cases hname : (ArrayString.from? name : Option BackendId) with
    | none =>
      rw [hname] at h
      exact Progress.done.inj h
    | some id =>
      rw [hname] at h
      cases h
  | arm notify => cases h
  | test notify armed =>
    simp only [waitStep] at h
    split at h
    · assumption
    · cases h
  | select notify armed =>
    simp only [waitStep] at h
    split at h
    · cases h
    · split at h <;> cases h

/-- A call of `register` or of `acquire_stream` on an open connection, or none. -/
def RegistryCall.routes : RegistryCall → Bool
  | .register _ _ => true
  | call => call.acquires

/-- The sessions are those before the stage, unless it is the one of a `register` that pushes. -/
theorem RegistrySystem.advance_routes {sys : RegistrySystem} {i : Nat}
    (hclosed : sys.state.closed = []) (hcall : (sys.calls i).routes = true) (input : CallInput) :
    ∃ reg call, sys.advance i input =
        { sys with state := { sys.state with registry := reg } }.setCall i call ∧
      call.routes = true ∧
      (reg.sessions = sys.state.registry.sessions ∨
        ∃ s, sys.calls i = .register s .push ∧
          reg.sessions = (sys.state.registry.pushSession s).1.sessions) := by
  cases hi : sys.calls i with
  | register s stage =>
    cases stage with
    | push =>
      obtain ⟨reg, result, hpush⟩ :
        ∃ reg result, sys.state.registry.pushSession s = (reg, result) := ⟨_, _, rfl⟩
      simp only [advance, hi, TunnelRegistry.registerStep, hpush]
      cases result with
      | error e => exact ⟨reg, .done _, rfl, rfl, .inr ⟨s, rfl, by rw [hpush]⟩⟩
      | ok _ => exact ⟨reg, .register s .insertPeer, rfl, rfl, .inr ⟨s, rfl, by rw [hpush]⟩⟩
    | insertPeer =>
      simp only [advance, hi, TunnelRegistry.registerStep]
      refine ⟨_, .register s .notify, rfl, rfl, .inl ?_⟩
      split <;> rfl
    | notify =>
      simp only [advance, hi, TunnelRegistry.registerStep]
      exact ⟨_, .done _, rfl, rfl, .inl rfl⟩
  | _ =>
    have hacquires : (sys.calls i).acquires = true := by
      rw [hi] at hcall ⊢
      exact hcall
    obtain ⟨reg, call, hadvance, hnext, hsessions⟩ := advance_acquires hclosed hacquires input
    refine ⟨reg, call, hadvance, ?_, .inl hsessions⟩
    cases call with
    | register s stage => rfl
    | op o => exact hnext
    | done result => rfl

namespace RoutingSystem

/-- Nothing but registrations and lookups is going on, and no bucket is larger than allowed. -/
structure Calm (r : RoutingSystem) : Prop where
  closed : r.sys.state.closed = []
  calls : ∀ i, (r.sys.calls i).routes = true
  sizes : ∀ id, (r.registry.sessions.bucket id).length < 2 ^ 32

/-- What a step from `r` can lead to. -/
structure Leads (r : RoutingSystem) (a : RoutingAction) (r' : RoutingSystem) : Prop where
  closed : r'.sys.state.closed = r.sys.state.closed
  calls : ∃ i call, call.routes = true ∧ r'.sys.calls = Function.update r.sys.calls i call
  sessions : r'.registry.sessions = r.registry.sessions ∨
    ∃ i input s, a = .advance i input ∧ r.sys.calls i = .register s .push ∧
      r'.registry.sessions = (r.registry.pushSession s).1.sessions

variable {r : RoutingSystem}

/-- A step that begins a call, or none, leaves the sessions alone. -/
theorem leads_of_state (h : r.Calm) (a : RoutingAction) {r' : RoutingSystem}
    (hclosed : r'.sys.state.closed = r.sys.state.closed)
    (hsessions : r'.registry.sessions = r.registry.sessions)
    (hcalls : r'.sys.calls = r.sys.calls) : r.Leads a r' :=
  ⟨hclosed, ⟨0, r.sys.calls 0, h.calls 0, by rw [hcalls, Function.update_eq_self]⟩, .inl hsessions⟩

theorem leads_step (h : r.Calm) (a : RoutingAction) : r.Leads a (r.step a) := by
  cases a with
  | register i s =>
    simp only [step, RegistrySystem.step]
    split
    · exact ⟨rfl, ⟨i, _, rfl, rfl⟩, .inl rfl⟩
    · exact leads_of_state h _ rfl rfl rfl
  | acquire i id =>
    simp only [step, RegistrySystem.step]
    split
    · exact ⟨rfl, ⟨i, _, rfl, rfl⟩, .inl rfl⟩
    · exact leads_of_state h _ rfl rfl rfl
  | advance i input =>
    obtain ⟨reg, call, hadvance, hcall, hsessions⟩ :=
      RegistrySystem.advance_routes h.closed (h.calls i) input
    simp only [step, RegistrySystem.step, hadvance]
    refine ⟨rfl, ⟨i, call, hcall, rfl⟩, ?_⟩
    rcases hsessions with hsame | ⟨s, hi, hpush⟩
    · exact .inl hsame
    · exact .inr ⟨i, input, s, rfl, hi, hpush⟩
  | wait j name deadline =>
    simp only [step]
    split <;> exact leads_of_state h _ rfl rfl rfl
  | poll j input =>
    simp only [step]
    split
    · rename_i name deadline stage hj
      have hsessions := r.registry.waitStep_sessions name deadline input stage
      split
      · rename_i reg stage' hstep
        rw [hstep] at hsessions
        exact leads_of_state h _ rfl hsessions rfl
      · rename_i reg found hstep
        rw [hstep] at hsessions
        exact leads_of_state h _ rfl hsessions rfl
    · exact leads_of_state h _ rfl rfl rfl

theorem calm_start (max : UInt32) : (start max).Calm := by
  refine ⟨rfl, fun _ => rfl, ?_⟩
  intro id
  show (0 : Nat) < 2 ^ 32
  decide

theorem Calm.step (h : r.Calm) (a : RoutingAction) : (r.step a).Calm := by
  obtain ⟨hclosed, ⟨i, call, hcall, hcalls⟩, hsessions⟩ := leads_step h a
  refine ⟨hclosed.trans h.closed, ?_, ?_⟩
  · intro j
    rw [hcalls, Function.update_apply]
    split
    · exact hcall
    · exact h.calls j
  · intro id
    rcases hsessions with hsame | ⟨_, _, s, _, _, hpush⟩
    · rw [hsame]
      exact h.sizes id
    · rw [hpush, TunnelRegistry.bucket_pushSession]
      split
      · rename_i hok
        have hroom := TunnelRegistry.length_lt_of_pushSession hok.2
        have hmax := r.registry.maxSessionsPerBackend.toNat_lt
        rw [hok.1, List.length_append, List.length_singleton]
        omega
      · exact h.sizes id

variable {id : BackendId} {s : TunnelSession} {a : RoutingAction} {i : Nat}

/-- Sessions stay: nothing here removes any. -/
theorem mem_bucket_step (h : r.Calm) (hs : s ∈ r.registry.sessions.bucket id) (a : RoutingAction) :
    s ∈ (r.step a).registry.sessions.bucket id := by
  rcases (leads_step h a).sessions with hsame | ⟨_, _, _, _, _, hpush⟩
  · rw [hsame]
    exact hs
  · rw [hpush, TunnelRegistry.bucket_pushSession]
    split
    · exact List.mem_append_left _ hs
    · exact hs

/-- From some task on, nobody has called anything. -/
def Spare (r : RoutingSystem) : Prop := ∃ n, ∀ j, n ≤ j → r.sys.idle j = true

theorem Spare.step (hspare : r.Spare) (h : r.Calm) (a : RoutingAction) : (r.step a).Spare := by
  obtain ⟨n, hn⟩ := hspare
  obtain ⟨i, call, -, hcalls⟩ := (leads_step h a).calls
  refine ⟨max n (i + 1), ?_⟩
  intro j hj
  have hidle := hn j (by omega)
  rw [RegistrySystem.idle] at hidle ⊢
  rw [hcalls, Function.update_of_ne (by omega)]
  exact hidle

/-! ## Without control peers -/

/-- No control peer has a session. -/
def Plain (r : RoutingSystem) : Prop :=
  ∀ id, ∀ s ∈ r.registry.sessions.bucket id, s.isControlPeer = false

theorem Plain.step (hplain : r.Plain) (h : r.Calm) (ha : r.admitsControlPeer a = false) :
    (r.step a).Plain := by
  intro id s hs
  rcases (leads_step h a).sessions with hsame | ⟨i, input, s', rfl, hcall, hpush⟩
  · rw [hsame] at hs
    exact hplain id s hs
  · rw [hpush, TunnelRegistry.bucket_pushSession] at hs
    split at hs
    · rename_i hok
      rcases List.mem_append.mp hs with hold | hnew
      · exact hplain id s hold
      · rw [List.mem_singleton.mp hnew]
        simpa [admitsControlPeer, hcall, hok.2] using ha
    · exact hplain id s hs

theorem Plain.routable (hplain : r.Plain) (h : r.registry.isTunnelBackend id = true) :
    r.Routable id := by
  have hbucket : r.registry.sessions.bucket id ≠ [] := by
    rw [TunnelRegistry.isTunnelBackend] at h
    rw [DashMap.bucket]
    cases hget : r.registry.sessions.get id with
    | none => simp [hget] at h
    | some entry => simpa [hget] using h
  obtain ⟨s, hs⟩ := List.exists_mem_of_ne_nil _ hbucket
  exact ⟨s, hs, hplain id s hs⟩

/-- A wait reports a backend that the registry has. -/
theorem isTunnelBackend_of_reports {name : Bytes} (h : r.reports a = some name) :
    ∃ id, ArrayString.from? name = some id ∧ r.registry.isTunnelBackend id = true := by
  cases a with
  | poll j input =>
    simp only [reports] at h
    split at h
    · split at h
      · rename_i hdone
        cases h
        have hfound := TunnelRegistry.isTunnelBackendNamed_of_waitStep hdone
        rw [TunnelRegistry.isTunnelBackendNamed] at hfound
        split at hfound
        · rename_i id hid
          exact ⟨id, hid, hfound⟩
        · cases hfound
      · cases h
    · cases h
  | _ => cases h

theorem Plain.separates (hplain : r.Plain) (h : r.Calm) (ha : r.admitsControlPeer a = false) :
    r.Separates a := by
  have hnext := hplain.step h ha
  refine ⟨?_, fun id => hnext.routable, ?_⟩
  · rintro conn - ⟨id, s, hs, hcontrol, -⟩
    rw [hnext id s hs] at hcontrol
    cases hcontrol
  · intro name hname
    obtain ⟨id, hid, hfound⟩ := isTunnelBackend_of_reports hname
    obtain ⟨s, hs, hcontrol⟩ := hplain.routable hfound
    exact ⟨id, hid, s, mem_bucket_step h hs a, hcontrol⟩

/-- While nobody registers, no control peer is admitted. -/
theorem admitsControlPeer_of_registers (h : r.registers a = false) :
    r.admitsControlPeer a = false := by
  cases a with
  | advance i input =>
    simp only [registers] at h
    simp only [admitsControlPeer]
    cases hi : r.sys.calls i with
    | register s stage =>
      rw [hi] at h
      cases h
    | op o => rfl
    | done result => rfl
  | _ => rfl

/-! ## How a lookup comes to a control peer -/

/-- What a step admits is in its bucket afterwards. -/
theorem mem_bucket_of_admits (h : r.admitsControlPeer a = true) :
    ∃ s, s.isControlPeer = true ∧ s ∈ (r.step a).registry.sessions.bucket s.backendId := by
  cases a with
  | advance i input =>
    simp only [admitsControlPeer] at h
    split at h
    · rename_i s hcall
      obtain ⟨hcontrol, hok⟩ := (Bool.and_eq_true ..).mp h
      have hsessions : (r.step (.advance i input)).registry.sessions =
          (r.registry.pushSession s).1.sessions := by
        simp only [step, RegistrySystem.step, RegistrySystem.advance, hcall,
          TunnelRegistry.registerStep]
        rcases r.registry.pushSession s with ⟨reg, result⟩
        cases result <;> rfl
      refine ⟨s, hcontrol, ?_⟩
      rw [hsessions, TunnelRegistry.bucket_pushSession, if_pos ⟨rfl, hok⟩]
      exact List.mem_append_right _ (List.mem_singleton_self s)
    · cases h
  | _ => cases h

/-- The input of a stage that goes well. -/
def succeeds : CallInput := { now := 0, bucket := none, openError := none }

/-- The first two actions of a call of `acquire_stream`. -/
def choosing (i : Nat) (id : BackendId) : List RoutingAction := [.acquire i id, .advance i succeeds]

/-- The call has chosen the session at the place where the counter is. -/
theorem run_choosing (hclosed : r.sys.state.closed = []) (hidle : r.sys.idle i = true)
    (hs : (r.registry.nextSession id).2 = some s) :
    run step r (choosing i id) =
      { r with sys :=
        { state := { r.sys.state with registry := (r.registry.nextSession id).1 }
          calls := Function.update r.sys.calls i (.op (.openStream s.connection)) } } := by
  have hcall : r.step (.acquire i id) =
      { r with sys := r.sys.setCall i (.op (.acquireStream id)) } := by
    simp only [step, RegistrySystem.step, hidle, RegistryOp.isEntry, Bool.and_self, if_true]
  have hadvance : (r.sys.setCall i (.op (.acquireStream id))).advance i succeeds =
      { state := { r.sys.state with registry := (r.registry.nextSession id).1 }
        calls := Function.update r.sys.calls i (.op (.openStream s.connection)) } := by
    have hopen : (r.sys.setCall i (.op (.acquireStream id))).state.closed = [] := hclosed
    rw [RegistrySystem.advance_acquireStream hopen (Function.update_self ..) (Prod.ext rfl hs)]
    simp only [RegistrySystem.setCall, Function.update_idem]
  simp only [choosing, run_cons, run_nil, hcall]
  simp only [step, RegistrySystem.step, hadvance]

/-- Choosing a session registers none. -/
theorem runOk_choosing (hidle : r.sys.idle i = true) (id : BackendId) :
    RunOk step (fun r a => r.registers a = false) r (choosing i id) := by
  have hcall : r.step (.acquire i id) =
      { r with sys := r.sys.setCall i (.op (.acquireStream id)) } := by
    simp only [step, RegistrySystem.step, hidle, RegistryOp.isEntry, Bool.and_self, if_true]
  refine ⟨rfl, ?_, trivial⟩
  rw [hcall]
  simp only [registers, RegistrySystem.setCall, Function.update_self]

/-- The choice for a backend that has sessions. -/
theorem nextSession_of_ne_nil {reg : TunnelRegistry} (h : reg.sessions.bucket id ≠ []) :
    reg.nextSession id = ({ reg with rrCounter := reg.rrCounter + 1 },
      (reg.sessions.bucket id)[reg.rrCounter.toNat % (reg.sessions.bucket id).length]?) := by
  rw [TunnelRegistry.nextSession, if_neg]
  rwa [List.isEmpty_iff]

/-- A whole call moves the counter on by one. -/
theorem run_round (hclosed : r.sys.state.closed = []) (hidle : r.sys.idle i = true)
    (hne : r.registry.sessions.bucket id ≠ []) :
    let round := choosing i id ++ [.advance i succeeds]
    RunOk step (fun r a => r.registers a = false) r round ∧
    (run step r round).registry = { r.registry with rrCounter := r.registry.rrCounter + 1 } ∧
    (run step r round).sys.state.closed = [] ∧ (run step r round).sys.idle i = true := by
  have hchoice := nextSession_of_ne_nil hne
  have hplace := Nat.mod_lt r.registry.rrCounter.toNat (List.length_pos_of_ne_nil hne)
  obtain ⟨s, hs⟩ : ∃ s, (r.registry.nextSession id).2 = some s :=
    ⟨_, (congrArg Prod.snd hchoice).trans (List.getElem?_eq_getElem hplace)⟩
  have hcall : (run step r (choosing i id)).sys.calls i = .op (.openStream s.connection) := by
    rw [run_choosing hclosed hidle hs]
    exact Function.update_self ..
  obtain ⟨result, hdone⟩ := RegistrySystem.advance_openStream hcall succeeds
  intro round
  have hround : run step r round = { run step r (choosing i id) with
      sys := (run step r (choosing i id)).sys.setCall i (.done result) } := by
    rw [run_concat, step, RegistrySystem.step, hdone]
  refine ⟨runOk_concat.mpr ⟨runOk_choosing hidle id, ?_⟩, ?_, ?_, ?_⟩
  · simp only [registers, hcall]
  · rw [hround, run_choosing hclosed hidle hs]
    exact congrArg Prod.fst hchoice
  · rw [hround, run_choosing hclosed hidle hs]
    exact hclosed
  · rw [hround]
    simp only [RegistrySystem.idle, RegistrySystem.setCall, Function.update_self]

/-- A call at a time moves the counter to the place of any session. -/
theorem exists_lookup {k m : Nat} (hs : (r.registry.sessions.bucket id)[k]? = some s)
    (hk : k < 2 ^ 32) (hclosed : r.sys.state.closed = []) (hidle : r.sys.idle i = true)
    (hm : r.registry.rrCounter + UInt64.ofNat m = UInt64.ofNat k) :
    ∃ later, RunOk step (fun r a => r.registers a = false) r later ∧
      (run step r later).sys.calls i = .op (.openStream s.connection) ∧
      (run step r later).registry.sessions = r.registry.sessions := by
  induction m generalizing r with
  | zero =>
    have hlt := (List.getElem?_eq_some_iff.mp hs).1
    have hcounter : r.registry.rrCounter.toNat = k := by
      have hzero : r.registry.rrCounter = UInt64.ofNat k := by
        rw [← hm]
        exact (add_zero _).symm
      rw [hzero, UInt64.toNat_ofNat']
      exact Nat.mod_eq_of_lt (by omega)
    have hnext : (r.registry.nextSession id).2 = some s := by
      rw [nextSession_of_ne_nil (List.ne_nil_of_length_pos (by omega)), hcounter,
        Nat.mod_eq_of_lt hlt]
      exact hs
    refine ⟨choosing i id, runOk_choosing hidle id, ?_⟩
    rw [run_choosing hclosed hidle hnext]
    exact ⟨Function.update_self .., r.registry.nextSession_sessions id⟩
  | succ m ih =>
    have hlt := (List.getElem?_eq_some_iff.mp hs).1
    obtain ⟨hround, hreg, hclosed', hidle'⟩ := run_round hclosed hidle
      (List.ne_nil_of_length_pos (by omega : 0 < (r.registry.sessions.bucket id).length))
    obtain ⟨later, hlater, hopens, hsame⟩ := ih (by rw [hreg]; exact hs) hclosed' hidle' (by
      rw [hreg, ← hm, UInt64.ofNat_add]
      show r.registry.rrCounter + 1 + UInt64.ofNat m = _
      rw [add_assoc, add_comm 1]
      rfl)
    refine ⟨_, runOk_append.mpr ⟨hround, hlater⟩, ?_, ?_⟩
    · rw [run_append]
      exact hopens
    · rw [run_append, hsame, hreg]

end RoutingSystem

namespace RoutingSystem

/-- From any state that registrations and lookups lead to, lookups reach every session. -/
theorem exists_opens {r : RoutingSystem} (h : r.Calm) (hspare : r.Spare) {id : BackendId}
    {s : TunnelSession} (hs : s ∈ r.registry.sessions.bucket id) :
    ∃ later a, RunOk step (fun r a => r.registers a = false) r (later ++ [a]) ∧
      (run step r later).opens a = some s.connection ∧
      (run step r (later ++ [a])).registry.sessions = r.registry.sessions := by
  obtain ⟨i, hidle⟩ := hspare
  obtain ⟨k, hk⟩ := List.mem_iff_getElem?.mp hs
  have hlt := (List.getElem?_eq_some_iff.mp hk).1
  have hsize := h.sizes id
  have hcounter : r.registry.rrCounter +
      UInt64.ofNat (UInt64.ofNat k - r.registry.rrCounter).toNat = UInt64.ofNat k := by
    rw [UInt64.ofNat_toNat]
    exact add_sub_cancel _ _
  obtain ⟨later, hlater, hcall, hsame⟩ :=
    exists_lookup hk (by omega) h.closed (hidle i le_rfl) hcounter
  obtain ⟨result, hdone⟩ := RegistrySystem.advance_openStream hcall succeeds
  refine ⟨later, .advance i succeeds, runOk_concat.mpr ⟨hlater, ?_⟩, ?_, ?_⟩
  · simp only [registers, hcall]
  · simp only [opens, hcall]
    rfl
  · rw [run_concat, step, RegistrySystem.step, hdone]
    exact hsame

end RoutingSystem

open RoutingSystem in
/-- Control peers stay apart from the backends, whatever lookups follow, if and only if no control
    peer was admitted. -/
theorem control_peers_unroutable_iff (max : UInt32) (actions : List RoutingAction) :
    Unroutable max actions ↔
      RunOk step (fun r a => r.admitsControlPeer a = false) (start max) actions := by
  constructor
  · intro h
    refine runOk_iff_forall.mpr ?_
    rintro done a todo rfl
    by_contra hadmits
    rw [Bool.not_eq_false] at hadmits
    obtain ⟨s, hcontrol, hs⟩ := mem_bucket_of_admits hadmits
    -- The session is still there at the end, and a task is left to look it up.
    have hreached : ∀ as, (run step (start max) as).Calm ∧ (run step (start max) as).Spare :=
      fun as => @run_invariant_of_step _ _ step (fun r => r.Calm ∧ r.Spare)
        (fun r a h => ⟨h.1.step a, h.2.step h.1 a⟩) _
        ⟨calm_start max, 0, fun _ _ => rfl⟩ as
    have hend : s ∈ (run step (start max) (done ++ a :: todo)).registry.sessions.bucket
        s.backendId := by
      rw [run_append, run_cons]
      refine (@run_invariant_of_step _ _ step
        (fun r => r.Calm ∧ s ∈ r.registry.sessions.bucket s.backendId)
        (fun r a h => ⟨h.1.step a, mem_bucket_step h.1 h.2 a⟩) _ ⟨?_, hs⟩ todo).2
      exact (hreached done).1.step a
    obtain ⟨hcalm, hspare⟩ := hreached (done ++ a :: todo)
    obtain ⟨later, b, hlater, hopens, hsame⟩ := exists_opens hcalm hspare hend
    have hseparates := h _ hlater
    rw [← List.append_assoc, runOk_concat, run_append] at hseparates
    refine hseparates.2.opened _ hopens ⟨s.backendId, s, ?_, hcontrol, rfl⟩
    rw [run_concat] at hsame
    rw [hsame]
    exact hend
  · intro hactions later hlater
    have hall : RunOk step (fun r a => r.admitsControlPeer a = false) (start max)
        (actions ++ later) := by
      refine runOk_append.mpr ⟨hactions, ?_⟩
      exact @RunOk.of_invariant _ _ _ _ _ (fun _ => True) (fun _ _ _ _ => trivial)
        (fun _ _ _ h => admitsControlPeer_of_registers h) _ _ trivial hlater
    refine @RunOk.of_invariant _ _ _ _ _ (fun r => r.Calm ∧ r.Plain)
      (fun r a h ha => ⟨h.1.step a, h.2.step h.1 ha⟩) (fun r a h ha => h.2.separates h.1 ha) _ _
      ⟨calm_start max, ?_⟩ hall
    intro id s hs
    cases hs

namespace Sample

/-- A control peer that has registered as `device-7`. -/
def controlSession : TunnelSession := { session 9 with isControlPeer := true }

/-- Its registration, a wait for the backend, and a request to it. -/
def dialsControlPeer : List RoutingAction :=
  [.register 0 controlSession, .advance 0 input, .advance 0 input, .advance 0 input,
    .wait 0 device.bytes 5, .poll 0 { now := 0, wakeFirst := true },
    .poll 0 { now := 0, wakeFirst := true }, .poll 0 { now := 0, wakeFirst := true },
    .acquire 1 device, .advance 1 input]

end Sample

/-- The only session of the backend is a control peer: the wait for the backend ends well, and
    `acquire_stream` opens a stream on the connection of the control peer. -/
theorem control_peer_is_dialed :
    let r := run RoutingSystem.step (.start 4) Sample.dialsControlPeer
    (r.registry.sessions.bucket Sample.device).map (·.isControlPeer) = [true] ∧
    r.registry.isTunnelBackend Sample.device = true ∧
    (r.waits 0 matches .returned true) ∧
    r.opens (.advance 1 Sample.input) = some Sample.controlSession.connection := by
  decide +kernel

end Reduction
