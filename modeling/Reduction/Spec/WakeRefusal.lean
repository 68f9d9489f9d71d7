import Reduction.Native.Refusal
import Reduction.Spec.ParkedWaits

/-!
# Which parked requests a refusal releases

A refusal is one entry in a map.  The first request that looks takes it, so of
several requests that are parked on a backend only one is released; and an entry
that nobody was there to take stays for the next one that parks.

`RefusalSystem` lets requests park on backends and leave, `note_refusal` calls run,
and the registry do anything else, in any order.  Requests and calls are kept in
lists, in the order in which they began, so that a position is a name.

- `Kept.step`: what holds as long as refusals and requests meet one to one
- `refusal_releases_parked_iff`: the runs after which, however their steps are
  scheduled, a refusal releases the requests that are parked and no later one
-/

namespace Reduction

open Run

/-- A call of `note_refusal`. -/
structure RefusalCall where
  id : BackendId
  /-- How many requests there had been when it was called. -/
  known : Nat
  /-- What it still has to do; none if it has returned. -/
  stage : Option NoteRefusalStage

inductive ParkState where
  | parked (stage : AwaitRefusalStage)
  | refused
  /-- The backend was reached, or the deadline passed. -/
  | left

/-- A request in `await_reachable_or_refused`. -/
structure Park where
  id : BackendId
  /-- How many calls of `note_refusal` there had been when it began to park, and whether those for
      its backend had all returned. -/
  earlier : Nat
  quiet : Bool
  state : ParkState

structure RefusalSystem where
  sys : RegistrySystem
  refused : DashMap BackendId Unit
  refusals : List RefusalCall
  parks : List Park
  /-- The call that has set the refusal of a backend last. -/
  origin : BackendId → Nat

inductive RefusalAction where
  | registry (a : RegistryAction)
  | noteRefusal (id : BackendId)
  /-- A call of `note_refusal` does its next stage. -/
  | advance (i : Nat)
  | park (id : BackendId)
  /-- A request does the next stage of its `await_refusal`. -/
  | poll (j : Nat)
  /-- The other branch of the request's `select!` completes. -/
  | leave (j : Nat)

/-- The action begins a call or a request. -/
def RefusalAction.begins : RefusalAction → Bool
  | noteRefusal _ | park _ => true
  | _ => false

namespace RefusalSystem

def start (maxSessionsPerBackend : UInt32) : RefusalSystem :=
  { sys := .init maxSessionsPerBackend
    refused := ∅
    refusals := []
    parks := []
    origin := fun _ => 0 }

abbrev registry (s : RefusalSystem) : TunnelRegistry := s.sys.state.registry

def reg (s : RefusalSystem) : RefusingRegistry := { registry := s.registry, refused := s.refused }

def setReg (s : RefusalSystem) (reg : RefusingRegistry) : RefusalSystem :=
  { s with
    sys := { s.sys with state := { s.sys.state with registry := reg.registry } }
    refused := reg.refused }

/-- All calls of `note_refusal` for the backend have returned. -/
def quiet (s : RefusalSystem) (id : BackendId) : Bool :=
  s.refusals.all fun c => c.id ≠ id || c.stage = none

/-- A `select!` looks at its other branch before it polls `await_refusal` for the first time, or
    while that is suspended. -/
def canLeave : ParkState → Bool
  | .parked .handle | .parked (.wait _) => true
  | _ => false

/-- An action that the state does not permit changes nothing. -/
def step (s : RefusalSystem) : RefusalAction → RefusalSystem
  | .registry a => { s with sys := s.sys.step a }
  | .noteRefusal id =>
    { s with
      refusals := s.refusals ++ [{ id, known := s.parks.length, stage := some .insert }] }
  | .advance i =>
    match s.refusals[i]? with
    | some { id, known, stage := some stage } =>
      match s.reg.noteRefusalStep id stage with
      | (reg, .more stage) =>
        { s.setReg reg with
          refusals := s.refusals.set i { id, known, stage := some stage }
          origin := Function.update s.origin id i }
      | (reg, .done ()) =>
        { s.setReg reg with refusals := s.refusals.set i { id, known, stage := none } }
    | _ => s
  | .park id =>
    { s with
      parks := s.parks ++
        [{ id, earlier := s.refusals.length, quiet := s.quiet id, state := .parked .handle }] }
  | .poll j =>
    match s.parks[j]? with
    | some { id, earlier, quiet, state := .parked stage } =>
      match s.reg.awaitRefusalStep id stage with
      | (reg, .more stage) =>
        { s.setReg reg with
          parks := s.parks.set j { id, earlier, quiet, state := .parked stage } }
      | (reg, .done ()) =>
        { s.setReg reg with parks := s.parks.set j { id, earlier, quiet, state := .refused } }
    | _ => s
  | .leave j =>
    match s.parks[j]? with
    | some { id, earlier, quiet, state } =>
      if canLeave state then
        { s with parks := s.parks.set j { id, earlier, quiet, state := .left } }
      else s
    | none => s

/-! ## What a refusal is to do -/

/-- A refusal of the backend is set. -/
def Flagged (s : RefusalSystem) (id : BackendId) : Prop := (s.refused.get id).isSome

/-- The request was parked on the backend when some `note_refusal` for it was called. -/
def Owed (s : RefusalSystem) (j : Nat) (id : BackendId) : Prop :=
  ∃ c ∈ s.refusals, c.id = id ∧ j < c.known

/-- The request is suspended, without a wake-up on its way, after a `note_refusal` has returned that
    was called while it was parked. -/
def Stranded (s : RefusalSystem) (j : Nat) : Prop :=
  ∃ p armed, s.parks[j]? = some p ∧ p.state = .parked (.wait armed) ∧
    ¬ armed < s.registry.notified p.id ∧
    ∃ c ∈ s.refusals, c.id = p.id ∧ j < c.known ∧ c.stage = none

/-- The request takes a refusal that was set by a call from before it began to park, when all of
    these had returned. -/
def TakesStale (s : RefusalSystem) : RefusalAction → Prop
  | .poll j => ∃ p armed, s.parks[j]? = some p ∧ p.state = .parked (.take armed) ∧
    s.Flagged p.id ∧ p.quiet = true ∧ s.origin p.id < p.earlier
  | _ => False

/-- The step strands no request, and releases none by an old refusal. -/
structure ReleasesExactly (s : RefusalSystem) (a : RefusalAction) : Prop where
  released : ∀ j, ¬ (s.step a).Stranded j
  fresh : ¬ s.TakesStale a

end RefusalSystem

/-- The request is parked on the backend. -/
def Park.On (p : Park) (id : BackendId) : Prop := p.id = id ∧ ∃ stage, p.state = .parked stage

namespace RefusalSystem

/-- When a request begins to park there is no old refusal of its backend, and no request is parked
    there that a refusal is meant for; when a refusal comes, at most one request is parked. -/
def OneToOne (s : RefusalSystem) : RefusalAction → Prop
  | .park id => (s.quiet id = true → ¬ s.Flagged id) ∧
    ∀ j (p : Park), s.parks[j]? = some p → p.On id → ¬ s.Owed j id
  | .noteRefusal id => ∀ (j j' : Nat) (p p' : Park), s.parks[j]? = some p →
    s.parks[j']? = some p' → p.On id → p'.On id → j = j'
  | _ => True

/-! ## The steps -/

variable {s : RefusalSystem} {i j : Nat} {c : RefusalCall} {p : Park} {armed : Notify}

theorem quiet_iff {id : BackendId} :
    s.quiet id = true ↔ ∀ c ∈ s.refusals, c.id = id → c.stage = none := by
  unfold quiet
  rw [List.all_eq_true]
  refine forall₂_congr fun c _ => ?_
  by_cases hid : c.id = id
  · simp [hid]
  · simp [hid]

def withRegistry (s : RefusalSystem) (registry : TunnelRegistry) : RefusalSystem :=
  { s with sys := { s.sys with state := { s.sys.state with registry } } }

theorem step_advance_insert (h : s.refusals[i]? = some c) (hstage : c.stage = some .insert) :
    s.step (.advance i) =
      { s with
        refused := s.refused.insert c.id ()
        refusals := s.refusals.set i { c with stage := some .notify }
        origin := Function.update s.origin c.id i } := by
  obtain ⟨id, known, stage⟩ := c
  obtain rfl : stage = some .insert := hstage
  simp only [step, h]
  rfl

theorem step_advance_notify (h : s.refusals[i]? = some c) (hstage : c.stage = some .notify) :
    s.step (.advance i) =
      { s.withRegistry (s.registry.notifySessionWaiters c.id) with
        refusals := s.refusals.set i { c with stage := none } } := by
  obtain ⟨id, known, stage⟩ := c
  obtain rfl : stage = some .notify := hstage
  simp only [step, h]
  rfl

theorem step_advance_done (h : ∀ c, s.refusals[i]? = some c → c.stage = none) :
    s.step (.advance i) = s := by
  simp only [step]
  split
  · rename_i id known stage hc
    cases h _ hc
  · rfl

theorem step_poll_handle (h : s.parks[j]? = some p) (hstate : p.state = .parked .handle) :
    s.step (.poll j) =
      { s.withRegistry (s.registry.wakeHandle p.id.bytes).1 with
        parks := s.parks.set j { p with state := .parked .arm } } := by
  obtain ⟨id, earlier, quiet, state⟩ := p
  obtain rfl : state = .parked .handle := hstate
  obtain ⟨registry, hregistry⟩ :
      ∃ registry, s.registry.wakeHandle id.bytes = (registry, some id) := by
    unfold TunnelRegistry.wakeHandle
    rw [ArrayString.from?_bytes]
    exact ⟨_, rfl⟩
  simp only [step, h, RefusingRegistry.awaitRefusalStep, reg, hregistry]
  rfl

theorem step_poll_arm (h : s.parks[j]? = some p) (hstate : p.state = .parked .arm) :
    s.step (.poll j) =
      { s with
        parks := s.parks.set j
          { p with state := .parked (.take (s.registry.notified p.id)) } } := by
  obtain ⟨id, earlier, quiet, state⟩ := p
  obtain rfl : state = .parked .arm := hstate
  simp only [step, h]
  rfl

theorem step_poll_take_flagged (h : s.parks[j]? = some p)
    (hstate : p.state = .parked (.take armed)) (hflag : s.Flagged p.id) :
    s.step (.poll j) =
      { s with
        refused := s.refused.remove p.id
        parks := s.parks.set j { p with state := .refused } } := by
  obtain ⟨id, earlier, quiet, state⟩ := p
  obtain rfl : state = .parked (.take armed) := hstate
  have hget : (s.refused.get id).isSome = true := hflag
  simp only [step, h, RefusingRegistry.awaitRefusalStep, RefusingRegistry.takeRefusal, reg, hget]
  rfl

theorem step_poll_take_none (h : s.parks[j]? = some p)
    (hstate : p.state = .parked (.take armed)) (hflag : ¬ s.Flagged p.id) :
    s.step (.poll j) =
      { s with
        refused := s.refused.remove p.id
        parks := s.parks.set j { p with state := .parked (.wait armed) } } := by
  obtain ⟨id, earlier, quiet, state⟩ := p
  obtain rfl : state = .parked (.take armed) := hstate
  have hget : (s.refused.get id).isSome = false := Bool.eq_false_iff.mpr hflag
  simp only [step, h, RefusingRegistry.awaitRefusalStep, RefusingRegistry.takeRefusal, reg, hget]
  rfl

theorem step_poll_wait_pending (h : s.parks[j]? = some p)
    (hstate : p.state = .parked (.wait armed)) (hpending : armed < s.registry.notified p.id) :
    s.step (.poll j) =
      { s with parks := s.parks.set j { p with state := .parked .arm } } := by
  obtain ⟨id, earlier, quiet, state⟩ := p
  obtain rfl : state = .parked (.wait armed) := hstate
  have hlt : armed < s.registry.notified id := hpending
  simp only [step, h, RefusingRegistry.awaitRefusalStep, reg, hlt, if_true]
  rfl

theorem step_poll_wait_idle (h : s.parks[j]? = some p)
    (hstate : p.state = .parked (.wait armed)) (hpending : ¬ armed < s.registry.notified p.id) :
    s.step (.poll j) =
      { s with parks := s.parks.set j { p with state := .parked (.wait armed) } } := by
  obtain ⟨id, earlier, quiet, state⟩ := p
  obtain rfl : state = .parked (.wait armed) := hstate
  have hlt : ¬ armed < s.registry.notified id := hpending
  simp only [step, h, RefusingRegistry.awaitRefusalStep, reg, hlt, if_false]
  rfl

theorem step_poll_done (h : ∀ p stage, s.parks[j]? = some p → p.state ≠ .parked stage) :
    s.step (.poll j) = s := by
  simp only [step]
  split
  · rename_i id earlier quiet stage hp
    exact absurd rfl (h _ stage hp)
  · rfl

end RefusalSystem

/-! ## What holds as long as refusals and requests meet one to one -/

/-- What request `j` can rely on. -/
structure ParkFits (registry : TunnelRegistry) (refused : DashMap BackendId Unit)
    (refusals : List RefusalCall) (origin : BackendId → Nat) (j : Nat) (p : Park) : Prop where
  earlier_le : p.earlier ≤ refusals.length
  /-- What had returned stays so. -/
  returned : p.quiet = true → ∀ i c, i < p.earlier → refusals[i]? = some c → c.id = p.id →
    c.stage = none
  /-- A refusal that is there has come since. -/
  fresh : ∀ stage, p.state = .parked stage → p.quiet = true → (refused.get p.id).isSome →
    p.earlier ≤ origin p.id
  handled : ∀ stage, p.state = .parked stage → stage ≠ .handle → registry.HasHandle p.id
  armed_le : ∀ armed, p.state = .parked (.take armed) ∨ p.state = .parked (.wait armed) →
    armed ≤ registry.notified p.id
  /-- A refusal that is meant for the request waits for it. -/
  flagged : ∀ stage, p.state = .parked stage → ∀ c ∈ refusals, c.id = p.id → j < c.known →
    c.stage ≠ some .insert → (refused.get p.id).isSome
  woken : ∀ armed, p.state = .parked (.wait armed) → ∀ c ∈ refusals, c.id = p.id → j < c.known →
    c.stage = none → armed < registry.notified p.id

namespace RefusalSystem

variable {s : RefusalSystem} {i j : Nat} {c : RefusalCall} {p : Park} {armed : Notify}

abbrev Fits (s : RefusalSystem) (j : Nat) (p : Park) : Prop :=
  ParkFits s.registry s.refused s.refusals s.origin j p

structure Kept (s : RefusalSystem) : Prop where
  fits : ∀ j p, s.parks[j]? = some p → s.Fits j p
  /-- A request that a refusal is meant for is alone. -/
  alone : ∀ (j j' : Nat) (p p' : Park) id, s.parks[j]? = some p → s.parks[j']? = some p' →
    p.On id → p'.On id → s.Owed j id → j = j'
  known_le : ∀ c ∈ s.refusals, c.known ≤ s.parks.length
  origin : ∀ id, s.Flagged id → ∃ c, s.refusals[s.origin id]? = some c ∧ c.id = id

theorem kept_start (maxSessionsPerBackend : UInt32) : (start maxSessionsPerBackend).Kept := by
  constructor
  · intro j p hj
    cases hj
  · intro j j' p p' id hj
    cases hj
  · intro c hc
    cases hc
  · intro id hflag
    cases hflag

/-- The registry does something, or is given a handle: nothing is taken back. -/
theorem Kept.of_registry (h : s.Kept) {registry : TunnelRegistry}
    (hnotified : ∀ id, s.registry.notified id ≤ registry.notified id)
    (hhandle : ∀ id, s.registry.HasHandle id → registry.HasHandle id) {s' : RefusalSystem}
    (hregistry : s'.registry = registry) (hrefused : s'.refused = s.refused)
    (hrefusals : s'.refusals = s.refusals) (hparks : s'.parks = s.parks)
    (horigin : s'.origin = s.origin) : s'.Kept := by
  obtain ⟨sys, refused, refusals, parks, origin⟩ := s'
  subst hregistry
  cases hrefused
  cases hrefusals
  cases hparks
  cases horigin
  refine ⟨?_, h.alone, h.known_le, h.origin⟩
  intro j p hj
  have hfits := h.fits j p hj
  exact { hfits with
    handled := fun stage hstate hstage => hhandle _ (hfits.handled stage hstate hstage)
    armed_le := fun armed hstate => Nat.le_trans (hfits.armed_le armed hstate) (hnotified _)
    woken := fun armed hstate c hc hid hj hstage =>
      Nat.lt_of_lt_of_le (hfits.woken armed hstate c hc hid hj hstage) (hnotified _) }

theorem Kept.registry (h : s.Kept) (a : RegistryAction) : (s.step (.registry a)).Kept :=
  h.of_registry (s.sys.notified_step a) (fun _ hhandle => s.sys.hasHandle_step hhandle a) rfl rfl
    rfl rfl rfl

variable {id : BackendId} {k : Nat} {a : RefusalAction} {t : RefusalSystem}

theorem Kept.noteRefusal (h : s.Kept) (hone : s.OneToOne (.noteRefusal id)) :
    (s.step (.noteRefusal id)).Kept := by
  have hmem : ∀ {c : RefusalCall}, c ∈ (s.step (.noteRefusal id)).refusals →
      c ∈ s.refusals ∨ c = { id, known := s.parks.length, stage := some .insert } := by
    intro c hc
    rw [step, List.mem_append, List.mem_singleton] at hc
    exact hc
  constructor
  · intro j p hj
    have hfits := h.fits j p hj
    refine { hfits with earlier_le := ?_, returned := ?_, flagged := ?_, woken := ?_ }
    · refine Nat.le_trans hfits.earlier_le ?_
      rw [step, List.length_append]
      omega
    · intro hquiet i c hi hc hid
      have hlt : i < s.refusals.length := Nat.lt_of_lt_of_le hi hfits.earlier_le
      rw [step, List.getElem?_append_left hlt] at hc
      exact hfits.returned hquiet i c hi hc hid
    · intro stage hstate c hc hid hj hstage
      rcases hmem hc with hc | rfl
      · exact hfits.flagged stage hstate c hc hid hj hstage
      · exact absurd rfl hstage
    · intro armed hstate c hc hid hj hstage
      rcases hmem hc with hc | rfl
      · exact hfits.woken armed hstate c hc hid hj hstage
      · cases hstage
  · rintro j j' p p' id' hj hj' hon hon' ⟨c, hc, hid, hknown⟩
    rcases hmem hc with hc | rfl
    · exact h.alone j j' p p' id' hj hj' hon hon' ⟨c, hc, hid, hknown⟩
    · cases hid
      exact hone j j' p p' hj hj' hon hon'
  · intro c hc
    rcases hmem hc with hc | rfl
    · exact h.known_le c hc
    · exact Nat.le_refl _
  · intro id' hflag
    obtain ⟨c, hc, hid⟩ := h.origin id' hflag
    refine ⟨c, ?_, hid⟩
    have hlt := (List.getElem?_eq_some_iff.mp hc).1
    rw [step, List.getElem?_append_left hlt]
    exact hc

/-- What is in a list of which one element has changed. -/
theorem getElem?_set_cases {α : Type} {l : List α} {a b : α} (h : (l.set i a)[k]? = some b) :
    k = i ∧ b = a ∨ k ≠ i ∧ l[k]? = some b := by
  rw [List.getElem?_set] at h
  split at h
  · rename_i hk
    split at h
    · exact .inl ⟨hk.symm, (Option.some.inj h).symm⟩
    · cases h
  · rename_i hk
    exact .inr ⟨Ne.symm hk, h⟩

/-- The other calls are there as before. -/
theorem exists_getElem?_set_refusal {refusals : List RefusalCall} (h : refusals[i]? = some c)
    (stage : Option NoteRefusalStage) {c' : RefusalCall} (hc' : refusals[k]? = some c') :
    ∃ c'', (refusals.set i { c with stage })[k]? = some c'' ∧ c''.id = c'.id := by
  by_cases hk : k = i
  · subst hk
    obtain rfl : c' = c := Option.some.inj (hc'.symm.trans h)
    exact ⟨_, List.getElem?_set_self (List.getElem?_eq_some_iff.mp h).1, rfl⟩
  · exact ⟨c', (List.getElem?_set_ne (Ne.symm hk)).trans hc', rfl⟩

theorem Owed.of_set {s' : RefusalSystem} (h : s.refusals[i]? = some c)
    {stage : Option NoteRefusalStage} (hrefusals : s'.refusals = s.refusals.set i { c with stage })
    (howed : s'.Owed k id) : s.Owed k id := by
  obtain ⟨c', hc', hid, hknown⟩ := howed
  rw [hrefusals] at hc'
  rcases List.mem_or_eq_of_mem_set hc' with hc' | rfl
  · exact ⟨c', hc', hid, hknown⟩
  · exact ⟨c, List.mem_of_getElem? h, hid, hknown⟩

/-- A call moves on; it is still for the same backend and knows the same requests. -/
theorem Kept.setRefusal (h : s.Kept) (hc : s.refusals[i]? = some c)
    {stage : Option NoteRefusalStage} {s' : RefusalSystem}
    (hrefusals : s'.refusals = s.refusals.set i { c with stage }) (hparks : s'.parks = s.parks)
    (hfits : ∀ j p, s.parks[j]? = some p → s'.Fits j p)
    (horigin : ∀ id, s'.Flagged id → ∃ c, s'.refusals[s'.origin id]? = some c ∧ c.id = id) :
    s'.Kept := by
  refine ⟨hparks ▸ hfits, ?_, ?_, horigin⟩
  · intro j j' p p' id hj hj' hon hon' howed
    rw [hparks] at hj hj'
    exact h.alone j j' p p' id hj hj' hon hon' (howed.of_set hc hrefusals)
  · intro c' hc'
    rw [hrefusals] at hc'
    rw [hparks]
    rcases List.mem_or_eq_of_mem_set hc' with hc' | rfl
    · exact h.known_le c' hc'
    · exact h.known_le c (List.mem_of_getElem? hc)

theorem Kept.advance_insert (h : s.Kept) (hc : s.refusals[i]? = some c)
    (hstage : c.stage = some .insert) : (s.step (.advance i)).Kept := by
  rw [step_advance_insert hc hstage]
  have hget : ∀ id, ((s.refused.insert c.id ()).get id).isSome = true ↔
      id = c.id ∨ (s.refused.get id).isSome = true := by
    intro id
    rw [DashMap.get_insert]
    by_cases hid : id = c.id
    · simp [hid]
    · simp [hid]
  refine @Kept.setRefusal s i c h hc (some .notify) _ rfl rfl ?_ ?_
  · intro j p hj
    have hfits := h.fits j p hj
    -- the call has not returned, so it is none of those before a request that came when all had
    have hlater : p.quiet = true → c.id = p.id → p.earlier ≤ i := by
      intro hquiet hid
      by_contra hlt
      cases hstage.symm.trans (hfits.returned hquiet i c (by omega) hc hid)
    refine { hfits with earlier_le := ?_, returned := ?_, fresh := ?_, flagged := ?_, woken := ?_ }
    · rw [List.length_set]
      exact hfits.earlier_le
    · intro hquiet k c' hk hc' hid
      rcases getElem?_set_cases hc' with ⟨rfl, rfl⟩ | ⟨-, hc'⟩
      · have := hlater hquiet hid
        omega
      · exact hfits.returned hquiet k c' hk hc' hid
    · intro stage hstate hquiet hflag
      show p.earlier ≤ Function.update s.origin c.id i p.id
      by_cases hid : p.id = c.id
      · rw [hid, Function.update_self]
        exact hlater hquiet hid.symm
      · rw [Function.update_of_ne hid]
        exact hfits.fresh stage hstate hquiet (((hget _).mp hflag).resolve_left hid)
    · intro stage hstate c' hc' hid hknown hbeyond
      rw [hget]
      rcases List.mem_or_eq_of_mem_set hc' with hc' | rfl
      · exact .inr (hfits.flagged stage hstate c' hc' hid hknown hbeyond)
      · exact .inl hid.symm
    · intro armed hstate c' hc' hid hknown hreturned
      rcases List.mem_or_eq_of_mem_set hc' with hc' | rfl
      · exact hfits.woken armed hstate c' hc' hid hknown hreturned
      · cases hreturned
  · intro id hflag
    show ∃ c', (s.refusals.set i { c with stage := some .notify })[Function.update s.origin c.id i
      id]? = some c' ∧ c'.id = id
    by_cases hid : id = c.id
    · subst hid
      rw [Function.update_self]
      exact ⟨_, List.getElem?_set_self (List.getElem?_eq_some_iff.mp hc).1, rfl⟩
    · obtain ⟨c', hc', hid'⟩ := h.origin id (((hget id).mp hflag).resolve_left hid)
      obtain ⟨c'', hc'', hsame⟩ := exists_getElem?_set_refusal hc (some .notify) hc'
      rw [Function.update_of_ne hid]
      exact ⟨c'', hc'', hsame.trans hid'⟩

theorem Kept.advance_notify (h : s.Kept) (hc : s.refusals[i]? = some c)
    (hstage : c.stage = some .notify) : (s.step (.advance i)).Kept := by
  have hmem := List.mem_of_getElem? hc
  rw [step_advance_notify hc hstage]
  have hmono : ∀ id, s.registry.notified id ≤ (s.registry.notifySessionWaiters c.id).notified id :=
    fun id => s.registry.notified_le_notifySessionWaiters id c.id
  refine @Kept.setRefusal s i c h hc none _ rfl rfl ?_ ?_
  · intro j p hj
    have hfits := h.fits j p hj
    constructor
    · rw [List.length_set]
      exact hfits.earlier_le
    · intro hquiet k c' hk hc' hid
      rcases getElem?_set_cases hc' with ⟨-, rfl⟩ | ⟨-, hc'⟩
      · rfl
      · exact hfits.returned hquiet k c' hk hc' hid
    · exact hfits.fresh
    · exact fun stage hstate hne => (hfits.handled stage hstate hne).notifySessionWaiters _
    · exact fun armed hstate => Nat.le_trans (hfits.armed_le armed hstate) (hmono _)
    · intro stage hstate c' hc' hid hknown hbeyond
      rcases List.mem_or_eq_of_mem_set hc' with hc' | rfl
      · exact hfits.flagged stage hstate c' hc' hid hknown hbeyond
      · refine hfits.flagged stage hstate c hmem hid hknown ?_
        rw [hstage]
        decide
    · intro armed hstate c' hc' hid hknown hreturned
      rcases List.mem_or_eq_of_mem_set hc' with hc' | rfl
      · exact Nat.lt_of_lt_of_le (hfits.woken armed hstate c' hc' hid hknown hreturned) (hmono _)
      · -- the request was armed before this notification
        have hhandle := hfits.handled _ hstate (fun h => by cases h)
        have hle := hfits.armed_le armed (.inr hstate)
        show armed < (s.registry.notifySessionWaiters c.id).notified p.id
        rw [show c.id = p.id from hid, TunnelRegistry.notified_notifySessionWaiters hhandle]
        exact Nat.lt_succ_of_le hle
  · intro id hflag
    obtain ⟨c', hc', hid'⟩ := h.origin id hflag
    obtain ⟨c'', hc'', hsame⟩ := exists_getElem?_set_refusal hc none hc'
    exact ⟨c'', hc'', hsame.trans hid'⟩

theorem Kept.park (h : s.Kept) (hone : s.OneToOne (.park id)) : (s.step (.park id)).Kept := by
  have hget : ∀ {j : Nat} {p : Park}, (s.step (.park id)).parks[j]? = some p →
      s.parks[j]? = some p ∨ j = s.parks.length ∧ p =
        { id, earlier := s.refusals.length, quiet := s.quiet id, state := .parked .handle } := by
    intro j p hj
    rw [step, List.getElem?_append] at hj
    split at hj
    · exact .inl hj
    · obtain ⟨hlt, rfl⟩ := List.getElem?_eq_some_iff.mp hj
      rw [List.length_singleton] at hlt
      exact .inr ⟨by omega, List.mem_singleton.mp (List.getElem_mem hlt)⟩
  -- no call knows of the new request
  have hnew : ∀ id', ¬ s.Owed s.parks.length id' := by
    rintro id' ⟨c, hc, -, hknown⟩
    have := h.known_le c hc
    omega
  constructor
  · intro j p hj
    rcases hget hj with hj | ⟨rfl, rfl⟩
    · exact h.fits j p hj
    · constructor
      · exact Nat.le_refl _
      · exact fun hquiet i c _ hc hid => quiet_iff.mp hquiet c (List.mem_of_getElem? hc) hid
      · exact fun stage _ hquiet hflag => absurd hflag (hone.1 hquiet)
      · intro stage hstate hne
        cases hstate
        exact absurd rfl hne
      · rintro armed (hstate | hstate)
        · cases hstate
        · cases hstate
      · exact fun stage _ c hc hid hknown _ => absurd ⟨c, hc, hid, hknown⟩ (hnew id)
      · intro armed hstate
        cases hstate
  · intro j j' p p' id' hj hj' hon hon' howed
    rcases hget hj with hj | ⟨rfl, rfl⟩
    · rcases hget hj' with hj' | ⟨rfl, rfl⟩
      · exact h.alone j j' p p' id' hj hj' hon hon' howed
      · obtain ⟨rfl, -⟩ := hon'
        exact absurd howed (hone.2 j p hj hon)
    · exact absurd howed (hnew id')
  · intro c hc
    refine Nat.le_trans (h.known_le c hc) ?_
    rw [step, List.length_append]
    omega
  · exact h.origin

/-- A request moves on, and is parked after it only if it was before. -/
theorem Kept.setPark (h : s.Kept) (hj : s.parks[j]? = some p) (state : ParkState)
    (hstill : ∀ stage, state = .parked stage → ∃ stage', p.state = .parked stage')
    (hfits : s.Fits j { p with state }) :
    Kept { s with parks := s.parks.set j { p with state } } := by
  have hon : ∀ {id : BackendId}, Park.On { p with state } id → p.On id := by
    rintro id ⟨hid, stage, hstate⟩
    exact ⟨hid, hstill stage hstate⟩
  constructor
  · intro k q hk
    rcases getElem?_set_cases hk with ⟨rfl, rfl⟩ | ⟨-, hk⟩
    · exact hfits
    · exact h.fits k q hk
  · intro k k' q q' id hk hk' hq hq' howed
    rcases getElem?_set_cases hk with ⟨rfl, rfl⟩ | ⟨-, hold⟩
    · rcases getElem?_set_cases hk' with ⟨rfl, rfl⟩ | ⟨-, hold'⟩
      · rfl
      · exact h.alone k k' p q' id hj hold' (hon hq) hq' howed
    · rcases getElem?_set_cases hk' with ⟨rfl, rfl⟩ | ⟨-, hold'⟩
      · exact h.alone k k' q p id hold hj hq (hon hq') howed
      · exact h.alone k k' q q' id hold hold' hq hq' howed
  · intro c hc
    rw [List.length_set]
    exact h.known_le c hc
  · exact h.origin

/-- A request that is not parked relies on nothing. -/
theorem Fits.unparked (h : s.Fits j p) {state : ParkState}
    (hstate : ∀ stage, state ≠ .parked stage) : s.Fits j { p with state } := by
  constructor
  · exact h.earlier_le
  · exact h.returned
  · exact fun stage heq => absurd heq (hstate stage)
  · exact fun stage heq => absurd heq (hstate stage)
  · exact fun armed heq => heq.elim (fun h => absurd h (hstate _)) (fun h => absurd h (hstate _))
  · exact fun stage heq => absurd heq (hstate stage)
  · exact fun armed heq => absurd heq (hstate _)

/-- The next stage of a parked request: its handle is made, and what it has armed is at most what is
    notified so far. -/
theorem Fits.stage (h : s.Fits j p) {stage stage' : AwaitRefusalStage}
    (hstate : p.state = .parked stage) (hhandle : s.registry.HasHandle p.id)
    (harmed : ∀ armed, stage' = .take armed ∨ stage' = .wait armed →
      armed ≤ s.registry.notified p.id)
    (hwoken : ∀ armed, stage' = .wait armed → ∀ c ∈ s.refusals, c.id = p.id → j < c.known →
      c.stage = none → armed < s.registry.notified p.id) :
    s.Fits j { p with state := .parked stage' } := by
  constructor
  · exact h.earlier_le
  · exact h.returned
  · exact fun _ _ => h.fresh stage hstate
  · exact fun _ _ _ => hhandle
  · rintro armed (heq | heq)
    · exact harmed armed (.inl (ParkState.parked.inj heq))
    · exact harmed armed (.inr (ParkState.parked.inj heq))
  · exact fun _ _ => h.flagged stage hstate
  · exact fun armed heq => hwoken armed (ParkState.parked.inj heq)

theorem Kept.poll_handle (h : s.Kept) (hj : s.parks[j]? = some p)
    (hstate : p.state = .parked .handle) : (s.step (.poll j)).Kept := by
  rw [step_poll_handle hj hstate]
  have hmono : ∀ id, s.registry.notified id ≤ (s.registry.wakeHandle p.id.bytes).1.notified id := by
    intro id
    rw [TunnelRegistry.notified_wakeHandle]
  have hkept : (s.withRegistry (s.registry.wakeHandle p.id.bytes).1).Kept :=
    h.of_registry hmono (fun id hhandle => hhandle.wakeHandle _) rfl rfl rfl rfl rfl
  apply hkept.setPark hj
  · exact fun _ _ => ⟨_, hstate⟩
  · apply (hkept.fits j p hj).stage hstate
    · exact TunnelRegistry.hasHandle_wakeHandle (ArrayString.from?_bytes _)
    · rintro armed (heq | heq)
      · cases heq
      · cases heq
    · intro armed heq
      cases heq

theorem Kept.poll_arm (h : s.Kept) (hj : s.parks[j]? = some p) (hstate : p.state = .parked .arm) :
    (s.step (.poll j)).Kept := by
  rw [step_poll_arm hj hstate]
  have hfits := h.fits j p hj
  apply h.setPark hj
  · exact fun _ _ => ⟨_, hstate⟩
  · apply hfits.stage hstate (hfits.handled _ hstate (fun heq => by cases heq))
    · rintro armed (heq | heq)
      · cases heq
        exact Nat.le_refl _
      · cases heq
    · intro armed heq
      cases heq

theorem Kept.poll_wait (h : s.Kept) (hj : s.parks[j]? = some p)
    (hstate : p.state = .parked (.wait armed)) : (s.step (.poll j)).Kept := by
  have hfits := h.fits j p hj
  by_cases hpending : armed < s.registry.notified p.id
  · rw [step_poll_wait_pending hj hstate hpending]
    apply h.setPark hj
    · exact fun _ _ => ⟨_, hstate⟩
    · apply hfits.stage hstate (hfits.handled _ hstate (fun heq => by cases heq))
      · rintro armed (heq | heq)
        · cases heq
        · cases heq
      · intro armed heq
        cases heq
  · rw [step_poll_wait_idle hj hstate hpending]
    apply h.setPark hj
    · exact fun _ _ => ⟨_, hstate⟩
    · rw [← hstate]
      exact hfits

/-- The refusal of a backend is taken back while no request is parked there that it is meant for. -/
theorem Kept.unflag (h : s.Kept) (id : BackendId)
    (hnone : s.Flagged id → ∀ j (p : Park), s.parks[j]? = some p → p.On id → ¬ s.Owed j id) :
    Kept { s with refused := s.refused.remove id } := by
  have hget : ∀ {id' : BackendId}, ((s.refused.remove id).get id').isSome = true →
      s.Flagged id' := by
    intro id' hsome
    rw [DashMap.get_remove] at hsome
    split at hsome
    · cases hsome
    · exact hsome
  refine ⟨?_, h.alone, h.known_le, fun id' hflag => h.origin id' (hget hflag)⟩
  intro j p hj
  have hfits := h.fits j p hj
  refine { hfits with fresh := ?_, flagged := ?_ }
  · exact fun stage hstate hquiet hsome => hfits.fresh stage hstate hquiet (hget hsome)
  · intro stage hstate c hc hid hknown hbeyond
    have hflag := hfits.flagged stage hstate c hc hid hknown hbeyond
    rw [DashMap.get_remove]
    split
    · rename_i hsame
      rw [hsame] at hflag hid
      exact absurd ⟨c, hc, hid, hknown⟩ (hnone hflag j p hj ⟨hsame, stage, hstate⟩)
    · exact hflag

theorem Kept.poll_take (h : s.Kept) (hj : s.parks[j]? = some p)
    (hstate : p.state = .parked (.take armed)) : (s.step (.poll j)).Kept := by
  have hfits := h.fits j p hj
  by_cases hflag : s.Flagged p.id
  · -- the refusal can only have been meant for this request, which goes
    have hkept := h.setPark hj .refused (fun stage heq => by cases heq)
      (hfits.unparked (fun stage heq => by cases heq))
    rw [step_poll_take_flagged hj hstate hflag]
    apply hkept.unflag p.id
    rintro - k q hk ⟨hid, stage, hq⟩ howed
    rcases getElem?_set_cases hk with ⟨-, rfl⟩ | ⟨hne, hk⟩
    · cases hq
    · exact hne (h.alone k j q p p.id hk hj ⟨hid, stage, hq⟩ ⟨rfl, _, hstate⟩ howed)
  · have hkept := h.unflag p.id (fun hflag' => absurd hflag' hflag)
    rw [step_poll_take_none hj hstate hflag]
    apply hkept.setPark hj
    · exact fun _ _ => ⟨_, hstate⟩
    · have hfits' := hkept.fits j p hj
      apply hfits'.stage hstate (hfits'.handled _ hstate (fun heq => by cases heq))
      · rintro armed' (heq | heq)
        · cases heq
        · cases heq
          exact hfits.armed_le armed (.inl hstate)
      · -- a call that had returned would have left its refusal
        intro armed' _ c hc hid hknown hreturned
        refine absurd (hfits.flagged _ hstate c hc hid hknown ?_) hflag
        rw [hreturned]
        exact fun heq => by cases heq

theorem Kept.poll (h : s.Kept) (j : Nat) : (s.step (.poll j)).Kept := by
  by_cases hparked : ∃ p stage, s.parks[j]? = some p ∧ p.state = .parked stage
  · obtain ⟨p, stage, hj, hstate⟩ := hparked
    cases stage with
    | handle => exact h.poll_handle hj hstate
    | arm => exact h.poll_arm hj hstate
    | take armed => exact h.poll_take hj hstate
    | wait armed => exact h.poll_wait hj hstate
  · rw [step_poll_done (fun p stage hj hstate => hparked ⟨p, stage, hj, hstate⟩)]
    exact h

theorem Kept.leave (h : s.Kept) (j : Nat) : (s.step (.leave j)).Kept := by
  rw [step]
  split
  · rename_i id earlier quiet state hj
    split
    · exact h.setPark hj .left (fun stage heq => by cases heq)
        ((h.fits j _ hj).unparked (fun stage heq => by cases heq))
    · exact h
  · exact h

theorem Kept.advance (h : s.Kept) (i : Nat) : (s.step (.advance i)).Kept := by
  by_cases hrunning : ∃ c stage, s.refusals[i]? = some c ∧ c.stage = some stage
  · obtain ⟨c, stage, hc, hstage⟩ := hrunning
    cases stage with
    | insert => exact h.advance_insert hc hstage
    | notify => exact h.advance_notify hc hstage
  · rw [step_advance_done]
    · exact h
    · intro c hc
      rw [Option.eq_none_iff_forall_ne_some]
      exact fun stage hstage => hrunning ⟨c, stage, hc, hstage⟩

theorem Kept.step (h : s.Kept) (hone : s.OneToOne a) : (s.step a).Kept := by
  cases a with
  | registry a => exact h.registry a
  | noteRefusal id => exact h.noteRefusal hone
  | advance i => exact h.advance i
  | park id => exact h.park hone
  | poll j => exact h.poll j
  | leave j => exact h.leave j

theorem oneToOne_of_not_begins (h : a.begins = false) : s.OneToOne a := by
  cases a with
  | noteRefusal id => cases h
  | park id => cases h
  | registry _ | advance _ | poll _ | leave _ => exact trivial

/-- No request that a refusal is meant for sleeps. -/
theorem Kept.not_stranded (h : s.Kept) (j : Nat) : ¬ s.Stranded j := by
  rintro ⟨p, armed, hj, hstate, hpending, c, hc, hid, hknown, hreturned⟩
  exact hpending ((h.fits j p hj).woken armed hstate c hc hid hknown hreturned)

/-- A refusal that a request takes has come since it parked. -/
theorem Kept.not_takesStale (h : s.Kept) (a : RefusalAction) : ¬ s.TakesStale a := by
  cases a with
  | poll j =>
    rintro ⟨p, armed, hj, hstate, hflag, hquiet, hold⟩
    have := (h.fits j p hj).fresh _ hstate hquiet hflag
    omega
  | registry _ | noteRefusal _ | advance _ | park _ | leave _ => exact id

theorem Kept.releasesExactly (h : s.Kept) (hone : s.OneToOne a) : s.ReleasesExactly a :=
  ⟨(h.step hone).not_stranded, h.not_takesStale a⟩

/-! ## What happens otherwise -/

/-- The calls and requests that have begun can get from one state to the other. -/
def Reaches : RefusalSystem → RefusalSystem → Prop :=
  Relation.ReflTransGen fun s t => ∃ a : RefusalAction, a.begins = false ∧ t = s.step a

theorem Reaches.step (hbegins : a.begins = false) (h : Reaches (s.step a) t) : Reaches s t :=
  .head ⟨a, hbegins, rfl⟩ h

theorem refusals_poll (s : RefusalSystem) (k : Nat) :
    (s.step (.poll k)).refusals = s.refusals := by
  rw [RefusalSystem.step]
  split
  · split
    · rfl
    · rfl
  · rfl

theorem parks_poll_of_ne (hne : j ≠ k) : (s.step (.poll k)).parks[j]? = s.parks[j]? := by
  rw [RefusalSystem.step]
  split
  · split
    · exact List.getElem?_set_ne (Ne.symm hne)
    · exact List.getElem?_set_ne (Ne.symm hne)
  · rfl

/-- What the polls of one request lead to. -/
structure Polled (k : Nat) (s t : RefusalSystem) : Prop where
  reaches : Reaches s t
  refusals : t.refusals = s.refusals
  parks : ∀ j, j ≠ k → t.parks[j]? = s.parks[j]?

theorem Polled.refl (k : Nat) (s : RefusalSystem) : Polled k s s :=
  ⟨.refl, rfl, fun _ _ => rfl⟩

theorem Polled.poll (h : Polled k (s.step (.poll k)) t) : Polled k s t := by
  refine ⟨h.reaches.step rfl, ?_, ?_⟩
  · rw [h.refusals, refusals_poll]
  · intro j hne
    rw [h.parks j hne, parks_poll_of_ne hne]

theorem getElem?_set_park (hj : s.parks[j]? = some p) (p' : Park) :
    (s.parks.set j p')[j]? = some p' :=
  List.getElem?_set_self (List.getElem?_eq_some_iff.mp hj).1

/-- Where a request stands after a poll that goes on. -/
theorem parks_step (hj : s.parks[j]? = some p) {t' : RefusalSystem} (h : t = t') {p' : Park}
    (ht' : t'.parks = s.parks.set j p') : t.parks[j]? = some p' := by
  rw [h, ht']
  exact getElem?_set_park hj p'

/-- A request that looks at the refusal of its backend clears it. -/
theorem polled_take (hj : s.parks[j]? = some p) (hstate : p.state = .parked (.take armed)) :
    ∃ t, Polled j s t ∧ ¬ t.Flagged p.id := by
  refine ⟨s.step (.poll j), (Polled.refl j _).poll, ?_⟩
  have hrefused : (s.step (.poll j)).refused = s.refused.remove p.id := by
    by_cases hflag : s.Flagged p.id
    · rw [step_poll_take_flagged hj hstate hflag]
    · rw [step_poll_take_none hj hstate hflag]
  rw [Flagged, hrefused, DashMap.get_remove, if_pos rfl]
  exact Bool.false_ne_true

theorem polled_arm (hj : s.parks[j]? = some p) (hstate : p.state = .parked .arm) :
    ∃ t, Polled j s t ∧ ¬ t.Flagged p.id := by
  have hj' := parks_step hj (step_poll_arm hj hstate) rfl
  obtain ⟨t, hpolled, hflag⟩ := polled_take hj' rfl
  exact ⟨t, hpolled.poll, hflag⟩

/-- A parked request clears the refusal of its backend, unless it sleeps. -/
theorem exists_polled_not_flagged {stage : AwaitRefusalStage} (hj : s.parks[j]? = some p)
    (hstate : p.state = .parked stage)
    (hawake : ∀ armed, stage = .wait armed → armed < s.registry.notified p.id) :
    ∃ t, Polled j s t ∧ ¬ t.Flagged p.id := by
  cases stage with
  | handle =>
    have hj' := parks_step hj (step_poll_handle hj hstate) rfl
    obtain ⟨t, hpolled, hflag⟩ := polled_arm hj' rfl
    exact ⟨t, hpolled.poll, hflag⟩
  | arm => exact polled_arm hj hstate
  | take armed => exact polled_take hj hstate
  | wait armed =>
    have hj' := parks_step hj (step_poll_wait_pending hj hstate (hawake armed rfl)) rfl
    obtain ⟨t, hpolled, hflag⟩ := polled_arm hj' rfl
    exact ⟨t, hpolled.poll, hflag⟩

/-- The request is suspended, without a wake-up on its way. -/
def Sleeps (s : RefusalSystem) (j : Nat) (id : BackendId) : Prop :=
  ∃ p armed, s.parks[j]? = some p ∧ p.id = id ∧ p.state = .parked (.wait armed) ∧
    ¬ armed < s.registry.notified id

theorem sleeps_of_arm (hj : s.parks[j]? = some p) (hstate : p.state = .parked .arm)
    (hflag : ¬ s.Flagged p.id) : ∃ t, Polled j s t ∧ t.Sleeps j p.id := by
  have hstep := step_poll_arm hj hstate
  have hj' := parks_step hj hstep rfl
  have hflag' : ¬ (s.step (.poll j)).Flagged p.id := by
    rw [hstep]
    exact hflag
  have hstep' := step_poll_take_none hj' rfl hflag'
  refine ⟨(s.step (.poll j)).step (.poll j), (Polled.refl j _).poll.poll, ?_⟩
  refine ⟨{ p with state := .parked (.wait (s.registry.notified p.id)) }, _, ?_, rfl, rfl, ?_⟩
  · rw [hstep']
    exact getElem?_set_park hj' _
  · rw [hstep', hstep]
    exact Nat.lt_irrefl _

/-- Where a wake-up is on its way the request looks once more. -/
theorem sleeps_of_wait (hj : s.parks[j]? = some p) (hstate : p.state = .parked (.wait armed))
    (hflag : ¬ s.Flagged p.id) : ∃ t, Polled j s t ∧ t.Sleeps j p.id := by
  by_cases hpending : armed < s.registry.notified p.id
  · have hstep := step_poll_wait_pending hj hstate hpending
    have hj' := parks_step hj hstep rfl
    have hflag' : ¬ (s.step (.poll j)).Flagged p.id := by
      rw [hstep]
      exact hflag
    obtain ⟨t, hpolled, hsleeps⟩ := sleeps_of_arm hj' rfl hflag'
    exact ⟨t, hpolled.poll, hsleeps⟩
  · exact ⟨s, .refl j s, p, armed, hj, rfl, hstate, hpending⟩

/-- Without a refusal a parked request falls asleep. -/
theorem exists_polled_sleeps {stage : AwaitRefusalStage} (hj : s.parks[j]? = some p)
    (hstate : p.state = .parked stage) (hflag : ¬ s.Flagged p.id) :
    ∃ t, Polled j s t ∧ t.Sleeps j p.id := by
  cases stage with
  | handle =>
    have hstep := step_poll_handle hj hstate
    have hj' := parks_step hj hstep rfl
    have hflag' : ¬ (s.step (.poll j)).Flagged p.id := by
      rw [hstep]
      exact hflag
    obtain ⟨t, hpolled, hsleeps⟩ := sleeps_of_arm hj' rfl hflag'
    exact ⟨t, hpolled.poll, hsleeps⟩
  | arm => exact sleeps_of_arm hj hstate hflag
  | take armed =>
    have hstep := step_poll_take_none hj hstate hflag
    have hj' := parks_step hj hstep rfl
    have hflag' : ¬ (s.step (.poll j)).Flagged p.id := by
      rw [hstep, Flagged, DashMap.get_remove, if_pos rfl]
      exact Bool.false_ne_true
    obtain ⟨t, hpolled, hsleeps⟩ := sleeps_of_wait hj' rfl hflag'
    exact ⟨t, hpolled.poll, hsleeps⟩
  | wait armed => exact sleeps_of_wait hj hstate hflag

theorem exists_returned_of_notify (hi : s.refusals[i]? = some c) (hstage : c.stage = some .notify) :
    ∃ t, Reaches s t ∧ { c with stage := none } ∈ t.refusals ∧ t.parks = s.parks := by
  have hstep := step_advance_notify hi hstage
  refine ⟨s.step (.advance i), Reaches.step rfl .refl, ?_, ?_⟩
  · rw [hstep]
    exact List.mem_set (List.getElem?_eq_some_iff.mp hi).1 _
  · rw [hstep]
    rfl

/-- A call returns, if it is let. -/
theorem exists_returned (hi : s.refusals[i]? = some c) :
    ∃ t, Reaches s t ∧ { c with stage := none } ∈ t.refusals ∧ t.parks = s.parks := by
  cases hstage : c.stage with
  | none =>
    rw [← hstage]
    exact ⟨s, .refl, List.mem_of_getElem? hi, rfl⟩
  | some stage =>
    cases stage with
    | notify => exact exists_returned_of_notify hi hstage
    | insert =>
      have hstep := step_advance_insert hi hstage
      have hi' : (s.step (.advance i)).refusals[i]? = some { c with stage := some .notify } := by
        rw [hstep]
        exact List.getElem?_set_self (List.getElem?_eq_some_iff.mp hi).1
      obtain ⟨t, hreaches, hmem, hparks⟩ := exists_returned_of_notify hi' rfl
      refine ⟨t, hreaches.step rfl, hmem, ?_⟩
      rw [hparks, hstep]

theorem Sleeps.stranded (h : s.Sleeps j id) (hc : c ∈ s.refusals) (hid : c.id = id)
    (hknown : j < c.known) (hreturned : c.stage = none) : s.Stranded j := by
  obtain ⟨p, armed, hj, rfl, hstate, hpending⟩ := h
  exact ⟨p, armed, hj, hstate, hpending, c, hc, hid, hknown, hreturned⟩

/-- Of two parked requests one takes the refusal, and the other goes without. -/
theorem exists_stranded {q : Park} (hc : c ∈ s.refusals) (hreturned : c.stage = none) (hne : j ≠ k)
    (hj : s.parks[j]? = some p) (hk : s.parks[k]? = some q) (hon : p.On c.id) (hon' : q.On c.id)
    (hknown : j < c.known) (hknown' : ∀ armed, q.state = .parked (.wait armed) → k < c.known) :
    ∃ t, Reaches s t ∧ ∃ j, t.Stranded j := by
  obtain ⟨hpid, stage, hp⟩ := hon
  obtain ⟨hqid, stage', hq⟩ := hon'
  by_cases hsleeps : s.Sleeps k c.id
  · have hwait : ∃ armed, q.state = .parked (.wait armed) := by
      obtain ⟨q', armed, hk', -, hstate, -⟩ := hsleeps
      cases hk.symm.trans hk'
      exact ⟨armed, hstate⟩
    obtain ⟨armed, hwait⟩ := hwait
    exact ⟨s, .refl, k, hsleeps.stranded hc rfl (hknown' armed hwait) hreturned⟩
  · have hawake : ∀ armed, stage' = .wait armed → armed < s.registry.notified q.id := by
      rintro armed rfl
      by_contra hpending
      exact hsleeps ⟨q, armed, hk, hqid, hq, hqid ▸ hpending⟩
    obtain ⟨t, hpolled, hflag⟩ := exists_polled_not_flagged hk hq hawake
    have hj' : t.parks[j]? = some p := (hpolled.parks j hne).trans hj
    have hflag' : ¬ t.Flagged p.id := by
      rw [hpid, ← hqid]
      exact hflag
    obtain ⟨u, hpolled', hsleeps'⟩ := exists_polled_sleeps hj' hp hflag'
    have hc' : c ∈ u.refusals := by
      rw [hpolled'.refusals, hpolled.refusals]
      exact hc
    exact ⟨u, hpolled.reaches.trans hpolled'.reaches, j,
      hsleeps'.stranded hc' hpid.symm hknown hreturned⟩

theorem exists_stranded_of_noteRefusal {q : Park} (hne : j ≠ k) (hj : s.parks[j]? = some p)
    (hk : s.parks[k]? = some q) (hon : p.On id) (hon' : q.On id) :
    ∃ t, Reaches (s.step (.noteRefusal id)) t ∧ ∃ j, t.Stranded j := by
  have hlast : (s.step (.noteRefusal id)).refusals[s.refusals.length]? =
      some { id, known := s.parks.length, stage := some .insert } := by
    rw [RefusalSystem.step]
    exact List.getElem?_concat_length
  obtain ⟨t, hreaches, hc, hparks⟩ := exists_returned hlast
  have hj' : t.parks[j]? = some p := by
    rw [hparks]
    exact hj
  have hk' : t.parks[k]? = some q := by
    rw [hparks]
    exact hk
  have hjlt := (List.getElem?_eq_some_iff.mp hj).1
  have hklt := (List.getElem?_eq_some_iff.mp hk).1
  obtain ⟨u, hreaches', hstranded⟩ :=
    exists_stranded hc rfl hne hj' hk' hon hon' hjlt (fun _ _ => hklt)
  exact ⟨u, hreaches.trans hreaches', hstranded⟩

theorem parks_park_last (s : RefusalSystem) (id : BackendId) :
    (s.step (.park id)).parks[s.parks.length]? = some
      { id, earlier := s.refusals.length, quiet := s.quiet id, state := .parked .handle } := by
  rw [RefusalSystem.step]
  exact List.getElem?_concat_length

/-- A request comes while a refusal is on its way to another one. -/
theorem exists_stranded_of_park (hj : s.parks[j]? = some p) (hon : p.On id) (howed : s.Owed j id) :
    ∃ t, Reaches (s.step (.park id)) t ∧ ∃ j, t.Stranded j := by
  obtain ⟨c, hc, rfl, hknown⟩ := howed
  obtain ⟨i, hi⟩ := List.getElem?_of_mem hc
  have hi' : (s.step (.park c.id)).refusals[i]? = some c := hi
  obtain ⟨t, hreaches, hc', hparks⟩ := exists_returned hi'
  have hjlt := (List.getElem?_eq_some_iff.mp hj).1
  have hj' : t.parks[j]? = some p := by
    rw [hparks, RefusalSystem.step]
    exact (List.getElem?_append_left hjlt).trans hj
  have hk' := parks_park_last s c.id
  rw [← hparks] at hk'
  obtain ⟨u, hreaches', hstranded⟩ :=
    exists_stranded hc' rfl (Nat.ne_of_lt hjlt) hj' hk' hon ⟨rfl, _, rfl⟩ hknown
      (fun armed hstate => by cases hstate)
  exact ⟨u, hreaches.trans hreaches', hstranded⟩

/-- A request finds a refusal that was there before it. -/
theorem exists_takesStale_of_park (h : s.Kept) (hquiet : s.quiet id = true) (hflag : s.Flagged id) :
    ∃ t, Reaches (s.step (.park id)) t ∧ ∃ k, t.TakesStale (.poll k) := by
  obtain ⟨c, hc, -⟩ := h.origin id hflag
  have hold : s.origin id < s.refusals.length := (List.getElem?_eq_some_iff.mp hc).1
  have hk := parks_park_last s id
  have hhandle := step_poll_handle hk rfl
  have hk' : ((s.step (.park id)).step (.poll s.parks.length)).parks[s.parks.length]? = some
      { id, earlier := s.refusals.length, quiet := s.quiet id, state := .parked .arm } := by
    rw [hhandle]
    exact getElem?_set_park hk _
  have harm := step_poll_arm hk' rfl
  refine ⟨((s.step (.park id)).step (.poll s.parks.length)).step (.poll s.parks.length),
    Reaches.step rfl (Reaches.step rfl .refl), s.parks.length, ?_⟩
  rw [harm]
  refine ⟨_, _, getElem?_set_park hk' _, rfl, ?_, hquiet, ?_⟩
  · rw [hhandle]
    exact hflag
  · rw [hhandle]
    exact hold

/-- The state has gone wrong, or does in the next step. -/
def Wrong (s : RefusalSystem) : Prop := (∃ j, s.Stranded j) ∨ ∃ k, s.TakesStale (.poll k)

theorem exists_wrong (h : s.Kept) (hnot : ¬ s.OneToOne a) :
    ∃ t, Reaches (s.step a) t ∧ t.Wrong := by
  cases a with
  | park id =>
    rw [OneToOne, not_and_or] at hnot
    rcases hnot with hstale | howed
    · obtain ⟨hquiet, hflag⟩ := Classical.not_imp.mp hstale
      obtain ⟨t, hreaches, htakes⟩ := exists_takesStale_of_park h hquiet (not_not.mp hflag)
      exact ⟨t, hreaches, .inr htakes⟩
    · push Not at howed
      obtain ⟨j, p, hj, hon, howed⟩ := howed
      obtain ⟨t, hreaches, hstranded⟩ := exists_stranded_of_park hj hon howed
      exact ⟨t, hreaches, .inl hstranded⟩
  | noteRefusal id =>
    rw [OneToOne] at hnot
    push Not at hnot
    obtain ⟨j, k, p, q, hj, hk, hon, hon', hne⟩ := hnot
    obtain ⟨t, hreaches, hstranded⟩ := exists_stranded_of_noteRefusal hne hj hk hon hon'
    exact ⟨t, hreaches, .inl hstranded⟩
  | registry _ | advance _ | poll _ | leave _ => exact absurd trivial hnot

/-- In a run whose steps release exactly, nothing goes wrong. -/
theorem not_wrong_of_runOk {maxSessionsPerBackend : UInt32} {as : List RefusalAction}
    (h : ∀ later, (∀ a ∈ later, RefusalAction.begins a = false) →
      RunOk step ReleasesExactly (start maxSessionsPerBackend) (as ++ later)) :
    ¬ (run step (start maxSessionsPerBackend) as).Wrong := by
  rintro (⟨j, hstranded⟩ | ⟨k, htakes⟩)
  · have hok := h [] (fun a ha => by cases ha)
    rw [List.append_nil] at hok
    -- in the first state there is no request, and no step strands one
    have hstart : ∀ j, ¬ (start maxSessionsPerBackend).Stranded j := by
      rintro j ⟨p, armed, hj, -⟩
      cases hj
    exact @run_invariant _ _ step ReleasesExactly (fun s => ∀ j, ¬ s.Stranded j)
      (fun s a _ hexact => hexact.released) _ as hstart hok j hstranded
  · have hok := h [.poll k] (fun a ha => by rw [List.mem_singleton.mp ha]; rfl)
    exact (runOk_concat.mp hok).2.fresh htakes

/-- A `note_refusal` releases every request that is parked on its backend when it is called, and a
    request that parks once all of them have returned is released by none of them, in every way the
    calls and requests of a run can be scheduled, if and only if refusals and requests meet one to
    one in the run. -/
theorem refusal_releases_parked_iff (maxSessionsPerBackend : UInt32) (as : List RefusalAction) :
    (∀ done, done <+: as → ∀ later, (∀ a ∈ later, RefusalAction.begins a = false) →
        RunOk step ReleasesExactly (start maxSessionsPerBackend) (done ++ later)) ↔
      RunOk step OneToOne (start maxSessionsPerBackend) as := by
  constructor
  · intro h
    -- from the right: the actions before the last one meet the condition, so `Kept` holds there
    induction as using List.reverseRecOn with
    | nil => exact trivial
    | append_singleton as a ih =>
      have hone := ih (fun done hdone => h done (hdone.trans (List.prefix_append as [a])))
      have hkept : (run step (start maxSessionsPerBackend) as).Kept :=
        run_invariant (fun s a hs => hs.step) (kept_start maxSessionsPerBackend) hone
      rw [runOk_concat]
      refine ⟨hone, ?_⟩
      by_contra hnot
      obtain ⟨t, hreaches, hwrong⟩ := exists_wrong hkept hnot
      obtain ⟨bs, hbegins, rfl⟩ := exists_run_of_reflTransGen hreaches
      rw [← run_concat step, ← run_append] at hwrong
      refine not_wrong_of_runOk ?_ hwrong
      intro later hlater
      rw [List.append_assoc]
      refine h (as ++ [a]) (List.prefix_refl _) (bs ++ later) ?_
      intro b hb
      rcases List.mem_append.mp hb with hb | hb
      · exact hbegins b hb
      · exact hlater b hb
  · rintro hone done ⟨todo, rfl⟩ later hlater
    have hlater' : RunOk step OneToOne (run step (start maxSessionsPerBackend) done) later := by
      rw [runOk_iff_forall]
      rintro before a after rfl
      exact oneToOne_of_not_begins (hlater a (List.mem_append_right _ List.mem_cons_self))
    have hok := runOk_append.mpr ⟨(runOk_append.mp hone).1, hlater'⟩
    exact hok.of_invariant (fun s a hs => hs.step) (fun s a hs => hs.releasesExactly)
      (kept_start maxSessionsPerBackend)

end RefusalSystem

namespace Sample

/-- Two requests wait for `device-7`; it is refused, and each of them looks. -/
def refusedToTwo : List RefusalAction :=
  [.park device, .park device, .poll 0, .poll 0, .poll 0, .poll 1, .poll 1, .poll 1,
    .noteRefusal device, .advance 0, .advance 0, .poll 0, .poll 0, .poll 0, .poll 1, .poll 1,
    .poll 1]

/-- `device-7` is refused while nobody waits for it; a request comes later. -/
def refusedToNone : List RefusalAction :=
  [.noteRefusal device, .advance 0, .advance 0, .park device, .poll 0, .poll 0]

end Sample

/-- One of two parked requests is not released; and a refusal from before a request parks releases
    it. -/
theorem refusal_strands_second_and_releases_later :
    (run RefusalSystem.step (.start 4) Sample.refusedToTwo).Stranded 1 ∧
      (run RefusalSystem.step (.start 4) Sample.refusedToNone).TakesStale (.poll 0) := by
  constructor
  · refine ⟨{ id := Sample.device, earlier := 0, quiet := true, state := .parked (.wait 1) }, 1, ?_,
      rfl, ?_, { id := Sample.device, known := 2, stage := none }, ?_, rfl, ?_, rfl⟩
    · rfl
    · decide +kernel
    · exact List.mem_singleton.mpr rfl
    · decide
  · refine ⟨{ id := Sample.device, earlier := 1, quiet := true, state := .parked (.take 0) }, 0, ?_,
      rfl, ?_, rfl, ?_⟩
    · rfl
    · rfl
    · decide +kernel

end Reduction
