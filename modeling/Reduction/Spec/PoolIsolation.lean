import Reduction.ForStd.Interleaving
import Reduction.Native.PooledConns

/-!
# Connections are reused for what they were dialed for

`PoolSystem` lets calls of the pool begin and take their stages in any order, and
connections close at any time.  A connection stays with the address and the host
that it was made for, in the pool and in the hands of a call, and a slot of the
pool never has more than its share.
-/

namespace Reduction

open Run Interleaving

/-- The calls that use the pooled connections. -/
inductive PoolCall where
  | acquire (b : BackendConfig)
  | acquireRawStream (b : BackendConfig)
  | warmUp (backends : List BackendConfig)
  | drainBackends (addrs : List SocketAddr)
  | drain

def PoolCall.first : PoolCall → PoolStage
  | acquire b => .acquire b .returns
  | acquireRawStream b => .acquireRawStream b
  | warmUp backends => .warmUp backends
  | drainBackends addrs => .drainBackends addrs
  | drain => .drain

structure PoolSystem where
  pool : IdlePool
  calls : List PoolStage
  handedOut : List HandedOut

inductive PoolAction where
  | call (c : PoolCall)
  /-- A call does its next stage. -/
  | advance (i : Nat) (input : PoolInput)
  | closes (id : Nat)

namespace PoolSystem

def start (h2Conns maxIdleQuic : UInt32) : PoolSystem :=
  { pool := .new h2Conns maxIdleQuic, calls := [], handedOut := [] }

def step (s : PoolSystem) : PoolAction → PoolSystem
  | .call c => { s with calls := s.calls ++ [c.first] }
  | .advance i input =>
    match s.calls[i]? with
    | some stage =>
      match stage.step s.pool input with
      | (pool, stage, out) =>
        { pool, calls := s.calls.set i stage, handedOut := s.handedOut ++ out.toList }
    | none => s
  | .closes id => { s with pool := s.pool.close id }

end PoolSystem

/-! ## Slots -/

/-- The connection was made for the address and the host. -/
def PooledConn.For (conn : PooledConn) (addr : SocketAddr) (host : Bytes) : Prop :=
  conn.address = addr ∧ conn.host = host

namespace ConnMap

variable {m : ConnMap} {cap : Nat} {addr : SocketAddr} {host : Bytes}

/-- Slots hold connections of their own, and no more than `cap`. -/
def Within (cap : Nat) (m : ConnMap) : Prop :=
  ∀ addr host, (∀ conn ∈ m.slot addr host, conn.For addr host) ∧ (m.slot addr host).length ≤ cap

theorem slot_setSlot (m : ConnMap) (addr addr' : SocketAddr) (host host' : Bytes)
    (conns : List PooledConn) :
    (m.setSlot addr host conns).slot addr' host' =
      if addr' = addr ∧ host' = host then conns else m.slot addr' host' := by
  unfold slot setSlot
  rw [DashMap.get_insert]
  by_cases haddr : addr' = addr
  · rw [if_pos haddr, Option.getD_some, DashMap.bucket_insert, haddr]
    by_cases hhost : host' = host
    · rw [if_pos hhost, if_pos ⟨rfl, hhost⟩]
    · rw [if_neg hhost, if_neg fun h => hhost h.2]
  · rw [if_neg haddr, if_neg fun h => haddr h.1]

theorem within_empty (cap : Nat) : Within cap ∅ :=
  fun _ _ => ⟨fun _ h => absurd h List.not_mem_nil, Nat.zero_le cap⟩

variable {conns : List PooledConn}

theorem Within.setSlot (h : m.Within cap) (hfor : ∀ conn ∈ conns, conn.For addr host)
    (hlength : conns.length ≤ cap) : (m.setSlot addr host conns).Within cap := by
  intro addr' host'
  rw [slot_setSlot]
  split
  · rename_i hsame
    rw [hsame.1, hsame.2]
    exact ⟨hfor, hlength⟩
  · exact h addr' host'

/-- Connections leave a slot. -/
theorem Within.cut (h : m.Within cap) (hsub : conns.Sublist (m.slot addr host)) :
    (m.setSlot addr host conns).Within cap :=
  h.setSlot (fun c hc => (h addr host).1 c (hsub.subset hc)) (hsub.length_le.trans (h addr host).2)

/-- And one joins those that are left, if there is room. -/
theorem Within.push (h : m.Within cap) {conn : PooledConn} (hsub : conns.Sublist (m.slot addr host))
    (hconn : conn.For addr host) :
    (m.setSlot addr host (if conns.length < cap then conns ++ [conn] else conns)).Within cap := by
  split
  · rename_i hroom
    refine h.setSlot (forall_mem_concat ?_ hconn) ?_
    · exact fun c hc => (h addr host).1 c (hsub.subset hc)
    · rw [List.length_append, List.length_singleton]
      exact hroom
  · exact h.cut hsub

/-- The connections of an address are dropped. -/
theorem Within.of_slot (h : m.Within cap) {m' : ConnMap}
    (hslot : ∀ addr host, m'.slot addr host = [] ∨ m'.slot addr host = m.slot addr host) :
    m'.Within cap := by
  intro addr host
  rcases hslot addr host with hnil | hsame
  · rw [hnil]
    exact ⟨fun _ h => absurd h List.not_mem_nil, Nat.zero_le cap⟩
  · rw [hsame]
    exact h addr host

theorem Within.remove (h : m.Within cap) (addr : SocketAddr) :
    Within cap (DashMap.remove m addr) := by
  refine h.of_slot fun addr' host => ?_
  unfold slot
  rw [DashMap.get_remove]
  split
  · exact .inl rfl
  · exact .inr rfl

theorem slot_of_get (h : (DashMap.get m addr).bind (DashMap.get · host) = some conns) :
    m.slot addr host = conns := by
  obtain ⟨hosts, hhosts, hconns⟩ := Option.bind_eq_some_iff.mp h
  rw [slot, hhosts, Option.getD_some, DashMap.bucket, hconns, Option.getD_some]

end ConnMap

namespace IdlePool

variable {p : IdlePool} {h2Conns maxIdleQuic : UInt32} {b : BackendConfig} {conn : PooledConn}

/-- Every slot holds connections of its own, within the configured caps. -/
structure Isolated (h2Conns maxIdleQuic : UInt32) (p : IdlePool) : Prop where
  h2Cap : p.h2ConnsPerBackend = h2Conns
  quicCap : p.maxIdleQuicPerHost = maxIdleQuic
  tcpH2 : p.tcpH2.Within h2Conns.toNat
  quicIdle : p.quicIdle.Within maxIdleQuic.toNat

theorem isolated_new : (new h2Conns maxIdleQuic).Isolated h2Conns maxIdleQuic :=
  ⟨rfl, rfl, ConnMap.within_empty _, ConnMap.within_empty _⟩

/-- A sender that is reused is one of its slot, and open. -/
theorem Isolated.reusePooledH2 (h : p.Isolated h2Conns maxIdleQuic) (addr : SocketAddr)
    (host : Bytes) (isReady : PooledConn → Bool) :
    (p.reusePooledH2 addr host isReady).1.Isolated h2Conns maxIdleQuic ∧
      ∀ out ∈ (p.reusePooledH2 addr host isReady).2, out.1.For addr host ∧ p.isOpen out.1 := by
  unfold IdlePool.reusePooledH2
  split
  · exact ⟨h, by simp⟩
  · rename_i senders hget
    have hsub : (senders.filter p.isOpen).Sublist (p.tcpH2.slot addr host) := by
      rw [ConnMap.slot_of_get hget]
      exact List.filter_sublist
    have hset := h.tcpH2.cut hsub
    have hpicked : ∀ (i : Nat) (ready : Bool),
        ∀ out ∈ ((senders.filter p.isOpen)[i]?.map fun c => (c, ready)),
          out.1.For addr host ∧ p.isOpen out.1 := by
      intro i ready out hout
      obtain ⟨c, hc, rfl⟩ := Option.map_eq_some_iff.mp hout
      have hmem := List.mem_of_getElem? hc
      exact ⟨(h.tcpH2 addr host).1 c (hsub.subset hmem), List.of_mem_filter hmem⟩
    dsimp only
    split
    · exact ⟨{ h with tcpH2 := hset }, by simp⟩
    · split
      · exact ⟨{ h with tcpH2 := hset }, hpicked _ true⟩
      · exact ⟨{ h with tcpH2 := hset }, hpicked _ false⟩

theorem Isolated.storeH2 (h : p.Isolated h2Conns maxIdleQuic) (hconn : conn.For b.address b.host) :
    (p.storeH2 b conn).Isolated h2Conns maxIdleQuic := by
  obtain rfl := h.h2Cap
  exact { h with tcpH2 := h.tcpH2.push List.filter_sublist hconn }

/-- A connection that is taken is one of its slot, and open. -/
theorem Isolated.takeQuic (h : p.Isolated h2Conns maxIdleQuic) (addr : SocketAddr) (host : Bytes) :
    (p.takeQuic addr host).1.Isolated h2Conns maxIdleQuic ∧
      ∀ conn ∈ (p.takeQuic addr host).2, conn.For addr host ∧ p.isOpen conn := by
  unfold IdlePool.takeQuic
  split
  · exact ⟨h, by simp⟩
  · rename_i queue hget
    have hsub : (queue.dropWhile fun c => !p.isOpen c).Sublist (p.quicIdle.slot addr host) := by
      rw [ConnMap.slot_of_get hget]
      exact List.dropWhile_sublist _
    dsimp only
    have hset := h.quicIdle.cut ((List.tail_sublist _).trans hsub)
    refine ⟨{ h with quicIdle := hset }, ?_⟩
    intro c hc
    have hopen := List.head?_dropWhile_not (fun c => !p.isOpen c) queue
    rw [Option.mem_def.mp hc] at hopen
    have hmem := hsub.subset (List.mem_of_mem_head? hc)
    exact ⟨(h.quicIdle addr host).1 c hmem, by simpa using hopen⟩

theorem Isolated.putQuic (h : p.Isolated h2Conns maxIdleQuic) (hconn : conn.For b.address b.host) :
    (p.putQuic b.address b.host conn).Isolated h2Conns maxIdleQuic := by
  obtain rfl := h.quicCap
  unfold IdlePool.putQuic
  split
  · exact { h with quicIdle := h.quicIdle.push (List.Sublist.refl _) hconn }
  · exact h

theorem Isolated.drainQuic (h : p.Isolated h2Conns maxIdleQuic) (addr : SocketAddr) :
    (p.drainQuic addr).Isolated h2Conns maxIdleQuic := by
  refine { h with quicIdle := h.quicIdle.of_slot fun addr' host => ?_ }
  unfold IdlePool.drainQuic ConnMap.slot
  dsimp only
  rw [DashMap.get_modify]
  split
  · cases DashMap.get p.quicIdle addr with
    | none => exact .inl rfl
    | some hosts => exact .inl rfl
  · exact .inr rfl

end IdlePool

/-! ## Calls -/

namespace PoolStage

variable {p : IdlePool} {h2Conns maxIdleQuic : UInt32}

/-- The connection that a call holds was made for its backend. -/
def Fits : PoolStage → Prop
  | probe b conn _ | storeH2 b conn _ | openStream b conn _ | putQuic b conn _ =>
    conn.For b.address b.host
  | closing _ next => next.Fits
  | _ => True

theorem fits_after (b : BackendConfig) (k : AfterConn) : (after b k).Fits := by
  cases k with
  | returns => trivial
  | warms left rest => cases left <;> trivial

theorem fits_afterFailure (k : AfterConn) : (afterFailure k).Fits := by
  cases k <;> trivial

/-- What a stage leaves: the pool isolated, the next stage with a connection of its backend, and
    a connection that was handed out open and made for the backend. -/
structure Sound (h2Conns maxIdleQuic : UInt32) (r : IdlePool × PoolStage × Option HandedOut) :
    Prop where
  pool : r.1.Isolated h2Conns maxIdleQuic
  fits : r.2.1.Fits
  out : ∀ out ∈ r.2.2, out.conn.For out.backend.address out.backend.host ∧ out.closed = false

theorem Sound.quiet (h : p.Isolated h2Conns maxIdleQuic) {stage : PoolStage} (hfits : stage.Fits) :
    Sound h2Conns maxIdleQuic (p, stage, none) :=
  ⟨h, hfits, fun _ hout => by cases hout⟩

theorem sound_step (h : p.Isolated h2Conns maxIdleQuic) (input : PoolInput) {stage : PoolStage}
    (hfits : stage.Fits) : Sound h2Conns maxIdleQuic (stage.step p input) := by
  cases stage with
  | acquire b k =>
    rw [step]
    split
    · exact .quiet h (fits_after b k)
    · split
      · exact .quiet h (fits_after b k)
      · exact .quiet h trivial
      · exact .quiet h trivial
  | acquireRawStream b =>
    refine .quiet h ?_
    split <;> trivial
  | reuse b k =>
    obtain ⟨hpool, hpicked⟩ := h.reusePooledH2 b.address b.host input.isReady
    rw [step]
    split
    · rename_i p' sender ready heq
      rw [heq] at hpool hpicked
      obtain ⟨hfor, hopen⟩ := hpicked _ rfl
      refine ⟨hpool, ?_, ?_⟩
      · show (if ready then after b k else probe b sender k).Fits
        split
        · exact fits_after b k
        · exact hfor
      · intro out hout
        cases hout
        exact ⟨hfor, by simpa [IdlePool.isOpen] using hopen⟩
    · rename_i p' heq
      rw [heq] at hpool
      exact .quiet hpool trivial
  | probe b conn k =>
    refine .quiet h ?_
    split
    · exact fits_after b k
    · trivial
  | connectH2 b k =>
    rw [step]
    split
    · refine .quiet ?_ (show PooledConn.For _ _ _ from ⟨rfl, rfl⟩)
      exact { h with }
    · exact .quiet h (fits_afterFailure k)
  | storeH2 b conn k => exact .quiet (h.storeH2 hfits) (fits_after b k)
  | takeQuic b k =>
    obtain ⟨hpool, htaken⟩ := h.takeQuic b.address b.host
    rw [step]
    split
    · rename_i p' conn heq
      rw [heq] at hpool htaken
      obtain ⟨hfor, hopen⟩ := htaken _ rfl
      refine ⟨hpool, hfor, ?_⟩
      intro out hout
      cases hout
      exact ⟨hfor, by simpa [IdlePool.isOpen] using hopen⟩
    · rename_i p' heq
      rw [heq] at hpool
      exact .quiet hpool trivial
  | connectQuic b k =>
    rw [step]
    split
    · refine .quiet ?_ (show PooledConn.For _ _ _ from ⟨rfl, rfl⟩)
      exact { h with }
    · exact .quiet h (fits_afterFailure k)
  | openStream b conn k =>
    refine .quiet h ?_
    split
    · exact hfits
    · exact fits_afterFailure k
  | putQuic b conn k => exact .quiet (h.putQuic hfits) (fits_after b k)
  | warmUp backends =>
    cases backends with
    | nil => exact .quiet h trivial
    | cons b rest =>
      rw [step]
      split <;> exact .quiet h trivial
  | warmUpTcp b rest =>
    rw [step]
    split <;> exact .quiet h trivial
  | drainBackends addrs =>
    cases addrs with
    | nil => exact .quiet h trivial
    | cons addr addrs =>
      rw [step]
      refine .quiet ?_ trivial
      exact { h with tcpH2 := h.tcpH2.remove addr }
  | drainBackendsQuic addr addrs =>
    rw [step]
    refine .quiet ?_ trivial
    exact { h with quicIdle := h.quicIdle.remove addr }
  | drain =>
    rw [step]
    refine .quiet ?_ trivial
    exact { h with tcpH2 := ConnMap.within_empty _ }
  | drainQuic =>
    rw [step]
    split
    · exact .quiet (h.drainQuic _) trivial
    · refine .quiet ?_ trivial
      exact { h with quicIdle := ConnMap.within_empty _ }
  | closing conns next =>
    cases conns with
    | nil => exact .quiet h hfits
    | cons conn conns =>
      rw [step]
      refine .quiet ?_ hfits
      exact { h with }
  | done => exact .quiet h trivial

end PoolStage

/-! ## Runs -/

namespace PoolSystem

structure Isolated (h2Conns maxIdleQuic : UInt32) (s : PoolSystem) : Prop where
  pool : s.pool.Isolated h2Conns maxIdleQuic
  fits : ∀ stage ∈ s.calls, stage.Fits
  out : ∀ out ∈ s.handedOut,
    out.conn.For out.backend.address out.backend.host ∧ out.closed = false

theorem isolated_step {h2Conns maxIdleQuic : UInt32} {s : PoolSystem}
    (h : s.Isolated h2Conns maxIdleQuic) (a : PoolAction) :
    (s.step a).Isolated h2Conns maxIdleQuic := by
  cases a with
  | call c =>
    refine { h with fits := forall_mem_concat h.fits ?_ }
    cases c <;> trivial
  | advance i input =>
    rw [step]
    cases hcall : s.calls[i]? with
    | none => exact h
    | some stage =>
      have hsound := PoolStage.sound_step h.pool input (h.fits stage (List.mem_of_getElem? hcall))
      refine ⟨hsound.pool, forall_mem_set h.fits hsound.fits, fun out hout => ?_⟩
      rcases List.mem_append.mp hout with hout | hout
      · exact h.out out hout
      · exact hsound.out out (Option.mem_toList.mp hout)
  | closes id => exact { h with pool := { h.pool with } }

/-- In every interleaving of calls, a pooled connection that was handed out for a backend had been
    dialed to its address and verified for its host and was open when it was taken, and every slot
    is within its cap. -/
theorem pooled_connections_isolated (h2Conns maxIdleQuic : UInt32) (actions : List PoolAction) :
    let s := run step (start h2Conns maxIdleQuic) actions
    (∀ out ∈ s.handedOut,
        out.conn.address = out.backend.address ∧ out.conn.host = out.backend.host ∧
          out.closed = false) ∧
      ∀ addr host,
        (s.pool.tcpH2.slot addr host).length ≤ h2Conns.toNat ∧
          (s.pool.quicIdle.slot addr host).length ≤ maxIdleQuic.toNat := by
  intro s
  have hstart : (start h2Conns maxIdleQuic).Isolated h2Conns maxIdleQuic :=
    ⟨IdlePool.isolated_new, (fun _ h => by cases h), (fun _ h => by cases h)⟩
  have h := @run_invariant_of_step _ _ step (Isolated h2Conns maxIdleQuic)
    (fun _ a h => isolated_step h a) _ hstart actions
  exact ⟨fun out hout => ⟨(h.out out hout).1.1, (h.out out hout).1.2, (h.out out hout).2⟩,
    fun addr host => ⟨(h.pool.tcpH2 addr host).2, (h.pool.quicIdle addr host).2⟩⟩

end PoolSystem

end Reduction
