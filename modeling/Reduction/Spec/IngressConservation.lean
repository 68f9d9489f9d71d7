import Reduction.Spec.ConfigValidate
import Reduction.Spec.IngressRuns

/-!
# What becomes of a datagram

Over whole runs of a UDP ingress worker and its writers: every datagram that was
received is relayed, counted as dropped, still held, or was lost by one of the
two steps that discard datagrams without counting them, and what is relayed to a
backend is in the order of selection.
-/

namespace Reduction

open Run

variable {W : Type} {codec : Bitcode Envelope}

/-! ## The start -/

namespace UdpIngressParams

variable {params : UdpIngressParams} {worker : UInt16}

/-- The lanes of new writers are empty. -/
theorem line_foldl_insert {lanes : Lanes W} (backends : List BackendConfig)
    (hempty : ∀ id, lanes.line id = []) (id : BackendId) :
    Lanes.line (backends.foldl (fun lanes backend =>
      lanes.insert backend.id (params.lane worker backend)) lanes) id = [] := by
  induction backends generalizing lanes with
  | nil => exact hempty id
  | cons backend rest ih =>
    refine ih ?_
    intro id'
    rw [Lanes.line_insert]
    split
    · rfl
    · exact hempty id'

/-- At the start nothing is counted and nothing is held. -/
structure Fresh (s : IngressState W) : Prop where
  received : s.shared.counters.received = 0
  settled : s.settled = 0
  line : ∀ id, s.line id = []

theorem fresh_spawnWorker (pool : BackendPool) :
    Fresh (params.spawnWorker pool worker : IngressState W) := by
  have hlanes : ∀ id, (params.spawnWorker pool worker : IngressState W).lanes.line id = [] :=
    line_foldl_insert params.backends fun _ => rfl
  refine ⟨rfl, ?_, ?_⟩
  · have htotal : (params.spawnWorker pool worker : IngressState W).lanes.total
        (fun lane => lane.line.length) = 0 := by
      apply DashMap.total_eq_zero
      intro id lane hlane
      have := hlanes id
      rw [Lanes.line, hlane, Option.elim_some] at this
      rw [this]
      rfl
    unfold IngressState.settled IngressState.held
    rw [htotal]
    show 0 + 0 + (Worker.held (startWorker _) + 0) = 0
    unfold startWorker
    split <;> rfl
  · intro id
    unfold IngressState.line
    rw [hlanes id]
    show [] ++ Worker.openBatch (startWorker _) id = []
    unfold startWorker
    split <;> rfl

theorem fresh_of_spawn {s : IngressState W} (h : params.spawnUdpIngress worker = .ok s) :
    Fresh s := by
  obtain ⟨pool, -, hs⟩ := bind_eq_ok.mp h
  obtain rfl := Except.ok.inj hs
  exact fresh_spawnWorker pool

end UdpIngressParams

/-! ## Runs -/

namespace IngressState

/-- What was received is relayed, counted over the drop reasons, or held. -/
def Conserved (s : IngressState W) : Prop :=
  s.shared.counters.received =
    s.shared.counters.relayed + s.shared.counters.totalDropped + s.held

/-- The tasks have all ended after a shutdown. -/
structure Finished (s : IngressState W) : Prop where
  shutdown : s.shutdown = true
  worker : s.worker.isRunning = false
  writers : ∀ id lane, s.lanes.get id = some lane → lane.writer = none

theorem held_of_finished {s : IngressState W} (h : s.Finished) : s.held = 0 := by
  have hworker : s.worker.held = 0 := by
    have := h.worker
    cases hw : s.worker with
    | running ui => rw [hw] at this; cases this
    | finished => rfl
    | panicked => rfl
  unfold held
  rw [hworker, DashMap.total_eq_zero fun id lane hget => by
    rw [Lane.line_of_gone (h.writers id lane hget)]; rfl]

theorem writers_gone {s : IngressState W}
    (h : (s.lanes.entries.all fun e => e.2.writer.isNone) = true) (id : BackendId) (lane : Lane W)
    (hlane : s.lanes.get id = some lane) : lane.writer = none :=
  Option.isNone_iff_eq_none.mp
    (DashMap.of_all_entries (p := fun lane : Lane W => lane.writer.isNone) h hlane)

end IngressState

variable [AsyncWrite W]

namespace IngressState

/-- The datagrams that a run selects for a backend, in order. -/
def selectedFor (codec : Bitcode Envelope) (s : IngressState W) (as : List (IngressAction W))
    (id : BackendId) : List Datagram :=
  emitted (step codec) (fun s a => s.selectedBy id a) s as

/-- The datagrams that a run relays to a backend, in order. -/
def relayedTo (codec : Bitcode Envelope) (s : IngressState W) (as : List (IngressAction W))
    (id : BackendId) : List Datagram :=
  emitted (step codec) (fun s a => s.relayedBy codec id a) s as

/-- The datagrams that a run loses. -/
def lost (codec : Bitcode Envelope) (s : IngressState W) (as : List (IngressAction W)) : Nat :=
  (emitted (step codec) (fun s a => [s.lostBy a]) s as).sum

/-- Over a run, what is received is settled or lost. -/
theorem counts_run (codec : Bitcode Envelope) (s : IngressState W) (as : List (IngressAction W)) :
    (run (step codec) s as).shared.counters.received + s.settled =
      s.shared.counters.received + (run (step codec) s as).settled + lost codec s as := by
  induction as generalizing s with
  | nil => rfl
  | cons a as ih =>
    have hstep := (step_move codec s a).counts
    have hrest := ih (s.step codec a)
    rw [run_cons, lost, emitted, List.singleton_append, List.sum_cons]
    rw [lost] at hrest
    omega

/-- Over a run, what leaves a line at the front came in at the end, in the same order. -/
theorem line_run (codec : Bitcode Envelope) (s : IngressState W) (as : List (IngressAction W))
    (id : BackendId) :
    (relayedTo codec s as id ++ (run (step codec) s as).line id).Sublist
      (s.line id ++ selectedFor codec s as id) := by
  induction as generalizing s with
  | nil => simp [relayedTo, selectedFor, emitted]
  | cons a as ih =>
    rw [run_cons]
    calc relayedTo codec s (a :: as) id ++ (run (step codec) (s.step codec a) as).line id
      _ = s.relayedBy codec id a ++ (relayedTo codec (s.step codec a) as id ++
            (run (step codec) (s.step codec a) as).line id) := List.append_assoc ..
      List.Sublist _ (s.relayedBy codec id a ++ ((s.step codec a).line id ++
            selectedFor codec (s.step codec a) as id)) := (ih _).append_left _
      _ = s.relayedBy codec id a ++ (s.step codec a).line id ++
            selectedFor codec (s.step codec a) as id := (List.append_assoc ..).symm
      List.Sublist _ (s.line id ++ s.selectedBy id a ++
            selectedFor codec (s.step codec a) as id) :=
          ((step_move codec s a).line id).append_right _
      _ = s.line id ++ selectedFor codec s (a :: as) id := List.append_assoc ..

end IngressState

open IngressState

/-- At the end of a run datagrams are conserved if and only if no step lost one. -/
theorem conserved_iff {s : IngressState W} (h : UdpIngressParams.Fresh s)
    (as : List (IngressAction W)) :
    Conserved (run (step codec) s as) ↔ RunOk (step codec) (fun s a => s.lostBy a = 0) s as := by
  have hcounts := counts_run codec s as
  rw [h.received, h.settled] at hcounts
  rw [← sum_emitted_eq_zero_iff]
  change _ ↔ lost codec s as = 0
  unfold Conserved
  rw [settled] at hcounts
  omega

/-- In every run of a worker and its writers, datagrams are conserved and each backend gets its
    datagrams in the order of selection, if and only if no step discards datagrams uncounted. -/
theorem ingress_conserves_datagrams_iff {params : UdpIngressParams} {worker : UInt16}
    {s : IngressState W} (hspawn : params.spawnUdpIngress worker = .ok s)
    (as : List (IngressAction W)) :
    (Conserved (run (step codec) s as) ∧
        ∀ id, (relayedTo codec s as id).Sublist (selectedFor codec s as id)) ↔
      RunOk (step codec) (fun s a => s.lostBy a = 0) s as := by
  have hfresh := UdpIngressParams.fresh_of_spawn hspawn
  rw [← conserved_iff hfresh]
  refine and_iff_left ?_
  intro id
  have hline := line_run codec s as id
  rw [hfresh.line id, List.nil_append] at hline
  exact (List.sublist_append_left ..).trans hline

/-- When all tasks have ended after a shutdown, the counters account for every datagram if and only
    if no step discarded datagrams uncounted. -/
theorem shutdown_accounts_for_all_iff {params : UdpIngressParams} {worker : UInt16}
    {s : IngressState W} (hspawn : params.spawnUdpIngress worker = .ok s)
    {as : List (IngressAction W)} (hfinished : (run (step codec) s as).Finished) :
    (run (step codec) s as).shared.counters.received =
        (run (step codec) s as).shared.counters.relayed +
          (run (step codec) s as).shared.counters.totalDropped ↔
      RunOk (step codec) (fun s a => s.lostBy a = 0) s as := by
  rw [← conserved_iff (UdpIngressParams.fresh_of_spawn hspawn), Conserved,
    held_of_finished hfinished, Nat.add_zero]

/-- In every run, the counters are short of exactly the datagrams that were discarded uncounted,
    and what a backend has got and what waits for it was selected for it, each once and in that
    order. -/
theorem ingress_accounts_and_orders (params : UdpIngressParams) (pool : BackendPool)
    (worker : UInt16) (codec : Bitcode Envelope) (as : List (IngressAction W)) :
    let s : IngressState W := params.spawnWorker pool worker
    let t := run (step codec) s as
    t.shared.counters.received = t.shared.counters.relayed + t.shared.counters.totalDropped +
        t.held + lost codec s as ∧
      ∀ id, (relayedTo codec s as id ++ t.line id).Sublist (selectedFor codec s as id) := by
  intro s t
  have hfresh : UdpIngressParams.Fresh s := UdpIngressParams.fresh_spawnWorker pool
  have hcounts : t.shared.counters.received + s.settled =
      s.shared.counters.received + t.settled + lost codec s as := counts_run codec s as
  rw [hfresh.received, hfresh.settled, settled] at hcounts
  refine ⟨by omega, fun id => ?_⟩
  have hline := line_run codec s as id
  rwa [hfresh.line id, List.nil_append] at hline

/-! ## Sample runs -/

namespace Sample

/-- The payloads alone: no frame is shorter. -/
def payloadCodec : Bitcode Envelope where
  encode
    | .batch datagrams => datagrams.flatMap Datagram.payload
    | _ => []
  decode _ := .err "not decoded"

def ingest : BackendConfig := { b1 with transport := .quic }

/-- Batches of two datagrams of up to eight bytes. -/
def ingressEntry (lingerMs : UInt64) : IngressConfig :=
  { id := ⟨Bytes.ascii "site-udp", by decide⟩
    protocol := .udp
    listen := { b1.address with port := 5000 }
    workers := 1
    recvBufferBytes := 4096
    maxDatagramBytes := 8
    backendIds := [ingest.id]
    batchMaxDatagrams := 2
    batchMaxBytes := 16
    lingerMs
    queueDepthPerBackend := 4
    maxConnections := none
    idleTimeoutSecs := none }

def ingressConfig (lingerMs : UInt64) : ReductionConfig :=
  { config [ingest] [routeTo web] (by decide) with ingress := [ingressEntry lingerMs] }

def ingressParams : UdpIngressParams :=
  { config := ingressEntry 20
    backends := [ingest]
    acl := .new [] []
    circuit := .new (ingressConfig 20).circuitBreaker
    retry := (ingressConfig 20).retry
    maxBackends := 64 }

def ingressStart : IngressState Bytes :=
  ingressParams.spawnWorker { backends := [ingest], bounded := by decide } 0

theorem spawn_ingress : ingressParams.spawnUdpIngress 0 = .ok ingressStart := rfl

/-- A datagram of one byte. -/
def arrival (byte : UInt8) : Arrival :=
  { payload := [byte]
    src := { b2.address with port := 4000 }
    rateLimited := false
    health := (ingressConfig 20).initialHealth
    ln := fun _ => .fin (-1)
    now := 0
    unixNanos := 0 }

/-- Two datagrams are relayed in one batch, and a third one waits. -/
def relayTwo : List (IngressAction Bytes) :=
  [.datagram (arrival 1), .datagram (arrival 2), .dequeue ingest.id, .check ingest.id 0,
    .dial ingest.id (.ok []) 0 0, .write ingest.id 0 0, .datagram (arrival 3)]

/-- A datagram waits in its batch when a reload asks for no linger at all. -/
def lingerGone : List (IngressAction Bytes) := [.datagram (arrival 1), .reload (ingressConfig 0)]

/-- The worker hands its last batch over, and the writer relays it before it stops. -/
def shutDownInOrder : List (IngressAction Bytes) :=
  [.datagram (arrival 1), .shutdown, .stopWorker, .dequeue ingest.id, .check ingest.id 0,
    .dial ingest.id (.ok []) 0 0, .write ingest.id 0 0, .stopWriter ingest.id]

/-- The writer stops as soon as the worker has handed its last batch over. -/
def shutDownAtOnce : List (IngressAction Bytes) :=
  [.datagram (arrival 1), .shutdown, .stopWorker, .stopWriter ingest.id]

end Sample

example :
    (run (step Sample.payloadCodec) Sample.ingressStart Sample.relayTwo).shared.counters.received = 3 :=
  by decide +kernel

theorem ingress_conserves_relayed_pair :
    Sample.ingressParams.spawnUdpIngress 0 = .ok Sample.ingressStart ∧
      (run (step Sample.payloadCodec) Sample.ingressStart Sample.relayTwo).shared.counters.relayed =
        2 ∧
      Conserved (run (step Sample.payloadCodec) Sample.ingressStart Sample.relayTwo) ∧
      ∀ id, (relayedTo Sample.payloadCodec Sample.ingressStart Sample.relayTwo id).Sublist
        (selectedFor Sample.payloadCodec Sample.ingressStart Sample.relayTwo id) :=
  ⟨rfl, by decide +kernel,
    (ingress_conserves_datagrams_iff Sample.spawn_ingress _).mpr (by decide +kernel)⟩

/-- A valid reload to `linger_ms = 0` takes the worker down with the datagram in its batch. -/
theorem zero_linger_loses_batch :
    (Sample.ingressConfig 0).validate = .ok () ∧
      Sample.ingressParams.spawnUdpIngress 0 = .ok Sample.ingressStart ∧
      let s := run (step Sample.payloadCodec) Sample.ingressStart Sample.lingerGone
      s.shutdown = false ∧ s.shared.counters.received = 1 ∧ s.settled = 0 ∧ ¬ s.Conserved := by
  refine ⟨by decide, rfl, ?_⟩
  unfold Conserved
  decide +kernel

theorem Sample.finished_shutDownInOrder :
    (run (step payloadCodec) ingressStart shutDownInOrder).Finished :=
  ⟨by decide +kernel, by decide +kernel, writers_gone (by decide +kernel)⟩

theorem shutdown_accounts_for_relayed :
    let s := run (step Sample.payloadCodec) Sample.ingressStart Sample.shutDownInOrder
    s.Finished ∧
      s.shared.counters.received = s.shared.counters.relayed + s.shared.counters.totalDropped :=
  ⟨Sample.finished_shutDownInOrder, (shutdown_accounts_for_all_iff Sample.spawn_ingress
    Sample.finished_shutDownInOrder).mpr (by decide +kernel)⟩

/-- The last batch is in the queue when its writer stops, and is counted nowhere. -/
theorem stopped_writer_drops_queue :
    Sample.ingressParams.spawnUdpIngress 0 = .ok Sample.ingressStart ∧
      let s := run (step Sample.payloadCodec) Sample.ingressStart Sample.shutDownAtOnce
      s.Finished ∧ s.shared.counters.received = 1 ∧ s.shared.counters.relayed = 0 ∧
        s.shared.counters.totalDropped = 0 := by
  refine ⟨rfl, ⟨by decide +kernel, by decide +kernel, writers_gone (by decide +kernel)⟩, ?_⟩
  decide +kernel

end Reduction
