import Reduction.Spec.BalancerCorrect
import Reduction.Spec.IngressConservation

/-!
# The size of a batch

A batch is looked at right after a datagram was added to it, so it is below both
limits until the last datagram comes.  `hands_iff` says exactly which batches an
ingress entry can hand to a writer; the largest of them has one full datagram
more than either limit allows.
-/

namespace Reduction

open Run

/-! ## Batches under an entry -/

namespace IngressConfig

variable (entry : IngressConfig)

/-- A datagram from some peer, not longer than allowed. -/
structure Admits (d : Datagram) : Prop where
  payload : d.payload.length ≤ entry.maxDatagramBytes.toNat
  peer : ∃ src, d.peer = Peer.fromSocketAddr src

/-- Datagrams that wait for more. -/
structure Open (datagrams : List Datagram) : Prop where
  admits : ∀ d ∈ datagrams, entry.Admits d
  count : datagrams.length < entry.batchMaxDatagrams.toNat
  bytes : payloadSize datagrams < entry.batchMaxBytes.toNat

/-- Datagrams that waited for more until the last one came. -/
structure Full (datagrams : List Datagram) : Prop where
  ne_nil : datagrams ≠ []
  admits : ∀ d ∈ datagrams, entry.Admits d
  before : entry.Open datagrams.dropLast

variable {entry}

theorem open_nil (h : entry.CapsValid) : entry.Open [] where
  admits d hd := by cases hd
  count := h.batchMaxDatagrams_pos
  bytes := Nat.lt_of_lt_of_le h.maxDatagramBytes_pos h.maxDatagramBytes_le

variable {ds : List Datagram}

theorem Open.sublist {ds' : List Datagram} (h : entry.Open ds) (hsub : ds'.Sublist ds) :
    entry.Open ds' where
  admits d hd := h.admits d (hsub.subset hd)
  count := Nat.lt_of_le_of_lt hsub.length_le h.count
  bytes := Nat.lt_of_le_of_lt ((hsub.map _).sum_le_sum fun _ _ => Nat.zero_le _) h.bytes

/-- A batch that is flushed while it still waits. -/
theorem Open.full (h : entry.Open ds) (hne : ds ≠ []) : entry.Full ds :=
  ⟨hne, h.admits, h.sublist ds.dropLast_sublist⟩

theorem Open.append (h : entry.Open ds) {d : Datagram} (hd : entry.Admits d) :
    entry.Full (ds ++ [d]) := by
  refine ⟨by simp, ?_, by rw [List.dropLast_concat]; exact h⟩
  intro d' hd'
  cases List.mem_append.mp hd' with
  | inl hmem => exact h.admits d' hmem
  | inr hmem => rw [List.mem_singleton.mp hmem]; exact hd

end IngressConfig

theorem payloadSize_append (ds ds' : List Datagram) :
    payloadSize (ds ++ ds') = payloadSize ds + payloadSize ds' := by
  simp [payloadSize]

/-! ## Handed batches -/

variable {W : Type} {codec : Bitcode Envelope} {entry : IngressConfig}

/-- The batches in a lane: those in the queue, and the one in the writer's hands. -/
structure Lane.All (p : List Datagram → Prop) (lane : Lane W) : Prop where
  queued : ∀ ds ∈ lane.channel.queue, p ds
  inHand : ∀ w, lane.writer = some w → w.stage.inHand = [] ∨ p w.stage.inHand

/-- The limits that an entry sets. -/
def IngressConfig.limits (entry : IngressConfig) : BatchLimits :=
  { maxDatagrams := entry.batchMaxDatagrams
    maxBytes := entry.batchMaxBytes
    linger := Duration.fromMillis entry.lingerMs.toNat }

/-- The worker works with the limits of the entry. -/
structure UdpIngress.Follows (ui : UdpIngress) (entry : IngressConfig) : Prop where
  limits : ui.limits = entry.limits
  maxDatagramBytes : ui.maxDatagramBytes = entry.maxDatagramBytes
  ingressId : ui.ingressId = entry.id

def Lanes.All (p : List Datagram → Prop) (lanes : Lanes W) : Prop :=
  ∀ id lane, lanes.get id = some lane → lane.All p

variable {p : List Datagram → Prop} {lane lane' : Lane W} {ds : List Datagram}

variable {lanes : Lanes W} {m : Nat}

theorem Lanes.All.insert (h : Lanes.All p lanes) {id : BackendId} (hlane : lane.All p) :
    Lanes.All p (DashMap.insert lanes id lane) := by
  intro id' lane' hget
  rw [DashMap.get_insert] at hget
  split at hget
  · cases hget
    exact hlane
  · exact h id' lane' hget

theorem Lane.All.trySend (h : lane.All p) (hds : p ds) (hsend : lane.trySend ds = .ok lane') :
    lane'.All p := by
  unfold Lane.trySend at hsend
  split at hsend
  · rename_i channel hchannel
    cases hsend
    refine ⟨?_, h.inHand⟩
    intro ds' hds'
    rw [(Channel.trySend_ok hchannel).1] at hds'
    cases List.mem_append.mp hds' with
    | inl hmem => exact h.queued ds' hmem
    | inr hmem => rw [List.mem_singleton.mp hmem]; exact hds
  · cases hsend

theorem Lane.All.dequeue (h : lane.All p) (hdequeue : lane.dequeue = some lane') : lane'.All p := by
  unfold Lane.dequeue at hdequeue
  split at hdequeue
  · rename_i writer datagrams channel hwriter hrecv
    have hqueue := (Channel.recv_eq_some hrecv).1
    split at hdequeue
    · cases hdequeue
      refine ⟨?_, ?_⟩
      · intro ds hds
        exact h.queued ds (by rw [hqueue]; exact List.mem_cons_of_mem _ hds)
      · intro w hw
        cases hw
        exact .inr (h.queued datagrams (by rw [hqueue]; exact List.mem_cons_self))
    · cases hdequeue
  · cases hdequeue

namespace UdpIngress

variable {ui : UdpIngress}

/-- A flush hands over the open batch of its backend. -/
theorem flushBackend_all {p : List Datagram → Prop} {lanes : Lanes W} (hlanes : Lanes.All p lanes)
    {id : BackendId} (hbatch : ui.openBatch id ≠ [] → p (ui.openBatch id)) (sh : IngressShared) :
    Lanes.All p (ui.flushBackend lanes sh id).2.1 := by
  have hcase := ui.flushBackend_case lanes sh id
  generalize ui.flushBackend lanes sh id = r at hcase ⊢
  cases hcase with
  | idle hopen => exact hlanes
  | dropped reason hrefused => exact hlanes
  | sent hopen hlane hsend =>
    exact hlanes.insert ((hlanes _ _ hlane).trySend (hbatch hopen) hsend)

/-- No fill limit is reached with the datagram that was added. -/
theorem fillFlush_eq_none_iff (ui : UdpIngress) (id : BackendId) (a : Arrival)
    (limits : BatchLimits) : (ui.batchWith id a).fillFlush limits = none ↔
      (ui.openBatch id ++ [a.datagram]).length < limits.maxDatagrams.toNat ∧
      payloadSize (ui.openBatch id ++ [a.datagram]) < limits.maxBytes.toNat := by
  unfold Batch.fillFlush
  rw [Batch.payload_eq, datagrams_batchWith, if_neg (by simp)]
  split
  · rename_i hcount
    exact iff_of_false (by simp) fun h => absurd hcount (Nat.not_le_of_lt h.1)
  · rename_i hcount
    split
    · rename_i hbytes
      exact iff_of_false (by simp) fun h => absurd hbytes (Nat.not_le_of_lt h.2)
    · rename_i hbytes
      exact iff_of_true rfl ⟨Nat.lt_of_not_le hcount, Nat.lt_of_not_le hbytes⟩

theorem flushBackend_follows (h : ui.Follows entry) (lanes : Lanes W) (sh : IngressShared)
    (id : BackendId) : (ui.flushBackend lanes sh id).1.Follows entry := by
  obtain ⟨batches, heq⟩ := ui.flushBackend_eq lanes sh id
  rw [heq]
  exact ⟨h.limits, h.maxDatagramBytes, h.ingressId⟩

end UdpIngress

/-- What holds of the worker, its batches and the lanes under an entry. -/
structure WorkerBounded (entry : IngressConfig) (p : UdpIngress × Lanes W × IngressShared) :
    Prop where
  follows : p.1.Follows entry
  waits : ∀ id, entry.Open (p.1.openBatch id)
  lanes : Lanes.All entry.Full p.2.1

namespace WorkerBounded

variable {ui : UdpIngress} {lanes : Lanes W} {sh : IngressShared}

/-- The batch that is flushed may have stopped waiting. -/
theorem flushBackend (hcaps : entry.CapsValid) (hfollows : ui.Follows entry)
    (hlanes : Lanes.All entry.Full lanes) {id : BackendId}
    (hothers : ∀ id', id' ≠ id → entry.Open (ui.openBatch id'))
    (hbatch : ui.openBatch id ≠ [] → entry.Full (ui.openBatch id)) :
    WorkerBounded entry (ui.flushBackend lanes sh id) := by
  refine ⟨UdpIngress.flushBackend_follows hfollows lanes sh id, ?_,
    UdpIngress.flushBackend_all hlanes hbatch sh⟩
  intro id'
  rw [UdpIngress.openBatch_flushBackend]
  split
  · exact entry.open_nil hcaps
  · rename_i hid
    exact hothers id' hid

theorem flushEach (hcaps : entry.CapsValid) {p : UdpIngress × Lanes W × IngressShared}
    (h : WorkerBounded entry p) (ids : List BackendId) :
    WorkerBounded entry (p.1.flushEach p.2.1 p.2.2 ids) := by
  unfold UdpIngress.flushEach
  induction ids generalizing p with
  | nil => exact h
  | cons id ids ih =>
    rw [List.foldl_cons]
    exact ih (flushBackend hcaps h.follows h.lanes (fun id' _ => h.waits id')
      fun hne => (h.waits id).full hne)

/-- A datagram that arrives is refused, joins a batch that goes on waiting, or is the last one of
    its batch. -/
theorem handleDatagram (hcaps : entry.CapsValid) (h : WorkerBounded entry (ui, lanes, sh))
    (a : Arrival) : WorkerBounded entry (ui.handleDatagram lanes sh a) := by
  unfold UdpIngress.handleDatagram
  cases hadmit : admitDatagram ui.acl a.rateLimited a.src.ip a.payload.length
      ui.maxDatagramBytes with
  | error reason => exact ⟨h.follows, h.waits, h.lanes⟩
  | ok u =>
    cases hselect : ui.selectFor a with
    | none => exact ⟨h.follows, h.waits, h.lanes⟩
    | some backend =>
      have hadmits : entry.Admits a.datagram := by
        refine ⟨?_, a.src, rfl⟩
        rw [← h.follows.maxDatagramBytes]
        unfold admitDatagram at hadmit
        split at hadmit
        · cases hadmit
        · split at hadmit
          · cases hadmit
          · split at hadmit
            · cases hadmit
            · rename_i hsize
              exact Nat.le_of_not_lt hsize
      dsimp only
      have hpushed : ∀ id', ({ ui with
          batches := ui.batches.insert backend.id (ui.batchWith backend.id a) } :
          UdpIngress).openBatch id' =
          if id' = backend.id then ui.openBatch backend.id ++ [a.datagram]
          else ui.openBatch id' := by
        intro id'
        rw [UdpIngress.openBatch_insert, UdpIngress.datagrams_batchWith]
      have hfollows : ({ ui with
          batches := ui.batches.insert backend.id (ui.batchWith backend.id a) } :
          UdpIngress).Follows entry :=
        ⟨h.follows.limits, h.follows.maxDatagramBytes, h.follows.ingressId⟩
      have hlanes : Lanes.All entry.Full lanes := h.lanes
      have hfull := (h.waits backend.id).append hadmits
      split
      · refine flushBackend hcaps hfollows hlanes ?_ ?_
        · intro id' hid
          rw [hpushed, if_neg hid]
          exact h.waits id'
        · intro _
          rw [hpushed, if_pos rfl]
          exact hfull
      · rename_i hfill
        refine ⟨hfollows, ?_, hlanes⟩
        intro id'
        rw [hpushed]
        split
        · -- both limits were looked at, and neither was reached
          rw [Bool.not_eq_true, Option.isSome_eq_false_iff, Option.isNone_iff_eq_none,
            UdpIngress.fillFlush_eq_none_iff, h.follows.limits] at hfill
          exact ⟨hfull.admits, hfill.1, hfill.2⟩
        · exact h.waits id'

end WorkerBounded

/-! ## Runs under an entry -/

/-- A reload that leaves the entry as it is. -/
def IngressAction.Keeps (entry : IngressConfig) : IngressAction W → Prop
  | .reload cfg => ∀ e ∈ cfg.ingress, e.id = entry.id → e = entry
  | _ => True

theorem IngressAction.keeps_concat {as : List (IngressAction W)} (h : ∀ a ∈ as, a.Keeps entry)
    {a : IngressAction W} (ha : a.Keeps entry) : ∀ a' ∈ as ++ [a], a'.Keeps entry :=
  List.forall_mem_append.mpr ⟨h, List.forall_mem_singleton.mpr ha⟩

namespace IngressState

structure Bounded (s : IngressState W) (entry : IngressConfig) : Prop where
  worker : ∀ ui, s.worker = .running ui →
    ui.Follows entry ∧ ∀ id, entry.Open (ui.openBatch id)
  lanes : Lanes.All entry.Full s.lanes

variable {s : IngressState W}

theorem Bounded.onWorker (h : s.Bounded entry)
    {f : UdpIngress → Lanes W → IngressShared → UdpIngress × Lanes W × IngressShared}
    (hf : ∀ ui, WorkerBounded entry (ui, s.lanes, s.shared) →
      WorkerBounded entry (f ui s.lanes s.shared)) : (s.onWorker f).Bounded entry := by
  unfold IngressState.onWorker
  cases hworker : s.worker with
  | running ui =>
    obtain ⟨hfollows, hwaits⟩ := h.worker ui hworker
    have hnew := hf ui ⟨hfollows, hwaits, h.lanes⟩
    refine ⟨?_, hnew.lanes⟩
    intro ui' hui'
    cases hui'
    exact ⟨hnew.follows, hnew.waits⟩
  | finished => exact h
  | panicked => exact h

/-- A writer's step keeps what it has in hand or lets it go. -/
theorem Bounded.onWriter (h : s.Bounded entry) {id : BackendId}
    {f : BackendWriter W → IngressShared → Option (BackendWriter W × IngressShared)}
    (hf : ∀ w sh r, f w sh = some r → ∃ out, WriterMove w sh r out) :
    (s.onWriter id f).Bounded entry := by
  rcases s.onWriter_eq id f with ⟨hs, -⟩ | ⟨lane, w, r, hlane, hwriter, hr, hs⟩
  · rw [hs]
    exact h
  · obtain ⟨out, hmove⟩ := hf w s.shared r hr
    have hold := h.lanes id lane hlane
    rw [hs]
    refine ⟨h.worker, h.lanes.insert ⟨hold.queued, ?_⟩⟩
    intro w' hw'
    cases hw'
    cases hmove with
    | keep hand counters => rw [hand]; exact hold.inHand w hwriter
    | drop reason hand counters => exact .inl hand
    | relay hand out_eq counters => exact .inl hand

theorem Bounded.reload (h : s.Bounded entry) {cfg : ReductionConfig}
    (hkeeps : ∀ e ∈ cfg.ingress, e.id = entry.id → e = entry) : (s.reload cfg).Bounded entry := by
  unfold IngressState.reload
  cases hworker : s.worker with
  | running ui =>
    dsimp only
    obtain ⟨hfollows, hwaits⟩ := h.worker ui hworker
    split
    · refine ⟨?_, h.lanes⟩
      intro ui' hui'
      cases hui'
    · refine ⟨?_, h.lanes⟩
      intro ui' hui'
      cases hui'
      unfold UdpIngress.applyReload
      cases hfind : cfg.ingress.find? fun e => e.id = ui.ingressId with
      | none => exact ⟨hfollows, hwaits⟩
      | some e =>
        have hid : e.id = entry.id := by
          rw [← hfollows.ingressId]
          simpa using List.find?_some hfind
        obtain rfl := hkeeps e (List.mem_of_find?_eq_some hfind) hid
        exact ⟨⟨rfl, rfl, hfollows.ingressId⟩, hwaits⟩
  | finished => exact h
  | panicked => exact h

theorem Bounded.finish {s : IngressState W} (h : s.Bounded entry) (id : BackendId) (lane : Lane W) :
    ({ s with lanes := s.lanes.insert id lane.finish } : IngressState W).Bounded entry := by
  refine ⟨h.worker, h.lanes.insert ⟨?_, ?_⟩⟩
  · intro ds hds
    cases hds
  · intro w hw
    cases hw

variable [AsyncWrite W]

theorem Bounded.step (h : s.Bounded entry) (hcaps : entry.CapsValid) {a : IngressAction W}
    (hkeeps : a.Keeps entry) : (s.step codec a).Bounded entry := by
  cases a with
  | datagram arrival =>
    exact h.onWorker (f := fun ui lanes sh => ui.handleDatagram lanes sh arrival)
      fun ui hui => hui.handleDatagram hcaps arrival
  | tick now =>
    exact h.onWorker (f := fun ui lanes sh => ui.flushExpired lanes sh now)
      fun ui hui => hui.flushEach hcaps _
  | reload cfg =>
    simp only [IngressState.step]
    split
    · exact h.reload hkeeps
    · exact h
  | stopWorker =>
    simp only [IngressState.step]
    cases hworker : s.worker with
    | running ui =>
      dsimp only
      split
      · obtain ⟨hfollows, hwaits⟩ := h.worker ui hworker
        have hp : WorkerBounded entry (ui, s.lanes, s.shared) := ⟨hfollows, hwaits, h.lanes⟩
        refine ⟨?_, (hp.flushEach hcaps ui.batches.keys).lanes⟩
        intro ui' hui'
        cases hui'
      · exact h
    | finished => exact h
    | panicked => exact h
  | dequeue id =>
    simp only [IngressState.step]
    cases hdequeue : (s.lanes.get id).bind Lane.dequeue with
    | none => exact h
    | some lane' =>
      obtain ⟨lane, hlane, hsome⟩ := Option.bind_eq_some_iff.mp hdequeue
      exact ⟨h.worker, h.lanes.insert ((h.lanes id lane hlane).dequeue hsome)⟩
  | check id now => exact h.onWriter fun _ _ _ hr => ⟨_, BackendWriter.checkStep_move hr⟩
  | dial id acquired now draw =>
    exact h.onWriter fun _ _ _ hr => ⟨_, BackendWriter.dialStep_move hr⟩
  | write id now draw => exact h.onWriter fun _ _ _ hr => ⟨_, BackendWriter.writeStep_move hr⟩
  | hangUp id =>
    simp only [IngressState.step]
    cases s.lanes.get id with
    | none => exact h
    | some lane =>
      dsimp only
      split
      · exact h.finish id lane
      · exact h
  | stopWriter id =>
    simp only [IngressState.step]
    cases s.lanes.get id with
    | none => exact h
    | some lane =>
      dsimp only
      split
      · exact h.finish id lane
      · exact h
  | breakers circuit => exact ⟨h.worker, h.lanes⟩
  | shutdown => exact ⟨h.worker, h.lanes⟩

theorem Bounded.of_run (h : s.Bounded entry) (hcaps : entry.CapsValid) (codec : Bitcode Envelope)
    {as : List (IngressAction W)} (hkeeps : ∀ a ∈ as, a.Keeps entry) :
    (run (IngressState.step codec) s as).Bounded entry := by
  induction as generalizing s with
  | nil => exact h
  | cons a as ih =>
    exact ih (h.step hcaps (hkeeps a List.mem_cons_self))
      fun a' ha' => hkeeps a' (List.mem_cons_of_mem _ ha')

end IngressState

/-- The worker has handed a batch to a writer, and it is still in the queue or in hand. -/
def IngressState.Handed (s : IngressState W) (ds : List Datagram) : Prop :=
  ds ≠ [] ∧ ∃ id lane, s.lanes.get id = some lane ∧
    (ds ∈ lane.channel.queue ∨ ∃ w, lane.writer = some w ∧ w.stage.inHand = ds)

/-- A worker that was started with the entry, and kept it, can hand the batch to a writer. -/
def IngressConfig.Hands (W : Type) [AsyncWrite W] (codec : Bitcode Envelope) (entry : IngressConfig)
    (ds : List Datagram) : Prop :=
  ∃ (params : UdpIngressParams) (worker : UInt16) (s : IngressState W)
    (as : List (IngressAction W)), params.config = entry ∧
    params.spawnUdpIngress worker = .ok s ∧ (∀ a ∈ as, a.Keeps entry) ∧
    (run (IngressState.step codec) s as).Handed ds

theorem UdpIngressParams.all_lanes (params : UdpIngressParams) (worker : UInt16)
    (backends : List BackendConfig) (h : Lanes.All p lanes) :
    Lanes.All p (backends.foldl (fun lanes backend =>
      lanes.insert backend.id (params.lane worker backend)) lanes) := by
  induction backends generalizing lanes with
  | nil => exact h
  | cons backend rest ih =>
    refine ih (h.insert ⟨?_, ?_⟩)
    · intro ds hds
      cases hds
    · intro w hw
      cases hw
      exact .inl rfl

theorem UdpIngressParams.bounded_spawnWorker (params : UdpIngressParams)
    (hcaps : params.config.CapsValid) (pool : BackendPool) (worker : UInt16) :
    (params.spawnWorker pool worker : IngressState W).Bounded params.config := by
  refine ⟨?_, params.all_lanes worker params.backends fun id lane h => by cases h⟩
  intro ui hui
  unfold spawnWorker startWorker at hui
  dsimp only at hui
  split at hui
  · cases hui
  · cases hui
    exact ⟨⟨rfl, rfl, rfl⟩, fun id => params.config.open_nil hcaps⟩

/-- Without a worker nothing is ever on its way. -/
structure IngressState.Dead (s : IngressState W) : Prop where
  worker : s.worker.isRunning = false
  line : ∀ id, s.line id = []

theorem IngressState.Dead.not_handed {s : IngressState W} (h : s.Dead) (ds : List Datagram) :
    ¬ s.Handed ds := by
  rintro ⟨hne, id, lane, hlane, hds⟩
  have hline := h.line id
  rw [line_of_get hlane, List.append_eq_nil_iff, Lane.line, List.append_eq_nil_iff] at hline
  cases hds with
  | inl hqueued => exact hne (List.flatten_eq_nil_iff.mp hline.1.2 ds hqueued)
  | inr hhand =>
    obtain ⟨w, hw, rfl⟩ := hhand
    rw [hw] at hline
    exact hne hline.1.1

section Forward

variable [AsyncWrite W]

variable {s : IngressState W}

/-- A worker that has ended stays as it is. -/
theorem IngressState.worker_step (h : s.worker.isRunning = false) (a : IngressAction W) :
    (s.step codec a).worker = s.worker := by
  cases hworker : s.worker with
  | running ui =>
    rw [hworker] at h
    cases h
  | finished =>
    cases a <;> simp only [step, onWorker, onWriter, reload, hworker] <;> repeat' split
    all_goals first | rfl | exact hworker
  | panicked =>
    cases a <;> simp only [step, onWorker, onWriter, reload, hworker] <;> repeat' split
    all_goals first | rfl | exact hworker

theorem IngressState.Dead.step (h : s.Dead) (a : IngressAction W) : (s.step codec a).Dead := by
  have hselected : ∀ id, s.selectedBy id a = [] := by
    intro id
    unfold selectedBy
    split
    · split
      · rename_i ui hui
        have := h.worker
        rw [hui] at this
        cases this
      · rfl
    · rfl
  refine ⟨by rw [worker_step h.worker]; exact h.worker, ?_⟩
  intro id
  have hline := (IngressState.step_move codec s a).line id
  rw [h.line id, hselected id, List.append_nil] at hline
  exact (List.append_eq_nil_iff.mp (List.sublist_nil.mp hline)).2

theorem IngressState.Dead.of_run (h : s.Dead) (as : List (IngressAction W)) :
    (run (IngressState.step codec) s as).Dead :=
  @run_invariant_of_step _ _ _ IngressState.Dead (fun _ a hd => hd.step a) s h as

/-- What is handed to a writer waited for more until its last datagram came. -/
theorem full_of_hands (hcaps : entry.CapsValid) {ds : List Datagram}
    (h : entry.Hands W codec ds) : entry.lingerMs ≠ 0 ∧ entry.Full ds := by
  obtain ⟨params, worker, s, as, rfl, hspawn, hkeeps, hhanded⟩ := h
  obtain ⟨pool, -, hs⟩ := bind_eq_ok.mp hspawn
  obtain rfl := Except.ok.inj hs
  constructor
  · intro hlinger
    -- the worker panics at its start
    have hdead : (params.spawnWorker pool worker : IngressState W).Dead := by
      refine ⟨?_, (UdpIngressParams.fresh_spawnWorker pool).line⟩
      have hzero : params.limits.linger = 0 := by
        show params.config.lingerMs.toNat * 1000000 = 0
        rw [hlinger]
        exact Nat.zero_mul _
      show (UdpIngressParams.startWorker _).isRunning = false
      rw [UdpIngressParams.startWorker, if_pos hzero]
      rfl
    exact (hdead.of_run as).not_handed ds hhanded
  · have hbounded := (params.bounded_spawnWorker hcaps pool worker).of_run hcaps codec hkeeps
    obtain ⟨hne, id, lane, hlane, hds⟩ := hhanded
    have hall := hbounded.lanes id lane hlane
    cases hds with
    | inl hqueued => exact hall.queued ds hqueued
    | inr hhand =>
      obtain ⟨w, hw, rfl⟩ := hhand
      exact (hall.inHand w hw).resolve_left hne

end Forward

/-! ## Every such batch is handed over in some run -/

/-- A lane that takes another batch. -/
def Lane.HasRoom (lane : Lane W) : Prop :=
  lane.channel.closed = false ∧ lane.channel.queue.length < lane.channel.capacity

theorem Lane.exists_trySend (h : lane.HasRoom) (ds : List Datagram) :
    ∃ lane', lane.trySend ds = .ok lane' := by
  have hsend : ∃ channel, lane.channel.trySend ds = .ok channel := by
    unfold Channel.trySend
    rw [dif_neg (by simp [h.1]), dif_pos h.2]
    exact ⟨_, rfl⟩
  obtain ⟨channel, hsend⟩ := hsend
  unfold Lane.trySend
  split
  · exact ⟨_, rfl⟩
  · rename_i e herror
    rw [hsend] at herror
    cases herror

theorem Lane.queue_trySend (h : lane.trySend ds = .ok lane') :
    lane'.channel.queue = lane.channel.queue ++ [ds] := by
  unfold Lane.trySend at h
  split at h
  · rename_i channel hsend
    cases h
    exact (Channel.trySend_ok hsend).1
  · cases h

namespace UdpIngress

variable {ui : UdpIngress} {lanes : Lanes W}

variable {id : BackendId}

variable {id' : BackendId} {lane : Lane W}

theorem get_flushBackend_ne (ui : UdpIngress) (lanes : Lanes W) (sh : IngressShared) (h : id' ≠ id) :
    (ui.flushBackend lanes sh id).2.1.get id' = lanes.get id' := by
  have hcase := ui.flushBackend_case lanes sh id
  generalize ui.flushBackend lanes sh id = r at hcase ⊢
  cases hcase with
  | idle hopen => rfl
  | dropped reason hrefused => rfl
  | sent hopen hlane hsend => exact (DashMap.get_insert _ _ _ _).trans (if_neg h)

/-- A queued batch stays queued. -/
theorem flushBackend_keeps {sh : IngressShared} {ds : List Datagram}
    (h : ∃ lane, lanes.get id' = some lane ∧ ds ∈ lane.channel.queue) :
    ∃ lane, (ui.flushBackend lanes sh id).2.1.get id' = some lane ∧ ds ∈ lane.channel.queue := by
  by_cases hid : id' = id
  · subst hid
    have hcase := ui.flushBackend_case lanes sh id'
    generalize ui.flushBackend lanes sh id' = r at hcase ⊢
    cases hcase with
    | idle hopen => exact h
    | dropped reason hrefused => exact h
    | @sent lane lane' hopen hlane hsend =>
      obtain ⟨lane₁, hlane₁, hds⟩ := h
      cases hlane.symm.trans hlane₁
      refine ⟨lane', (DashMap.get_insert _ _ _ _).trans (if_pos rfl), ?_⟩
      rw [Lane.queue_trySend hsend]
      exact List.mem_append_left _ hds
  · rw [get_flushBackend_ne ui lanes sh hid]
    exact h

/-- A flush queues an open batch if there is room for it. -/
theorem flushBackend_queues (sh : IngressShared) (hne : ui.openBatch id ≠ [])
    (hlane : lanes.get id = some lane) (hroom : lane.HasRoom) :
    ∃ lane', (ui.flushBackend lanes sh id).2.1.get id = some lane' ∧
      ui.openBatch id ∈ lane'.channel.queue := by
  have hcase := ui.flushBackend_case lanes sh id
  generalize ui.flushBackend lanes sh id = r at hcase ⊢
  cases hcase with
  | idle hopen => exact absurd hopen hne
  | dropped reason hrefused =>
    obtain ⟨lane', hsend⟩ := Lane.exists_trySend hroom (ui.openBatch id)
    exact absurd hsend (hrefused lane hlane lane')
  | @sent _ lane' hopen hlane' hsend =>
    refine ⟨lane', (DashMap.get_insert _ _ _ _).trans (if_pos rfl), ?_⟩
    rw [Lane.queue_trySend hsend]
    exact List.mem_append_right _ (List.mem_singleton.mpr rfl)

theorem flushEach_queues {ids : List BackendId} (hid : id ∈ ids)
    {p : UdpIngress × Lanes W × IngressShared} (hne : p.1.openBatch id ≠ [])
    (hlane : p.2.1.get id = some lane) (hroom : lane.HasRoom) :
    ∃ lane', (p.1.flushEach p.2.1 p.2.2 ids).2.1.get id = some lane' ∧
      p.1.openBatch id ∈ lane'.channel.queue := by
  unfold flushEach
  induction ids generalizing p with
  | nil => cases hid
  | cons id' ids ih =>
    obtain ⟨ui, lanes, sh⟩ := p
    dsimp only at hne hlane ⊢
    rw [List.foldl_cons]
    by_cases heq : id = id'
    · subst heq
      -- from here on the batch is in the queue
      have hqueued := flushBackend_queues sh hne hlane hroom
      clear ih hne hlane hid
      generalize ui.flushBackend lanes sh id = q at hqueued ⊢
      generalize ui.openBatch id = ds at hqueued ⊢
      induction ids generalizing q with
      | nil => exact hqueued
      | cons id' ids ih => exact ih _ (flushBackend_keeps hqueued)
    · have hopen : (ui.flushBackend lanes sh id').1.openBatch id = ui.openBatch id := by
        rw [openBatch_flushBackend, if_neg heq]
      have hsame := get_flushBackend_ne ui lanes sh heq
      rw [← hopen] at hne ⊢
      exact ih ((List.mem_cons.mp hid).resolve_left heq) hne (hsame.trans hlane)

end UdpIngress

namespace Sample

/-- A listener of the entry, with one backend for every peer. -/
def openParams (entry : IngressConfig) : UdpIngressParams := { ingressParams with config := entry }

/-- The arrival of a datagram. -/
def arrivalOf (src : SocketAddr) (d : Datagram) : Arrival :=
  { arrival 0 with payload := d.payload, src, unixNanos := d.recvAtUnixNanos }

/-- The worker takes datagrams for the only backend, whose queue has room. -/
structure Filling (entry : IngressConfig) (s : IngressState W) (ds : List Datagram) : Prop where
  worker : ∃ ui, s.worker = .running ui ∧ ui.Follows entry ∧ ui.acl = .new [] [] ∧
    ui.pool.backends = [ingest] ∧ ui.openBatch ingest.id = ds
  room : ∃ lane, s.lanes.get ingest.id = some lane ∧ lane.HasRoom

variable {d : Datagram}

theorem admit_arrivalOf (src : SocketAddr) (hd : entry.Admits d) :
    admitDatagram (.new [] []) (arrivalOf src d).rateLimited src.ip d.payload.length
      entry.maxDatagramBytes = .ok () := by
  have hlimited : (arrivalOf src d).rateLimited = false := rfl
  unfold admitDatagram
  rw [if_neg (by simp [AccessControl.check, AccessControl.isDenied, AccessControl.new,
    Except.toBool]), hlimited, if_neg Bool.false_ne_true,
    if_neg (Nat.not_lt_of_le hd.payload)]

theorem selectFor_arrivalOf {ui : UdpIngress} (h : ui.pool.backends = [ingest]) (src : SocketAddr)
    (d : Datagram) : ui.selectFor (arrivalOf src d) = some ingest := by
  refine BackendPool.select_eq_of_single _ h ⟨?_, List.not_mem_nil⟩
  show ((ingest.weight.mul ((arrival 0).health.weightFactor 0 ingest.id.bytes)).mul
    (F64.one.sub (F64.zero.clamp .zero .one))).le .zero = false
  decide +kernel

theorem filling_spawn (hcaps : entry.CapsValid) (hlinger : entry.lingerMs ≠ 0)
    (pool : BackendPool) (hpool : pool.backends = [ingest]) :
    Filling entry ((openParams entry).spawnWorker pool 0 : IngressState W) [] := by
  have hrunning : (openParams entry).limits.linger ≠ 0 := by
    show entry.lingerMs.toNat * 1000000 ≠ 0
    have : entry.lingerMs.toNat ≠ 0 := fun h => hlinger (UInt64.toNat_inj.mp h)
    omega
  refine ⟨⟨_, if_neg hrunning, ⟨rfl, rfl, rfl⟩, rfl, hpool, rfl⟩, ?_⟩
  refine ⟨(openParams entry).lane 0 ingest, ?_, rfl, hcaps.queueDepth_pos⟩
  exact (DashMap.get_insert _ _ _ _).trans (if_pos rfl)

variable [AsyncWrite W]

variable {s : IngressState W} {ds : List Datagram}

/-- One more datagram: the batch goes on waiting, or is handed over. -/
theorem Filling.step (h : Filling entry s ds) (codec : Bitcode Envelope) (hd : entry.Admits d) :
    ∃ src, (entry.Open (ds ++ [d]) →
        Filling entry (s.step codec (.datagram (arrivalOf src d))) (ds ++ [d])) ∧
      (Filling entry (s.step codec (.datagram (arrivalOf src d))) (ds ++ [d]) ∨
        (s.step codec (.datagram (arrivalOf src d))).Handed (ds ++ [d])) := by
  obtain ⟨src, hpeer⟩ := hd.peer
  obtain ⟨⟨ui, hworker, hfollows, hacl, hpool, hopen⟩, lane, hlane, hroom⟩ := h
  have hdatagram : (arrivalOf src d).datagram = d := by
    unfold Arrival.datagram
    rw [show (arrivalOf src d).src = src from rfl, ← hpeer]
    rfl
  have hadmit : admitDatagram ui.acl (arrivalOf src d).rateLimited src.ip d.payload.length
      ui.maxDatagramBytes = .ok () := by
    rw [hacl, hfollows.maxDatagramBytes]
    exact admit_arrivalOf src hd
  -- the batch with the datagram in it
  have hpushed : ({ ui with
      batches := ui.batches.insert ingest.id (ui.batchWith ingest.id (arrivalOf src d)) } :
      UdpIngress).openBatch ingest.id = ds ++ [d] := by
    rw [UdpIngress.openBatch_insert, if_pos rfl, UdpIngress.datagrams_batchWith, hopen, hdatagram]
  have hstep : s.step codec (.datagram (arrivalOf src d)) =
      s.onWorker fun ui lanes sh => ui.handleDatagram lanes sh (arrivalOf src d) := rfl
  refine ⟨src, ?_⟩
  rw [hstep, IngressState.onWorker, hworker]
  dsimp only [UdpIngress.handleDatagram]
  rw [show (arrivalOf src d).src = src from rfl, show (arrivalOf src d).payload = d.payload from rfl,
    hadmit, selectFor_arrivalOf hpool]
  dsimp only
  cases hfill : (ui.batchWith ingest.id (arrivalOf src d)).fillFlush ui.limits with
  | none =>
    have hnext : ∀ sh, Filling entry { s with
        worker := .running { ui with
          batches := ui.batches.insert ingest.id (ui.batchWith ingest.id (arrivalOf src d)) }
        lanes := s.lanes
        shared := sh } (ds ++ [d]) := fun sh =>
      ⟨⟨_, rfl, ⟨hfollows.limits, hfollows.maxDatagramBytes, hfollows.ingressId⟩, hacl, hpool,
        hpushed⟩, lane, hlane, hroom⟩
    exact ⟨fun _ => hnext _, .inl (hnext _)⟩
  | some reason =>
    have hlimits : ¬ entry.Open (ds ++ [d]) := by
      intro hwaits
      have hnone := (UdpIngress.fillFlush_eq_none_iff ui ingest.id (arrivalOf src d)
        ui.limits).mpr
      rw [hopen, hdatagram, hfollows.limits] at hnone
      rw [hfollows.limits, hnone ⟨hwaits.count, hwaits.bytes⟩] at hfill
      cases hfill
    refine ⟨fun hwaits => absurd hwaits hlimits, .inr ?_⟩
    have hne : ds ++ [d] ≠ [] := by simp
    rw [← hpushed] at hne ⊢
    obtain ⟨lane', hlane', hmem⟩ := UdpIngress.flushBackend_queues
      { s.shared with counters := s.shared.counters.recordReceived } hne hlane hroom
    exact ⟨hne, ingest.id, lane', hlane', .inl hmem⟩

/-- The linger time hands over what waits. -/
theorem Filling.tick (h : Filling entry s ds) (codec : Bitcode Envelope) (hne : ds ≠ []) :
    ∃ now, (s.step codec (.tick now)).Handed ds := by
  obtain ⟨⟨ui, hworker, hfollows, hacl, hpool, rfl⟩, lane, hlane, hroom⟩ := h
  cases hbatch : ui.batches.get ingest.id with
  | none =>
    rw [UdpIngress.openBatch, hbatch] at hne
    exact absurd rfl hne
  | some batch =>
    have hopened : batch.openedAt.isSome := by
      rw [batch.opened_iff]
      rw [UdpIngress.openBatch, hbatch] at hne
      exact hne
    obtain ⟨opened, hopened⟩ := Option.isSome_iff_exists.mp hopened
    refine ⟨opened + ui.limits.linger, ?_⟩
    have hexpired : batch.lingerExpired ui.limits (opened + ui.limits.linger) = true := by
      rw [Batch.lingerExpired, hopened]
      simp
    have hid : ingest.id ∈ (ui.batches.entries.filter fun e =>
        e.2.lingerExpired ui.limits (opened + ui.limits.linger)).map Sigma.fst :=
      List.mem_map.mpr ⟨⟨ingest.id, batch⟩,
        List.mem_filter.mpr ⟨AList.mem_lookup_iff.mp hbatch, hexpired⟩, rfl⟩
    have hstep : s.step codec (.tick (opened + ui.limits.linger)) = s.onWorker fun ui' lanes sh =>
        ui'.flushExpired lanes sh (opened + ui.limits.linger) := rfl
    rw [hstep, IngressState.onWorker, hworker]
    obtain ⟨lane', hlane', hmem⟩ := UdpIngress.flushEach_queues (p := (ui, s.lanes, s.shared)) hid
      hne hlane hroom
    exact ⟨hne, ingest.id, lane', hlane', .inl hmem⟩

theorem Filling.of_run (h : Filling entry s []) (codec : Bitcode Envelope) (hds : entry.Open ds) :
    ∃ as : List (IngressAction W), (∀ a ∈ as, a.Keeps entry) ∧
      Filling entry (run (IngressState.step codec) s as) ds := by
  induction ds using List.reverseRecOn with
  | nil => exact ⟨[], (fun a ha => by cases ha), h⟩
  | append_singleton ds d ih =>
    obtain ⟨as, hkeeps, hfilling⟩ := ih (hds.sublist (List.sublist_append_left ds [d]))
    have hd := hds.admits d (List.mem_append_right _ (List.mem_singleton.mpr rfl))
    obtain ⟨src, hnext, -⟩ := hfilling.step codec hd
    refine ⟨as ++ [.datagram (arrivalOf src d)], ?_, by rw [run_concat]; exact hnext hds⟩
    exact IngressAction.keeps_concat hkeeps (a := .datagram _) trivial

end Sample

/-- Whatever fits can arrive and is handed over. -/
theorem hands_of_full [AsyncWrite W] (codec : Bitcode Envelope) (hcaps : entry.CapsValid)
    (hlinger : entry.lingerMs ≠ 0) (hds : entry.Full ds) : entry.Hands W codec ds := by
  have hstart : Sample.Filling entry ((Sample.openParams entry).spawnWorker
      { backends := [Sample.ingest], bounded := by decide } 0 : IngressState W) [] :=
    Sample.filling_spawn hcaps hlinger _ rfl
  obtain ⟨as, hkeeps, hfilling⟩ := hstart.of_run codec hds.before
  have hlast := hds.admits _ (List.getLast_mem hds.ne_nil)
  obtain ⟨src, -, hnext⟩ := hfilling.step codec hlast
  rw [List.dropLast_append_getLast hds.ne_nil] at hnext
  have hkeeps' := IngressAction.keeps_concat hkeeps
    (a := .datagram (Sample.arrivalOf src (ds.getLast hds.ne_nil))) trivial
  cases hnext with
  | inl hwaits =>
    obtain ⟨now, hhanded⟩ := hwaits.tick codec hds.ne_nil
    refine ⟨Sample.openParams entry, 0, _, _, rfl, rfl,
      IngressAction.keeps_concat hkeeps' (a := .tick now) trivial, ?_⟩
    rw [run_concat, run_concat]
    exact hhanded
  | inr hhanded =>
    refine ⟨Sample.openParams entry, 0, _, _, rfl, rfl, hkeeps', ?_⟩
    rw [run_concat]
    exact hhanded

/-- The batches that a listener of a valid entry can hand to a writer. -/
theorem hands_iff [AsyncWrite W] (hcaps : entry.CapsValid) (ds : List Datagram) :
    entry.Hands W codec ds ↔ entry.lingerMs ≠ 0 ∧ entry.Full ds :=
  ⟨full_of_hands hcaps, fun h => hands_of_full codec hcaps h.1 h.2⟩

/-! ## The largest batch -/

theorem payloadSize_le (h : ∀ d ∈ ds, d.payload.length ≤ m) : payloadSize ds ≤ ds.length * m := by
  have hsum := List.sum_le_card_nsmul (ds.map fun d => d.payload.length) m (by simpa using h)
  rwa [List.length_map, smul_eq_mul] at hsum

theorem payloadSize_replicate (k : Nat) (d : Datagram) :
    payloadSize (List.replicate k d) = k * d.payload.length := by
  simp [payloadSize]

/-- A datagram of the given length. -/
def Datagram.zeros (src : SocketAddr) (len : Nat) : Datagram :=
  { peer := .fromSocketAddr src, recvAtUnixNanos := 0, payload := List.replicate len 0 }

variable (src : SocketAddr)

theorem Datagram.length_zeros (len : Nat) :
    (Datagram.zeros src len).payload.length = len := List.length_replicate

/-- Full datagrams, and a shorter one for the rest. -/
def filler (src : SocketAddr) (m total : Nat) : List Datagram :=
  List.replicate (total / m) (Datagram.zeros src m) ++
    if total % m = 0 then [] else [Datagram.zeros src (total % m)]

theorem payloadSize_filler (m total : Nat) : payloadSize (filler src m total) = total := by
  rw [filler, payloadSize_append, payloadSize_replicate, Datagram.length_zeros]
  have hdiv := Nat.div_add_mod' total m
  split
  · rename_i hzero
    rw [hzero] at hdiv
    exact hdiv
  · rw [show payloadSize [Datagram.zeros src (total % m)] = total % m by
      simp [payloadSize, Datagram.length_zeros]]
    exact hdiv

theorem length_filler_le {total k : Nat} (h : total ≤ k * m) : (filler src m total).length ≤ k := by
  rw [filler, List.length_append, List.length_replicate]
  have hdiv := Nat.div_add_mod' total m
  split
  · exact Nat.div_le_of_le_mul (by rw [Nat.mul_comm]; exact h)
  · rename_i hrest
    have hlt : total / m * m < k * m := by omega
    exact Nat.lt_of_mul_lt_mul_right hlt

namespace IngressConfig

variable (entry)

/-- What may wait at most. -/
def maxWaiting : Nat :=
  min (entry.batchMaxBytes.toNat - 1)
    ((entry.batchMaxDatagrams.toNat - 1) * entry.maxDatagramBytes.toNat)

/-- As much as may wait, and one full datagram. -/
def worstPayload : Nat := entry.maxWaiting + entry.maxDatagramBytes.toNat

variable {entry}

variable {ds : List Datagram}

theorem Open.payloadSize_le (h : entry.Open ds) : payloadSize ds ≤ entry.maxWaiting := by
  have hcount : ds.length ≤ entry.batchMaxDatagrams.toNat - 1 := Nat.le_sub_one_of_lt h.count
  have hbytes : payloadSize ds ≤ entry.batchMaxBytes.toNat - 1 := Nat.le_sub_one_of_lt h.bytes
  refine Nat.le_min.mpr ⟨hbytes, ?_⟩
  calc payloadSize ds ≤ ds.length * entry.maxDatagramBytes.toNat :=
        Reduction.payloadSize_le fun d hd => (h.admits d hd).payload
    _ ≤ _ := Nat.mul_le_mul_right _ hcount

theorem Full.payloadSize_le (h : entry.Full ds) : payloadSize ds ≤ entry.worstPayload := by
  have hlast : payloadSize [ds.getLast h.ne_nil] ≤ entry.maxDatagramBytes.toNat := by
    have hadmits := (h.admits _ (List.getLast_mem h.ne_nil)).payload
    simpa [payloadSize] using hadmits
  rw [← List.dropLast_append_getLast h.ne_nil, payloadSize_append]
  exact Nat.add_le_add h.before.payloadSize_le hlast

theorem admits_filler (src : SocketAddr) (hm : 0 < entry.maxDatagramBytes.toNat) (total : Nat) :
    ∀ d ∈ filler src entry.maxDatagramBytes.toNat total, entry.Admits d := by
  intro d hd
  have hmod := Nat.mod_lt total hm
  cases List.mem_append.mp hd with
  | inl hmem =>
    rw [(List.mem_replicate.mp hmem).2]
    exact ⟨by rw [Datagram.length_zeros], src, rfl⟩
  | inr hmem =>
    split at hmem
    · cases hmem
    · rw [List.mem_singleton.mp hmem]
      exact ⟨by rw [Datagram.length_zeros]; exact hmod.le, src, rfl⟩

/-- The bound is reached. -/
theorem exists_full_worst (hcaps : entry.CapsValid) (src : SocketAddr) :
    ∃ ds, entry.Full ds ∧ payloadSize ds = entry.worstPayload := by
  have hpos := hcaps.maxDatagramBytes_pos
  have hsize := payloadSize_filler src entry.maxDatagramBytes.toNat entry.maxWaiting
  have hwaits : entry.Open (filler src entry.maxDatagramBytes.toNat entry.maxWaiting) := by
    refine ⟨admits_filler src hpos _, ?_, ?_⟩
    · have hlen := length_filler_le src (Nat.min_le_right (entry.batchMaxBytes.toNat - 1)
        ((entry.batchMaxDatagrams.toNat - 1) * entry.maxDatagramBytes.toNat))
      have hcount := hcaps.batchMaxDatagrams_pos
      exact Nat.lt_of_le_of_lt hlen (Nat.sub_one_lt_of_lt hcount)
    · have hle : entry.maxWaiting ≤ entry.batchMaxBytes.toNat - 1 := Nat.min_le_left _ _
      have hfit := hcaps.maxDatagramBytes_le
      omega
  refine ⟨_, hwaits.append (d := Datagram.zeros src entry.maxDatagramBytes.toNat)
    ⟨(Datagram.length_zeros _ _).le, src, rfl⟩, ?_⟩
  rw [payloadSize_append, hsize, worstPayload]
  simp [payloadSize, Datagram.length_zeros]

end IngressConfig

/-! ## Frames -/

/-- `write_frame` gives the batch up because of its length, before anything is written. -/
def RejectedForSize (codec : Bitcode Envelope) (ds : List Datagram) : Prop :=
  (IngressProtocol.encode codec (.batch ds)).toBool = false

theorem rejectedForSize_iff :
    RejectedForSize codec ds ↔
      IngressProtocol.maxEnvelopeFrame < (codec.encode (.batch ds)).length := by
  unfold RejectedForSize IngressProtocol.encode
  dsimp only
  split
  · rename_i hlarge
    exact iff_of_true rfl hlarge
  · rename_i hsmall
    rw [if_neg]
    · exact iff_of_false Bool.true_eq_false_eq_False hsmall
    · have : IngressProtocol.maxEnvelopeFrame = 64 * 1024 := rfl
      omega

/-- A valid entry keeps its batches within a frame when the largest one fits. -/
theorem batches_fit_frame_iff [AsyncWrite W] {config : ReductionConfig}
    (hvalid : config.validate = .ok ()) (hentry : entry ∈ config.ingress)
    (hcodec : ∀ ds, payloadSize ds ≤ (codec.encode (.batch ds)).length) :
    ((∀ ds, entry.Hands W codec ds → payloadSize ds ≤ IngressProtocol.maxEnvelopeFrame) ↔
      entry.lingerMs = 0 ∨ entry.worstPayload ≤ IngressProtocol.maxEnvelopeFrame) ∧
    ((∀ ds, entry.Hands W codec ds →
        payloadSize ds ≤ IngressProtocol.maxEnvelopeFrame ∧ ¬ RejectedForSize codec ds) ↔
      entry.lingerMs = 0 ∨ ∀ ds, entry.Full ds →
        (codec.encode (.batch ds)).length ≤ IngressProtocol.maxEnvelopeFrame) := by
  have hcaps := (ReductionConfig.validate_ok hvalid).ingress_caps entry hentry
  constructor
  · constructor
    · intro h
      by_cases hlinger : entry.lingerMs = 0
      · exact .inl hlinger
      · obtain ⟨ds, hfull, hworst⟩ := IngressConfig.exists_full_worst hcaps entry.listen
        rw [← hworst]
        exact .inr (h ds ((hands_iff hcaps ds).mpr ⟨hlinger, hfull⟩))
    · intro h ds hhands
      obtain ⟨hlinger, hfull⟩ := (hands_iff hcaps ds).mp hhands
      exact hfull.payloadSize_le.trans (h.resolve_left hlinger)
  · constructor
    · intro h
      by_cases hlinger : entry.lingerMs = 0
      · exact .inl hlinger
      · refine .inr fun ds hfull => ?_
        have hfits := (h ds ((hands_iff hcaps ds).mpr ⟨hlinger, hfull⟩)).2
        rw [rejectedForSize_iff] at hfits
        exact Nat.le_of_not_lt hfits
    · intro h ds hhands
      obtain ⟨hlinger, hfull⟩ := (hands_iff hcaps ds).mp hhands
      have hfits := h.resolve_left hlinger ds hfull
      refine ⟨(hcodec ds).trans hfits, ?_⟩
      rw [rejectedForSize_iff]
      exact Nat.not_lt_of_le hfits

namespace Sample

theorem payloadSize_le_payloadCodec (ds : List Datagram) :
    payloadSize ds ≤ (payloadCodec.encode (.batch ds)).length := by
  show payloadSize ds ≤ (ds.flatMap Datagram.payload).length
  rw [List.length_flatMap]
  exact Nat.le_refl _

/-- Batches of up to a whole frame, and datagrams of any length. -/
def wideEntry : IngressConfig :=
  { ingressEntry 20 with maxDatagramBytes := 65507, batchMaxBytes := 65536 }

def wideConfig : ReductionConfig := { ingressConfig 20 with ingress := [wideEntry] }

/-- Two of the largest datagrams. -/
def widePair : List Datagram := List.replicate 2 (.zeros b2.address 65507)

theorem payloadSize_widePair : payloadSize widePair = 131014 := by
  rw [widePair, payloadSize_replicate, Datagram.length_zeros]

theorem full_widePair : wideEntry.Full widePair := by
  have hlarge : wideEntry.Admits (.zeros b2.address 65507) :=
    ⟨(Datagram.length_zeros _ _).le, b2.address, rfl⟩
  have hopen : wideEntry.Open [.zeros b2.address 65507] := by
    refine ⟨?_, by decide, ?_⟩
    · exact List.forall_mem_singleton.mpr hlarge
    · rw [show payloadSize [.zeros b2.address 65507] = 65507 from
        (payloadSize_replicate 1 _).trans (by rw [Datagram.length_zeros])]
      decide
  exact hopen.append hlarge

end Sample

theorem small_batches_fit_frame : (Sample.ingressConfig 20).validate = .ok () ∧
    ∀ ds, (Sample.ingressEntry 20).Hands Bytes Sample.payloadCodec ds →
      payloadSize ds ≤ IngressProtocol.maxEnvelopeFrame := by
  have hvalid : (Sample.ingressConfig 20).validate = .ok () := by decide
  exact ⟨hvalid, (batches_fit_frame_iff hvalid List.mem_cons_self
    Sample.payloadSize_le_payloadCodec).1.mpr (.inr (by decide))⟩

/-- The first datagram leaves the batch below its limit, and the second one takes it to twice the
    size of a frame. -/
theorem two_datagrams_exceed_frame :
    Sample.wideConfig.validate = .ok () ∧ Sample.wideEntry ∈ Sample.wideConfig.ingress ∧
      (∀ ds, payloadSize ds ≤ (Sample.payloadCodec.encode (.batch ds)).length) ∧
      Sample.wideEntry.Hands Bytes Sample.payloadCodec Sample.widePair ∧
      payloadSize Sample.widePair = 131014 ∧ IngressProtocol.maxEnvelopeFrame = 65536 ∧
      RejectedForSize Sample.payloadCodec Sample.widePair := by
  have hvalid : Sample.wideConfig.validate = .ok () := by decide
  have hentry : Sample.wideEntry ∈ Sample.wideConfig.ingress := List.mem_cons_self
  have hcaps := (ReductionConfig.validate_ok hvalid).ingress_caps _ hentry
  refine ⟨hvalid, hentry, Sample.payloadSize_le_payloadCodec,
    hands_of_full _ hcaps (by decide) Sample.full_widePair, Sample.payloadSize_widePair, rfl, ?_⟩
  rw [rejectedForSize_iff]
  refine Nat.lt_of_lt_of_le ?_ (Sample.payloadSize_le_payloadCodec _)
  rw [Sample.payloadSize_widePair]
  decide

end Reduction
