import Reduction.ForStd.Run
import Reduction.ForStd.Tasks
import Reduction.Native.RawLifetime

/-!
# No missed denial on a live relay

A publication may come between the admission of a stream and its watchers, between
a watcher's test and its wait, or before its first step.  In none of these orders
is it missed: `no_missed_denial`.
-/

namespace Reduction

open Run

/-- Both watchers of a call, as far as they are spawned, are up to date with their channels. -/
structure RawCall.Fresh (revocation : Broadcast RevocationSet)
    (reloadable : Broadcast ReloadableState) (c : RawCall) : Prop where
  revocation : ∀ t, c.revocationWatcher = some t →
    t.Fresh (fun set => set.isRevoked c.identity) revocation
  acl : ∀ t, c.aclWatcher = some t →
    t.Fresh (fun state => !(state.acl.check c.clientIp).toBool) reloadable

namespace RawCall.Fresh

variable {revocation : Broadcast RevocationSet} {reloadable : Broadcast ReloadableState}
  {c : RawCall}

/-- A call whose watchers stay as they are. -/
theorem congr (h : c.Fresh revocation reloadable) {c' : RawCall}
    (hidentity : c'.identity = c.identity) (hip : c'.clientIp = c.clientIp)
    (hrevocation : c'.revocationWatcher = c.revocationWatcher) (hacl : c'.aclWatcher = c.aclWatcher) :
    c'.Fresh revocation reloadable := by
  refine ⟨?_, ?_⟩
  · rw [hrevocation, hidentity]
    exact h.revocation
  · rw [hacl, hip]
    exact h.acl

theorem dial (h : c.Fresh revocation reloadable) (passes : Bool) :
    (c.dial passes).Fresh revocation reloadable := by
  unfold RawCall.dial
  split
  · exact h.congr rfl rfl rfl rfl
  · exact h

theorem finish (h : c.Fresh revocation reloadable) : c.finish.Fresh revocation reloadable := by
  unfold RawCall.finish
  split
  · exact h.congr rfl rfl rfl rfl
  · exact h

theorem spawnRevocationWatcher (h : c.Fresh revocation reloadable) (shutdown : Bool) {seen : Nat}
    (hseen : seen ≤ revocation.watch.version) :
    (c.spawnRevocationWatcher shutdown seen).Fresh revocation reloadable := by
  unfold RawCall.spawnRevocationWatcher
  split
  · refine ⟨?_, h.acl⟩
    rintro t ⟨⟩
    exact WatchTask.fresh_spawn hseen
  · exact h

theorem spawnAclWatcher (h : c.Fresh revocation reloadable) {seen : Nat}
    (hseen : seen ≤ reloadable.watch.version) :
    (c.spawnAclWatcher seen).Fresh revocation reloadable := by
  unfold RawCall.spawnAclWatcher
  split
  · refine ⟨h.revocation, ?_⟩
    rintro t ⟨⟩
    exact WatchTask.fresh_spawn hseen
  · exact h

theorem stepRevocationWatcher (h : c.Fresh revocation reloadable) (branch : WaitBranch) :
    (c.stepRevocationWatcher revocation branch).Fresh revocation reloadable := by
  unfold RawCall.stepRevocationWatcher
  cases ht : c.revocationWatcher with
  | none => exact h
  | some t =>
    refine ⟨?_, h.acl⟩
    rintro _ ⟨⟩
    exact (h.revocation t ht).step c.cancelled branch

theorem stepAclWatcher (h : c.Fresh revocation reloadable) (branch : WaitBranch) :
    (c.stepAclWatcher reloadable branch).Fresh revocation reloadable := by
  unfold RawCall.stepAclWatcher
  cases ht : c.aclWatcher with
  | none => exact h
  | some t =>
    refine ⟨h.revocation, ?_⟩
    rintro _ ⟨⟩
    exact (h.acl t ht).step c.cancelled branch

end RawCall.Fresh

namespace RawRelays

/-- No receiver has marked a value seen that is not there, and all watchers are up to date. -/
structure UpToDate (s : RawRelays) : Prop where
  revocationSeen : s.revocationSeen ≤ s.revocation.watch.version
  reloadableSeen : s.reloadableSeen ≤ s.reloadable.watch.version
  calls : ∀ c ∈ s.calls, c.Fresh s.revocation s.reloadable

variable {s : RawRelays}

theorem upToDate_new (initial : ReloadableState) : (new initial).UpToDate :=
  ⟨Nat.le_refl 0, Nat.le_refl 0, List.forall_mem_nil _⟩

theorem UpToDate.accept (h : s.UpToDate) (clientIp : IpAddr) (identity : Option PeerIdentity)
    (rateLimited : Bool) : (s.accept clientIp identity rateLimited).UpToDate := by
  unfold RawRelays.accept
  split
  · refine ⟨h.revocationSeen, h.reloadableSeen, ?_⟩
    intro c hc
    rcases List.mem_append.mp hc with hmem | hmem
    · exact h.calls c hmem
    · rw [List.mem_singleton.mp hmem]
      exact ⟨fun t ht => (by cases ht), fun t ht => (by cases ht)⟩
  · exact h

/-- One of the calls goes on, and the channels stay as they are. -/
theorem UpToDate.modify (h : s.UpToDate) {f : RawCall → RawCall}
    (hf : ∀ c, c.Fresh s.revocation s.reloadable → (f c).Fresh s.revocation s.reloadable)
    (i : Nat) : UpToDate { s with calls := s.calls.modify i f } :=
  ⟨h.revocationSeen, h.reloadableSeen, Tasks.forall_modify h.calls (fun c _ => hf c) i⟩

theorem UpToDate.step (h : s.UpToDate) (a : RawRelayAction) : (s.step a).UpToDate := by
  cases a with
  | publishRevocation set =>
    refine ⟨h.revocationSeen.trans (s.revocation.version_le_send set), h.reloadableSeen, ?_⟩
    intro c hc
    exact ⟨fun t ht => ((h.calls c hc).revocation t ht).send set, (h.calls c hc).acl⟩
  | publishReloadable state =>
    refine ⟨h.revocationSeen, h.reloadableSeen.trans (s.reloadable.version_le_send state), ?_⟩
    intro c hc
    exact ⟨(h.calls c hc).revocation, fun t ht => ((h.calls c hc).acl t ht).send state⟩
  | dropRevocationSender =>
    refine ⟨h.revocationSeen, h.reloadableSeen, ?_⟩
    intro c hc
    exact ⟨fun t ht => ((h.calls c hc).revocation t ht).dropSender, (h.calls c hc).acl⟩
  | dropReloadableSender =>
    refine ⟨h.revocationSeen, h.reloadableSeen, ?_⟩
    intro c hc
    exact ⟨(h.calls c hc).revocation, fun t ht => ((h.calls c hc).acl t ht).dropSender⟩
  | shutdown =>
    refine ⟨h.revocationSeen, h.reloadableSeen, ?_⟩
    intro c hc
    obtain ⟨c', hc', rfl⟩ := List.mem_map.mp hc
    exact (h.calls c' hc').congr rfl rfl rfl rfl
  | accept clientIp identity rateLimited => exact h.accept clientIp identity rateLimited
  | dial i passes => exact h.modify (fun c hc => hc.dial passes) i
  | spawnRevocationWatcher i =>
    exact h.modify (fun c hc => hc.spawnRevocationWatcher s.shutdown h.revocationSeen) i
  | spawnAclWatcher i => exact h.modify (fun c hc => hc.spawnAclWatcher h.reloadableSeen) i
  | finish i => exact h.modify (fun c hc => hc.finish) i
  | revocationWatcher i branch => exact h.modify (fun c hc => hc.stepRevocationWatcher branch) i
  | aclWatcher i branch => exact h.modify (fun c hc => hc.stepAclWatcher branch) i

theorem upToDate_run (initial : ReloadableState) (actions : List RawRelayAction) :
    (run step (new initial) actions).UpToDate :=
  @run_invariant_of_step _ _ _ UpToDate (fun _ a h => UpToDate.step h a) _ (upToDate_new initial)
    actions

end RawRelays

/-- Whenever both watchers of a relay wait in vain and its token is not cancelled, the latest
    revocation set does not revoke its identity and the latest rules admit its address. -/
theorem no_missed_denial (initial : ReloadableState) (actions : List RawRelayAction)
    {c : RawCall} (hc : c ∈ (run RawRelays.step (.new initial) actions).calls)
    {revocationWatcher aclWatcher : WatchTask}
    (hrevocation : c.revocationWatcher = some revocationWatcher)
    (hacl : c.aclWatcher = some aclWatcher) :
    let s := run RawRelays.step (.new initial) actions
    revocationWatcher.Suspended s.revocation c.cancelled →
    aclWatcher.Suspended s.reloadable c.cancelled →
      s.revocation.watch.value.isRevoked c.identity = false ∧
      (s.reloadable.watch.value.acl.check c.clientIp).toBool = true := by
  intro s hwaitsRevocation hwaitsAcl
  have hfresh := (RawRelays.upToDate_run initial actions).calls c hc
  refine ⟨(hfresh.revocation _ hrevocation).unobjected hwaitsRevocation, ?_⟩
  have hunobjected := (hfresh.acl _ hacl).unobjected hwaitsAcl
  simpa using hunobjected

namespace Sample

def relayPeer : PeerIdentity :=
  { commonName := ⟨Bytes.ascii "relay-peer", by decide⟩, spkiSha256 := .replicate 32 7 }

def openRules : ReloadableState :=
  { router := { routes := [] }, backendPools := ∅, acl := { allow := [], deny := [] } }

/-- A denylist that names another device is published between the admission of a stream and its
    watchers; both of them test and wait, the first of them twice. -/
def publishedBeforeSpawn : List RawRelayAction :=
  [.accept (.v4 #v[192, 0, 2, 9]) (some relayPeer) false,
    .dial 0 true,
    .publishRevocation { spki := [.replicate 32 8], backendIds := [] },
    .spawnRevocationWatcher 0,
    .spawnAclWatcher 0,
    .revocationWatcher 0 .changed, .revocationWatcher 0 .changed, .revocationWatcher 0 .changed,
    .aclWatcher 0 .changed]

end Sample

open Sample in
theorem no_missed_denial_published :
    let s := run RawRelays.step (.new openRules) publishedBeforeSpawn
    ∃ c ∈ s.calls, c.cancelled = false ∧
      c.revocationWatcher = some { seen := 1, phase := .waiting } ∧
      c.aclWatcher = some { seen := 0, phase := .waiting } ∧
      s.revocation.watch.value.isRevoked c.identity = false ∧
      (s.reloadable.watch.value.acl.check c.clientIp).toBool = true := by
  intro s
  have hmem : ({ identity := relayPeer, clientIp := .v4 #v[192, 0, 2, 9], phase := .relaying
                 cancelled := false, revocationWatcher := some { seen := 1, phase := .waiting }
                 aclWatcher := some { seen := 0, phase := .waiting } } : RawCall) ∈ s.calls :=
    List.mem_singleton_self _
  refine ⟨_, hmem, rfl, rfl, rfl, ?_⟩
  exact no_missed_denial openRules publishedBeforeSpawn hmem rfl rfl ⟨rfl, rfl, rfl⟩ ⟨rfl, rfl, rfl⟩

end Reduction
