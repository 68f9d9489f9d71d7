import Reduction.ForStd.Watching
import Reduction.Native.ConfigReload
import Reduction.Native.RawRelay

/-!
# The lifetime of a raw relay

Model of `src/proxy/raw_relay/lifetime.rs`, the two tasks that end a relay when
its client is denied, and of the part of `handle_raw_stream` that admits a stream
and starts them.

Publications, new streams, the steps of the calls and of the watchers come in any
order.
-/

namespace Reduction

/-- A step of `cancel_on_revocation`. -/
def cancelOnRevocation (revocationRx : Broadcast RevocationSet) (identity : PeerIdentity) :
    Bool → WaitBranch → WatchTask → WatchTask × Bool :=
  WatchTask.step (fun set => set.isRevoked identity) revocationRx

/-- A step of `cancel_on_acl_denial`. -/
def cancelOnAclDenial (reloadableRx : Broadcast ReloadableState) (clientIp : IpAddr) :
    Bool → WaitBranch → WatchTask → WatchTask × Bool :=
  WatchTask.step (fun state => !(state.acl.check clientIp).toBool) reloadableRx

/-- Where a call of `handle_raw_stream` stands. -/
inductive RawCallPhase where
  /-- Behind `check_admission`. -/
  | admitted
  /-- The backend's stream is open. -/
  | dialed
  /-- The first of the watchers is spawned. -/
  | watched
  | relaying
  | returned
deriving DecidableEq

structure RawCall where
  identity : PeerIdentity
  clientIp : IpAddr
  phase : RawCallPhase
  /-- `relay_token` is cancelled. -/
  cancelled : Bool
  revocationWatcher : Option WatchTask
  aclWatcher : Option WatchTask

structure RawRelays where
  revocation : Broadcast RevocationSet
  reloadable : Broadcast ReloadableState
  /-- What the receivers of `ProxyState` have marked seen; they are only borrowed from. -/
  revocationSeen : Nat
  reloadableSeen : Nat
  /-- The parent of all relay tokens. -/
  shutdown : Bool
  calls : List RawCall

inductive RawRelayAction where
  | publishRevocation (set : RevocationSet)
  | publishReloadable (state : ReloadableState)
  | dropRevocationSender
  | dropReloadableSender
  | shutdown
  /-- A stream reaches `check_admission`. -/
  | accept (clientIp : IpAddr) (identity : Option PeerIdentity) (rateLimited : Bool)
  /-- A call passes the gates from the routing header to the dial, or returns. -/
  | dial (i : Nat) (passes : Bool)
  | spawnRevocationWatcher (i : Nat)
  | spawnAclWatcher (i : Nat)
  /-- `relay_bidirectional` returns. -/
  | finish (i : Nat)
  | revocationWatcher (i : Nat) (branch : WaitBranch)
  | aclWatcher (i : Nat) (branch : WaitBranch)

namespace RawCall

def dial (passes : Bool) (c : RawCall) : RawCall :=
  match c.phase with
  | .admitted => { c with phase := if passes then .dialed else .returned }
  | _ => c

/-- The relay's token is made as a child of the other. -/
def spawnRevocationWatcher (shutdown : Bool) (seen : Nat) (c : RawCall) : RawCall :=
  match c.phase with
  | .dialed =>
    { c with phase := .watched, cancelled := shutdown, revocationWatcher := some (.spawn seen) }
  | _ => c

def spawnAclWatcher (seen : Nat) (c : RawCall) : RawCall :=
  match c.phase with
  | .watched => { c with phase := .relaying, aclWatcher := some (.spawn seen) }
  | _ => c

def finish (c : RawCall) : RawCall :=
  match c.phase with
  | .relaying => { c with phase := .returned, cancelled := true }
  | _ => c

def stepRevocationWatcher (revocation : Broadcast RevocationSet) (branch : WaitBranch)
    (c : RawCall) : RawCall :=
  match c.revocationWatcher with
  | some t =>
    let (t, cancels) := cancelOnRevocation revocation c.identity c.cancelled branch t
    { c with revocationWatcher := some t, cancelled := c.cancelled || cancels }
  | none => c

def stepAclWatcher (reloadable : Broadcast ReloadableState) (branch : WaitBranch) (c : RawCall) :
    RawCall :=
  match c.aclWatcher with
  | some t =>
    let (t, cancels) := cancelOnAclDenial reloadable c.clientIp c.cancelled branch t
    { c with aclWatcher := some t, cancelled := c.cancelled || cancels }
  | none => c

end RawCall

namespace RawRelays

/-- Both channels as they are made at startup. -/
def new (initial : ReloadableState) : RawRelays :=
  { revocation := .new .default
    reloadable := .new initial
    revocationSeen := 0
    reloadableSeen := 0
    shutdown := false
    calls := [] }

/-- The admission of `authorize_raw_edge`, on the latest values. -/
def accept (s : RawRelays) (clientIp : IpAddr) (identity : Option PeerIdentity)
    (rateLimited : Bool) : RawRelays :=
  match checkAdmission s.reloadable.watch.value.acl rateLimited clientIp identity
      s.revocation.watch.value, identity with
  | .ok (), some identity =>
    { s with
      calls := s.calls ++
        [{ identity, clientIp, phase := .admitted, cancelled := false, revocationWatcher := none
           aclWatcher := none }] }
  | _, _ => s

def step (s : RawRelays) : RawRelayAction → RawRelays
  | .publishRevocation set => { s with revocation := s.revocation.send set }
  | .publishReloadable state => { s with reloadable := s.reloadable.send state }
  | .dropRevocationSender => { s with revocation := s.revocation.dropSender }
  | .dropReloadableSender => { s with reloadable := s.reloadable.dropSender }
  | .shutdown =>
    { s with shutdown := true, calls := s.calls.map fun c => { c with cancelled := true } }
  | .accept clientIp identity rateLimited => s.accept clientIp identity rateLimited
  | .dial i passes => { s with calls := s.calls.modify i (RawCall.dial passes) }
  | .spawnRevocationWatcher i =>
    { s with
      calls := s.calls.modify i (RawCall.spawnRevocationWatcher s.shutdown s.revocationSeen) }
  | .spawnAclWatcher i =>
    { s with calls := s.calls.modify i (RawCall.spawnAclWatcher s.reloadableSeen) }
  | .finish i => { s with calls := s.calls.modify i RawCall.finish }
  | .revocationWatcher i branch =>
    { s with calls := s.calls.modify i (RawCall.stepRevocationWatcher s.revocation branch) }
  | .aclWatcher i branch =>
    { s with calls := s.calls.modify i (RawCall.stepAclWatcher s.reloadable branch) }

end RawRelays

end Reduction
