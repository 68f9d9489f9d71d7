import Reduction.Native.Health

/-!
# Control peers

Model of `run_control_loop` in `src/tunnel/listener.rs`, and of `note_refusal` and
`dispatch_wake` in `src/tunnel/registry.rs`, on top of the listener's tasks: a
task that serves a session runs the control loop.

A control loop takes any branch of its `select!` that is ready.  A dispatch first
goes over the map of control peers and then pushes its frame to one connection
after the other.
-/

namespace Reduction

/-- What reading the control stream comes to. -/
inductive ControlRead where
  | frame (frame : TunnelFrame)
  | readError
  | heartbeatTimeout

/-- The branches of the control loop's `select!`. -/
inductive ControlBranch where
  | read (result : ControlRead)
  | outbound
  | shutdown

/-- A call of `dispatch_wake`. -/
inductive WakeCall where
  | idle
  /-- The iteration over `control_peers`: what it still has to visit, and what it has collected. -/
  | collecting (frame : TunnelFrame) (todo : List SessionId) (peers : List ConnectionId)
  | pushing (frame : TunnelFrame) (peers : List ConnectionId)

/-- The listener with what control peers steer. -/
structure ControlSystem where
  listener : Listener
  /-- The value behind `health_tx`; none if control peers do not report health. -/
  health : Option HealthState
  refused : DashMap BackendId Unit
  wakes : Nat → WakeCall

inductive ControlAction where
  | listener (a : ListenerAction)
  /-- The control loop of task `i` takes a branch; `acked` if it can write the ack of a heartbeat. -/
  | loop (i : Nat) (branch : ControlBranch) (now : Instant) (acked : Bool)
  | dispatchWake (j : Nat) (backendId : Bytes) (timeoutMs : UInt64)
  /-- The iteration of dispatch `j` visits an entry, or comes to its end. -/
  | visitPeer (j : Nat) (peer : Option SessionId)
  /-- Dispatch `j` comes to its next connection; `opened` if the stream can be opened in time. -/
  | pushWake (j : Nat) (opened : Bool)

namespace ControlSystem

def init (config : TunnelConfig) (maxSessionsPerBackend : UInt32) (health : Option HealthState) :
    ControlSystem :=
  { listener := .init config maxSessionsPerBackend
    health
    refused := ∅
    wakes := fun _ => .idle }

/-- `note_refusal`. -/
def noteRefusal (sys : ControlSystem) (backendId : BackendId) : ControlSystem :=
  { sys with
    refused := sys.refused.insert backendId ()
    listener :=
      sys.listener.setRegistry (sys.listener.state.registry.notifySessionWaiters backendId) }

/-- What the control loop of session `s` does with a frame. -/
def handleFrame (sys : ControlSystem) (s : TunnelSession) (now : Instant) :
    TunnelFrame → ControlSystem
  | .heartbeat _ =>
    { sys with
      listener := sys.listener.setRegistry
        (sys.listener.state.registry.recordHeartbeat s.backendId s.sessionId now).1 }
  | .health reported available =>
    match s.isControlPeer, sys.health with
    | true, some health =>
      let entry : BackendHealth :=
        { backendId := reported
          load := .zero
          latencyMs := 0
          availability := if available then .online else .offline }
      { sys with health := some (health.update [entry] now) }
    | _, _ => sys
  | .refuseWake refused => if s.isControlPeer then sys.noteRefusal refused else sys
  | _ => sys

/-- The loop goes on after a branch. -/
def goesOn (acked : Bool) : ControlBranch → Bool
  | .read (.frame (.heartbeat _)) => acked
  | .read (.frame (.shutdown _)) => false
  | .read (.frame _) => true
  | _ => false

/-- `control_rx` has a frame, or all senders are gone: the only one is in the registered session. -/
def outboundReady (sys : ControlSystem) (s : TunnelSession) : Bool :=
  (sys.listener.state.shutdowns.any fun sent => sent.1 = s.sessionId) ||
    !(sys.listener.state.registry.sessions.bucket s.backendId).any fun s' =>
      s'.sessionId = s.sessionId

/-- A branch can be taken. -/
def ready (sys : ControlSystem) (s : TunnelSession) : ControlBranch → Bool
  | .outbound => sys.outboundReady s
  | _ => true

/-- What a branch does before the loop goes on or ends. -/
def takeBranch (sys : ControlSystem) (s : TunnelSession) (now : Instant) :
    ControlBranch → ControlSystem
  | .read (.frame frame) => sys.handleFrame s now frame
  | _ => sys

def loop (sys : ControlSystem) (i : Nat) (branch : ControlBranch) (now : Instant) (acked : Bool) :
    ControlSystem :=
  match sys.listener.tasks i with
  | .serve s =>
    if !sys.ready s branch then sys
    else
      let sys := sys.takeBranch s now branch
      if goesOn acked branch then sys
      else { sys with listener := sys.listener.setTask i (.leave s .peers (.ok ())) }
  | _ => sys

def setWake (sys : ControlSystem) (j : Nat) (call : WakeCall) : ControlSystem :=
  { sys with wakes := Function.update sys.wakes j call }

/-- The start of `dispatch_wake`. -/
def dispatchWake (sys : ControlSystem) (j : Nat) (backendId : Bytes) (timeoutMs : UInt64) :
    ControlSystem :=
  match sys.wakes j, ArrayString.from? backendId with
  | .idle, some id =>
    sys.setWake j
      (.collecting (.wake id timeoutMs) sys.listener.state.registry.controlPeers.keys [])
  | _, _ => sys

/-- One step of its iteration; an entry that is there all along is visited, one that is inserted
    meanwhile may be. -/
def visitPeer (sys : ControlSystem) (j : Nat) (peer : Option SessionId) : ControlSystem :=
  match sys.wakes j, peer with
  | .collecting frame todo peers, some sid =>
    sys.setWake j
      (.collecting frame (todo.erase sid)
        (peers ++ (sys.listener.state.registry.controlPeers.get sid).toList))
  | .collecting frame [] peers, none => sys.setWake j (.pushing frame peers)
  | _, _ => sys

/-- One round of its loop over the connections. -/
def pushWake (sys : ControlSystem) (j : Nat) : ControlSystem :=
  match sys.wakes j with
  | .pushing frame (_ :: rest) => sys.setWake j (.pushing frame rest)
  | .pushing _ [] => sys.setWake j .idle
  | _ => sys

/-- The connection that a round pushes its frame to, unless no stream can be opened on it. -/
def pushed (sys : ControlSystem) (j : Nat) (opened : Bool) : Option (ConnectionId × TunnelFrame) :=
  match sys.wakes j with
  | .pushing frame (conn :: _) =>
    if opened && !sys.listener.state.closed.contains conn then some (conn, frame) else none
  | _ => none

/-- A task that serves a session advances by its control loop only. -/
def onListener (sys : ControlSystem) (a : ListenerAction) : ControlSystem :=
  match a with
  | .advance i _ =>
    match sys.listener.tasks i with
    | .serve _ => sys
    | _ => { sys with listener := sys.listener.step a }
  | _ => { sys with listener := sys.listener.step a }

def step (sys : ControlSystem) : ControlAction → ControlSystem
  | .listener a => sys.onListener a
  | .loop i branch now acked => sys.loop i branch now acked
  | .dispatchWake j backendId timeoutMs => sys.dispatchWake j backendId timeoutMs
  | .visitPeer j peer => sys.visitPeer j peer
  | .pushWake j _ => sys.pushWake j

end ControlSystem

end Reduction
