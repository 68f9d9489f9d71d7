import Reduction.Native.Running

/-!
# The accept loop of a TCP ingress

Model of `TcpIngressCounters` and `run_accept_loop` in `src/ingress/tcp.rs`: one
loop that accepts and admits, and a task for each connection that it lets in,
which runs `handle_connection` and holds a permit until it has returned.

The loop and the tasks run side by side.  Each of their effects is one step: the
trace of `handle_connection` is what a task has still to do, and a step takes the
next event of it.  A connection keeps what it has done, also after its end.
-/

namespace Reduction

structure TcpIngressCounters where
  accepted : Nat
  relayed : Nat
  dropped : TcpDropReason → Nat

namespace TcpIngressCounters

def new : TcpIngressCounters := { accepted := 0, relayed := 0, dropped := fun _ => 0 }

def recordAccepted (c : TcpIngressCounters) : TcpIngressCounters :=
  { c with accepted := c.accepted + 1 }

def recordRelayed (c : TcpIngressCounters) : TcpIngressCounters :=
  { c with relayed := c.relayed + 1 }

def recordDrop (c : TcpIngressCounters) (reason : TcpDropReason) : TcpIngressCounters :=
  { c with dropped := Function.update c.dropped reason (c.dropped reason + 1) }

def totalDropped (c : TcpIngressCounters) : Nat :=
  c.dropped .acl + c.dropped .rateLimit + c.dropped .capacity + c.dropped .noBackend +
    c.dropped .circuitOpen + c.dropped .protocol

/-- What an event of `handle_connection` does to the counters. -/
def record (c : TcpIngressCounters) : RelayEvent TcpDropReason → TcpIngressCounters
  | .rejected reason => c.recordDrop reason
  | .relayed _ => c.recordRelayed
  | _ => c

end TcpIngressCounters

/-- A connection as the listener returns it, with what it will meet. -/
structure TcpConn where
  peer : SocketAddr
  rateLimited : Bool
  env : TcpConnEnv

/-- Where `run_accept_loop` stands with the connection that it has accepted last. -/
inductive AcceptPhase where
  /-- In `select!`. -/
  | accepting
  | admitting (conn : TcpConn)
  | acquiring (conn : TcpConn)
  | spawning (conn : TcpConn)
  | dropping (conn : TcpConn) (reason : TcpDropReason)
  | stopped

/-- A connection that the loop has turned away or given to a task. -/
structure Connection where
  conn : TcpConn
  /-- What has been done for it, and what its task has still to do. -/
  trace : List (RelayEvent TcpDropReason)
  todo : List (RelayEvent TcpDropReason)
  /-- There is no task, or it has ended and its permit is released. -/
  ended : Bool

structure AcceptLoop where
  phase : AcceptPhase
  permits : Nat
  counters : TcpIngressCounters
  connections : List Connection

inductive AcceptAction where
  /-- `listener.accept` returns a connection. -/
  | accept (conn : TcpConn)
  | acceptFailed
  | shutdown
  /-- The loop goes on with the connection that it holds. -/
  | advance
  /-- The task of a connection runs to its next effect. -/
  | task (i : Nat)

namespace AcceptLoop

/-- The loop that `spawn_tcp_ingress` starts. -/
def new (listener : TcpListener) : AcceptLoop :=
  { phase := .accepting
    permits := listener.maxConnections.toNat
    counters := .new
    connections := [] }

/-- The body of the loop behind `record_accepted`. -/
def advance (ingress : TcpIngress) (s : AcceptLoop) : AcceptLoop :=
  match s.phase with
  | .accepting | .stopped => s
  | .admitting conn =>
    match admitConnection ingress.acl conn.rateLimited conn.peer.ip with
    | .error reason => { s with phase := .dropping conn reason }
    | .ok () => { s with phase := .acquiring conn }
  | .acquiring conn =>
    if 0 < s.permits then
      { s with phase := .spawning conn, permits := s.permits - 1 }
    else
      { s with phase := .dropping conn .capacity }
  | .spawning conn =>
    { s with
      phase := .accepting
      connections := s.connections ++
        [{ conn, trace := [], ended := false
           todo := (handleConnection ingress.pool conn.peer conn.env).events }] }
  | .dropping conn reason =>
    { s with
      phase := .accepting
      counters := s.counters.recordDrop reason
      connections := s.connections ++
        [{ conn, trace := [.rejected reason], todo := [], ended := true }] }

/-- The task of a connection does the next thing, or ends. -/
def runTask (s : AcceptLoop) (i : Nat) (c : Connection) : AcceptLoop :=
  if c.ended then s
  else
    match c.todo with
    | [] =>
      { s with
        permits := s.permits + 1
        connections := s.connections.set i { c with ended := true } }
    | e :: todo =>
      { s with
        counters := s.counters.record e
        connections := s.connections.set i { c with trace := c.trace ++ [e], todo } }

def step (ingress : TcpIngress) (s : AcceptLoop) : AcceptAction → AcceptLoop
  | .accept conn =>
    match s.phase with
    | .accepting => { s with phase := .admitting conn, counters := s.counters.recordAccepted }
    | _ => s
  | .acceptFailed => s
  | .shutdown =>
    match s.phase with
    | .accepting => { s with phase := .stopped }
    | _ => s
  | .advance => s.advance ingress
  | .task i =>
    match s.connections[i]? with
    | some c => s.runTask i c
    | none => s

end AcceptLoop

end Reduction
