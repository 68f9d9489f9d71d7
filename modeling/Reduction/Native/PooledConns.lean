import Reduction.ForStd.Concurrent
import Reduction.Native.Backend

/-!
# Pooled connections

Model of the connections that `src/proxy/pool.rs` and `src/proxy/pool/quic.rs` keep:
HTTP/2 senders and idle QUIC connections, each by the address that was dialed and
the host name that was verified.  A call is cut where it accesses one of the maps
or awaits something, so that calls may interleave there.  What the network answers
is the input of a stage, and a connection may be closed at any time.
-/

namespace Reduction

/-- A connection, or a sender for one; `id` tells connections apart. -/
structure PooledConn where
  id : Nat
  /-- What was dialed. -/
  address : SocketAddr
  /-- The name that the peer's certificate was verified for. -/
  host : Bytes
deriving DecidableEq

/-- Connections by address and host. -/
abbrev ConnMap := DashMap SocketAddr (DashMap Bytes (List PooledConn))

namespace ConnMap

def slot (m : ConnMap) (addr : SocketAddr) (host : Bytes) : List PooledConn :=
  ((m.get addr).getD ∅).bucket host

/-- `entry(addr).or_default().entry(host).or_default()`, and what becomes of the list there. -/
def setSlot (m : ConnMap) (addr : SocketAddr) (host : Bytes) (conns : List PooledConn) : ConnMap :=
  m.insert addr (((m.get addr).getD ∅).insert host conns)

end ConnMap

/-- The part of `ConnPool` that keeps connections. -/
structure IdlePool where
  tcpH2 : ConnMap
  tcpH2Rr : UInt64
  quicIdle : ConnMap
  h2ConnsPerBackend : UInt32
  maxIdleQuicPerHost : UInt32
  /-- How many connections have been made, and which of them are closed. -/
  dialed : Nat
  closed : Nat → Bool

namespace IdlePool

def new (h2Conns maxIdleQuic : UInt32) : IdlePool :=
  { tcpH2 := ∅
    tcpH2Rr := 0
    quicIdle := ∅
    h2ConnsPerBackend := h2Conns
    maxIdleQuicPerHost := maxIdleQuic
    dialed := 0
    closed := fun _ => false }

def isOpen (p : IdlePool) (conn : PooledConn) : Bool := !p.closed conn.id

/-- A connection to the backend's address, verified for its host. -/
def dial (p : IdlePool) (b : BackendConfig) : IdlePool × PooledConn :=
  ({ p with dialed := p.dialed + 1 }, { id := p.dialed, address := b.address, host := b.host })

/-- The access of `reuse_pooled_h2`: a sender, and whether it reported ready. -/
def reusePooledH2 (p : IdlePool) (addr : SocketAddr) (host : Bytes) (isReady : PooledConn → Bool) :
    IdlePool × Option (PooledConn × Bool) :=
  match (p.tcpH2.get addr).bind (DashMap.get · host) with
  | none => (p, none)
  | some senders =>
    let senders := senders.filter p.isOpen
    let p := { p with tcpH2 := p.tcpH2.setSlot addr host senders }
    let count := senders.length
    if count = 0 then
      (p, none)
    else
      let start := p.tcpH2Rr
      let p := { p with tcpH2Rr := start + 1 }
      let turns := (List.range count).map fun offset => (start + .ofNat offset).toNat % count
      match turns.find? fun i => senders[i]?.any isReady with
      | some i => (p, senders[i]?.map fun sender => (sender, true))
      | none => (p, senders[start.toNat % count]?.map fun sender => (sender, false))

/-- The access of `connect_tcp_h2`. -/
def storeH2 (p : IdlePool) (b : BackendConfig) (sender : PooledConn) : IdlePool :=
  let senders := (p.tcpH2.slot b.address b.host).filter p.isOpen
  let senders :=
    if senders.length < p.h2ConnsPerBackend.toNat then senders ++ [sender] else senders
  { p with tcpH2 := p.tcpH2.setSlot b.address b.host senders }

def takeQuic (p : IdlePool) (addr : SocketAddr) (host : Bytes) : IdlePool × Option PooledConn :=
  match (p.quicIdle.get addr).bind (DashMap.get · host) with
  | none => (p, none)
  | some queue =>
    let queue := queue.dropWhile fun conn => !p.isOpen conn
    ({ p with quicIdle := p.quicIdle.setSlot addr host queue.tail }, queue.head?)

def putQuic (p : IdlePool) (addr : SocketAddr) (host : Bytes) (conn : PooledConn) : IdlePool :=
  if p.isOpen conn then
    let queue := p.quicIdle.slot addr host
    let queue := if queue.length < p.maxIdleQuicPerHost.toNat then queue ++ [conn] else queue
    { p with quicIdle := p.quicIdle.setSlot addr host queue }
  else p

def close (p : IdlePool) (id : Nat) : IdlePool :=
  { p with closed := Function.update p.closed id true }

/-- The connections of an address. -/
def quicAt (p : IdlePool) (addr : SocketAddr) : List PooledConn :=
  ((p.quicIdle.get addr).getD ∅).entries.flatMap fun e => e.2

/-- `q.drain(..)` on every queue of an address; an empty queue is as good as none. -/
def drainQuic (p : IdlePool) (addr : SocketAddr) : IdlePool :=
  { p with quicIdle := p.quicIdle.modify addr fun _ => ∅ }

end IdlePool

/-- What a call does once it has a connection or has failed to get one: an `acquire` returns, and
    `warm_up` goes on with the connections of this backend and the backends that are left. -/
inductive AfterConn where
  | returns
  | warms (left : Nat) (rest : List BackendConfig)

inductive PoolStage where
  | acquire (b : BackendConfig) (after : AfterConn)
  | acquireRawStream (b : BackendConfig)
  | reuse (b : BackendConfig) (after : AfterConn)
  /-- `ready()` of a sender that did not report ready. -/
  | probe (b : BackendConfig) (sender : PooledConn) (after : AfterConn)
  | connectH2 (b : BackendConfig) (after : AfterConn)
  | storeH2 (b : BackendConfig) (sender : PooledConn) (after : AfterConn)
  | takeQuic (b : BackendConfig) (after : AfterConn)
  | connectQuic (b : BackendConfig) (after : AfterConn)
  /-- `open_bi` and the write of the stream's type. -/
  | openStream (b : BackendConfig) (conn : PooledConn) (after : AfterConn)
  | putQuic (b : BackendConfig) (conn : PooledConn) (after : AfterConn)
  | warmUp (backends : List BackendConfig)
  | warmUpTcp (b : BackendConfig) (rest : List BackendConfig)
  | drainBackends (addrs : List SocketAddr)
  | drainBackendsQuic (addr : SocketAddr) (addrs : List SocketAddr)
  | drain
  /-- The entries of `quic_idle` are visited one by one. -/
  | drainQuic
  | closing (conns : List PooledConn) (next : PoolStage)
  | done

structure PoolInput where
  /-- The answer of `is_tunnel_backend`. -/
  tunnel : Bool
  /-- What is awaited succeeds. -/
  succeeds : Bool
  isReady : PooledConn → Bool
  /-- The next entry of an iteration, if any is left. -/
  visits : Option SocketAddr

/-- A pooled connection is picked for a backend, closed or not. -/
structure HandedOut where
  backend : BackendConfig
  conn : PooledConn
  closed : Bool

namespace PoolStage

/-- After a connection of `b` was made. -/
def after (b : BackendConfig) : AfterConn → PoolStage
  | .returns => done
  | .warms 0 rest => warmUp rest
  | .warms (left + 1) rest => connectH2 b (.warms left rest)

def afterFailure : AfterConn → PoolStage
  | .returns => done
  | .warms _ rest => warmUp rest

def step (p : IdlePool) (input : PoolInput) :
    PoolStage → IdlePool × PoolStage × Option HandedOut
  | acquire b k =>
    if input.tunnel then (p, after b k, none)
    else
      match b.transport, b.scheme with
      -- cleartext connections are not pooled
      | .tcp, .http => (p, after b k, none)
      | .tcp, .https => (p, reuse b k, none)
      | .quic, _ => (p, takeQuic b k, none)
  | acquireRawStream b => (p, if input.tunnel then done else takeQuic b .returns, none)
  | reuse b k =>
    match p.reusePooledH2 b.address b.host input.isReady with
    | (p', some (sender, ready)) =>
      (p', if ready then after b k else probe b sender k,
        some { backend := b, conn := sender, closed := p.closed sender.id })
    | (p', none) => (p', connectH2 b k, none)
  | probe b _ k => (p, if input.succeeds then after b k else connectH2 b k, none)
  | connectH2 b k =>
    if input.succeeds then
      let (p, sender) := p.dial b
      (p, storeH2 b sender k, none)
    else (p, afterFailure k, none)
  | storeH2 b sender k => (p.storeH2 b sender, after b k, none)
  | takeQuic b k =>
    match p.takeQuic b.address b.host with
    | (p', some conn) =>
      (p', openStream b conn k, some { backend := b, conn, closed := p.closed conn.id })
    | (p', none) => (p', connectQuic b k, none)
  | connectQuic b k =>
    if input.succeeds then
      let (p, conn) := p.dial b
      (p, openStream b conn k, none)
    else (p, afterFailure k, none)
  | openStream b conn k => (p, if input.succeeds then putQuic b conn k else afterFailure k, none)
  | putQuic b conn k => (p.putQuic b.address b.host conn, after b k, none)
  | warmUp [] => (p, done, none)
  | warmUp (b :: rest) =>
    match b.transport, b.scheme with
    | .tcp, .http => (p, warmUp rest, none)
    | .tcp, .https => (p, warmUpTcp b rest, none)
    | .quic, _ => (p, acquire b (.warms 0 rest), none)
  | warmUpTcp b rest =>
    match p.h2ConnsPerBackend.toNat - (p.tcpH2.slot b.address b.host).length with
    | 0 => (p, warmUp rest, none)
    | left + 1 => (p, connectH2 b (.warms left rest), none)
  | drainBackends [] => (p, done, none)
  | drainBackends (addr :: addrs) =>
    ({ p with tcpH2 := p.tcpH2.remove addr }, drainBackendsQuic addr addrs, none)
  | drainBackendsQuic addr addrs =>
    ({ p with quicIdle := p.quicIdle.remove addr }, closing (p.quicAt addr) (drainBackends addrs),
      none)
  | drain => ({ p with tcpH2 := ∅ }, drainQuic, none)
  | drainQuic =>
    match input.visits with
    | some addr => (p.drainQuic addr, closing (p.quicAt addr) drainQuic, none)
    | none => ({ p with quicIdle := ∅ }, done, none)
  | closing [] next => (p, next, none)
  | closing (conn :: conns) next => (p.close conn.id, closing conns next, none)
  | done => (p, done, none)

end PoolStage

end Reduction
