import Reduction.Native.Backend
import Reduction.Native.Revocation

/-!
# Hot reload by file events

Model of `src/fs_watch.rs` and of two of its users: the denylist, which
`RevocationWatcher` (`src/tunnel/revocation_reload.rs`) and `apply_config_reload`
(`src/config_reload.rs`) read again and publish, and the certificates, which
`CertWatcher` (`src/tls/reload.rs`) reloads.

An event that concerns a watched file takes the next generation and starts a
thread.  The thread sleeps for the debounce period and then acts, unless a later
event has taken another generation meanwhile.
-/

namespace Reduction

/-! ## The watcher -/

/-- `notify::EventKind`. -/
inductive EventKind where
  | any
  | access
  | create
  | modify
  | remove
  | other
deriving DecidableEq

/-- `notify::Event`. -/
structure FsEvent where
  kind : EventKind
  paths : List PathBuf
deriving DecidableEq

/-- What the callback of `spawn_trailing_edge_watcher` keeps. -/
structure TrailingEdgeWatcher where
  triggerSet : List PathBuf
  generation : UInt64

namespace TrailingEdgeWatcher

def new (triggerSet : List PathBuf) : TrailingEdgeWatcher := { triggerSet, generation := 0 }

/-- The event starts a thread. -/
def accepts (w : TrailingEdgeWatcher) (event : FsEvent) : Bool :=
  (event.kind = .modify || event.kind = .create) &&
    event.paths.any fun p => w.triggerSet.contains p

/-- An accepted event takes the next generation; `fetch_add` wraps. -/
def next (w : TrailingEdgeWatcher) : TrailingEdgeWatcher :=
  { w with generation := w.generation + 1 }

/-- What a thread asks when it has slept. -/
def isNewest (w : TrailingEdgeWatcher) (myGeneration : UInt64) : Bool :=
  w.generation = myGeneration

end TrailingEdgeWatcher

/-! ## The denylist -/

/-- A set that was read from the revocation file.  Which version of the file it is from, and how
    many sets had been published by then, the code does not know. -/
structure ReadSet where
  set : RevocationSet
  version : Nat
  seen : Nat

/-- A thread of `RevocationWatcher`. -/
inductive RevocationThread where
  | sleeping (myGeneration : UInt64)
  /-- Has found itself newest. -/
  | reading
  | sending (read : ReadSet)
  | done

/-- The revocation file and those who publish it. -/
structure Denylist where
  watcher : TrailingEdgeWatcher
  /-- How often the file has been written. -/
  version : Nat
  /-- What `load_revocation_file` makes of the file. -/
  contents : Except ReductionError RevocationSet
  threads : List RevocationThread
  /-- What `apply_config_reload` has read and not sent yet. -/
  reloading : Option ReadSet
  /-- The value of the watch channel. -/
  channel : RevocationSet
  /-- The versions of the sets that were published, the last one first. -/
  published : List Nat

inductive DenylistAction where
  | write (contents : Except ReductionError RevocationSet)
  | event (event : FsEvent)
  /-- The three steps of a thread that has slept. -/
  | check (thread : Nat)
  | read (thread : Nat)
  | publish (thread : Nat)
  /-- The two steps of a config reload. -/
  | reloadRead
  | reloadPublish

namespace Denylist

/-- The process has started with the set that `load_initial` has read. -/
def start (path : PathBuf) (set : RevocationSet) : Denylist :=
  { watcher := .new [path]
    version := 0
    contents := .ok set
    threads := []
    reloading := none
    channel := set
    published := [0] }

/-- `load_revocation_file`. -/
def load (d : Denylist) : Except ReductionError ReadSet :=
  match d.contents with
  | .ok set => .ok { set, version := d.version, seen := d.published.length }
  | .error e => .error e

/-- `tx.send`. -/
def send (d : Denylist) (read : ReadSet) : Denylist :=
  { d with channel := read.set, published := read.version :: d.published }

def step (d : Denylist) : DenylistAction → Denylist
  | .write contents => { d with version := d.version + 1, contents }
  | .event event =>
    if d.watcher.accepts event then
      { d with
        watcher := d.watcher.next
        threads := d.threads ++ [.sleeping d.watcher.next.generation] }
    else d
  | .check i =>
    match d.threads[i]? with
    | some (.sleeping myGeneration) =>
      { d with
        threads := d.threads.set i (if d.watcher.isNewest myGeneration then .reading else .done) }
    | _ => d
  | .read i =>
    match d.threads[i]? with
    | some .reading =>
      -- a file that cannot be read or parsed leaves the previous set
      match d.load with
      | .ok read => { d with threads := d.threads.set i (.sending read) }
      | .error _ => { d with threads := d.threads.set i .done }
    | _ => d
  | .publish i =>
    match d.threads[i]? with
    | some (.sending read) => { d.send read with threads := d.threads.set i .done }
    | _ => d
  | .reloadRead =>
    match d.reloading, d.load with
    | none, .ok read => { d with reloading := some read }
    | _, _ => d
  | .reloadPublish =>
    match d.reloading with
    | some read => { d.send read with reloading := none }
    | none => d

end Denylist

/-! ## Certificates -/

/-- The two files of a `ReloadingCertResolver`. -/
structure CertPaths where
  certPath : PathBuf
  keyPath : PathBuf

/-- An event names one of the two files. -/
def CertPaths.namedBy (paths : CertPaths) (event : FsEvent) : Bool :=
  event.paths.any fun p => p = paths.certPath || p = paths.keyPath

inductive CertSide where
  | server
  | client
deriving DecidableEq

/-- What `with_optional_client` watches. -/
structure CertWatcher where
  server : CertPaths
  client : Option CertPaths

namespace CertWatcher

/-- `CERT_RELOAD_DEBOUNCE_MS`. -/
def debounce : Duration := Duration.fromMillis 300

def triggerPaths (w : CertWatcher) : List PathBuf :=
  [w.server.certPath, w.server.keyPath] ++
    match w.client with
    | some client => [client.certPath, client.keyPath]
    | none => []

/-- `affected_server` and `affected_client`. -/
def affected (w : CertWatcher) (event : FsEvent) : CertSide → Bool
  | .server => w.server.namedBy event
  | .client => w.client.any fun client => client.namedBy event

/-- The sides that the closure of the watcher reloads. -/
def reloads (w : CertWatcher) (event : FsEvent) : List CertSide :=
  [CertSide.server, CertSide.client].filter (w.affected event)

end CertWatcher

/-- A thread that sleeps. -/
structure CertWorker where
  wakeAt : Instant
  myGeneration : UInt64
  event : FsEvent

/-- A `CertWatcher` with its threads. -/
structure CertReload where
  paths : CertWatcher
  watcher : TrailingEdgeWatcher
  now : Instant
  workers : List CertWorker

namespace CertReload

def start (paths : CertWatcher) (now : Instant) : CertReload :=
  { paths, watcher := .new paths.triggerPaths, now, workers := [] }

/-- The callback of the watcher. -/
def onEvent (r : CertReload) (now : Instant) (event : FsEvent) : CertReload :=
  if r.watcher.accepts event then
    { r with
      watcher := r.watcher.next
      now
      workers := r.workers ++
        [{ wakeAt := now + CertWatcher.debounce
           myGeneration := r.watcher.next.generation
           event }] }
  else { r with now }

/-- A thread wakes, and the sides that it reloads. -/
def onWake (r : CertReload) (i : Nat) : CertReload × List CertSide :=
  match r.workers[i]? with
  | some worker =>
    ({ r with now := worker.wakeAt, workers := r.workers.eraseIdx i },
      if r.watcher.isNewest worker.myGeneration then r.paths.reloads worker.event else [])
  | none => (r, [])

end CertReload

end Reduction
