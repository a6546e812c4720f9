import MiniTor.Client.Pool
import MiniTor.Theory.Run

/-!
# The tasks of the client (`core/circuit.rs`, `core/stream.rs`, `client/socks_proxy.rs`)

The circuit monitor, one reader for each circuit, and one task for each SOCKS
connection, over one `Store`. A step is one critical section:

- of a circuit's mutex, or
- of the pool's mutex. A task that locks circuits one by one while it holds the
  pool's mutex (`select_circuit`, `expire_aged_circuits`, the monitor's two
  searches) keeps it over several steps, in `holder`; circuits change between
  them, the pool does not. A build under the pool's mutex is one step: nobody else
  sees the pool before it is over.

A map is gone through in any order: a step says which entry is looked at next.
-/

namespace MiniTor.Client

open Theory

/-- The task that holds the pool's mutex, and what it still has to look at. -/
inductive PoolTask
  /-- A connection in `select_circuit`. -/
  | selecting (conn : Nat) (todo : List (CircuitId × Arc)) (best : Option (CircuitId × Nat))
  /-- The monitor in `expire_aged_circuits`. -/
  | expiring (todo agedOut : List CircuitId)
  /-- The monitor, looking for idle Dirty circuits. -/
  | sweeping (todo : List (CircuitId × Arc)) (dirtyIds : List CircuitId)
  /-- It saw a Dirty one, and locks it again to count its streams. -/
  | counting (circuitId : CircuitId) (a : Arc) (todo : List (CircuitId × Arc))
      (dirtyIds : List CircuitId)
  /-- The monitor, looking for Closed circuits. -/
  | collecting (todo : List (CircuitId × Arc)) (failedIds : List CircuitId)

/-- Where `spawn_circuit_monitor` is. -/
inductive MonitorPhase
  | sleeping
  /-- It holds the pool's mutex. -/
  | searching
  /-- So many replacements of aged circuits are to be built. -/
  | rebuilding (left : Nat)
  | removing (dirtyIds : List CircuitId)
  | replacing (failedIds : List CircuitId)
  /-- The budget of the first is not exhausted; it is replaced after the backoff. -/
  | waiting (failedId : CircuitId) (failedIds : List CircuitId)

/-- Where `handle_connection` is. -/
inductive ConnectionPhase
  | accepted
  | selecting
  | selected (a : Arc)
  /-- In `handle_stream`; `connected` once its loop was reached. -/
  | streaming (a : Arc) (task : StreamTask) (connected : Bool)
  /-- `handle_stream` returned an error. -/
  | failed (a : Arc)
  /-- It saw its circuit Closed. -/
  | replacing (failedId : CircuitId)
  | done

/-- What the awaits of `handle_stream` return. -/
inductive StreamInput
  | send (writer : Message.Writer)
  | receive
  | receiveUnwritten
  | reply (sent : Bool)
  | giveUp
  | socksRead (data : Bytes)
  | unregister

inductive ClientEvent
  /-- The monitor goes on; `now` and `built` are for the build it may do. -/
  | monitor (now : Nat) (built : Except Error OnionKeys)
  /-- The holder of the pool's mutex looks at one more circuit. -/
  | look (index : Nat)
  /-- It has looked at all and releases the mutex. -/
  | release (now : Nat) (built : Except Error OnionKeys)
  | accept
  | select (conn : Nat)
  /-- `handle_stream` allocates and registers its stream. -/
  | register (conn : Nat) (destination : String)
  | stream (conn : Nat) (input : StreamInput)
  /-- After an error, the circuit's state is looked at. -/
  | checkClosed (conn : Nat)
  | replaceFailed (conn : Nat) (now : Nat) (built : Except Error OnionKeys)
  /-- A reader reads; no message is the end of the stream or a read error. -/
  | read (a : Arc) (input : Option Message)
  /-- The end of a reader task. -/
  | readerEnd (a : Arc)
  | keepalive (a : Arc) (writer : Message.Writer) (data : Bytes)

structure ClientState where
  store : Store
  /-- Who holds the pool's mutex. -/
  holder : Option PoolTask
  monitor : MonitorPhase
  connections : List ConnectionPhase
  /-- Every `replace_circuit` so far, and whether it succeeded. -/
  attempts : List (CircuitId × Bool)
  /-- The circuits the monitor's cleanup removed. -/
  removed : List Arc

namespace StreamTask

/-- `handle_stream` has reached its loop. -/
def relays (t : StreamTask) : Bool :=
  match t.phase with
  | .relaying _ => true
  | _ => false

end StreamTask

namespace ConnectionPhase

/-- `handle_stream` went on to `t`. It returns an error exactly if it ends before its loop. -/
def goOn (a : Arc) (t : StreamTask) (connected : Bool) : ConnectionPhase :=
  let connected := connected || t.relays
  if t.phase = .closed then if connected then .done else .failed a
  else .streaming a t connected

/-- A backward message arrives in the channel of the connection's stream. -/
def deliver (m : Message) : ConnectionPhase → ConnectionPhase
  | .streaming a t connected => .streaming a (t.deliver m) connected
  | phase => phase

end ConnectionPhase

namespace ClientState

variable (P : Primitives) (s : ClientState)

/-- The client after startup. -/
def start (store : Store) : ClientState where
  store := store
  holder := none
  monitor := .sleeping
  connections := []
  attempts := []
  removed := []

def setConnection (conn : Nat) (phase : ConnectionPhase) : ClientState :=
  { s with connections := s.connections.set conn phase }

/-- `replace_circuit`. -/
def replaceCircuit (failedId : CircuitId) (now : Nat) (built : Except Error OnionKeys) :
    ClientState :=
  let (store, result) := s.store.replaceCircuit failedId now built
  { s with store, attempts := s.attempts ++ [(failedId, result.toBool)] }

/-- The monitor goes on. -/
def monitorTurn (now : Nat) (built : Except Error OnionKeys) : ClientState :=
  match s.monitor with
  | .sleeping =>
    { s with holder := some (.expiring (s.store.pool.toExpire now) []), monitor := .searching }
  | .searching => s
  | .rebuilding (left + 1) =>
    { s with store := (s.store.buildCircuit now built).1, monitor := .rebuilding left }
  | .rebuilding 0 =>
    { s with holder := some (.sweeping s.store.pool.iterCircuits []), monitor := .searching }
  | .removing (dirtyId :: dirtyIds) =>
    { s with
      store := s.store.remove dirtyId
      monitor := .removing dirtyIds
      removed := s.removed ++ (s.store.pool.circuits.lookup dirtyId).toList }
  | .removing [] =>
    { s with holder := some (.collecting s.store.pool.iterCircuits []), monitor := .searching }
  | .replacing (failedId :: failedIds) =>
    -- skip slots that already exhausted their rebuild budget
    if s.store.pool.isAbandoned failedId then { s with monitor := .replacing failedIds }
    else { s with monitor := .waiting failedId failedIds }
  | .replacing [] => { s with monitor := .sleeping }
  | .waiting failedId failedIds =>
    { s.replaceCircuit failedId now built with monitor := .replacing failedIds }

/-- The holder of the pool's mutex looks at the circuit at `index` of its list. -/
def lookAt (index : Nat) : PoolTask → ClientState
  | .selecting conn todo best =>
    match todo[index]? with
    | none => s
    | some (circuitId, a) =>
      match s.store.heap[a]? with
      | none => s
      | some live =>
        let best := live.circuit.compete circuitId best
        { s with holder := some (.selecting conn (todo.eraseIdx index) best) }
  | .expiring todo agedOut =>
    match todo[index]? with
    | none => s
    | some circuitId =>
      let (store, expired) := s.store.expireOne circuitId
      let agedOut := if expired then agedOut ++ [circuitId] else agedOut
      { s with store, holder := some (.expiring (todo.eraseIdx index) agedOut) }
  | .sweeping todo dirtyIds =>
    match todo[index]? with
    | none => s
    | some (circuitId, a) =>
      match s.store.heap[a]? with
      | none => s
      | some live =>
        if live.circuit.state = .dirty then
          { s with holder := some (.counting circuitId a (todo.eraseIdx index) dirtyIds) }
        else { s with holder := some (.sweeping (todo.eraseIdx index) dirtyIds) }
  | .counting circuitId a todo dirtyIds =>
    match s.store.heap[a]? with
    | none => s
    | some live =>
      let dirtyIds :=
        if live.circuit.activeStreamCount = 0 then dirtyIds ++ [circuitId] else dirtyIds
      { s with holder := some (.sweeping todo dirtyIds) }
  | .collecting todo failedIds =>
    match todo[index]? with
    | none => s
    | some (circuitId, a) =>
      match s.store.heap[a]? with
      | none => s
      | some live =>
        let failedIds :=
          if live.circuit.state = .closed then failedIds ++ [circuitId] else failedIds
        { s with holder := some (.collecting (todo.eraseIdx index) failedIds) }

/-- `select_circuit` after its loop: the best circuit, or a new one. -/
def selected (conn : Nat) (best : Option (CircuitId × Nat)) (now : Nat)
    (built : Except Error OnionKeys) : ClientState :=
  let s := { s with holder := none }
  match best with
  | some (circuitId, _) =>
    match s.store.pool.circuits.lookup circuitId with
    | some a => s.setConnection conn (.selected a)
    | none => s.setConnection conn .done
  | none =>
    match s.store.buildCircuit now built with
    | (store, .ok a) => { s with store }.setConnection conn (.selected a)
    | (store, .error _) => { s with store }.setConnection conn .done

/-- The holder of the pool's mutex has looked at all its circuits and releases it. -/
def released (now : Nat) (built : Except Error OnionKeys) : PoolTask → ClientState
  | .selecting conn [] best => s.selected conn best now built
  | .expiring [] agedOut => { s with holder := none, monitor := .rebuilding agedOut.length }
  | .sweeping [] dirtyIds => { s with holder := none, monitor := .removing dirtyIds }
  | .collecting [] failedIds => { s with holder := none, monitor := .replacing failedIds }
  | _ => s

/-- A stream is allocated and registered on the circuit that was selected. -/
def register (conn : Nat) (a : Arc) (destination : String) : ClientState :=
  match s.store.heap[a]? with
  | none => s
  | some live =>
    let (live', streamId) := live.register conn
    let t := StreamTask.new streamId destination live.accepted
    { s with store := s.store.update a fun _ => live' }.setConnection conn (.streaming a t false)

/-- `handle_stream` went on to `t`; when it ends it drops its receiver. -/
def goOn (conn : Nat) (a : Arc) (t : StreamTask) (connected : Bool) : ClientState :=
  let f := fun live : LiveCircuit =>
    if t.phase = .closed then live.dropReceiver conn t.streamId else live
  { s with store := s.store.update a f }.setConnection conn (.goOn a t connected)

/-- An await of `handle_stream` returns. -/
def streamStep (conn : Nat) (a : Arc) (t : StreamTask) (connected : Bool) :
    StreamInput → ClientState
  | .send writer =>
    match s.store.heap[a]?, t.nextSend with
    | some live, some (command, data) =>
      let (live, sent) := live.send P writer t.streamId command data
      { s with store := s.store.update a fun _ => live }.goOn conn a (t.afterSend sent) connected
    | _, _ => s
  | .receive =>
    match s.store.heap[a]? with
    | none => s
    | some live =>
      let registered :=
        (live.circuit.streamSenders.lookup t.streamId).any fun sender => sender.channel = conn
      s.goOn conn a (t.receive registered) connected
  | .receiveUnwritten => s.goOn conn a t.receiveUnwritten connected
  | .reply sent => s.goOn conn a (t.reply sent) connected
  | .giveUp => s.goOn conn a t.giveUp connected
  | .socksRead data => s.goOn conn a (t.socksRead data) connected
  | .unregister =>
    if t.phase = .unregistering then
      { s with store := s.store.update a fun live => live.unregister t.streamId }.setConnection
        conn (.goOn a { t with phase := .closed } connected)
    else s

/-- A turn of a circuit's reader. -/
def read (a : Arc) (input : Option Message) : ClientState :=
  match s.store.heap[a]? with
  | none => s
  | some live =>
    if live.reader = .reading then
      let (live', delivered) := live.read P input
      let connections :=
        match delivered with
        | some (conn, m) => s.connections.modify conn (ConnectionPhase.deliver m)
        | none => s.connections
      { s with store := s.store.update a fun _ => live', connections }
    else s

/-- The end of a reader task. -/
def readerEnd (a : Arc) : ClientState :=
  match s.store.heap[a]? with
  | none => s
  | some live =>
    if live.reader = .leaving then { s with store := s.store.update a LiveCircuit.readerEnd }
    else s

def step (s : ClientState) : ClientEvent → ClientState
  | .monitor now built => if s.holder.isSome then s else s.monitorTurn now built
  | .look index =>
    match s.holder with
    | some task => s.lookAt index task
    | none => s
  | .release now built =>
    match s.holder with
    | some task => s.released now built task
    | none => s
  | .accept => { s with connections := s.connections ++ [.accepted] }
  | .select conn =>
    match s.holder, s.connections[conn]? with
    | none, some .accepted =>
      { s with holder := some (.selecting conn s.store.pool.iterCircuits none) }.setConnection conn
        .selecting
    | _, _ => s
  | .register conn destination =>
    match s.connections[conn]? with
    | some (.selected a) => s.register conn a destination
    | _ => s
  | .stream conn input =>
    match s.connections[conn]? with
    | some (.streaming a t connected) => s.streamStep P conn a t connected input
    | _ => s
  | .checkClosed conn =>
    match s.connections[conn]? with
    | some (.failed a) =>
      match s.store.heap[a]? with
      | none => s
      | some live =>
        s.setConnection conn
          (if live.circuit.state = .closed then .replacing live.circuit.circuitId else .done)
    | _ => s
  | .replaceFailed conn now built =>
    match s.holder, s.connections[conn]? with
    | none, some (.replacing failedId) =>
      (s.replaceCircuit failedId now built).setConnection conn .done
    | _, _ => s
  | .read a input => s.read P a input
  | .readerEnd a => s.readerEnd a
  | .keepalive a writer data =>
    { s with store := s.store.update a fun live => live.keepalive writer data }

end ClientState

end MiniTor.Client
