import Mathlib
import MiniTor.Client.Builder
import MiniTor.Client.Stream

/-!
# The pool of circuits (`tor-client/src/core/circuit.rs`)

`CircuitPool` and what is done to it under its mutex. A circuit is shared: the pool,
its reader task and the tasks of its streams hold an `Arc` to it. `Store` is the
pool together with every circuit ever built, and an `Arc` is a place in that list;
a circuit taken out of the pool is still there for whoever holds it.

How a build ends is decided by the directory and the network, so `build_circuit`
takes its outcome, the keys of the new circuit or an error, as a parameter
(`build_eq_new`). Instants are counted in nanoseconds.
-/

namespace MiniTor.Client

/-- The circuit `CircuitBuilder::build` returns. -/
def Circuit.new (circuitId : CircuitId) (onionKeys : OnionKeys) : Circuit where
  circuitId := circuitId
  state := .ready
  onionKeys := onionKeys
  streamSenders := ∅
  nextStreamId := 1

/-! ## The reader's critical sections -/

section Reader

variable (P : Primitives)

/-- One turn of the reader's loop: what it does to the circuit while it holds its mutex. Only
a DESTROY clears the streams here; the other ends leave that to the end of the task. -/
def Circuit.readerTurn (c : Circuit) (input : Option Message) : ReaderOutcome :=
  match input with
  | none => ⟨{ c with state := .closed }, none, none, false⟩
  | some msg =>
    if msg.command = .destroy then
      ⟨{ c with state := .closed, streamSenders := ∅ }, none, none, false⟩
    else
      let (onionKeys, decrypted) := c.onionKeys.onionDecrypt P msg.data
      let (backwardDigest, verified) := onionKeys.backwardDigest.verify P msg.streamId
        msg.command.toU8 decrypted msg.digest
      let c := { c with onionKeys := { onionKeys with backwardDigest } }
      if !verified then ⟨{ c with state := .closed }, none, none, false⟩
      else
        let decryptedMsg := Message.new msg.circuitId msg.streamId msg.command decrypted
        match c.streamSenders.lookup msg.streamId with
        | some sender =>
          let delivered := if sender.receiverAlive then some (sender.channel, decryptedMsg) else none
          ⟨c, some decryptedMsg, delivered, true⟩
        | none => ⟨c, some decryptedMsg, none, true⟩

variable {P}

/-- With nothing in between, the loop's turn and the end of the task are `readerStep`. -/
theorem Circuit.readerStep_eq (c : Circuit) (input : Option Message) :
    c.readerStep P input =
      if (c.readerTurn P input).reading then c.readerTurn P input
      else { c.readerTurn P input with circuit := (c.readerTurn P input).circuit.readerEnd } := by
  cases input with
  | none => rfl
  | some msg =>
    by_cases hdestroy : msg.command = .destroy
    · simp only [readerStep, readerTurn, if_pos hdestroy]
      rfl
    · simp only [readerStep, readerTurn, if_neg hdestroy]
      cases (RunningDigest.verify P (c.onionKeys.onionDecrypt P msg.data).1.backwardDigest
        msg.streamId msg.command.toU8 (c.onionKeys.onionDecrypt P msg.data).2 msg.digest).2 with
      | false => rfl
      | true =>
        cases c.streamSenders.lookup msg.streamId with
        | none => rfl
        | some sender => rfl

/-- What one turn does to circuit and streams: nothing, if the reader goes on; Closed, and
streams lost only to a DESTROY, if it stops. -/
theorem Circuit.readerTurn_cases (c : Circuit) (input : Option Message) :
    ((c.readerTurn P input).reading = true ∧
        (c.readerTurn P input).circuit.state = c.state ∧
        (c.readerTurn P input).circuit.streamSenders = c.streamSenders) ∨
      ((c.readerTurn P input).reading = false ∧
        (c.readerTurn P input).circuit.state = .closed ∧
        ((c.readerTurn P input).circuit.streamSenders = c.streamSenders ∨
          (c.readerTurn P input).circuit.streamSenders = ∅)) := by
  cases input with
  | none => exact .inr ⟨rfl, rfl, .inl rfl⟩
  | some msg =>
    unfold readerTurn
    dsimp only
    by_cases hdestroy : msg.command = .destroy
    · rw [if_pos hdestroy]
      exact .inr ⟨rfl, rfl, .inr rfl⟩
    · rw [if_neg hdestroy]
      split
      · exact .inr ⟨rfl, rfl, .inl rfl⟩
      · split
        · exact .inl ⟨rfl, rfl, rfl⟩
        · exact .inl ⟨rfl, rfl, rfl⟩

/-- The reader does not touch the circuit's id. -/
theorem Circuit.circuitId_readerTurn (c : Circuit) (input : Option Message) :
    (c.readerTurn P input).circuit.circuitId = c.circuitId := by
  cases input with
  | none => rfl
  | some msg =>
    unfold readerTurn
    dsimp only
    split
    · rfl
    · split
      · rfl
      · split <;> rfl

end Reader

/-! ## A circuit with its reader -/

/-- Where a reader task is. One that has not been spawned yet has not read yet. -/
inductive ReaderPhase
  /-- In its loop. -/
  | reading
  /-- Out of its loop; its last critical section is to come. -/
  | leaving
  | ended
  deriving DecidableEq

/-- A circuit with its reader and its connection to the entry. -/
structure LiveCircuit where
  circuit : Circuit
  reader : ReaderPhase
  /-- The commands of the cells written to the entry since the circuit was built. -/
  sent : List MessageCommand
  /-- How many backward cells were accepted. -/
  accepted : Nat

namespace LiveCircuit

variable (P : Primitives) (live : LiveCircuit)

def new (circuitId : CircuitId) (onionKeys : OnionKeys) : LiveCircuit :=
  { circuit := Circuit.new circuitId onionKeys, reader := .reading, sent := [], accepted := 0 }

/-- An aged circuit takes no new streams. -/
def expire : LiveCircuit := { live with circuit := { live.circuit with state := .dirty } }

/-- `handle_stream` allocates and registers the stream of a connection. -/
def register (conn : Nat) : LiveCircuit × StreamId :=
  let (c, streamId) := live.circuit.allocateStreamId
  let c := c.registerStream streamId { channel := conn, receiverAlive := true }
  ({ live with circuit := c }, streamId)

def unregister (streamId : StreamId) : LiveCircuit :=
  { live with circuit := live.circuit.unregisterStream streamId }

/-- The receiver of a connection's channel is dropped. -/
def dropReceiver (conn : Nat) (streamId : StreamId) : LiveCircuit :=
  let senders := live.circuit.streamSenders.modify streamId fun sender =>
    if sender.channel = conn then { sender with receiverAlive := false } else sender
  { live with circuit := { live.circuit with streamSenders := senders } }

/-- `Circuit::send_message`; whether it succeeded. -/
def send (writer : Message.Writer) (streamId : StreamId) (command : MessageCommand)
    (data : Bytes) : LiveCircuit × Bool :=
  match live.circuit.sendMessage P writer streamId command data with
  | (circuit, .ok _) => ({ live with circuit, sent := live.sent ++ [command] }, true)
  | (circuit, .error _) => ({ live with circuit }, false)

/-- A turn of the reader, and what it puts into a channel. -/
def read (input : Option Message) : LiveCircuit × Option (Nat × Message) :=
  let outcome := live.circuit.readerTurn P input
  ({ live with
      circuit := outcome.circuit
      reader := if outcome.reading then .reading else .leaving
      accepted := live.accepted + outcome.accepted.toList.length }, outcome.delivered)

/-- The end of the reader task. -/
def readerEnd : LiveCircuit := { live with circuit := live.circuit.readerEnd, reader := .ended }

/-- `spawn_circuit_keepalive` sends PADDING on a ready circuit. -/
def keepalive (writer : Message.Writer) (data : Bytes) : LiveCircuit :=
  if live.circuit.state = .ready then
    match live.circuit.sendPadding writer data with
    | .ok _ => { live with sent := live.sent ++ [.padding] }
    | .error _ => live
  else live

end LiveCircuit

/-! ## The pool -/

/-- A shared circuit. -/
abbrev Arc := Nat

/-- Pool of pre-built circuits for handling SOCKS5 connections. -/
structure CircuitPool where
  circuits : AList fun _ : CircuitId => Arc
  nextCircuitId : CircuitId
  poolSize : Nat
  maxRebuildAttempts : Nat
  rebuildFailureCounts : AList fun _ : CircuitId => Nat
  abandonedSlots : Finset CircuitId
  circuitAges : AList fun _ : CircuitId => Nat
  /-- Circuits older than this are rotated out even if healthy. -/
  maxCircuitAge : Nat

namespace CircuitPool

def new (poolSize maxRebuildAttempts : Nat) : CircuitPool where
  circuits := ∅
  nextCircuitId := 1
  poolSize := poolSize
  maxRebuildAttempts := maxRebuildAttempts
  rebuildFailureCounts := ∅
  abandonedSlots := ∅
  circuitAges := ∅
  maxCircuitAge := 600 * 1000000000

def setMaxCircuitAge (p : CircuitPool) (age : Nat) : CircuitPool := { p with maxCircuitAge := age }

def isAbandoned (p : CircuitPool) (circuitId : CircuitId) : Bool :=
  decide (circuitId ∈ p.abandonedSlots)

def allocateCircuitId (p : CircuitPool) : CircuitPool × CircuitId :=
  ({ p with nextCircuitId := p.nextCircuitId + 1 }, p.nextCircuitId)

/-- The ids `expire_aged_circuits` looks at. -/
def toExpire (p : CircuitPool) (now : Nat) : List CircuitId :=
  (p.circuitAges.entries.filter fun e => decide (p.maxCircuitAge ≤ now - e.2)).map Sigma.fst

/-- `iter_circuits`. -/
def iterCircuits (p : CircuitPool) : List (CircuitId × Arc) :=
  p.circuits.entries.map fun e => (e.1, e.2)

end CircuitPool

/-- One more circuit of `select_circuit`'s loop: the least-loaded ready one so far. -/
def Circuit.compete (c : Circuit) (circuitId : CircuitId) (best : Option (CircuitId × Nat)) :
    Option (CircuitId × Nat) :=
  if c.state = .ready then
    match best with
    | some (_, bestCount) =>
      if c.activeStreamCount < bestCount then some (circuitId, c.activeStreamCount) else best
    | none => some (circuitId, c.activeStreamCount)
  else best

/-- The pool, and every circuit ever built. -/
structure Store where
  pool : CircuitPool
  heap : List LiveCircuit

namespace Store

def new (poolSize maxRebuildAttempts : Nat) : Store :=
  { pool := .new poolSize maxRebuildAttempts, heap := [] }

/-- Lock a circuit and change it. -/
def update (s : Store) (a : Arc) (f : LiveCircuit → LiveCircuit) : Store :=
  { s with heap := s.heap.modify a f }

/-- `circuits.remove`. -/
def remove (s : Store) (circuitId : CircuitId) : Store :=
  { s with pool := { s.pool with circuits := s.pool.circuits.erase circuitId } }

def buildCircuit (s : Store) (now : Nat) (built : Except Error OnionKeys) :
    Store × Except Error Arc :=
  let (pool, circuitId) := s.pool.allocateCircuitId
  match built with
  | .error e => ({ s with pool }, .error e)
  | .ok onionKeys =>
    let a := s.heap.length
    ({ pool :=
        { pool with
          circuits := pool.circuits.insert circuitId a
          circuitAges := pool.circuitAges.insert circuitId now }
       heap := s.heap ++ [LiveCircuit.new circuitId onionKeys] }, .ok a)

/-- Replace a failed circuit and replenish the pool. -/
def replaceCircuit (s : Store) (failedId : CircuitId) (now : Nat)
    (built : Except Error OnionKeys) : Store × Except Error Arc :=
  match (s.remove failedId).buildCircuit now built with
  | (s, .ok a) =>
    -- success clears any previous failure streak of this slot
    let counts := s.pool.rebuildFailureCounts.erase failedId
    ({ s with pool := { s.pool with rebuildFailureCounts := counts } }, .ok a)
  | (s, .error e) =>
    let count := (s.pool.rebuildFailureCounts.lookup failedId).getD 0 + 1
    let counts := s.pool.rebuildFailureCounts.insert failedId count
    let abandoned :=
      if s.pool.maxRebuildAttempts ≤ count then insert failedId s.pool.abandonedSlots
      else s.pool.abandonedSlots
    ({ s with pool :=
        { s.pool with rebuildFailureCounts := counts, abandonedSlots := abandoned } }, .error e)

/-- One id of `expire_aged_circuits`'s loop; whether its circuit was aged out. -/
def expireOne (s : Store) (circuitId : CircuitId) : Store × Bool :=
  match s.pool.circuits.lookup circuitId with
  | none => (s, false)
  | some a =>
    match s.heap[a]? with
    | none => (s, false)
    | some live =>
      if live.circuit.state = .ready then
        let pool := { s.pool with circuitAges := s.pool.circuitAges.erase circuitId }
        (Store.update { s with pool } a LiveCircuit.expire, true)
      else (s, false)

/-- The loop of `initialize` from circuit `i` on. -/
def initializeFrom (builds : Nat → Nat × Except Error OnionKeys) : Nat → Nat → Store →
    Except Error Store
  | _, 0, s => .ok s
  | i, n + 1, s =>
    match s.buildCircuit (builds i).1 (builds i).2 with
    | (s, .ok _) => initializeFrom builds (i + 1) n s
    | (_, .error e) => .error (.context "Failed to initialize circuit pool" e)

/-- Pre-build circuits to fill the pool at startup; `builds` says when each is built and how
that ends. -/
def initializePool (s : Store) (builds : Nat → Nat × Except Error OnionKeys) : Except Error Store :=
  initializeFrom builds 0 s.pool.poolSize s

end Store

/-! ## A build -/

/-- **What `CircuitBuilder::build` returns is a new circuit**, ready and without streams. -/
theorem build_eq_new {P : Primitives} {A : AddrSyntax} {σ : Type} {T : Transport σ}
    {circuitId : CircuitId} {path : List NodeDescriptor} {ephemerals : Nat → ByteArr 32}
    {c : Circuit} {stream : σ} (h : build P A T circuitId path ephemerals = .ok (c, stream)) :
    c = Circuit.new circuitId c.onionKeys := by
  unfold build at h
  obtain ⟨-, -, h⟩ := Theory.bind_eq_ok.mp h
  obtain ⟨entry, -, h⟩ := Theory.bind_eq_ok.mp h
  dsimp only at h
  cases hconnect : T.connect entry.address entry.tlsCertFingerprint with
  | error e =>
    rw [hconnect] at h
    cases h
  | ok stream₀ =>
    rw [hconnect] at h
    dsimp only at h
    rw [Theory.ok_bind] at h
    obtain ⟨⟨stream₁, entryKey⟩, -, h⟩ := Theory.bind_eq_ok.mp h
    obtain ⟨⟨stream₂, sessionKeys, ciphers⟩, -, h⟩ := Theory.bind_eq_ok.mp h
    cases h
    rfl

end MiniTor.Client
