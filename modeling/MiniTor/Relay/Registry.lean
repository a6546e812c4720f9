import MiniTor.Relay.Exit
import MiniTor.Relay.Hop

/-!
# The circuit registry (`handler.rs`)

`CircuitHandler` dispatches to the handler of the circuit's role; the registry
maps circuit ids to handlers. Every lookup is by circuit id alone.
-/

namespace MiniTor

variable (P : Primitives) (A : AddrSyntax)

/-- Enum-based circuit handler dispatch. -/
inductive CircuitHandler
  | entry (handler : HopHandler)
  | middle (handler : HopHandler)
  | exit (handler : ExitCircuitHandler)

namespace CircuitHandler

/-- The handler `handle_connection` makes for a CREATE. -/
def new (nodeType : NodeType) (circuitId : CircuitId) (keypair : KeyPair) : CircuitHandler :=
  match nodeType with
  | .entry => .entry (HopHandler.new circuitId keypair)
  | .middle => .middle (HopHandler.new circuitId keypair)
  | .exit => .exit (ExitCircuitHandler.new circuitId keypair)

def handleMessage (env : Env) (prevHopWrite : Option Message.Writer) (h : CircuitHandler)
    (msg : Message) : Outcome CircuitHandler :=
  match h with
  | .entry handler =>
    let o := handler.handleMessageEntry P A env msg
    ⟨.entry o.handler, o.sent, o.result⟩
  | .middle handler =>
    let o := handler.handleMessageMiddle P A env msg
    ⟨.middle o.handler, o.sent, o.result⟩
  | .exit handler =>
    let o := handler.handleMessage P env prevHopWrite msg
    ⟨.exit o.handler, o.sent, o.result⟩

def handleBackwardRelay (h : CircuitHandler) (msg : Message) : Outcome CircuitHandler :=
  match h with
  | .entry handler =>
    let o := handler.handleBackwardRelay P entryRole msg
    ⟨.entry o.handler, o.sent, o.result⟩
  | .middle handler =>
    let o := handler.handleBackwardRelay P (middleRole A) msg
    ⟨.middle o.handler, o.sent, o.result⟩
  | .exit handler => .ok (.exit handler) [] (some msg)

/-- `spawn_nexthop_reader`: the handler without its read half, when there is one to take. -/
def spawnNexthopReader : CircuitHandler → Option CircuitHandler
  | .entry handler => handler.takeRead.map .entry
  | .middle handler => handler.takeRead.map .middle
  | .exit _ => none

end CircuitHandler

/-- Registry of all circuits handled by this relay node. -/
structure CircuitRegistry where
  circuits : AList fun _ : CircuitId => CircuitHandler
  nextCircuitId : CircuitId

namespace CircuitRegistry

def new : CircuitRegistry := { circuits := ∅, nextCircuitId := 1 }

def allocateCircuitId (r : CircuitRegistry) : CircuitRegistry × CircuitId :=
  ({ r with nextCircuitId := r.nextCircuitId + 1 }, r.nextCircuitId)

def addCircuit (r : CircuitRegistry) (circuitId : CircuitId) (handler : CircuitHandler) :
    CircuitRegistry :=
  { r with circuits := r.circuits.insert circuitId handler }

def getCircuit (r : CircuitRegistry) (circuitId : CircuitId) : Option CircuitHandler :=
  r.circuits.lookup circuitId

def circuitCount (r : CircuitRegistry) : Nat := r.circuits.entries.length

/-- Put back what `get_circuit_mut` changed. -/
def setCircuit (r : CircuitRegistry) (circuitId : CircuitId) (handler : CircuitHandler) :
    CircuitRegistry :=
  { r with circuits := r.circuits.modify circuitId fun _ => handler }

def handleMessage (env : Env) (prevHopWrite : Option Message.Writer) (r : CircuitRegistry)
    (msg : Message) : Outcome CircuitRegistry :=
  match r.getCircuit msg.circuitId with
  | some handler =>
    let o := handler.handleMessage P A env prevHopWrite msg
    ⟨r.setCircuit msg.circuitId o.handler, o.sent, o.result⟩
  | none =>
    if msg.command = .create then .ok r [] none
    else .fail r [] (.text ("Circuit " ++ toString msg.circuitId ++ " not found"))

def handleBackwardMessage (r : CircuitRegistry) (msg : Message) : Outcome CircuitRegistry :=
  match r.getCircuit msg.circuitId with
  | some handler =>
    let o := handler.handleBackwardRelay P A msg
    ⟨r.setCircuit msg.circuitId o.handler, o.sent, o.result⟩
  | none =>
    .fail r []
      (.text ("Circuit " ++ toString msg.circuitId ++ " not found for backward message"))

/-! ## Lookups -/

@[simp] theorem getCircuit_addCircuit_self (r : CircuitRegistry) (circuitId : CircuitId)
    (handler : CircuitHandler) :
    (r.addCircuit circuitId handler).getCircuit circuitId = some handler :=
  AList.lookup_insert _

theorem getCircuit_addCircuit_ne {r : CircuitRegistry} {circuitId other : CircuitId}
    {handler : CircuitHandler} (h : other ≠ circuitId) :
    (r.addCircuit circuitId handler).getCircuit other = r.getCircuit other :=
  AList.lookup_insert_ne h

theorem getCircuit_setCircuit_self {r : CircuitRegistry} {circuitId : CircuitId}
    {old handler : CircuitHandler} (h : r.getCircuit circuitId = some old) :
    (r.setCircuit circuitId handler).getCircuit circuitId = some handler := by
  show (r.circuits.modify circuitId fun _ => handler).lookup circuitId = some handler
  rw [AList.lookup_modify_self, show r.circuits.lookup circuitId = some old from h]
  rfl

theorem getCircuit_setCircuit_ne {r : CircuitRegistry} {circuitId other : CircuitId}
    {handler : CircuitHandler} (h : other ≠ circuitId) :
    (r.setCircuit circuitId handler).getCircuit other = r.getCircuit other :=
  AList.lookup_modify_ne h

/-- A message changes no circuit but the one it names. -/
theorem handleMessage_other {env : Env} {prevHopWrite : Option Message.Writer}
    {r : CircuitRegistry} {msg : Message} {other : CircuitId} (h : other ≠ msg.circuitId) :
    (r.handleMessage P A env prevHopWrite msg).handler.getCircuit other = r.getCircuit other := by
  unfold handleMessage
  split
  · exact getCircuit_setCircuit_ne h
  · split <;> rfl

/-- A backward message changes no circuit but the one it names. -/
theorem handleBackwardMessage_other {r : CircuitRegistry} {msg : Message} {other : CircuitId}
    (h : other ≠ msg.circuitId) :
    (r.handleBackwardMessage P A msg).handler.getCircuit other = r.getCircuit other := by
  unfold handleBackwardMessage
  split
  · exact getCircuit_setCircuit_ne h
  · rfl

end CircuitRegistry

end MiniTor
