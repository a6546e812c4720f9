import MiniTor.Relay.Books
import MiniTor.Relay.Connection
import MiniTor.Theory.Run

/-!
# Circuits of different connections

A relay serves many connections over one registry, keyed by circuit id. The
system `SharedRelay` is the relay together with who created each circuit; its
events are the cells read from the accepted connections, interleaved in any way
with the next-hop readers and the exit's stream tasks.

- `Isolated` is the property wanted of a step: a cell read from one connection
  leaves every circuit created from another one unchanged.
- It fails as soon as two connections use one circuit id
  (`create_replaces_other`), as the clients' own numbering makes them do.
- `every_step_isolated`: it holds in every run whose cells name circuits of their
  own connection, or none, or are of a command the role ignores.
-/

namespace MiniTor

open Theory

/-- A relay, which connection created each circuit, and which connections have been closed. -/
structure SharedRelay where
  relay : Relay
  owner : CircuitId → Option ConnId
  closed : ConnId → Bool

/-- What can happen next at a relay. -/
inductive RelayEvent
  /-- The loop of a connection reads a cell. -/
  | cell (conn : ConnId) (env : Env) (msg : Message)
  /-- The reader of a circuit reads a cell from the next hop, or the end of the stream. -/
  | backward (env : Env) (circuitId : CircuitId) (input : Option Message)
  /-- A stream task of an exit circuit sends a cell back. -/
  | streamCell (writer : Message.Writer) (circuitId : CircuitId) (streamId : StreamId)
    (command : MessageCommand) (data : Bytes)
  /-- A stream task of an exit circuit ends. -/
  | streamEnded (circuitId : CircuitId) (streamId : StreamId)

/-- Apply a change of an exit handler to a circuit, if it is one. -/
def CircuitHandler.mapExit (f : ExitCircuitHandler → ExitCircuitHandler) :
    CircuitHandler → CircuitHandler
  | exit h => exit (f h)
  | h => h

namespace SharedRelay

variable (P : Primitives) (A : AddrSyntax)

def new (nodeType : NodeType) (keypair : KeyPair) : SharedRelay :=
  { relay := Relay.new nodeType keypair, owner := fun _ => none, closed := fun _ => false }

/-- Change the exit handler of a circuit. -/
def updateExit (s : SharedRelay) (circuitId : CircuitId)
    (f : ExitCircuitHandler → ExitCircuitHandler) : SharedRelay :=
  { s with
    relay := { s.relay with
      registry := { s.relay.registry with
        circuits := s.relay.registry.circuits.modify circuitId (CircuitHandler.mapExit f) } } }

def step (s : SharedRelay) : RelayEvent → SharedRelay
  | .cell conn env msg =>
    if s.closed conn then s
    else
      let served := s.relay.onMessage P A env msg
      { relay := served.relay
        owner :=
          if msg.command = .create ∧ served.serving then Function.update s.owner msg.circuitId conn
          else s.owner
        closed :=
          if served.serving then s.closed else Function.update s.closed conn true }
  | .backward env circuitId input =>
    { s with relay := (s.relay.readerStep P A env circuitId input).relay }
  | .streamCell writer circuitId streamId command data =>
    s.updateExit circuitId fun h => (h.sealStream P writer streamId command data).handler
  | .streamEnded circuitId streamId => s.updateExit circuitId fun h => h.streamEnded streamId

/-- A step leaves the circuits of the other connections unchanged. -/
def Isolated (s : SharedRelay) : RelayEvent → Prop
  | .cell conn env msg =>
    ∀ circuitId other, s.owner circuitId = some other → other ≠ conn →
      (s.step P A (.cell conn env msg)).relay.registry.getCircuit circuitId =
        s.relay.registry.getCircuit circuitId
  | _ => True

end SharedRelay

/-- The commands a role's handlers take no notice of, or refuse. -/
def MessageCommand.ignoredBy (nodeType : NodeType) : MessageCommand → Bool
  | padding | created => true
  | extended => nodeType == .entry || nodeType == .exit
  | extend | connected => nodeType == .exit
  | _ => false

/-- The cell names no circuit of another connection, or its command is ignored. -/
def SharedRelay.Separated (s : SharedRelay) : RelayEvent → Prop
  | .cell conn _ msg =>
    (∀ other, s.owner msg.circuitId = some other → other = conn) ∨
      msg.command.ignoredBy s.relay.nodeType = true
  | _ => True

/-! ## Roles -/

/-- The role of a handler. -/
def CircuitHandler.role : CircuitHandler → NodeType
  | entry _ => .entry
  | middle _ => .middle
  | exit _ => .exit

variable {P : Primitives} {A : AddrSyntax}

namespace CircuitHandler

@[simp] theorem role_new (nodeType : NodeType) (circuitId : CircuitId) (keypair : KeyPair) :
    (CircuitHandler.new nodeType circuitId keypair).role = nodeType := by
  cases nodeType <;> rfl

@[simp] theorem role_handleMessage (h : CircuitHandler) (env : Env)
    (prev : Option Message.Writer) (msg : Message) :
    (h.handleMessage P A env prev msg).handler.role = h.role := by
  cases h <;> rfl

@[simp] theorem role_handleBackwardRelay (h : CircuitHandler) (msg : Message) :
    (h.handleBackwardRelay P A msg).handler.role = h.role := by
  cases h <;> rfl

@[simp] theorem role_mapExit (f : ExitCircuitHandler → ExitCircuitHandler) (h : CircuitHandler) :
    (h.mapExit f).role = h.role := by
  cases h <;> rfl

theorem role_spawnNexthopReader {h h' : CircuitHandler} (hs : h.spawnNexthopReader = some h') :
    h'.role = h.role := by
  cases h with
  | entry e =>
    obtain ⟨_, -, rfl⟩ := Option.map_eq_some_iff.mp hs
    rfl
  | middle m =>
    obtain ⟨_, -, rfl⟩ := Option.map_eq_some_iff.mp hs
    rfl
  | exit _ => cases hs

/-- An ignored command leaves the handler as it is; all but PADDING are refused. -/
theorem handleMessage_ignored {h : CircuitHandler} {env : Env} {prev : Option Message.Writer}
    {msg : Message} (hignored : msg.command.ignoredBy h.role = true) :
    (h.handleMessage P A env prev msg).handler = h ∧
      (msg.command = .padding ∨ ∃ e, (h.handleMessage P A env prev msg).result = .error e) := by
  cases h with
  | entry e =>
    have hsame : (e.handleMessageEntry P A env msg).handler = e ∧
        (msg.command = .padding ∨ ∃ x, (e.handleMessageEntry P A env msg).result = .error x) := by
      unfold HopHandler.handleMessageEntry
      cases hc : msg.command <;> rw [hc] at hignored <;>
        first | exact ⟨rfl, .inl rfl⟩ | exact ⟨rfl, .inr ⟨_, rfl⟩⟩ | cases hignored
    exact ⟨congrArg entry hsame.1, hsame.2⟩
  | middle m =>
    have hsame : (m.handleMessageMiddle P A env msg).handler = m ∧
        (msg.command = .padding ∨ ∃ x, (m.handleMessageMiddle P A env msg).result = .error x) := by
      unfold HopHandler.handleMessageMiddle
      cases hc : msg.command <;> rw [hc] at hignored <;>
        first | exact ⟨rfl, .inl rfl⟩ | exact ⟨rfl, .inr ⟨_, rfl⟩⟩ | cases hignored
    exact ⟨congrArg middle hsame.1, hsame.2⟩
  | exit e =>
    have hsame : (e.handleMessage P env prev msg).handler = e ∧
        (msg.command = .padding ∨ ∃ x, (e.handleMessage P env prev msg).result = .error x) := by
      unfold ExitCircuitHandler.handleMessage
      cases hc : msg.command <;> rw [hc] at hignored <;>
        first | exact ⟨rfl, .inl rfl⟩ | exact ⟨rfl, .inr ⟨_, rfl⟩⟩ | cases hignored
    exact ⟨congrArg exit hsame.1, hsame.2⟩

end CircuitHandler

/-- Every circuit's handler has the role. -/
def CircuitRegistry.Uniform (r : CircuitRegistry) (nodeType : NodeType) : Prop :=
  ∀ circuitId handler, r.getCircuit circuitId = some handler → handler.role = nodeType

namespace CircuitRegistry

variable {r : CircuitRegistry} {nodeType : NodeType}

theorem Uniform.addCircuit (h : r.Uniform nodeType) (circuitId : CircuitId)
    {handler : CircuitHandler} (hrole : handler.role = nodeType) :
    (r.addCircuit circuitId handler).Uniform nodeType := by
  intro id found hfound
  by_cases hid : id = circuitId
  · subst hid
    rw [getCircuit_addCircuit_self] at hfound
    cases hfound
    exact hrole
  · rw [getCircuit_addCircuit_ne hid] at hfound
    exact h id found hfound

/-- Replacing a handler by one of the same role keeps the roles. -/
theorem Uniform.setCircuit (h : r.Uniform nodeType) {circuitId : CircuitId}
    {old handler : CircuitHandler} (hold : r.getCircuit circuitId = some old)
    (hrole : handler.role = old.role) : (r.setCircuit circuitId handler).Uniform nodeType := by
  intro id found hfound
  by_cases hid : id = circuitId
  · subst hid
    rw [getCircuit_setCircuit_self hold] at hfound
    cases hfound
    rw [hrole]
    exact h id old hold
  · rw [getCircuit_setCircuit_ne hid] at hfound
    exact h id found hfound

theorem uniform_handleMessage (h : r.Uniform nodeType) (env : Env)
    (prev : Option Message.Writer) (msg : Message) :
    (r.handleMessage P A env prev msg).handler.Uniform nodeType := by
  unfold handleMessage
  split
  · rename_i handler hfound
    exact h.setCircuit hfound (CircuitHandler.role_handleMessage handler env prev msg)
  · split <;> exact h

theorem uniform_handleBackwardMessage (h : r.Uniform nodeType) (msg : Message) :
    (r.handleBackwardMessage P A msg).handler.Uniform nodeType := by
  unfold handleBackwardMessage
  split
  · rename_i handler hfound
    exact h.setCircuit hfound (CircuitHandler.role_handleBackwardRelay handler msg)
  · exact h

theorem uniform_modifyExit (h : r.Uniform nodeType) (circuitId : CircuitId)
    (f : ExitCircuitHandler → ExitCircuitHandler) :
    Uniform { r with circuits := r.circuits.modify circuitId (CircuitHandler.mapExit f) }
      nodeType := by
  intro id found hfound
  have hlookup : (r.circuits.modify circuitId (CircuitHandler.mapExit f)).lookup id =
      some found := hfound
  rw [AList.lookup_modify] at hlookup
  split at hlookup
  · obtain ⟨old, hold, rfl⟩ := Option.map_eq_some_iff.mp hlookup
    rw [CircuitHandler.role_mapExit]
    exact h id old hold
  · exact h id found hlookup

end CircuitRegistry

namespace Relay

/-- Every circuit's handler has the relay's role. -/
def Uniform (r : Relay) : Prop := r.registry.Uniform r.nodeType

@[simp] theorem nodeType_countDestroyed (r : Relay) (command : MessageCommand) :
    (r.countDestroyed command).nodeType = r.nodeType := by
  unfold countDestroyed
  split <;> rfl

@[simp] theorem registry_countDestroyed (r : Relay) (command : MessageCommand) :
    (r.countDestroyed command).registry = r.registry := by
  unfold countDestroyed
  split <;> rfl

theorem Uniform.countDestroyed {r : Relay} (h : r.Uniform) (command : MessageCommand) :
    (r.countDestroyed command).Uniform := by
  unfold Uniform
  rw [registry_countDestroyed, nodeType_countDestroyed]
  exact h

theorem Uniform.spawnReader {r : Relay} (h : r.Uniform) (circuitId : CircuitId)
    (command : MessageCommand) : (r.spawnReader circuitId command).1.Uniform := by
  unfold Relay.spawnReader
  split
  · split
    -- the taken read half changes the handler, not its role
    · rename_i handler hfound
      obtain ⟨old, hold, hspawn⟩ := Option.bind_eq_some_iff.mp hfound
      exact CircuitRegistry.Uniform.setCircuit h hold (CircuitHandler.role_spawnNexthopReader hspawn)
    · exact h
  · exact h

/-- Serving a cell keeps the roles. -/
theorem Uniform.onMessage {r : Relay} (h : r.Uniform) (env : Env) (msg : Message) :
    (r.onMessage P A env msg).relay.Uniform := by
  unfold Relay.onMessage
  split
  · unfold Relay.onCreate
    dsimp only
    split
    · split
      · exact h
      · exact CircuitRegistry.Uniform.addCircuit h _ (by
          rw [CircuitHandler.role_handleMessage, CircuitHandler.role_new])
    · exact h
    · exact h
  · have hafter : (r.after (r.registry.handleMessage P A env (some env.prevHop) msg)).Uniform :=
      CircuitRegistry.uniform_handleMessage h env _ msg
    unfold Relay.onCell
    dsimp only
    split
    · split
      · exact hafter
      · split
        · exact (hafter.countDestroyed _).spawnReader _ _
        · refine Uniform.spawnReader (Uniform.countDestroyed ?_ _) _ _
          exact hafter
    · exact (hafter.countDestroyed _).spawnReader _ _
    · exact hafter

/-- Reading a backward cell keeps the roles. -/
theorem Uniform.readerStep {r : Relay} (h : r.Uniform) (env : Env) (circuitId : CircuitId)
    (input : Option Message) : (r.readerStep P A env circuitId input).relay.Uniform := by
  unfold Relay.readerStep
  split
  · exact h
  · rename_i msg
    have hafter : (r.after (r.registry.handleBackwardMessage P A msg)).Uniform :=
      CircuitRegistry.uniform_handleBackwardMessage h msg
    split
    · exact h
    · dsimp only
      split
      · exact hafter
      · exact hafter
      · split
        · exact hafter
        · exact hafter

/-! ## One circuit at a time -/

theorem getCircuit_spawnReader_ne {r : Relay} {circuitId other : CircuitId}
    {command : MessageCommand} (h : other ≠ circuitId) :
    (r.spawnReader circuitId command).1.registry.getCircuit other =
      r.registry.getCircuit other := by
  unfold Relay.spawnReader
  split
  · split
    · exact CircuitRegistry.getCircuit_setCircuit_ne h
    · rfl
  · rfl

/-- A cell changes no circuit but the one it names. -/
theorem getCircuit_onMessage_ne {r : Relay} {env : Env} {msg : Message} {other : CircuitId}
    (h : other ≠ msg.circuitId) :
    (r.onMessage P A env msg).relay.registry.getCircuit other = r.registry.getCircuit other := by
  unfold Relay.onMessage
  split
  · unfold Relay.onCreate
    dsimp only
    split
    · split
      · rfl
      · exact CircuitRegistry.getCircuit_addCircuit_ne h
    · rfl
    · rfl
  · have hafter : (r.after (r.registry.handleMessage P A env (some env.prevHop) msg)).registry.getCircuit
        other = r.registry.getCircuit other := CircuitRegistry.handleMessage_other P A h
    unfold Relay.onCell
    dsimp only
    split
    · split
      · exact hafter
      · rw [getCircuit_spawnReader_ne h, registry_countDestroyed]
        split <;> exact hafter
    · rw [getCircuit_spawnReader_ne h, registry_countDestroyed]
      exact hafter
    · exact hafter

theorem spawnReader_of_ne {r : Relay} {circuitId : CircuitId} {command : MessageCommand}
    (h : ¬(command = .extended ∨ command = .extend)) :
    r.spawnReader circuitId command = (r, []) := if_neg h

/-- A cell the registry refuses, or PADDING, leaves what the registry call left. -/
theorem registry_onCell_quiet {r : Relay} {env : Env} {msg : Message}
    (h : msg.command = .padding ∨
      ∃ e, (r.registry.handleMessage P A env (some env.prevHop) msg).result = .error e) :
    (r.onCell P A env msg).relay.registry =
      (r.registry.handleMessage P A env (some env.prevHop) msg).handler := by
  unfold Relay.onCell
  dsimp only
  rcases h with hpadding | ⟨e, hresult⟩
  -- PADDING is no command after which a reader is spawned
  · have hquiet : ¬(msg.command = .extended ∨ msg.command = .extend) := by
      rw [hpadding]
      decide
    split
    · split
      · rfl
      · rw [spawnReader_of_ne hquiet, registry_countDestroyed]
        split <;> rfl
    · rw [spawnReader_of_ne hquiet, registry_countDestroyed]
      rfl
    · rfl
  · rw [hresult]
    rfl

/-- A command the role ignores changes no circuit. -/
theorem getCircuit_onMessage_ignored {r : Relay} {env : Env} {msg : Message}
    (huniform : r.Uniform) (hignored : msg.command.ignoredBy r.nodeType = true)
    (circuitId : CircuitId) :
    (r.onMessage P A env msg).relay.registry.getCircuit circuitId =
      r.registry.getCircuit circuitId := by
  by_cases hid : circuitId = msg.circuitId
  · subst hid
    have hcreate : msg.command ≠ .create := by
      intro hc
      rw [hc] at hignored
      cases hignored
    rw [onMessage, if_neg hcreate]
    -- an unknown circuit is refused; a known one is put back under its own key
    cases hfound : r.registry.getCircuit msg.circuitId with
    | none =>
      have hcall : r.registry.handleMessage P A env (some env.prevHop) msg = .fail r.registry []
          (.text ("Circuit " ++ toString msg.circuitId ++ " not found")) := by
        rw [CircuitRegistry.handleMessage, hfound]
        exact if_neg hcreate
      rw [registry_onCell_quiet (.inr ⟨_, congrArg Outcome.result hcall⟩), hcall]
      exact hfound
    | some handler =>
      have hrole : handler.role = r.nodeType := huniform _ _ hfound
      have hquiet : msg.command.ignoredBy handler.role = true := by rw [hrole]; exact hignored
      obtain ⟨hsame, hresult⟩ : (handler.handleMessage P A env (some env.prevHop) msg).handler =
          handler ∧ _ := CircuitHandler.handleMessage_ignored hquiet
      have hcall : r.registry.handleMessage P A env (some env.prevHop) msg =
          ⟨r.registry.setCircuit msg.circuitId handler,
            (handler.handleMessage P A env (some env.prevHop) msg).sent,
            (handler.handleMessage P A env (some env.prevHop) msg).result⟩ := by
        rw [CircuitRegistry.handleMessage, hfound]
        dsimp only
        rw [hsame]
      rw [registry_onCell_quiet (by rw [hcall]; exact hresult), hcall]
      exact CircuitRegistry.getCircuit_setCircuit_self hfound
  · exact getCircuit_onMessage_ne hid

end Relay

/-! ## Isolation -/

namespace SharedRelay

/-- The events keep the roles. -/
theorem uniform_step {s : SharedRelay} (h : s.relay.Uniform) (e : RelayEvent) :
    (s.step P A e).relay.Uniform := by
  cases e with
  | cell conn env msg =>
    unfold step
    dsimp only
    split
    · exact h
    · exact h.onMessage env msg
  | backward env circuitId input => exact h.readerStep env circuitId input
  | streamCell writer circuitId streamId command data =>
    exact CircuitRegistry.uniform_modifyExit h circuitId _
  | streamEnded circuitId streamId => exact CircuitRegistry.uniform_modifyExit h circuitId _

theorem uniform_new (nodeType : NodeType) (keypair : KeyPair) :
    (SharedRelay.new nodeType keypair).relay.Uniform := by
  intro circuitId handler hfound
  cases hfound

/-- A separated step is isolated. -/
theorem isolated_of_separated {s : SharedRelay} {e : RelayEvent} (huniform : s.relay.Uniform)
    (h : s.Separated e) : s.Isolated P A e := by
  cases e with
  | cell conn env msg =>
    intro circuitId other howner hother
    unfold step
    dsimp only
    split
    · rfl
    -- a cell of the connection's own circuit cannot name another's; an ignored one changes nothing
    · rcases h with howned | hignored
      · refine Relay.getCircuit_onMessage_ne ?_
        rintro rfl
        exact hother (howned other howner)
      · exact Relay.getCircuit_onMessage_ignored huniform hignored circuitId
  | backward _ _ _ => trivial
  | streamCell _ _ _ _ _ => trivial
  | streamEnded _ _ => trivial

/-- **Connections are isolated as long as they keep to their own circuit ids**: in every
run whose cells are separated, no cell read from one connection changes a circuit
created from another. -/
theorem every_step_isolated (nodeType : NodeType) (keypair : KeyPair) (events : List RelayEvent)
    (h : EveryStep (step P A) Separated (SharedRelay.new nodeType keypair) events) :
    EveryStep (step P A) (Isolated P A) (SharedRelay.new nodeType keypair) events :=
  h.of_invariant (fun _ e huniform _ => uniform_step huniform e)
    (fun _ _ huniform hsep => isolated_of_separated huniform hsep) (uniform_new nodeType keypair)

/-! ### Two clients with circuit 1 -/

/-- The two clients' relay. -/
def sampleKeypair : KeyPair := KeyPair.fromSecretBytes .sample (sampleSecret 1)

/-- Connections that take every write. -/
def sampleEnv : Env where
  ephemeral := sampleSecret 3
  dial _ _ _ := .closed
  nextHop := .working fun _ => 0
  prevHop := .working fun _ => 0
  connect _ := .ok ()

/-- An address syntax for runs that parse no address. -/
def sampleSyntax : AddrSyntax where
  display _ := ""
  parse _ := none

/-- A client creates circuit 1 and sends a cell on it; then a second client, on its own
connection, creates its circuit 1. -/
def twoClients : List RelayEvent :=
  [.cell 0 sampleEnv (Message.create 1 (sampleSecret 2).toList),
    .cell 0 sampleEnv (Message.ofData 1 1 [1, 2, 3]),
    .cell 1 sampleEnv (Message.create 1 (sampleSecret 4).toList)]

/-- The forward keystream position of an entry's or middle's circuit. -/
def forwardPos (c : Option CircuitHandler) : Option Nat :=
  (c.bind CircuitHandler.hop?).bind fun h => h.context.cipherPair.map fun cipher =>
    cipher.forward.pos

/-- The second client's CREATE replaces the first client's circuit: its cipher, three bytes
into the keystream, starts over. -/
theorem create_replaces_other :
    ¬EveryStep (step .sample sampleSyntax) (Isolated .sample sampleSyntax)
      (SharedRelay.new .entry sampleKeypair) twoClients := by
  rintro ⟨-, -, hisolated, -⟩
  have hsame := hisolated 1 0 (by decide +kernel) (by decide)
  have hpos := congrArg forwardPos hsame
  revert hpos
  decide +kernel

/-- A run with a second connection that only pads the first one's circuit. -/
theorem padding_isolated :
    EveryStep (step .sample sampleSyntax) (Isolated .sample sampleSyntax)
      (SharedRelay.new .entry sampleKeypair)
      [.cell 0 sampleEnv (Message.create 1 (sampleSecret 2).toList),
        .cell 1 sampleEnv (Message.padding 1 [7])] :=
  every_step_isolated .entry sampleKeypair _
    ⟨.inl fun _ howner => (nomatch howner), .inr rfl, trivial⟩

end SharedRelay

end MiniTor
