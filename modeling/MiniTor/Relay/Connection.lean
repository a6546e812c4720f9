import MiniTor.Relay.Registry

/-!
# Serving connections (`relay-node/src/main.rs`)

`onMessage` is the body of the loop of `handle_connection`, `readerStep` that of
the next-hop reader a handler spawns. Both work on the state all connections of a
relay share: the registry and the metrics.

- `onMessage_relayed`: a relay whose circuit has a next hop passes a forward cell
  on with one layer peeled.
- `readerStep_relayed`: its reader passes a backward cell on with one layer added.
-/

namespace MiniTor

variable (P : Primitives) (A : AddrSyntax)

/-- The counters of `RelayMetrics` that cells move. -/
structure RelayMetrics where
  circuitsCreated : UInt64
  circuitsDestroyed : UInt64
  bytesForwarded : UInt64
  bytesReceived : UInt64
  streamsOpened : UInt64
  deriving DecidableEq

def RelayMetrics.new : RelayMetrics := ⟨0, 0, 0, 0, 0⟩

/-- The counters an exit handler moves itself. -/
def RelayMetrics.record (m : RelayMetrics) : Effect → RelayMetrics
  | .toDestination _ data => { m with bytesForwarded := m.bytesForwarded + data.length.toUInt64 }
  | .openStream _ => { m with streamsOpened := m.streamsOpened + 1 }
  | _ => m

/-- The state a relay's tasks share. -/
structure Relay where
  nodeType : NodeType
  keypair : KeyPair
  registry : CircuitRegistry
  metrics : RelayMetrics

/-- What serving one cell leaves and does; `serving` tells whether the loop goes on. -/
structure Served where
  relay : Relay
  sent : List Effect
  serving : Bool

namespace Relay

def new (nodeType : NodeType) (keypair : KeyPair) : Relay :=
  { nodeType, keypair, registry := CircuitRegistry.new, metrics := RelayMetrics.new }

/-- The relay after a registry call. -/
def after (r : Relay) (o : Outcome CircuitRegistry) : Relay :=
  { r with registry := o.handler, metrics := o.sent.foldl RelayMetrics.record r.metrics }

def countDestroyed (r : Relay) (command : MessageCommand) : Relay :=
  if command = .destroy then
    { r with
      metrics := { r.metrics with circuitsDestroyed := r.metrics.circuitsDestroyed + 1 } }
  else r

/-- Spawn the circuit's next-hop reader after EXTEND or EXTENDED. -/
def spawnReader (r : Relay) (circuitId : CircuitId) (command : MessageCommand) :
    Relay × List Effect :=
  if command = .extended ∨ command = .extend then
    match (r.registry.getCircuit circuitId).bind CircuitHandler.spawnNexthopReader with
    | some handler =>
      ({ r with registry := r.registry.setCircuit circuitId handler }, [.spawnReader circuitId])
    | none => (r, [])
  else (r, [])

/-- A CREATE: a new handler, registered under the cell's circuit id. -/
def onCreate (env : Env) (r : Relay) (msg : Message) : Served :=
  let handler := CircuitHandler.new r.nodeType msg.circuitId r.keypair
  let o := handler.handleMessage P A env (some env.prevHop) msg
  match o.result with
  | .ok (some response) =>
    match response.writeToStream env.prevHop with
    | .error _ => ⟨r, o.sent, false⟩
    | .ok cell =>
      ⟨{ r with
          metrics := { r.metrics with circuitsCreated := r.metrics.circuitsCreated + 1 }
          registry := r.registry.addCircuit msg.circuitId o.handler },
        o.sent ++ [.toPrevHop cell], true⟩
  | .ok none => ⟨r, o.sent, true⟩
  | .error _ => ⟨r, o.sent, false⟩

/-- Every other cell: the registry's handler of its circuit id. -/
def onCell (env : Env) (r : Relay) (msg : Message) : Served :=
  let o := r.registry.handleMessage P A env (some env.prevHop) msg
  let r := r.after o
  match o.result with
  | .ok (some response) =>
    match response.writeToStream env.prevHop with
    | .error _ => ⟨r, o.sent, false⟩
    | .ok cell =>
      let r :=
        if msg.command = .extended ∨ msg.command = .extend ∨ msg.command = .destroy then r
        else
          { r with
            metrics := { r.metrics with
              bytesForwarded := r.metrics.bytesForwarded + response.data.length.toUInt64 } }
      let (r, spawned) := (r.countDestroyed msg.command).spawnReader msg.circuitId msg.command
      ⟨r, o.sent ++ [.toPrevHop cell] ++ spawned, true⟩
  | .ok none =>
    let (r, spawned) := (r.countDestroyed msg.command).spawnReader msg.circuitId msg.command
    ⟨r, o.sent ++ spawned, true⟩
  | .error _ => ⟨r, o.sent, false⟩

/-- One turn of the loop of `handle_connection`. -/
def onMessage (env : Env) (r : Relay) (msg : Message) : Served :=
  if msg.command = .create then r.onCreate P A env msg else r.onCell P A env msg

/-- Tell the previous hop that the circuit is gone, and shut the connection down. -/
def tearDown (env : Env) (circuitId : CircuitId) : List Effect :=
  match (Message.destroy circuitId).writeToStream env.prevHop with
  | .ok cell => [.toPrevHop cell, .shutdownPrevHop]
  | .error _ => [.shutdownPrevHop]

/-- One turn of the reader of circuit `circuitId`; no message is the end of the stream or a
read error. Only the entry's reader treats DESTROY apart. -/
def readerStep (env : Env) (r : Relay) (circuitId : CircuitId) (input : Option Message) :
    Served :=
  match input with
  | none => ⟨r, tearDown env circuitId, false⟩
  | some msg =>
    if r.nodeType = .entry ∧ msg.command = .destroy then ⟨r, tearDown env circuitId, false⟩
    else
      let o := r.registry.handleBackwardMessage P A msg
      let r := r.after o
      match o.result with
      | .error _ => ⟨r, tearDown env circuitId, false⟩
      | .ok none => ⟨r, o.sent, true⟩
      | .ok (some response) =>
        match response.writeToStream env.prevHop with
        | .error _ => ⟨r, o.sent ++ tearDown env circuitId, false⟩
        | .ok cell =>
          ⟨{ r with
              metrics := { r.metrics with
                bytesReceived := r.metrics.bytesReceived + msg.data.length.toUInt64 } },
            o.sent ++ [.toPrevHop cell], true⟩

end Relay

/-! ## What a relay knows of a circuit -/

namespace CircuitHandler

def context : CircuitHandler → CircuitContext
  | entry h => h.context
  | middle h => h.context
  | exit h => h.context

/-- The cipher pair, wherever the handler keeps it. -/
def cipher? : CircuitHandler → Option CipherPair
  | entry h => h.context.cipherPair
  | middle h => h.context.cipherPair
  | exit h => h.sharedState.map fun s => s.cipher

def nextHop? : CircuitHandler → Option NextHop
  | entry h => h.nextHop
  | middle h => h.nextHop
  | exit _ => none

/-- The running digests, which only the exit has. -/
def digests? : CircuitHandler → Option (RunningDigest × RunningDigest)
  | exit h => h.sharedState.map fun s => (s.forwardDigest, s.backwardDigest)
  | _ => none

end CircuitHandler

namespace Relay

variable (r : Relay) (circuitId : CircuitId)

def sessionKey? : Option SessionKey :=
  (r.registry.getCircuit circuitId).bind fun h => h.context.sessionKey

def cipher? : Option CipherPair :=
  (r.registry.getCircuit circuitId).bind CircuitHandler.cipher?

def nextHop? : Option NextHop :=
  (r.registry.getCircuit circuitId).bind CircuitHandler.nextHop?

def digests? : Option (RunningDigest × RunningDigest) :=
  (r.registry.getCircuit circuitId).bind CircuitHandler.digests?

end Relay

/-! ## The handlers of a circuit -/

/-- The entry or middle handler of a circuit whose key is established. -/
def HopHandler.established (keypair : KeyPair) (circuitId : CircuitId) (key : SessionKey)
    (cipher : CipherPair) (nextHop : Option NextHop) : HopHandler where
  context := { circuitId, state := .active, sessionKey := some key, cipherPair := some cipher }
  keypair := keypair
  nextHop := nextHop

namespace CircuitHandler

/-- The handler of a circuit whose key is established: the exit keeps the cipher pair next
to its running digests, the others in their context. -/
def established (nodeType : NodeType) (keypair : KeyPair) (circuitId : CircuitId)
    (key : SessionKey) (cipher : CipherPair) (nextHop : Option NextHop) : CircuitHandler :=
  match nodeType with
  | .entry => .entry (HopHandler.established keypair circuitId key cipher nextHop)
  | .middle => .middle (HopHandler.established keypair circuitId key cipher nextHop)
  | .exit =>
    .exit
      { context :=
          { circuitId, state := .active, sessionKey := some key, cipherPair := none }
        keypair
        streams := ∅
        sharedState := some
          { cipher, forwardDigest := RunningDigest.new, backwardDigest := RunningDigest.new } }

/-- The handler a CREATE makes, in every role. -/
theorem handleMessage_create (nodeType : NodeType) (circuitId : CircuitId) (keypair : KeyPair)
    (env : Env) (prev : Option Message.Writer) (clientPublic : ByteArr 32) :
    (new nodeType circuitId keypair).handleMessage P A env prev
        (Message.create circuitId clientPublic.toList) =
      .ok (established nodeType keypair circuitId
          (keypair.ntorAnswer P clientPublic env.ephemeral).2
          (CipherPair.new (keypair.ntorAnswer P clientPublic env.ephemeral).2) none) []
        (some (Message.created circuitId (keypair.ntorAnswer P clientPublic env.ephemeral).1)) := by
  have hcreate := CircuitContext.ntorCreate_key P (CircuitContext.new circuitId) keypair
    env.ephemeral clientPublic circuitId
  have hhop : (HopHandler.new circuitId keypair).handleCreate P env
      (Message.create circuitId clientPublic.toList) =
      .ok { (HopHandler.new circuitId keypair) with
          context := (CircuitContext.new circuitId).activate
            (keypair.ntorAnswer P clientPublic env.ephemeral).2 } []
        (some (Message.created circuitId
          (keypair.ntorAnswer P clientPublic env.ephemeral).1)) := by
    unfold HopHandler.handleCreate HopHandler.new
    dsimp only
    rw [hcreate]
    rfl
  cases nodeType with
  | entry =>
    show Outcome.mk (entry ((HopHandler.new circuitId keypair).handleCreate P env _).handler)
      ((HopHandler.new circuitId keypair).handleCreate P env _).sent
      ((HopHandler.new circuitId keypair).handleCreate P env _).result = _
    rw [hhop]
    rfl
  | middle =>
    show Outcome.mk (middle ((HopHandler.new circuitId keypair).handleCreate P env _).handler)
      ((HopHandler.new circuitId keypair).handleCreate P env _).sent
      ((HopHandler.new circuitId keypair).handleCreate P env _).result = _
    rw [hhop]
    rfl
  | exit =>
    show Outcome.mk (exit ((ExitCircuitHandler.new circuitId keypair).handleCreate P env _).handler)
      ((ExitCircuitHandler.new circuitId keypair).handleCreate P env _).sent
      ((ExitCircuitHandler.new circuitId keypair).handleCreate P env _).result = _
    unfold ExitCircuitHandler.handleCreate ExitCircuitHandler.new
    dsimp only
    rw [hcreate]
    rfl

/-- The entry or middle handler inside. -/
def hop? : CircuitHandler → Option HopHandler
  | entry h => some h
  | middle h => some h
  | exit _ => none

/-- Replace the entry or middle handler inside. -/
def withHop (h : HopHandler) : CircuitHandler → CircuitHandler
  | entry _ => entry h
  | middle _ => middle h
  | exit e => exit e

@[simp] theorem hop?_withHop {handler : CircuitHandler} {h h' : HopHandler}
    (hh : handler.hop? = some h) : (handler.withHop h').hop? = some h' := by
  cases handler with
  | entry _ => rfl
  | middle _ => rfl
  | exit _ => cases hh

section Established

variable {nodeType : NodeType} {keypair : KeyPair} {circuitId : CircuitId} {key : SessionKey}
  {cipher : CipherPair} {nextHop : Option NextHop}

theorem hop?_established (hrole : nodeType ≠ .exit) :
    (established nodeType keypair circuitId key cipher nextHop).hop? =
      some (HopHandler.established keypair circuitId key cipher nextHop) := by
  cases nodeType with
  | entry => rfl
  | middle => rfl
  | exit => exact absurd rfl hrole

theorem withHop_established {cipher' : CipherPair} {nextHop' : Option NextHop}
    (hrole : nodeType ≠ .exit) :
    (established nodeType keypair circuitId key cipher nextHop).withHop
        (HopHandler.established keypair circuitId key cipher' nextHop') =
      established nodeType keypair circuitId key cipher' nextHop' := by
  cases nodeType with
  | entry => rfl
  | middle => rfl
  | exit => exact absurd rfl hrole

end Established

end CircuitHandler

namespace Relay

variable {P A}

/-- The handler of a hop relays the commands it passes on. -/
theorem handleMessage_relayed {env : Env} {prev : Option Message.Writer}
    {handler : CircuitHandler} {h : HopHandler} {cipher : CipherPair} {nextHop : NextHop}
    {padding : Nat → UInt8} {msg : Message} (hhop : handler.hop? = some h)
    (hcipher : h.context.cipherPair = some cipher) (hnext : h.nextHop = some nextHop)
    (hcommand : msg.command.relayed = true) (henv : env.nextHop = .working padding)
    (hlen : msg.data.length ≤ MAX_PAYLOAD_SIZE) :
    handler.handleMessage P A env prev msg =
      .ok (handler.withHop (h.advanceForward cipher msg.data.length))
        [.toNextHop ((msg.peel P cipher).toBytes padding)] none := by
  have hsome : h.nextHop.isSome = true := by rw [hnext]; rfl
  cases handler with
  | entry e =>
    cases hhop
    show Outcome.mk _ _ _ = _
    rw [HopHandler.handleMessageEntry_relayed hcommand hsome,
      HopHandler.handleRelay_ok hcipher hnext henv hlen]
    rfl
  | middle m =>
    cases hhop
    show Outcome.mk _ _ _ = _
    rw [HopHandler.handleMessageMiddle_relayed hcommand hsome,
      HopHandler.handleRelay_ok hcipher hnext henv hlen]
    rfl
  | exit _ => cases hhop

/-- The handler of a hop adds its layer to a backward cell. -/
theorem handleBackwardRelay_relayed {handler : CircuitHandler} {h : HopHandler}
    {cipher : CipherPair} {msg : Message} (hhop : handler.hop? = some h)
    (hcipher : h.context.cipherPair = some cipher) :
    handler.handleBackwardRelay P A msg =
      .ok (handler.withHop (h.advanceBackward cipher msg.data.length)) []
        (some (msg.wrap P cipher)) := by
  cases handler with
  | entry e =>
    cases hhop
    show Outcome.mk _ _ _ = _
    rw [HopHandler.handleBackwardRelay_ok hcipher]
    rfl
  | middle m =>
    cases hhop
    show Outcome.mk _ _ _ = _
    rw [HopHandler.handleBackwardRelay_ok hcipher]
    rfl
  | exit _ => cases hhop

/-- The relay with a hop's handler replaced. -/
def setHop (r : Relay) (circuitId : CircuitId) (handler : CircuitHandler) (h : HopHandler) :
    Relay :=
  { r with registry := r.registry.setCircuit circuitId (handler.withHop h) }

theorem relayed_ne_create {command : MessageCommand} (h : command.relayed = true) :
    command ≠ .create := by
  rintro rfl
  cases h

/-- A circuit whose reader is running spawns no second one. -/
theorem spawnReader_running {r : Relay} {circuitId : CircuitId} {handler : CircuitHandler}
    {h : HopHandler} {nextHop : NextHop}
    (hlookup : r.registry.getCircuit circuitId = some handler) (hhop : handler.hop? = some h)
    (hnext : h.nextHop = some nextHop) (hread : nextHop.read = false)
    (command : MessageCommand) : r.spawnReader circuitId command = (r, []) := by
  have htake : h.takeRead = none := by
    rw [HopHandler.takeRead, hnext]
    exact if_neg (by rw [hread]; exact Bool.false_ne_true)
  have hspawn : handler.spawnNexthopReader = none := by
    cases handler with
    | entry e => cases hhop; rw [CircuitHandler.spawnNexthopReader, htake]; rfl
    | middle m => cases hhop; rw [CircuitHandler.spawnNexthopReader, htake]; rfl
    | exit _ => cases hhop
  rw [spawnReader, hlookup, Option.bind_some, hspawn]
  split <;> rfl

/-- **A forward cell at a hop**: one layer peeled, everything else kept, the circuit's
forward position moved by the payload, and nothing else in the relay changed. -/
theorem onMessage_relayed {env : Env} {r : Relay} {handler : CircuitHandler} {h : HopHandler}
    {cipher : CipherPair} {nextHop : NextHop} {padding : Nat → UInt8} {msg : Message}
    (hlookup : r.registry.getCircuit msg.circuitId = some handler)
    (hhop : handler.hop? = some h) (hcipher : h.context.cipherPair = some cipher)
    (hnext : h.nextHop = some nextHop) (hread : nextHop.read = false)
    (hcommand : msg.command.relayed = true) (henv : env.nextHop = .working padding)
    (hlen : msg.data.length ≤ MAX_PAYLOAD_SIZE) :
    r.onMessage P A env msg =
      ⟨r.setHop msg.circuitId handler (h.advanceForward cipher msg.data.length),
        [.toNextHop ((msg.peel P cipher).toBytes padding)], true⟩ := by
  have hregistry : r.registry.handleMessage P A env (some env.prevHop) msg =
      .ok (r.registry.setCircuit msg.circuitId
          (handler.withHop (h.advanceForward cipher msg.data.length)))
        [.toNextHop ((msg.peel P cipher).toBytes padding)] none := by
    rw [CircuitRegistry.handleMessage, hlookup]
    dsimp only
    rw [handleMessage_relayed hhop hcipher hnext hcommand henv hlen]
    rfl
  have hnotDestroy : msg.command ≠ .destroy := by
    intro hc
    rw [hc] at hcommand
    cases hcommand
  have hnext' : (h.advanceForward cipher msg.data.length).nextHop = some nextHop := hnext
  -- the read half was taken when the circuit was extended
  have hafter : (r.setHop msg.circuitId handler
      (h.advanceForward cipher msg.data.length)).registry.getCircuit msg.circuitId =
      some (handler.withHop (h.advanceForward cipher msg.data.length)) :=
    CircuitRegistry.getCircuit_setCircuit_self hlookup
  have hquiet := spawnReader_running hafter
    (CircuitHandler.hop?_withHop hhop) hnext' hread msg.command
  rw [onMessage, if_neg (relayed_ne_create hcommand), onCell, hregistry]
  dsimp only [Outcome.ok]
  rw [countDestroyed, if_neg hnotDestroy]
  show Served.mk ((r.setHop msg.circuitId handler
      (h.advanceForward cipher msg.data.length)).spawnReader msg.circuitId msg.command).1
    (_ ++ ((r.setHop msg.circuitId handler
      (h.advanceForward cipher msg.data.length)).spawnReader msg.circuitId msg.command).2) true = _
  rw [hquiet]
  rfl

/-- **PADDING** is ignored in every role. -/
theorem onMessage_padding {env : Env} {r : Relay} {handler : CircuitHandler} {msg : Message}
    (hlookup : r.registry.getCircuit msg.circuitId = some handler)
    (hcommand : msg.command = .padding) :
    r.onMessage P A env msg =
      ⟨{ r with registry := r.registry.setCircuit msg.circuitId handler }, [], true⟩ := by
  have hhandler : handler.handleMessage P A env (some env.prevHop) msg = .ok handler [] none := by
    cases handler with
    | entry h =>
      rw [CircuitHandler.handleMessage, HopHandler.handleMessageEntry, hcommand]
      rfl
    | middle h =>
      rw [CircuitHandler.handleMessage, HopHandler.handleMessageMiddle, hcommand]
      rfl
    | exit h =>
      rw [CircuitHandler.handleMessage, ExitCircuitHandler.handleMessage, hcommand]
      rfl
  have hregistry : r.registry.handleMessage P A env (some env.prevHop) msg =
      .ok (r.registry.setCircuit msg.circuitId handler) [] none := by
    rw [CircuitRegistry.handleMessage, hlookup]
    dsimp only
    rw [hhandler]
    rfl
  have hnotCreate : msg.command ≠ .create := by
    rw [hcommand]
    decide
  rw [onMessage, if_neg hnotCreate, onCell, hregistry, hcommand]
  rfl

/-! ## CREATE and EXTEND -/

/-- **CREATE**: the key is established and its handler registered, whatever was registered
under the circuit id before. -/
theorem onMessage_create {env : Env} {r : Relay} {circuitId : CircuitId}
    {clientPublic : ByteArr 32} {padding : Nat → UInt8} (hprev : env.prevHop = .working padding) :
    ∃ relay, r.onMessage P A env (Message.create circuitId clientPublic.toList) =
        ⟨relay,
          [.toPrevHop ((Message.created circuitId
            (r.keypair.ntorAnswer P clientPublic env.ephemeral).1).toBytes padding)], true⟩ ∧
      relay.nodeType = r.nodeType ∧ relay.keypair = r.keypair ∧
      relay.registry.getCircuit circuitId =
        some (CircuitHandler.established r.nodeType r.keypair circuitId
          (r.keypair.ntorAnswer P clientPublic env.ephemeral).2
          (CipherPair.new (r.keypair.ntorAnswer P clientPublic env.ephemeral).2) none) := by
  have hwrite : (Message.created circuitId
      (r.keypair.ntorAnswer P clientPublic env.ephemeral).1).writeToStream env.prevHop =
      .ok ((Message.created circuitId
        (r.keypair.ntorAnswer P clientPublic env.ephemeral).1).toBytes padding) := by
    rw [hprev]
    refine Message.writeToStream_working ?_
    show (r.keypair.ntorAnswer P clientPublic env.ephemeral).1.length ≤ MAX_PAYLOAD_SIZE
    rw [KeyPair.length_ntorAnswer]
    decide
  refine ⟨{ r with
      metrics := { r.metrics with circuitsCreated := r.metrics.circuitsCreated + 1 }
      registry := r.registry.addCircuit circuitId (CircuitHandler.established r.nodeType
        r.keypair circuitId (r.keypair.ntorAnswer P clientPublic env.ephemeral).2
        (CipherPair.new (r.keypair.ntorAnswer P clientPublic env.ephemeral).2) none) },
    ?_, rfl, rfl, AList.lookup_insert _⟩
  have hcommand : (Message.create circuitId clientPublic.toList).command = .create := rfl
  rw [onMessage, if_pos hcommand, onCreate]
  dsimp only
  rw [show (Message.create circuitId clientPublic.toList).circuitId = circuitId from rfl,
    CircuitHandler.handleMessage_create]
  dsimp only [Outcome.ok]
  rw [hwrite]
  rfl

section Extend

variable {env : Env} {handler : CircuitHandler} {h : HopHandler} {cipher : CipherPair}
  {msg created : Message} {request : ExtendRequest}

/-- The handler of a hop answers EXTEND the same way in both roles. -/
theorem handleMessage_extend {prev : Option Message.Writer} (hhop : handler.hop? = some h)
    (hcipher : h.context.cipherPair = some cipher) (hid : h.context.circuitId = msg.circuitId)
    (hlast : h.nextHop = none) (hcommand : msg.command = .extend)
    (hparse : ∀ role, parseExtend A role (msg.peel P cipher).data = .ok request)
    (hdial : env.dial request.addr request.fingerprint
      (Message.create msg.circuitId request.clientPublic.toList) = .reply created)
    (hcreated : created.command = .created) (hkey : 32 ≤ created.data.length) :
    handler.handleMessage P A env prev msg =
      .ok (handler.withHop (h.extended cipher request msg.data.length created.data.length true))
        [.dial request.addr request.fingerprint
          (Message.create msg.circuitId request.clientPublic.toList)]
        (some (Message.extended msg.circuitId (created.wrap P cipher).data)) := by
  have hnone : ¬h.nextHop.isSome = true := by rw [hlast]; exact Bool.false_ne_true
  -- the role shows in the error texts only, which this path does not reach
  have hext : ∀ role, h.handleExtend P A role env msg =
      .ok (h.extended cipher request msg.data.length created.data.length true)
        [.dial request.addr request.fingerprint
          (Message.create msg.circuitId request.clientPublic.toList)]
        (some (Message.extended msg.circuitId (created.wrap P cipher).data)) := by
    intro role
    rw [← hid] at hdial ⊢
    refine HopHandler.handleExtend_ok hcipher (hparse role) ?_
    rw [hdial]
    exact HopHandler.awaitCreated_ok hcreated hkey
  cases handler with
  | entry e =>
    cases hhop
    show Outcome.mk _ _ _ = _
    rw [HopHandler.handleMessageEntry, hcommand]
    dsimp only
    rw [if_neg hnone, hext]
    rfl
  | middle m =>
    cases hhop
    show Outcome.mk _ _ _ = _
    rw [HopHandler.handleMessageMiddle, hcommand]
    dsimp only
    rw [if_neg hnone, hext]
    rfl
  | exit _ => cases hhop

/-- A hop just linked gives its read half to a reader task. -/
theorem spawnReader_extended {r : Relay} {circuitId : CircuitId} {spent answered : Nat}
    (hhop : handler.hop? = some h) (hlookup : r.registry.getCircuit circuitId =
      some (handler.withHop (h.extended cipher request spent answered true))) :
    r.spawnReader circuitId .extend =
      (r.setHop circuitId handler (h.extended cipher request spent answered false),
        [.spawnReader circuitId]) := by
  have hspawn :
      (handler.withHop (h.extended cipher request spent answered true)).spawnNexthopReader =
        some (handler.withHop (h.extended cipher request spent answered false)) := by
    cases handler with
    | entry e => rfl
    | middle m => rfl
    | exit _ => cases hhop
  rw [spawnReader, hlookup, Option.bind_some, hspawn]
  rfl

/-- **An EXTEND at the last hop**: the relay it names is dialled with the client's key, and
what that relay answers comes back as EXTENDED under the backward layer; the circuit is
linked to it and its reader runs. -/
theorem onMessage_extend {r : Relay} {padding : Nat → UInt8}
    (hlookup : r.registry.getCircuit msg.circuitId = some handler)
    (hhop : handler.hop? = some h) (hcipher : h.context.cipherPair = some cipher)
    (hid : h.context.circuitId = msg.circuitId) (hlast : h.nextHop = none)
    (hcommand : msg.command = .extend)
    (hparse : ∀ role, parseExtend A role (msg.peel P cipher).data = .ok request)
    (hdial : env.dial request.addr request.fingerprint
      (Message.create msg.circuitId request.clientPublic.toList) = .reply created)
    (hcreated : created.command = .created) (hkey : 32 ≤ created.data.length)
    (hprev : env.prevHop = .working padding) (hfits : created.data.length ≤ MAX_PAYLOAD_SIZE) :
    ∃ relay, r.onMessage P A env msg =
        ⟨relay,
          [.dial request.addr request.fingerprint
              (Message.create msg.circuitId request.clientPublic.toList),
            .toPrevHop ((Message.extended msg.circuitId (created.wrap P cipher).data).toBytes
              padding),
            .spawnReader msg.circuitId], true⟩ ∧
      relay.nodeType = r.nodeType ∧ relay.keypair = r.keypair ∧
      relay.registry.getCircuit msg.circuitId = some (handler.withHop
        (h.extended cipher request msg.data.length created.data.length false)) := by
  let linked := h.extended cipher request msg.data.length created.data.length
  have hregistry : r.registry.handleMessage P A env (some env.prevHop) msg =
      .ok (r.registry.setCircuit msg.circuitId (handler.withHop (linked true)))
        [.dial request.addr request.fingerprint
          (Message.create msg.circuitId request.clientPublic.toList)]
        (some (Message.extended msg.circuitId (created.wrap P cipher).data)) := by
    rw [CircuitRegistry.handleMessage, hlookup]
    dsimp only
    rw [handleMessage_extend hhop hcipher hid hlast hcommand hparse hdial hcreated hkey]
    rfl
  have hwrite : (Message.extended msg.circuitId (created.wrap P cipher).data).writeToStream
      (.working padding) =
      .ok ((Message.extended msg.circuitId (created.wrap P cipher).data).toBytes padding) := by
    refine Message.writeToStream_working ?_
    show (created.wrap P cipher).data.length ≤ MAX_PAYLOAD_SIZE
    rw [Message.length_wrap]
    exact hfits
  have hlinked : (r.setHop msg.circuitId handler (linked true)).registry.getCircuit
      msg.circuitId = some (handler.withHop (linked true)) :=
    CircuitRegistry.getCircuit_setCircuit_self hlookup
  -- the link just made still has its read half, which goes to the new reader
  have hspawned := spawnReader_extended hhop hlinked
  have hafter : ((r.setHop msg.circuitId handler (linked true)).setHop msg.circuitId handler
      (linked false)).registry.getCircuit msg.circuitId =
      some (handler.withHop (linked false)) :=
    CircuitRegistry.getCircuit_setCircuit_self hlinked
  refine ⟨(r.setHop msg.circuitId handler (linked true)).setHop msg.circuitId handler
    (linked false), ?_, rfl, rfl, hafter⟩
  rw [onMessage, if_neg (by rw [hcommand]; decide), onCell, hregistry]
  dsimp only [Outcome.ok]
  rw [hprev, hwrite]
  dsimp only
  rw [hcommand, if_pos (.inr (.inl rfl)), countDestroyed, if_neg (by decide)]
  show Served.mk ((r.setHop msg.circuitId handler (linked true)).spawnReader msg.circuitId
      .extend).1 (_ ++ ((r.setHop msg.circuitId handler (linked true)).spawnReader msg.circuitId
      .extend).2) true = _
  rw [hspawned]
  rfl

end Extend

/-- **A backward cell at a hop**: one layer added, everything else kept, the circuit's
backward position moved by the payload. -/
theorem readerStep_relayed {env : Env} {r : Relay} {handler : CircuitHandler} {h : HopHandler}
    {cipher : CipherPair} {padding : Nat → UInt8} {msg : Message}
    (hlookup : r.registry.getCircuit msg.circuitId = some handler)
    (hhop : handler.hop? = some h) (hcipher : h.context.cipherPair = some cipher)
    (hgoes : ¬(r.nodeType = .entry ∧ msg.command = .destroy))
    (henv : env.prevHop = .working padding) (hlen : msg.data.length ≤ MAX_PAYLOAD_SIZE)
    (circuitId : CircuitId) :
    r.readerStep P A env circuitId (some msg) =
      ⟨{ r.setHop msg.circuitId handler (h.advanceBackward cipher msg.data.length) with
          metrics := { r.metrics with
            bytesReceived := r.metrics.bytesReceived + msg.data.length.toUInt64 } },
        [.toPrevHop ((msg.wrap P cipher).toBytes padding)], true⟩ := by
  have hregistry : r.registry.handleBackwardMessage P A msg =
      .ok (r.registry.setCircuit msg.circuitId
          (handler.withHop (h.advanceBackward cipher msg.data.length)))
        [] (some (msg.wrap P cipher)) := by
    rw [CircuitRegistry.handleBackwardMessage, hlookup]
    dsimp only
    rw [handleBackwardRelay_relayed hhop hcipher]
    rfl
  have hfits : (msg.wrap P cipher).data.length ≤ MAX_PAYLOAD_SIZE := by
    rw [Message.length_wrap]
    exact hlen
  rw [readerStep, if_neg hgoes, hregistry]
  dsimp only [Outcome.ok]
  rw [henv, Message.writeToStream_working hfits]
  rfl

end Relay

end MiniTor
