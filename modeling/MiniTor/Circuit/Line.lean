import MiniTor.Circuit.Network
import MiniTor.Theory.Onion

/-!
# The relays of a circuit, each at its own pace

Once a circuit is built its relays no longer wait for each other: `Node` is a
relay with the cells written to it and not yet read, and a `Line` of nodes moves
one node at a time, each serving the connection to its previous hop (`serve`) or
reading from its next hop (`readNext`).

- `forwardStages`, `backwardStages`: the line seen as a pipeline of layers, in
  either direction.
- `actAt_forwards`, `actAt_backwards`: whichever node moves, the pipeline of its
  direction settles and the other one is untouched.
-/

namespace MiniTor

open Theory

variable (P : Primitives) (A : AddrSyntax) (circuitId : CircuitId)

/-! ## Nodes -/

/-- A relay of a circuit: its host, the cells on their way to it, and whether the loops of
its connection and of its next-hop reader still run. -/
structure Node where
  host : Host
  fwdIn : List Bytes
  bwdIn : List Bytes
  serving : Bool
  reading : Bool

/-- What a move of a node leaves and does. -/
structure Acted where
  node : Node
  sent : List Effect

/-- The cells written to the next hop. -/
def cellsForward (sent : List Effect) : List Bytes :=
  sent.filterMap fun e =>
    match e with
    | .toNextHop cell => some cell
    | _ => none

/-- The cells written to the previous hop. -/
def cellsBackward (sent : List Effect) : List Bytes :=
  sent.filterMap fun e =>
    match e with
    | .toPrevHop cell => some cell
    | _ => none

namespace Node

/-- The outside world of a node: working links, no dials, `connect` for its destinations. -/
def env (n : Node) (connect : String → Except IoError Unit) : Env :=
  { n.host.env fun _ _ _ => .closed with connect }

/-- One turn of the loop of the connection to the previous hop. -/
def serve (connect : String → Except IoError Unit) (n : Node) : Acted :=
  match n.serving, n.fwdIn with
  | true, cell :: cells =>
    match Message.fromBytes cell with
    | .ok msg =>
      let served := n.host.relay.onMessage P A (n.env connect) msg
      ⟨{ n with
          host := { n.host with relay := served.relay }
          fwdIn := cells
          serving := served.serving }, served.sent⟩
    | .error _ => ⟨{ n with fwdIn := cells, serving := false }, []⟩
  | _, _ => ⟨n, []⟩

/-- One turn of the next-hop reader. -/
def readNext (n : Node) : Acted :=
  match n.reading, n.bwdIn with
  | true, cell :: cells =>
    let served := n.host.relay.readerStep P A (n.env fun _ => .ok ()) circuitId
      (Message.fromBytes cell).toOption
    ⟨{ n with
        host := { n.host with relay := served.relay }
        bwdIn := cells
        reading := served.serving }, served.sent⟩
  | _, _ => ⟨n, []⟩

end Node

/-! ## Lines -/

/-- Cells written to the first node of a line; without one they leave it. -/
def pushFirst (cells : List Bytes) : List Node → List Node × List Bytes
  | [] => ([], cells)
  | n :: rest => ({ n with fwdIn := n.fwdIn ++ cells } :: rest, [])

/-- Cells written back to the last node of a line; without one they leave it. -/
def pushLast (cells : List Bytes) : List Node → List Node × List Bytes
  | [] => ([], cells)
  | n :: rest =>
    let (rest, up) := pushLast cells rest
    ({ n with bwdIn := n.bwdIn ++ up } :: rest, [])

/-- What a move in a line leaves: the nodes, and the cells that leave it at either end. -/
structure LineActed where
  nodes : List Node
  up : List Bytes
  down : List Bytes

/-- A move of the node at an index. -/
def actAt (act : Node → Acted) : Nat → List Node → LineActed
  | _, [] => ⟨[], [], []⟩
  | 0, n :: rest =>
    let a := act n
    let (rest, down) := pushFirst (cellsForward a.sent) rest
    ⟨a.node :: rest, cellsBackward a.sent, down⟩
  | i + 1, n :: rest =>
    let r := actAt act i rest
    ⟨{ n with bwdIn := n.bwdIn ++ r.up } :: r.nodes, [], r.down⟩

/-! ## Cells in flight -/

/-- The messages cells carry. -/
def messagesIn (cells : List Bytes) : List Message :=
  cells.filterMap fun cell => (Message.fromBytes cell).toOption

@[simp] theorem messagesIn_append (cells cells' : List Bytes) :
    messagesIn (cells ++ cells') = messagesIn cells ++ messagesIn cells' := List.filterMap_append

/-- Every cell carries a message that satisfies `ok`. -/
def Carries (ok : Message → Prop) (cells : List Bytes) : Prop :=
  ∀ cell ∈ cells, ∃ m, Message.fromBytes cell = .ok m ∧ ok m

section Carries

variable {ok : Message → Prop} {cells cells' : List Bytes}

theorem Carries.nil : Carries ok [] := fun _ h => nomatch h

theorem Carries.append (h : Carries ok cells) (h' : Carries ok cells') :
    Carries ok (cells ++ cells') := by
  intro cell hcell
  rcases List.mem_append.mp hcell with hleft | hright
  · exact h cell hleft
  · exact h' cell hright

theorem Carries.singleton {m : Message} {padding : Nat → UInt8} (hok : ok m)
    (hfits : m.data.length ≤ MAX_PAYLOAD_SIZE) : Carries ok [m.toBytes padding] := by
  intro cell hcell
  rw [List.mem_singleton] at hcell
  subst hcell
  exact ⟨m, Message.fromBytes_toBytes_of_le hfits, hok⟩

theorem messagesIn_singleton {m : Message} {padding : Nat → UInt8}
    (hfits : m.data.length ≤ MAX_PAYLOAD_SIZE) : messagesIn [m.toBytes padding] = [m] := by
  rw [messagesIn, List.filterMap_cons, Message.fromBytes_toBytes_of_le hfits]
  rfl

/-- The first cell in flight, decoded. -/
theorem Carries.head {cell : Bytes} (h : Carries ok (cell :: cells)) :
    ∃ m, Message.fromBytes cell = .ok m ∧ ok m ∧ Carries ok cells ∧
      messagesIn (cell :: cells) = m :: messagesIn cells := by
  obtain ⟨m, hm, hok⟩ := h cell List.mem_cons_self
  refine ⟨m, hm, hok, fun c hc => h c (List.mem_cons_of_mem cell hc), ?_⟩
  rw [messagesIn, List.filterMap_cons, hm]
  rfl

end Carries

/-- The forward messages of a built circuit. -/
structure Message.Forward (circuitId : CircuitId) (m : Message) : Prop where
  circuit : m.circuitId = circuitId
  fits : m.data.length ≤ MAX_PAYLOAD_SIZE
  command : m.command = .padding ∨ m.command = .begin ∨ m.command = .data ∨ m.command = .end

/-- The backward messages of a built circuit. -/
structure Message.Backward (circuitId : CircuitId) (m : Message) : Prop where
  circuit : m.circuitId = circuitId
  fits : m.data.length ≤ MAX_PAYLOAD_SIZE
  command : m.command = .connected ∨ m.command = .data ∨ m.command = .end

/-- How a message carries its payload; the relays drop PADDING. -/
def onion : Carrier Message where
  payload m := m.data
  withPayload m data := { m with data }
  dropped m := m.command = .padding
  payload_withPayload _ _ := rfl
  withPayload_withPayload _ _ _ := rfl
  withPayload_payload _ := rfl
  dropped_withPayload _ _ := rfl

/-! ## A relay that passes a circuit on -/

/-- The relay holds the circuit under this cipher and is linked to the relay behind it, the
reader of that link running. -/
def Relay.Passes (r : Relay) (cipher : CipherPair) : Prop :=
  ∃ handler hop nextHop, r.registry.getCircuit circuitId = some handler ∧
    handler.hop? = some hop ∧ hop.context.cipherPair = some cipher ∧
    hop.nextHop = some nextHop ∧ nextHop.read = false

namespace Relay.Passes

variable {P A circuitId} {r : Relay} {cipher : CipherPair} {env : Env} {padding : Nat → UInt8}
  {m : Message}

theorem cipher? (h : r.Passes circuitId cipher) : r.cipher? circuitId = some cipher := by
  obtain ⟨handler, hop, nextHop, hlookup, hhop, hcipher, -, -⟩ := h
  rw [Relay.cipher?, hlookup, Option.bind_some, ← hcipher]
  cases handler with
  | entry h =>
    cases hhop
    rfl
  | middle h =>
    cases hhop
    rfl
  | exit h => cases hhop

/-- A hop whose handler was replaced by one that differs in the cipher only. -/
theorem setHop {handler : CircuitHandler} {hop : HopHandler} {nextHop : NextHop}
    (hlookup : r.registry.getCircuit circuitId = some handler) (hhop : handler.hop? = some hop)
    (hnext : hop.nextHop = some nextHop) (hread : nextHop.read = false) :
    (r.setHop circuitId handler (hop.withCipher cipher)).Passes circuitId cipher :=
  ⟨_, _, nextHop, CircuitRegistry.getCircuit_setCircuit_self hlookup,
    CircuitHandler.hop?_withHop hhop, rfl, hnext, hread⟩

theorem onMessage_padding (h : r.Passes m.circuitId cipher) (hcommand : m.command = .padding) :
    ∃ relay, r.onMessage P A env m = ⟨relay, [], true⟩ ∧ relay.Passes m.circuitId cipher := by
  obtain ⟨handler, hop, nextHop, hlookup, hrest⟩ := h
  exact ⟨_, Relay.onMessage_padding hlookup hcommand, handler, hop, nextHop,
    CircuitRegistry.getCircuit_setCircuit_self hlookup, hrest⟩

theorem onMessage_relayed (h : r.Passes m.circuitId cipher) (hcommand : m.command.relayed = true)
    (henv : env.nextHop = .working padding) (hfits : m.data.length ≤ MAX_PAYLOAD_SIZE) :
    ∃ relay, r.onMessage P A env m =
        ⟨relay, [.toNextHop ((m.peel P cipher).toBytes padding)], true⟩ ∧
      relay.Passes m.circuitId { cipher with forward := cipher.forward.advance m.data.length } := by
  obtain ⟨handler, hop, nextHop, hlookup, hhop, hcipher, hnext, hread⟩ := h
  exact ⟨_, Relay.onMessage_relayed hlookup hhop hcipher hnext hread hcommand henv hfits,
    setHop hlookup hhop hnext hread⟩

theorem readerStep_relayed (h : r.Passes m.circuitId cipher)
    (hgoes : ¬(r.nodeType = .entry ∧ m.command = .destroy))
    (henv : env.prevHop = .working padding) (hfits : m.data.length ≤ MAX_PAYLOAD_SIZE) :
    ∃ relay, r.readerStep P A env m.circuitId (some m) =
        ⟨relay, [.toPrevHop ((m.wrap P cipher).toBytes padding)], true⟩ ∧
      relay.Passes m.circuitId
        { cipher with backward := cipher.backward.advance m.data.length } := by
  obtain ⟨handler, hop, nextHop, hlookup, hhop, hcipher, hnext, hread⟩ := h
  exact ⟨_, Relay.readerStep_relayed hlookup hhop hcipher hgoes henv hfits m.circuitId,
    setHop hlookup hhop hnext hread⟩

end Relay.Passes

/-! ## The line as a pipeline -/

namespace Node

/-- The forward layers a node holds, and what is on its way to it. -/
def forwardStage (n : Node) : List Keyed × List Message :=
  ((n.host.relay.cipher? circuitId).toList.map fun c => c.forward.layer P, messagesIn n.fwdIn)

/-- The backward layers a node holds, and what is on its way back to it. -/
def backwardStage (n : Node) : List Keyed × List Message :=
  ((n.host.relay.cipher? circuitId).toList.map fun c => c.backward.layer P, messagesIn n.bwdIn)

/-- A node that passes the circuit on: its key is established, it is linked to the node
behind, both its loops run, and what is in flight is fit to be passed on. -/
structure Relaying (n : Node) : Prop where
  passes : ∃ cipher, n.host.relay.Passes circuitId cipher
  serving : n.serving = true
  reading : n.reading = true
  fwd : Carries (Message.Forward circuitId) n.fwdIn
  bwd : Carries (Message.Backward circuitId) n.bwdIn

end Node

def forwardStages (nodes : List Node) : List (List Keyed × List Message) :=
  nodes.map (Node.forwardStage P circuitId)

/-- In the order backward cells meet the nodes. -/
def backwardStages (nodes : List Node) : List (List Keyed × List Message) :=
  (nodes.map (Node.backwardStage P circuitId)).reverse

/-! ## One node -/

variable {P A circuitId}

namespace Node

variable (P circuitId) in
/-- A move that takes forward cells only. -/
structure Forwards (n : Node) (a : Acted) : Prop where
  relaying : a.node.Relaying circuitId
  settles : Settles onion.stage [n.forwardStage P circuitId] [a.node.forwardStage P circuitId]
    (messagesIn (cellsForward a.sent))
  down : Carries (Message.Forward circuitId) (cellsForward a.sent)
  up : cellsBackward a.sent = []
  backward : a.node.backwardStage P circuitId = n.backwardStage P circuitId

variable (P circuitId) in
/-- A move that takes backward cells only. -/
structure Backwards (n : Node) (a : Acted) : Prop where
  relaying : a.node.Relaying circuitId
  settles : Settles onion.stage [n.backwardStage P circuitId] [a.node.backwardStage P circuitId]
    (messagesIn (cellsBackward a.sent))
  up : Carries (Message.Backward circuitId) (cellsBackward a.sent)
  down : cellsForward a.sent = []
  forward : a.node.forwardStage P circuitId = n.forwardStage P circuitId

/-- A node that has nothing to read stays as it is. -/
theorem Relaying.forwards_refl {n : Node} (h : n.Relaying circuitId) :
    Forwards P circuitId n ⟨n, []⟩ :=
  ⟨h, Settles.refl _, Carries.nil, rfl, rfl⟩

theorem Relaying.backwards_refl {n : Node} (h : n.Relaying circuitId) :
    Backwards P circuitId n ⟨n, []⟩ :=
  ⟨h, Settles.refl _, Carries.nil, rfl, rfl⟩

/-- A node drops PADDING. -/
theorem Relaying.serve_padding {n : Node} (h : n.Relaying circuitId)
    (connect : String → Except IoError Unit) {cell : Bytes} {cells : List Bytes} {m : Message}
    (hcells : n.fwdIn = cell :: cells) (hm : Message.fromBytes cell = .ok m)
    (hforward : m.Forward circuitId) (hpadding : m.command = .padding) :
    ∃ cipher relay, n.host.relay.Passes circuitId cipher ∧ relay.Passes circuitId cipher ∧
      n.serve P A connect =
        ⟨{ n with host := { n.host with relay }, fwdIn := cells }, []⟩ := by
  obtain ⟨cipher, hpasses⟩ := h.passes
  obtain ⟨rfl, -, -⟩ := hforward
  obtain ⟨relay, hserved, hpasses'⟩ :=
    @Relay.Passes.onMessage_padding P A _ cipher (n.env connect) m hpasses hpadding
  refine ⟨cipher, relay, hpasses, hpasses', ?_⟩
  rw [Node.serve, h.serving, hcells]
  dsimp only
  rw [hm]
  dsimp only
  rw [hserved]

/-- A node with a forward cell to serve that is no PADDING peels its layer off and passes the
cell on. -/
theorem Relaying.serve_relayed {n : Node} (h : n.Relaying circuitId)
    (connect : String → Except IoError Unit) {cell : Bytes} {cells : List Bytes} {m : Message}
    (hcells : n.fwdIn = cell :: cells) (hm : Message.fromBytes cell = .ok m)
    (hforward : m.Forward circuitId) (hpadding : m.command ≠ .padding) :
    ∃ cipher relay, n.host.relay.Passes circuitId cipher ∧
      relay.Passes circuitId
        { cipher with forward := cipher.forward.advance m.data.length } ∧
      n.serve P A connect =
        ⟨{ n with host := { n.host with relay }, fwdIn := cells },
          [.toNextHop ((m.peel P cipher).toBytes n.host.padding)]⟩ := by
  obtain ⟨cipher, hpasses⟩ := h.passes
  obtain ⟨rfl, hfits, hcommand⟩ := hforward
  -- of the forward commands only PADDING is not relayed
  have hrelayed : m.command.relayed = true := by
    rcases hcommand with hc | hc | hc | hc
    · exact absurd hc hpadding
    all_goals rw [hc]; rfl
  obtain ⟨relay, hserved, hpasses'⟩ :=
    @Relay.Passes.onMessage_relayed P A _ cipher (n.env connect) n.host.padding m hpasses
      hrelayed rfl hfits
  refine ⟨cipher, relay, hpasses, hpasses', ?_⟩
  rw [Node.serve, h.serving, hcells]
  dsimp only
  rw [hm]
  dsimp only
  rw [hserved]

/-- **A node serving its previous hop** peels its layer off a forward cell and passes it on;
PADDING it drops. -/
theorem Relaying.serve {n : Node} (h : n.Relaying circuitId)
    (connect : String → Except IoError Unit) :
    Forwards P circuitId n (n.serve P A connect) := by
  cases hcells : n.fwdIn with
  | nil =>
    have hidle : n.serve P A connect = ⟨n, []⟩ := by
      rw [Node.serve, h.serving, hcells]
    rw [hidle]
    exact h.forwards_refl
  | cons cell cells =>
    obtain ⟨cipher, hpasses⟩ := h.passes
    have hfwd := h.fwd
    rw [hcells] at hfwd
    obtain ⟨m, hm, ⟨rfl, hfits, hcommand⟩, hrest, hmessages⟩ := hfwd.head
    have hbefore : n.forwardStage P m.circuitId =
        ([cipher.forward.layer P], m :: messagesIn cells) := by
      rw [forwardStage, hpasses.cipher?, hcells, hmessages]
      rfl
    by_cases hpadding : m.command = .padding
    · obtain ⟨cipher', relay, hpasses₀, hpasses', hserve⟩ :=
        @Relaying.serve_padding P A _ n h connect _ _ m hcells hm ⟨rfl, hfits, hcommand⟩ hpadding
      -- no layer advances: PADDING reaches no cipher
      obtain rfl : cipher = cipher' :=
        Option.some.inj (hpasses.cipher?.symm.trans hpasses₀.cipher?)
      rw [hserve]
      refine ⟨⟨⟨cipher, hpasses'⟩, h.serving, h.reading, hrest, h.bwd⟩, ?_, Carries.nil, rfl, ?_⟩
      · have hmove := Settles.move (f := onion.stage) [cipher.forward.layer P] m
          (messagesIn cells)
        rw [onion.stage_dropped (decide_eq_true hpadding)] at hmove
        rw [hbefore, forwardStage, hpasses'.cipher?]
        exact hmove
      · rw [backwardStage, backwardStage, hpasses.cipher?, hpasses'.cipher?]
    · obtain ⟨cipher', relay, hpasses₀, hpasses', hserve⟩ :=
        @Relaying.serve_relayed P A _ n h connect _ _ m hcells hm ⟨rfl, hfits, hcommand⟩ hpadding
      obtain rfl : cipher = cipher' :=
        Option.some.inj (hpasses.cipher?.symm.trans hpasses₀.cipher?)
      -- the peeled cell is the stage's output, and the cipher has advanced as its layer has
      have hpeelFits : (m.peel P cipher).data.length ≤ MAX_PAYLOAD_SIZE := by
        rw [Message.length_peel]
        exact hfits
      rw [hserve]
      refine ⟨⟨⟨_, hpasses'⟩, h.serving, h.reading, hrest, h.bwd⟩, ?_,
        Carries.singleton ⟨rfl, hpeelFits, hcommand⟩ hpeelFits, rfl, ?_⟩
      · have hstage : onion.stage [cipher.forward.layer P] m =
            ([(cipher.forward.layer P).advance m.data.length], [m.peel P cipher]) :=
          onion.stage_passed (decide_eq_false hpadding) _
        have hmove := Settles.move (f := onion.stage) [cipher.forward.layer P] m
          (messagesIn cells)
        rw [hstage] at hmove
        rw [hbefore, forwardStage, hpasses'.cipher?]
        show Settles onion.stage _ _ (messagesIn [(m.peel P cipher).toBytes n.host.padding])
        rw [messagesIn_singleton hpeelFits]
        exact hmove
      · rw [backwardStage, backwardStage, hpasses.cipher?, hpasses'.cipher?]
        rfl

/-- **A node reading its next hop** adds its layer to a backward cell and passes it back. -/
theorem Relaying.readNext {n : Node} (h : n.Relaying circuitId) :
    Backwards P circuitId n (n.readNext P A circuitId) := by
  cases hcells : n.bwdIn with
  | nil =>
    have hidle : n.readNext P A circuitId = ⟨n, []⟩ := by
      rw [Node.readNext, h.reading, hcells]
    rw [hidle]
    exact h.backwards_refl
  | cons cell cells =>
    obtain ⟨cipher, hpasses⟩ := h.passes
    have hbwd := h.bwd
    rw [hcells] at hbwd
    obtain ⟨m, hm, ⟨rfl, hfits, hcommand⟩, hrest, hmessages⟩ := hbwd.head
    -- no backward command ends the reader or is dropped
    have hnotDestroy : m.command ≠ .destroy := by
      rcases hcommand with hc | hc | hc
      all_goals rw [hc]; decide
    have hpadding : m.command ≠ .padding := by
      rcases hcommand with hc | hc | hc
      all_goals rw [hc]; decide
    obtain ⟨relay, hserved, hpasses'⟩ :=
      @Relay.Passes.readerStep_relayed P A _ cipher (n.env fun _ => .ok ()) n.host.padding m
        hpasses (fun hc => hnotDestroy hc.2) rfl hfits
    have hwrapFits : (m.wrap P cipher).data.length ≤ MAX_PAYLOAD_SIZE := by
      rw [Message.length_wrap]
      exact hfits
    have hread : n.readNext P A m.circuitId =
        ⟨{ n with
            host := { n.host with relay }
            bwdIn := cells
            reading := true }, [.toPrevHop ((m.wrap P cipher).toBytes n.host.padding)]⟩ := by
      rw [Node.readNext, h.reading, hcells]
      dsimp only
      rw [hm]
      dsimp only [Except.toOption]
      rw [hserved]
    rw [hread]
    refine ⟨⟨⟨_, hpasses'⟩, h.serving, rfl, h.fwd, hrest⟩, ?_,
      Carries.singleton ⟨rfl, hwrapFits, hcommand⟩ hwrapFits, rfl, ?_⟩
    · have hstage : onion.stage [cipher.backward.layer P] m =
          ([(cipher.backward.layer P).advance m.data.length], [m.wrap P cipher]) :=
        onion.stage_passed (decide_eq_false hpadding) _
      have hmove := Settles.move (f := onion.stage) [cipher.backward.layer P] m (messagesIn cells)
      rw [hstage] at hmove
      rw [backwardStage, backwardStage, hpasses.cipher?, hpasses'.cipher?, hcells, hmessages]
      show Settles onion.stage _ _ (messagesIn [(m.wrap P cipher).toBytes n.host.padding])
      rw [messagesIn_singleton hwrapFits]
      exact hmove
    · rw [forwardStage, forwardStage, hpasses.cipher?, hpasses'.cipher?]
      rfl

end Node

/-! ## Any node of the line -/

/-- Cells on their way to a node are at the end of its queue. -/
theorem Node.forwardStage_push (n : Node) (cells : List Bytes) :
    ({ n with fwdIn := n.fwdIn ++ cells } : Node).forwardStage P circuitId =
      ((n.forwardStage P circuitId).1, (n.forwardStage P circuitId).2 ++ messagesIn cells) := by
  rw [Node.forwardStage, messagesIn_append]
  rfl

theorem Node.backwardStage_push (n : Node) (cells : List Bytes) :
    ({ n with bwdIn := n.bwdIn ++ cells } : Node).backwardStage P circuitId =
      ((n.backwardStage P circuitId).1, (n.backwardStage P circuitId).2 ++ messagesIn cells) := by
  rw [Node.backwardStage, messagesIn_append]
  rfl

@[simp] theorem forwardStages_cons (n : Node) (rest : List Node) :
    forwardStages P circuitId (n :: rest) =
      n.forwardStage P circuitId :: forwardStages P circuitId rest := rfl

@[simp] theorem backwardStages_cons (n : Node) (rest : List Node) :
    backwardStages P circuitId (n :: rest) =
      backwardStages P circuitId rest ++ [n.backwardStage P circuitId] := by
  simp [backwardStages]

@[simp] theorem pushFirst_nil (nodes : List Node) : pushFirst [] nodes = (nodes, []) := by
  cases nodes with
  | nil => rfl
  | cons n rest => simp [pushFirst]

@[simp] theorem pushLast_nil (nodes : List Node) : pushLast [] nodes = (nodes, []) := by
  induction nodes with
  | nil => rfl
  | cons n rest ih => simp [pushLast, ih]

variable (P circuitId) in
/-- A move of a line that takes forward cells only. -/
structure LineForwards (nodes : List Node) (r : LineActed) : Prop where
  relaying : ∀ n ∈ r.nodes, n.Relaying circuitId
  settles : Settles onion.stage (forwardStages P circuitId nodes)
    (forwardStages P circuitId r.nodes) (messagesIn r.down)
  down : Carries (Message.Forward circuitId) r.down
  up : r.up = []
  backward : backwardStages P circuitId r.nodes = backwardStages P circuitId nodes

variable (P circuitId) in
/-- A move of a line that takes backward cells only. -/
structure LineBackwards (nodes : List Node) (r : LineActed) : Prop where
  relaying : ∀ n ∈ r.nodes, n.Relaying circuitId
  settles : Settles onion.stage (backwardStages P circuitId nodes)
    (backwardStages P circuitId r.nodes) (messagesIn r.up)
  up : Carries (Message.Backward circuitId) r.up
  down : r.down = []
  forward : forwardStages P circuitId r.nodes = forwardStages P circuitId nodes

variable {act : Node → Acted} {nodes : List Node}

/-- **Whichever node takes a forward cell**, the forward pipeline settles. -/
theorem actAt_forwards (hact : ∀ n : Node, n.Relaying circuitId → Node.Forwards P circuitId n (act n))
    (i : Nat) (hnodes : ∀ n ∈ nodes, n.Relaying circuitId) :
    LineForwards P circuitId nodes (actAt act i nodes) := by
  induction i generalizing nodes with
  | zero =>
    cases nodes with
    | nil => exact ⟨hnodes, Settles.refl _, Carries.nil, rfl, rfl⟩
    | cons n rest =>
      have hn := hact n (hnodes n List.mem_cons_self)
      have hrest : ∀ n' ∈ rest, n'.Relaying circuitId := fun n' hn' =>
        hnodes n' (List.mem_cons_of_mem n hn')
      cases rest with
      | nil =>
        refine ⟨?_, hn.settles, hn.down, hn.up, congrArg (fun x => [x]) hn.backward⟩
        intro n' hn'
        rw [List.mem_singleton.mp hn']
        exact hn.relaying
      | cons next rest =>
        -- what the node passes on joins the queue of the next
        have hnext := hrest next List.mem_cons_self
        refine ⟨?_, ?_, Carries.nil, hn.up, ?_⟩
        · intro n' hn'
          rcases List.mem_cons.mp hn' with rfl | hn'
          · exact hn.relaying
          · rcases List.mem_cons.mp hn' with rfl | hn'
            · exact { hnext with fwd := hnext.fwd.append hn.down }
            · exact hrest n' (List.mem_cons_of_mem next hn')
        · have happend := hn.settles.append (next.forwardStage P circuitId).1
            (next.forwardStage P circuitId).2 (forwardStages P circuitId rest)
          rw [← Node.forwardStage_push] at happend
          exact happend
        · simp only [actAt, pushFirst, backwardStages_cons, hn.backward]
          rfl
  | succ i ih =>
    cases nodes with
    | nil => exact ⟨hnodes, Settles.refl _, Carries.nil, rfl, rfl⟩
    | cons n rest =>
      have hr := ih fun n' hn' => hnodes n' (List.mem_cons_of_mem n hn')
      -- a forward move sends nothing back, so the nodes in front stay as they are
      have hsame : ({ n with bwdIn := n.bwdIn ++ (actAt act i rest).up } : Node) = n := by
        rw [hr.up, List.append_nil]
      rw [actAt, hsame]
      refine ⟨?_, hr.settles.cons _, hr.down, rfl, ?_⟩
      · intro n' hn'
        rcases List.mem_cons.mp hn' with rfl | hn'
        · exact hnodes n' List.mem_cons_self
        · exact hr.relaying n' hn'
      · rw [backwardStages_cons, backwardStages_cons, hr.backward]

/-- **Whichever node takes a backward cell**, the backward pipeline settles. -/
theorem actAt_backwards
    (hact : ∀ n : Node, n.Relaying circuitId → Node.Backwards P circuitId n (act n))
    (i : Nat) (hnodes : ∀ n ∈ nodes, n.Relaying circuitId) :
    LineBackwards P circuitId nodes (actAt act i nodes) := by
  induction i generalizing nodes with
  | zero =>
    cases nodes with
    | nil => exact ⟨hnodes, Settles.refl _, Carries.nil, rfl, rfl⟩
    | cons n rest =>
      have hn := hact n (hnodes n List.mem_cons_self)
      rw [actAt, hn.down, pushFirst_nil]
      refine ⟨?_, ?_, hn.up, rfl, ?_⟩
      · intro n' hn'
        rcases List.mem_cons.mp hn' with rfl | hn'
        · exact hn.relaying
        · exact hnodes n' (List.mem_cons_of_mem n hn')
      · rw [backwardStages_cons, backwardStages_cons]
        exact hn.settles.append_left _
      · rw [forwardStages_cons, forwardStages_cons, hn.forward]
  | succ i ih =>
    cases nodes with
    | nil => exact ⟨hnodes, Settles.refl _, Carries.nil, rfl, rfl⟩
    | cons n rest =>
      have hn := hnodes n List.mem_cons_self
      have hr := ih fun n' hn' => hnodes n' (List.mem_cons_of_mem n hn')
      refine ⟨?_, ?_, Carries.nil, hr.down, ?_⟩
      · intro n' hn'
        rcases List.mem_cons.mp hn' with rfl | hn'
        · exact { hn with bwd := hn.bwd.append hr.up }
        · exact hr.relaying n' hn'
      · have happend := hr.settles.append (n.backwardStage P circuitId).1
          (n.backwardStage P circuitId).2 []
        rw [← Node.backwardStage_push] at happend
        rw [actAt, backwardStages_cons, backwardStages_cons]
        exact happend
      · rw [actAt, forwardStages_cons, forwardStages_cons, hr.forward]
        rfl

/-! ## What enters the line -/

/-- Cells written to the line are flushed through it, whatever stands behind. -/
theorem pushFirst_flush {cells : List Bytes} (hnodes : ∀ n ∈ nodes, n.Relaying circuitId)
    (hcells : Carries (Message.Forward circuitId) cells) :
    (∀ n ∈ (pushFirst cells nodes).1, n.Relaying circuitId) ∧
      Carries (Message.Forward circuitId) (pushFirst cells nodes).2 ∧
      backwardStages P circuitId (pushFirst cells nodes).1 = backwardStages P circuitId nodes ∧
      ∀ t r rest inp,
        flush onion.stage (forwardStages P circuitId (pushFirst cells nodes).1 ++
            (t, r ++ messagesIn (pushFirst cells nodes).2) :: rest) inp =
          flush onion.stage (forwardStages P circuitId nodes ++ (t, r) :: rest)
            (messagesIn cells ++ inp) := by
  cases nodes with
  | nil => exact ⟨hnodes, hcells, rfl, fun t r rest inp => flush_push ..⟩
  | cons n tail =>
    have hn := hnodes n List.mem_cons_self
    refine ⟨?_, Carries.nil, ?_, ?_⟩
    · intro n' hn'
      rcases List.mem_cons.mp hn' with rfl | hn'
      · exact { hn with fwd := hn.fwd.append hcells }
      · exact hnodes n' (List.mem_cons_of_mem n hn')
    · rw [pushFirst, backwardStages_cons, backwardStages_cons]
      rfl
    · intro t r rest inp
      have hnil : messagesIn [] = [] := rfl
      rw [pushFirst, forwardStages_cons, forwardStages_cons, Node.forwardStage_push, hnil,
        List.append_nil]
      exact flush_push ..

/-- Cells written back to the line are flushed through it, whatever stands in front. -/
theorem pushLast_flush {cells : List Bytes} (hnodes : ∀ n ∈ nodes, n.Relaying circuitId)
    (hcells : Carries (Message.Backward circuitId) cells) :
    (∀ n ∈ (pushLast cells nodes).1, n.Relaying circuitId) ∧
      Carries (Message.Backward circuitId) (pushLast cells nodes).2 ∧
      forwardStages P circuitId (pushLast cells nodes).1 = forwardStages P circuitId nodes ∧
      ∀ t r rest inp,
        flush onion.stage (backwardStages P circuitId (pushLast cells nodes).1 ++
            (t, r ++ messagesIn (pushLast cells nodes).2) :: rest) inp =
          flush onion.stage (backwardStages P circuitId nodes ++ (t, r) :: rest)
            (messagesIn cells ++ inp) := by
  induction nodes with
  | nil => exact ⟨hnodes, hcells, rfl, fun t r rest inp => flush_push ..⟩
  | cons n tail ih =>
    have hn := hnodes n List.mem_cons_self
    obtain ⟨htail, hup, hforward, hflush⟩ := ih fun n' hn' =>
      hnodes n' (List.mem_cons_of_mem n hn')
    refine ⟨?_, Carries.nil, ?_, ?_⟩
    · intro n' hn'
      rcases List.mem_cons.mp hn' with rfl | hn'
      · exact { hn with bwd := hn.bwd.append hup }
      · exact htail n' hn'
    · rw [pushLast, forwardStages_cons, forwardStages_cons, hforward]
      rfl
    · intro t r rest inp
      have hnil : messagesIn [] = [] := rfl
      rw [pushLast, backwardStages_cons, backwardStages_cons, Node.backwardStage_push, hnil,
        List.append_nil, List.append_assoc, List.append_assoc]
      exact hflush _ _ ((t, r) :: rest) inp

end MiniTor
