import MiniTor.Circuit.Line
import MiniTor.Relay.Readers
import MiniTor.Theory.Drain

/-!
# The chain of next-hop readers

The readers of a circuit's relays, from some relay to the entry, when connections may
end. A reader whose input has ended sends a DESTROY and shuts its previous hop's
connection down. A middle relays a DESTROY like any cell and adds its own; the entry
stops at the first.

- `LinkedNode.read_act`, `readAt_drainAt`: a turn of a reader is a turn of the
  abstract chain of `Theory.Drain`.
- `remaining_chain`: what that chain emits: the cells under every layer, and one
  DESTROY, however many middles there are.
-/

namespace MiniTor

open Theory

variable (P : Primitives) (A : AddrSyntax) (circuitId : CircuitId)

/-! ## Readers one after the other -/

/-- A node whose next-hop connection may have ended. -/
structure LinkedNode where
  node : Node
  ended : Bool

/-- A relay whose reader has nothing to read yet. -/
def LinkedNode.waiting (host : Host) : LinkedNode where
  node := { host, fwdIn := [], bwdIn := [], serving := true, reading := true }
  ended := false

/-- What a turn of a node's reader leaves and does. -/
structure LinkedActed where
  node : LinkedNode
  sent : List Effect

/-- The previous hop's connection is shut down. -/
def shutsDown (sent : List Effect) : Bool :=
  sent.any fun e =>
    match e with
    | .shutdownPrevHop => true
    | _ => false

/-- One turn of the next-hop reader; with nothing to read it waits, unless the connection has
ended. -/
def LinkedNode.read (n : LinkedNode) : LinkedActed :=
  match n.node.bwdIn, n.ended && n.node.reading with
  | [], true =>
    let served := n.node.host.relay.readerStep P A (n.node.env fun _ => .ok ()) circuitId none
    ⟨{ n with
        node := { n.node with
          host := { n.node.host with relay := served.relay }
          reading := served.serving } }, served.sent⟩
  | _, _ =>
    let a := n.node.readNext P A circuitId
    ⟨{ n with node := a.node }, a.sent⟩

/-- A chain of readers from the relay behind to the entry, and what leaves it towards the
client: cells, and the end of the connection. -/
structure ChainActed where
  nodes : List LinkedNode
  cells : List Bytes
  shut : Bool

/-- What a reader sends arrives at the next one. -/
def passUp (cells : List Bytes) (shut : Bool) : List LinkedNode → ChainActed
  | [] => ⟨[], cells, shut⟩
  | n :: rest =>
    ⟨{ node := { n.node with bwdIn := n.node.bwdIn ++ cells }, ended := n.ended || shut } :: rest,
      [], false⟩

/-- A turn of the reader at an index. -/
def readAt : Nat → List LinkedNode → ChainActed
  | _, [] => ⟨[], [], false⟩
  | 0, n :: rest =>
    let a := n.read P A circuitId
    let up := passUp (cellsBackward a.sent) (shutsDown a.sent) rest
    { up with nodes := a.node :: up.nodes }
  | i + 1, n :: rest =>
    let up := readAt i rest
    { up with nodes := n :: up.nodes }

/-- The messages a relay may be given to pass back. -/
structure Message.Fit (circuitId : CircuitId) (m : Message) : Prop where
  circuit : m.circuitId = circuitId
  fits : m.data.length ≤ MAX_PAYLOAD_SIZE

/-- The cells a next hop delivers before its connection ends. -/
structure Message.Delivered (circuitId : CircuitId) (m : Message) : Prop
    extends m.Fit circuitId where
  notDestroy : m.command ≠ .destroy

/-- A relay adds its layer to one cell after the other. -/
def wrapAll (cipher : CipherPair) : List Message → List Message
  | [] => []
  | m :: ms =>
    m.wrap P cipher ::
      wrapAll { cipher with backward := cipher.backward.advance m.data.length } ms

/-- The cells under the layers of all relays they pass, the first to be passed first. -/
def layered (ciphers : List CipherPair) (cells : List Message) : List Message :=
  ciphers.foldl (fun ms cipher => wrapAll P cipher ms) cells

/-! ## A reader as a stage of the abstract chain -/

/-- What the reader of a role with these layers does with a message. -/
def passBack (s : NodeType × List Keyed) (m : Message) :
    (NodeType × List Keyed) × List Message × Bool :=
  if s.1 = .entry ∧ m.command = .destroy then (s, [Message.destroy circuitId], false)
  else ((s.1, s.2.map (Keyed.advance · m.data.length)), [onion.through s.2 m], true)

/-- What it sends when its input has ended. -/
def lastCell (_ : NodeType × List Keyed) : List Message := [Message.destroy circuitId]

namespace LinkedNode

def draining (n : LinkedNode) : Draining (NodeType × List Keyed) Message where
  state := (n.node.host.relay.nodeType, (n.node.backwardStage P circuitId).1)
  queue := messagesIn n.node.bwdIn
  running := n.node.reading

/-- The node has the circuit, and what is on its way to it can be passed back. -/
structure Ready (n : LinkedNode) : Prop where
  passes : ∃ cipher, n.node.host.relay.Passes circuitId cipher
  bwd : Carries (Message.Fit circuitId) n.node.bwdIn

/-- A turn of a node's reader is a turn of its stage. -/
structure Acts (n : LinkedNode) (a : LinkedActed) : Prop where
  ready : a.node.Ready circuitId
  ended : a.node.ended = n.ended
  cells : Carries (Message.Fit circuitId) (cellsBackward a.sent)
  node : a.node.draining P circuitId =
    ((n.draining P circuitId).act (passBack circuitId) (lastCell circuitId) n.ended).1
  sent : messagesIn (cellsBackward a.sent) =
    ((n.draining P circuitId).act (passBack circuitId) (lastCell circuitId) n.ended).2
  stops : (!a.node.node.reading) = (!n.node.reading || shutsDown a.sent)

end LinkedNode

variable {P A circuitId}

/-- On a working link a circuit is torn down by a DESTROY and a shutdown. -/
theorem Relay.tearDown_working {env : Env} {padding : Nat → UInt8}
    (henv : env.prevHop = .working padding) :
    Relay.tearDown env circuitId =
      [.toPrevHop ((Message.destroy circuitId).toBytes padding), .shutdownPrevHop] := by
  rw [Relay.tearDown, henv, Message.writeToStream_working (Nat.zero_le _)]

theorem Message.fit_destroy : (Message.destroy circuitId).Fit circuitId := ⟨rfl, Nat.zero_le _⟩

theorem messagesIn_destroy (padding : Nat → UInt8) :
    messagesIn [(Message.destroy circuitId).toBytes padding] = [Message.destroy circuitId] :=
  messagesIn_singleton (Nat.zero_le _)

/-- The layer of a relay, as a stage applies it. -/
theorem onion_through_layer (cipher : CipherPair) (m : Message) :
    onion.through [cipher.backward.layer P] m = m.wrap P cipher := rfl

namespace LinkedNode

/-- A node that has nothing to do. -/
theorem acts_idle {n : LinkedNode} (hn : n.Ready circuitId)
    (hidle : ¬(n.draining P circuitId).Able n.ended) : Acts P circuitId n ⟨n, []⟩ := by
  have hact : (n.draining P circuitId).act (passBack circuitId) (lastCell circuitId) n.ended =
      (n.draining P circuitId, []) := by
    refine ((n.draining P circuitId).load_act ?_ ?_).2 hidle
    · intro s m
      unfold passBack
      split <;> exact Nat.le_refl 1
    · exact fun _ => Nat.le_refl 1
  refine ⟨hn, rfl, Carries.nil, ?_, ?_, (Bool.or_false _).symm⟩
  · rw [hact]
  · rw [hact]
    rfl

/-- A reader that has stopped, or waits. -/
theorem read_idle {n : LinkedNode}
    (h : n.node.reading = false ∨ n.node.bwdIn = [] ∧ n.ended = false) :
    n.read P A circuitId = ⟨n, []⟩ := by
  obtain ⟨⟨host, fwdIn, bwdIn, serving, reading⟩, ended⟩ := n
  rcases h with hstopped | ⟨hcells, hended⟩
  · cases hstopped
    cases bwdIn <;> cases ended <;> rfl
  · cases hcells
    cases hended
    cases reading <;> rfl

/-- A reader whose input has ended. -/
theorem read_over {n : LinkedNode} (hreading : n.node.reading = true)
    (hcells : n.node.bwdIn = []) (hended : n.ended = true) :
    n.read P A circuitId =
      ⟨{ n with node := { n.node with reading := false } },
        [.toPrevHop ((Message.destroy circuitId).toBytes n.node.host.padding),
          .shutdownPrevHop]⟩ := by
  obtain ⟨⟨host, fwdIn, bwdIn, serving, reading⟩, ended⟩ := n
  cases hreading
  cases hcells
  cases hended
  have hdown := @Relay.tearDown_working circuitId
    (({ host, fwdIn, bwdIn := [], serving, reading := true } : Node).env fun _ => .ok ())
    host.padding rfl
  rw [← hdown]
  rfl

/-- A reader with a cell to read. -/
theorem read_cell {n : LinkedNode} {cell : Bytes} {cells : List Bytes} {m : Message}
    (hreading : n.node.reading = true) (hcells : n.node.bwdIn = cell :: cells)
    (hm : Message.fromBytes cell = .ok m) {served : Served}
    (hserved : n.node.host.relay.readerStep P A (n.node.env fun _ => .ok ()) circuitId (some m) =
      served) :
    n.read P A circuitId =
      ⟨{ n with
          node := { n.node with
            host := { n.node.host with relay := served.relay }
            bwdIn := cells
            reading := served.serving } }, served.sent⟩ := by
  obtain ⟨⟨host, fwdIn, bwdIn, serving, reading⟩, ended⟩ := n
  cases hreading
  cases hcells
  have hsome : (Message.fromBytes cell).toOption = some m := by
    rw [hm]
    rfl
  rw [← hserved, ← hsome]
  rfl

/-- The stage of a node with a message to read. -/
theorem act_cell {n : LinkedNode} (hreading : n.node.reading = true) {m : Message}
    {cells : List Message} (hmessages : messagesIn n.node.bwdIn = m :: cells) :
    (n.draining P circuitId).act (passBack circuitId) (lastCell circuitId) n.ended =
      ({ state := (passBack circuitId (n.draining P circuitId).state m).1
         queue := cells
         running := (passBack circuitId (n.draining P circuitId).state m).2.2 },
        (passBack circuitId (n.draining P circuitId).state m).2.1) := by
  unfold draining Draining.act
  dsimp only
  rw [hreading, hmessages]

/-- A reader whose input has ended tells its previous hop. -/
theorem acts_over {n : LinkedNode} (hn : n.Ready circuitId) (hreading : n.node.reading = true)
    (hcells : n.node.bwdIn = []) (hended : n.ended = true) :
    Acts P circuitId n (n.read P A circuitId) := by
  have hact : (n.draining P circuitId).act (passBack circuitId) (lastCell circuitId) n.ended =
      ({ n.draining P circuitId with running := false }, [Message.destroy circuitId]) := by
    unfold draining Draining.act
    dsimp only
    rw [hreading, hcells, hended]
    rfl
  rw [read_over hreading hcells hended]
  refine ⟨⟨hn.passes, hn.bwd⟩, rfl, Carries.singleton Message.fit_destroy (Nat.zero_le _),
    ?_, ?_, ?_⟩
  · rw [hact]
    rfl
  · rw [hact]
    exact messagesIn_destroy _
  · rw [hreading]
    rfl

/-- The entry's reader stops at a DESTROY. -/
theorem acts_destroy {n : LinkedNode} (hn : n.Ready circuitId) (hreading : n.node.reading = true)
    {cell : Bytes} {cells : List Bytes} (hcells : n.node.bwdIn = cell :: cells) {m : Message}
    (hm : Message.fromBytes cell = .ok m)
    (hmessages : messagesIn (cell :: cells) = m :: messagesIn cells)
    (hrest : Carries (Message.Fit circuitId) cells)
    (hstops : n.node.host.relay.nodeType = .entry ∧ m.command = .destroy) :
    Acts P circuitId n (n.read P A circuitId) := by
  -- the entry does not forward the DESTROY it reads, it tears down with one of its own
  have hserved : n.node.host.relay.readerStep P A (n.node.env fun _ => .ok ()) circuitId (some m) =
      ⟨n.node.host.relay,
        [.toPrevHop ((Message.destroy circuitId).toBytes n.node.host.padding),
          .shutdownPrevHop], false⟩ := by
    rw [Relay.readerStep, if_pos hstops, Relay.tearDown_working rfl]
  have hpass : passBack circuitId (n.draining P circuitId).state m =
      ((n.draining P circuitId).state, [Message.destroy circuitId], false) := if_pos hstops
  have hact := @act_cell P circuitId n hreading m (messagesIn cells) (by rw [hcells, hmessages])
  rw [hpass] at hact
  rw [read_cell hreading hcells hm hserved]
  refine ⟨⟨hn.passes, hrest⟩, rfl, Carries.singleton Message.fit_destroy (Nat.zero_le _),
    ?_, ?_, ?_⟩
  · rw [hact]
    rfl
  · rw [hact]
    exact messagesIn_destroy _
  · rw [hreading]
    rfl

/-- Every other cell is passed back under the node's layer. -/
theorem acts_relayed {n : LinkedNode} (hn : n.Ready circuitId) (hreading : n.node.reading = true)
    {cell : Bytes} {cells : List Bytes} (hcells : n.node.bwdIn = cell :: cells) {m : Message}
    (hm : Message.fromBytes cell = .ok m)
    (hmessages : messagesIn (cell :: cells) = m :: messagesIn cells)
    (hrest : Carries (Message.Fit circuitId) cells) (hfit : m.Fit circuitId)
    (hgoes : ¬(n.node.host.relay.nodeType = .entry ∧ m.command = .destroy)) :
    Acts P circuitId n (n.read P A circuitId) := by
  obtain ⟨cipher, hpasses⟩ := hn.passes
  obtain ⟨rfl, hfits⟩ := hfit
  obtain ⟨relay, hserved, hpasses'⟩ :=
    @Relay.Passes.readerStep_relayed P A _ cipher (n.node.env fun _ => .ok ())
      n.node.host.padding m hpasses hgoes rfl hfits
  have hrole : relay.nodeType = n.node.host.relay.nodeType := by
    have hkept := @Relay.nodeType_readerStep P A n.node.host.relay
      (n.node.env fun _ => .ok ()) m.circuitId (some m)
    rw [hserved] at hkept
    exact hkept
  -- the role and the layer of the stage are those of the relay, before the step and after it
  have hlayers : (n.node.backwardStage P m.circuitId).1 = [cipher.backward.layer P] := by
    rw [Node.backwardStage, hpasses.cipher?]
    rfl
  have hpass : passBack m.circuitId (n.draining P m.circuitId).state m =
      ((n.node.host.relay.nodeType,
        [(cipher.backward.layer P).advance m.data.length]), [m.wrap P cipher], true) := by
    refine (if_neg hgoes).trans ?_
    rw [draining, hlayers, onion_through_layer]
    rfl
  have hwrapFits : (m.wrap P cipher).data.length ≤ MAX_PAYLOAD_SIZE := by
    rw [Message.length_wrap]
    exact hfits
  have hact := @act_cell P m.circuitId n hreading m (messagesIn cells) (by rw [hcells, hmessages])
  rw [hpass] at hact
  rw [read_cell hreading hcells hm hserved]
  refine ⟨⟨⟨_, hpasses'⟩, hrest⟩, rfl, Carries.singleton ⟨rfl, hwrapFits⟩ hwrapFits, ?_, ?_, ?_⟩
  · rw [hact, draining, hrole, Node.backwardStage, hpasses'.cipher?]
    rfl
  · rw [hact]
    exact messagesIn_singleton hwrapFits
  · rw [hreading]
    rfl

/-- **A turn of a node's reader is a turn of its stage.** -/
theorem read_act {n : LinkedNode} (hn : n.Ready circuitId) :
    Acts P circuitId n (n.read P A circuitId) := by
  cases hreading : n.node.reading with
  | false =>
    rw [read_idle (.inl hreading)]
    refine acts_idle hn fun hable => ?_
    have hrunning : n.node.reading = true := hable.1
    rw [hreading] at hrunning
    cases hrunning
  | true =>
    cases hcells : n.node.bwdIn with
    | nil =>
      cases hended : n.ended with
      | false =>
        rw [read_idle (.inr ⟨hcells, hended⟩)]
        refine acts_idle hn ?_
        rintro ⟨-, hqueue | hover⟩
        · refine hqueue ?_
          show messagesIn n.node.bwdIn = []
          rw [hcells]
          rfl
        · rw [hended] at hover
          cases hover
      | true => exact acts_over hn hreading hcells hended
    | cons cell cells =>
      have hbwd := hn.bwd
      rw [hcells] at hbwd
      obtain ⟨m, hm, hfit, hrest, hmessages⟩ := hbwd.head
      by_cases hstops : n.node.host.relay.nodeType = .entry ∧ m.command = .destroy
      · exact acts_destroy hn hreading hcells hm hmessages hrest hstops
      · exact acts_relayed hn hreading hcells hm hmessages hrest hfit hstops

end LinkedNode

/-! ## The chain -/

/-- Every node is ready, and the connection between two nodes has ended exactly if the reader
behind has stopped. -/
def Chained (circuitId : CircuitId) : Bool → List LinkedNode → Bool → Prop
  | eof, [], ended => ended = eof
  | eof, n :: rest, ended =>
    n.Ready circuitId ∧ n.ended = eof ∧ Chained circuitId (!n.node.reading) rest ended

section Chain

variable {eof ended : Bool} {nodes : List LinkedNode}

/-- What reaches the next node joins its queue. -/
theorem passUp_chained {cells : List Bytes} (h : Chained circuitId eof nodes ended)
    (hcells : Carries (Message.Fit circuitId) cells) (shut : Bool) :
    Chained circuitId (eof || shut) (passUp cells shut nodes).nodes
        (ended || (passUp cells shut nodes).shut) ∧
      Carries (Message.Fit circuitId) (passUp cells shut nodes).cells ∧
      pushHead (messagesIn cells) (nodes.map (LinkedNode.draining P circuitId)) =
        ((passUp cells shut nodes).nodes.map (LinkedNode.draining P circuitId),
          messagesIn (passUp cells shut nodes).cells) := by
  cases nodes with
  | nil => exact ⟨congrArg (· || shut) h, hcells, rfl⟩
  | cons n rest =>
    obtain ⟨hready, hended, hrest⟩ := h
    refine ⟨⟨⟨hready.passes, hready.bwd.append hcells⟩, congrArg (· || shut) hended, ?_⟩,
      Carries.nil, ?_⟩
    · show Chained circuitId (!n.node.reading) rest (ended || false)
      rw [Bool.or_false]
      exact hrest
    · show ({ n.draining P circuitId with
        queue := messagesIn n.node.bwdIn ++ messagesIn cells } :: _, _) = _
      rw [← messagesIn_append]
      rfl

/-- **A turn of any reader of the chain is a turn of the abstract chain.** -/
theorem readAt_drainAt (i : Nat) (h : Chained circuitId eof nodes ended) :
    Chained circuitId eof (readAt P A circuitId i nodes).nodes
        (ended || (readAt P A circuitId i nodes).shut) ∧
      Carries (Message.Fit circuitId) (readAt P A circuitId i nodes).cells ∧
      drainAt (passBack circuitId) (lastCell circuitId) eof i
          (nodes.map (LinkedNode.draining P circuitId)) =
        ((readAt P A circuitId i nodes).nodes.map (LinkedNode.draining P circuitId),
          messagesIn (readAt P A circuitId i nodes).cells) := by
  induction nodes generalizing i eof with
  | nil =>
    have hsame : Chained circuitId eof [] (ended || false) := by
      rw [Bool.or_false]
      exact h
    cases i <;> exact ⟨hsame, Carries.nil, rfl⟩
  | cons n rest ih =>
    obtain ⟨hready, hended, hrest⟩ := h
    cases i with
    | zero =>
      have hact := LinkedNode.read_act (P := P) (A := A) hready
      obtain ⟨hchained, hcells, hpush⟩ := passUp_chained (P := P) hrest hact.cells
        (shutsDown (n.read P A circuitId).sent)
      -- a reader that stops has just shut its connection down, which is the end the next one sees
      rw [← hact.stops] at hchained
      refine ⟨⟨hact.ready, hact.ended.trans hended, hchained⟩, hcells, ?_⟩
      have hnode := hact.node
      have hsent := hact.sent
      rw [hended] at hnode hsent
      rw [List.map_cons, drainAt_zero, ← hnode, ← hsent, hpush]
      rfl
    | succ i =>
      obtain ⟨hchained, hcells, hdrain⟩ := ih i hrest
      refine ⟨⟨hready, hended, hchained⟩, hcells, ?_⟩
      have hrunning : (n.draining P circuitId).running = n.node.reading := rfl
      rw [List.map_cons, drainAt_succ, hrunning, hdrain]
      rfl

/-- A node replaced by one that has the same stage. -/
theorem Chained.modify {i : Nat} {f : LinkedNode → LinkedNode}
    (h : Chained circuitId eof nodes ended)
    (hf : ∀ n, nodes[i]? = some n → n.Ready circuitId →
      (f n).Ready circuitId ∧ (f n).ended = n.ended ∧
        (f n).draining P circuitId = n.draining P circuitId) :
    Chained circuitId eof (nodes.modify i f) ended ∧
      (nodes.modify i f).map (LinkedNode.draining P circuitId) =
        nodes.map (LinkedNode.draining P circuitId) := by
  induction nodes generalizing i eof with
  | nil => cases i <;> exact ⟨h, rfl⟩
  | cons n rest ih =>
    obtain ⟨hready, hended, hrest⟩ := h
    cases i with
    | zero =>
      obtain ⟨hready', hended', hsame⟩ := hf n rfl hready
      have hreading : (f n).node.reading = n.node.reading := congrArg Draining.running hsame
      rw [List.modify_zero_cons, List.map_cons, List.map_cons, hsame]
      exact ⟨⟨hready', hended'.trans hended, by rw [hreading]; exact hrest⟩, rfl⟩
    | succ i =>
      obtain ⟨hrest', hsame⟩ := ih hrest fun n' hn' => hf n' hn'
      rw [List.modify_succ_cons, List.map_cons, List.map_cons, hsame]
      exact ⟨⟨hready, hended, hrest'⟩, rfl⟩

/-- Once all readers have stopped, the client's connection has ended. -/
theorem Chained.ended_of_rest (h : Chained circuitId eof nodes ended)
    (hrest : ∀ n ∈ nodes, n.node.reading = false) (hne : nodes ≠ []) : ended = true := by
  induction nodes generalizing eof with
  | nil => exact absurd rfl hne
  -- the end passes from one stopped reader to the next
  | cons n rest ih =>
    obtain ⟨-, -, hchained⟩ := h
    rw [hrest n List.mem_cons_self] at hchained
    cases rest with
    | nil => exact hchained
    | cons next rest =>
      exact ih hchained (fun n' hn' => hrest n' (List.mem_cons_of_mem n hn')) nofun

end Chain

/-! ## What the chain emits -/

/-- A DESTROY has no payload for a layer to be put on. -/
theorem wrap_destroy (cipher : CipherPair) :
    (Message.destroy circuitId).wrap P cipher = Message.destroy circuitId := by
  have hempty : ((Message.destroy circuitId).wrap P cipher).data = [] := by
    rw [← List.length_eq_zero_iff, Message.length_wrap]
    rfl
  show { Message.destroy circuitId with data := ((Message.destroy circuitId).wrap P cipher).data } =
    Message.destroy circuitId
  rw [hempty]
  rfl

theorem wrapAll_cons (cipher : CipherPair) (m : Message) (ms : List Message) :
    wrapAll P cipher (m :: ms) = m.wrap P cipher ::
      wrapAll P { cipher with backward := cipher.backward.advance m.data.length } ms := rfl

theorem wrapAll_destroys (cipher : CipherPair) (ms : List Message) (k : Nat) :
    wrapAll P cipher (ms ++ List.replicate k (Message.destroy circuitId)) =
      wrapAll P cipher ms ++ List.replicate k (Message.destroy circuitId) := by
  induction ms generalizing cipher with
  | nil =>
    induction k generalizing cipher with
    | zero => rfl
    | succ k ih =>
      rw [List.nil_append, List.replicate_succ, wrapAll_cons, wrap_destroy]
      exact congrArg _ (ih _)
  | cons m ms ih =>
    rw [List.cons_append, wrapAll_cons, ih]
    rfl

theorem wrapAll_notDestroy {cipher : CipherPair} {ms : List Message}
    (h : ∀ m ∈ ms, m.command ≠ .destroy) : ∀ m ∈ wrapAll P cipher ms, m.command ≠ .destroy := by
  induction ms generalizing cipher with
  | nil => exact h
  | cons a ms ih =>
    intro m hm
    rcases List.mem_cons.mp hm with rfl | hm
    · exact h a List.mem_cons_self
    · exact ih (fun m' hm' => h m' (List.mem_cons_of_mem a hm')) m hm

/-- A middle passes everything back and adds a DESTROY. -/
theorem drain_middle (cipher : CipherPair) (ms : List Message) :
    drain (passBack circuitId) (lastCell circuitId) (.middle, [cipher.backward.layer P]) ms =
      wrapAll P cipher ms ++ [Message.destroy circuitId] := by
  induction ms generalizing cipher with
  | nil => rfl
  | cons m ms ih =>
    have hgoes : ¬(NodeType.middle = .entry ∧ m.command = .destroy) := fun h => nomatch h.1
    have hpass : passBack circuitId (.middle, [cipher.backward.layer P]) m =
        ((.middle, [(cipher.backward.layer P).advance m.data.length]), [m.wrap P cipher], true) :=
      if_neg hgoes
    rw [drain_cons, hpass]
    exact congrArg _ (ih { cipher with backward := cipher.backward.advance m.data.length })

/-- The entry passes the cells before the first DESTROY back, and one DESTROY. -/
theorem drain_entry (cipher : CipherPair) {ms : List Message} (k : Nat)
    (h : ∀ m ∈ ms, m.command ≠ .destroy) :
    drain (passBack circuitId) (lastCell circuitId) (.entry, [cipher.backward.layer P])
        (ms ++ List.replicate k (Message.destroy circuitId)) =
      wrapAll P cipher ms ++ [Message.destroy circuitId] := by
  induction ms generalizing cipher with
  | nil => cases k <;> rfl
  | cons m ms ih =>
    have hgoes : ¬(NodeType.entry = .entry ∧ m.command = .destroy) := fun hc =>
      h m List.mem_cons_self hc.2
    have hpass : passBack circuitId (.entry, [cipher.backward.layer P]) m =
        ((.entry, [(cipher.backward.layer P).advance m.data.length]), [m.wrap P cipher], true) :=
      if_neg hgoes
    rw [List.cons_append, drain_cons, hpass]
    exact congrArg _ (ih { cipher with backward := cipher.backward.advance m.data.length }
      fun m' hm' => h m' (List.mem_cons_of_mem m hm'))

/-- A node at work with nothing on its way to it, and the cipher it holds. -/
structure LinkedNode.Waiting (circuitId : CircuitId) (n : LinkedNode) (cipher : CipherPair) :
    Prop where
  passes : n.node.host.relay.Passes circuitId cipher
  bwd : n.node.bwdIn = []
  reading : n.node.reading = true

theorem LinkedNode.Waiting.rest {n : LinkedNode} {cipher : CipherPair}
    (h : n.Waiting circuitId cipher) (ms : List Message) :
    (n.draining P circuitId).rest (passBack circuitId) (lastCell circuitId) ms =
      drain (passBack circuitId) (lastCell circuitId)
        (n.node.host.relay.nodeType, [cipher.backward.layer P]) ms := by
  unfold Draining.rest LinkedNode.draining
  dsimp only
  rw [h.reading, h.bwd, Node.backwardStage, h.passes.cipher?]
  rfl

/-- **What a chain at work emits**, given cells and any number of DESTROYs: the cells under
every layer, and one DESTROY. -/
theorem remaining_chain {nodes : List LinkedNode} {ciphers : List CipherPair} (middles : Nat)
    (hroles : nodes.map (fun n => n.node.host.relay.nodeType) =
      List.replicate middles .middle ++ [.entry])
    (hnodes : List.Forall₂ (LinkedNode.Waiting circuitId) nodes ciphers) {ms : List Message}
    (hms : ∀ m ∈ ms, m.command ≠ .destroy) (k : Nat) :
    remaining (passBack circuitId) (lastCell circuitId)
        (nodes.map (LinkedNode.draining P circuitId))
        (ms ++ List.replicate k (Message.destroy circuitId)) =
      layered P ciphers ms ++ [Message.destroy circuitId] := by
  induction middles generalizing nodes ciphers ms k with
  -- the last of the chain is the entry, where the DESTROYs become one
  | zero =>
    cases hnodes with
    | nil => cases hroles
    | cons hn hrest =>
      rename_i n cipher rest ciphers
      obtain ⟨hrole, htail⟩ := List.cons.inj hroles
      obtain rfl : rest = [] := List.map_eq_nil_iff.mp htail
      cases hrest
      rw [List.map_cons, remaining_cons, hn.rest,
        show n.node.host.relay.nodeType = .entry from hrole, drain_entry cipher k hms]
      rfl
  | succ middles ih =>
    cases hnodes with
    | nil => cases hroles
    | cons hn hrest =>
      rename_i n cipher rest ciphers
      rw [List.replicate_succ, List.cons_append] at hroles
      obtain ⟨hrole, htail⟩ := List.cons.inj hroles
      -- the DESTROYs that come in carry no payload and pass unchanged; the middle's own comes last
      have hmore : wrapAll P cipher ms ++ List.replicate k (Message.destroy circuitId) ++
          [Message.destroy circuitId] =
          wrapAll P cipher ms ++ List.replicate (k + 1) (Message.destroy circuitId) := by
        rw [List.append_assoc, List.replicate_succ']
      rw [List.map_cons, remaining_cons, hn.rest,
        show n.node.host.relay.nodeType = .middle from hrole, drain_middle, wrapAll_destroys,
        hmore, ih htail hrest (wrapAll_notDestroy hms) (k + 1)]
      rfl

end MiniTor
