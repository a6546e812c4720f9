import MiniTor.Circuit.Build
import MiniTor.Circuit.Chain
import MiniTor.Client.Circuit
import MiniTor.Theory.Run

/-!
# Teardown from behind

The next-hop connection of some relay of a circuit ends after a last few cells. Its
reader passes them back and ends its own previous hop's connection, so the reader in
front comes to the end of its input in turn, and so on up to the entry and the
client.

`TeardownSystem` is the chain of readers with the client's reader behind it, all at
their own pace while the rest of each relay and of the client goes on.

- `Sound.step`: what the chain will have emitted in the end is fixed.
- `Sound.workLeft_le`, `Sound.exists_workLeft_lt`: it comes to rest.
- `teardown_once`: what the client's connection has received, in every state of
  every run.
- `Relay.keepsCircuit_onMessage`: the cells a relay may serve meanwhile.
-/

namespace MiniTor

open Theory

variable (P : Primitives) (A : AddrSyntax) (circuitId : CircuitId)

/-! ## The system -/

/-- The readers of a circuit being torn down, and the client. -/
structure TeardownSystem where
  /-- From the relay whose next hop has gone to the entry. -/
  nodes : List LinkedNode
  /-- Everything written to the client's connection. -/
  toClient : List Bytes
  /-- What the client has not read of it. -/
  unread : List Bytes
  clientEnded : Bool
  client : Client.Circuit
  clientReading : Bool

/-- What can happen next. -/
inductive TeardownEvent
  /-- The reader at an index takes a turn. -/
  | reader (index : Nat)
  /-- The client's reader takes a turn. -/
  | client
  /-- Other tasks of the relay at an index have changed its state. -/
  | relayChanges (index : Nat) (relay : Relay)
  /-- Other tasks of the client have changed the circuit. -/
  | circuitChanges (circuit : Client.Circuit)

/-- The relay has kept the circuit and its backward cipher. -/
def Relay.KeepsCircuit (r r' : Relay) : Prop :=
  r'.nodeType = r.nodeType ∧ ∀ cipher, r.Passes circuitId cipher →
    ∃ forward, r'.Passes circuitId { cipher with forward }

namespace TeardownSystem

/-- The chain at work: all cells are on their way to the relay behind, and its next hop's
connection has ended. -/
def start (behind : Host) (upstream : List Host) (cells : List Bytes) (client : Client.Circuit) :
    TeardownSystem where
  nodes :=
    { node := { host := behind, fwdIn := [], bwdIn := cells, serving := true, reading := true }
      ended := true } :: upstream.map LinkedNode.waiting
  toClient := []
  unread := []
  clientEnded := false
  client := client
  clientReading := true

def step (s : TeardownSystem) : TeardownEvent → TeardownSystem
  | .reader index =>
    let up := readAt P A circuitId index s.nodes
    { s with
      nodes := up.nodes
      toClient := s.toClient ++ up.cells
      unread := s.unread ++ up.cells
      clientEnded := s.clientEnded || up.shut }
  | .client =>
    match s.clientReading, s.unread, s.clientEnded with
    | true, cell :: cells, _ =>
      let o := s.client.readerStep P (Message.fromBytes cell).toOption
      { s with unread := cells, client := o.circuit, clientReading := o.reading }
    | true, [], true =>
      let o := s.client.readerStep P none
      { s with client := o.circuit, clientReading := o.reading }
    | _, _, _ => s
  | .relayChanges index relay =>
    { s with
      nodes := s.nodes.modify index fun n =>
        { n with node := { n.node with host := { n.node.host with relay } } } }
  | .circuitChanges circuit => if s.clientReading then { s with client := circuit } else s

/-- Other tasks of a relay keep the circuit. -/
def Allowed (s : TeardownSystem) : TeardownEvent → Prop
  | .relayChanges index relay =>
    ∀ n, s.nodes[index]? = some n → n.node.host.relay.KeepsCircuit circuitId relay
  | _ => True

/-- Every reader has stopped. -/
def AtRest (s : TeardownSystem) : Prop :=
  (∀ n ∈ s.nodes, n.node.reading = false) ∧ s.clientReading = false

instance (s : TeardownSystem) : Decidable s.AtRest := inferInstanceAs (Decidable (_ ∧ _))

end TeardownSystem

variable {P A circuitId}

/-! ## What keeps a circuit -/

namespace Relay

variable {r : Relay} {cipher : CipherPair} {env : Env} {m : Message}

/-- A forward cell moves the forward cipher only, whether it can be written on or not. -/
theorem Passes.onMessage_forward (h : r.Passes m.circuitId cipher)
    (hcommand : m.command.relayed = true) :
    ∃ forward, (r.onMessage P A env m).relay.Passes m.circuitId { cipher with forward } := by
  obtain ⟨handler, hop, nextHop, hlookup, hhop, hcipher, hnext, hread⟩ := h
  let moved := hop.advanceForward cipher m.data.length
  have hmoved : (handler.withHop moved).hop? = some moved := CircuitHandler.hop?_withHop hhop
  have hrelay : ∀ role, (hop.handleRelay P role env m).handler = moved ∧
      ((hop.handleRelay P role env m).result = .ok none ∨
        ∃ e, (hop.handleRelay P role env m).result = .error e) := by
    intro role
    have hnext' : (hop.withCipher (cipher.applyForward P m.data).1).nextHop = some nextHop := hnext
    unfold HopHandler.handleRelay
    rw [hcipher]
    dsimp only
    rw [hnext']
    dsimp only
    split
    · exact ⟨rfl, .inr ⟨_, rfl⟩⟩
    · exact ⟨rfl, .inl rfl⟩
  have hsome : hop.nextHop.isSome = true := by
    rw [hnext]
    rfl
  have hhandler : (handler.handleMessage P A env (some env.prevHop) m).handler =
      handler.withHop moved ∧
      ((handler.handleMessage P A env (some env.prevHop) m).result = .ok none ∨
        ∃ e, (handler.handleMessage P A env (some env.prevHop) m).result = .error e) := by
    -- an exit has no next hop, so only the entry and the middle can be linked
    cases handler with
    | entry e =>
      cases hhop
      rw [CircuitHandler.handleMessage, HopHandler.handleMessageEntry_relayed hcommand hsome]
      exact ⟨congrArg CircuitHandler.entry (hrelay entryRole).1, (hrelay entryRole).2⟩
    | middle e =>
      cases hhop
      rw [CircuitHandler.handleMessage, HopHandler.handleMessageMiddle_relayed hcommand hsome]
      exact ⟨congrArg CircuitHandler.middle (hrelay (middleRole A)).1, (hrelay (middleRole A)).2⟩
    | exit e => cases hhop
  have hset : (r.registry.handleMessage P A env (some env.prevHop) m).handler =
      r.registry.setCircuit m.circuitId (handler.withHop moved) ∧
      (r.registry.handleMessage P A env (some env.prevHop) m).result =
        (handler.handleMessage P A env (some env.prevHop) m).result := by
    rw [CircuitRegistry.handleMessage, hlookup]
    exact ⟨congrArg (r.registry.setCircuit m.circuitId) hhandler.1, rfl⟩
  have hfound : (r.after (r.registry.handleMessage P A env (some env.prevHop) m)).registry.getCircuit
      m.circuitId = some (handler.withHop moved) := by
    show (r.registry.handleMessage P A env (some env.prevHop) m).handler.getCircuit _ = _
    rw [hset.1]
    exact CircuitRegistry.getCircuit_setCircuit_self hlookup
  have hkept : (r.onMessage P A env m).relay.registry.getCircuit m.circuitId =
      some (handler.withHop moved) := by
    rw [onMessage, if_neg (relayed_ne_create hcommand), onCell, hset.2]
    -- the registry holds the moved cipher in either case; a failed write is logged only
    rcases hhandler.2 with hok | ⟨e, herror⟩
    · have hnotDestroy : m.command ≠ .destroy := by
        intro hc
        rw [hc] at hcommand
        cases hcommand
      rw [hok]
      dsimp only
      rw [countDestroyed, if_neg hnotDestroy, spawnReader_running hfound hmoved hnext hread]
      exact hfound
    · rw [herror]
      exact hfound
  exact ⟨_, handler.withHop moved, moved, nextHop, hkept, hmoved, rfl, hnext, hread⟩

/-- **What the rest of a relay does meanwhile**: cells of other circuits, and forward cells and
PADDING of this one, keep the circuit. -/
theorem keepsCircuit_onMessage
    (h : m.circuitId ≠ circuitId ∨ m.command.relayed = true ∨ m.command = .padding) :
    r.KeepsCircuit circuitId (r.onMessage P A env m).relay := by
  refine ⟨nodeType_onMessage r env m, fun cipher hpasses => ?_⟩
  by_cases hid : m.circuitId = circuitId
  · subst hid
    rcases h with hother | hrelayed | hpadding
    · exact absurd rfl hother
    · exact hpasses.onMessage_forward hrelayed
    · obtain ⟨relay, hserved, hkept⟩ := hpasses.onMessage_padding hpadding
      rw [hserved]
      exact ⟨cipher.forward, hkept⟩
  · obtain ⟨handler, hop, nextHop, hlookup, hrest⟩ := hpasses
    exact ⟨cipher.forward, handler, hop, nextHop,
      (getCircuit_onMessage_ne (fun hcon => hid hcon.symm)).trans hlookup, hrest⟩

end Relay

/-! ## Runs -/

theorem Carries.map_fromBytes {ok : Message → Prop} {cells : List Bytes} (h : Carries ok cells) :
    cells.map Message.fromBytes = (messagesIn cells).map .ok := by
  induction cells with
  | nil => rfl
  | cons cell cells ih =>
    obtain ⟨m, hm, -, hrest, hmessages⟩ := h.head
    rw [hmessages, List.map_cons, List.map_cons, hm, ih hrest]

theorem Carries.length_messagesIn {ok : Message → Prop} {cells : List Bytes}
    (h : Carries ok cells) : (messagesIn cells).length = cells.length := by
  have hlen := congrArg List.length h.map_fromBytes
  rw [List.length_map, List.length_map] at hlen
  exact hlen.symm

/-- A turn of the client's reader ends the circuit, or the reader goes on. -/
theorem Client.Circuit.readerStep_ends (c : Client.Circuit) (input : Option Message) :
    (∃ c' : Client.Circuit, (c.readerStep P input).circuit = c'.readerEnd) ∨
      (c.readerStep P input).reading = true := by
  unfold Client.Circuit.readerStep
  dsimp only
  split
  · exact .inl ⟨_, rfl⟩
  · split
    · exact .inl ⟨_, rfl⟩
    · split
      · exact .inl ⟨_, rfl⟩
      · split <;> exact .inr rfl

/-- Where its reader ends a client's circuit is closed and has no stream. -/
theorem Client.Circuit.readerStep_stopped {c : Client.Circuit} {input : Option Message}
    (h : (c.readerStep P input).reading = false) :
    (c.readerStep P input).circuit.state = .closed ∧
      (c.readerStep P input).circuit.streamSenders = ∅ := by
  rcases c.readerStep_ends (P := P) input with ⟨c', hend⟩ | hreading
  · rw [hend]
    exact ⟨rfl, rfl⟩
  · rw [hreading] at h
    cases h

theorem passBack_length (s : NodeType × List Keyed) (m : Message) :
    (passBack circuitId s m).2.1.length ≤ 1 := by
  unfold passBack
  split <;> exact Nat.le_refl 1

theorem lastCell_length (s : NodeType × List Keyed) : (lastCell circuitId s).length ≤ 1 :=
  Nat.le_refl 1

/-- A relay that keeps the circuit keeps its stage. -/
theorem LinkedNode.draining_keeps {n : LinkedNode} {relay : Relay} (hn : n.Ready circuitId)
    (h : n.node.host.relay.KeepsCircuit circuitId relay) :
    let n' : LinkedNode := { n with node := { n.node with host := { n.node.host with relay } } }
    n'.Ready circuitId ∧ n'.ended = n.ended ∧ n'.draining P circuitId = n.draining P circuitId := by
  obtain ⟨hrole, hkeeps⟩ := h
  obtain ⟨cipher, hpasses⟩ := hn.passes
  obtain ⟨forward, hpasses'⟩ := hkeeps cipher hpasses
  refine ⟨⟨⟨_, hpasses'⟩, hn.bwd⟩, rfl, ?_⟩
  unfold LinkedNode.draining Node.backwardStage
  dsimp only
  rw [hrole, hpasses.cipher?, hpasses'.cipher?]
  rfl

namespace TeardownSystem

variable (P circuitId) in
/-- What the chain will have emitted in the end is `whole`, whoever moves. -/
structure Sound (whole : List Message) (s : TeardownSystem) : Prop where
  nodes : s.nodes ≠ []
  chained : Chained circuitId true s.nodes s.clientEnded
  cells : Carries (Message.Fit circuitId) s.toClient
  sent : messagesIn s.toClient ++ remaining (passBack circuitId) (lastCell circuitId)
    (s.nodes.map (LinkedNode.draining P circuitId)) [] = whole
  client : s.clientReading = false → s.client.state = .closed ∧ s.client.streamSenders = ∅

variable (P circuitId) in
/-- The work left in the chain and at the client. -/
def workLeft (s : TeardownSystem) : Nat :=
  work 1 (s.nodes.map (LinkedNode.draining P circuitId)) +
    if s.clientReading then s.unread.length + 1 else 0

variable {whole : List Message} {s : TeardownSystem}

theorem Sound.readAt_nodes (h : s.Sound P circuitId whole) (i : Nat) :
    (readAt P A circuitId i s.nodes).nodes ≠ [] := by
  obtain ⟨-, -, hdrain⟩ := readAt_drainAt (P := P) (A := A) i h.chained
  have hlen := congrArg (fun x => x.1.length) hdrain
  dsimp only at hlen
  rw [length_drainAt, List.length_map, List.length_map] at hlen
  intro hnil
  rw [hnil] at hlen
  exact h.nodes (List.length_eq_zero_iff.mp hlen)

/-- One step. -/
theorem Sound.step (h : s.Sound P circuitId whole) {e : TeardownEvent}
    (hallowed : s.Allowed circuitId e) : (s.step P A circuitId e).Sound P circuitId whole := by
  cases e with
  | reader i =>
    obtain ⟨hchained, hcells, hdrain⟩ := readAt_drainAt (P := P) (A := A) i h.chained
    have hremaining := @remaining_drainAt _ _ (passBack circuitId) (lastCell circuitId) true [] i
      (s.nodes.map (LinkedNode.draining P circuitId)) fun _ => rfl
    rw [hdrain] at hremaining
    refine ⟨h.readAt_nodes i, hchained, h.cells.append hcells, ?_, h.client⟩
    show messagesIn (s.toClient ++ _) ++ _ = whole
    -- what left the chain in this turn is what `remaining` lost
    rw [messagesIn_append, List.append_assoc, ← h.sent]
    exact congrArg _ hremaining.symm
  | client =>
    unfold TeardownSystem.step
    dsimp only
    split
    · exact { h with client := Client.Circuit.readerStep_stopped }
    · exact { h with client := Client.Circuit.readerStep_stopped }
    · exact h
  | relayChanges i relay =>
    obtain ⟨hchained, hsame⟩ := h.chained.modify (P := P) (i := i)
      fun n hn hready => LinkedNode.draining_keeps hready (hallowed n hn)
    refine ⟨?_, hchained, h.cells, ?_, h.client⟩
    · intro hnil
      have hlen := congrArg List.length hnil
      rw [show (s.step P A circuitId (.relayChanges i relay)).nodes = s.nodes.modify i _ from rfl,
        List.length_modify] at hlen
      exact h.nodes (List.length_eq_zero_iff.mp hlen)
    · rw [← h.sent]
      exact congrArg (fun stages => messagesIn s.toClient ++
        remaining (passBack circuitId) (lastCell circuitId) stages []) hsame
  | circuitChanges circuit =>
    unfold TeardownSystem.step
    dsimp only
    split
    -- other calls on the circuit matter only while its reader runs
    · rename_i hreading
      refine { h with client := fun hstopped => ?_ }
      rw [show s.clientReading = true from hreading] at hstopped
      cases hstopped
    · exact h

theorem workLeft_reader (i : Nat) :
    (s.step P A circuitId (.reader i)).workLeft P circuitId =
      work 1 ((readAt P A circuitId i s.nodes).nodes.map (LinkedNode.draining P circuitId)) +
        if s.clientReading then
          s.unread.length + (readAt P A circuitId i s.nodes).cells.length + 1
        else 0 := by
  rw [← List.length_append]
  rfl

/-- No step adds work. -/
theorem Sound.workLeft_le (h : s.Sound P circuitId whole) {e : TeardownEvent}
    (hallowed : s.Allowed circuitId e) :
    (s.step P A circuitId e).workLeft P circuitId ≤ s.workLeft P circuitId := by
  cases e with
  | reader i =>
    obtain ⟨-, hcells, hdrain⟩ := readAt_drainAt (P := P) (A := A) i h.chained
    have hwork := @work_drainAt_le _ _ (passBack circuitId) (lastCell circuitId) true
      passBack_length lastCell_length 1 i (s.nodes.map (LinkedNode.draining P circuitId))
    -- a cell the entry passes on is one unit of work less in the chain and one more at the client
    rw [hdrain] at hwork
    dsimp only at hwork
    rw [hcells.length_messagesIn] at hwork
    rw [workLeft_reader, workLeft]
    split <;> omega
  | client =>
    unfold TeardownSystem.step workLeft
    dsimp only
    split
    · rename_i cell cells _ hreading hunread
      rw [hreading, hunread]
      dsimp only
      split <;> simp
    · rename_i hreading hunread _
      rw [hreading, hunread]
      dsimp only
      split <;> simp
    · exact Nat.le_refl _
  | relayChanges i relay =>
    obtain ⟨-, hsame⟩ := h.chained.modify (P := P) (i := i)
      fun n hn hready => LinkedNode.draining_keeps hready (hallowed n hn)
    show work 1 ((s.nodes.modify i _).map (LinkedNode.draining P circuitId)) + _ ≤ _
    rw [hsame]
    exact Nat.le_refl _
  | circuitChanges circuit =>
    unfold TeardownSystem.step
    dsimp only
    split <;> exact Nat.le_refl _

/-- Until everything is at rest, some reader's turn takes work off the system. -/
theorem Sound.exists_workLeft_lt (h : s.Sound P circuitId whole) (hrest : ¬s.AtRest) :
    ∃ e, s.Allowed circuitId e ∧
      (s.step P A circuitId e).workLeft P circuitId < s.workLeft P circuitId := by
  by_cases hrunning : ∃ n ∈ s.nodes, n.node.reading = true
  -- a reader that runs can move, or one behind it can
  · obtain ⟨n, hn, hreading⟩ := hrunning
    obtain ⟨i, hi⟩ := exists_work_lt (@passBack_length circuitId) (@lastCell_length circuitId) 1
      ⟨n.draining P circuitId, List.mem_map_of_mem hn, hreading⟩
    obtain ⟨-, hcells, hdrain⟩ := readAt_drainAt (P := P) (A := A) i h.chained
    rw [hdrain] at hi
    dsimp only at hi
    rw [hcells.length_messagesIn] at hi
    refine ⟨.reader i, trivial, ?_⟩
    rw [workLeft_reader, workLeft]
    split <;> omega
  · -- only the client's reader is left, and its connection has ended
    have hstopped : ∀ n ∈ s.nodes, n.node.reading = false := by
      intro n hn
      by_contra hreading
      exact hrunning ⟨n, hn, by simpa using hreading⟩
    have hreading : s.clientReading = true := by
      by_contra hclient
      exact hrest ⟨hstopped, by simpa using hclient⟩
    have hended := h.chained.ended_of_rest hstopped h.nodes
    refine ⟨.client, trivial, ?_⟩
    unfold TeardownSystem.step workLeft
    cases hunread : s.unread with
    | nil =>
      rw [hreading, hended]
      exact Nat.lt_succ_self _
    | cons cell cells =>
      rw [hreading]
      dsimp only
      split <;> simp

theorem chained_waiting {hosts : List Host} {ciphers : List CipherPair}
    (h : List.Forall₂ (fun host cipher => host.relay.Passes circuitId cipher) hosts ciphers) :
    Chained circuitId false (hosts.map LinkedNode.waiting) false := by
  induction h with
  | nil => rfl
  | cons hpass _ ih => exact ⟨⟨⟨_, hpass⟩, Carries.nil⟩, rfl, ih⟩

/-- The chain at work. -/
theorem sound_start {behind : Host} {upstream : List Host} {cells : List Bytes}
    {ciphers : List CipherPair} {middles : Nat} (client : Client.Circuit)
    (hroles : (behind :: upstream).map (fun h => h.relay.nodeType) =
      List.replicate middles .middle ++ [.entry])
    (hpasses : List.Forall₂ (fun h cipher => h.relay.Passes circuitId cipher)
      (behind :: upstream) ciphers)
    (hcells : Carries (Message.Delivered circuitId) cells) :
    (start behind upstream cells client).Sound P circuitId
      (layered P ciphers (messagesIn cells) ++ [Message.destroy circuitId]) := by
  have hfit : Carries (Message.Fit circuitId) cells := fun cell hcell => by
    obtain ⟨m, hm, hok⟩ := hcells cell hcell
    exact ⟨m, hm, hok.toFit⟩
  have hms : ∀ m ∈ messagesIn cells, m.command ≠ .destroy := by
    intro m hm
    obtain ⟨cell, hcell, hdecoded⟩ := List.mem_filterMap.mp hm
    obtain ⟨m', hm', hok⟩ := hcells cell hcell
    rw [hm'] at hdecoded
    cases hdecoded
    exact hok.notDestroy
  have hwaiting : List.Forall₂ (LinkedNode.Waiting circuitId)
      ((behind :: upstream).map LinkedNode.waiting) ciphers :=
    List.forall₂_map_left_iff.mpr (hpasses.imp fun _ _ hpass => ⟨hpass, rfl, rfl⟩)
  have hchain := remaining_chain (P := P) middles (by rw [← hroles, List.map_map]; rfl) hwaiting
    hms 0
  cases hpasses with
  | cons hbehind hupstream =>
    refine ⟨nofun, ⟨⟨⟨_, hbehind⟩, hfit⟩, rfl, chained_waiting hupstream⟩, Carries.nil, ?_, nofun⟩
    rw [← hchain, List.replicate_zero, List.append_nil]
    show remaining _ _ (_ :: (upstream.map LinkedNode.waiting).map (LinkedNode.draining P circuitId)) [] =
      remaining _ _ ((LinkedNode.waiting behind).draining P circuitId ::
        (upstream.map LinkedNode.waiting).map (LinkedNode.draining P circuitId)) (messagesIn cells)
    rw [remaining_cons, remaining_cons]
    refine congrArg _ ?_
    show drain _ _ _ (messagesIn cells ++ []) = drain _ _ _ ([] ++ messagesIn cells)
    rw [List.append_nil]
    rfl

/-- **The client sees one teardown.** In every state of every run its connection has received
a beginning of the cells under every relay's layer followed by one DESTROY; no step adds
work, and some step takes work off until all readers have stopped; then the connection has
received all of it and ended, and the circuit is closed without a stream. -/
theorem teardown_once (behind : Host) (upstream : List Host) (middles : Nat)
    (hroles : (behind :: upstream).map (fun h => h.relay.nodeType) =
      List.replicate middles .middle ++ [.entry])
    (ciphers : List CipherPair)
    (hpasses : List.Forall₂ (fun h cipher => h.relay.Passes circuitId cipher)
      (behind :: upstream) ciphers)
    (cells : List Bytes) (hcells : Carries (Message.Delivered circuitId) cells)
    (client : Client.Circuit) (events : List TeardownEvent)
    (hallowed : EveryStep (step P A circuitId) (Allowed circuitId)
      (start behind upstream cells client) events) :
    let s := run (step P A circuitId) (start behind upstream cells client) events
    let whole := layered P ciphers (messagesIn cells) ++ [Message.destroy circuitId]
    (∃ rest, s.toClient.map Message.fromBytes ++ rest = whole.map .ok) ∧
      (s.AtRest → s.toClient.map Message.fromBytes = whole.map .ok ∧ s.clientEnded = true ∧
        s.client.state = .closed ∧ s.client.streamSenders = ∅) ∧
      (∀ e, s.Allowed circuitId e →
        (s.step P A circuitId e).workLeft P circuitId ≤ s.workLeft P circuitId) ∧
      (¬s.AtRest → ∃ e, s.Allowed circuitId e ∧
        (s.step P A circuitId e).workLeft P circuitId < s.workLeft P circuitId) := by
  intro s whole
  have hsound : s.Sound P circuitId whole := hallowed.invariant
    (fun _ _ hs hok => hs.step hok) (sound_start client hroles hpasses hcells)
  refine ⟨?_, ?_, fun e hok => hsound.workLeft_le hok, hsound.exists_workLeft_lt⟩
  · rw [hsound.cells.map_fromBytes, ← hsound.sent, List.map_append]
    exact ⟨_, rfl⟩
  · rintro ⟨hstopped, hclient⟩
    -- with every reader stopped nothing is left to be emitted
    have hempty : remaining (passBack circuitId) (lastCell circuitId)
        (s.nodes.map (LinkedNode.draining P circuitId)) [] = [] := by
      refine remaining_rest (fun st hst => ?_) ?_
      · obtain ⟨n, hn, rfl⟩ := List.mem_map.mp hst
        exact hstopped n hn
      · intro hnil
        exact hsound.nodes (List.map_eq_nil_iff.mp hnil)
    have hsent := hsound.sent
    rw [hempty, List.append_nil] at hsent
    rw [hsound.cells.map_fromBytes, hsent]
    exact ⟨rfl, hsound.chained.ended_of_rest hstopped hsound.nodes, hsound.client hclient⟩

/-! ### A middle whose next hop goes -/

/-- The keys of relay `n`. -/
def sampleKey (n : UInt8) : SessionKey := ⟨List.Vector.replicate 16 n, List.Vector.replicate 16 n⟩

/-- A relay that serves circuit 1, linked to the next. -/
def sampleLinked (n : UInt8) (nodeType : NodeType) : Host :=
  let host := sampleHost n nodeType
  { host with
    relay := { host.relay with
      registry := host.relay.registry.addCircuit 1
        (CircuitHandler.established nodeType host.relay.keypair 1 (sampleKey n)
          (CipherPair.new (sampleKey n)) (some ⟨host.descriptor.address, "a1b2", false⟩)) } }

/-- A client with the keys of the two relays and one stream. -/
def sampleClient : Client.Circuit where
  circuitId := 1
  state := .ready
  onionKeys := Client.OnionKeys.new [sampleKey 1, sampleKey 2]
    [CipherPair.new (sampleKey 1), CipherPair.new (sampleKey 2)]
  streamSenders := (∅ : AList fun _ : StreamId => Client.StreamSender).insert 1 ⟨0, true⟩
  nextStreamId := 2

/-- The middle reads a cell and the end, the entry the cell and one of the two DESTROYs, the
client what is left. -/
def sampleTurns : List TeardownEvent :=
  [.reader 0, .reader 1, .client, .reader 0, .reader 1, .client]

def sampleCells : List Bytes := [(Message.ofData 1 1 [7, 8]).toBytes fun _ => 0]

theorem sampleLinked_passes (n : UInt8) {nodeType : NodeType} (hrole : nodeType ≠ .exit) :
    (sampleLinked n nodeType).relay.Passes 1 (CipherPair.new (sampleKey n)) :=
  ⟨_, _, _, AList.lookup_insert _, CircuitHandler.hop?_established hrole, rfl, rfl, rfl⟩

theorem sampleCells_delivered : Carries (Message.Delivered 1) sampleCells :=
  Carries.singleton ⟨⟨rfl, by decide⟩, by decide⟩ (by decide)

theorem sample_teardown_once :
    (run (step .sample .ipv4 1)
      (start (sampleLinked 2 .middle) [sampleLinked 1 .entry] sampleCells sampleClient)
      sampleTurns).client.state = .closed := by
  have hrest : (run (step .sample .ipv4 1)
      (start (sampleLinked 2 .middle) [sampleLinked 1 .entry] sampleCells sampleClient)
      sampleTurns).AtRest := by decide +kernel
  obtain ⟨-, hall, -⟩ := @teardown_once .sample .ipv4 1 (sampleLinked 2 .middle)
    [sampleLinked 1 .entry] 1 rfl [CipherPair.new (sampleKey 2), CipherPair.new (sampleKey 1)]
    (.cons (sampleLinked_passes 2 nofun) (.cons (sampleLinked_passes 1 nofun) .nil)) sampleCells
    sampleCells_delivered sampleClient sampleTurns
    ⟨trivial, trivial, trivial, trivial, trivial, trivial, trivial⟩
  exact (hall hrest).2.2.1

end TeardownSystem

end MiniTor
