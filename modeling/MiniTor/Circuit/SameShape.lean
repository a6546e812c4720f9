import MiniTor.Circuit.ClearFields
import MiniTor.Relay.Oblivious

/-!
# Two client runs of the same shape

Two runs of a client over one circuit, on the entry and the middles of which the payloads,
the keepalive data, the padding and the exit's answers differ in content only. The relays go
through the same states at their own pace, and every cell each of them handles and passes on
is alike in both runs.

- `LineEvent.Alike`: what the two runs do at the same moment.
- `WatchedLine.Alike`: the two lines at the same moment; the hosts of the relays are equal.
- `relays_unaware`: two runs alike keep the lines alike.
-/

namespace MiniTor

open Theory Client

/-- Both runs do the same, with contents of the same length. -/
inductive LineEvent.Alike : LineEvent → LineEvent → Prop
  | send {p q : Plain} (h : p.shape = q.shape) : Alike (.send p) (.send q)
  | keepalive {data other : Bytes} (h : data.length = other.length) :
    Alike (.keepalive data) (.keepalive other)
  | hopServe (index : Nat) : Alike (.hopServe index) (.hopServe index)
  | hopRead (index : Nat) : Alike (.hopRead index) (.hopRead index)
  | respond {c d : Bytes} (h : CellAlike c d) : Alike (.respond c) (.respond d)

/-- One relay in both runs: the same host, and cells alike on their way to it. -/
structure Node.Alike (n o : Node) : Prop where
  host : n.host = o.host
  fwdIn : List.Forall₂ CellAlike n.fwdIn o.fwdIn
  bwdIn : List.Forall₂ CellAlike n.bwdIn o.bwdIn
  serving : n.serving = o.serving
  reading : n.reading = o.reading

/-- A cell that is handled alike in both runs. -/
structure Handled.Alike (h g : Handled) : Prop where
  hop : h.hop = g.hop
  message : h.message.Alike g.message
  forwarded : List.Forall₂ CellAlike h.forwarded g.forwarded

/-- The two lines at the same moment; of the client, what decides whether it writes a cell and
under which id. -/
structure WatchedLine.Alike (s t : WatchedLine) : Prop where
  circuitId : s.client.circuitId = t.client.circuitId
  state : s.client.state = t.client.state
  hops : List.Forall₂ Node.Alike s.hops t.hops
  log : List.Forall₂ Handled.Alike s.log t.log

variable {P : Primitives} {A : AddrSyntax} {circuitId : CircuitId}

/-! ## Effects -/

theorem cellsForward_alike {sent other : List Effect} (h : List.Forall₂ Effect.Alike sent other) :
    List.Forall₂ CellAlike (cellsForward sent) (cellsForward other) := by
  refine List.rel_filterMap (fun e _ he => ?_) h
  cases he with
  | same =>
    cases e with
    | toNextHop cell => exact .some (.same cell)
    | _ => exact .none
  | toNextHop hcell => exact .some hcell
  | toPrevHop _ => exact .none

theorem cellsBackward_alike {sent other : List Effect} (h : List.Forall₂ Effect.Alike sent other) :
    List.Forall₂ CellAlike (cellsBackward sent) (cellsBackward other) := by
  refine List.rel_filterMap (fun e _ he => ?_) h
  cases he with
  | same =>
    cases e with
    | toPrevHop cell => exact .some (.same cell)
    | _ => exact .none
  | toNextHop _ => exact .none
  | toPrevHop hcell => exact .some hcell

/-! ## Nodes -/

/-- What a node does alike in both runs. -/
structure Acted.Alike (a b : Acted) : Prop where
  node : a.node.Alike b.node
  sent : List.Forall₂ Effect.Alike a.sent b.sent

/-- A relay a circuit passes through is none of its exits. -/
theorem Relay.Passes.blind {r : Relay} {cipher : CipherPair} (h : r.Passes circuitId cipher) :
    r.Blind circuitId := by
  obtain ⟨handler, hop, nextHop, hfound, hhop, -⟩ := h
  intro other hother
  obtain rfl : handler = other := Option.some.inj (hfound.symm.trans hother)
  cases handler with
  | entry _ => exact NodeType.noConfusion
  | middle _ => exact NodeType.noConfusion
  | exit _ => cases hhop

/-- The relay opens none of the cells a client sends over a built circuit. -/
theorem Message.Forward.not_opens {r : Relay} {m : Message} (h : m.Forward circuitId) :
    ¬r.Opens m := by
  rintro (hc | ⟨hc, -⟩)
  · rcases h.command with h | h | h | h <;> rw [h] at hc <;> cases hc
  · rcases h.command with h | h | h | h <;> rw [h] at hc <;> cases hc

namespace Node

variable {n o : Node}

theorem Alike.serve (h : n.Alike o) (hrelaying : n.Relaying circuitId)
    (connect : String → Except IoError Unit) :
    (n.serve P A connect).Alike (o.serve P A connect) := by
  obtain ⟨host, fwdIn, bwdIn, serving, reading⟩ := n
  obtain ⟨host', fwdIn', bwdIn', serving', reading'⟩ := o
  obtain ⟨rfl, hfwd, hbwd, rfl, rfl⟩ := h
  obtain ⟨⟨cipher, hpasses⟩, -, -, hcarries, -⟩ := hrelaying
  dsimp only at hfwd hbwd hpasses hcarries
  unfold Node.serve
  dsimp only
  cases serving with
  | false => exact ⟨⟨rfl, hfwd, hbwd, rfl, rfl⟩, .nil⟩
  | true =>
    cases hfwd with
    | nil => exact ⟨⟨rfl, .nil, hbwd, rfl, rfl⟩, .nil⟩
    | @cons cell _ _ _ hcell hrest =>
      obtain ⟨m, hm, hforward, -⟩ := hcarries.head
      have hread := hcell.fromBytes
      dsimp only
      rw [hm] at hread ⊢
      generalize Message.fromBytes _ = right at hread ⊢
      cases hread with
      | ok hmsg =>
        have hblind : host.relay.Blind m.circuitId := hforward.circuit ▸ hpasses.blind
        have hnocreate : m.command = .create → host.relay.nodeType ≠ .exit := fun hc =>
          absurd (.inl hc) (hforward.not_opens (r := host.relay))
        obtain ⟨hrelay, hsent, hserving⟩ := Relay.onMessage_alike (P := P) (A := A) hblind
          hnocreate (Env.Alike.refl (Node.env ⟨host, _, bwdIn, true, reading⟩ connect)) hmsg
          fun hopens => absurd hopens hforward.not_opens
        exact ⟨⟨congrArg (fun relay => { host with relay }) hrelay, hrest, hbwd, hserving, rfl⟩, hsent⟩

theorem Alike.readNext (h : n.Alike o) (hrelaying : n.Relaying circuitId) :
    (n.readNext P A circuitId).Alike (o.readNext P A circuitId) := by
  obtain ⟨host, fwdIn, bwdIn, serving, reading⟩ := n
  obtain ⟨host', fwdIn', bwdIn', serving', reading'⟩ := o
  obtain ⟨rfl, hfwd, hbwd, rfl, rfl⟩ := h
  obtain ⟨⟨cipher, hpasses⟩, -, -, -, hcarries⟩ := hrelaying
  dsimp only at hfwd hbwd hpasses hcarries
  unfold Node.readNext
  dsimp only
  cases reading with
  | false => exact ⟨⟨rfl, hfwd, hbwd, rfl, rfl⟩, .nil⟩
  | true =>
    cases hbwd with
    | nil => exact ⟨⟨rfl, hfwd, .nil, rfl, rfl⟩, .nil⟩
    | @cons cell _ _ _ hcell hrest =>
      obtain ⟨m, hm, hbackward, -⟩ := hcarries.head
      have hread := hcell.fromBytes
      dsimp only
      rw [hm] at hread ⊢
      generalize Message.fromBytes _ = right at hread ⊢
      cases hread with
      | ok hmsg =>
        have hblind : host.relay.Blind m.circuitId := hbackward.circuit ▸ hpasses.blind
        obtain ⟨hrelay, hsent, hserving⟩ := Relay.readerStep_alike (P := P) (A := A) hblind
          (Env.Alike.refl (Node.env ⟨host, fwdIn, _, serving, true⟩ fun _ => .ok ())) hmsg circuitId
        exact ⟨⟨congrArg (fun relay => { host with relay }) hrelay, hfwd, hrest, rfl, hserving⟩, hsent⟩

/-- What is about to be handled is alike. -/
theorem Alike.nextMessage (h : n.Alike o) (hrelaying : n.Relaying circuitId) :
    Option.Rel Message.Alike n.nextMessage o.nextMessage := by
  obtain ⟨host, fwdIn, bwdIn, serving, reading⟩ := n
  obtain ⟨host', fwdIn', bwdIn', serving', reading'⟩ := o
  obtain ⟨rfl, hfwd, -, rfl, rfl⟩ := h
  have hcarries := hrelaying.fwd
  dsimp only at hfwd hcarries
  unfold Node.nextMessage
  dsimp only
  cases serving with
  | false => exact .none
  | true =>
    cases hfwd with
    | nil => exact .none
    | cons hcell hrest =>
      obtain ⟨m, hm, -⟩ := hcarries.head
      have hread := hcell.fromBytes
      dsimp only
      rw [hm] at hread ⊢
      generalize Message.fromBytes _ = right at hread ⊢
      cases hread with
      | ok hmsg => exact .some hmsg

end Node

/-! ## Lines -/

section Lines

variable {hops others : List Node}

theorem pushFirst_alike {cells cells' : List Bytes} (hcells : List.Forall₂ CellAlike cells cells')
    (h : List.Forall₂ Node.Alike hops others) :
    List.Forall₂ Node.Alike (pushFirst cells hops).1 (pushFirst cells' others).1 := by
  cases h with
  | nil => exact .nil
  | cons hfirst hrest =>
    obtain ⟨hhost, hfwd, hbwd, hserving, hreading⟩ := hfirst
    exact .cons ⟨hhost, List.rel_append hfwd hcells, hbwd, hserving, hreading⟩ hrest

theorem pushLast_alike {cells cells' : List Bytes} (hcells : List.Forall₂ CellAlike cells cells')
    (h : List.Forall₂ Node.Alike hops others) :
    List.Forall₂ Node.Alike (pushLast cells hops).1 (pushLast cells' others).1 ∧
      List.Forall₂ CellAlike (pushLast cells hops).2 (pushLast cells' others).2 := by
  induction h with
  | nil => exact ⟨.nil, hcells⟩
  | cons hfirst _ ih =>
    obtain ⟨hnodes, hup⟩ := ih
    obtain ⟨hhost, hfwd, hbwd, hserving, hreading⟩ := hfirst
    exact ⟨.cons ⟨hhost, hfwd, List.rel_append hbwd hup, hserving, hreading⟩ hnodes, .nil⟩

/-- A move of one node keeps the lines alike. -/
theorem actAt_alike {act : Node → Acted}
    (hact : ∀ n o, n ∈ hops → n.Alike o → (act n).Alike (act o)) (index : Nat)
    (h : List.Forall₂ Node.Alike hops others) :
    List.Forall₂ Node.Alike (actAt act index hops).nodes (actAt act index others).nodes ∧
      List.Forall₂ CellAlike (actAt act index hops).up (actAt act index others).up := by
  induction h generalizing index with
  | nil => cases index <;> exact ⟨.nil, .nil⟩
  | cons hfirst hrest ih =>
    cases index with
    | zero =>
      obtain ⟨hnode, hsent⟩ := hact _ _ List.mem_cons_self hfirst
      exact ⟨.cons hnode (pushFirst_alike (cellsForward_alike hsent) hrest),
        cellsBackward_alike hsent⟩
    | succ index =>
      obtain ⟨hnodes, hup⟩ := ih (fun n o hn => hact n o (List.mem_cons_of_mem _ hn)) index
      obtain ⟨hhost, hfwd, hbwd, hserving, hreading⟩ := hfirst
      exact ⟨.cons ⟨hhost, hfwd, List.rel_append hbwd hup, hserving, hreading⟩ hnodes, .nil⟩

/-- What is logged of a move is alike. -/
theorem handling_alike (hrelaying : ∀ n ∈ hops, n.Relaying circuitId) (index : Nat)
    (h : List.Forall₂ Node.Alike hops others) :
    List.Forall₂ Handled.Alike (handling P A index hops) (handling P A index others) := by
  have hnode := forall₂_getElem? h index
  unfold handling
  cases hn : hops[index]? with
  | none =>
    rw [hn] at hnode
    generalize others[index]? = right at hnode ⊢
    cases hnode with
    | none => exact .nil
  | some n =>
    rw [hn] at hnode
    generalize others[index]? = right at hnode ⊢
    cases hnode with
    | @some _ o halike =>
      have hrel := hrelaying n (List.mem_of_getElem? hn)
      have hmessage := halike.nextMessage hrel
      have hserve := (halike.serve (P := P) (A := A) hrel fun _ => .ok ()).sent
      dsimp only
      generalize n.nextMessage = m at hmessage ⊢
      generalize o.nextMessage = m' at hmessage ⊢
      cases hmessage with
      | none => exact .nil
      | some hmsg => exact .cons ⟨rfl, hmsg, cellsForward_alike hserve⟩ .nil

end Lines

/-! ## The client -/

namespace WatchedLine

variable {s t : WatchedLine}

/-- Plaintexts of the same shape are sealed into cells alike, or are too long both. -/
theorem Alike.send (h : s.Alike t) {p q : Plain} (hshape : p.shape = q.shape) :
    (s.sendMessage P p).Alike (t.sendMessage P q) := by
  obtain ⟨hid, hstate, hhops, hlog⟩ := h
  obtain ⟨hstream, hcommand, hlength⟩ :
      p.streamId = q.streamId ∧ p.command = q.command ∧ p.data.length = q.data.length := by
    simpa only [Plain.shape, Prod.mk.injEq] using hshape
  unfold sendMessage
  by_cases hfits : p.data.length ≤ MAX_PAYLOAD_SIZE
  · rw [Circuit.sendMessage_working _ _ _ hfits, Circuit.sendMessage_working _ _ _
      (hlength ▸ hfits)]
    have hsealed : Message.Alike (s.client.sealedCell P p.streamId p.command p.data)
        (t.client.sealedCell P q.streamId q.command q.data) :=
      ⟨hid, hstream, hcommand, by
        rw [Circuit.length_sealedCell, Circuit.length_sealedCell, hlength]⟩
    have hcell : CellAlike _ _ := .cells hsealed (by rw [Circuit.length_sealedCell]; exact hfits)
      s.padding t.padding
    exact ⟨hid, hstate, pushFirst_alike (.cons hcell .nil) hhops, hlog⟩
  · rw [Circuit.sendMessage_tooLong _ _ _ _ (Nat.not_le.mp hfits),
      Circuit.sendMessage_tooLong _ _ _ _ (Nat.not_le.mp (hlength ▸ hfits))]
    exact ⟨hid, hstate, hhops, hlog⟩

theorem Alike.keepalive (h : s.Alike t) {data other : Bytes}
    (hlength : data.length = other.length) : (s.keepalive data).Alike (t.keepalive other) := by
  have hmsg : Message.Alike (Message.padding s.client.circuitId data)
      (Message.padding t.client.circuitId other) := ⟨h.circuitId, rfl, rfl, hlength⟩
  have hwritten := hmsg.writeToStream
    (show (Message.Writer.working s.padding).failure =
      (Message.Writer.working t.padding).failure from rfl)
  unfold WatchedLine.keepalive Circuit.sendPadding
  rw [h.state]
  split
  · generalize Message.writeToStream _ (Message.padding s.client.circuitId data) = left at hwritten ⊢
    generalize Message.writeToStream _ (Message.padding t.client.circuitId other) = right
      at hwritten ⊢
    cases hwritten with
    | error _ => exact h
    | ok hcell =>
      exact ⟨h.circuitId, h.state, pushFirst_alike (.cons hcell .nil) h.hops, h.log⟩
  · exact h

/-- One step of the two runs. -/
theorem Alike.step (h : s.Alike t) (hrelaying : ∀ n ∈ s.hops, n.Relaying circuitId)
    {d e : LineEvent} (halike : d.Alike e) :
    (s.step P A circuitId d).Alike (t.step P A circuitId e) := by
  cases halike with
  | send hshape => exact h.send hshape
  | keepalive hlength => exact h.keepalive hlength
  | hopServe index =>
    have hmove := @actAt_alike s.hops t.hops (Node.serve P A fun _ => .ok ())
      (fun n o hn hno => hno.serve (hrelaying n hn) _) index h.hops
    exact ⟨h.circuitId, h.state, hmove.1,
      List.rel_append h.log (handling_alike hrelaying index h.hops)⟩
  | hopRead index =>
    have hmove := @actAt_alike s.hops t.hops (Node.readNext P A circuitId)
      (fun n o hn hno => hno.readNext (hrelaying n hn)) index h.hops
    exact ⟨h.circuitId, h.state, hmove.1, h.log⟩
  | respond hcell =>
    exact ⟨h.circuitId, h.state, (pushLast_alike (.cons hcell .nil) h.hops).1, h.log⟩

theorem Alike.start (client : Circuit) (hops : List Host) (padding padding' : Nat → UInt8) :
    (start client hops padding).Alike (start client hops padding') := by
  refine ⟨rfl, rfl, ?_, .nil⟩
  exact List.forall₂_same.mpr fun n hn => by
    obtain ⟨host, -, rfl⟩ := List.mem_map.mp hn
    exact ⟨rfl, .nil, .nil, rfl, rfl⟩

end WatchedLine

/-! ## Runs -/

open WatchedLine in
/-- **The relays cannot tell two runs of the same shape apart**: whatever the payloads, they go
through the same states, and what each handles and passes on is alike. -/
theorem relays_unaware {client : Circuit} (hcircuit : client.circuitId = circuitId)
    {hops : List Host} (hpasses : ∀ h ∈ hops, ∃ cipher, h.relay.Passes circuitId cipher)
    (padding padding' : Nat → UInt8) {pairs : List (LineEvent × LineEvent)}
    (halike : ∀ e ∈ pairs, e.1.Alike e.2) (hallowed : ∀ e ∈ pairs, e.1.Allowed circuitId) :
    (run (step P A circuitId) (start client hops padding) (pairs.map Prod.fst)).Alike
      (run (step P A circuitId) (start client hops padding') (pairs.map Prod.snd)) := by
  let d := client.onionKeys.forwardDigest.state
  -- of the first run it is enough that its relays pass the circuit on
  have hstep : ∀ (s t : WatchedLine) (e : LineEvent × LineEvent),
      s.Sound P circuitId d ∧ s.Alike t → e.1.Alike e.2 ∧ e.1.Allowed circuitId →
        (s.step P A circuitId e.1).Sound P circuitId d ∧
          (s.step P A circuitId e.1).Alike (t.step P A circuitId e.2) :=
    fun s t e ⟨hsound, h⟩ ⟨hlike, hok⟩ => ⟨hsound.step hok, h.step hsound.relaying hlike⟩
  have hevery : EveryStep (fun s e => step P A circuitId s e.1)
      (fun _ e => e.1.Alike e.2 ∧ e.1.Allowed circuitId) (start client hops padding) pairs :=
    EveryStep.of_forall fun e he => ⟨halike e he, hallowed e he⟩
  exact (hevery.related hstep ⟨Sound.start hcircuit hpasses padding,
    Alike.start client hops padding padding'⟩).2

/-- Two destinations of one length leave the relays in one state. -/
theorem sample_relays_unaware :
    (run (WatchedLine.step .sample .ipv4 1) (.start TeardownSystem.sampleClient sampleHops
        fun _ => 0) (sampleBegin "a:80")).Alike
      (run (WatchedLine.step .sample .ipv4 1) (.start TeardownSystem.sampleClient sampleHops
        fun _ => 0) (sampleBegin "b:80")) := by
  have hpasses : ∀ h ∈ sampleHops, ∃ cipher, h.relay.Passes 1 cipher := by
    intro h hh
    rcases List.mem_cons.mp hh with rfl | hh
    · exact ⟨_, TeardownSystem.sampleLinked_passes 1 NodeType.noConfusion⟩
    · obtain rfl := List.mem_singleton.mp hh
      exact ⟨_, TeardownSystem.sampleLinked_passes 2 NodeType.noConfusion⟩
  refine @relays_unaware .sample .ipv4 1 TeardownSystem.sampleClient rfl sampleHops hpasses
    (fun _ => 0) (fun _ => 0) ((sampleBegin "a:80").zip (sampleBegin "b:80")) ?_ ?_
  · intro e he
    rcases List.mem_cons.mp he with rfl | he
    · exact .send (by decide)
    · rcases List.mem_cons.mp he with rfl | he
      · exact .hopServe 0
      · obtain rfl := List.mem_singleton.mp he
        exact .hopServe 1
  · intro e he
    rcases List.mem_cons.mp he with rfl | he
    · exact .inl rfl
    · rcases List.mem_cons.mp he with rfl | he
      · trivial
      · obtain rfl := List.mem_singleton.mp he
        trivial

end MiniTor
