import MiniTor.Circuit.System

/-!
# Both ends of a circuit in step

The invariant of a circuit in use: in either direction client and exit are the
two ends of a sealed channel over the layers of the relays (`InSync`), whatever
is in flight. `Core` is that invariant with what the parts need to keep moving;
each event keeps it, with one lemma for each kind of move.

- `Core.send`, `Core.pad`: the client writes to the entry.
- `Core.hopServe`, `Core.hopRead`: a hop moves.
- `Core.exitServe`: the exit takes a forward cell. It always verifies.
- `Core.exitStream`: the exit seals a cell of a stream.
- `Core.clientRead`: the client takes a backward cell. It is always accepted.
-/

namespace MiniTor

open Theory Client

variable (P : Primitives) {A : AddrSyntax} (circuitId : CircuitId)

/-- The cells of a circuit as a channel: payload under layers, tag of the running digest. -/
def cellChannel : Channel Message Bytes (ByteArr 4) Plain where
  carrier := onion
  absorb d m := d ++ cellTranscript m.streamId m.command.toU8 m.data
  tag := tagOf P
  carried m := m.digest
  view := Message.plain

/-- The forward cells the client's tasks send. -/
structure Plain.Sendable (p : Plain) : Prop where
  fits : p.data.length ≤ MAX_PAYLOAD_SIZE
  command : p.command = .begin ∨ p.command = .data ∨ p.command = .end
  utf8 : p.command = .begin → (fromUtf8 p.data).isSome = true

namespace System

/-- The relays between client and exit, and what is on its way to the exit. -/
def forwardPipeline (s : System) : List (List Keyed × List Message) :=
  forwardStages P circuitId s.hops ++ [s.exit.forwardStage P circuitId]

/-- The relays between exit and client, and what is on its way to the client. -/
def backwardPipeline (s : System) : List (List Keyed × List Message) :=
  backwardStages P circuitId s.hops ++
    [(backwardLayers P s.client.onionKeys.ciphers, messagesIn s.clientIn)]

/-- A move of the exit that does nothing. -/
theorem afterExit_quiet (s : System) {a : Acted} (hsent : a.sent = []) :
    s.afterExit a = { s with exit := a.node } := by
  rw [System.afterExit, hsent]
  show System.respond _ [] = _
  simp [System.respond]

/-- Client and exit agree in both directions, and every part keeps moving; `h` and `state`
are the exit's handler and crypto state. -/
structure Core (h : ExitCircuitHandler) (state : ExitCryptoState) (s : System) : Prop where
  hops : ∀ n ∈ s.hops, n.Relaying circuitId
  exit : s.exit.Exiting circuitId h state
  circuit : s.client.circuitId = circuitId
  reading : s.reading = true
  clientIn : Carries (Message.Backward circuitId) s.clientIn
  begins : ∀ p ∈ s.sent, p.command = .begin → (fromUtf8 p.data).isSome = true
  forward : (cellChannel P).InSync (s.forwardPipeline P circuitId)
    (forwardLayers P s.client.onionKeys.ciphers) state.forwardDigest.state
    s.client.onionKeys.forwardDigest.state (acceptsOf s.exitLog) s.sent
  backward : (cellChannel P).InSync (s.backwardPipeline P circuitId)
    [state.cipher.backward.layer P] s.client.onionKeys.backwardDigest.state
    state.backwardDigest.state s.opened (sealsOf s.exitLog)

end System

namespace System.Core

variable {P circuitId} {s : System} {h : ExitCircuitHandler} {state : ExitCryptoState}

/-! ## The client writes -/

/-- What is written to the entry is put into the forward pipeline, and touches nothing else. -/
theorem transmit (hs : s.Core P circuitId h state) {cells : List Bytes}
    (hcells : Carries (Message.Forward circuitId) cells) :
    (∀ n ∈ (s.transmit cells).hops, n.Relaying circuitId) ∧
      (s.transmit cells).exit.Exiting circuitId h state ∧
      (s.transmit cells).backwardPipeline P circuitId = s.backwardPipeline P circuitId ∧
      flush onion.stage ((s.transmit cells).forwardPipeline P circuitId) [] =
        flush onion.stage (s.forwardPipeline P circuitId) (messagesIn cells) := by
  obtain ⟨hhops, hdown, hback, hflush⟩ := pushFirst_flush (P := P) hs.hops hcells
  refine ⟨hhops, { hs.exit with fwd := hs.exit.fwd.append hdown }, ?_, ?_⟩
  · rw [backwardPipeline, backwardPipeline, ← hback]
    rfl
  · have hput := hflush (s.exit.forwardStage P circuitId).1 (s.exit.forwardStage P circuitId).2
      [] []
    rw [List.append_nil] at hput
    rw [← Node.forwardStage_push] at hput
    exact hput

/-- **The client seals a cell and writes it.** -/
theorem send (hs : s.Core P circuitId h state) {p : Plain} (hp : p.Sendable) :
    ∃ s', s.sendMessage P p.streamId p.command p.data = (s', true) ∧
      s'.Core P circuitId h state ∧ s'.sent = s.sent ++ [p] ∧ s'.tasks = s.tasks ∧
      s'.opened = s.opened ∧ s'.exitLog = s.exitLog ∧
      s'.client.streamSenders = s.client.streamSenders ∧
      s'.client.nextStreamId = s.client.nextStreamId := by
  let sealed := s.client.sealedCell P p.streamId p.command p.data
  let cell := sealed.toBytes s.padding
  have hsealedFits : sealed.data.length ≤ MAX_PAYLOAD_SIZE :=
    (Circuit.length_sealedCell ..).trans_le hp.fits
  have hcells : Carries (Message.Forward circuitId) [cell] :=
    Carries.singleton ⟨hs.circuit, hsealedFits, .inr hp.command⟩ hsealedFits
  have hmessages : messagesIn [cell] = [sealed] := messagesIn_singleton hsealedFits
  let s' : System :=
    { s with
      client := s.client.sealed p.streamId p.command p.data
      sent := s.sent ++ [p] }.transmit [cell]
  have hsend : s.sendMessage P p.streamId p.command p.data = (s', true) := by
    rw [sendMessage, s.client.sendMessage_working p.streamId p.command hp.fits]
  obtain ⟨hhops, hexit, hback, hflush⟩ := hs.transmit hcells
  rw [hmessages] at hflush
  -- the plaintext under its tag, as the exit will see it
  let plain : Message := { sealed with data := p.data }
  have hpassed : onion.dropped plain = false := by
    refine decide_eq_false ?_
    show p.command ≠ .padding
    rcases hp.command with hc | hc | hc
    all_goals rw [hc]; decide
  refine ⟨s', hsend, ?_, rfl, rfl, rfl, rfl, rfl, rfl⟩
  refine ⟨hhops, hexit, hs.circuit, hs.reading, hs.clientIn, ?_, ?_, ?_⟩
  · intro q hq
    rcases List.mem_append.mp hq with hq | hq
    · exact hs.begins q hq
    · rw [List.mem_singleton.mp hq]
      exact hp.utf8
  · have hsync := hs.forward.send (C := cellChannel P) (a := plain) hpassed rfl hflush
    have hlayers : forwardLayers P s'.client.onionKeys.ciphers =
        (forwardLayers P s.client.onionKeys.ciphers).map (Keyed.advance · p.data.length) :=
      forwardLayers_advanceForwardAll ..
    rw [hlayers]
    exact hsync
  · have hlayers : backwardLayers P s'.client.onionKeys.ciphers =
        backwardLayers P s.client.onionKeys.ciphers := backwardLayers_advanceForwardAll ..
    have hpipeline : s'.backwardPipeline P circuitId = s.backwardPipeline P circuitId := by
      rw [← hback, backwardPipeline, hlayers]
      rfl
    rw [hpipeline]
    exact hs.backward

/-- **PADDING** is written to the entry and dropped on the way. -/
theorem keepalive (hs : s.Core P circuitId h state) {data : Bytes}
    (hfits : data.length ≤ MAX_PAYLOAD_SIZE) : (s.keepalive data).Core P circuitId h state := by
  rw [System.keepalive]
  by_cases hready : s.client.state = .ready
  · let m := Message.padding s.client.circuitId data
    have hcells : Carries (Message.Forward circuitId) [m.toBytes s.padding] :=
      Carries.singleton ⟨hs.circuit, hfits, .inl rfl⟩ hfits
    have hmessages : messagesIn [m.toBytes s.padding] = [m] := messagesIn_singleton hfits
    have hwrite : s.client.sendPadding (.working s.padding) data = .ok (m.toBytes s.padding) :=
      Message.writeToStream_working hfits
    obtain ⟨hhops, hexit, hback, hflush⟩ := hs.transmit hcells
    have hdrop : flush onion.stage (s.forwardPipeline P circuitId) [m] =
        flush onion.stage (s.forwardPipeline P circuitId) [] := by
      rw [forwardPipeline]
      cases forwardStages P circuitId s.hops with
      | nil => exact onion.flush_dropped rfl
      | cons stage rest => exact onion.flush_dropped rfl
    rw [hmessages, hdrop] at hflush
    rw [if_pos hready, hwrite]
    refine ⟨hhops, hexit, hs.circuit, hs.reading, hs.clientIn, hs.begins,
      hs.forward.congr hflush, ?_⟩
    rw [hback]
    exact hs.backward
  · rw [if_neg hready]
    exact hs

/-! ## A hop moves -/

/-- **A hop serves its previous hop.** -/
theorem hopServe (hs : s.Core P circuitId h state) (i : Nat) :
    (s.afterHop (actAt (Node.serve P A fun _ => .ok ()) i s.hops)).Core P circuitId h state := by
  have hr : LineForwards P circuitId s.hops (actAt (Node.serve P A fun _ => .ok ()) i s.hops) :=
    actAt_forwards (fun n hn => hn.serve _) i hs.hops
  revert hr
  generalize actAt (Node.serve P A fun _ => .ok ()) i s.hops = r
  intro hr
  have hclientIn : s.clientIn ++ r.up = s.clientIn := by rw [hr.up, List.append_nil]
  refine ⟨hr.relaying, { hs.exit with fwd := hs.exit.fwd.append hr.down }, hs.circuit, hs.reading,
    ?_, hs.begins, ?_, ?_⟩
  · show Carries _ (s.clientIn ++ r.up)
    rw [hclientIn]
    exact hs.clientIn
  · refine hs.forward.settles ?_
    have happend := hr.settles.append (s.exit.forwardStage P circuitId).1
      (s.exit.forwardStage P circuitId).2 []
    rw [← Node.forwardStage_push] at happend
    exact happend
  · have hpipeline : (s.afterHop r).backwardPipeline P circuitId =
        s.backwardPipeline P circuitId := by
      show backwardStages P circuitId r.nodes ++ [(_, messagesIn (s.clientIn ++ r.up))] = _
      rw [hr.backward, hclientIn]
      rfl
    rw [hpipeline]
    exact hs.backward

/-- **A hop reads from its next hop.** -/
theorem hopRead (hs : s.Core P circuitId h state) (i : Nat) :
    (s.afterHop (actAt (Node.readNext P A circuitId) i s.hops)).Core P circuitId h state := by
  have hr : LineBackwards P circuitId s.hops (actAt (Node.readNext P A circuitId) i s.hops) :=
    actAt_backwards (fun n hn => hn.readNext) i hs.hops
  revert hr
  generalize actAt (Node.readNext P A circuitId) i s.hops = r
  intro hr
  have hfwdIn : ({ s.exit with fwdIn := s.exit.fwdIn ++ r.down } : Node) = s.exit := by
    rw [hr.down, List.append_nil]
  refine ⟨hr.relaying, ?_, hs.circuit, hs.reading, hs.clientIn.append hr.up, hs.begins, ?_, ?_⟩
  · show Node.Exiting circuitId h state { s.exit with fwdIn := s.exit.fwdIn ++ r.down }
    rw [hfwdIn]
    exact hs.exit
  · have hpipeline : (s.afterHop r).forwardPipeline P circuitId =
        s.forwardPipeline P circuitId := by
      show forwardStages P circuitId r.nodes ++
        [Node.forwardStage P circuitId { s.exit with fwdIn := s.exit.fwdIn ++ r.down }] = _
      rw [hr.forward, hfwdIn]
      rfl
    rw [hpipeline]
    exact hs.forward
  · refine hs.backward.settles ?_
    have happend := hr.settles.append (backwardLayers P s.client.onionKeys.ciphers)
      (messagesIn s.clientIn) []
    rw [← messagesIn_append] at happend
    exact happend

/-! ## The exit moves -/

/-- **What the exit seals** is put into the backward pipeline, and touches nothing else. -/
theorem respond (hs : s.Core P circuitId h state) {padding : Nat → UInt8}
    {before after : ExitCryptoState} {sent : List Effect}
    (hanswers : Answers P circuitId padding before sent after)
    (hcipher : before.cipher.backward = state.cipher.backward)
    (hdigest : before.backwardDigest = state.backwardDigest) :
    (∀ n ∈ (s.respond (cellsBackward sent)).hops, n.Relaying circuitId) ∧
      forwardStages P circuitId (s.respond (cellsBackward sent)).hops =
        forwardStages P circuitId s.hops ∧
      Carries (Message.Backward circuitId) (s.respond (cellsBackward sent)).clientIn ∧
      (cellChannel P).InSync ((s.respond (cellsBackward sent)).backwardPipeline P circuitId)
        [after.cipher.backward.layer P] s.client.onionKeys.backwardDigest.state
        after.backwardDigest.state s.opened (sealsOf s.exitLog ++ sealsOf sent) := by
  have hcarries := hanswers.carries
  obtain ⟨hhops, hup, hforward, hflush⟩ := pushLast_flush (P := P) hs.hops hcarries
  have hput : flush onion.stage
      ((s.respond (cellsBackward sent)).backwardPipeline P circuitId) [] =
      flush onion.stage (s.backwardPipeline P circuitId) (messagesIn (cellsBackward sent)) := by
    have hclient := hflush (backwardLayers P s.client.onionKeys.ciphers) (messagesIn s.clientIn)
      [] []
    rw [← messagesIn_append, List.append_nil] at hclient
    exact hclient
  refine ⟨hhops, hforward, hs.clientIn.append hup, ?_⟩
  have hbackward := hs.backward
  rw [← hcipher, ← hdigest] at hbackward
  cases hanswers with
  | quiet hseals hcells =>
    rw [hcells] at hput
    rw [hseals, List.append_nil, hcells]
    exact hbackward.congr hput
  | @sealed p hp hseals hcells =>
    let sealed := (before.sealPlain P circuitId p).2
    -- the plaintext under its tag, as the client will see it
    let plain : Message := { sealed with data := p.data }
    have hfits : sealed.data.length ≤ MAX_PAYLOAD_SIZE :=
      (ExitCryptoState.length_seal ..).trans_le hp.fits
    have hmessages : messagesIn [sealed.toBytes padding] = [sealed] := messagesIn_singleton hfits
    have hpassed : onion.dropped plain = false := by
      refine decide_eq_false ?_
      show p.command ≠ .padding
      rcases hp.command with hc | hc | hc
      all_goals rw [hc]; decide
    rw [hcells, hmessages] at hput
    rw [hseals, hcells]
    exact hbackward.send (C := cellChannel P) (a := plain) hpassed rfl hput

/-- **A stream task of the exit** seals a cell and writes it. -/
theorem exitStream (hs : s.Core P circuitId h state) {p : Plain} (hp : p.Sealable) :
    ∃ h' state', (s.afterExit (s.exit.streamSend P circuitId p)).Core P circuitId h' state' ∧
      h'.streams = h.streams ∧
      ∃ cell, (s.afterExit (s.exit.streamSend P circuitId p)).exitLog =
        s.exitLog ++ [.seal p.streamId p.command p.data, .toPrevHop cell] := by
  obtain ⟨h', state', hnode, hstreams, hfwdIn, hforward, hdigest, ⟨cell, hsent⟩, hanswers⟩ :=
    hs.exit.streamSend (P := P) hp
  have haccepts : acceptsOf (s.exit.streamSend P circuitId p).sent = [] := by
    rw [hsent]
    rfl
  obtain ⟨hhops, hstages, hclientIn, hbackward⟩ := hs.respond hanswers rfl rfl
  refine ⟨h', state', ⟨hhops, hnode, hs.circuit, hs.reading, hclientIn, hs.begins, ?_, ?_⟩,
    hstreams, cell, ?_⟩
  · have hpipeline : (s.afterExit (s.exit.streamSend P circuitId p)).forwardPipeline P circuitId =
        s.forwardPipeline P circuitId := by
      rw [forwardPipeline, forwardPipeline, hs.exit.forwardStage, ← hforward, ← hfwdIn,
        ← hstages, ← hnode.forwardStage (P := P)]
      rfl
    have haccepted : acceptsOf (s.afterExit (s.exit.streamSend P circuitId p)).exitLog =
        acceptsOf s.exitLog := by
      show acceptsOf (s.exitLog ++ _) = _
      rw [acceptsOf_append, haccepts, List.append_nil]
    rw [hpipeline, haccepted, hdigest]
    exact hs.forward
  · show (cellChannel P).InSync _ _ _ _ _ (sealsOf (s.exitLog ++ _))
    rw [sealsOf_append]
    exact hbackward
  · show s.exitLog ++ _ = _
    rw [hsent]

/-- A stream task of the exit that ends changes the stream table only. -/
theorem exitStreamEnded (hs : s.Core P circuitId h state) (streamId : StreamId) :
    ({ s with exit := s.exit.streamEnded circuitId streamId } : System).Core P circuitId
      (h.streamEnded streamId) state := by
  have hnode := hs.exit.streamEnded streamId
  have hstage : (s.exit.streamEnded circuitId streamId).forwardStage P circuitId =
      s.exit.forwardStage P circuitId := by
    have hfwdIn : (s.exit.streamEnded circuitId streamId).fwdIn = s.exit.fwdIn := by
      rw [Node.streamEnded, hs.exit.lookup]
      rfl
    rw [hnode.forwardStage, hs.exit.forwardStage, hfwdIn]
  refine ⟨hs.hops, hnode, hs.circuit, hs.reading, hs.clientIn, hs.begins, ?_, hs.backward⟩
  have hforward := hs.forward
  rw [forwardPipeline, ← hstage] at hforward
  exact hforward

/-- What the exit takes next verifies, and is the next plaintext the client sealed. -/
theorem next_verified (hs : s.Core P circuitId h state) {m : Message} {q : List Message}
    (hnext : messagesIn s.exit.fwdIn = m :: q) (hcommand : m.command ≠ .padding) :
    (state.openForward P m).2.2 = true ∧
      (m.command = .begin → (fromUtf8 (state.opens P m).data).isSome = true) ∧
      (cellChannel P).InSync (forwardStages P circuitId s.hops ++
          [([(state.openForward P m).1.cipher.forward.layer P], q)])
        (forwardLayers P s.client.onionKeys.ciphers)
        (state.openForward P m).1.forwardDigest.state
        s.client.onionKeys.forwardDigest.state (acceptsOf s.exitLog ++ [state.opens P m]) s.sent := by
  let opened : Message := { m with data := (state.openForward P m).2.1 }
  have hmove : Settles onion.stage (s.forwardPipeline P circuitId)
      (forwardStages P circuitId s.hops ++
        [([(state.openForward P m).1.cipher.forward.layer P], q)]) [opened] := by
    have hhead := Settles.move (f := onion.stage) [state.cipher.forward.layer P] m q
    rw [onion.stage_passed (decide_eq_false hcommand)] at hhead
    rw [forwardPipeline, hs.exit.forwardStage, hnext]
    exact hhead.append_left _
  obtain ⟨htag, hsync⟩ := hs.forward.receive (C := cellChannel P) hmove
  refine ⟨(state.openForward_verified P m).mpr htag, ?_, hsync⟩
  intro hbegin
  refine hs.begins (state.opens P m) ?_ hbegin
  obtain ⟨rest, hrest⟩ := hsync.received_prefix
  rw [← hrest]
  exact List.mem_append_left _ (List.mem_append_right _ List.mem_cons_self)

/-- **The exit serves its previous hop.** Nothing is refused; `connect` is how its
connections end. -/
theorem exitServe (hs : s.Core P circuitId h state) {connect : String → Except IoError Unit}
    (hconnect : ∀ destination e, connect destination = .error e →
      (connectionFailed e).length ≤ MAX_PAYLOAD_SIZE) :
    ∃ h' state', (s.afterExit (s.exit.serve P A connect)).Core P circuitId h' state' ∧
      ((h' = h ∧ (s.afterExit (s.exit.serve P A connect)).exitLog = s.exitLog) ∨
        ∃ opened p sent, h.Serves P opened circuitId s.exit.host.padding connect p h' sent ∧
          (s.afterExit (s.exit.serve P A connect)).exitLog = s.exitLog ++ sent) := by
  have hturn := hs.exit.serve (P := P) (A := A)
    (fun m q hnext hcommand => ⟨(hs.next_verified hnext hcommand).1,
      (hs.next_verified hnext hcommand).2.1⟩) hconnect
  revert hturn
  generalize s.exit.serve P A connect = a
  intro hturn
  cases hturn with
  | idle hact =>
    have hsame : s.afterExit a = s := by
      rw [hact]
      exact s.afterExit_quiet rfl
    rw [hsame]
    exact ⟨h, state, hs, .inl ⟨rfl, rfl⟩⟩
  | @padding m hmessages hcommand hnode hsent =>
    rw [s.afterExit_quiet hsent]
    refine ⟨h, state, ⟨hs.hops, hnode, hs.circuit, hs.reading, hs.clientIn, hs.begins, ?_,
      hs.backward⟩, .inl ⟨rfl, rfl⟩⟩
    refine hs.forward.settles ?_
    have hhead := Settles.move (f := onion.stage) [state.cipher.forward.layer P] m
      (messagesIn a.node.fwdIn)
    rw [onion.stage_dropped (decide_eq_true hcommand)] at hhead
    rw [forwardPipeline, hs.exit.forwardStage, hmessages]
    show Settles onion.stage _ (forwardStages P circuitId s.hops ++
      [a.node.forwardStage P circuitId]) []
    rw [hnode.forwardStage]
    exact hhead.append_left _
  | @cell m h' state' hmessages hcommand hserves hnode hanswers =>
    obtain ⟨-, -, hsync⟩ := hs.next_verified hmessages hcommand
    obtain ⟨haccepts, -, -⟩ := hserves.answers
    obtain ⟨hcipher, hdigest⟩ := hanswers.forward
    obtain ⟨hhops, hstages, hclientIn, hbackward⟩ := hs.respond hanswers rfl rfl
    refine ⟨h', state', ⟨hhops, hnode, hs.circuit, hs.reading, hclientIn, hs.begins, ?_, ?_⟩,
      .inr ⟨_, _, _, hserves, rfl⟩⟩
    · have hpipeline : (s.afterExit a).forwardPipeline P circuitId =
          forwardStages P circuitId s.hops ++
            [([(state.openForward P m).1.cipher.forward.layer P], messagesIn a.node.fwdIn)] := by
        rw [forwardPipeline, ← hstages, ← hcipher, ← hnode.forwardStage (P := P)]
        rfl
      have haccepted : acceptsOf (s.afterExit a).exitLog =
          acceptsOf s.exitLog ++ [state.opens P m] := by
        show acceptsOf (s.exitLog ++ a.sent) = _
        rw [acceptsOf_append, haccepts]
      rw [hpipeline, haccepted, hdigest]
      exact hsync
    · show (cellChannel P).InSync _ _ _ _ _ (sealsOf (s.exitLog ++ a.sent))
      rw [sealsOf_append]
      exact hbackward

/-! ## The client reads -/

/-- The tasks of the streams and their channels are no part of it. -/
theorem updateTask (hs : s.Core P circuitId h state) (task : Nat)
    (f : StreamTask → StreamTask) : (s.updateTask task f).Core P circuitId h state := by
  have htasks : ({ s with tasks := s.tasks.modify task f } : System).Core P circuitId h state :=
    ⟨hs.hops, hs.exit, hs.circuit, hs.reading, hs.clientIn, hs.begins, hs.forward, hs.backward⟩
  rw [System.updateTask]
  dsimp only
  cases (s.tasks.modify task f)[task]? with
  | none => exact htasks
  | some t =>
    dsimp only
    by_cases hclosed : t.phase = .closed
    · rw [if_pos hclosed]
      exact ⟨hs.hops, hs.exit, hs.circuit, hs.reading, hs.clientIn, hs.begins, hs.forward,
        hs.backward⟩
    · rw [if_neg hclosed]
      exact htasks

/-- **The client reads a cell.** It is always accepted: the next plaintext the exit sealed,
delivered to its stream's channel when the stream is registered. -/
theorem clientRead (hs : s.Core P circuitId h state) :
    (s.clientRead P).Core P circuitId h state ∧
      (s.clientRead P = s ∨
        ∃ m : Message, s.clientRead P =
          { s with
            client := s.client.opened m.streamId m.command m.data
            clientIn := s.clientIn.tail
            opened := s.opened ++ [m.plain]
            tasks := deliverTo s.tasks (delivery s.client.streamSenders m) }) := by
  cases hcells : s.clientIn with
  | nil =>
    have hsame : s.clientRead P = s := by
      rw [System.clientRead, hs.reading, hcells]
    rw [hsame]
    exact ⟨hs, .inl rfl⟩
  | cons cell cells =>
    have hclientIn := hs.clientIn
    rw [hcells] at hclientIn
    obtain ⟨m, hm, ⟨hid, hfits, hcommand⟩, hrest, hmessages⟩ := hclientIn.head
    have hnotDestroy : m.command ≠ .destroy := by
      rcases hcommand with hc | hc | hc
      all_goals rw [hc]; decide
    have hpassed : onion.dropped m = false := by
      refine decide_eq_false ?_
      rcases hcommand with hc | hc | hc
      all_goals rw [hc]; decide
    let decrypted := s.client.decrypted P m
    have hlen : decrypted.length = m.data.length := length_applyLayers ..
    have hmove : Settles onion.stage (s.backwardPipeline P circuitId)
        (backwardStages P circuitId s.hops ++ [(((backwardLayers P
          s.client.onionKeys.ciphers).map (Keyed.advance · m.data.length)), messagesIn cells)])
        [{ m with data := decrypted }] := by
      have hhead := Settles.move (f := onion.stage) (backwardLayers P s.client.onionKeys.ciphers) m
        (messagesIn cells)
      rw [onion.stage_passed hpassed] at hhead
      rw [backwardPipeline, hcells, hmessages]
      exact hhead.append_left _
    obtain ⟨htag, hsync⟩ := hs.backward.receive (C := cellChannel P) hmove
    let accepted := Message.new m.circuitId m.streamId m.command decrypted
    let s₁ : System :=
      { s with
        client := s.client.opened m.streamId m.command decrypted
        clientIn := cells
        opened := s.opened ++ [accepted.plain] }
    have hcore : s₁.Core P circuitId h state := by
      refine ⟨hs.hops, hs.exit, hs.circuit, hs.reading, hrest, hs.begins, ?_, ?_⟩
      · have hlayers : forwardLayers P s₁.client.onionKeys.ciphers =
            forwardLayers P s.client.onionKeys.ciphers := forwardLayers_advanceBackwardAll ..
        rw [hlayers]
        exact hs.forward
      · have hlayers : backwardLayers P s₁.client.onionKeys.ciphers =
            (backwardLayers P s.client.onionKeys.ciphers).map
              (Keyed.advance · m.data.length) := by
          rw [← hlen]
          exact backwardLayers_advanceBackwardAll ..
        rw [backwardPipeline, hlayers]
        exact hsync
    have hread : s.clientRead P =
        { s₁ with tasks := deliverTo s.tasks (delivery s.client.streamSenders accepted) } := by
      rw [System.clientRead, hs.reading, hcells]
      dsimp only
      rw [hm]
      dsimp only [Except.toOption]
      rw [Circuit.readerStep_accept hnotDestroy htag]
      dsimp only
      cases delivery s.client.streamSenders accepted with
      | none => rfl
      | some m' => rfl
    rw [hread]
    refine ⟨⟨hcore.hops, hcore.exit, hcore.circuit, hcore.reading, hcore.clientIn, hcore.begins,
      hcore.forward, hcore.backward⟩, .inr ⟨accepted, ?_⟩⟩
    rfl

end System.Core

end MiniTor
