import MiniTor.Circuit.Line

/-!
# The exit of a circuit

What the exit does with a cell that verifies, as one inversion lemma: `Serves`
lists the ways a BEGIN, DATA or END ends, each with the handler after and
everything done, the answer on the wire included (`serve_serves`). The run
arguments below read their facts off its cases.
-/

namespace MiniTor

open Theory

variable (P : Primitives) (A : AddrSyntax)

/-- A cell in the clear. -/
structure Plain where
  streamId : StreamId
  command : MessageCommand
  data : Bytes
  deriving DecidableEq

/-- The payload of the END for a connection that failed. -/
def connectionFailed (e : IoError) : Bytes := ascii "Connection failed: " ++ e.text

/-- The cell a plaintext is sealed into, and the state after. -/
def ExitCryptoState.sealPlain (s : ExitCryptoState) (circuitId : CircuitId) (p : Plain) :
    ExitCryptoState × Message := s.seal P circuitId p.streamId p.command p.data

namespace ExitCircuitHandler

/-- The handler under a new crypto state. -/
def withState (h : ExitCircuitHandler) (state : ExitCryptoState) : ExitCircuitHandler :=
  { h with sharedState := some state }

variable (h : ExitCircuitHandler) (state : ExitCryptoState) (circuitId : CircuitId)
  (padding : Nat → UInt8) (connect : String → Except IoError Unit)

/-- Seal a plaintext and write the cell. -/
def answer (p : Plain) : List Effect :=
  [.seal p.streamId p.command p.data,
    .toPrevHop ((state.sealPlain P circuitId p).2.toBytes padding)]

/-- How a cell with plaintext `p` that verified is served, from the handler with the crypto
state `state` after opening it. -/
inductive Serves (p : Plain) : ExitCircuitHandler → List Effect → Prop
  | connected {text : String} (hcommand : p.command = .begin) (htext : fromUtf8 p.data = some text)
      (hconnect : connect (trimEndNul text) = .ok ()) :
      Serves p
        { h.withState (state.sealPlain P circuitId ⟨p.streamId, .connected, []⟩).1 with
          streams := h.streams.insert p.streamId ⟨trimEndNul text, true⟩ }
        ([.accept p.streamId p.command p.data, .connect p.streamId (trimEndNul text)] ++
          answer P state circuitId padding ⟨p.streamId, .connected, []⟩ ++ [.openStream p.streamId])
  | refused {text : String} {e : IoError} (hcommand : p.command = .begin)
      (htext : fromUtf8 p.data = some text) (hconnect : connect (trimEndNul text) = .error e)
      (hreason : (connectionFailed e).length ≤ MAX_PAYLOAD_SIZE) :
      Serves p (h.withState (state.sealPlain P circuitId ⟨p.streamId, .end, connectionFailed e⟩).1)
        ([.accept p.streamId p.command p.data, .connect p.streamId (trimEndNul text)] ++
          answer P state circuitId padding ⟨p.streamId, .end, connectionFailed e⟩)
  | queued {stream : ExitStream} (hcommand : p.command = .data)
      (hlookup : h.streams.lookup p.streamId = some stream) (halive : stream.receiverAlive = true) :
      Serves p (h.withState state)
        [.accept p.streamId p.command p.data, .toDestination p.streamId p.data]
  | answered {reason : Bytes} (hcommand : p.command = .data)
      (hreason : reason.length ≤ MAX_PAYLOAD_SIZE)
      (hdead : ∀ stream ∈ h.streams.lookup p.streamId, stream.receiverAlive = false) :
      Serves p (h.withState (state.sealPlain P circuitId ⟨p.streamId, .end, reason⟩).1)
        ([.accept p.streamId p.command p.data] ++
          answer P state circuitId padding ⟨p.streamId, .end, reason⟩)
  | ended (hcommand : p.command = .end) :
      Serves p
        { h.withState (state.sealPlain P circuitId ⟨p.streamId, .end, []⟩).1 with
          streams := h.streams.erase p.streamId }
        ([.accept p.streamId p.command p.data, .closeStream p.streamId] ++
          answer P state circuitId padding ⟨p.streamId, .end, []⟩)

end ExitCircuitHandler

/-- Everything a method does, its response written to the previous hop. -/
def Outcome.written {σ : Type} (o : Outcome σ) (padding : Nat → UInt8) : List Effect :=
  match o.result with
  | .ok (some response) => o.sent ++ [.toPrevHop (response.toBytes padding)]
  | _ => o.sent

/-- The method succeeds, and its response, if any, fits a cell. -/
def Outcome.Fits {σ : Type} (o : Outcome σ) : Prop :=
  ∃ response, o.result = .ok response ∧ ∀ m ∈ response, m.data.length ≤ MAX_PAYLOAD_SIZE

/-! ## The handler -/

section Handler

variable {P} {h : ExitCircuitHandler} {state : ExitCryptoState} {env : Env} {m : Message}
  {padding : Nat → UInt8}

/-- The plaintext a forward cell opens to. -/
def ExitCryptoState.opens (P : Primitives) (s : ExitCryptoState) (m : Message) : Plain :=
  ⟨m.streamId, m.command, (s.openForward P m).2.1⟩

/-- BEGIN, once opened, connects and answers CONNECTED or END. -/
theorem handleBegin_serves (hstate : h.sharedState = some state) (hcommand : m.command = .begin)
    (hverified : (state.openForward P m).2.2 = true)
    (hutf8 : (fromUtf8 (state.opens P m).data).isSome = true)
    (hconnect : ∀ dest e, env.connect dest = .error e →
      (connectionFailed e).length ≤ MAX_PAYLOAD_SIZE) :
    (h.handleBegin P env (.working padding) m).Fits ∧
      h.Serves P (state.openForward P m).1 h.context.circuitId padding env.connect
        (state.opens P m) (h.handleBegin P env (.working padding) m).handler
        ((h.handleBegin P env (.working padding) m).written padding) := by
  obtain ⟨text, htext⟩ := Option.isSome_iff_exists.mp hutf8
  have hdecoded : fromUtf8 (state.openForward P m).2.1 = some text := htext
  rw [ExitCircuitHandler.handleBegin, ExitCircuitHandler.openCell_ok hstate hverified]
  dsimp only
  rw [ExitCircuitHandler.serveBegin, hdecoded]
  dsimp only
  have hplain : state.opens P m = ⟨m.streamId, .begin, (state.openForward P m).2.1⟩ := by
    rw [ExitCryptoState.opens, hcommand]
  rw [hplain]
  cases hdial : env.connect (trimEndNul text) with
  | ok u =>
    -- CONNECTED is sealed and written by the handler itself, END is returned to be written
    have hwrite : (((state.openForward P m).1.seal P h.context.circuitId m.streamId .connected
        []).2).writeToStream (.working padding) =
        .ok ((((state.openForward P m).1.seal P h.context.circuitId m.streamId .connected
          []).2).toBytes padding) :=
      Message.writeToStream_working (by rw [ExitCryptoState.length_seal]; exact Nat.zero_le _)
    have hserves := @ExitCircuitHandler.Serves.connected P h (state.openForward P m).1
      h.context.circuitId padding env.connect
      ⟨m.streamId, .begin, (state.openForward P m).2.1⟩ text rfl hdecoded hdial
    dsimp only [ExitCircuitHandler.sealUnder]
    rw [hwrite]
    exact ⟨⟨none, rfl, fun _ hm => nomatch hm⟩, hserves⟩
  | error e =>
    have hserves := @ExitCircuitHandler.Serves.refused P h (state.openForward P m).1
      h.context.circuitId padding env.connect
      ⟨m.streamId, .begin, (state.openForward P m).2.1⟩ text e rfl hdecoded hdial (hconnect _ _ hdial)
    refine ⟨⟨_, rfl, ?_⟩, hserves⟩
    rintro response ⟨⟩
    rw [ExitCircuitHandler.sealUnder]
    exact (ExitCryptoState.length_seal ..).trans_le (hconnect _ _ hdial)

/-- DATA, once opened, is queued for its destination or answered END. -/
theorem handleData_serves (hstate : h.sharedState = some state) (hcommand : m.command = .data)
    (hverified : (state.openForward P m).2.2 = true) :
    (h.handleData P m).Fits ∧
      h.Serves P (state.openForward P m).1 h.context.circuitId padding env.connect
        (state.opens P m) (h.handleData P m).handler ((h.handleData P m).written padding) := by
  have hplain : state.opens P m = ⟨m.streamId, .data, (state.openForward P m).2.1⟩ := by
    rw [ExitCryptoState.opens, hcommand]
  rw [ExitCircuitHandler.handleData, ExitCircuitHandler.openCell_ok hstate hverified, hplain]
  dsimp only
  rw [ExitCircuitHandler.serveData]
  dsimp only
  -- both ENDs of a stream that takes nothing go the same way
  have hanswered : ∀ reason : Bytes, reason.length ≤ MAX_PAYLOAD_SIZE →
      (∀ stream ∈ h.streams.lookup m.streamId, stream.receiverAlive = false) →
      let sealing := (h.withState (state.openForward P m).1).sealUnder P
        (state.openForward P m).1 m.streamId .end reason
      let o := Outcome.ok sealing.1 [.accept m.streamId .data (state.openForward P m).2.1,
        .seal m.streamId .end reason] (some sealing.2)
      o.Fits ∧ h.Serves P (state.openForward P m).1 h.context.circuitId padding env.connect
        ⟨m.streamId, .data, (state.openForward P m).2.1⟩ o.handler (o.written padding) := by
    intro reason hreason hdead
    have hserves := @ExitCircuitHandler.Serves.answered P h (state.openForward P m).1
      h.context.circuitId padding env.connect
      ⟨m.streamId, .data, (state.openForward P m).2.1⟩ reason rfl hreason hdead
    refine ⟨⟨_, rfl, ?_⟩, hserves⟩
    rintro response ⟨⟩
    rw [ExitCircuitHandler.sealUnder]
    exact (ExitCryptoState.length_seal ..).trans_le hreason
  cases hlookup : h.streams.lookup m.streamId with
  | none => exact hanswered _ (by decide) (by rw [hlookup]; exact fun _ hs => nomatch hs)
  | some stream =>
    dsimp only
    by_cases halive : stream.receiverAlive = true
    · have hserves := @ExitCircuitHandler.Serves.queued P h (state.openForward P m).1
        h.context.circuitId padding env.connect
        ⟨m.streamId, .data, (state.openForward P m).2.1⟩ stream rfl hlookup halive
      rw [if_pos halive]
      exact ⟨⟨none, rfl, fun _ hm => nomatch hm⟩, hserves⟩
    · rw [if_neg halive]
      refine hanswered _ (by decide) ?_
      rw [hlookup]
      rintro _ ⟨⟩
      exact Bool.eq_false_iff.mpr halive

/-- END, once opened, drops the stream and is answered END. -/
theorem handleEnd_serves (hstate : h.sharedState = some state) (hcommand : m.command = .end)
    (hverified : (state.openForward P m).2.2 = true) :
    (h.handleEnd P m).Fits ∧
      h.Serves P (state.openForward P m).1 h.context.circuitId padding env.connect
        (state.opens P m) (h.handleEnd P m).handler ((h.handleEnd P m).written padding) := by
  have hplain : state.opens P m = ⟨m.streamId, .end, (state.openForward P m).2.1⟩ := by
    rw [ExitCryptoState.opens, hcommand]
  have hserves := @ExitCircuitHandler.Serves.ended P h (state.openForward P m).1
    h.context.circuitId padding env.connect
    ⟨m.streamId, .end, (state.openForward P m).2.1⟩ rfl
  rw [ExitCircuitHandler.handleEnd, ExitCircuitHandler.openCell_ok hstate hverified, hplain]
  refine ⟨⟨_, rfl, ?_⟩, hserves⟩
  rintro response ⟨⟩
  exact (ExitCryptoState.length_seal P (state.openForward P m).1 h.context.circuitId m.streamId
    .end []).trans_le (Nat.zero_le _)

/-- **A cell that verifies is served.** -/
theorem handleMessage_serves (hstate : h.sharedState = some state)
    (hcommand : m.command = .begin ∨ m.command = .data ∨ m.command = .end)
    (hverified : (state.openForward P m).2.2 = true)
    (hutf8 : m.command = .begin → (fromUtf8 (state.opens P m).data).isSome = true)
    (hconnect : ∀ dest e, env.connect dest = .error e →
      (connectionFailed e).length ≤ MAX_PAYLOAD_SIZE) :
    (h.handleMessage P env (some (.working padding)) m).Fits ∧
      h.Serves P (state.openForward P m).1 h.context.circuitId padding env.connect
        (state.opens P m) (h.handleMessage P env (some (.working padding)) m).handler
        ((h.handleMessage P env (some (.working padding)) m).written padding) := by
  unfold ExitCircuitHandler.handleMessage
  rcases hcommand with hc | hc | hc
  · rw [hc]
    exact handleBegin_serves hstate hc hverified (hutf8 hc) hconnect
  · rw [hc]
    exact handleData_serves hstate hc hverified
  · rw [hc]
    exact handleEnd_serves hstate hc hverified

end Handler

/-! ## The log of what an exit did -/

/-- The plaintexts an exit accepted. -/
def acceptsOf (sent : List Effect) : List Plain :=
  sent.filterMap fun e =>
    match e with
    | .accept streamId command data => some ⟨streamId, command, data⟩
    | _ => none

/-- The plaintexts an exit sealed. -/
def sealsOf (sent : List Effect) : List Plain :=
  sent.filterMap fun e =>
    match e with
    | .seal streamId command data => some ⟨streamId, command, data⟩
    | _ => none

@[simp] theorem acceptsOf_append (sent sent' : List Effect) :
    acceptsOf (sent ++ sent') = acceptsOf sent ++ acceptsOf sent' := List.filterMap_append

@[simp] theorem sealsOf_append (sent sent' : List Effect) :
    sealsOf (sent ++ sent') = sealsOf sent ++ sealsOf sent' := List.filterMap_append

/-- A plaintext an exit may seal. -/
structure Plain.Sealable (p : Plain) : Prop where
  fits : p.data.length ≤ MAX_PAYLOAD_SIZE
  command : p.command = .connected ∨ p.command = .data ∨ p.command = .end

/-- What the exit wrote back, from the crypto state `s`: nothing, or one cell, sealed as it
was written. -/
inductive Answers (circuitId : CircuitId) (padding : Nat → UInt8) (s : ExitCryptoState)
    (sent : List Effect) : ExitCryptoState → Prop
  | quiet (hseals : sealsOf sent = []) (hcells : cellsBackward sent = []) :
      Answers circuitId padding s sent s
  | sealed {p : Plain} (hp : p.Sealable) (hseals : sealsOf sent = [p])
      (hcells : cellsBackward sent = [(s.sealPlain P circuitId p).2.toBytes padding]) :
      Answers circuitId padding s sent (s.sealPlain P circuitId p).1

variable {P A} {circuitId : CircuitId} {padding : Nat → UInt8}
  {connect : String → Except IoError Unit} {h h' : ExitCircuitHandler}
  {state : ExitCryptoState} {p : Plain} {sent : List Effect}

/-- Serving a cell accepts its plaintext and writes at most one cell back. -/
theorem ExitCircuitHandler.Serves.answers
    (hserves : h.Serves P state circuitId padding connect p h' sent) :
    acceptsOf sent = [p] ∧ h'.context = h.context ∧
      ∃ state', h'.sharedState = some state' ∧
        Answers P circuitId padding state sent state' := by
  cases hserves with
  | connected hcommand htext hconnect =>
    exact ⟨rfl, rfl, _, rfl, .sealed ⟨Nat.zero_le _, .inl rfl⟩ rfl rfl⟩
  | refused hcommand htext hconnect hreason =>
    exact ⟨rfl, rfl, _, rfl, .sealed ⟨hreason, .inr (.inr rfl)⟩ rfl rfl⟩
  | queued hcommand hlookup halive => exact ⟨rfl, rfl, _, rfl, .quiet rfl rfl⟩
  | answered hcommand hreason hdead =>
    exact ⟨rfl, rfl, _, rfl, .sealed ⟨hreason, .inr (.inr rfl)⟩ rfl rfl⟩
  | ended hcommand =>
    exact ⟨rfl, rfl, _, rfl, .sealed ⟨Nat.zero_le _, .inr (.inr rfl)⟩ rfl rfl⟩

/-- The cells an exit writes back are fit to be passed on. -/
theorem Answers.carries {before after : ExitCryptoState}
    (hanswers : Answers P circuitId padding before sent after) :
    Carries (Message.Backward circuitId) (cellsBackward sent) := by
  cases hanswers with
  | quiet hseals hcells =>
    rw [hcells]
    exact Carries.nil
  | @sealed p hp hseals hcells =>
    have hfits : (before.sealPlain P circuitId p).2.data.length ≤ MAX_PAYLOAD_SIZE :=
      (ExitCryptoState.length_seal ..).trans_le hp.fits
    rw [hcells]
    exact Carries.singleton ⟨rfl, hfits, hp.command⟩ hfits

/-- Sealing leaves the forward half alone. -/
theorem Answers.forward {before after : ExitCryptoState}
    (hanswers : Answers P circuitId padding before sent after) :
    after.cipher.forward = before.cipher.forward ∧ after.forwardDigest = before.forwardDigest := by
  cases hanswers with
  | quiet hseals hcells => exact ⟨rfl, rfl⟩
  | sealed hp hseals hcells => exact ⟨rfl, rfl⟩

/-! ## The node -/

/-- A relay serving its circuit's exit handler. -/
theorem Relay.onMessage_exit {r : Relay} {env : Env} {m : Message}
    (hlookup : r.registry.getCircuit m.circuitId = some (.exit h))
    (hcommand : m.command = .begin ∨ m.command = .data ∨ m.command = .end)
    (hprev : env.prevHop = .working padding)
    (hfits : (h.handleMessage P env (some (.working padding)) m).Fits) :
    ∃ relay, r.onMessage P A env m =
        ⟨relay, (h.handleMessage P env (some (.working padding)) m).written padding, true⟩ ∧
      relay.registry.getCircuit m.circuitId =
        some (.exit (h.handleMessage P env (some (.working padding)) m).handler) := by
  have hregistry : r.registry.handleMessage P A env (some env.prevHop) m =
      ⟨r.registry.setCircuit m.circuitId
          (.exit (h.handleMessage P env (some (.working padding)) m).handler),
        (h.handleMessage P env (some (.working padding)) m).sent,
        (h.handleMessage P env (some (.working padding)) m).result⟩ := by
    rw [CircuitRegistry.handleMessage, hlookup, hprev]
    rfl
  have hplain : m.command ≠ .create ∧ m.command ≠ .destroy ∧
      ¬(m.command = .extended ∨ m.command = .extend) ∧
      ¬(m.command = .extended ∨ m.command = .extend ∨ m.command = .destroy) := by
    rcases hcommand with hc | hc | hc
    all_goals rw [hc]; decide
  obtain ⟨hcreate, hdestroy, hextend, hcounted⟩ := hplain
  have hquiet : ∀ relay : Relay, (relay.countDestroyed m.command).spawnReader m.circuitId
      m.command = (relay, []) := by
    intro relay
    rw [countDestroyed, if_neg hdestroy, spawnReader, if_neg hextend]
  have hafter : (r.registry.setCircuit m.circuitId
      (.exit (h.handleMessage P env (some (.working padding)) m).handler)).getCircuit
        m.circuitId = some (.exit (h.handleMessage P env (some (.working padding)) m).handler) :=
    CircuitRegistry.getCircuit_setCircuit_self hlookup
  -- only the outcome matters from here on: what it wrote and whether it responds
  revert hregistry hafter hfits
  generalize h.handleMessage P env (some (.working padding)) m = o
  rintro ⟨response, hresult, hresponse⟩ hregistry hafter
  rw [onMessage, if_neg hcreate, onCell, hregistry, hresult, hprev, Outcome.written, hresult]
  cases response with
  | none =>
    dsimp only
    rw [hquiet, List.append_nil]
    exact ⟨_, rfl, hafter⟩
  | some x =>
    dsimp only
    rw [Message.writeToStream_working (hresponse x rfl)]
    dsimp only
    rw [if_neg hcounted, hquiet, List.append_nil]
    exact ⟨_, rfl, hafter⟩

namespace Node

variable (P)

/-- The node with its circuit's exit handler replaced. -/
def withExit (n : Node) (circuitId : CircuitId) (h : ExitCircuitHandler) : Node :=
  { n with
    host := { n.host with
      relay := { n.host.relay with
        registry := n.host.relay.registry.setCircuit circuitId (.exit h) } } }

/-- A stream task of the circuit seals a cell and writes it. -/
def streamSend (circuitId : CircuitId) (n : Node) (p : Plain) : Acted :=
  match n.host.relay.registry.getCircuit circuitId with
  | some (.exit h) =>
    let o := h.sealStream P (.working n.host.padding) p.streamId p.command p.data
    ⟨n.withExit circuitId o.handler, o.sent⟩
  | _ => ⟨n, []⟩

/-- A stream task of the circuit ends. -/
def streamEnded (circuitId : CircuitId) (n : Node) (streamId : StreamId) : Node :=
  match n.host.relay.registry.getCircuit circuitId with
  | some (.exit h) => n.withExit circuitId (h.streamEnded streamId)
  | _ => n

/-- The last node of a circuit: its handler with this crypto state, its loop running, and
what is in flight is fit to be served. -/
structure Exiting (circuitId : CircuitId) (h : ExitCircuitHandler) (state : ExitCryptoState)
    (n : Node) : Prop where
  lookup : n.host.relay.registry.getCircuit circuitId = some (.exit h)
  circuit : h.context.circuitId = circuitId
  crypto : h.sharedState = some state
  serving : n.serving = true
  fwd : Carries (Message.Forward circuitId) n.fwdIn

namespace Exiting

variable {P} {n : Node}

theorem forwardStage (hn : n.Exiting circuitId h state) :
    n.forwardStage P circuitId = ([state.cipher.forward.layer P], messagesIn n.fwdIn) := by
  rw [Node.forwardStage, Relay.cipher?, hn.lookup]
  show (List.map _ (Option.toList (h.sharedState.map _)), _) = _
  rw [hn.crypto]
  rfl

/-- The node under another handler of the circuit. -/
theorem withExit (hn : n.Exiting circuitId h state) {state' : ExitCryptoState}
    (hcontext : h'.context = h.context) (hcrypto : h'.sharedState = some state') :
    (n.withExit circuitId h').Exiting circuitId h' state' where
  lookup := CircuitRegistry.getCircuit_setCircuit_self hn.lookup
  circuit := by rw [hcontext, hn.circuit]
  crypto := hcrypto
  serving := hn.serving
  fwd := hn.fwd

/-- **A stream task's cell** leaves as it is sealed. -/
theorem streamSend (hn : n.Exiting circuitId h state) (hp : p.Sealable) :
    ∃ h' state', (n.streamSend P circuitId p).node.Exiting circuitId h' state' ∧
      h'.streams = h.streams ∧ (n.streamSend P circuitId p).node.fwdIn = n.fwdIn ∧
      state'.cipher.forward = state.cipher.forward ∧ state'.forwardDigest = state.forwardDigest ∧
      (∃ cell, (n.streamSend P circuitId p).sent =
        [.seal p.streamId p.command p.data, .toPrevHop cell]) ∧
      Answers P circuitId n.host.padding state (n.streamSend P circuitId p).sent state' := by
  have hwrite : (state.sealPlain P circuitId p).2.writeToStream (.working n.host.padding) =
      .ok ((state.sealPlain P circuitId p).2.toBytes n.host.padding) :=
    Message.writeToStream_working ((ExitCryptoState.length_seal ..).trans_le hp.fits)
  have hseal : h.sealStream P (.working n.host.padding) p.streamId p.command p.data =
      .ok (h.withState (state.sealPlain P circuitId p).1)
        [.seal p.streamId p.command p.data,
          .toPrevHop ((state.sealPlain P circuitId p).2.toBytes n.host.padding)] none := by
    rw [ExitCircuitHandler.sealStream, hn.crypto]
    dsimp only [ExitCircuitHandler.sealUnder]
    rw [hn.circuit]
    rw [ExitCryptoState.sealPlain] at hwrite
    rw [hwrite]
    rfl
  have hsend : n.streamSend P circuitId p =
      ⟨n.withExit circuitId (h.withState (state.sealPlain P circuitId p).1),
        [.seal p.streamId p.command p.data,
          .toPrevHop ((state.sealPlain P circuitId p).2.toBytes n.host.padding)]⟩ := by
    rw [Node.streamSend, hn.lookup]
    dsimp only
    rw [hseal]
    rfl
  rw [hsend]
  exact ⟨_, _, hn.withExit rfl rfl, rfl, rfl, rfl, rfl, ⟨_, rfl⟩, .sealed hp rfl rfl⟩

/-- A stream task that ends changes the stream table only. -/
theorem streamEnded (hn : n.Exiting circuitId h state) (streamId : StreamId) :
    (n.streamEnded circuitId streamId).Exiting circuitId (h.streamEnded streamId) state := by
  rw [Node.streamEnded, hn.lookup]
  exact hn.withExit rfl hn.crypto

end Exiting

variable {P}

/-- How a turn of the exit's connection loop ends. -/
inductive ExitTurn (P : Primitives) (circuitId : CircuitId)
    (connect : String → Except IoError Unit) (h : ExitCircuitHandler) (state : ExitCryptoState)
    (n : Node) (a : Acted) : Prop
  | idle (hact : a = ⟨n, []⟩)
  | padding {m : Message} (hmessages : messagesIn n.fwdIn = m :: messagesIn a.node.fwdIn)
      (hcommand : m.command = .padding) (hnode : a.node.Exiting circuitId h state)
      (hsent : a.sent = [])
  | cell {m : Message} {h' : ExitCircuitHandler} {state' : ExitCryptoState}
      (hmessages : messagesIn n.fwdIn = m :: messagesIn a.node.fwdIn)
      (hcommand : m.command ≠ .padding)
      (hserves : h.Serves P (state.openForward P m).1 circuitId n.host.padding connect
        (state.opens P m) h' a.sent)
      (hnode : a.node.Exiting circuitId h' state')
      (hanswers : Answers P circuitId n.host.padding (state.openForward P m).1 a.sent state')

/-- **A turn of the exit's loop**, when the next cell verifies. -/
theorem Exiting.serve {n : Node} (hn : n.Exiting circuitId h state)
    (hverified : ∀ m q, messagesIn n.fwdIn = m :: q → m.command ≠ .padding →
      (state.openForward P m).2.2 = true ∧
        (m.command = .begin → (fromUtf8 (state.opens P m).data).isSome = true))
    (hconnect : ∀ dest e, connect dest = .error e →
      (connectionFailed e).length ≤ MAX_PAYLOAD_SIZE) :
    ExitTurn P circuitId connect h state n (n.serve P A connect) := by
  cases hcells : n.fwdIn with
  | nil =>
    refine .idle ?_
    rw [Node.serve, hn.serving, hcells]
  | cons cell cells =>
    have hfwd := hn.fwd
    rw [hcells] at hfwd
    obtain ⟨m, hm, ⟨rfl, hfits, hcommand⟩, hrest, hmessages⟩ := hfwd.head
    rw [← hcells] at hmessages
    -- the cell is taken off the queue and the relay does the rest
    have hserve : ∀ served, n.host.relay.onMessage P A (n.env connect) m = served →
        n.serve P A connect =
          ⟨{ n with
              host := { n.host with relay := served.relay }
              fwdIn := cells
              serving := served.serving }, served.sent⟩ := by
      rintro served rfl
      rw [Node.serve, hn.serving, hcells]
      dsimp only
      rw [hm]
    by_cases hpadding : m.command = .padding
    · rw [hserve _ (Relay.onMessage_padding hn.lookup hpadding)]
      exact .padding hmessages hpadding ⟨CircuitRegistry.getCircuit_setCircuit_self hn.lookup,
        hn.circuit, hn.crypto, rfl, hrest⟩ rfl
    · have hserved : m.command = .begin ∨ m.command = .data ∨ m.command = .end := by
        rcases hcommand with hc | hc
        · exact absurd hc hpadding
        · exact hc
      obtain ⟨hverify, hutf8⟩ := hverified m _ hmessages hpadding
      obtain ⟨hfit, hserves⟩ := @handleMessage_serves P h state (n.env connect) m n.host.padding
        hn.crypto hserved hverify hutf8 hconnect
      obtain ⟨relay, hmessage, hlookup'⟩ := @Relay.onMessage_exit P A n.host.padding h
        n.host.relay (n.env connect) m hn.lookup hserved rfl hfit
      rw [hn.circuit] at hserves
      obtain ⟨-, hcontext, state', hcrypto', hanswers⟩ := hserves.answers
      rw [hserve _ hmessage]
      exact .cell hmessages hpadding hserves ⟨hlookup', by rw [hcontext, hn.circuit], hcrypto',
        rfl, hrest⟩ hanswers

end Node

end MiniTor
