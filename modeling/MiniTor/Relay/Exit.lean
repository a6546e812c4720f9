import MiniTor.Relay.Context
import MiniTor.Theory.AssocList

/-!
# The exit handler (`exit.rs`)

The exit decrypts the last forward layer, checks the forward digest and serves
BEGIN, DATA and END; what it sends back it seals: the backward digest first, then
the backward layer.

- `openCell` is the part the three methods share; `serveBegin`, `serveData` and
  `serveEnd` are what they do with a cell that verified.
- `sealStream`: the cells of a stream task, sealed and written in one go.
- `openCell_ok`, `openCell_error`: a cell opens to its plaintext exactly when its
  tag is the one of the forward digest continued by that plaintext
  (`openForward_verified`).
-/

namespace MiniTor

open Theory

/-- A connection to a destination; `receiverAlive` until its task ends. -/
structure ExitStream where
  destination : String
  receiverAlive : Bool
  deriving DecidableEq

/-- Combined crypto state for the exit node: cipher pair and running digests. -/
@[ext] structure ExitCryptoState where
  cipher : CipherPair
  forwardDigest : RunningDigest
  backwardDigest : RunningDigest
  deriving DecidableEq

/-- Exit node circuit handler. -/
structure ExitCircuitHandler where
  context : CircuitContext
  keypair : KeyPair
  streams : AList fun _ : StreamId => ExitStream
  sharedState : Option ExitCryptoState

variable (P : Primitives)

/-- Seal a backward cell: digest over the plaintext, then the backward layer. -/
def ExitCryptoState.seal (s : ExitCryptoState) (circuitId : CircuitId) (streamId : StreamId)
    (command : MessageCommand) (data : Bytes) : ExitCryptoState × Message :=
  let (backwardDigest, digest) := s.backwardDigest.update P streamId command.toU8 data
  let (cipher, encrypted) := s.cipher.applyBackward P data
  ({ s with cipher, backwardDigest },
    { Message.new circuitId streamId command encrypted with digest })

/-- Peel the last forward layer and verify; both states move on whatever comes out. -/
def ExitCryptoState.openForward (s : ExitCryptoState) (msg : Message) :
    ExitCryptoState × Bytes × Bool :=
  let (cipher, decrypted) := s.cipher.applyForward P msg.data
  let (forwardDigest, verified) :=
    s.forwardDigest.verify P msg.streamId msg.command.toU8 decrypted msg.digest
  ({ s with cipher, forwardDigest }, decrypted, verified)

namespace ExitCircuitHandler

def new (circuitId : CircuitId) (keypair : KeyPair) : ExitCircuitHandler :=
  { context := CircuitContext.new circuitId, keypair, streams := ∅, sharedState := none }

def close (h : ExitCircuitHandler) : ExitCircuitHandler :=
  { h with context := h.context.close, streams := ∅, sharedState := none }

def handleCreate (env : Env) (h : ExitCircuitHandler) (msg : Message) :
    Outcome ExitCircuitHandler :=
  match h.context.ntorCreate P h.keypair env.ephemeral msg with
  | .error e => .fail h [] e
  | .ok (context, payload) =>
    match context.cipherPair with
    | none => .fail { h with context } [] (.text "CipherPair not created during activate")
    | some cipher =>
      -- the pair moves from the context into the shared state
      let h := { h with
        context := { context with cipherPair := none }
        sharedState := some
          { cipher, forwardDigest := RunningDigest.new, backwardDigest := RunningDigest.new } }
      .ok h [] (some (Message.created h.context.circuitId payload))

/-- Decrypt a forward cell and verify its digest. -/
def openCell (h : ExitCircuitHandler) (msg : Message) (mismatch : String) :
    Except (ExitCircuitHandler × Error) (ExitCircuitHandler × ExitCryptoState × Bytes) :=
  match h.sharedState with
  | none => .error (h, .text "No crypto state established")
  | some state =>
    let (state, decrypted, verified) := state.openForward P msg
    let h := { h with sharedState := some state }
    if verified then .ok (h, state, decrypted) else .error (h, .text mismatch)

/-- Seal a cell of the circuit under `state` and keep the state after. -/
def sealUnder (h : ExitCircuitHandler) (state : ExitCryptoState) (streamId : StreamId)
    (command : MessageCommand) (data : Bytes) : ExitCircuitHandler × Message :=
  let (state, response) := state.seal P h.context.circuitId streamId command data
  ({ h with sharedState := some state }, response)

/-- BEGIN once it verified: connect, then CONNECTED or END. -/
def serveBegin (env : Env) (writer : Message.Writer) (h : ExitCircuitHandler)
    (state : ExitCryptoState) (msg : Message) (decrypted : Bytes) : Outcome ExitCircuitHandler :=
  let accepted := Effect.accept msg.streamId .begin decrypted
  match fromUtf8 decrypted with
  | none => .fail h [accepted] (.context "Invalid UTF-8 in destination: " .utf8)
  | some text =>
    let destination := trimEndNul text
    let connected := [accepted, .connect msg.streamId destination]
    match env.connect destination with
    | .ok () =>
      let (h, response) := h.sealUnder P state msg.streamId .connected []
      let sealed := connected ++ [.seal msg.streamId .connected []]
      match response.writeToStream writer with
      | .error e => .fail h sealed (.tor e)
      | .ok cell =>
        let stream := { destination, receiverAlive := true }
        .ok { h with streams := h.streams.insert msg.streamId stream }
          (sealed ++ [.toPrevHop cell, .openStream msg.streamId]) none
    | .error e =>
      let endData := ascii "Connection failed: " ++ e.text
      let (h, response) := h.sealUnder P state msg.streamId .end endData
      .ok h (connected ++ [.seal msg.streamId .end endData]) (some response)

def handleBegin (env : Env) (writer : Message.Writer) (h : ExitCircuitHandler) (msg : Message) :
    Outcome ExitCircuitHandler :=
  match h.openCell P msg "Digest mismatch on BEGIN" with
  | .error (h, e) => .fail h [] e
  | .ok (h, state, decrypted) => h.serveBegin P env writer state msg decrypted

/-- DATA once it verified: queue it, or answer END. -/
def serveData (h : ExitCircuitHandler) (state : ExitCryptoState) (msg : Message)
    (decrypted : Bytes) : Outcome ExitCircuitHandler :=
  let accepted := Effect.accept msg.streamId .data decrypted
  match h.streams.lookup msg.streamId with
  | some exitStream =>
    if exitStream.receiverAlive then
      .ok h [accepted, .toDestination msg.streamId decrypted] none
    else
      let endData := ascii "Destination closed"
      let (h, response) := h.sealUnder P state msg.streamId .end endData
      .ok h [accepted, .seal msg.streamId .end endData] (some response)
  | none =>
    let endData := ascii "Stream not found"
    let (h, response) := h.sealUnder P state msg.streamId .end endData
    .ok h [accepted, .seal msg.streamId .end endData] (some response)

def handleData (h : ExitCircuitHandler) (msg : Message) : Outcome ExitCircuitHandler :=
  match h.openCell P msg "Digest mismatch on DATA" with
  | .error (h, e) => .fail h [] e
  | .ok (h, state, decrypted) => h.serveData P state msg decrypted

/-- END once it verified: drop the stream, answer END. -/
def serveEnd (h : ExitCircuitHandler) (state : ExitCryptoState) (msg : Message)
    (decrypted : Bytes) : Outcome ExitCircuitHandler :=
  let h := { h with streams := h.streams.erase msg.streamId }
  let (h, response) := h.sealUnder P state msg.streamId .end []
  .ok h [.accept msg.streamId .end decrypted, .closeStream msg.streamId,
    .seal msg.streamId .end []] (some response)

def handleEnd (h : ExitCircuitHandler) (msg : Message) : Outcome ExitCircuitHandler :=
  match h.openCell P msg "Digest mismatch on END" with
  | .error (h, e) => .fail h [] e
  | .ok (h, state, decrypted) => h.serveEnd P state msg decrypted

def handleMessage (env : Env) (prevHopWrite : Option Message.Writer) (h : ExitCircuitHandler)
    (msg : Message) : Outcome ExitCircuitHandler :=
  match msg.command with
  | .create => h.handleCreate P env msg
  | .begin =>
    match prevHopWrite with
    | none => .fail h [] (.text "No prev_hop_write for BEGIN")
    | some writer => h.handleBegin P env writer msg
  | .data => h.handleData P msg
  | .end => h.handleEnd P msg
  | .destroy => .ok h.close [] none
  | .padding => .ok h [] none
  | .created | .extend | .extended | .connected =>
    .fail h [] (.text ("Unexpected command: " ++ msg.command.debug))

/-- A cell of a stream task (`spawn_stream_tasks`), sealed and written under the lock. -/
def sealStream (writer : Message.Writer) (h : ExitCircuitHandler) (streamId : StreamId)
    (command : MessageCommand) (data : Bytes) : Outcome ExitCircuitHandler :=
  match h.sharedState with
  | none => .fail h [] (.text "No crypto state established")
  | some state =>
    let (h, response) := h.sealUnder P state streamId command data
    match response.writeToStream writer with
    | .error e => .fail h [.seal streamId command data] (.tor e)
    | .ok cell => .ok h [.seal streamId command data, .toPrevHop cell] none

/-- The stream's task ends: nothing receives what is queued for it any more. -/
def streamEnded (h : ExitCircuitHandler) (streamId : StreamId) : ExitCircuitHandler :=
  { h with streams := h.streams.modify streamId fun s => { s with receiverAlive := false } }

end ExitCircuitHandler

/-! ## Sealing and opening -/

namespace ExitCryptoState

variable (s : ExitCryptoState) (circuitId : CircuitId) (streamId : StreamId)
  (command : MessageCommand) (data : Bytes)

/-- The crypto state after sealing: the forward half is untouched. -/
theorem seal_fst :
    (s.seal P circuitId streamId command data).1 =
      { s with
        cipher := { s.cipher with backward := s.cipher.backward.advance data.length }
        backwardDigest := ⟨s.backwardDigest.state ++ cellTranscript streamId command.toU8 data⟩ } :=
  rfl

/-- The sealed cell. -/
theorem seal_snd :
    (s.seal P circuitId streamId command data).2 =
      { circuitId, streamId, command
        data := ((s.cipher.backward.layer P).apply data).2
        digest := tagOf P (s.backwardDigest.state ++ cellTranscript streamId command.toU8 data) } :=
  rfl

@[simp] theorem length_seal :
    (s.seal P circuitId streamId command data).2.data.length = data.length := by
  rw [seal_snd]
  exact Keyed.length_apply ..

/-- The crypto state after opening: the backward half is untouched. -/
theorem openForward_fst (msg : Message) :
    (s.openForward P msg).1 =
      { s with
        cipher := { s.cipher with forward := s.cipher.forward.advance msg.data.length }
        forwardDigest := ⟨s.forwardDigest.state ++
          cellTranscript msg.streamId msg.command.toU8 (s.openForward P msg).2.1⟩ } := rfl

theorem openForward_decrypted (msg : Message) :
    (s.openForward P msg).2.1 = ((s.cipher.forward.layer P).apply msg.data).2 := rfl

/-- A cell verifies when its tag is that of the digest continued by its plaintext. -/
theorem openForward_verified (msg : Message) :
    (s.openForward P msg).2.2 = true ↔
      msg.digest = tagOf P (s.forwardDigest.state ++
        cellTranscript msg.streamId msg.command.toU8 (s.openForward P msg).2.1) := by
  show (tagOf P _ == msg.digest) = true ↔ _
  rw [beq_iff_eq]
  exact eq_comm

end ExitCryptoState

namespace ExitCircuitHandler

variable {P}

/-- A cell that verifies opens to its plaintext. -/
theorem openCell_ok {h : ExitCircuitHandler} {state : ExitCryptoState} {msg : Message}
    {mismatch : String} (hstate : h.sharedState = some state)
    (hverified : (state.openForward P msg).2.2 = true) :
    h.openCell P msg mismatch =
      .ok ({ h with sharedState := some (state.openForward P msg).1 },
        (state.openForward P msg).1, (state.openForward P msg).2.1) := by
  rw [openCell, hstate]
  exact if_pos hverified

/-- A cell that does not verify is refused, and both states have moved on. -/
theorem openCell_error {h : ExitCircuitHandler} {state : ExitCryptoState} {msg : Message}
    {mismatch : String} (hstate : h.sharedState = some state)
    (hverified : (state.openForward P msg).2.2 = false) :
    h.openCell P msg mismatch =
      .error ({ h with sharedState := some (state.openForward P msg).1 }, .text mismatch) := by
  have hrefused : ¬(state.openForward P msg).2.2 = true := by
    rw [hverified]
    exact Bool.false_ne_true
  rw [openCell, hstate]
  exact if_neg hrefused

end ExitCircuitHandler

end MiniTor
