import MiniTor.Client.OnionKeys
import MiniTor.Common.Protocol
import MiniTor.Theory.AssocList

/-!
# A client circuit (`tor-client/src/core/circuit.rs`)

`Circuit` and its methods, and `readerStep`, the body of the loop of
`spawn_circuit_reader`. A stream's channel is known by its number and by whether
its receiver is still there; what is put into it is in the outcome of the step.
-/

namespace MiniTor.Client

variable (P : Primitives)

inductive CircuitState
  | building
  | ready
  /-- Age-expired circuit: no new streams, alive until the active ones finish. -/
  | dirty
  | closing
  | closed
  deriving DecidableEq, Repr

/-- The sending half of a stream's channel. -/
structure StreamSender where
  channel : Nat
  receiverAlive : Bool
  deriving DecidableEq

/-- A single onion routing circuit. -/
structure Circuit where
  circuitId : CircuitId
  state : CircuitState
  onionKeys : OnionKeys
  streamSenders : AList fun _ : StreamId => StreamSender
  nextStreamId : StreamId

namespace Circuit

def activeStreamCount (c : Circuit) : Nat := c.streamSenders.entries.length

def allocateStreamId (c : Circuit) : Circuit × StreamId :=
  let next := c.nextStreamId + 1
  -- 0 is reserved for circuit-level messages
  ({ c with nextStreamId := if next = 0 then 1 else next }, c.nextStreamId)

def registerStream (c : Circuit) (streamId : StreamId) (sender : StreamSender) : Circuit :=
  { c with streamSenders := c.streamSenders.insert streamId sender }

def unregisterStream (c : Circuit) (streamId : StreamId) : Circuit :=
  { c with streamSenders := c.streamSenders.erase streamId }

/-- Send a message through this circuit with onion encryption; the cell written. -/
def sendMessage (c : Circuit) (entryWriter : Message.Writer) (streamId : StreamId)
    (command : MessageCommand) (data : Bytes) : Circuit × Except Error Bytes :=
  let (forwardDigest, digest) := c.onionKeys.forwardDigest.update P streamId command.toU8 data
  let (onionKeys, encrypted) := { c.onionKeys with forwardDigest }.onionEncrypt P data
  let msg := { Message.new c.circuitId streamId command encrypted with digest }
  let c := { c with onionKeys }
  match msg.writeToStream entryWriter with
  | .error e => (c, .error (.context "Failed to write to entry node" (.tor e)))
  | .ok cell => (c, .ok cell)

/-- A keepalive cell (`spawn_circuit_keepalive`): random data, not encrypted. -/
def sendPadding (c : Circuit) (entryWriter : Message.Writer) (data : Bytes) :
    Except TorError Bytes :=
  (Message.padding c.circuitId data).writeToStream entryWriter

/-- The end of the reader task. -/
def readerEnd (c : Circuit) : Circuit := { c with state := .closed, streamSenders := ∅ }

end Circuit

/-- What one turn of the reader does: the message it accepted, in the clear, and the channel
it goes to. -/
structure ReaderOutcome where
  circuit : Circuit
  accepted : Option Message
  delivered : Option (Nat × Message)
  reading : Bool

/-- One turn of the reader; no message is the end of the stream or a read error. -/
def Circuit.readerStep (c : Circuit) (input : Option Message) : ReaderOutcome :=
  match input with
  | none => ⟨c.readerEnd, none, none, false⟩
  | some msg =>
    if msg.command = .destroy then ⟨c.readerEnd, none, none, false⟩
    else
      let (onionKeys, decrypted) := c.onionKeys.onionDecrypt P msg.data
      let (backwardDigest, verified) := onionKeys.backwardDigest.verify P msg.streamId
        msg.command.toU8 decrypted msg.digest
      let c := { c with onionKeys := { onionKeys with backwardDigest } }
      if !verified then ⟨c.readerEnd, none, none, false⟩
      else
        let decryptedMsg := Message.new msg.circuitId msg.streamId msg.command decrypted
        match c.streamSenders.lookup msg.streamId with
        | some sender =>
          let delivered := if sender.receiverAlive then some (sender.channel, decryptedMsg) else none
          ⟨c, some decryptedMsg, delivered, true⟩
        | none => ⟨c, some decryptedMsg, none, true⟩

/-! ## Sealing and accepting -/

section Lemmas

variable {P}

/-- The circuit after sealing a forward cell. -/
def Circuit.sealed (c : Circuit) (streamId : StreamId) (command : MessageCommand)
    (data : Bytes) : Circuit :=
  { c with
    onionKeys := { c.onionKeys with
      ciphers := advanceForwardAll c.onionKeys.ciphers data.length
      forwardDigest :=
        ⟨c.onionKeys.forwardDigest.state ++ cellTranscript streamId command.toU8 data⟩ } }

variable (P) in
/-- The forward cell of a plaintext: tag over the plaintext, then all layers. -/
def Circuit.sealedCell (c : Circuit) (streamId : StreamId) (command : MessageCommand)
    (data : Bytes) : Message where
  circuitId := c.circuitId
  streamId := streamId
  command := command
  data := (Theory.applyLayers (forwardLayers P c.onionKeys.ciphers) data).2
  digest := tagOf P (c.onionKeys.forwardDigest.state ++ cellTranscript streamId command.toU8 data)

@[simp] theorem Circuit.length_sealedCell (c : Circuit) (streamId : StreamId)
    (command : MessageCommand) (data : Bytes) :
    (c.sealedCell P streamId command data).data.length = data.length :=
  Theory.length_applyLayers ..

/-- Sending on a working link seals the cell and writes it. -/
theorem Circuit.sendMessage_working (c : Circuit) {padding : Nat → UInt8} (streamId : StreamId)
    (command : MessageCommand) {data : Bytes} (hlen : data.length ≤ MAX_PAYLOAD_SIZE) :
    c.sendMessage P (.working padding) streamId command data =
      (c.sealed streamId command data,
        .ok ((c.sealedCell P streamId command data).toBytes padding)) := by
  have hfits : (c.sealedCell P streamId command data).data.length ≤ MAX_PAYLOAD_SIZE := by
    rw [Circuit.length_sealedCell]
    exact hlen
  have hciphers := wrapForward_fst P c.onionKeys.ciphers data
  have hdata := wrapForward_snd P c.onionKeys.ciphers data
  have hmsg : Message.mk c.circuitId streamId command (wrapForward P c.onionKeys.ciphers data).2
      (tagOf P (c.onionKeys.forwardDigest.state ++ cellTranscript streamId command.toU8 data)) =
      c.sealedCell P streamId command data := by
    rw [hdata]
    rfl
  unfold Circuit.sendMessage
  show (match Message.writeToStream (.working padding) (Message.mk c.circuitId streamId command
      (wrapForward P c.onionKeys.ciphers data).2 _) with
    | .error e => _
    | .ok cell => _) = _
  rw [hmsg, Message.writeToStream_working hfits]
  unfold Circuit.sealed
  rw [← hciphers]
  rfl

/-- A payload that is too long is sealed all the same, and not written. -/
theorem Circuit.sendMessage_tooLong (c : Circuit) (w : Message.Writer) (streamId : StreamId)
    (command : MessageCommand) {data : Bytes} (hlen : MAX_PAYLOAD_SIZE < data.length) :
    c.sendMessage P w streamId command data =
      (c.sealed streamId command data, .error (.context "Failed to write to entry node"
        (.tor (.payloadTooLarge data.length MAX_PAYLOAD_SIZE)))) := by
  have hciphers := wrapForward_fst P c.onionKeys.ciphers data
  have hsame : (wrapForward P c.onionKeys.ciphers data).2.length = data.length :=
    length_wrapForward ..
  have hlong : MAX_PAYLOAD_SIZE < (wrapForward P c.onionKeys.ciphers data).2.length := by
    rw [hsame]
    exact hlen
  unfold Circuit.sendMessage
  show (match Message.writeToStream w (Message.mk c.circuitId streamId command
      (wrapForward P c.onionKeys.ciphers data).2 _) with
    | .error e => _
    | .ok cell => _) = _
  rw [Message.writeToStream, Theory.failIf_pos hlong]
  unfold Circuit.sealed
  rw [← hciphers, ← hsame]
  rfl

/-- A payload that fits is never refused for its length, whatever the link does. -/
theorem Circuit.sendMessage_fits (c : Circuit) (w : Message.Writer) (streamId : StreamId)
    (command : MessageCommand) {data : Bytes} (hlen : data.length ≤ MAX_PAYLOAD_SIZE)
    (size max : Nat) :
    (c.sendMessage P w streamId command data).2 ≠
      .error (.context "Failed to write to entry node" (.tor (.payloadTooLarge size max))) := by
  have hfits : ¬MAX_PAYLOAD_SIZE < (wrapForward P c.onionKeys.ciphers data).2.length := by
    rw [length_wrapForward]
    omega
  have hwrite : ∀ digest, Message.writeToStream w ⟨c.circuitId, streamId, command,
      (wrapForward P c.onionKeys.ciphers data).2, digest⟩ ≠
        .error (.payloadTooLarge size max) := by
    intro digest
    rw [Message.writeToStream, Theory.failIf_neg hfits]
    cases w.failure with
    | none => exact fun h => by cases h
    | some e => exact fun h => by cases h
  intro hresult
  unfold Circuit.sendMessage at hresult
  dsimp only at hresult
  split at hresult
  · rename_i e he
    cases hresult
    exact hwrite _ he
  · cases hresult

/-- The circuit after a backward cell with this plaintext. -/
def Circuit.opened (c : Circuit) (streamId : StreamId) (command : MessageCommand)
    (data : Bytes) : Circuit :=
  { c with
    onionKeys := { c.onionKeys with
      ciphers := advanceBackwardAll c.onionKeys.ciphers data.length
      backwardDigest :=
        ⟨c.onionKeys.backwardDigest.state ++ cellTranscript streamId command.toU8 data⟩ } }

variable (P) in
/-- The plaintext of a backward cell: all layers peeled. -/
def Circuit.decrypted (c : Circuit) (msg : Message) : Bytes :=
  (Theory.applyLayers (backwardLayers P c.onionKeys.ciphers) msg.data).2

/-- What an accepted backward cell puts into its stream's channel. -/
def delivery (senders : AList fun _ : StreamId => StreamSender) (msg : Message) :
    Option (Nat × Message) :=
  match senders.lookup msg.streamId with
  | some sender => if sender.receiverAlive then some (sender.channel, msg) else none
  | none => none

/-- A cell whose tag continues the client's backward digest is accepted. -/
theorem Circuit.readerStep_accept {c : Circuit} {msg : Message} (hcommand : msg.command ≠ .destroy)
    (hdigest : msg.digest = tagOf P (c.onionKeys.backwardDigest.state ++
      cellTranscript msg.streamId msg.command.toU8 (c.decrypted P msg))) :
    c.readerStep P (some msg) =
      ⟨c.opened msg.streamId msg.command (c.decrypted P msg),
        some (Message.new msg.circuitId msg.streamId msg.command (c.decrypted P msg)),
        delivery c.streamSenders
          (Message.new msg.circuitId msg.streamId msg.command (c.decrypted P msg)),
        true⟩ := by
  have hfst := unwrapBackward_fst P c.onionKeys.ciphers msg.data
  have hsnd : (unwrapBackward P c.onionKeys.ciphers msg.data).2 = c.decrypted P msg :=
    unwrapBackward_snd P c.onionKeys.ciphers msg.data
  have hlen : (c.decrypted P msg).length = msg.data.length := Theory.length_applyLayers ..
  have hdecrypt : c.onionKeys.onionDecrypt P msg.data =
      ({ c.onionKeys with ciphers := advanceBackwardAll c.onionKeys.ciphers msg.data.length },
        c.decrypted P msg) := by
    rw [← hfst, ← hsnd]
    rfl
  have hverify : RunningDigest.verify P c.onionKeys.backwardDigest msg.streamId msg.command.toU8
      (c.decrypted P msg) msg.digest =
      (⟨c.onionKeys.backwardDigest.state ++
        cellTranscript msg.streamId msg.command.toU8 (c.decrypted P msg)⟩, true) := by
    rw [hdigest]
    exact RunningDigest.verify_update P c.onionKeys.backwardDigest _ _ _
  unfold Circuit.readerStep
  dsimp only
  rw [if_neg hcommand, hdecrypt]
  dsimp only
  rw [hverify]
  have hverified : ¬(!true) = true := Bool.false_ne_true
  rw [if_neg hverified]
  unfold delivery Circuit.opened
  rw [hlen]
  dsimp only [Message.new]
  cases c.streamSenders.lookup msg.streamId with
  | none => rfl
  | some sender => rfl

end Lemmas

end MiniTor.Client
