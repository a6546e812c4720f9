import MiniTor.Client.Builder
import MiniTor.Relay.Connection

/-!
# A path of relays, in lock step

While a circuit is built the client waits for an answer to every message it
writes, and each relay on the way does too. `deliver` runs one such exchange: a
message written to the first relay of a list, what it makes the relays behind do,
and the message that comes back.

Messages travel as cells (`writeToStream`, `fromBytes`); a relay reaches the
relay behind it by dialling that relay's address, pinned to its certificate.
-/

namespace MiniTor

variable (P : Primitives) (A : AddrSyntax)

/-- A relay, its descriptor, the ephemeral secret its next CREATE draws and the random
bytes it pads with. -/
structure Host where
  descriptor : NodeDescriptor
  relay : Relay
  ephemeral : ByteArr 32
  padding : Nat → UInt8

/-- What an exchange leaves: the relays, what each position did, and the answer. -/
structure Delivery where
  hosts : List Host
  trace : List (Nat × Effect)
  reply : Option Message

/-- Dialling reaches the next relay when address and fingerprint are its own. -/
def dialReaches (addr : SocketAddr) (fingerprint : String) : List Host → Bool
  | [] => false
  | next :: _ =>
    next.descriptor.address == addr && next.descriptor.tlsCertFingerprint == fingerprint

/-- The first cell written to the previous hop, as it is read there. -/
def replyOf : List Effect → Option Message
  | [] => none
  | .toPrevHop cell :: _ => (Message.fromBytes cell).toOption
  | _ :: sent => replyOf sent

/-- The answers of the outside world to a relay whose dials end with `dial`. -/
def Host.env (h : Host) (dial : SocketAddr → String → Message → DialResult) : Env where
  ephemeral := h.ephemeral
  dial := dial
  nextHop := .working h.padding
  prevHop := .working h.padding
  connect _ := .ok ()

/-- How a dial ends, given what delivering to the relays behind does. -/
def dialInto (behind : Message → Delivery) (rest : List Host) (addr : SocketAddr)
    (fingerprint : String) (create : Message) : DialResult :=
  if dialReaches addr fingerprint rest then
    match (behind create).reply with
    | some m => .reply m
    | none => .closed
  else .connectFailed ⟨ascii "Connection refused (os error 111)"⟩

/-- The effects of position `pos`. -/
def tagged (pos : Nat) (sent : List Effect) : List (Nat × Effect) := sent.map fun e => (pos, e)

/-- Write a message to the first relay, at position `pos`. -/
def deliver : List Host → Nat → Message → Delivery
  | [], _, _ => ⟨[], [], none⟩
  | h :: rest, pos, msg =>
    let behind := deliver rest (pos + 1)
    let env := h.env (dialInto behind rest)
    let served := h.relay.onMessage P A env msg
    let h := { h with relay := served.relay }
    match served.sent with
    | .toNextHop cell :: _ =>
      match Message.fromBytes cell with
      | .error _ => ⟨h :: rest, tagged pos served.sent, none⟩
      | .ok m =>
        let d := behind m
        match d.reply with
        | none => ⟨h :: d.hosts, tagged pos served.sent ++ d.trace, none⟩
        | some answer =>
          let read := h.relay.readerStep P A env msg.circuitId (some answer)
          ⟨{ h with relay := read.relay } :: d.hosts,
            tagged pos served.sent ++ d.trace ++ tagged pos read.sent, replyOf read.sent⟩
    | .dial addr fingerprint create :: _ =>
      let d := if dialReaches addr fingerprint rest then behind create else ⟨rest, [], none⟩
      ⟨h :: d.hosts, tagged pos served.sent ++ d.trace, replyOf served.sent⟩
    | _ => ⟨h :: rest, tagged pos served.sent, replyOf served.sent⟩

/-- The network as the client reaches it: the relays of the path and all they did. -/
structure Network where
  hosts : List Host
  trace : List (Nat × Effect)

/-- The client's connection to the entry; `padding` are its own random bytes. -/
def Network.transport (net : Network) (padding : Nat → UInt8) : Client.Transport Network where
  connect addr fingerprint :=
    if dialReaches addr fingerprint net.hosts then .ok net
    else .error (.io ⟨ascii "Connection refused (os error 111)"⟩)
  exchange net msg :=
    match msg.writeToStream (.working padding) with
    | .error e => (net, .writeFailed e)
    | .ok cell =>
      match Message.fromBytes cell with
      | .error _ => (net, .closed)
      | .ok m =>
        let d := deliver P A net.hosts 0 m
        (⟨d.hosts, net.trace ++ d.trace⟩,
          match d.reply with
          | some answer => .reply answer
          | none => .closed)

/-! ## One hop of a delivery -/

variable {P A}

/-- The cell written to the previous hop is read there as the message it was made of. -/
theorem replyOf_toBytes {m : Message} {padding : Nat → UInt8} {sent : List Effect}
    (h : m.data.length ≤ MAX_PAYLOAD_SIZE) :
    replyOf (.toPrevHop (m.toBytes padding) :: sent) = some m := by
  show (Message.fromBytes (m.toBytes padding)).toOption = some m
  rw [Message.fromBytes_toBytes_of_le h]
  rfl

section Relayed

variable {h : Host} {handler : CircuitHandler} {hop : HopHandler} {cipher : CipherPair}
  {nextHop : NextHop} {msg answer : Message}

/-- A relay that passes the message on: what the relays behind do with it, and their
answer under one more layer. -/
theorem deliver_relayed {rest : List Host} {pos : Nat}
    (hlookup : h.relay.registry.getCircuit msg.circuitId = some handler)
    (hhop : handler.hop? = some hop) (hcipher : hop.context.cipherPair = some cipher)
    (hnext : hop.nextHop = some nextHop) (hread : nextHop.read = false)
    (hcommand : msg.command.relayed = true) (hlen : msg.data.length ≤ MAX_PAYLOAD_SIZE)
    (hreply : (deliver P A rest (pos + 1) (msg.peel P cipher)).reply = some answer)
    (hcircuit : answer.circuitId = msg.circuitId) (hanswer : answer.command ≠ .destroy)
    (hanswerLen : answer.data.length ≤ MAX_PAYLOAD_SIZE) :
    ∃ relay, deliver P A (h :: rest) pos msg =
        ⟨{ h with relay } :: (deliver P A rest (pos + 1) (msg.peel P cipher)).hosts,
          (pos, .toNextHop ((msg.peel P cipher).toBytes h.padding)) ::
            (deliver P A rest (pos + 1) (msg.peel P cipher)).trace ++
              [(pos, .toPrevHop ((answer.wrap P cipher).toBytes h.padding))],
          some (answer.wrap P cipher)⟩ ∧
      relay.nodeType = h.relay.nodeType ∧ relay.keypair = h.relay.keypair ∧
      relay.registry.getCircuit msg.circuitId =
        some (handler.withHop (hop.withCipher
          { forward := cipher.forward.advance msg.data.length
            backward := cipher.backward.advance answer.data.length })) := by
  have hfits : (msg.peel P cipher).data.length ≤ MAX_PAYLOAD_SIZE := by
    rw [Message.length_peel]
    exact hlen
  have hwrapFits : (answer.wrap P cipher).data.length ≤ MAX_PAYLOAD_SIZE := by
    rw [Message.length_wrap]
    exact hanswerLen
  let forwarded := hop.advanceForward cipher msg.data.length
  let relay₁ := h.relay.setHop msg.circuitId handler forwarded
  have hserved : h.relay.onMessage P A (h.env (dialInto (deliver P A rest (pos + 1)) rest)) msg =
      ⟨relay₁, [.toNextHop ((msg.peel P cipher).toBytes h.padding)], true⟩ :=
    Relay.onMessage_relayed hlookup hhop hcipher hnext hread hcommand rfl hlen
  have hlookup₁ : relay₁.registry.getCircuit answer.circuitId =
      some (handler.withHop forwarded) := by
    rw [hcircuit]
    exact CircuitRegistry.getCircuit_setCircuit_self hlookup
  have hhop₁ : (handler.withHop forwarded).hop? = some forwarded :=
    CircuitHandler.hop?_withHop hhop
  let relay₂ := relay₁.setHop answer.circuitId (handler.withHop forwarded)
    (forwarded.advanceBackward { cipher with forward := cipher.forward.advance msg.data.length }
      answer.data.length)
  let metrics := { relay₁.metrics with
    bytesReceived := relay₁.metrics.bytesReceived + answer.data.length.toUInt64 }
  have hread₂ : relay₁.readerStep P A (h.env (dialInto (deliver P A rest (pos + 1)) rest))
      msg.circuitId (some answer) = ⟨{ relay₂ with metrics },
        [.toPrevHop ((answer.wrap P cipher).toBytes h.padding)], true⟩ :=
    Relay.readerStep_relayed hlookup₁ hhop₁ rfl (fun hc => hanswer hc.2) rfl hanswerLen
      msg.circuitId
  refine ⟨{ relay₂ with metrics }, ?_, rfl, rfl, ?_⟩
  · rw [deliver]
    dsimp only
    rw [hserved]
    dsimp only
    rw [Message.fromBytes_toBytes_of_le hfits]
    dsimp only
    rw [hreply]
    dsimp only
    rw [hread₂]
    dsimp only
    rw [replyOf_toBytes hwrapFits]
    rfl
  · have hlookup₂ : relay₂.registry.getCircuit answer.circuitId =
        some ((handler.withHop forwarded).withHop (forwarded.advanceBackward
          { cipher with forward := cipher.forward.advance msg.data.length }
            answer.data.length)) :=
      CircuitRegistry.getCircuit_setCircuit_self hlookup₁
    rw [hcircuit] at hlookup₂
    refine hlookup₂.trans ?_
    cases handler with
    | entry _ => rfl
    | middle _ => rfl
    | exit _ => cases hhop

end Relayed

end MiniTor
