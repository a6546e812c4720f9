import MiniTor.Client.Circuit
import MiniTor.Common.Ntor
import MiniTor.Common.Text
import MiniTor.Theory.Failing

/-!
# Building a circuit (`tor-client/src/core/circuit.rs`)

`CircuitBuilder::build`: a CREATE handshake with the entry, then one EXTEND for
each further hop, wrapped in the layers of the hops already there. The client
writes one message and waits for the next one that comes back, so the network is
a state with an `exchange`; the ephemeral secrets it draws are a parameter.
-/

namespace MiniTor.Client

open Theory

variable (P : Primitives) (A : AddrSyntax)

/-- How writing a message and waiting for an answer ends. -/
inductive Answer
  | writeFailed (e : TorError)
  | timedOut
  | readFailed (e : IoError)
  | closed
  | reply (m : Message)

/-- The connection to the entry, over the state `σ` of the network behind it. -/
structure Transport (σ : Type) where
  connect : SocketAddr → String → Except Error σ
  exchange : σ → Message → σ × Answer

variable {σ : Type} (T : Transport σ)

/-- The texts of a handshake's waiting. -/
structure AwaitTexts where
  send : String
  timeout : String
  read : String
  closed : String

def Answer.await (texts : AwaitTexts) : Answer → Except Error Message
  | writeFailed e => .error (.context texts.send (.tor e))
  | timedOut => .error (.text texts.timeout)
  | readFailed e => .error (.context texts.read (.io e))
  | closed => .error (.text texts.closed)
  | reply m => .ok m

def createTexts : AwaitTexts where
  send := "Failed to send CREATE"
  timeout := "Timed out waiting for CREATED from entry node"
  read := "Failed to read CREATED"
  closed := "Entry node closed connection during CREATE"

def extendTexts (addr : String) : AwaitTexts where
  send := "Failed to send EXTEND to " ++ addr
  timeout := "Timed out waiting for EXTENDED from " ++ addr
  read := "Failed to read EXTENDED from " ++ addr
  closed := "Connection closed during EXTEND to " ++ addr

/-- The client side of ntor, with the text put before its error. -/
def clientHandshake (failed : String) (ephemeral : ByteArr 32) (node : NodeDescriptor)
    (serverEphPub auth : ByteArr 32) : Except Error SessionKey :=
  match ntorClientFinishRaw P ephemeral (P.x25519Public ephemeral) node.publicKey.bytes
      serverEphPub auth with
  | .error e => .error (.context failed (.tor e))
  | .ok key => .ok key

/-- CREATE handshake with the entry node. -/
def handshakeCreate (circuitId : CircuitId) (stream : σ) (entry : NodeDescriptor)
    (ephemeral : ByteArr 32) : Except Error (σ × SessionKey) := do
  let ourPublic := P.x25519Public ephemeral
  let (stream, answer) := T.exchange stream (Message.create circuitId ourPublic.toList)
  let created ← answer.await createTexts
  failIf (created.command ≠ .created)
    (.text ("Expected CREATED from entry, got " ++ created.command.display))
  failIf (created.data.length < 64) (.text ("CREATED response too short: " ++
    toString created.data.length ++ " bytes (need 64)"))
  let serverEphPub ← okOr ((getRange created.data 0 32).bind (toArr 32))
    (.text "Invalid CREATED data")
  let auth ← okOr ((getRange created.data 32 64).bind (toArr 32)) (.text "Invalid CREATED auth")
  let key ← clientHandshake P "ntor handshake failed with entry: " ephemeral entry serverEphPub auth
  return (stream, key)

/-- EXTEND to the next hop under the ciphers of the hops already there; the ciphers come
back advanced. -/
def handshakeExtend (circuitId : CircuitId) (stream : σ) (node : NodeDescriptor)
    (ciphers : List CipherPair) (ephemeral : ByteArr 32) :
    Except Error (σ × List CipherPair × SessionKey) := do
  let ourPublic := P.x25519Public ephemeral
  let addrStr := A.display node.address
  let (ciphers, payload) :=
    wrapForward P ciphers (extendPayload addrStr ourPublic node.tlsCertFingerprint)
  let (stream, answer) := T.exchange stream (Message.extend circuitId payload)
  let extended ← answer.await (extendTexts addrStr)
  failIf (extended.command ≠ .extended)
    (.text ("Expected EXTENDED from " ++ addrStr ++ ", got " ++ extended.command.display))
  let (ciphers, decrypted) := unwrapBackward P ciphers extended.data
  failIf (decrypted.length < 64) (.text ("EXTENDED response too short: " ++
    toString decrypted.length ++ " bytes (need 64)"))
  let serverEphPub ← okOr ((getRange decrypted 0 32).bind (toArr 32))
    (.text "Invalid EXTENDED data")
  let auth ← okOr ((getRange decrypted 32 64).bind (toArr 32)) (.text "Invalid EXTENDED auth")
  let key ← clientHandshake P ("ntor handshake failed with " ++ addrStr ++ ": ") ephemeral node
    serverEphPub auth
  return (stream, ciphers, key)

/-- The EXTEND loop from hop `hopIndex` on. -/
def extendLoop (circuitId : CircuitId) (ephemerals : Nat → ByteArr 32) :
    Nat → List NodeDescriptor → σ → List SessionKey → List CipherPair →
    Except Error (σ × List SessionKey × List CipherPair)
  | _, [], stream, sessionKeys, ciphers => return (stream, sessionKeys, ciphers)
  | hopIndex, node :: nodes, stream, sessionKeys, ciphers => do
    let (stream, ciphers, key) ←
      handshakeExtend P A T circuitId stream node ciphers (ephemerals hopIndex)
    extendLoop circuitId ephemerals (hopIndex + 1) nodes stream (sessionKeys ++ [key])
      (ciphers ++ [CipherPair.new key])

/-- `CircuitBuilder::build`: the circuit, and the stream its reader will read from. -/
def build (circuitId : CircuitId) (path : List NodeDescriptor)
    (ephemerals : Nat → ByteArr 32) : Except Error (Circuit × σ) := do
  failIf (path.length < 3)
    (.text ("Circuit path must have at least 3 nodes, got " ++ toString path.length))
  let entry ← okOr path.head? (.text "Missing entry node")
  let stream ←
    match T.connect entry.address entry.tlsCertFingerprint with
    | .ok stream => .ok stream
    | .error e =>
      .error (.context ("Failed to connect to entry node at " ++ A.display entry.address) e)
  let (stream, entryKey) ← handshakeCreate P T circuitId stream entry (ephemerals 0)
  let (stream, sessionKeys, ciphers) ← extendLoop P A T circuitId ephemerals 1 path.tail stream
    [entryKey] [CipherPair.new entryKey]
  let circuit : Circuit :=
    { circuitId
      state := .ready
      onionKeys := OnionKeys.new sessionKeys ciphers
      streamSenders := ∅
      nextStreamId := 1 }
  return (circuit, stream)

end MiniTor.Client
