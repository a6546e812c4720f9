import MiniTor.Common.Ntor
import MiniTor.Common.Protocol
import MiniTor.Common.Text

/-!
# What the relay handlers share (`relay-node/src/circuit/handler.rs`)

A handler is a state; each of its methods is a function from the state, the
message and the answers of the outside world (`Env`) to an `Outcome`: the state
after, which survives an error, what was put on the wire on the way, and the
`Result<Option<Message>>` the method returns.
-/

namespace MiniTor

inductive CircuitState
  | initializing
  | active
  | closing
  | closed
  deriving DecidableEq, Repr

/-- Base circuit context shared by all handler types. -/
structure CircuitContext where
  circuitId : CircuitId
  state : CircuitState
  sessionKey : Option SessionKey
  cipherPair : Option CipherPair
  deriving DecidableEq

namespace CircuitContext

def new (circuitId : CircuitId) : CircuitContext :=
  { circuitId, state := .initializing, sessionKey := none, cipherPair := none }

/-- Mark the circuit as active with a session key and a fresh cipher pair. -/
def activate (c : CircuitContext) (sessionKey : SessionKey) : CircuitContext :=
  { c with
    cipherPair := some (CipherPair.new sessionKey)
    sessionKey := some sessionKey
    state := .active }

def close (c : CircuitContext) : CircuitContext :=
  { c with state := .closed, sessionKey := none, cipherPair := none }

end CircuitContext

/-- The connection to the next hop: whom it was dialled to, and whether its read half is
still there for a reader task to take. -/
structure NextHop where
  addr : SocketAddr
  fingerprint : String
  read : Bool
  deriving DecidableEq

def NextHop.new (addr : SocketAddr) (fingerprint : String) : NextHop :=
  { addr, fingerprint, read := true }

/-- X25519 key pair for a relay node. -/
structure KeyPair where
  publicKey : PublicKey
  secretBytes : ByteArr 32
  deriving DecidableEq

def KeyPair.fromSecretBytes (P : Primitives) (bytes : ByteArr 32) : KeyPair :=
  { publicKey := ⟨P.x25519Public bytes⟩, secretBytes := bytes }

/-- The ntor server side; `ephemeral` is the secret it draws. -/
def KeyPair.ntorServerHandshake (P : Primitives) (k : KeyPair)
    (clientEphemeralPub ephemeral : ByteArr 32) : ByteArr 32 × ByteArr 32 × SessionKey :=
  ntorServer P k.secretBytes k.publicKey.bytes clientEphemeralPub ephemeral

/-! ## The outside world -/

/-- How connecting to a next hop over TLS and waiting for its CREATED ends. -/
inductive DialResult
  | connectFailed (e : IoError)
  | tlsFailed (e : IoError)
  | writeFailed (e : TorError)
  | timedOut
  | readFailed (e : IoError)
  | closed
  | reply (m : Message)

/-- The answers one call gets. -/
structure Env where
  /-- The ephemeral secret a CREATE draws. -/
  ephemeral : ByteArr 32
  /-- Dial an address, pinned to a fingerprint, and send CREATE. -/
  dial : SocketAddr → String → Message → DialResult
  nextHop : Message.Writer
  prevHop : Message.Writer
  /-- `TcpStream::connect` at the exit. -/
  connect : String → Except IoError Unit

/-- What a call does, in order: the cells and connections it touches, and the plaintext
cells the exit accepts and seals. -/
inductive Effect
  | dial (addr : SocketAddr) (fingerprint : String) (create : Message)
  | toNextHop (cell : Bytes)
  | toPrevHop (cell : Bytes)
  /-- A forward cell verified and was opened to this plaintext. -/
  | accept (streamId : StreamId) (command : MessageCommand) (data : Bytes)
  /-- A backward cell of this plaintext advanced the backward digest and cipher. -/
  | seal (streamId : StreamId) (command : MessageCommand) (data : Bytes)
  | connect (streamId : StreamId) (destination : String)
  | openStream (streamId : StreamId)
  | toDestination (streamId : StreamId) (data : Bytes)
  | closeStream (streamId : StreamId)
  | spawnReader (circuitId : CircuitId)
  | shutdownPrevHop

/-- The result of a handler method. -/
structure Outcome (σ : Type) where
  handler : σ
  sent : List Effect
  result : Except Error (Option Message)

def Outcome.ok {σ : Type} (handler : σ) (sent : List Effect) (response : Option Message) :
    Outcome σ := ⟨handler, sent, .ok response⟩

def Outcome.fail {σ : Type} (handler : σ) (sent : List Effect) (e : Error) : Outcome σ :=
  ⟨handler, sent, .error e⟩

@[simp] theorem Outcome.ok_handler {σ : Type} (h : σ) (sent : List Effect) (r : Option Message) :
    (Outcome.ok h sent r).handler = h := rfl

@[simp] theorem Outcome.ok_sent {σ : Type} (h : σ) (sent : List Effect) (r : Option Message) :
    (Outcome.ok h sent r).sent = sent := rfl

@[simp] theorem Outcome.ok_result {σ : Type} (h : σ) (sent : List Effect) (r : Option Message) :
    (Outcome.ok h sent r).result = .ok r := rfl

@[simp] theorem Outcome.fail_handler {σ : Type} (h : σ) (sent : List Effect) (e : Error) :
    (Outcome.fail h sent e).handler = h := rfl

@[simp] theorem Outcome.fail_sent {σ : Type} (h : σ) (sent : List Effect) (e : Error) :
    (Outcome.fail h sent e).sent = sent := rfl

@[simp] theorem Outcome.fail_result {σ : Type} (h : σ) (sent : List Effect) (e : Error) :
    (Outcome.fail h sent e).result = .error e := rfl

/-- `{:?}` of a command. -/
def MessageCommand.debug : MessageCommand → String
  | padding => "Padding"
  | create => "Create"
  | created => "Created"
  | extend => "Extend"
  | extended => "Extended"
  | destroy => "Destroy"
  | begin => "Begin"
  | connected => "Connected"
  | data => "Data"
  | «end» => "End"

/-! ## CREATE -/

/-- The checks and the handshake of the three `handle_create`s: the context activated
with the session key, and the CREATED payload. -/
def CircuitContext.ntorCreate (P : Primitives) (c : CircuitContext) (keypair : KeyPair)
    (ephemeral : ByteArr 32) (msg : Message) : Except Error (CircuitContext × Bytes) :=
  match (getRange msg.data 0 32).bind (toArr 32) with
  | none => .error (.text "CREATE message too short")
  | some clientPublic =>
    let (serverEphPub, auth, sessionKey) :=
      keypair.ntorServerHandshake P clientPublic ephemeral
    .ok (c.activate sessionKey, serverEphPub.toList ++ auth.toList)

/-- CREATED payload and session key of a handshake. -/
def KeyPair.ntorAnswer (P : Primitives) (k : KeyPair) (clientPublic ephemeral : ByteArr 32) :
    Bytes × SessionKey :=
  let (serverEphPub, auth, sessionKey) := k.ntorServerHandshake P clientPublic ephemeral
  (serverEphPub.toList ++ auth.toList, sessionKey)

@[simp] theorem KeyPair.length_ntorAnswer (P : Primitives) (k : KeyPair)
    (clientPublic ephemeral : ByteArr 32) :
    (k.ntorAnswer P clientPublic ephemeral).1.length = 64 := by
  show (_ ++ _ : Bytes).length = 64
  rw [List.length_append, List.Vector.toList_length, List.Vector.toList_length]

/-- A client key of 32 bytes is taken as it is. -/
theorem CircuitContext.ntorCreate_key (P : Primitives) (c : CircuitContext) (keypair : KeyPair)
    (ephemeral clientPublic : ByteArr 32) (circuitId : CircuitId) :
    c.ntorCreate P keypair ephemeral (Message.create circuitId clientPublic.toList) =
      .ok (c.activate (keypair.ntorAnswer P clientPublic ephemeral).2,
        (keypair.ntorAnswer P clientPublic ephemeral).1) := by
  have hrange : getRange clientPublic.toList 0 32 = some clientPublic.toList := by
    have hlen : 0 ≤ 32 ∧ 32 ≤ clientPublic.toList.length := by
      rw [List.Vector.toList_length]
      omega
    rw [getRange, if_pos hlen, List.drop_zero]
    exact congrArg some (List.take_of_length_le (by simp))
  have hkey : (getRange (Message.create circuitId clientPublic.toList).data 0 32).bind (toArr 32) =
      some clientPublic := by
    show (getRange clientPublic.toList 0 32).bind (toArr 32) = some clientPublic
    rw [hrange, Option.bind_some, toArr_toList]
  rw [ntorCreate, hkey]
  rfl

end MiniTor
