import MiniTor.Relay.Context

/-!
# Entry and middle handlers (`entry.rs`, `middle.rs`)

The two handlers have the same state and, but for their texts and one check, the
same methods: `HopHandler` carries the methods with the differences as a
parameter `HopRole`; `entry` and `middle` are its two values, and each role has
its own `handleMessage`, where the commands they take differ.

- `parseExtend`: the EXTEND payload, `addr NUL key NUL fingerprint`.
- `handleMessage_relayed`: with a next hop, BEGIN, DATA, END and EXTEND are
  peeled by one layer and forwarded, everything but the data kept.
- `handleBackwardRelay_ok`: a backward cell gains one layer, everything but the
  data kept.
-/

namespace MiniTor

open Theory

/-- What differs between the two handlers. -/
structure HopRole where
  noCipherForExtend : String
  keyTooShort : String
  keyInvalid : String
  /-- How the next hop is called in errors: the text received, or the address. -/
  peerText : String → SocketAddr → String
  closedWaiting : String
  expectedCreated : String
  /-- The middle checks that CREATED carries a key. -/
  createdTooShort : Option String
  noCipherForRelay : String
  noCipherForBackward : String

/-- `EntryCircuitHandler` and `MiddleCircuitHandler`. -/
structure HopHandler where
  context : CircuitContext
  keypair : KeyPair
  nextHop : Option NextHop
  deriving DecidableEq

variable (P : Primitives) (A : AddrSyntax)

def entryRole : HopRole where
  noCipherForExtend := "Circuit not yet established"
  keyTooShort := "EXTEND payload too short for ephemeral key"
  keyInvalid := "Invalid ephemeral key in EXTEND payload"
  peerText addrStr _ := addrStr
  closedWaiting := "Next hop closed connection waiting for CREATED from "
  expectedCreated := "Expected CREATED from next hop, got "
  createdTooShort := none
  noCipherForRelay := "Circuit not yet established"
  noCipherForBackward := "No session key established"

def middleRole : HopRole where
  noCipherForExtend := "No cipher pair established for EXTEND"
  keyTooShort := "EXTEND payload too short for public key"
  keyInvalid := "Invalid public key in EXTEND payload"
  peerText _ addr := A.display addr
  closedWaiting := "Connection closed waiting for CREATED from "
  expectedCreated := "Expected CREATED, got "
  createdTooShort := some "CREATED response too short"
  noCipherForRelay := "No cipher pair established"
  noCipherForBackward := "No cipher pair established"

/-- What a decrypted EXTEND payload asks for. -/
structure ExtendRequest where
  addrStr : String
  addr : SocketAddr
  clientPublic : ByteArr 32
  fingerprint : String
  deriving DecidableEq

/-- Parse a decrypted EXTEND payload. -/
def parseExtend (role : HopRole) (decrypted : Bytes) : Except Error ExtendRequest := do
  failIf (decrypted.length < 33) (.text "EXTEND payload too short")
  let addrEnd ← okOr (decrypted.findIdx? (· == 0))
    (.text "EXTEND payload missing address separator")
  let addrBytes ← okOr (getRange decrypted 0 addrEnd) (.text "Invalid address in EXTEND payload")
  let addrStr ← okOr (fromUtf8 addrBytes) .utf8
  let keyStart := addrEnd + 1
  let keyEnd := keyStart + 32
  failIf (keyEnd > decrypted.length) (.text role.keyTooShort)
  let clientPublic ← okOr ((getRange decrypted keyStart keyEnd).bind (toArr 32))
    (.text role.keyInvalid)
  let fpStart ← okOr decrypted[keyEnd]? (.text "EXTEND payload missing fingerprint separator")
  failIf (fpStart ≠ 0) (.text "EXTEND payload missing fingerprint separator")
  let fpBytes ← okOr (getRange decrypted (keyEnd + 1) decrypted.length)
    (.text "EXTEND payload missing TLS fingerprint")
  let fingerprint ← okOr (fromUtf8 fpBytes) .utf8
  let addr ← okOr (A.parse addrStr) .addrParse
  return { addrStr, addr, clientPublic, fingerprint }

/-- The CREATED a dial ends with, or the error of the step it stopped at. -/
def HopRole.awaitCreated (role : HopRole) (addrStr : String) (addr : SocketAddr) :
    DialResult → Except Error Message
  | .connectFailed e => .error (.io e)
  | .tlsFailed e => .error (.tls e)
  | .writeFailed e => .error (.tor e)
  | .timedOut =>
    .error (.text ("Timed out waiting for CREATED from " ++ role.peerText addrStr addr))
  | .readFailed e =>
    .error (.context ("Error reading CREATED from " ++ role.peerText addrStr addr ++ ": ") (.io e))
  | .closed => .error (.text (role.closedWaiting ++ role.peerText addrStr addr))
  | .reply m =>
    if m.command ≠ .created then .error (.text (role.expectedCreated ++ m.command.debug))
    else
      match role.createdTooShort with
      | some text => if m.data.length < 32 then .error (.text text) else .ok m
      | none => .ok m

namespace HopHandler

def new (circuitId : CircuitId) (keypair : KeyPair) : HopHandler :=
  { context := CircuitContext.new circuitId, keypair, nextHop := none }

/-- The handler with its cipher pair in a new state. -/
def withCipher (h : HopHandler) (cipher : CipherPair) : HopHandler :=
  { h with context := { h.context with cipherPair := some cipher } }

def close (h : HopHandler) : HopHandler := { h with context := h.context.close, nextHop := none }

def handleCreate (env : Env) (h : HopHandler) (msg : Message) : Outcome HopHandler :=
  match h.context.ntorCreate P h.keypair env.ephemeral msg with
  | .error e => .fail h [] e
  | .ok (context, payload) =>
    .ok { h with context } [] (some (Message.created h.context.circuitId payload))

/-- EXTEND with no next hop yet: decrypt, dial, answer EXTENDED. -/
def handleExtend (role : HopRole) (env : Env) (h : HopHandler) (msg : Message) :
    Outcome HopHandler :=
  match h.context.cipherPair with
  | none => .fail h [] (.text role.noCipherForExtend)
  | some cipher =>
    -- the forward layer is spent whether the payload parses or not
    let (cipher, decrypted) := cipher.applyForward P msg.data
    let h := h.withCipher cipher
    match parseExtend A role decrypted with
    | .error e => .fail h [] e
    | .ok request =>
      let create := Message.create h.context.circuitId request.clientPublic.toList
      let dialled := [Effect.dial request.addr request.fingerprint create]
      match role.awaitCreated request.addrStr request.addr
          (env.dial request.addr request.fingerprint create) with
      | .error e => .fail h dialled e
      | .ok created =>
        let (cipher, encrypted) := cipher.applyBackward P created.data
        let h := { h.withCipher cipher with
          nextHop := some (NextHop.new request.addr request.fingerprint) }
        .ok h dialled (some (Message.extended h.context.circuitId encrypted))

/-- Peel one forward layer and relay to the next hop. -/
def handleRelay (role : HopRole) (env : Env) (h : HopHandler) (msg : Message) :
    Outcome HopHandler :=
  match h.context.cipherPair with
  | none => .fail h [] (.text role.noCipherForRelay)
  | some cipher =>
    let (cipher, decrypted) := cipher.applyForward P msg.data
    let h := h.withCipher cipher
    match h.nextHop with
    | none => .ok h [] none
    | some _ =>
      let relayMsg :=
        { Message.new msg.circuitId msg.streamId msg.command decrypted with digest := msg.digest }
      match relayMsg.writeToStream env.nextHop with
      | .error e => .fail h [] (.tor e)
      | .ok cell => .ok h [.toNextHop cell] none

/-- Encrypt one backward layer and return to the previous hop. -/
def handleBackwardRelay (role : HopRole) (h : HopHandler) (msg : Message) : Outcome HopHandler :=
  match h.context.cipherPair with
  | none => .fail h [] (.text role.noCipherForBackward)
  | some cipher =>
    let (cipher, encrypted) := cipher.applyBackward P msg.data
    let response :=
      { Message.new msg.circuitId msg.streamId msg.command encrypted with digest := msg.digest }
    .ok (h.withCipher cipher) [] (some response)

/-- `EntryCircuitHandler::handle_message`. -/
def handleMessageEntry (env : Env) (h : HopHandler) (msg : Message) : Outcome HopHandler :=
  match msg.command with
  | .create => h.handleCreate P env msg
  | .extend =>
    if h.nextHop.isSome then h.handleRelay P entryRole env msg
    else h.handleExtend P A entryRole env msg
  | .data | .begin | .end | .connected => h.handleRelay P entryRole env msg
  | .destroy => .ok h.close [] none
  | .padding => .ok h [] none
  | .created | .extended => .fail h [] (.text ("Unexpected command: " ++ msg.command.debug))

/-- `MiddleCircuitHandler::handle_extended`. -/
def handleExtended (h : HopHandler) (msg : Message) : Outcome HopHandler :=
  if msg.data.length < 32 then .fail h [] (.text "EXTENDED message too short")
  else .ok h [] (some msg)

/-- `MiddleCircuitHandler::handle_message`. -/
def handleMessageMiddle (env : Env) (h : HopHandler) (msg : Message) : Outcome HopHandler :=
  match msg.command with
  | .create => h.handleCreate P env msg
  | .extend =>
    if h.nextHop.isSome then h.handleRelay P (middleRole A) env msg
    else h.handleExtend P A (middleRole A) env msg
  | .extended => h.handleExtended msg
  | .data | .begin | .end | .connected => h.handleRelay P (middleRole A) env msg
  | .destroy => .ok h.close [] none
  | .padding => .ok h [] none
  | .created => .fail h [] (.text ("Unexpected command: " ++ msg.command.debug))

/-- Take the read half for a reader task; the handler without it. -/
def takeRead (h : HopHandler) : Option HopHandler :=
  match h.nextHop with
  | some nextHop =>
    if nextHop.read then some { h with nextHop := some { nextHop with read := false } } else none
  | none => none

/-! ## Forwarding -/

/-- The handler after `n` forward bytes. -/
def advanceForward (h : HopHandler) (cipher : CipherPair) (n : Nat) : HopHandler :=
  h.withCipher { cipher with forward := cipher.forward.advance n }

/-- The handler after `n` backward bytes. -/
def advanceBackward (h : HopHandler) (cipher : CipherPair) (n : Nat) : HopHandler :=
  h.withCipher { cipher with backward := cipher.backward.advance n }

/-- The hop linked to the relay an EXTEND asked for, both layers spent. -/
def extended (h : HopHandler) (cipher : CipherPair) (request : ExtendRequest)
    (spent answered : Nat) (read : Bool) : HopHandler :=
  { h.withCipher
      { forward := cipher.forward.advance spent, backward := cipher.backward.advance answered } with
    nextHop := some { addr := request.addr, fingerprint := request.fingerprint, read } }

end HopHandler

/-- The message with one forward layer peeled. -/
def Message.peel (cipher : CipherPair) (m : Message) : Message :=
  { m with data := (cipher.applyForward P m.data).2 }

/-- The message with one backward layer added. -/
def Message.wrap (cipher : CipherPair) (m : Message) : Message :=
  { m with data := (cipher.applyBackward P m.data).2 }

@[simp] theorem Message.length_peel (cipher : CipherPair) (m : Message) :
    (m.peel P cipher).data.length = m.data.length := CipherPair.length_applyForward ..

@[simp] theorem Message.length_wrap (cipher : CipherPair) (m : Message) :
    (m.wrap P cipher).data.length = m.data.length := CipherPair.length_applyBackward ..

/-- The commands a relay with a next hop passes on. -/
def MessageCommand.relayed : MessageCommand → Bool
  | .begin | .connected | .data | .end | .extend => true
  | _ => false

namespace HopHandler

variable {P A}

/-- Relaying peels one layer and keeps every other field. -/
theorem handleRelay_ok {role : HopRole} {env : Env} {h : HopHandler} {cipher : CipherPair}
    {hop : NextHop} {padding : Nat → UInt8} {msg : Message}
    (hcipher : h.context.cipherPair = some cipher) (hhop : h.nextHop = some hop)
    (henv : env.nextHop = .working padding) (hlen : msg.data.length ≤ MAX_PAYLOAD_SIZE) :
    h.handleRelay P role env msg =
      .ok (h.advanceForward cipher msg.data.length)
        [.toNextHop ((msg.peel P cipher).toBytes padding)] none := by
  have hfits : (msg.peel P cipher).data.length ≤ MAX_PAYLOAD_SIZE := by
    rw [Message.length_peel]
    exact hlen
  have hwrite : (msg.peel P cipher).writeToStream env.nextHop =
      .ok ((msg.peel P cipher).toBytes padding) := by
    rw [henv, Message.writeToStream_working hfits]
  have hnext : (h.withCipher (cipher.applyForward P msg.data).1).nextHop = some hop := hhop
  rw [handleRelay, hcipher]
  dsimp only
  rw [hnext]
  dsimp only
  show (match (msg.peel P cipher).writeToStream env.nextHop with
    | .error e => _
    | .ok cell => _) = _
  rw [hwrite]
  rfl

/-- Both roles forward a relayed command when they have a next hop. -/
theorem handleMessageEntry_relayed {env : Env} {h : HopHandler} {msg : Message}
    (hcommand : msg.command.relayed = true) (hhop : h.nextHop.isSome = true) :
    h.handleMessageEntry P A env msg = h.handleRelay P entryRole env msg := by
  unfold handleMessageEntry
  cases hc : msg.command <;> simp_all [MessageCommand.relayed]

theorem handleMessageMiddle_relayed {env : Env} {h : HopHandler} {msg : Message}
    (hcommand : msg.command.relayed = true) (hhop : h.nextHop.isSome = true) :
    h.handleMessageMiddle P A env msg = h.handleRelay P (middleRole A) env msg := by
  unfold handleMessageMiddle
  cases hc : msg.command <;> simp_all [MessageCommand.relayed]

/-- An EXTEND at the last hop: the payload is spent from the forward layer, the CREATED of
the relay dialled comes back under the backward layer. -/
theorem handleExtend_ok {role : HopRole} {env : Env} {h : HopHandler} {cipher : CipherPair}
    {msg created : Message} {request : ExtendRequest}
    (hcipher : h.context.cipherPair = some cipher)
    (hparse : parseExtend A role (msg.peel P cipher).data = .ok request)
    (hdial : role.awaitCreated request.addrStr request.addr
      (env.dial request.addr request.fingerprint
        (Message.create h.context.circuitId request.clientPublic.toList)) = .ok created) :
    h.handleExtend P A role env msg =
      .ok (h.extended cipher request msg.data.length created.data.length true)
        [.dial request.addr request.fingerprint
          (Message.create h.context.circuitId request.clientPublic.toList)]
        (some (Message.extended h.context.circuitId (created.wrap P cipher).data)) := by
  have hpayload : parseExtend A role (cipher.applyForward P msg.data).2 = .ok request := hparse
  rw [handleExtend, hcipher]
  dsimp only
  rw [hpayload]
  dsimp only
  show (match role.awaitCreated request.addrStr request.addr (env.dial request.addr
      request.fingerprint (Message.create h.context.circuitId request.clientPublic.toList)) with
    | .error e => _
    | .ok created => _) = _
  rw [hdial]
  rfl

/-- A CREATED with a whole ntor answer is taken in every role. -/
theorem awaitCreated_ok {role : HopRole} {addrStr : String} {addr : SocketAddr}
    {created : Message} (hcommand : created.command = .created)
    (hlen : 32 ≤ created.data.length) :
    role.awaitCreated addrStr addr (.reply created) = .ok created := by
  rw [HopRole.awaitCreated, if_neg (not_not.mpr hcommand)]
  cases role.createdTooShort with
  | none => rfl
  | some text => exact if_neg (by omega)

/-- A backward cell gains one layer and keeps every other field. -/
theorem handleBackwardRelay_ok {role : HopRole} {h : HopHandler} {cipher : CipherPair}
    {msg : Message} (hcipher : h.context.cipherPair = some cipher) :
    h.handleBackwardRelay P role msg =
      .ok (h.advanceBackward cipher msg.data.length) [] (some (msg.wrap P cipher)) := by
  rw [handleBackwardRelay, hcipher]
  rfl

end HopHandler

/-! ## The EXTEND payload -/

/-- **The payload parses to what was written**, whatever bytes the key has. -/
theorem parseExtend_extendPayload {role : HopRole} {addrStr fingerprint : String}
    {clientPublic : ByteArr 32} {addr : SocketAddr} (hparse : A.parse addrStr = some addr)
    (hnul : (0 : UInt8) ∉ asBytes addrStr) :
    parseExtend A role (extendPayload addrStr clientPublic fingerprint) =
      .ok { addrStr, addr, clientPublic, fingerprint } := by
  have hkey : clientPublic.toList.length = 32 := List.Vector.toList_length _
  generalize ha : asBytes addrStr = a at hnul
  generalize hf : asBytes fingerprint = f
  generalize hk : clientPublic.toList = k at hkey
  generalize hb : extendPayload addrStr clientPublic fingerprint = b
  have hlayout : b = a ++ ([0] ++ (k ++ ([0] ++ f))) := by
    rw [← hb, extendPayload, ha, hf, hk]
    simp only [List.append_assoc]
  have hlength : b.length = a.length + 1 + 32 + 1 + f.length := by
    rw [hlayout]
    simp only [List.length_append, List.length_singleton, hkey]
    omega
  have hend : b.findIdx? (· == 0) = some a.length := by
    have hnone : a.findIdx? (· == 0) = none := by
      rw [List.findIdx?_eq_none_iff]
      intro x hx
      rw [beq_eq_false_iff_ne]
      rintro rfl
      exact hnul hx
    rw [hlayout, List.findIdx?_append, hnone, Option.none_or]
    simp [List.findIdx?_cons]
  have haddr : getRange b 0 a.length = some a :=
    getRange_field (a := []) hlayout rfl (Nat.zero_add _)
  have hpub : getRange b (a.length + 1) (a.length + 1 + 32) = some k := by
    have hlay : b = (a ++ [0]) ++ (k ++ ([0] ++ f)) := by
      rw [hlayout]
      simp only [List.append_assoc]
    exact getRange_field hlay (by simp) (by rw [hkey])
  have hfp : getRange b (a.length + 1 + 32 + 1) b.length = some f := by
    have hlay : b = (a ++ [0] ++ k ++ [0]) ++ (f ++ []) := by
      rw [hlayout]
      simp only [List.append_assoc, List.append_nil]
    exact getRange_field hlay (by simp [hkey]) hlength.symm
  have hsep : b[a.length + 1 + 32]? = some 0 := by
    have hbefore : (a ++ [0] ++ k).length = a.length + 1 + 32 := by simp [hkey]
    have hlay : b = (a ++ [0] ++ k) ++ 0 :: f := by
      rw [hlayout]
      simp only [List.append_assoc, List.cons_append, List.nil_append]
    rw [hlay, List.getElem?_append_right (Nat.le_of_eq hbefore), hbefore, Nat.sub_self]
    rfl
  have hutf : fromUtf8 a = some addrStr := by rw [← ha, fromUtf8_asBytes]
  have hutfp : fromUtf8 f = some fingerprint := by rw [← hf, fromUtf8_asBytes]
  have harr : toArr 32 k = some clientPublic := by rw [← hk, toArr_toList]
  rw [parseExtend, failIf_neg (by omega), hend]
  simp only [ok_bind, okOr_some]
  rw [haddr, failIf_neg (by omega), hpub, hsep, hfp, Option.bind_some, harr]
  simp only [ok_bind, okOr_some]
  rw [failIf_neg (not_not.mpr rfl), hutf, hutfp]
  simp only [ok_bind, okOr_some]
  rw [hparse]
  rfl

end MiniTor
