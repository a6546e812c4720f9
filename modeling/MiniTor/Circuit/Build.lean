import MiniTor.Circuit.Network
import MiniTor.Common.Addr

/-!
# Telescopic build

`CircuitBuilder::build` run against a path of honest relays. The invariant of the
EXTEND loop is `Joined`: the first relays of the path hold the circuit, each under
exactly the cipher pair the client holds for it and linked to the relay behind it.

- `deliver_create`: a relay joins under the ntor key of its keypair.
- `deliver_extend`: an EXTEND wrapped in the layers of the joined relays is peeled
  by all of them and read by the last one, which dials the next relay; the answer
  comes back wrapped in their backward layers.
- `build_synchronised`: the build succeeds and leaves both ends in the same state.
-/

namespace MiniTor

open Theory Client

variable {P : Primitives} {A : AddrSyntax} {circuitId : CircuitId}

/-! ## Joined relays -/

/-- The link to the first of the relays behind, its reader running. -/
def linkTo (rest : List Host) : Option NextHop :=
  rest.head?.map fun next =>
    { addr := next.descriptor.address
      fingerprint := next.descriptor.tlsCertFingerprint
      read := false }

/-- The first relays hold the circuit under these keys and ciphers, linked in a row. -/
def Joined (circuitId : CircuitId) : List (SessionKey × CipherPair) → List Host → Prop
  | [], _ => True
  | _ :: _, [] => False
  | hop :: hops, h :: rest =>
    h.relay.registry.getCircuit circuitId =
        some (CircuitHandler.established h.relay.nodeType h.relay.keypair circuitId hop.1 hop.2
          (if hops = [] then none else linkTo rest)) ∧
      Joined circuitId hops rest

/-- What of a host an exchange leaves alone. -/
def Host.static (h : Host) : NodeDescriptor × NodeType × KeyPair × ByteArr 32 :=
  (h.descriptor, h.relay.nodeType, h.relay.keypair, h.ephemeral)

theorem linkTo_congr {rest rest' : List Host} (h : rest'.map Host.static = rest.map Host.static) :
    linkTo rest' = linkTo rest := by
  have hhead := congrArg (fun statics => statics.head?.map Prod.fst) h
  simp only [List.head?_map, Option.map_map] at hhead
  have hlink : ∀ hosts, linkTo hosts =
      (hosts.head?.map (Prod.fst ∘ Host.static)).map fun d : NodeDescriptor =>
        { addr := d.address, fingerprint := d.tlsCertFingerprint, read := false } := by
    intro hosts
    rw [Option.map_map]
    rfl
  rw [hlink, hlink, hhead]

/-- The hops with `n` bytes spent from every forward layer, `m` from every backward one. -/
def spend (n m : Nat) (hops : List (SessionKey × CipherPair)) :
    List (SessionKey × CipherPair) :=
  hops.map fun hop =>
    (hop.1, { forward := hop.2.forward.advance n, backward := hop.2.backward.advance m })

/-- What a relay does with an EXTEND: pass it on, or read it and dial. -/
inductive Reading
  | forwarded
  | dialled (addr : SocketAddr) (fingerprint : String) (create : Message)
  deriving DecidableEq

/-- What the positions did with the forward cells of a trace, in order. -/
def readingsOf (trace : List (Nat × Effect)) : List (Nat × Reading) :=
  trace.filterMap fun e =>
    match e.2 with
    | .toNextHop _ => some (e.1, .forwarded)
    | .dial addr fingerprint create => some (e.1, .dialled addr fingerprint create)
    | _ => none

@[simp] theorem readingsOf_append (t t' : List (Nat × Effect)) :
    readingsOf (t ++ t') = readingsOf t ++ readingsOf t' := List.filterMap_append

/-- The readings of an EXTEND that `hops` relays from `pos` on carry: the last one dials. -/
def extendReadings (pos hops : Nat) (addr : SocketAddr) (fingerprint : String)
    (create : Message) : List (Nat × Reading) :=
  (List.range' pos (hops - 1)).map (fun p => (p, Reading.forwarded)) ++
    [(pos + (hops - 1), .dialled addr fingerprint create)]

theorem extendReadings_succ {pos hops : Nat} (h : 0 < hops) (addr : SocketAddr)
    (fingerprint : String) (create : Message) :
    extendReadings pos (hops + 1) addr fingerprint create =
      (pos, .forwarded) :: extendReadings (pos + 1) hops addr fingerprint create := by
  obtain ⟨n, rfl⟩ := Nat.exists_eq_succ_of_ne_zero (Nat.ne_of_gt h)
  have hpos : pos + (n + 1) = pos + 1 + n := by omega
  simp only [extendReadings, Nat.add_sub_cancel, Nat.succ_eq_add_one, List.range'_succ,
    List.map_cons, List.cons_append, hpos]

/-! ## One exchange -/

/-- CREATED payload and session key a host answers a client key with. -/
def Host.ntorAnswer (P : Primitives) (h : Host) (clientPublic : ByteArr 32) : Bytes × SessionKey :=
  h.relay.keypair.ntorAnswer P clientPublic h.ephemeral

@[simp] theorem Host.length_ntorAnswer (h : Host) (clientPublic : ByteArr 32) :
    (h.ntorAnswer P clientPublic).1.length = 64 := KeyPair.length_ntorAnswer ..

/-- The hop a client and a host share after the handshake. -/
def Host.hop (P : Primitives) (h : Host) (clientPublic : ByteArr 32) : SessionKey × CipherPair :=
  ((h.ntorAnswer P clientPublic).2, CipherPair.new (h.ntorAnswer P clientPublic).2)

/-- A CREATE at the first relay of a list. -/
theorem deliver_create (h : Host) (rest : List Host) (pos : Nat) (clientPublic : ByteArr 32) :
    ∃ relay, deliver P A (h :: rest) pos (Message.create circuitId clientPublic.toList) =
        ⟨{ h with relay } :: rest,
          [(pos, .toPrevHop ((Message.created circuitId
            (h.ntorAnswer P clientPublic).1).toBytes h.padding))],
          some (Message.created circuitId (h.ntorAnswer P clientPublic).1)⟩ ∧
      relay.nodeType = h.relay.nodeType ∧ relay.keypair = h.relay.keypair ∧
      relay.registry.getCircuit circuitId =
        some (CircuitHandler.established h.relay.nodeType h.relay.keypair circuitId
          (h.hop P clientPublic).1 (h.hop P clientPublic).2 none) := by
  have hfits : (Message.created circuitId (h.ntorAnswer P clientPublic).1).data.length ≤
      MAX_PAYLOAD_SIZE := by
    show (h.ntorAnswer P clientPublic).1.length ≤ MAX_PAYLOAD_SIZE
    rw [Host.length_ntorAnswer]
    decide
  obtain ⟨relay, hserved, htype, hkeypair, hlookup⟩ :=
    @Relay.onMessage_create P A (h.env (dialInto (deliver P A rest (pos + 1)) rest)) h.relay
      circuitId clientPublic h.padding rfl
  refine ⟨relay, ?_, htype, hkeypair, hlookup⟩
  rw [deliver]
  dsimp only
  rw [hserved]
  dsimp only
  exact congrArg (Delivery.mk _ _) (replyOf_toBytes hfits)

/-- The answers of a relay reach back over the dial it came from. -/
theorem dialInto_create {next : Host} {rest : List Host} {pos : Nat} {clientPublic : ByteArr 32} :
    dialInto (deliver P A (next :: rest) pos) (next :: rest) next.descriptor.address
        next.descriptor.tlsCertFingerprint (Message.create circuitId clientPublic.toList) =
      .reply (Message.created circuitId (next.ntorAnswer P clientPublic).1) := by
  obtain ⟨relay, hdeliver, -, -, -⟩ :=
    @deliver_create P A circuitId next rest pos clientPublic
  have hreaches : dialReaches next.descriptor.address next.descriptor.tlsCertFingerprint
      (next :: rest) = true := by
    simp [dialReaches]
  rw [dialInto, if_pos hreaches, hdeliver]

/-- What an EXTEND to `next` through the hops from position `pos` on leaves: the last of
them dials, the others pass it on, and `next` joins. -/
structure Extends (P : Primitives) (circuitId : CircuitId) (hops : List (SessionKey × CipherPair))
    (hosts : List Host) (pos : Nat) (next : Host) (clientPublic : ByteArr 32) (spent : Nat)
    (d : Delivery) : Prop where
  joined : Joined circuitId (spend spent 64 hops ++ [next.hop P clientPublic]) d.hosts
  static : d.hosts.map Host.static = hosts.map Host.static
  behind : d.hosts.drop (hops.length + 1) = hosts.drop (hops.length + 1)
  readings : readingsOf d.trace = extendReadings pos hops.length next.descriptor.address
    next.descriptor.tlsCertFingerprint (Message.create circuitId clientPublic.toList)
  reply : d.reply = some (Message.extended circuitId
    (applyLayers (backwardLayers P (hops.map Prod.snd)) (next.ntorAnswer P clientPublic).1).2)

/-- An address and a fingerprint that go through an EXTEND payload. -/
structure Host.Extendable (A : AddrSyntax) (h : Host) : Prop where
  parse : A.parse (A.display h.descriptor.address) = some h.descriptor.address
  noNul : (0 : UInt8) ∉ asBytes (A.display h.descriptor.address)
  fits : (asBytes (A.display h.descriptor.address)).length + 34 +
    (asBytes h.descriptor.tlsCertFingerprint).length ≤ MAX_PAYLOAD_SIZE

/-- The payload of an EXTEND to a host. -/
def Host.extendTo (A : AddrSyntax) (h : Host) (clientPublic : ByteArr 32) : Bytes :=
  extendPayload (A.display h.descriptor.address) clientPublic h.descriptor.tlsCertFingerprint

theorem Host.Extendable.length_le {h : Host} (hext : h.Extendable A) (clientPublic : ByteArr 32) :
    (h.extendTo A clientPublic).length ≤ MAX_PAYLOAD_SIZE := by
  have hlen : (h.extendTo A clientPublic).length =
      (asBytes (A.display h.descriptor.address)).length + 34 +
        (asBytes h.descriptor.tlsCertFingerprint).length := by
    simp [extendTo, extendPayload]
    omega
  rw [hlen]
  exact hext.fits

/-- The last joined relay reads the EXTEND. -/
theorem deliver_extend_last {h next : Host} {rest : List Host} {pos : Nat}
    {hop : SessionKey × CipherPair} {clientPublic : ByteArr 32} {msg : Message}
    (hjoined : Joined circuitId [hop] (h :: next :: rest)) (hrole : h.relay.nodeType ≠ .exit)
    (hid : msg.circuitId = circuitId) (hcommand : msg.command = .extend)
    (hext : next.Extendable A)
    (hpayload : (msg.peel P hop.2).data = next.extendTo A clientPublic) :
    Extends P circuitId [hop] (h :: next :: rest) pos next clientPublic msg.data.length
      (deliver P A (h :: next :: rest) pos msg) := by
  obtain ⟨key, cipher⟩ := hop
  subst hid
  have hlookup := hjoined.1
  rw [if_pos rfl] at hlookup
  let env := h.env (dialInto (deliver P A (next :: rest) (pos + 1)) (next :: rest))
  let request : ExtendRequest :=
    { addrStr := A.display next.descriptor.address
      addr := next.descriptor.address
      clientPublic
      fingerprint := next.descriptor.tlsCertFingerprint }
  let created := Message.created msg.circuitId (next.ntorAnswer P clientPublic).1
  have hlen : created.data.length = 64 :=
    next.length_ntorAnswer clientPublic
  have hparse : ∀ role, parseExtend A role (msg.peel P cipher).data = .ok request := by
    intro role
    rw [hpayload]
    exact parseExtend_extendPayload A hext.parse hext.noNul
  have hdial : env.dial request.addr request.fingerprint
      (Message.create msg.circuitId request.clientPublic.toList) = .reply created :=
    dialInto_create
  obtain ⟨relay, hserved, htype, hkeypair, hlinked⟩ :=
    @Relay.onMessage_extend P A env _ _ cipher msg created request h.relay h.padding hlookup
      (CircuitHandler.hop?_established hrole) rfl rfl rfl hcommand hparse hdial rfl
      (by rw [hlen]; decide) rfl (by rw [hlen]; decide)
  obtain ⟨nextRelay, hdeliver, hnextType, hnextKeypair, hnextLookup⟩ :=
    @deliver_create P A msg.circuitId next rest (pos + 1) clientPublic
  have hreaches : dialReaches next.descriptor.address next.descriptor.tlsCertFingerprint
      (next :: rest) = true := by
    simp [dialReaches]
  -- of what the relay sends, the one cell to the previous hop is the answer
  have hreply : replyOf [.dial request.addr request.fingerprint
        (Message.create msg.circuitId request.clientPublic.toList),
      .toPrevHop ((Message.extended msg.circuitId (created.wrap P cipher).data).toBytes
        h.padding), .spawnReader msg.circuitId] =
      some (Message.extended msg.circuitId (created.wrap P cipher).data) := by
    refine @replyOf_toBytes _ h.padding [.spawnReader msg.circuitId] ?_
    show (created.wrap P cipher).data.length ≤ MAX_PAYLOAD_SIZE
    rw [Message.length_wrap, hlen]
    decide
  have heq : deliver P A (h :: next :: rest) pos msg =
      ⟨{ h with relay } :: { next with relay := nextRelay } :: rest,
        [(pos, .dial request.addr request.fingerprint
            (Message.create msg.circuitId clientPublic.toList)),
          (pos, .toPrevHop ((Message.extended msg.circuitId
            (created.wrap P cipher).data).toBytes h.padding)),
          (pos, .spawnReader msg.circuitId),
          (pos + 1, .toPrevHop (created.toBytes next.padding))],
        some (Message.extended msg.circuitId (created.wrap P cipher).data)⟩ := by
    rw [deliver]
    dsimp only
    rw [hserved]
    dsimp only
    rw [if_pos hreaches, hdeliver, hreply]
    rfl
  rw [heq]
  refine ⟨⟨?_, ?_, trivial⟩, ?_, rfl, rfl, rfl⟩
  -- its ciphers have moved by the EXTEND and the answer, and it links to `next`
  · have hhandler : (CircuitHandler.established h.relay.nodeType h.relay.keypair msg.circuitId key
        cipher none).withHop ((HopHandler.established h.relay.keypair msg.circuitId key cipher
          none).extended cipher request msg.data.length created.data.length false) =
        CircuitHandler.established relay.nodeType relay.keypair msg.circuitId key
          { forward := cipher.forward.advance msg.data.length
            backward := cipher.backward.advance 64 }
          (linkTo ({ next with relay := nextRelay } :: rest)) := by
      rw [hlen, htype, hkeypair]
      exact CircuitHandler.withHop_established hrole
    exact hlinked.trans (congrArg some hhandler)
  · show nextRelay.registry.getCircuit msg.circuitId = _
    rw [hnextLookup, ← hnextType, ← hnextKeypair]
    rfl
  · simp [Host.static, htype, hkeypair, hnextType, hnextKeypair]

theorem Joined.linkTo_eq_some {hops : List (SessionKey × CipherPair)} {rest : List Host}
    (hne : hops ≠ []) (hjoined : Joined circuitId hops rest) :
    ∃ nextHop, linkTo rest = some nextHop ∧ nextHop.read = false := by
  cases hops with
  | nil => exact absurd rfl hne
  | cons hop hops =>
    cases rest with
    | nil => exact hjoined.elim
    | cons next rest => exact ⟨_, rfl, rfl⟩

/-- A joined relay with others behind it passes the EXTEND on and its answer back. -/
theorem Extends.relayed {h next : Host} {rest : List Host} {pos : Nat}
    {hop : SessionKey × CipherPair} {hops : List (SessionKey × CipherPair)}
    {clientPublic : ByteArr 32} {msg : Message} (hne : hops ≠ [])
    (hjoined : Joined circuitId (hop :: hops) (h :: rest)) (hrole : h.relay.nodeType ≠ .exit)
    (hid : msg.circuitId = circuitId) (hcommand : msg.command = .extend)
    (hfits : msg.data.length ≤ MAX_PAYLOAD_SIZE)
    (behind : Extends P circuitId hops rest (pos + 1) next clientPublic msg.data.length
      (deliver P A rest (pos + 1) (msg.peel P hop.2))) :
    Extends P circuitId (hop :: hops) (h :: rest) pos next clientPublic msg.data.length
      (deliver P A (h :: rest) pos msg) := by
  obtain ⟨key, cipher⟩ := hop
  subst hid
  obtain ⟨hlookup, htail⟩ := hjoined
  obtain ⟨nextHop, hlink, hread⟩ := Joined.linkTo_eq_some hne htail
  rw [if_neg hne, hlink] at hlookup
  let answer := Message.extended msg.circuitId
    (applyLayers (backwardLayers P (hops.map Prod.snd)) (next.ntorAnswer P clientPublic).1).2
  have hlen : answer.data.length = 64 := by
    show (applyLayers _ _).2.length = 64
    rw [length_applyLayers]
    exact next.length_ntorAnswer clientPublic
  have hrelayed : msg.command.relayed = true := by
    rw [hcommand]
    rfl
  obtain ⟨relay, heq, htype, hkeypair, hlookup'⟩ :=
    @deliver_relayed P A h _ _ cipher nextHop msg answer rest pos hlookup
      (CircuitHandler.hop?_established hrole) rfl rfl hread hrelayed hfits behind.reply rfl
      (show MessageCommand.extended ≠ .destroy by decide) (by rw [hlen]; decide)
  have hstatic := behind.static
  have hreadings := behind.readings
  have hrest := behind.behind
  have hbehind := behind.joined
  revert hstatic hreadings hrest hbehind
  rw [heq]
  generalize deliver P A rest (pos + 1) (msg.peel P cipher) = d
  intro hstatic hreadings hrest hbehind
  refine ⟨⟨?_, hbehind⟩, ?_, hrest, ?_, ?_⟩
  -- the link of this relay is the one it had: only its ciphers move
  · have hsome : spend msg.data.length 64 hops ++ [next.hop P clientPublic] ≠ [] := by simp
    show relay.registry.getCircuit msg.circuitId = some (CircuitHandler.established relay.nodeType
      relay.keypair msg.circuitId key _ (if spend msg.data.length 64 hops ++
        [next.hop P clientPublic] = [] then none else linkTo d.hosts))
    rw [if_neg hsome, linkTo_congr hstatic, hlink, hlookup', htype, hkeypair, hlen]
    exact congrArg some (CircuitHandler.withHop_established hrole)
  · rw [List.map_cons, List.map_cons, hstatic]
    simp [Host.static, htype, hkeypair]
  · have hkeep : readingsOf ((pos, Effect.toNextHop ((msg.peel P cipher).toBytes h.padding)) ::
        d.trace ++ [(pos, .toPrevHop ((answer.wrap P cipher).toBytes h.padding))]) =
        (pos, .forwarded) :: readingsOf d.trace := by
      show (pos, Reading.forwarded) :: readingsOf (d.trace ++ _) = _
      rw [readingsOf_append]
      exact congrArg (List.cons _) (List.append_nil _)
    rw [hreadings, ← extendReadings_succ (List.length_pos_iff.mpr hne)] at hkeep
    exact hkeep
  · refine congrArg some (congrArg (Message.extended msg.circuitId) ?_)
    exact (applyLayers_apply (backwardLayers P (hops.map Prod.snd)) (cipher.backward.layer P)
      (next.ntorAnswer P clientPublic).1).symm

/-- **An EXTEND through all the joined relays.** -/
theorem deliver_extend {next : Host} {behind : List Host} {clientPublic : ByteArr 32}
    (hext : next.Extendable A) (hops : List (SessionKey × CipherPair)) (front : List Host)
    (pos : Nat) (msg : Message) (hne : hops ≠ []) (hlen : front.length = hops.length)
    (hjoined : Joined circuitId hops (front ++ next :: behind))
    (hroles : ∀ h ∈ front, h.relay.nodeType ≠ .exit) (hid : msg.circuitId = circuitId)
    (hcommand : msg.command = .extend)
    (hpayload : (applyLayers (forwardLayers P (hops.map Prod.snd)) msg.data).2 =
      next.extendTo A clientPublic) :
    Extends P circuitId hops (front ++ next :: behind) pos next clientPublic msg.data.length
      (deliver P A (front ++ next :: behind) pos msg) := by
  induction hops generalizing front pos msg with
  | nil => exact absurd rfl hne
  | cons hop hops ih =>
    cases front with
    | nil => cases hlen
    | cons h front =>
      have hrole : h.relay.nodeType ≠ .exit := hroles h List.mem_cons_self
      have hfront : front.length = hops.length := Nat.succ.inj hlen
      -- the last joined relay dials, the others pass the EXTEND on
      by_cases hlast : hops = []
      · subst hlast
        have hnil : front = [] := List.length_eq_zero_iff.mp hfront
        subst hnil
        exact deliver_extend_last hjoined hrole hid hcommand hext hpayload
      · have hfits : msg.data.length ≤ MAX_PAYLOAD_SIZE := by
          have := congrArg List.length hpayload
          rw [length_applyLayers] at this
          rw [this]
          exact hext.length_le clientPublic
        have hbehind := ih front (pos + 1) (msg.peel P hop.2) hlast hfront hjoined.2
          (fun h' hh' => hroles h' (List.mem_cons_of_mem h hh')) hid hcommand hpayload
        rw [Message.length_peel] at hbehind
        exact Extends.relayed hlast hjoined hrole hid hcommand hfits hbehind

/-! ## The client's side -/

/-- A relay whose keypair and descriptor say the truth about it. -/
structure Host.Honest (P : Primitives) (h : Host) : Prop where
  keypair : ∃ secret, h.relay.keypair = KeyPair.fromSecretBytes P secret
  publicKey : h.descriptor.publicKey = h.relay.keypair.publicKey
  nodeType : h.descriptor.nodeType = h.relay.nodeType

/-- The two fields of an ntor answer, as the client cuts them. -/
theorem Host.ntorAnswer_fields (h : Host) (clientPublic : ByteArr 32) :
    (getRange (h.ntorAnswer P clientPublic).1 0 32).bind (toArr 32) =
        some (h.relay.keypair.ntorServerHandshake P clientPublic h.ephemeral).1 ∧
      (getRange (h.ntorAnswer P clientPublic).1 32 64).bind (toArr 32) =
        some (h.relay.keypair.ntorServerHandshake P clientPublic h.ephemeral).2.1 := by
  let Y := (h.relay.keypair.ntorServerHandshake P clientPublic h.ephemeral).1
  let auth := (h.relay.keypair.ntorServerHandshake P clientPublic h.ephemeral).2.1
  have hY : getRange (Y.toList ++ auth.toList) 0 32 = some Y.toList :=
    getRange_field (a := []) rfl rfl (by simp)
  have hauth : getRange (Y.toList ++ auth.toList) 32 64 = some auth.toList := by
    have hlayout : Y.toList ++ auth.toList = Y.toList ++ (auth.toList ++ []) := by
      rw [List.append_nil]
    exact getRange_field hlayout (by simp) (by simp)
  constructor
  · show (getRange (Y.toList ++ auth.toList) 0 32).bind (toArr 32) = some Y
    rw [hY, Option.bind_some, toArr_toList]
  · show (getRange (Y.toList ++ auth.toList) 32 64).bind (toArr 32) = some auth
    rw [hauth, Option.bind_some, toArr_toList]

section Honest

variable (hcomm : ∀ x y, P.x25519 x (P.x25519Public y) = P.x25519 y (P.x25519Public x))

include hcomm

/-- The client accepts an honest relay's answer and derives its key. -/
theorem clientHandshake_honest {h : Host} (honest : h.Honest P) (failed : String)
    (ephemeral : ByteArr 32) :
    clientHandshake P failed ephemeral h.descriptor
        (h.relay.keypair.ntorServerHandshake P (P.x25519Public ephemeral) h.ephemeral).1
        (h.relay.keypair.ntorServerHandshake P (P.x25519Public ephemeral) h.ephemeral).2.1 =
      .ok (h.ntorAnswer P (P.x25519Public ephemeral)).2 := by
  obtain ⟨secret, hkeypair⟩ := honest.keypair
  have hfinish : ntorClientFinishRaw P ephemeral (P.x25519Public ephemeral)
      (P.x25519Public secret)
      ((KeyPair.fromSecretBytes P secret).ntorServerHandshake P (P.x25519Public ephemeral)
        h.ephemeral).1
      ((KeyPair.fromSecretBytes P secret).ntorServerHandshake P (P.x25519Public ephemeral)
        h.ephemeral).2.1 =
      .ok ((KeyPair.fromSecretBytes P secret).ntorAnswer P (P.x25519Public ephemeral)
        h.ephemeral).2 :=
    (ntorClientFinishRaw_honest P hcomm secret ephemeral h.ephemeral _).trans (if_pos rfl)
  have hpublic : (KeyPair.fromSecretBytes P secret).publicKey.bytes = P.x25519Public secret := rfl
  rw [clientHandshake, honest.publicKey, Host.ntorAnswer, hkeypair, hpublic, hfinish]

variable {σ : Type} {T : Transport σ} {stream stream' : σ}

/-- **CREATE against an honest entry.** -/
theorem handshakeCreate_ok {h : Host} (honest : h.Honest P) (ephemeral : ByteArr 32)
    (hreply : T.exchange stream (Message.create circuitId (P.x25519Public ephemeral).toList) =
      (stream', .reply (Message.created circuitId (h.ntorAnswer P (P.x25519Public ephemeral)).1))) :
    handshakeCreate P T circuitId stream h.descriptor ephemeral =
      .ok (stream', (h.ntorAnswer P (P.x25519Public ephemeral)).2) := by
  obtain ⟨hY, hauth⟩ := h.ntorAnswer_fields (P := P) (P.x25519Public ephemeral)
  have hclient := clientHandshake_honest hcomm honest "ntor handshake failed with entry: " ephemeral
  have hcommand : ¬(Message.created circuitId
      (h.ntorAnswer P (P.x25519Public ephemeral)).1).command ≠ .created := not_not.mpr rfl
  have hdata : (Message.created circuitId (h.ntorAnswer P (P.x25519Public ephemeral)).1).data =
      (h.ntorAnswer P (P.x25519Public ephemeral)).1 := rfl
  have hlong : ¬(h.ntorAnswer P (P.x25519Public ephemeral)).1.length < 64 := by simp
  simp only [handshakeCreate, hreply, Answer.await, ok_bind, failIf_neg hcommand, hdata,
    failIf_neg hlong, hY, hauth, okOr_some, hclient]
  rfl

/-- **EXTEND to an honest relay.** -/
theorem handshakeExtend_ok {next : Host} (honest : next.Honest P) (ephemeral : ByteArr 32)
    (ciphers : List CipherPair)
    (hreply : T.exchange stream (Message.extend circuitId (applyLayers (forwardLayers P ciphers)
        (next.extendTo A (P.x25519Public ephemeral))).2) =
      (stream', .reply (Message.extended circuitId (applyLayers (backwardLayers P ciphers)
        (next.ntorAnswer P (P.x25519Public ephemeral)).1).2))) :
    handshakeExtend P A T circuitId stream next.descriptor ciphers ephemeral =
      .ok (stream', advanceBackwardAll (advanceForwardAll ciphers
          (next.extendTo A (P.x25519Public ephemeral)).length) 64,
        (next.ntorAnswer P (P.x25519Public ephemeral)).2) := by
  obtain ⟨hY, hauth⟩ := next.ntorAnswer_fields (P := P) (P.x25519Public ephemeral)
  have hclient := clientHandshake_honest hcomm honest
    ("ntor handshake failed with " ++ A.display next.descriptor.address ++ ": ") ephemeral
  let payload := next.extendTo A (P.x25519Public ephemeral)
  let answer := (next.ntorAnswer P (P.x25519Public ephemeral)).1
  let sent := (applyLayers (forwardLayers P ciphers) payload).2
  let received := (applyLayers (backwardLayers P ciphers) answer).2
  have hwrap : wrapForward P ciphers payload =
      (advanceForwardAll ciphers payload.length, sent) :=
    Prod.ext (wrapForward_fst P ciphers payload) (wrapForward_snd P ciphers payload)
  -- the client takes off the layers the relays put on, in whatever order
  have hunwrap : unwrapBackward P (advanceForwardAll ciphers payload.length) received =
      (advanceBackwardAll (advanceForwardAll ciphers payload.length) 64, answer) := by
    have hreceived : received.length = 64 := by
      rw [length_applyLayers]
      exact next.length_ntorAnswer _
    refine Prod.ext ?_ ?_
    · rw [unwrapBackward_fst, hreceived]
    · rw [unwrapBackward_snd, backwardLayers_advanceForwardAll]
      exact applyLayers_cancel _ answer
  have hcommand : ¬(Message.extended circuitId received).command ≠ .extended := not_not.mpr rfl
  have hdata : (Message.extended circuitId received).data = received := rfl
  have hlong : ¬answer.length < 64 := by
    rw [Host.length_ntorAnswer]
    omega
  have hexchange : T.exchange stream (Message.extend circuitId sent) =
      (stream', .reply (Message.extended circuitId received)) := hreply
  have hpayload : extendPayload (A.display next.descriptor.address) (P.x25519Public ephemeral)
      next.descriptor.tlsCertFingerprint = payload := rfl
  simp only [handshakeExtend, hpayload, hwrap, hexchange, Answer.await, ok_bind,
    failIf_neg hcommand, hdata, hunwrap, failIf_neg hlong, answer, hY, hauth, okOr_some, hclient]
  rfl

end Honest

/-! ## The build -/

/-- An exchange whose message is answered. -/
theorem Network.exchange_ok (net₀ net : Network) (padding : Nat → UInt8) {msg answer : Message}
    (hfits : msg.data.length ≤ MAX_PAYLOAD_SIZE)
    (hreply : (deliver P A net.hosts 0 msg).reply = some answer) :
    (net₀.transport P A padding).exchange net msg =
      (⟨(deliver P A net.hosts 0 msg).hosts, net.trace ++ (deliver P A net.hosts 0 msg).trace⟩,
        .reply answer) := by
  rw [transport]
  dsimp only
  rw [Message.writeToStream_working hfits]
  dsimp only
  rw [Message.fromBytes_toBytes_of_le hfits]
  dsimp only
  rw [hreply]

/-- What the relays do with the EXTENDs to these nodes, the first of them the `k`-th. -/
def buildReadings (P : Primitives) (circuitId : CircuitId) (ephemerals : Nat → ByteArr 32)
    (k : Nat) (nodes : List NodeDescriptor) : List (Nat × Reading) :=
  (nodes.zipIdx k).flatMap fun e =>
    extendReadings 0 e.2 e.1.address e.1.tlsCertFingerprint
      (Message.create circuitId (P.x25519Public (ephemerals e.2)).toList)

/-- The hops after an EXTEND, as the client keeps them: keys and ciphers apart. -/
theorem spend_append (n m : Nat) (hops : List (SessionKey × CipherPair))
    (hop : SessionKey × CipherPair) :
    (spend n m hops ++ [hop]).map Prod.fst = hops.map Prod.fst ++ [hop.1] ∧
      (spend n m hops ++ [hop]).map Prod.snd =
        advanceBackwardAll (advanceForwardAll (hops.map Prod.snd) n) m ++ [hop.2] := by
  simp [spend, advanceForwardAll, advanceBackwardAll, Function.comp_def]

/-- **The EXTEND loop**: every remaining relay joins. -/
theorem extendLoop_ok
    (hcomm : ∀ x y, P.x25519 x (P.x25519Public y) = P.x25519 y (P.x25519Public x))
    (net₀ : Network) (padding : Nat → UInt8) (ephemerals : Nat → ByteArr 32)
    (remaining front : List Host) (hops : List (SessionKey × CipherPair)) (net : Network)
    (hnet : net.hosts = front ++ remaining) (hlen : front.length = hops.length) (hne : hops ≠ [])
    (hjoined : Joined circuitId hops net.hosts)
    (hroles : ∀ role ∈ (net.hosts.map fun h => h.relay.nodeType).dropLast, role ≠ .exit)
    (honest : ∀ h ∈ remaining, h.Honest P) (hext : ∀ h ∈ remaining, h.Extendable A) :
    ∃ net' hops', extendLoop P A (net₀.transport P A padding) circuitId ephemerals hops.length
        (remaining.map Host.descriptor) net (hops.map Prod.fst) (hops.map Prod.snd) =
        .ok (net', hops'.map Prod.fst, hops'.map Prod.snd) ∧
      Joined circuitId hops' net'.hosts ∧ hops'.length = net'.hosts.length ∧
      net'.hosts.map Host.static = net.hosts.map Host.static ∧
      readingsOf net'.trace = readingsOf net.trace ++
        buildReadings P circuitId ephemerals hops.length (remaining.map Host.descriptor) := by
  induction remaining generalizing front hops net with
  | nil =>
    refine ⟨net, hops, rfl, hjoined, ?_, rfl, (List.append_nil _).symm⟩
    rw [hnet, List.append_nil, hlen]
  | cons next behind ih =>
    let X := P.x25519Public (ephemerals hops.length)
    let payload := next.extendTo A X
    let msg := Message.extend circuitId
      (applyLayers (forwardLayers P (hops.map Prod.snd)) payload).2
    let d := deliver P A net.hosts 0 msg
    have hnext := hext next List.mem_cons_self
    have hspent : msg.data.length = payload.length := length_applyLayers ..
    have hfits : msg.data.length ≤ MAX_PAYLOAD_SIZE := hspent ▸ hnext.length_le X
    -- only the last relay of the path is an exit, and it has not joined yet
    have hfront : ∀ h ∈ front, h.relay.nodeType ≠ .exit := by
      intro h hh
      refine hroles _ ?_
      rw [hnet, List.map_append, List.map_cons, List.dropLast_append_cons]
      exact List.mem_append_left _ (List.mem_map_of_mem hh)
    have hd : Extends P circuitId hops net.hosts 0 next X payload.length d := by
      have hdeliver := deliver_extend (P := P) (A := A) hnext hops front 0 msg hne hlen
        (hnet ▸ hjoined) hfront rfl rfl (applyLayers_cancel _ payload)
      rw [hspent, ← hnet] at hdeliver
      exact hdeliver
    let net₁ : Network := ⟨d.hosts, net.trace ++ d.trace⟩
    let hops₁ := spend payload.length 64 hops ++ [next.hop P X]
    have hexchange : (net₀.transport P A padding).exchange net msg = (net₁, .reply _) :=
      Network.exchange_ok net₀ net padding hfits hd.reply
    have hstep := handshakeExtend_ok hcomm (honest next List.mem_cons_self)
      (ephemerals hops.length) (hops.map Prod.snd) hexchange
    have hlen₁ : hops₁.length = hops.length + 1 := by simp [hops₁, spend]
    have hbehind : d.hosts.drop (hops.length + 1) = behind := by
      rw [hd.behind, hnet, ← hlen, List.append_cons, List.drop_left' (by simp)]
    have hsplit : net₁.hosts = d.hosts.take (hops.length + 1) ++ behind := by
      rw [← hbehind, List.take_append_drop]
    have hcount : d.hosts.length = net.hosts.length := by
      have := congrArg List.length hd.static
      simpa using this
    have hfront₁ : (d.hosts.take (hops.length + 1)).length = hops₁.length := by
      rw [hlen₁, List.length_take, hcount, hnet]
      simp [hlen]
    have hroles₁ : (net₁.hosts.map fun h => h.relay.nodeType) =
        net.hosts.map fun h => h.relay.nodeType := by
      have := congrArg (List.map fun s => s.2.1) hd.static
      rw [List.map_map, List.map_map] at this
      exact this
    obtain ⟨net', hops', hloop, hjoined', hlen', hstatic', hreadings'⟩ :=
      ih (d.hosts.take (hops.length + 1)) hops₁ net₁ hsplit hfront₁ (by simp [hops₁]) hd.joined
        (hroles₁ ▸ hroles) (fun h hh => honest h (List.mem_cons_of_mem next hh))
        (fun h hh => hext h (List.mem_cons_of_mem next hh))
    obtain ⟨hkeys, hciphers⟩ := spend_append payload.length 64 hops (next.hop P X)
    refine ⟨net', hops', ?_, hjoined', hlen', hstatic'.trans hd.static, ?_⟩
    · rw [hkeys, hciphers, hlen₁] at hloop
      rw [List.map_cons, extendLoop, hstep]
      exact hloop
    · rw [hreadings', readingsOf_append, hd.readings, hlen₁, List.append_assoc]
      rfl

/-! ## Both ends in the same state -/

/-- The client's circuit and the relays of its path agree, the digests are fresh, and every
relay but the last is linked to the one behind it. -/
structure Synchronised (circuit : Circuit) (hosts : List Host) : Prop where
  sessionKeys : hosts.map (fun h => h.relay.sessionKey? circuit.circuitId) =
    circuit.onionKeys.sessionKeys.map some
  /-- Same keys and same keystream positions, in both directions. -/
  ciphers : hosts.map (fun h => h.relay.cipher? circuit.circuitId) =
    circuit.onionKeys.ciphers.map some
  nextHops : ∀ i, ∀ h ∈ hosts[i]?, h.relay.nextHop? circuit.circuitId = linkTo (hosts.drop (i + 1))
  clientDigests : (circuit.onionKeys.forwardDigest, circuit.onionKeys.backwardDigest) =
    (RunningDigest.new, RunningDigest.new)
  exitDigests : ∀ h ∈ hosts.getLast?, h.relay.digests? circuit.circuitId =
    some (circuit.onionKeys.forwardDigest, circuit.onionKeys.backwardDigest)

section Lookup

variable {h : Host} {nodeType : NodeType} {keypair : KeyPair} {key : SessionKey}
  {cipher : CipherPair} {nextHop : Option NextHop}

theorem established_keys (hlookup : h.relay.registry.getCircuit circuitId =
      some (CircuitHandler.established nodeType keypair circuitId key cipher nextHop)) :
    h.relay.sessionKey? circuitId = some key ∧ h.relay.cipher? circuitId = some cipher := by
  rw [Relay.sessionKey?, Relay.cipher?, hlookup]
  cases nodeType with
  | entry => exact ⟨rfl, rfl⟩
  | middle => exact ⟨rfl, rfl⟩
  | exit => exact ⟨rfl, rfl⟩

theorem established_nextHop (hrole : nodeType = .exit → nextHop = none)
    (hlookup : h.relay.registry.getCircuit circuitId =
      some (CircuitHandler.established nodeType keypair circuitId key cipher nextHop)) :
    h.relay.nextHop? circuitId = nextHop := by
  rw [Relay.nextHop?, hlookup]
  cases nodeType with
  | entry => rfl
  | middle => rfl
  | exit => exact (hrole rfl).symm

theorem established_digests (hlookup : h.relay.registry.getCircuit circuitId =
      some (CircuitHandler.established .exit keypair circuitId key cipher nextHop)) :
    h.relay.digests? circuitId = some (RunningDigest.new, RunningDigest.new) := by
  rw [Relay.digests?, hlookup]
  rfl

end Lookup

/-- The joined relays hold the client's keys and ciphers. -/
theorem Joined.keys {hops : List (SessionKey × CipherPair)} {hosts : List Host}
    (hjoined : Joined circuitId hops hosts) (hlen : hops.length = hosts.length) :
    hosts.map (fun h => h.relay.sessionKey? circuitId) = (hops.map Prod.fst).map some ∧
      hosts.map (fun h => h.relay.cipher? circuitId) = (hops.map Prod.snd).map some := by
  induction hops generalizing hosts with
  | nil =>
    have hnil : hosts = [] := List.length_eq_zero_iff.mp hlen.symm
    subst hnil
    exact ⟨rfl, rfl⟩
  | cons hop hops ih =>
    cases hosts with
    | nil => cases hlen
    | cons h rest =>
      obtain ⟨hlookup, htail⟩ := hjoined
      obtain ⟨hkey, hcipher⟩ := established_keys hlookup
      obtain ⟨hkeys, hciphers⟩ := ih htail (Nat.succ.inj hlen)
      simp only [List.map_cons, hkey, hcipher, hkeys, hciphers, and_self]

/-- The joined relays are linked in a row. -/
theorem Joined.nextHops {hops : List (SessionKey × CipherPair)} {hosts : List Host}
    (hjoined : Joined circuitId hops hosts) (hlen : hops.length = hosts.length)
    (hroles : ∀ role ∈ (hosts.map fun h => h.relay.nodeType).dropLast, role ≠ .exit) (i : Nat) :
    ∀ h ∈ hosts[i]?, h.relay.nextHop? circuitId = linkTo (hosts.drop (i + 1)) := by
  induction hops generalizing hosts i with
  | nil =>
    have hnil : hosts = [] := List.length_eq_zero_iff.mp hlen.symm
    subst hnil
    intro h hh
    cases hh
  | cons hop hops ih =>
    cases hosts with
    | nil => cases hlen
    | cons h₀ rest =>
      obtain ⟨hlookup, htail⟩ := hjoined
      have hrest : hops.length = rest.length := Nat.succ.inj hlen
      cases i with
      | zero =>
        intro h hh
        cases hh
        by_cases hlast : hops = []
        · rw [if_pos hlast] at hlookup
          have hnil : rest = [] := List.length_eq_zero_iff.mp (by rw [← hrest, hlast]; rfl)
          rw [established_nextHop (fun _ => rfl) hlookup, hnil]
          rfl
        · rw [if_neg hlast] at hlookup
          have hsome : rest.map (fun h => h.relay.nodeType) ≠ [] := by
            intro hmap
            rw [List.map_eq_nil_iff] at hmap
            exact hlast (List.length_eq_zero_iff.mp (by rw [hrest, hmap]; rfl))
          have hrole : h₀.relay.nodeType ≠ .exit := by
            refine hroles _ ?_
            rw [List.map_cons, List.dropLast_cons_of_ne_nil hsome]
            exact List.mem_cons_self
          exact established_nextHop (fun hexit => absurd hexit hrole) hlookup
      | succ i =>
        refine ih htail hrest (fun role hrole => hroles role ?_) i
        have hsome : rest.map (fun h => h.relay.nodeType) ≠ [] := by
          intro hnil
          rw [hnil] at hrole
          cases hrole
        rw [List.map_cons, List.dropLast_cons_of_ne_nil hsome]
        exact List.mem_cons_of_mem _ hrole

/-- The last of the joined relays, an exit, starts with fresh digests. -/
theorem Joined.exitDigests {hops : List (SessionKey × CipherPair)} {hosts : List Host}
    (hjoined : Joined circuitId hops hosts) (hlen : hops.length = hosts.length) :
    ∀ h ∈ hosts.getLast?, h.relay.nodeType = .exit →
      h.relay.digests? circuitId = some (RunningDigest.new, RunningDigest.new) := by
  induction hops generalizing hosts with
  | nil =>
    have hnil : hosts = [] := List.length_eq_zero_iff.mp hlen.symm
    subst hnil
    intro h hh
    cases hh
  | cons hop hops ih =>
    cases hosts with
    | nil => cases hlen
    | cons h₀ rest =>
      obtain ⟨hlookup, htail⟩ := hjoined
      have hrest : hops.length = rest.length := Nat.succ.inj hlen
      cases rest with
      | nil =>
        intro h hh hexit
        have hself : h₀ = h := by simpa using hh
        subst hself
        rw [hexit] at hlookup
        exact established_digests hlookup
      | cons h₁ rest =>
        rw [List.getLast?_cons_cons]
        exact ih htail hrest

/-- The client's circuit over these hops, as the build leaves it. -/
def builtCircuit (circuitId : CircuitId) (hops : List (SessionKey × CipherPair)) : Circuit where
  circuitId := circuitId
  state := .ready
  onionKeys := OnionKeys.new (hops.map Prod.fst) (hops.map Prod.snd)
  streamSenders := ∅
  nextStreamId := 1

section Path

variable {hosts : List Host} {middles : Nat}

/-- The roles of a path, as its relays know them. -/
theorem roles_of_path
    (hpath : hosts.map (fun h => h.descriptor.nodeType) =
      .entry :: List.replicate (middles + 1) .middle ++ [.exit])
    (honest : ∀ h ∈ hosts, h.Honest P) :
    hosts.map (fun h => h.relay.nodeType) =
      .entry :: List.replicate (middles + 1) .middle ++ [.exit] := by
  rw [← hpath]
  exact List.map_congr_left fun h hh => (honest h hh).nodeType.symm

theorem roles_ne_exit
    (hroles : hosts.map (fun h => h.relay.nodeType) =
      .entry :: List.replicate (middles + 1) .middle ++ [.exit]) :
    ∀ role ∈ (hosts.map fun h => h.relay.nodeType).dropLast, role ≠ .exit := by
  intro role hrole
  rw [hroles, List.dropLast_concat] at hrole
  rintro rfl
  simp [List.mem_replicate] at hrole

/-- The build against honest relays: all of them join. -/
theorem build_joined
    (hcomm : ∀ x y, P.x25519 x (P.x25519Public y) = P.x25519 y (P.x25519Public x))
    (padding : Nat → UInt8) (ephemerals : Nat → ByteArr 32)
    (hpath : hosts.map (fun h => h.descriptor.nodeType) =
      .entry :: List.replicate (middles + 1) .middle ++ [.exit])
    (honest : ∀ h ∈ hosts, h.Honest P) (hext : ∀ h ∈ hosts.tail, h.Extendable A) :
    ∃ net hops, build P A (Network.transport P A ⟨hosts, []⟩ padding) circuitId
        (hosts.map Host.descriptor) ephemerals = .ok (builtCircuit circuitId hops, net) ∧
      Joined circuitId hops net.hosts ∧ hops.length = net.hosts.length ∧
      net.hosts.map Host.static = hosts.map Host.static ∧
      readingsOf net.trace =
        buildReadings P circuitId ephemerals 1 (hosts.tail.map Host.descriptor) := by
  cases hosts with
  | nil => cases hpath
  | cons entry rest =>
    let X := P.x25519Public (ephemerals 0)
    set T := Network.transport P A ⟨entry :: rest, []⟩ padding with hT
    have hroles := roles_ne_exit (roles_of_path hpath honest)
    have hcount : ¬((entry :: rest).map Host.descriptor).length < 3 := by
      have hlen := congrArg List.length hpath
      simp only [List.length_map, List.length_append, List.length_cons, List.length_replicate,
        List.length_nil] at hlen ⊢
      omega
    have hconnect : T.connect entry.descriptor.address entry.descriptor.tlsCertFingerprint =
        .ok ⟨entry :: rest, []⟩ := by
      refine if_pos ?_
      simp [dialReaches]
    obtain ⟨relay, hdeliver, htype, hkeypair, hlookup⟩ :=
      @deliver_create P A circuitId entry rest 0 X
    let net₁ : Network := ⟨{ entry with relay } :: rest,
      [(0, .toPrevHop ((Message.created circuitId (entry.ntorAnswer P X).1).toBytes entry.padding))]⟩
    have hexchange : T.exchange ⟨entry :: rest, []⟩ (Message.create circuitId X.toList) =
        (net₁, .reply (Message.created circuitId (entry.ntorAnswer P X).1)) := by
      have hfits : (Message.create circuitId X.toList).data.length ≤ MAX_PAYLOAD_SIZE := by
        show X.toList.length ≤ MAX_PAYLOAD_SIZE
        rw [List.Vector.toList_length]
        decide
      have hreply : (deliver P A (entry :: rest) 0 (Message.create circuitId X.toList)).reply =
          some (Message.created circuitId (entry.ntorAnswer P X).1) := by
        rw [hdeliver]
      have hex := Network.exchange_ok ⟨entry :: rest, []⟩ ⟨entry :: rest, []⟩ padding hfits hreply
      rw [hdeliver] at hex
      exact hex
    have hcreate := handshakeCreate_ok hcomm (honest entry List.mem_cons_self) (ephemerals 0)
      hexchange
    have hjoined : Joined circuitId [entry.hop P X] net₁.hosts := by
      refine ⟨?_, trivial⟩
      rw [if_pos rfl]
      show relay.registry.getCircuit circuitId = _
      rw [hlookup, ← htype, ← hkeypair]
    have hroles₁ : (net₁.hosts.map fun h => h.relay.nodeType) =
        (entry :: rest).map fun h => h.relay.nodeType := by
      simp [net₁, htype]
    obtain ⟨net', hops', hloop, hjoined', hlen', hstatic', hreadings'⟩ :=
      extendLoop_ok (A := A) hcomm ⟨entry :: rest, []⟩ padding ephemerals rest
        [{ entry with relay }] [entry.hop P X] net₁ rfl rfl
        (List.cons_ne_nil _ _) hjoined (hroles₁ ▸ hroles)
        (fun h hh => honest h (List.mem_cons_of_mem entry hh)) hext
    refine ⟨net', hops', ?_, hjoined', hlen', hstatic'.trans ?_, ?_⟩
    · have hhead : ((entry :: rest).map Host.descriptor).head? = some entry.descriptor := rfl
      have htail : ((entry :: rest).map Host.descriptor).tail = rest.map Host.descriptor := rfl
      simp only [build, failIf_neg hcount, hhead, okOr_some, ok_bind, hconnect, hcreate, htail]
      rw [← hT] at hloop
      have hfirst : extendLoop P A T circuitId ephemerals 1 (rest.map Host.descriptor) net₁
          [(entry.ntorAnswer P X).2] [CipherPair.new (entry.ntorAnswer P X).2] =
          .ok (net', hops'.map Prod.fst, hops'.map Prod.snd) := hloop
      rw [hfirst]
      rfl
    · simp [net₁, Host.static, htype, hkeypair]
    · rw [hreadings']
      rfl

end Path

/-- **The telescopic build leaves client and relays synchronised.** For a path of an entry,
one or more middles and an exit, all honest, with EXTEND payloads that fit a cell: the build
succeeds; the `k`-th EXTEND is passed on by the relays before position `k - 1` and read by
that one as the address, key and fingerprint the client wrote; and at the end both ends hold
the same keys, cipher positions and digests, each relay linked to the next. -/
theorem build_synchronised
    (hcomm : ∀ x y, P.x25519 x (P.x25519Public y) = P.x25519 y (P.x25519Public x))
    (hosts : List Host) (middles : Nat) (padding : Nat → UInt8) (ephemerals : Nat → ByteArr 32)
    (hpath : hosts.map (fun h => h.descriptor.nodeType) =
      .entry :: List.replicate (middles + 1) .middle ++ [.exit])
    (honest : ∀ h ∈ hosts, h.Honest P) (hext : ∀ h ∈ hosts.tail, h.Extendable A) :
    ∃ circuit net, build P A (Network.transport P A ⟨hosts, []⟩ padding) circuitId
        (hosts.map Host.descriptor) ephemerals = .ok (circuit, net) ∧
      circuit.circuitId = circuitId ∧ circuit.state = .ready ∧
      net.hosts.map Host.static = hosts.map Host.static ∧
      readingsOf net.trace =
        buildReadings P circuitId ephemerals 1 (hosts.tail.map Host.descriptor) ∧
      Synchronised circuit net.hosts := by
  obtain ⟨net, hops, hbuild, hjoined, hlen, hstatic, hreadings⟩ :=
    @build_joined P A circuitId hosts middles hcomm padding ephemerals hpath honest hext
  have hroles : net.hosts.map (fun h => h.relay.nodeType) =
      .entry :: List.replicate (middles + 1) .middle ++ [.exit] := by
    have hmap := congrArg (List.map fun s => s.2.1) hstatic
    rw [List.map_map, List.map_map] at hmap
    exact hmap.trans (roles_of_path hpath honest)
  have hlast : ∀ h ∈ net.hosts.getLast?, h.relay.nodeType = .exit := by
    intro h hh
    have hmap := congrArg List.getLast? hroles
    rw [List.getLast?_map, Option.mem_def.mp hh, List.getLast?_concat] at hmap
    exact Option.some.inj hmap
  obtain ⟨hkeys, hciphers⟩ := hjoined.keys hlen
  exact ⟨builtCircuit circuitId hops, net, hbuild, rfl, rfl, hstatic, hreadings,
    { sessionKeys := hkeys
      ciphers := hciphers
      nextHops := hjoined.nextHops hlen (roles_ne_exit hroles)
      clientDigests := rfl
      exitDigests := fun h hh => hjoined.exitDigests hlen h hh (hlast h hh) }⟩

/-! ### A sample path -/

/-- A relay at 127.0.0.`n` with a secret of its own. -/
def sampleHost (n : UInt8) (nodeType : NodeType) : Host where
  descriptor :=
    { nodeId := "relay"
      nodeType
      address := .v4 ⟨[127, 0, 0, n], rfl⟩ 9001
      publicKey := ⟨Primitives.sample.x25519Public (sampleSecret n)⟩
      bandwidth := 100
      exitPolicy := none
      operatorId := none
      tlsCertFingerprint := "a1b2" }
  relay := Relay.new nodeType (KeyPair.fromSecretBytes .sample (sampleSecret n))
  ephemeral := sampleSecret (n + 100)
  padding _ := 0

def samplePath : List Host := [sampleHost 1 .entry, sampleHost 2 .middle, sampleHost 3 .exit]

theorem sampleHost_honest (n : UInt8) (nodeType : NodeType) :
    (sampleHost n nodeType).Honest .sample := ⟨⟨sampleSecret n, rfl⟩, rfl, rfl⟩

theorem samplePath_honest : ∀ h ∈ samplePath, h.Honest .sample := by
  intro h hh
  simp only [samplePath, List.mem_cons, List.not_mem_nil, or_false] at hh
  rcases hh with rfl | rfl | rfl
  · exact sampleHost_honest 1 .entry
  · exact sampleHost_honest 2 .middle
  · exact sampleHost_honest 3 .exit

theorem samplePath_extendable : ∀ h ∈ samplePath.tail, h.Extendable .ipv4 := by
  intro h hh
  simp only [samplePath, List.tail_cons, List.mem_cons, List.not_mem_nil, or_false] at hh
  rcases hh with rfl | rfl
  · exact ⟨ipv4_parse_display _ _, by decide, by decide⟩
  · exact ⟨ipv4_parse_display _ _, by decide, by decide⟩

theorem samplePath_synchronised :
    ∃ circuit net, build .sample .ipv4
        (Network.transport .sample .ipv4 ⟨samplePath, []⟩ fun _ => 0) 1
        (samplePath.map Host.descriptor) (fun k => sampleSecret (UInt8.ofNat k + 200)) =
        .ok (circuit, net) ∧
      circuit.circuitId = 1 ∧ circuit.state = .ready ∧
      net.hosts.map Host.static = samplePath.map Host.static ∧
      readingsOf net.trace = buildReadings .sample 1
        (fun k => sampleSecret (UInt8.ofNat k + 200)) 1 (samplePath.tail.map Host.descriptor) ∧
      Synchronised circuit net.hosts :=
  build_synchronised sample_x25519_comm samplePath 0 _ _ rfl samplePath_honest
    samplePath_extendable

end MiniTor
