import MiniTor.Circuit.Start

/-!
# Building over a hostile network (`tor-client/src/core/circuit.rs`)

`CircuitBuilder::build` with nothing assumed of the network: the transport answers
whatever it likes.

- `Accepted`: what one handshake asked for, under the layers of the hops there were, and
  what the client took for an answer.
- `build_eq_ok_iff`: a build succeeds exactly over an exchange whose every answer is
  accepted, and leaves the circuit of the keys accepted.
- `build_authenticated`: a tag that was accepted and that some relay computed was computed by
  the holder of the hop's public key, for this handshake and with the same session key, or
  two HMAC inputs at hand collide.
-/

namespace MiniTor

open Theory Client

variable (P : Primitives) (A : AddrSyntax)

/-! ## Handshakes -/

/-- A message the client wrote while it built, and the message that came back. -/
structure Handshake where
  sent : Message
  reply : Message

/-- The network answers these handshakes, one after the other. -/
def Client.Transport.Answers {σ : Type} (T : Transport σ) : σ → List Handshake → σ → Prop
  | stream, [], stream' => stream = stream'
  | stream, handshake :: rest, stream' =>
    ∃ next, T.exchange stream handshake.sent = (next, .reply handshake.reply) ∧
      T.Answers next rest stream'

/-- What asks `node` to join: CREATE at the entry, EXTEND under the layers of the hops that
have joined. -/
def joinRequest (circuitId : CircuitId) (node : NodeDescriptor) (clientPublic : ByteArr 32)
    (ciphers : List CipherPair) : Message :=
  if ciphers = [] then Message.create circuitId clientPublic.toList
  else Message.extend circuitId (applyLayers (forwardLayers P ciphers)
    (extendPayload (A.display node.address) clientPublic node.tlsCertFingerprint)).2

/-- The handshake asked `node` to join, and its answer carries `serverEphPub` and a tag that
the client verified under the node's public key. -/
structure Accepted (circuitId : CircuitId) (node : NodeDescriptor) (ephemeral : ByteArr 32)
    (ciphers : List CipherPair) (handshake : Handshake) (key : SessionKey)
    (serverEphPub auth : ByteArr 32) : Prop where
  sent : handshake.sent = joinRequest P A circuitId node (P.x25519Public ephemeral) ciphers
  command : handshake.reply.command = if ciphers = [] then .created else .extended
  answer : ∃ rest, (applyLayers (backwardLayers P ciphers) handshake.reply.data).2 =
    serverEphPub.toList ++ auth.toList ++ rest
  verified : ntorClientFinishRaw P ephemeral (P.x25519Public ephemeral) node.publicKey.bytes
    serverEphPub auth = .ok key

/-- The ciphers once one more hop has joined; every layer has moved by what went through. -/
def joinHop (ciphers : List CipherPair) (hop : Handshake × SessionKey) : List CipherPair :=
  advanceBackwardAll (advanceForwardAll ciphers hop.1.sent.data.length) hop.1.reply.data.length ++
    [CipherPair.new hop.2]

/-- The nodes join one after the other, the first of them under these ciphers. -/
def Telescoped (circuitId : CircuitId) (ephemerals : Nat → ByteArr 32) :
    Nat → List NodeDescriptor → List CipherPair → List (Handshake × SessionKey) → Prop
  | _, [], _, hops => hops = []
  | _, _ :: _, _, [] => False
  | k, node :: nodes, ciphers, hop :: hops =>
    (∃ serverEphPub auth,
      Accepted P A circuitId node (ephemerals k) ciphers hop.1 hop.2 serverEphPub auth) ∧
      Telescoped circuitId ephemerals (k + 1) nodes (joinHop ciphers hop) hops

variable {P A} {circuitId : CircuitId} {σ : Type} {T : Transport σ}

/-! ## One handshake -/

/-- An answer is what its await returns. -/
theorem Client.Answer.await_eq_ok {texts : AwaitTexts} {answer : Answer} {m : Message} :
    answer.await texts = .ok m ↔ answer = .reply m := by
  cases answer with
  | reply m' =>
    constructor
    · intro h
      cases h
      rfl
    · intro h
      cases h
      rfl
  | writeFailed e => exact iff_of_false (by rintro ⟨⟩) (by rintro ⟨⟩)
  | timedOut => exact iff_of_false (by rintro ⟨⟩) (by rintro ⟨⟩)
  | readFailed e => exact iff_of_false (by rintro ⟨⟩) (by rintro ⟨⟩)
  | closed => exact iff_of_false (by rintro ⟨⟩) (by rintro ⟨⟩)

theorem Client.clientHandshake_eq_ok {failed : String} {ephemeral : ByteArr 32}
    {node : NodeDescriptor} {serverEphPub auth : ByteArr 32} {key : SessionKey} :
    clientHandshake P failed ephemeral node serverEphPub auth = .ok key ↔
      ntorClientFinishRaw P ephemeral (P.x25519Public ephemeral) node.publicKey.bytes
        serverEphPub auth = .ok key := by
  unfold clientHandshake
  cases ntorClientFinishRaw P ephemeral (P.x25519Public ephemeral) node.publicKey.bytes
    serverEphPub auth with
  | error e => exact iff_of_false (by rintro ⟨⟩) (by rintro ⟨⟩)
  | ok key' => rw [Except.ok.injEq, Except.ok.injEq]

/-- The two fields of an ntor answer are its first 64 bytes. -/
theorem ntorFields_iff {data : Bytes} {serverEphPub auth : ByteArr 32} :
    ((getRange data 0 32).bind (toArr 32) = some serverEphPub ∧
        (getRange data 32 64).bind (toArr 32) = some auth) ↔
      ∃ rest, data = serverEphPub.toList ++ auth.toList ++ rest := by
  constructor
  · rintro ⟨hfirst, hsecond⟩
    obtain ⟨first, hrange, harr⟩ := Option.bind_eq_some_iff.mp hfirst
    obtain ⟨second, hrange', harr'⟩ := Option.bind_eq_some_iff.mp hsecond
    obtain ⟨-, -, rfl⟩ := getRange_eq_some_iff.mp hrange
    obtain ⟨-, -, rfl⟩ := getRange_eq_some_iff.mp hrange'
    have hvalue : ∀ {b : Bytes} {v : ByteArr 32}, toArr 32 b = some v → v.toList = b := by
      intro b v h
      unfold toArr at h
      split at h
      · cases h
        rfl
      · cases h
    rw [hvalue harr, hvalue harr', List.drop_zero]
    refine ⟨data.drop 64, ?_⟩
    have hrest : (data.drop 32).drop 32 = data.drop 64 := List.drop_drop
    rw [List.append_assoc, ← hrest, List.take_append_drop, List.take_append_drop]
  · rintro ⟨rest, rfl⟩
    have hfirst : getRange (serverEphPub.toList ++ auth.toList ++ rest) 0 32 =
        some serverEphPub.toList := by
      rw [List.append_assoc]
      exact getRange_field (a := []) rfl rfl (by simp)
    have hsecond : getRange (serverEphPub.toList ++ auth.toList ++ rest) 32 64 =
        some auth.toList := by
      rw [List.append_assoc]
      exact getRange_field rfl (by simp) (by simp)
    rw [hfirst, hsecond, Option.bind_some, Option.bind_some, toArr_toList, toArr_toList]
    exact ⟨rfl, rfl⟩

/-- **CREATE.** -/
theorem handshakeCreate_eq_ok {stream stream' : σ} {entry : NodeDescriptor}
    {ephemeral : ByteArr 32} {key : SessionKey} :
    handshakeCreate P T circuitId stream entry ephemeral = .ok (stream', key) ↔
      ∃ handshake, T.exchange stream handshake.sent = (stream', .reply handshake.reply) ∧
        ∃ serverEphPub auth,
          Accepted P A circuitId entry ephemeral [] handshake key serverEphPub auth := by
  cases hexchange : T.exchange stream (Message.create circuitId
    (P.x25519Public ephemeral).toList) with
  | mk next answer =>
    simp only [handshakeCreate, hexchange, bind_eq_ok, failIf_eq_ok, okOr_eq_ok,
      Answer.await_eq_ok, clientHandshake_eq_ok]
    constructor
    · rintro ⟨created, rfl, -, hcommand, -, hlong, serverEphPub, hpub, auth, hauth, key', hkey,
        hreturn⟩
      cases hreturn
      exact ⟨⟨_, created⟩, hexchange, serverEphPub, auth, rfl, not_not.mp hcommand,
        ntorFields_iff.mp ⟨hpub, hauth⟩, hkey⟩
    · rintro ⟨handshake, hreply, serverEphPub, auth, hsent, hcommand, hfields, hkey⟩
      have hcreate : handshake.sent = Message.create circuitId
          (P.x25519Public ephemeral).toList := hsent
      rw [hcreate, hexchange] at hreply
      obtain ⟨rfl, rfl⟩ := Prod.mk.inj hreply
      obtain ⟨hpub, hauth⟩ := ntorFields_iff.mpr hfields
      refine ⟨handshake.reply, rfl, (), not_not.mpr hcommand, (), ?_, serverEphPub, hpub, auth,
        hauth, key, hkey, rfl⟩
      obtain ⟨rest, hdata⟩ := hfields
      have hlength : handshake.reply.data.length = 32 + (32 + rest.length) := by
        have hlen := congrArg List.length hdata
        simpa [backwardLayers] using hlen
      omega

/-- **EXTEND**, once there are hops. -/
theorem handshakeExtend_eq_ok {stream stream' : σ} {node : NodeDescriptor}
    {ciphers ciphers' : List CipherPair} {ephemeral : ByteArr 32} {key : SessionKey}
    (hne : ciphers ≠ []) :
    handshakeExtend P A T circuitId stream node ciphers ephemeral = .ok (stream', ciphers', key) ↔
      ∃ handshake, T.exchange stream handshake.sent = (stream', .reply handshake.reply) ∧
        (∃ serverEphPub auth,
          Accepted P A circuitId node ephemeral ciphers handshake key serverEphPub auth) ∧
        ciphers' ++ [CipherPair.new key] = joinHop ciphers (handshake, key) := by
  let payload := extendPayload (A.display node.address) (P.x25519Public ephemeral)
    node.tlsCertFingerprint
  let sent := Message.extend circuitId (applyLayers (forwardLayers P ciphers) payload).2
  have hwrap : wrapForward P ciphers payload = (advanceForwardAll ciphers payload.length,
      (applyLayers (forwardLayers P ciphers) payload).2) :=
    Prod.ext (wrapForward_fst P ciphers payload) (wrapForward_snd P ciphers payload)
  have hunwrap : ∀ data, unwrapBackward P (advanceForwardAll ciphers payload.length) data =
      (advanceBackwardAll (advanceForwardAll ciphers payload.length) data.length,
        (applyLayers (backwardLayers P ciphers) data).2) := by
    intro data
    refine Prod.ext (unwrapBackward_fst ..) ?_
    rw [unwrapBackward_snd, backwardLayers_advanceForwardAll]
  have hsentLength : sent.data.length = payload.length := length_applyLayers ..
  have hrequest : joinRequest P A circuitId node (P.x25519Public ephemeral) ciphers = sent :=
    if_neg hne
  have hcommands : (if ciphers = [] then MessageCommand.created else .extended) = .extended :=
    if_neg hne
  have hpayload : extendPayload (A.display node.address) (P.x25519Public ephemeral)
      node.tlsCertFingerprint = payload := rfl
  cases hexchange : T.exchange stream (Message.extend circuitId
    (applyLayers (forwardLayers P ciphers) payload).2) with
  | mk next answer =>
    simp only [handshakeExtend, hpayload, hwrap, hexchange, hunwrap, bind_eq_ok, failIf_eq_ok,
      okOr_eq_ok, Answer.await_eq_ok, clientHandshake_eq_ok]
    constructor
    · rintro ⟨extended, rfl, -, hcommand, -, hlong, serverEphPub, hpub, auth, hauth, key', hkey,
        hreturn⟩
      cases hreturn
      refine ⟨⟨sent, extended⟩, hexchange, ⟨serverEphPub, auth, hrequest.symm, ?_,
        ntorFields_iff.mp ⟨hpub, hauth⟩, hkey⟩, ?_⟩
      · rw [hcommands]
        exact not_not.mp hcommand
      · rw [joinHop, hsentLength]
    · rintro ⟨handshake, hreply, ⟨serverEphPub, auth, hsent, hcommand, hfields, hkey⟩, hciphers⟩
      rw [hsent, hrequest, hexchange] at hreply
      obtain ⟨rfl, rfl⟩ := Prod.mk.inj hreply
      obtain ⟨hpub, hauth⟩ := ntorFields_iff.mpr hfields
      rw [hcommands] at hcommand
      refine ⟨handshake.reply, rfl, (), not_not.mpr hcommand, (), ?_, serverEphPub, hpub, auth,
        hauth, key, hkey, ?_⟩
      · obtain ⟨rest, hdata⟩ := hfields
        have hlength := congrArg List.length hdata
        simp only [List.length_append, List.Vector.toList_length] at hlength
        omega
      · have hsame : ciphers' = advanceBackwardAll (advanceForwardAll ciphers payload.length)
            handshake.reply.data.length := by
          rw [joinHop, hsent, hrequest, hsentLength] at hciphers
          exact List.append_cancel_right hciphers
        rw [hsame]
        rfl

/-! ## The build -/

/-- **The EXTEND loop**, from hop `k` on. -/
theorem extendLoop_eq_ok {ephemerals : Nat → ByteArr 32} {nodes : List NodeDescriptor} {k : Nat}
    {stream stream' : σ} {keys keys' : List SessionKey} {ciphers ciphers' : List CipherPair}
    (hne : ciphers ≠ []) :
    extendLoop P A T circuitId ephemerals k nodes stream keys ciphers =
        .ok (stream', keys', ciphers') ↔
      ∃ hops, T.Answers stream (hops.map Prod.fst) stream' ∧
        Telescoped P A circuitId ephemerals k nodes ciphers hops ∧
        keys' = keys ++ hops.map Prod.snd ∧ ciphers' = hops.foldl joinHop ciphers := by
  induction nodes generalizing k stream keys ciphers with
  | nil =>
    constructor
    · intro h
      cases h
      exact ⟨[], rfl, rfl, (List.append_nil _).symm, rfl⟩
    · rintro ⟨hops, hanswers, htelescoped, rfl, rfl⟩
      have hnil : hops = [] := htelescoped
      subst hnil
      have hsame : stream = stream' := hanswers
      rw [hsame, List.map_nil, List.append_nil]
      rfl
  | cons node nodes ih =>
    rw [extendLoop, bind_eq_ok]
    constructor
    · rintro ⟨⟨next, ciphers₁, key⟩, hextend, hloop⟩
      obtain ⟨handshake, hexchange, haccepted, hciphers⟩ := (handshakeExtend_eq_ok hne).mp hextend
      dsimp only at hloop
      rw [hciphers] at hloop
      obtain ⟨hops, hanswers, htelescoped, rfl, rfl⟩ :=
        (ih (List.append_ne_nil_of_right_ne_nil _ (List.cons_ne_nil _ _))).mp hloop
      refine ⟨(handshake, key) :: hops, ⟨next, hexchange, hanswers⟩, ⟨haccepted, htelescoped⟩, ?_,
        rfl⟩
      rw [List.append_assoc]
      rfl
    · rintro ⟨hops, hanswers, htelescoped, rfl, rfl⟩
      cases hops with
      | nil => exact htelescoped.elim
      | cons hop hops =>
        obtain ⟨next, hexchange, hanswers⟩ := hanswers
        obtain ⟨haccepted, htelescoped⟩ := htelescoped
        let ciphers₁ := advanceBackwardAll (advanceForwardAll ciphers hop.1.sent.data.length)
          hop.1.reply.data.length
        refine ⟨(next, ciphers₁, hop.2), (handshakeExtend_eq_ok hne).mpr
          ⟨hop.1, hexchange, haccepted, rfl⟩, ?_⟩
        refine (ih (List.append_ne_nil_of_right_ne_nil _ (List.cons_ne_nil _ _))).mpr
          ⟨hops, hanswers, htelescoped, ?_, rfl⟩
        rw [List.append_assoc]
        rfl

/-- A build, once the entry is connected to. -/
theorem build_connected {entry : NodeDescriptor} {nodes : List NodeDescriptor} {start stream : σ}
    {ephemerals : Nat → ByteArr 32} {circuit : Circuit}
    (hconnect : T.connect entry.address entry.tlsCertFingerprint = .ok start) :
    build P A T circuitId (entry :: nodes) ephemerals = .ok (circuit, stream) ↔
      3 ≤ (entry :: nodes).length ∧ ∃ next entryKey keys ciphers,
        handshakeCreate P T circuitId start entry (ephemerals 0) = .ok (next, entryKey) ∧
        extendLoop P A T circuitId ephemerals 1 nodes next [entryKey] [CipherPair.new entryKey] =
          .ok (stream, keys, ciphers) ∧
        circuit =
          { circuitId
            state := .ready
            onionKeys := OnionKeys.new keys ciphers
            streamSenders := ∅
            nextStreamId := 1 } := by
  simp only [build, bind_eq_ok, failIf_eq_ok, okOr_eq_ok, List.head?_cons, List.tail_cons,
    Option.some.injEq]
  constructor
  · rintro ⟨-, hlong, node, rfl, h⟩
    rw [hconnect] at h
    obtain ⟨_, ⟨⟩, h⟩ := bind_eq_ok.mp h
    obtain ⟨⟨next, entryKey⟩, hcreate, h⟩ := bind_eq_ok.mp h
    obtain ⟨⟨stream', keys, ciphers⟩, hloop, hreturn⟩ := bind_eq_ok.mp h
    cases hreturn
    exact ⟨Nat.le_of_not_lt hlong, next, entryKey, keys, ciphers, hcreate, hloop, rfl⟩
  · rintro ⟨hlong, next, entryKey, keys, ciphers, hcreate, hloop, rfl⟩
    refine ⟨(), Nat.not_lt.mpr hlong, entry, rfl, ?_⟩
    rw [hconnect]
    exact bind_eq_ok.mpr ⟨start, rfl, bind_eq_ok.mpr ⟨(next, entryKey), hcreate,
      bind_eq_ok.mpr ⟨(stream, keys, ciphers), hloop, rfl⟩⟩⟩

/-- The circuit a build leaves when these hops have joined. -/
def joinedCircuit (circuitId : CircuitId) (hops : List (Handshake × SessionKey)) : Circuit where
  circuitId := circuitId
  state := .ready
  onionKeys := OnionKeys.new (hops.map Prod.snd) (hops.foldl joinHop [])
  streamSenders := ∅
  nextStreamId := 1

/-- A build that succeeded was an exchange in which every node of the path joined. -/
theorem telescoped_of_build {path : List NodeDescriptor} {ephemerals : Nat → ByteArr 32}
    {circuit : Circuit} {stream : σ}
    (h : build P A T circuitId path ephemerals = .ok (circuit, stream)) :
    3 ≤ path.length ∧ ∃ entry ∈ path.head?, ∃ start hops,
      T.connect entry.address entry.tlsCertFingerprint = .ok start ∧
      T.Answers start (hops.map Prod.fst) stream ∧
      Telescoped P A circuitId ephemerals 0 path [] hops ∧
      circuit = joinedCircuit circuitId hops := by
  cases path with
  | nil => cases h
  | cons entry nodes =>
    cases hconnect : T.connect entry.address entry.tlsCertFingerprint with
    | error e =>
      simp only [build, bind_eq_ok, failIf_eq_ok, okOr_eq_ok, List.head?_cons,
        Option.some.injEq] at h
      obtain ⟨-, -, node, rfl, h⟩ := h
      rw [hconnect] at h
      cases h
    | ok start =>
      obtain ⟨hlong, next, entryKey, keys, ciphers, hcreate, hloop, rfl⟩ :=
        (build_connected hconnect).mp h
      obtain ⟨handshake, hexchange, haccepted⟩ := (handshakeCreate_eq_ok (A := A)).mp hcreate
      obtain ⟨hops, hanswers, htelescoped, rfl, rfl⟩ :=
        (extendLoop_eq_ok (List.cons_ne_nil _ _)).mp hloop
      exact ⟨hlong, entry, rfl, start, (handshake, entryKey) :: hops, hconnect,
        ⟨next, hexchange, hanswers⟩, ⟨haccepted, htelescoped⟩, rfl⟩

/-- **What makes a build succeed**, whatever the network: three nodes at least, a connection
to the first of them, and an exchange in which every node of the path joins, each asked under
the layers of the hops before it and answering with a tag that verifies under its public key.
The circuit is the one of the keys so accepted. -/
theorem build_eq_ok_iff (T : Transport σ) (circuitId : CircuitId) (path : List NodeDescriptor)
    (ephemerals : Nat → ByteArr 32) (circuit : Circuit) (stream : σ) :
    build P A T circuitId path ephemerals = .ok (circuit, stream) ↔
      3 ≤ path.length ∧ ∃ entry ∈ path.head?, ∃ start hops,
        T.connect entry.address entry.tlsCertFingerprint = .ok start ∧
        T.Answers start (hops.map Prod.fst) stream ∧
        Telescoped P A circuitId ephemerals 0 path [] hops ∧
        circuit = joinedCircuit circuitId hops := by
  refine ⟨telescoped_of_build, ?_⟩
  rintro ⟨hlong, entry, hentry, start, hops, hconnect, hanswers, htelescoped, rfl⟩
  obtain ⟨nodes, rfl⟩ : ∃ nodes, path = entry :: nodes := List.head?_eq_some_iff.mp hentry
  rw [build_connected hconnect]
  cases hops with
  | nil => exact htelescoped.elim
  | cons hop hops =>
    obtain ⟨next, hexchange, hanswers⟩ := hanswers
    obtain ⟨haccepted, htelescoped⟩ := htelescoped
    exact ⟨hlong, next, hop.2, _, _,
      (handshakeCreate_eq_ok (A := A)).mpr ⟨hop.1, hexchange, haccepted⟩,
      (extendLoop_eq_ok (List.cons_ne_nil _ _)).mpr ⟨hops, hanswers, htelescoped, rfl, rfl⟩, rfl⟩

/-! ## Whose keys they are -/

/-- One run of a relay's side of ntor, anywhere and for anyone. -/
structure ServerRun where
  staticSecret : ByteArr 32
  staticPublic : ByteArr 32
  clientPublic : ByteArr 32
  ephemeral : ByteArr 32

/-- What the run answers and keeps. -/
def ServerRun.result (P : Primitives) (run : ServerRun) : ByteArr 32 × ByteArr 32 × SessionKey :=
  ntorServer P run.staticSecret run.staticPublic run.clientPublic run.ephemeral

/-- The run was made for this client key by the holder of the node's public key, and ended in
this session key. -/
structure ServerRun.Serves (P : Primitives) (run : ServerRun) (node : NodeDescriptor)
    (clientPublic serverEphPub : ByteArr 32) (key : SessionKey) : Prop where
  staticPublic : run.staticPublic = node.publicKey.bytes
  clientPublic : run.clientPublic = clientPublic
  serverEphPub : (run.result P).1 = serverEphPub
  sessionKey : (run.result P).2.2 = key

/-- The transcripts of a handshake and of a server run, and their secret inputs: two of them
differ and have one HMAC. -/
def ServerRun.Forges (P : Primitives) (run : ServerRun) (node : NodeDescriptor)
    (ephemeral serverEphPub : ByteArr 32) : Prop :=
  let ours := clientSecretInput P ephemeral (P.x25519Public ephemeral) node.publicKey.bytes
    serverEphPub
  let theirs := serverSecretInput P run.staticSecret run.staticPublic run.clientPublic
    run.ephemeral
  Collides (P.hmacSha256 tMac)
      (authInput (P.hmacSha256 tVerify ours) node.publicKey.bytes serverEphPub
        (P.x25519Public ephemeral))
      (authInput (P.hmacSha256 tVerify theirs) run.staticPublic (P.x25519Public run.ephemeral)
        run.clientPublic) ∨
    Collides (P.hmacSha256 tVerify) ours theirs

/-- **An accepted tag that a server run computed** is that run's answer to this handshake. -/
theorem Accepted.serves_or_forges {node : NodeDescriptor} {ephemeral : ByteArr 32}
    {ciphers : List CipherPair} {handshake : Handshake} {key : SessionKey}
    {serverEphPub auth : ByteArr 32}
    (h : Accepted P A circuitId node ephemeral ciphers handshake key serverEphPub auth)
    (run : ServerRun) (htag : (run.result P).2.1 = auth) :
    run.Serves P node (P.x25519Public ephemeral) serverEphPub key ∨
      run.Forges P node ephemeral serverEphPub := by
  obtain ⟨hauth, rfl⟩ := (ntorClientFinishRaw_eq_ok P).mp h.verified
  have hframe : Function.Injective2 fun (verify : ByteArr 32)
      (parts : ByteArr 32 × ByteArr 32 × ByteArr 32) =>
      authInput verify parts.1 parts.2.1 parts.2.2 := by
    rintro v v' ⟨B, Y, X⟩ ⟨B', Y', X'⟩ heq
    obtain ⟨rfl, rfl, rfl, rfl⟩ := authInput_injective heq
    exact ⟨rfl, rfl⟩
  let ours := clientSecretInput P ephemeral (P.x25519Public ephemeral) node.publicKey.bytes
    serverEphPub
  let theirs := serverSecretInput P run.staticSecret run.staticPublic run.clientPublic
    run.ephemeral
  have htags : P.hmacSha256 tMac (authInput (P.hmacSha256 tVerify ours) node.publicKey.bytes
        serverEphPub (P.x25519Public ephemeral)) =
      P.hmacSha256 tMac (authInput (P.hmacSha256 tVerify theirs) run.staticPublic
        (P.x25519Public run.ephemeral) run.clientPublic) := hauth.symm.trans htag.symm
  rcases eq_or_collides_nested hframe (p := (node.publicKey.bytes, serverEphPub,
      P.x25519Public ephemeral)) (q := (run.staticPublic, P.x25519Public run.ephemeral,
      run.clientPublic)) htags with ⟨hsecrets, hparts⟩ | hcollides
  · obtain ⟨hstatic, hephemeral, hclient⟩ :
        node.publicKey.bytes = run.staticPublic ∧ serverEphPub = P.x25519Public run.ephemeral ∧
          P.x25519Public ephemeral = run.clientPublic := by
      simpa only [Prod.mk.injEq] using hparts
    refine .inl ⟨hstatic.symm, hclient.symm, hephemeral.symm, ?_⟩
    show expandKeySeed P (P.hmacSha256 tKey theirs) = expandKeySeed P (P.hmacSha256 tKey ours)
    rw [hsecrets]
  · exact .inr hcollides

/-- A cipher pair for every hop. -/
theorem length_foldl_joinHop (hops : List (Handshake × SessionKey)) (ciphers : List CipherPair) :
    (hops.foldl joinHop ciphers).length = ciphers.length + hops.length := by
  induction hops generalizing ciphers with
  | nil => rfl
  | cons hop hops ih =>
    have hone : (joinHop ciphers hop).length = ciphers.length + 1 := by
      simp [joinHop, advanceBackwardAll, advanceForwardAll]
    rw [List.foldl_cons, ih, hone, List.length_cons]
    omega

/-- Each hop was accepted under the ciphers of the hops before it. -/
theorem Telescoped.accepted {ephemerals : Nat → ByteArr 32} {nodes : List NodeDescriptor} {k : Nat}
    {ciphers : List CipherPair} {hops : List (Handshake × SessionKey)}
    (h : Telescoped P A circuitId ephemerals k nodes ciphers hops) :
    hops.length = nodes.length ∧ ∀ i node hop, nodes[i]? = some node → hops[i]? = some hop →
      ∃ serverEphPub auth, Accepted P A circuitId node (ephemerals (k + i))
        ((hops.take i).foldl joinHop ciphers) hop.1 hop.2 serverEphPub auth := by
  induction nodes generalizing k ciphers hops with
  | nil =>
    have hnil : hops = [] := h
    subst hnil
    exact ⟨rfl, fun i node hop hnode => by cases hnode⟩
  | cons node nodes ih =>
    cases hops with
    | nil => exact h.elim
    | cons hop hops =>
      obtain ⟨haccepted, hrest⟩ := h
      obtain ⟨hlen, hbehind⟩ := ih hrest
      refine ⟨congrArg Nat.succ hlen, fun i node' hop' hnode hhop => ?_⟩
      cases i with
      | zero =>
        cases hnode
        cases hhop
        exact haccepted
      | succ i =>
        obtain ⟨serverEphPub, auth, hi⟩ := hbehind i node' hop' hnode hhop
        rw [show k + 1 + i = k + (i + 1) by omega] at hi
        exact ⟨serverEphPub, auth, hi⟩

/-- Each key of hops that joined was accepted from its node, and a relay's run behind its tag
was made for it. -/
theorem Telescoped.authenticated {ephemerals : Nat → ByteArr 32} {path : List NodeDescriptor}
    {hops : List (Handshake × SessionKey)}
    (h : Telescoped P A circuitId ephemerals 0 path [] hops) {k : Nat} {node : NodeDescriptor}
    {key : SessionKey} (hnode : path[k]? = some node) (hkey : (hops.map Prod.snd)[k]? = some key) :
    ∃ ciphers handshake serverEphPub auth, (hops.map Prod.fst)[k]? = some handshake ∧
      ciphers.length = k ∧
      Accepted P A circuitId node (ephemerals k) ciphers handshake key serverEphPub auth ∧
      ∀ run : ServerRun, (run.result P).2.1 = auth →
        run.Serves P node (P.x25519Public (ephemerals k)) serverEphPub key ∨
          run.Forges P node (ephemerals k) serverEphPub := by
  obtain ⟨-, haccepted⟩ := h.accepted
  rw [List.getElem?_map] at hkey
  obtain ⟨hop, hhop, rfl⟩ := Option.map_eq_some_iff.mp hkey
  obtain ⟨serverEphPub, auth, hk⟩ := haccepted k node hop hnode hhop
  rw [Nat.zero_add] at hk
  refine ⟨_, hop.1, serverEphPub, auth, ?_, ?_, hk, hk.serves_or_forges⟩
  · rw [List.getElem?_map, hhop]
    rfl
  · rw [length_foldl_joinHop,
      List.length_take_of_le (Nat.le_of_lt (List.getElem?_eq_some_iff.mp hhop).1)]
    exact Nat.zero_add k

/-- **A circuit's keys are its path's**, whoever carried the messages: the `k`-th key was
accepted in the `k`-th exchange of the build, under a tag that verifies with the public key of
the path's `k`-th node; and a relay's run that computed this tag was made with that public
key, for the client's `k`-th ephemeral key, and ended in the same session key, unless two
inputs of HMAC at hand collide. -/
theorem build_authenticated {path : List NodeDescriptor} {ephemerals : Nat → ByteArr 32}
    {circuit : Circuit} {stream : σ}
    (h : build P A T circuitId path ephemerals = .ok (circuit, stream)) :
    circuit.onionKeys.sessionKeys.length = path.length ∧
      ∃ start log, T.Answers start log stream ∧ log.length = path.length ∧
        ∀ k node key, path[k]? = some node → circuit.onionKeys.sessionKeys[k]? = some key →
          ∃ ciphers handshake serverEphPub auth, log[k]? = some handshake ∧
            ciphers.length = k ∧
            Accepted P A circuitId node (ephemerals k) ciphers handshake key serverEphPub auth ∧
            ∀ run : ServerRun, (run.result P).2.1 = auth →
              run.Serves P node (P.x25519Public (ephemerals k)) serverEphPub key ∨
                run.Forges P node (ephemerals k) serverEphPub := by
  obtain ⟨-, -, -, start, hops, -, hanswers, htelescoped, rfl⟩ := telescoped_of_build h
  have hlen := htelescoped.accepted.1
  exact ⟨(List.length_map _).trans hlen, start, hops.map Prod.fst, hanswers,
    (List.length_map _).trans hlen, fun k node key hnode hkey =>
      htelescoped.authenticated hnode hkey⟩

theorem sample_build_authenticated :
    ∃ circuit net, build .sample .ipv4 (Network.transport .sample .ipv4 ⟨samplePath, []⟩
        fun _ => 0) 1 (samplePath.map Host.descriptor) (fun _ => sampleSecret 200) =
        .ok (circuit, net) ∧
      circuit.onionKeys.sessionKeys.length = 3 := by
  obtain ⟨keys, net, -, -, hbuild, -⟩ := @HonestPath.build_split .sample .ipv4 1 samplePath
    samplePath_honestPath sample_x25519_comm (fun _ => 0) fun _ => sampleSecret 200
  exact ⟨_, net, hbuild, (build_authenticated hbuild).1⟩

end MiniTor
