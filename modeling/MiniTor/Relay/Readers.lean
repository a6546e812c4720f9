import MiniTor.Common.Addr
import MiniTor.Relay.Isolation

/-!
# Next-hop readers

The task `spawn_nexthop_reader` starts for a circuit keeps the circuit's id and its
previous hop's connection, but hands what it reads to the registry, which goes by
the id the next hop wrote into the cell. `ServingRelay` is a relay with its readers; a
circuit is an id together with the CREATE that made it, since a later CREATE on the
id replaces the handler while the reader of the old one keeps running.

- `Isolated` is the property wanted of a reader's step: the circuits of others stay
  as they are, and what goes to the previous hop is under the reader's own layer.
- `isolated_iff`: a step has it exactly if its cell is one of the reader's own
  circuit, or meets no established circuit, or has no payload.
- `reader_reaches_other`: a next hop that writes another id moves that circuit's
  cipher.
-/

namespace MiniTor

open Theory

/-- A reader task: the circuit it was started for, by id and by the number of CREATEs the
id had seen. -/
structure Reader where
  circuitId : CircuitId
  generation : Nat
  running : Bool
  deriving DecidableEq

/-- A relay, how many CREATEs it has served for each id, and the readers it has started. -/
structure ServingRelay where
  relay : Relay
  generation : CircuitId → Nat
  readers : List Reader

/-- What can happen next at a relay. -/
inductive ServingEvent
  /-- The loop of a connection reads a cell. -/
  | cell (env : Env) (msg : Message)
  /-- A reader reads a cell from its next hop, or the end of the stream. -/
  | backward (index : Nat) (env : Env) (input : Option Message)

/-- The circuit an effect starts a reader for. -/
def Effect.spawned? : Effect → Option CircuitId
  | .spawnReader circuitId => some circuitId
  | _ => none

variable (P : Primitives) (A : AddrSyntax)

namespace ServingRelay

def new (nodeType : NodeType) (keypair : KeyPair) : ServingRelay :=
  { relay := Relay.new nodeType keypair, generation := fun _ => 0, readers := [] }

def step (s : ServingRelay) : ServingEvent → ServingRelay
  | .cell env msg =>
    let served := s.relay.onMessage P A env msg
    { relay := served.relay
      generation :=
        if msg.command = .create ∧ served.serving then
          Function.update s.generation msg.circuitId (s.generation msg.circuitId + 1)
        else s.generation
      readers := s.readers ++ (served.sent.filterMap Effect.spawned?).map fun circuitId =>
        { circuitId, generation := s.generation circuitId, running := true } }
  | .backward index env input =>
    match s.readers[index]? with
    | none => s
    | some reader =>
      if reader.running then
        let served := s.relay.readerStep P A env reader.circuitId input
        { s with
          relay := served.relay
          readers := s.readers.set index { reader with running := served.serving } }
      else s

/-- `circuitId` still names the circuit the reader was started for. -/
def IsOf (s : ServingRelay) (reader : Reader) (circuitId : CircuitId) : Prop :=
  circuitId = reader.circuitId ∧ s.generation circuitId = reader.generation

/-- The cell has no payload, or its payload is the one read under the backward layer of the
reader's circuit. -/
def SealedFor (s : ServingRelay) (reader : Reader) (env : Env) (input : Option Message)
    (cell : Bytes) : Prop :=
  ∃ m : Message, m.writeToStream env.prevHop = .ok cell ∧
    (m.data = [] ∨
      ∃ msg cipher, input = some msg ∧ s.IsOf reader reader.circuitId ∧
        s.relay.cipher? reader.circuitId = some cipher ∧ m = msg.wrap P cipher)

/-- A reader changes no circuit but its own, and encrypts under no other's layer. -/
def Isolated (s : ServingRelay) : ServingEvent → Prop
  | .cell _ _ => True
  | .backward index env input =>
    ∀ reader, s.readers[index]? = some reader → reader.running = true →
      let served := s.relay.readerStep P A env reader.circuitId input
      (∀ circuitId, ¬s.IsOf reader circuitId →
        served.relay.registry.getCircuit circuitId = s.relay.registry.getCircuit circuitId) ∧
      ∀ cell, .toPrevHop cell ∈ served.sent → s.SealedFor P reader env input cell

/-- What a reader reads is of its own circuit, or stops it, or meets no established circuit,
or is empty. -/
def KeepsToOwn (s : ServingRelay) : ServingEvent → Prop
  | .backward index _ (some msg) =>
    ∀ reader, s.readers[index]? = some reader → reader.running = true →
      (s.relay.nodeType = .entry ∧ msg.command = .destroy) ∨ s.IsOf reader msg.circuitId ∨
        s.relay.cipher? msg.circuitId = none ∨ msg.data = []
  | _ => True

end ServingRelay

variable {P A}

/-! ## What a reader's step does -/

namespace Relay

@[simp] theorem nodeType_spawnReader (r : Relay) (circuitId : CircuitId)
    (command : MessageCommand) : (r.spawnReader circuitId command).1.nodeType = r.nodeType := by
  unfold spawnReader
  split
  · split <;> rfl
  · rfl

@[simp] theorem nodeType_onMessage (r : Relay) (env : Env) (msg : Message) :
    (r.onMessage P A env msg).relay.nodeType = r.nodeType := by
  unfold onMessage
  split
  · unfold onCreate
    dsimp only
    split
    · split <;> rfl
    · rfl
    · rfl
  · unfold onCell
    dsimp only
    split
    · split
      · rfl
      · rw [nodeType_spawnReader, nodeType_countDestroyed]
        split <;> rfl
    · rw [nodeType_spawnReader, nodeType_countDestroyed]
      rfl
    · rfl

@[simp] theorem nodeType_readerStep (r : Relay) (env : Env) (circuitId : CircuitId)
    (input : Option Message) :
    (r.readerStep P A env circuitId input).relay.nodeType = r.nodeType := by
  unfold readerStep
  split
  · rfl
  · split
    · rfl
    · dsimp only
      split
      · rfl
      · rfl
      · split <;> rfl

/-- Tearing a circuit down sends at most a DESTROY. -/
theorem mem_tearDown {env : Env} {circuitId : CircuitId} {cell : Bytes}
    (h : .toPrevHop cell ∈ tearDown env circuitId) :
    (Message.destroy circuitId).writeToStream env.prevHop = .ok cell := by
  unfold tearDown at h
  split at h
  · rename_i written hwrite
    simp only [List.mem_cons, Effect.toPrevHop.injEq, reduceCtorEq, List.not_mem_nil,
      or_false] at h
    rw [h, hwrite]
  · simp at h

section Cell

variable {r : Relay} {env : Env} {circuitId : CircuitId} {msg : Message}

/-- A cell the reader hands to the registry leaves what the registry call leaves. -/
theorem registry_readerStep (h : ¬(r.nodeType = .entry ∧ msg.command = .destroy)) :
    (r.readerStep P A env circuitId (some msg)).relay.registry =
      (r.registry.handleBackwardMessage P A msg).handler := by
  rw [readerStep, if_neg h]
  dsimp only
  split
  · rfl
  · rfl
  · split <;> rfl

/-- The reader sends a DESTROY, or the registry's response. -/
theorem mem_sent_readerStep {cell : Bytes}
    (hquiet : (r.registry.handleBackwardMessage P A msg).sent = [])
    (h : .toPrevHop cell ∈ (r.readerStep P A env circuitId (some msg)).sent) :
    (Message.destroy circuitId).writeToStream env.prevHop = .ok cell ∨
      ∃ response, (r.registry.handleBackwardMessage P A msg).result = .ok (some response) ∧
        response.writeToStream env.prevHop = .ok cell := by
  unfold readerStep at h
  dsimp only at h
  split at h
  · exact .inl (mem_tearDown h)
  · split at h
    · exact .inl (mem_tearDown h)
    · rw [hquiet] at h
      exact absurd h List.not_mem_nil
    · rename_i response hresponse
      split at h
      · rw [hquiet, List.nil_append] at h
        exact .inl (mem_tearDown h)
      · rename_i written hwrite
        rw [hquiet, List.nil_append, List.mem_singleton] at h
        cases h
        exact .inr ⟨response, hresponse, hwrite⟩

/-- Without an established circuit under the cell's id nothing changes and nothing but a
DESTROY is sent. -/
theorem handleBackwardMessage_unkeyed (huniform : r.Uniform) (hrole : r.nodeType ≠ .exit)
    (hkey : r.cipher? msg.circuitId = none) :
    (∀ other, (r.registry.handleBackwardMessage P A msg).handler.getCircuit other =
      r.registry.getCircuit other) ∧
    (r.registry.handleBackwardMessage P A msg).sent = [] ∧
    ∃ e, (r.registry.handleBackwardMessage P A msg).result = .error e := by
  unfold CircuitRegistry.handleBackwardMessage
  split
  · rename_i handler hfound
    rw [cipher?, hfound, Option.bind_some] at hkey
    have hsame : ∃ e, handler.handleBackwardRelay P A msg = .fail handler [] e := by
      cases handler with
      | entry h =>
        have hnone : h.context.cipherPair = none := hkey
        rw [CircuitHandler.handleBackwardRelay, HopHandler.handleBackwardRelay, hnone]
        exact ⟨_, rfl⟩
      | middle h =>
        have hnone : h.context.cipherPair = none := hkey
        rw [CircuitHandler.handleBackwardRelay, HopHandler.handleBackwardRelay, hnone]
        exact ⟨_, rfl⟩
      | exit h => exact absurd (huniform _ _ hfound).symm hrole
    obtain ⟨e, hsame⟩ := hsame
    dsimp only
    rw [hsame]
    refine ⟨fun other => ?_, rfl, e, rfl⟩
    by_cases hid : other = msg.circuitId
    · rw [hid, hfound]
      exact CircuitRegistry.getCircuit_setCircuit_self hfound
    · exact CircuitRegistry.getCircuit_setCircuit_ne hid
  · exact ⟨fun _ => rfl, rfl, _, rfl⟩

/-- With one, its backward position moves by the payload, and the response is the cell under
its layer. -/
theorem handleBackwardMessage_keyed {cipher : CipherPair} (huniform : r.Uniform)
    (hrole : r.nodeType ≠ .exit) (hkey : r.cipher? msg.circuitId = some cipher) :
    ∃ handler h, r.registry.getCircuit msg.circuitId = some handler ∧ handler.hop? = some h ∧
      h.context.cipherPair = some cipher ∧
      r.registry.handleBackwardMessage P A msg =
        .ok (r.registry.setCircuit msg.circuitId
            (handler.withHop (h.advanceBackward cipher msg.data.length)))
          [] (some (msg.wrap P cipher)) := by
  obtain ⟨handler, hfound, hcipher⟩ := Option.bind_eq_some_iff.mp hkey
  have hhop : ∃ h, handler.hop? = some h ∧ h.context.cipherPair = some cipher := by
    cases handler with
    | entry h => exact ⟨h, rfl, hcipher⟩
    | middle h => exact ⟨h, rfl, hcipher⟩
    | exit h => exact absurd (huniform _ _ hfound).symm hrole
  obtain ⟨h, hhop, hcipher⟩ := hhop
  refine ⟨handler, h, hfound, hhop, hcipher, ?_⟩
  rw [CircuitRegistry.handleBackwardMessage, hfound]
  dsimp only
  rw [handleBackwardRelay_relayed hhop hcipher]
  rfl

/-- An empty payload moves no cipher. -/
theorem getCircuit_handleBackwardMessage_nil {cipher : CipherPair} (huniform : r.Uniform)
    (hrole : r.nodeType ≠ .exit) (hkey : r.cipher? msg.circuitId = some cipher)
    (hdata : msg.data = []) (other : CircuitId) :
    (r.registry.handleBackwardMessage P A msg).handler.getCircuit other =
      r.registry.getCircuit other := by
  obtain ⟨handler, h, hfound, hhop, hcipher, hcall⟩ :=
    handleBackwardMessage_keyed (P := P) (A := A) huniform hrole hkey
  have hstill : handler.withHop (h.advanceBackward cipher msg.data.length) = handler := by
    have hsame : h.advanceBackward cipher msg.data.length = h := by
      rw [hdata]
      show { h with context := { h.context with cipherPair := some cipher } } = h
      rw [← hcipher]
    rw [hsame]
    cases handler with
    | entry e => cases hhop; rfl
    | middle m => cases hhop; rfl
    | exit _ => rfl
  rw [hcall, hstill]
  by_cases hid : other = msg.circuitId
  · rw [hid, hfound]
    exact CircuitRegistry.getCircuit_setCircuit_self hfound
  · exact CircuitRegistry.getCircuit_setCircuit_ne hid

/-- A payload moves the cipher of the circuit the cell names. -/
theorem getCircuit_handleBackwardMessage_moves {cipher : CipherPair} (huniform : r.Uniform)
    (hrole : r.nodeType ≠ .exit) (hkey : r.cipher? msg.circuitId = some cipher)
    (hdata : msg.data ≠ []) :
    (r.registry.handleBackwardMessage P A msg).handler.getCircuit msg.circuitId ≠
      r.registry.getCircuit msg.circuitId := by
  obtain ⟨handler, h, hfound, hhop, hcipher, hcall⟩ :=
    handleBackwardMessage_keyed (P := P) (A := A) huniform hrole hkey
  rw [hcall, hfound]
  intro hsame
  have hset : (r.registry.setCircuit msg.circuitId
      (handler.withHop (h.advanceBackward cipher msg.data.length))).getCircuit msg.circuitId =
      some (handler.withHop (h.advanceBackward cipher msg.data.length)) :=
    CircuitRegistry.getCircuit_setCircuit_self hfound
  have hhandler := Option.some.inj (hset.symm.trans hsame)
  have hmoved : h.advanceBackward cipher msg.data.length = h := by
    have hcongr := congrArg CircuitHandler.hop? hhandler
    rw [CircuitHandler.hop?_withHop hhop, hhop] at hcongr
    exact Option.some.inj hcongr
  have hpair := congrArg (fun h => h.context.cipherPair) hmoved
  have hpos := congrArg (Option.map fun c : CipherPair => c.backward.pos) hpair
  rw [hcipher] at hpos
  -- a payload moves the keystream, so the handler is not what it was
  have hpos : cipher.backward.pos + msg.data.length = cipher.backward.pos := Option.some.inj hpos
  have hlen := List.length_pos_iff.mpr hdata
  omega

end Cell

end Relay

/-! ## Isolation -/

namespace ServingRelay

/-- What the steps keep: the roles of the handlers, and the relay's own. -/
structure Kept (nodeType : NodeType) (s : ServingRelay) : Prop where
  uniform : s.relay.Uniform
  nodeType : s.relay.nodeType = nodeType

theorem kept_step {nodeType : NodeType} {s : ServingRelay} (h : s.Kept nodeType)
    (e : ServingEvent) : (s.step P A e).Kept nodeType := by
  cases e with
  | cell env msg => exact ⟨h.uniform.onMessage env msg, (Relay.nodeType_onMessage ..).trans h.nodeType⟩
  | backward index env input =>
    unfold step
    dsimp only
    split
    · exact h
    · split
      · exact ⟨h.uniform.readerStep env _ input,
          (Relay.nodeType_readerStep ..).trans h.nodeType⟩
      · exact h

theorem kept_run {nodeType : NodeType} {s : ServingRelay} (h : s.Kept nodeType)
    (events : List ServingEvent) : (run (step P A) s events).Kept nodeType := by
  induction events generalizing s with
  | nil => exact h
  | cons e events ih => exact ih (kept_step h e)

theorem kept_new (nodeType : NodeType) (keypair : KeyPair) :
    (ServingRelay.new nodeType keypair).Kept nodeType :=
  ⟨SharedRelay.uniform_new nodeType keypair, rfl⟩

section Isolation

variable {s : ServingRelay} {reader : Reader} {env : Env} {msg : Message}

/-- A DESTROY is sealed for every reader. -/
theorem sealedFor_destroy {input : Option Message} {circuitId : CircuitId} {cell : Bytes}
    (h : (Message.destroy circuitId).writeToStream env.prevHop = .ok cell) :
    s.SealedFor P reader env input cell := ⟨_, h, .inl rfl⟩

/-- A cell of the reader's own circuit. -/
theorem isolated_own (hrole : s.relay.nodeType ≠ .exit) (huniform : s.relay.Uniform)
    (hdestroy : ¬(s.relay.nodeType = .entry ∧ msg.command = .destroy))
    (hown : s.IsOf reader msg.circuitId) :
    (∀ circuitId, ¬s.IsOf reader circuitId →
      (s.relay.readerStep P A env reader.circuitId (some msg)).relay.registry.getCircuit
        circuitId = s.relay.registry.getCircuit circuitId) ∧
    ∀ cell, .toPrevHop cell ∈ (s.relay.readerStep P A env reader.circuitId (some msg)).sent →
      s.SealedFor P reader env (some msg) cell := by
  constructor
  · intro circuitId hother
    rw [Relay.registry_readerStep hdestroy]
    refine CircuitRegistry.handleBackwardMessage_other P A ?_
    rintro rfl
    exact hother hown
  · intro cell hcell
    -- without a key the cell is refused and the circuit torn down; with one it is wrapped
    cases hkey : s.relay.cipher? msg.circuitId with
    | none =>
      obtain ⟨-, hquiet, e, herror⟩ :=
        Relay.handleBackwardMessage_unkeyed (P := P) (A := A) huniform hrole hkey
      rcases Relay.mem_sent_readerStep hquiet hcell with hsent | ⟨response, hresponse, -⟩
      · exact sealedFor_destroy hsent
      · rw [herror] at hresponse
        cases hresponse
    | some cipher =>
      obtain ⟨handler, h, -, -, -, hcall⟩ :=
        Relay.handleBackwardMessage_keyed (P := P) (A := A) huniform hrole hkey
      rcases Relay.mem_sent_readerStep (congrArg Outcome.sent hcall) hcell with
        hsent | ⟨response, hresponse, hwrite⟩
      · exact sealedFor_destroy hsent
      · rw [hcall] at hresponse
        cases hresponse
        obtain ⟨hid, hgen⟩ := hown
        rw [hid] at hkey hgen
        exact ⟨_, hwrite, .inr ⟨msg, cipher, rfl, ⟨rfl, hgen⟩, hkey, rfl⟩⟩

/-- A cell that meets no established circuit, or has no payload. -/
theorem isolated_still (hrole : s.relay.nodeType ≠ .exit) (huniform : s.relay.Uniform)
    (hdestroy : ¬(s.relay.nodeType = .entry ∧ msg.command = .destroy))
    (hstill : s.relay.cipher? msg.circuitId = none ∨ msg.data = []) :
    (∀ circuitId,
      (s.relay.readerStep P A env reader.circuitId (some msg)).relay.registry.getCircuit
        circuitId = s.relay.registry.getCircuit circuitId) ∧
    ∀ cell, .toPrevHop cell ∈ (s.relay.readerStep P A env reader.circuitId (some msg)).sent →
      s.SealedFor P reader env (some msg) cell := by
  rw [Relay.registry_readerStep hdestroy]
  cases hkey : s.relay.cipher? msg.circuitId with
  | none =>
    obtain ⟨hsame, hquiet, e, herror⟩ :=
      Relay.handleBackwardMessage_unkeyed (P := P) (A := A) huniform hrole hkey
    refine ⟨hsame, fun cell hcell => ?_⟩
    rcases Relay.mem_sent_readerStep hquiet hcell with hsent | ⟨response, hresponse, -⟩
    · exact sealedFor_destroy hsent
    · rw [herror] at hresponse
      cases hresponse
  | some cipher =>
    have hdata : msg.data = [] := by
      rcases hstill with hnone | hdata
      · rw [hkey] at hnone
        cases hnone
      · exact hdata
    refine ⟨Relay.getCircuit_handleBackwardMessage_nil huniform hrole hkey hdata,
      fun cell hcell => ?_⟩
    obtain ⟨handler, h, -, -, -, hcall⟩ :=
      Relay.handleBackwardMessage_keyed (P := P) (A := A) huniform hrole hkey
    rcases Relay.mem_sent_readerStep (congrArg Outcome.sent hcall) hcell with
      hsent | ⟨response, hresponse, hwrite⟩
    · exact sealedFor_destroy hsent
    · rw [hcall] at hresponse
      cases hresponse
      -- the layer over no bytes is no bytes
      have hempty : (msg.wrap P cipher).data = [] := by
        rw [← List.length_eq_zero_iff, Message.length_wrap, hdata]
        rfl
      exact ⟨_, hwrite, .inl hempty⟩

end Isolation

/-- **Exactly when a reader keeps to its circuit.** -/
theorem isolated_iff {s : ServingRelay} (huniform : s.relay.Uniform)
    (hrole : s.relay.nodeType ≠ .exit) (e : ServingEvent) :
    s.Isolated P A e ↔ s.KeepsToOwn e := by
  match e with
  | .cell env msg => exact Iff.rfl
  | .backward index env none =>
    refine ⟨fun _ => trivial, fun _ reader _ _ => ⟨fun _ _ => rfl, fun cell hcell => ?_⟩⟩
    exact sealedFor_destroy (Relay.mem_tearDown hcell)
  | .backward index env (some msg) =>
    constructor
    · intro hisolated reader hreader hrunning
      obtain ⟨hsame, -⟩ := hisolated reader hreader hrunning
      by_contra hcon
      obtain ⟨hdestroy, hown, hkeyed, hdata⟩ :
          ¬(s.relay.nodeType = .entry ∧ msg.command = .destroy) ∧
            ¬s.IsOf reader msg.circuitId ∧ ¬s.relay.cipher? msg.circuitId = none ∧
              ¬msg.data = [] := by
        simpa only [not_or] using hcon
      -- a cell of an established foreign circuit moves that circuit's cipher
      obtain ⟨cipher, hkey⟩ := Option.ne_none_iff_exists'.mp hkeyed
      refine Relay.getCircuit_handleBackwardMessage_moves (P := P) (A := A) huniform hrole hkey
        hdata ?_
      have hunchanged := hsame msg.circuitId hown
      rw [Relay.registry_readerStep hdestroy] at hunchanged
      exact hunchanged
    · intro hkeeps reader hreader hrunning
      by_cases hdestroy : s.relay.nodeType = .entry ∧ msg.command = .destroy
      · dsimp only
        rw [Relay.readerStep, if_pos hdestroy]
        exact ⟨fun _ _ => rfl, fun cell hcell => sealedFor_destroy (Relay.mem_tearDown hcell)⟩
      · rcases hkeeps reader hreader hrunning with h | hown | hstill
        · exact absurd h hdestroy
        · exact isolated_own hrole huniform hdestroy hown
        · obtain ⟨hsame, hsealed⟩ := isolated_still hrole huniform hdestroy hstill
          exact ⟨fun circuitId _ => hsame circuitId, hsealed⟩

/-- **Backward isolation**: the readers of an entry or a middle keep to their circuits
throughout a run exactly if every cell read does. -/
theorem readers_isolated_iff (nodeType : NodeType) (hrole : nodeType ≠ .exit)
    (keypair : KeyPair) (events : List ServingEvent) :
    EveryStep (step P A) (Isolated P A) (ServingRelay.new nodeType keypair) events ↔
      EveryStep (step P A) KeepsToOwn (ServingRelay.new nodeType keypair) events := by
  have hexact : ∀ (s : ServingRelay) (e : ServingEvent), s.Kept nodeType →
      (s.Isolated P A e ↔ s.KeepsToOwn e) := fun s e hs =>
    isolated_iff hs.uniform (by rw [hs.nodeType]; exact hrole) e
  constructor
  · exact EveryStep.of_invariant (fun _ e hs _ => kept_step hs e)
      (fun s e hs => (hexact s e hs).mp) (kept_new nodeType keypair)
  · exact EveryStep.of_invariant (fun _ e hs _ => kept_step hs e)
      (fun s e hs => (hexact s e hs).mpr) (kept_new nodeType keypair)

/-! ### A next hop that names another circuit -/

open SharedRelay

/-- The cipher pair of circuit 1 after its CREATE. -/
def crossingCipher : CipherPair :=
  CipherPair.new (sampleKeypair.ntorAnswer .sample (sampleSecret 2) (sampleSecret 3)).2

/-- A next hop that answers CREATE. -/
def answeringEnv : Env :=
  { sampleEnv with dial := fun _ _ _ => .reply (Message.created 1 (List.replicate 64 0)) }

/-- A middle serves circuits 1 and 2 and links circuit 1 to a next hop, which then sends a
cell of circuit 2. -/
def crossing : List ServingEvent :=
  [.cell sampleEnv (Message.create 1 (sampleSecret 2).toList),
    .cell sampleEnv (Message.create 2 (sampleSecret 4).toList),
    .cell answeringEnv ((Message.extend 1 (extendPayload "127.0.0.2:9001" (sampleSecret 5)
      "a1b2")).peel .sample crossingCipher),
    .backward 0 sampleEnv (some (Message.ofData 2 1 [1, 2, 3]))]

/-- Circuit 1 is linked, its reader runs, and circuit 2 has its keys. -/
theorem crossing_linked :
    let s := run (step .sample .ipv4) (ServingRelay.new .middle sampleKeypair) (crossing.take 3)
    (s.readers = [⟨1, 1, true⟩] ∧ s.generation 1 = 1) ∧
      (s.relay.cipher? 2).isNone = false := by
  decide +kernel

/-- The reader of circuit 1 moves the backward cipher of circuit 2. -/
theorem reader_reaches_other :
    ¬EveryStep (step .sample .ipv4) (Isolated .sample .ipv4)
      (ServingRelay.new .middle sampleKeypair) crossing := by
  rintro ⟨-, -, -, hisolated, -⟩
  obtain ⟨⟨hreaders, -⟩, hkeyed⟩ := crossing_linked
  have hkept : (run (step .sample .ipv4) (ServingRelay.new .middle sampleKeypair)
      (crossing.take 3)).Kept .middle := kept_run (kept_new _ _) _
  have hkeeps := (isolated_iff hkept.uniform (by rw [hkept.nodeType]; decide) _).mp hisolated
  rcases hkeeps ⟨1, 1, true⟩ (congrArg (·[0]?) hreaders) rfl with
    ⟨-, hcommand⟩ | ⟨hid, -⟩ | hnone | hdata
  · cases hcommand
  · exact absurd hid (by decide)
  · exact absurd (hkeyed.symm.trans (congrArg Option.isNone hnone)) (by decide)
  · cases hdata

/-- The same run up to the crossing cell, and then one of circuit 1. -/
theorem sample_readers_isolated :
    EveryStep (step .sample .ipv4) (Isolated .sample .ipv4)
      (ServingRelay.new .middle sampleKeypair)
      (crossing.take 3 ++ [.backward 0 sampleEnv (some (Message.ofData 1 1 [1, 2, 3]))]) := by
  refine (readers_isolated_iff .middle (by decide) sampleKeypair _).mpr
    ⟨trivial, trivial, trivial, ?_, trivial⟩
  obtain ⟨⟨hreaders, hgeneration⟩, -⟩ := crossing_linked
  intro reader hreader _
  have hfirst : [(⟨1, 1, true⟩ : Reader)][0]? = some reader := hreaders ▸ hreader
  cases hfirst
  exact .inr (.inl ⟨rfl, hgeneration⟩)

end ServingRelay

end MiniTor
