import MiniTor.Relay.Readers
import MiniTor.Theory.Lockstep

/-!
# What an entry or a middle learns

Two runs of a relay that is no exit, in which the cells have the same shape but other
payloads, other digests and other padding. Only what the relay is asked to read is the same
in both: the key of a CREATE, and the EXTEND of a circuit it has not linked yet.

- `Message.Alike`: the same header, a payload of the same length.
- `ServingEvent.Alike`: events whose cells are alike, and the same where the relay reads them
  (`Relay.Opens`).
- `oblivious`: the relay goes through the same states in both runs, its keys, counters,
  connections and readers included, and sends cells that are alike.
-/

namespace MiniTor

open Theory

/-- The same cell but for its payload, of which the length is the same, and its digest. -/
structure Message.Alike (m n : Message) : Prop where
  circuitId : m.circuitId = n.circuitId
  streamId : m.streamId = n.streamId
  command : m.command = n.command
  length : m.data.length = n.data.length

/-- A dial that ends the same way, its answer alike. -/
inductive DialResult.Alike : DialResult → DialResult → Prop
  | same (r : DialResult) : Alike r r
  | reply {m n : Message} (h : m.Alike n) : Alike (.reply m) (.reply n)

/-- The outside world answering alike; what a cell is padded with is left open. -/
structure Env.Alike (e f : Env) : Prop where
  ephemeral : e.ephemeral = f.ephemeral
  dial : ∀ addr fingerprint create,
    (e.dial addr fingerprint create).Alike (f.dial addr fingerprint create)
  nextHop : e.nextHop.failure = f.nextHop.failure
  prevHop : e.prevHop.failure = f.prevHop.failure

/-- The same bytes, or those of two cells that are alike. -/
inductive CellAlike : Bytes → Bytes → Prop
  | same (c : Bytes) : CellAlike c c
  | cells {m n : Message} (h : m.Alike n) (hfits : m.data.length ≤ MAX_PAYLOAD_SIZE)
    (p q : Nat → UInt8) : CellAlike (m.toBytes p) (n.toBytes q)

/-- The same effect, or a cell alike on the same side. -/
inductive Effect.Alike : Effect → Effect → Prop
  | same (e : Effect) : Alike e e
  | toNextHop {c d : Bytes} (h : CellAlike c d) : Alike (.toNextHop c) (.toNextHop d)
  | toPrevHop {c d : Bytes} (h : CellAlike c d) : Alike (.toPrevHop c) (.toPrevHop d)

/-- A call that leaves the same state behind and answers alike. -/
structure Outcome.Alike {σ : Type} (o p : Outcome σ) : Prop where
  handler : o.handler = p.handler
  sent : List.Forall₂ Effect.Alike o.sent p.sent
  result : SameResult (Option.Rel Message.Alike) o.result p.result

/-- A turn that leaves the same relay behind, sends alike, and goes on or not together. -/
structure Served.Alike (a b : Served) : Prop where
  relay : a.relay = b.relay
  sent : List.Forall₂ Effect.Alike a.sent b.sent
  serving : a.serving = b.serving

/-- The relay is no exit of the circuit. -/
def Relay.Blind (r : Relay) (circuitId : CircuitId) : Prop :=
  ∀ handler, r.registry.getCircuit circuitId = some handler → handler.role ≠ .exit

/-- The relay reads the payload: a CREATE, or an EXTEND of a circuit without a next hop. -/
def Relay.Opens (r : Relay) (msg : Message) : Prop :=
  msg.command = .create ∨ (msg.command = .extend ∧ r.nextHop? msg.circuitId = none)

namespace ServingRelay

/-- Two events that differ only in what the relay does not read. -/
inductive Alike (s : ServingRelay) : ServingEvent → ServingEvent → Prop
  | cell {e f : Env} {m n : Message} (henv : e.Alike f) (hmsg : m.Alike n)
    (hopens : s.relay.Opens m → m.data = n.data) : Alike s (.cell e m) (.cell f n)
  | backward (index : Nat) {e f : Env} {m n : Message} (henv : e.Alike f) (hmsg : m.Alike n) :
    Alike s (.backward index e (some m)) (.backward index f (some n))
  | closed (index : Nat) {e f : Env} (henv : e.Alike f) :
    Alike s (.backward index e none) (.backward index f none)

/-- What one turn of a loop does, and whether the loop goes on. -/
structure Turn where
  sent : List Effect
  serving : Bool

/-- The turn an event is, if its loop is running. -/
def turn (P : Primitives) (A : AddrSyntax) (s : ServingRelay) : ServingEvent → Option Turn
  | .cell env msg =>
    let served := s.relay.onMessage P A env msg
    some ⟨served.sent, served.serving⟩
  | .backward index env input =>
    (s.readers[index]?.filter fun reader => reader.running).map fun reader =>
      let served := s.relay.readerStep P A env reader.circuitId input
      ⟨served.sent, served.serving⟩

/-- Turns that look the same from outside but for what the cells carry. -/
structure Turn.Alike (t u : Turn) : Prop where
  sent : List.Forall₂ Effect.Alike t.sent u.sent
  serving : t.serving = u.serving

end ServingRelay

/-! ## Alike is what is left of a cell -/

theorem Message.Alike.refl (m : Message) : m.Alike m := ⟨rfl, rfl, rfl, rfl⟩

theorem Env.Alike.refl (e : Env) : e.Alike e := ⟨rfl, fun _ _ _ => .same _, rfl, rfl⟩

theorem ServingRelay.Alike.refl (s : ServingRelay) (e : ServingEvent) : s.Alike e e := by
  match e with
  | .cell env msg => exact .cell (Env.Alike.refl env) (Message.Alike.refl msg) fun _ => rfl
  | .backward index env none => exact .closed index (Env.Alike.refl env)
  | .backward index env (some msg) =>
    exact .backward index (Env.Alike.refl env) (Message.Alike.refl msg)

theorem effects_alike_refl (sent : List Effect) : List.Forall₂ Effect.Alike sent sent :=
  List.forall₂_same.mpr fun e _ => .same e

/-- The cells of messages alike are written alike, or fail in the same way. -/
theorem Message.Alike.writeToStream {m n : Message} (h : m.Alike n) {w v : Message.Writer}
    (hwriter : w.failure = v.failure) :
    SameResult CellAlike (m.writeToStream w) (n.writeToStream v) := by
  unfold Message.writeToStream
  rw [h.length, hwriter]
  by_cases hfits : n.data.length > MAX_PAYLOAD_SIZE
  · rw [failIf_pos hfits]
    exact .error _
  · rw [failIf_neg hfits]
    cases v.failure with
    | some e => exact .error _
    | none =>
      have hle : m.data.length ≤ MAX_PAYLOAD_SIZE := h.length ▸ Nat.not_lt.mp hfits
      exact .ok (.cells h hle w.padding v.padding)

/-- Cells alike are read as messages alike. -/
theorem CellAlike.fromBytes {c d : Bytes} (h : CellAlike c d) :
    SameResult Message.Alike (Message.fromBytes c) (Message.fromBytes d) := by
  cases h with
  | same => exact SameResult.refl Message.Alike.refl _
  | cells halike hfits p q =>
    rw [Message.fromBytes_toBytes_of_le hfits,
      Message.fromBytes_toBytes_of_le (halike.length ▸ hfits)]
    exact .ok halike

/-- Effects alike are counted the same. -/
theorem record_alike {sent other : List Effect} (h : List.Forall₂ Effect.Alike sent other)
    (metrics : RelayMetrics) :
    sent.foldl RelayMetrics.record metrics = other.foldl RelayMetrics.record metrics := by
  induction h generalizing metrics with
  | nil => rfl
  | cons hfirst _ ih =>
    rw [List.foldl_cons, List.foldl_cons, ih]
    cases hfirst with
    | same e => rfl
    | toNextHop _ => rfl
    | toPrevHop _ => rfl

/-- Effects alike start the same readers. -/
theorem spawned_alike {sent other : List Effect} (h : List.Forall₂ Effect.Alike sent other) :
    sent.filterMap Effect.spawned? = other.filterMap Effect.spawned? := by
  rw [← List.forall₂_eq_eq_eq]
  refine List.rel_filterMap (fun e _ he => ?_) h
  cases he with
  | same =>
    cases e.spawned? with
    | none => exact .none
    | some circuitId => exact .some rfl
  | toNextHop _ => exact .none
  | toPrevHop _ => exact .none

namespace Outcome.Alike

theorem refl {σ : Type} (o : Outcome σ) : o.Alike o :=
  ⟨rfl, effects_alike_refl o.sent, SameResult.refl (fun r => by
    cases r with
    | none => exact .none
    | some m => exact .some (Message.Alike.refl m)) o.result⟩

/-- The same change of the handler on both sides. -/
theorem map {σ τ : Type} {o p : Outcome σ} (h : o.Alike p) (f : σ → τ) :
    (Outcome.mk (f o.handler) o.sent o.result).Alike
      (Outcome.mk (f p.handler) p.sent p.result) :=
  ⟨congrArg f h.handler, h.sent, h.result⟩

end Outcome.Alike

/-! ## The handlers -/

section Handlers

variable {P : Primitives} {A : AddrSyntax} {e f : Env} {m n : Message}

/-- A cipher moves by the length alone. -/
theorem CipherPair.applyForward_length (cipher : CipherPair) {data other : Bytes}
    (h : data.length = other.length) :
    (cipher.applyForward P data).1 = (cipher.applyForward P other).1 := by
  show { cipher with forward := cipher.forward.advance data.length } =
    { cipher with forward := cipher.forward.advance other.length }
  rw [h]

theorem CipherPair.applyBackward_length (cipher : CipherPair) {data other : Bytes}
    (h : data.length = other.length) :
    (cipher.applyBackward P data).1 = (cipher.applyBackward P other).1 := by
  show { cipher with backward := cipher.backward.advance data.length } =
    { cipher with backward := cipher.backward.advance other.length }
  rw [h]

namespace HopHandler

/-- Relaying a cell goes by its header and length. -/
theorem handleRelay_alike (role : HopRole) (h : HopHandler) (henv : e.Alike f)
    (hmsg : m.Alike n) :
    (h.handleRelay P role e m).Alike (h.handleRelay P role f n) := by
  unfold handleRelay
  cases h.context.cipherPair with
  | none => exact Outcome.Alike.refl _
  | some cipher =>
    dsimp only
    rw [cipher.applyForward_length hmsg.length]
    split
    · exact ⟨rfl, .nil, .ok .none⟩
    · -- the cell passed on has the header and the length of the one read
      have hpeeled : Message.Alike
          { Message.new m.circuitId m.streamId m.command (cipher.applyForward P m.data).2 with
            digest := m.digest }
          { Message.new n.circuitId n.streamId n.command (cipher.applyForward P n.data).2 with
            digest := n.digest } :=
        ⟨hmsg.circuitId, hmsg.streamId, hmsg.command, by
          show (cipher.applyForward P m.data).2.length = (cipher.applyForward P n.data).2.length
          rw [CipherPair.length_applyForward, CipherPair.length_applyForward, hmsg.length]⟩
      generalize hleft : Message.writeToStream e.nextHop _ = left
      generalize hright : Message.writeToStream f.nextHop _ = right
      have hwritten : SameResult CellAlike left right := by
        rw [← hleft, ← hright]
        exact hpeeled.writeToStream henv.nextHop
      cases hwritten with
      | error e => exact Outcome.Alike.refl _
      | ok hcell => exact ⟨rfl, .cons (.toNextHop hcell) .nil, .ok .none⟩

/-- Wrapping a backward cell goes by its header and length. -/
theorem handleBackwardRelay_alike (role : HopRole) (h : HopHandler) (hmsg : m.Alike n) :
    (h.handleBackwardRelay P role m).Alike (h.handleBackwardRelay P role n) := by
  unfold handleBackwardRelay
  cases h.context.cipherPair with
  | none => exact Outcome.Alike.refl _
  | some cipher =>
    dsimp only
    rw [cipher.applyBackward_length hmsg.length]
    refine ⟨rfl, .nil, .ok (.some ⟨hmsg.circuitId, hmsg.streamId, hmsg.command, ?_⟩)⟩
    show (cipher.applyBackward P m.data).2.length = (cipher.applyBackward P n.data).2.length
    rw [CipherPair.length_applyBackward, CipherPair.length_applyBackward, hmsg.length]

/-- Waiting for CREATED looks at the command and the length of what comes. -/
theorem awaitCreated_alike (role : HopRole) (addrStr : String) (addr : SocketAddr)
    {d c : DialResult} (h : d.Alike c) :
    SameResult Message.Alike (role.awaitCreated addrStr addr d)
      (role.awaitCreated addrStr addr c) := by
  cases h with
  | same => exact SameResult.refl Message.Alike.refl _
  | reply hmsg =>
    unfold HopRole.awaitCreated
    dsimp only
    rw [hmsg.command, hmsg.length]
    split
    · exact .error _
    · cases role.createdTooShort with
      | none => exact .ok hmsg
      | some text =>
        dsimp only
        split
        · exact .error _
        · exact .ok hmsg

/-- EXTEND reads its payload; of the CREATED that comes back it sees the length. -/
theorem handleExtend_alike (role : HopRole) (h : HopHandler) (henv : e.Alike f)
    (hdata : m.data = n.data) :
    (h.handleExtend P A role e m).Alike (h.handleExtend P A role f n) := by
  unfold handleExtend
  rw [hdata]
  cases h.context.cipherPair with
  | none => exact Outcome.Alike.refl _
  | some cipher =>
    dsimp only
    split
    · exact Outcome.Alike.refl _
    · rename_i request _
      generalize hleft : HopRole.awaitCreated role request.addrStr request.addr (e.dial _ _ _) = left
      generalize hright :
        HopRole.awaitCreated role request.addrStr request.addr (f.dial _ _ _) = right
      have hcreated : SameResult Message.Alike left right := by
        rw [← hleft, ← hright]
        exact awaitCreated_alike role _ _ (henv.dial _ _ _)
      cases hcreated with
      | error e => exact Outcome.Alike.refl _
      | ok hanswer =>
        dsimp only
        rw [CipherPair.applyBackward_length _ hanswer.length]
        refine ⟨rfl, effects_alike_refl _, .ok (.some ⟨rfl, rfl, rfl, ?_⟩)⟩
        exact (CipherPair.length_applyBackward ..).trans
          (hanswer.length.trans (CipherPair.length_applyBackward ..).symm)

/-- CREATE reads its payload. -/
theorem handleCreate_alike (h : HopHandler) (henv : e.Alike f) (hdata : m.data = n.data) :
    (h.handleCreate P e m).Alike (h.handleCreate P f n) := by
  unfold handleCreate CircuitContext.ntorCreate
  rw [hdata, henv.ephemeral]
  exact Outcome.Alike.refl _

/-- The handler reads the payload. -/
def Opens (h : HopHandler) (msg : Message) : Prop :=
  msg.command = .create ∨ (msg.command = .extend ∧ h.nextHop = none)

theorem handleMessageEntry_alike (h : HopHandler) (henv : e.Alike f) (hmsg : m.Alike n)
    (hopens : h.Opens m → m.data = n.data) :
    (h.handleMessageEntry P A e m).Alike (h.handleMessageEntry P A f n) := by
  unfold handleMessageEntry
  rw [← hmsg.command]
  cases hc : m.command with
  | create => exact handleCreate_alike h henv (hopens (.inl hc))
  | extend =>
    dsimp only
    cases hnext : h.nextHop with
    | none => exact handleExtend_alike entryRole h henv (hopens (.inr ⟨hc, hnext⟩))
    | some hop => exact handleRelay_alike entryRole h henv hmsg
  | data => exact handleRelay_alike entryRole h henv hmsg
  | begin => exact handleRelay_alike entryRole h henv hmsg
  | «end» => exact handleRelay_alike entryRole h henv hmsg
  | connected => exact handleRelay_alike entryRole h henv hmsg
  | destroy => exact Outcome.Alike.refl _
  | padding => exact Outcome.Alike.refl _
  | created => exact Outcome.Alike.refl _
  | extended => exact Outcome.Alike.refl _

theorem handleMessageMiddle_alike (h : HopHandler) (henv : e.Alike f) (hmsg : m.Alike n)
    (hopens : h.Opens m → m.data = n.data) :
    (h.handleMessageMiddle P A e m).Alike (h.handleMessageMiddle P A f n) := by
  unfold handleMessageMiddle
  rw [← hmsg.command]
  cases hc : m.command with
  | create => exact handleCreate_alike h henv (hopens (.inl hc))
  | extend =>
    dsimp only
    cases hnext : h.nextHop with
    | none => exact handleExtend_alike (middleRole A) h henv (hopens (.inr ⟨hc, hnext⟩))
    | some hop => exact handleRelay_alike (middleRole A) h henv hmsg
  | extended =>
    -- EXTENDED is handed on as it is, once it is long enough
    dsimp only
    unfold handleExtended
    rw [hmsg.length]
    split
    · exact Outcome.Alike.refl _
    · exact ⟨rfl, .nil, .ok (.some hmsg)⟩
  | data => exact handleRelay_alike (middleRole A) h henv hmsg
  | begin => exact handleRelay_alike (middleRole A) h henv hmsg
  | «end» => exact handleRelay_alike (middleRole A) h henv hmsg
  | connected => exact handleRelay_alike (middleRole A) h henv hmsg
  | destroy => exact Outcome.Alike.refl _
  | padding => exact Outcome.Alike.refl _
  | created => exact Outcome.Alike.refl _

end HopHandler

namespace CircuitHandler

theorem handleMessage_alike {handler : CircuitHandler} (hrole : handler.role ≠ .exit)
    (henv : e.Alike f) (hmsg : m.Alike n)
    (hopens : m.command = .create ∨ (m.command = .extend ∧ handler.nextHop? = none) →
      m.data = n.data) :
    (handler.handleMessage P A e (some e.prevHop) m).Alike
      (handler.handleMessage P A f (some f.prevHop) n) := by
  cases handler with
  | entry h => exact (h.handleMessageEntry_alike henv hmsg hopens).map entry
  | middle h => exact (h.handleMessageMiddle_alike henv hmsg hopens).map middle
  | exit _ => exact absurd rfl hrole

theorem handleBackwardRelay_alike {handler : CircuitHandler} (hrole : handler.role ≠ .exit)
    (hmsg : m.Alike n) :
    (handler.handleBackwardRelay P A m).Alike (handler.handleBackwardRelay P A n) := by
  cases handler with
  | entry h => exact (h.handleBackwardRelay_alike entryRole hmsg).map entry
  | middle h => exact (h.handleBackwardRelay_alike (middleRole A) hmsg).map middle
  | exit _ => exact absurd rfl hrole

end CircuitHandler

/-! ## The relay -/

namespace Relay

variable {r : Relay}

theorem Blind.of_uniform (huniform : r.Uniform) (hrole : r.nodeType ≠ .exit)
    (circuitId : CircuitId) : r.Blind circuitId := by
  intro handler hfound
  rw [huniform _ _ hfound]
  exact hrole

theorem handleMessage_alike (hblind : r.Blind m.circuitId) (henv : e.Alike f) (hmsg : m.Alike n)
    (hopens : r.Opens m → m.data = n.data) :
    (r.registry.handleMessage P A e (some e.prevHop) m).Alike
      (r.registry.handleMessage P A f (some f.prevHop) n) := by
  unfold CircuitRegistry.handleMessage
  rw [← hmsg.circuitId, ← hmsg.command]
  cases hfound : r.registry.getCircuit m.circuitId with
  | none => exact Outcome.Alike.refl _
  | some handler =>
    have hreads : m.command = .create ∨ (m.command = .extend ∧ handler.nextHop? = none) →
        m.data = n.data := by
      intro h
      refine hopens (h.imp id fun h => ⟨h.1, ?_⟩)
      rw [nextHop?, hfound, Option.bind_some]
      exact h.2
    exact (CircuitHandler.handleMessage_alike (hblind handler hfound) henv hmsg hreads).map
      (r.registry.setCircuit m.circuitId)

theorem handleBackwardMessage_alike (hblind : r.Blind m.circuitId) (hmsg : m.Alike n) :
    (r.registry.handleBackwardMessage P A m).Alike
      (r.registry.handleBackwardMessage P A n) := by
  unfold CircuitRegistry.handleBackwardMessage
  rw [← hmsg.circuitId]
  cases hfound : r.registry.getCircuit m.circuitId with
  | none => exact Outcome.Alike.refl _
  | some handler =>
    exact (CircuitHandler.handleBackwardRelay_alike (hblind handler hfound) hmsg).map
      (r.registry.setCircuit m.circuitId)

/-- Both calls leave the registry and the counters the same. -/
theorem after_alike {o p : Outcome CircuitRegistry} (h : o.Alike p) : r.after o = r.after p := by
  unfold after
  rw [h.handler, record_alike h.sent]

theorem tearDown_alike (henv : e.Alike f) (circuitId : CircuitId) :
    List.Forall₂ Effect.Alike (tearDown e circuitId) (tearDown f circuitId) := by
  unfold tearDown
  have hwritten := (Message.Alike.refl (Message.destroy circuitId)).writeToStream henv.prevHop
  generalize Message.writeToStream e.prevHop _ = left at hwritten ⊢
  generalize Message.writeToStream f.prevHop _ = right at hwritten ⊢
  cases hwritten with
  | error _ => exact effects_alike_refl _
  | ok hcell => exact .cons (.toPrevHop hcell) (effects_alike_refl _)

theorem onCreate_alike (hrole : r.nodeType ≠ .exit) (henv : e.Alike f) (hmsg : m.Alike n)
    (hdata : m.data = n.data) :
    (r.onCreate P A e m).Alike (r.onCreate P A f n) := by
  have hnew : (CircuitHandler.new r.nodeType m.circuitId r.keypair).role ≠ .exit := by
    cases hc : r.nodeType with
    | entry => exact NodeType.noConfusion
    | middle => exact NodeType.noConfusion
    | exit => exact absurd hc hrole
  have hcall := CircuitHandler.handleMessage_alike (P := P) (A := A) hnew henv hmsg
    fun _ => hdata
  unfold onCreate
  dsimp only
  rw [← hmsg.circuitId]
  generalize CircuitHandler.handleMessage P A e _ _ m = o at hcall ⊢
  generalize CircuitHandler.handleMessage P A f _ _ n = p at hcall ⊢
  obtain ⟨handler, sent, result⟩ := o
  obtain ⟨handler', sent', result'⟩ := p
  obtain ⟨rfl, hsent, hresult⟩ := hcall
  dsimp only at hsent hresult ⊢
  cases hresult with
  | error _ => exact ⟨rfl, hsent, rfl⟩
  | ok hresponse =>
    cases hresponse with
    | none => exact ⟨rfl, hsent, rfl⟩
    | some hresponse =>
      dsimp only
      have hwritten := hresponse.writeToStream henv.prevHop
      generalize Message.writeToStream e.prevHop _ = left at hwritten ⊢
      generalize Message.writeToStream f.prevHop _ = right at hwritten ⊢
      cases hwritten with
      | error _ => exact ⟨rfl, hsent, rfl⟩
      | ok hcell => exact ⟨rfl, List.rel_append hsent (.cons (.toPrevHop hcell) .nil), rfl⟩

theorem onCell_alike (hblind : r.Blind m.circuitId) (henv : e.Alike f) (hmsg : m.Alike n)
    (hopens : r.Opens m → m.data = n.data) :
    (r.onCell P A e m).Alike (r.onCell P A f n) := by
  have hcall := handleMessage_alike (P := P) (A := A) hblind henv hmsg hopens
  unfold onCell
  dsimp only
  rw [← hmsg.circuitId, ← hmsg.command, after_alike hcall]
  generalize CircuitRegistry.handleMessage P A e _ _ m = o at hcall ⊢
  generalize CircuitRegistry.handleMessage P A f _ _ n = p at hcall ⊢
  obtain ⟨handler, sent, result⟩ := o
  obtain ⟨handler', sent', result'⟩ := p
  obtain ⟨rfl, hsent, hresult⟩ := hcall
  dsimp only at hsent hresult ⊢
  cases hresult with
  | error _ => exact ⟨rfl, hsent, rfl⟩
  | ok hresponse =>
    cases hresponse with
    | none => exact ⟨rfl, List.rel_append hsent (effects_alike_refl _), rfl⟩
    | some hresponse =>
      dsimp only
      -- the byte counter moves by the length of the response
      rw [hresponse.length]
      have hwritten := hresponse.writeToStream henv.prevHop
      generalize Message.writeToStream e.prevHop _ = left at hwritten ⊢
      generalize Message.writeToStream f.prevHop _ = right at hwritten ⊢
      cases hwritten with
      | error _ => exact ⟨rfl, hsent, rfl⟩
      | ok hcell =>
        exact ⟨rfl, List.rel_append (List.rel_append hsent (.cons (.toPrevHop hcell) .nil))
          (effects_alike_refl _), rfl⟩

theorem onMessage_alike (hblind : r.Blind m.circuitId)
    (hcreate : m.command = .create → r.nodeType ≠ .exit) (henv : e.Alike f) (hmsg : m.Alike n)
    (hopens : r.Opens m → m.data = n.data) :
    (r.onMessage P A e m).Alike (r.onMessage P A f n) := by
  unfold onMessage
  rw [← hmsg.command]
  split
  · rename_i hcommand
    exact onCreate_alike (hcreate hcommand) henv hmsg (hopens (.inl hcommand))
  · exact onCell_alike hblind henv hmsg hopens

theorem readerStep_alike (hblind : r.Blind m.circuitId) (henv : e.Alike f) (hmsg : m.Alike n)
    (circuitId : CircuitId) :
    (r.readerStep P A e circuitId (some m)).Alike (r.readerStep P A f circuitId (some n)) := by
  have hcall := handleBackwardMessage_alike (P := P) (A := A) hblind hmsg
  have hdown := tearDown_alike henv circuitId
  unfold readerStep
  dsimp only
  rw [← hmsg.command, ← hmsg.length, after_alike hcall]
  generalize CircuitRegistry.handleBackwardMessage P A _ m = o at hcall ⊢
  generalize CircuitRegistry.handleBackwardMessage P A _ n = p at hcall ⊢
  obtain ⟨handler, sent, result⟩ := o
  obtain ⟨handler', sent', result'⟩ := p
  obtain ⟨rfl, hsent, hresult⟩ := hcall
  dsimp only at hsent hresult ⊢
  split
  · exact ⟨rfl, hdown, rfl⟩
  · cases hresult with
    | error _ => exact ⟨rfl, hdown, rfl⟩
    | ok hresponse =>
      cases hresponse with
      | none => exact ⟨rfl, hsent, rfl⟩
      | some hresponse =>
        dsimp only
        have hwritten := hresponse.writeToStream henv.prevHop
        generalize Message.writeToStream e.prevHop _ = left at hwritten ⊢
        generalize Message.writeToStream f.prevHop _ = right at hwritten ⊢
        cases hwritten with
        | error _ => exact ⟨rfl, List.rel_append hsent hdown, rfl⟩
        | ok hcell => exact ⟨rfl, List.rel_append hsent (.cons (.toPrevHop hcell) .nil), rfl⟩

end Relay

end Handlers

/-! ## Runs -/

namespace ServingRelay

variable {P : Primitives} {A : AddrSyntax}

/-- Events alike leave one state behind, and are answered alike. -/
theorem step_alike {s : ServingRelay} (huniform : s.relay.Uniform)
    (hrole : s.relay.nodeType ≠ .exit) {d e : ServingEvent} (h : s.Alike d e) :
    s.step P A d = s.step P A e ∧
      List.Forall₂ Turn.Alike (s.turn P A d).toList (s.turn P A e).toList := by
  have hblind := Relay.Blind.of_uniform huniform hrole
  cases h with
  | cell henv hmsg hopens =>
    obtain ⟨hrelay, hsent, hserving⟩ :=
      Relay.onMessage_alike (P := P) (A := A) (hblind _) (fun _ => hrole) henv hmsg hopens
    refine ⟨?_, .cons ⟨hsent, hserving⟩ .nil⟩
    unfold step
    dsimp only
    rw [hrelay, spawned_alike hsent, hserving, hmsg.circuitId, hmsg.command]
  | backward index henv hmsg =>
    unfold step turn
    dsimp only
    cases s.readers[index]? with
    | none => exact ⟨rfl, .nil⟩
    | some reader =>
      obtain ⟨hrelay, hsent, hserving⟩ :=
        Relay.readerStep_alike (P := P) (A := A) (hblind _) henv hmsg reader.circuitId
      dsimp only
      rw [hrelay, hserving]
      refine ⟨rfl, ?_⟩
      rw [Option.filter_some]
      split
      · exact .cons ⟨hsent, hserving⟩ .nil
      · exact .nil
  | closed index henv =>
    unfold step turn
    dsimp only
    cases s.readers[index]? with
    | none => exact ⟨rfl, .nil⟩
    | some reader =>
      refine ⟨rfl, ?_⟩
      rw [Option.filter_some]
      split
      · exact .cons ⟨Relay.tearDown_alike henv reader.circuitId, rfl⟩ .nil
      · exact .nil

/-- **An entry or a middle learns nothing of what it relays**: over two runs alike it goes
through the same states, and every turn of its loops looks the same from outside. -/
theorem oblivious (nodeType : NodeType) (hrole : nodeType ≠ .exit) (keypair : KeyPair)
    (pairs : List (ServingEvent × ServingEvent))
    (halike : EveryStep (fun s e => step P A s e.1) (fun s e => s.Alike e.1 e.2)
      (ServingRelay.new nodeType keypair) pairs) :
    run (step P A) (ServingRelay.new nodeType keypair) (pairs.map Prod.fst) =
        run (step P A) (ServingRelay.new nodeType keypair) (pairs.map Prod.snd) ∧
      List.Forall₂ Turn.Alike
        (outputs (step P A) (fun s e => (s.turn P A e).toList)
          (ServingRelay.new nodeType keypair) (pairs.map Prod.fst))
        (outputs (step P A) (fun s e => (s.turn P A e).toList)
          (ServingRelay.new nodeType keypair) (pairs.map Prod.snd)) := by
  have hsame : ∀ (s : ServingRelay) (e : ServingEvent × ServingEvent), s.Kept nodeType →
      s.Alike e.1 e.2 → step P A s e.1 = step P A s e.2 ∧
        List.Forall₂ Turn.Alike (s.turn P A e.1).toList (s.turn P A e.2).toList :=
    fun s e hs hlike => step_alike hs.uniform (by rw [hs.nodeType]; exact hrole) hlike
  -- the two runs are in one state throughout
  have hstep : ∀ (s t : ServingRelay) (e : ServingEvent × ServingEvent),
      s.Kept nodeType ∧ s = t → s.Alike e.1 e.2 →
        (step P A s e.1).Kept nodeType ∧ step P A s e.1 = step P A t e.2 := by
    rintro s t e ⟨hs, rfl⟩ hlike
    exact ⟨kept_step hs e.1, (hsame s e hs hlike).1⟩
  have hturn : ∀ (s t : ServingRelay) (e : ServingEvent × ServingEvent),
      s.Kept nodeType ∧ s = t → s.Alike e.1 e.2 →
        List.Forall₂ Turn.Alike (s.turn P A e.1).toList (t.turn P A e.2).toList := by
    rintro s t e ⟨hs, rfl⟩ hlike
    exact (hsame s e hs hlike).2
  have hstart := kept_new nodeType keypair
  exact ⟨(halike.related hstep ⟨hstart, rfl⟩).2, halike.outputs_related hstep hturn ⟨hstart, rfl⟩⟩

open SharedRelay

/-- A circuit is linked, and a payload goes through it and back. -/
def sentThrough (data : Bytes) : List ServingEvent :=
  crossing.take 3 ++ [.cell answeringEnv (Message.ofData 1 1 data),
    .backward 0 answeringEnv (some (Message.ofData 1 1 data))]

/-- Two payloads, one state. -/
theorem crossing_oblivious :
    run (step .sample .ipv4) (ServingRelay.new .middle sampleKeypair) (sentThrough [1, 2, 3]) =
      run (step .sample .ipv4) (ServingRelay.new .middle sampleKeypair) (sentThrough [4, 5, 6]) := by
  have hdata : (Message.ofData 1 1 [1, 2, 3]).Alike (Message.ofData 1 1 [4, 5, 6]) :=
    ⟨rfl, rfl, rfl, rfl⟩
  have halike : ∀ s : ServingRelay, EveryStep (fun s e => step .sample .ipv4 s e.1)
      (fun s e => s.Alike e.1 e.2) s ((sentThrough [1, 2, 3]).zip (sentThrough [4, 5, 6])) := by
    have hsame := Alike.refl
    refine fun s => ⟨hsame _ _, hsame _ _, hsame _ _, .cell (Env.Alike.refl _) hdata ?_,
      .backward 0 (Env.Alike.refl _) hdata, trivial⟩
    rintro (h | ⟨h, -⟩)
    · exact MessageCommand.noConfusion h
    · exact MessageCommand.noConfusion h
  have hlength : (sentThrough [1, 2, 3]).length = (sentThrough [4, 5, 6]).length := rfl
  have hboth := (oblivious .middle NodeType.noConfusion sampleKeypair _ (halike _)).1
  rw [List.map_fst_zip hlength.le, List.map_snd_zip hlength.ge] at hboth
  exact hboth

end ServingRelay

end MiniTor
