import MiniTor.Relay.Lifecycle
import MiniTor.Relay.Readers

/-!
# The bytes a relay reports (`relay-node/src/main.rs`, `entry.rs`, `middle.rs`)

A heartbeat reports `bytes_forwarded` and `bytes_received`. `handle_connection` counts a
forward cell where a handler returns a response to it, but the handlers of entry and
middle write the cell to the next hop themselves and return none. A reader writes a
backward cell and counts it in the same turn.

- `Effect.forwarded`, `Effect.relayed`: the payloads that go out.
- `AccountedRelay.Accurate`: a heartbeat reports what has gone out.
- `onMessage_forwards`, `readerStep_relays`: what goes out in one step, and what is
  counted of it.
- `heartbeats_accurate_iff`: heartbeats are accurate throughout a run exactly as long as
  nothing is forwarded, and the backward total is below 2^64.
- `forwarded_uncounted`: one DATA cell.
-/

namespace MiniTor

open Theory

/-- BEGIN, DATA and END. -/
def MessageCommand.ofStream : MessageCommand → Bool
  | begin | data | «end» => true
  | _ => false

/-- The payload length of a cell of one of the commands. -/
def cellPayload (commands : MessageCommand → Bool) (cell : Bytes) : Nat :=
  match Message.fromBytes cell with
  | .ok m => if commands m.command then m.data.length else 0
  | .error _ => 0

namespace Effect

/-- The BEGIN, DATA and END payload that goes to the next hop. -/
def forwarded : Effect → Nat
  | .toNextHop cell => cellPayload MessageCommand.ofStream cell
  | _ => 0

/-- The payload that goes to the previous hop. -/
def relayed : Effect → Nat
  | .toPrevHop cell => cellPayload (fun _ => true) cell
  | _ => 0

end Effect

def totalForwarded (sent : List Effect) : Nat := (sent.map Effect.forwarded).sum

def totalRelayed (sent : List Effect) : Nat := (sent.map Effect.relayed).sum

/-- `build_metrics`; what the relay's state does not have is passed in. -/
def Relay.buildMetrics (r : Relay) (connectionsAccepted uptimeSecs : UInt64)
    (eventSnapshot : List String) : NodeMetrics where
  connectionsAccepted := connectionsAccepted
  circuitsActive := r.registry.circuitCount.toUInt64
  circuitsCreated := r.metrics.circuitsCreated
  circuitsDestroyed := r.metrics.circuitsDestroyed
  bytesForwarded := r.metrics.bytesForwarded
  bytesReceived := r.metrics.bytesReceived
  streamsOpened := r.metrics.streamsOpened
  uptimeSecs := uptimeSecs
  eventSnapshot := eventSnapshot

namespace Relay

/-- The cell is a BEGIN, DATA or END of an established circuit that is linked to a next hop,
and the next hop takes it. -/
def Forwards (r : Relay) (env : Env) (msg : Message) : Prop :=
  msg.command.ofStream = true ∧ (r.cipher? msg.circuitId).isSome = true ∧
    (r.nextHop? msg.circuitId).isSome = true ∧ msg.data.length ≤ MAX_PAYLOAD_SIZE ∧
    env.nextHop.failure.isNone = true

/-- The cell does not stop its reader, is of an established circuit, and the previous hop
takes it. -/
def Relays (r : Relay) (env : Env) (msg : Message) : Prop :=
  ¬(r.nodeType = .entry ∧ msg.command = .destroy) ∧ (r.cipher? msg.circuitId).isSome = true ∧
    msg.data.length ≤ MAX_PAYLOAD_SIZE ∧ env.prevHop.failure.isNone = true

instance (r : Relay) (env : Env) (msg : Message) : Decidable (r.Forwards env msg) :=
  inferInstanceAs (Decidable (_ ∧ _ ∧ _ ∧ _ ∧ _))

instance (r : Relay) (env : Env) (msg : Message) : Decidable (r.Relays env msg) :=
  inferInstanceAs (Decidable (_ ∧ _ ∧ _ ∧ _))

def forwardedBytes (r : Relay) (env : Env) (msg : Message) : Nat :=
  if r.Forwards env msg then msg.data.length else 0

def relayedBytes (r : Relay) (env : Env) (msg : Message) : Nat :=
  if r.Relays env msg then msg.data.length else 0

end Relay

/-- A relay with its readers, and the payloads that have gone out. -/
structure AccountedRelay where
  serving : ServingRelay
  /-- In BEGIN, DATA and END cells written to next hops. -/
  forwarded : Nat
  /-- In the cells the readers wrote to previous hops. -/
  relayed : Nat

variable (P : Primitives) (A : AddrSyntax)

namespace ServingRelay

/-- What the loop of a connection does. -/
def loopSent (s : ServingRelay) : ServingEvent → List Effect
  | .cell env msg => (s.relay.onMessage P A env msg).sent
  | .backward _ _ _ => []

/-- What a reader does. -/
def readerSent (s : ServingRelay) : ServingEvent → List Effect
  | .cell _ _ => []
  | .backward index env input =>
    match s.readers[index]? with
    | none => []
    | some reader =>
      if reader.running then (s.relay.readerStep P A env reader.circuitId input).sent else []

end ServingRelay

namespace AccountedRelay

def new (nodeType : NodeType) (keypair : KeyPair) : AccountedRelay :=
  { serving := ServingRelay.new nodeType keypair, forwarded := 0, relayed := 0 }

def step (s : AccountedRelay) (e : ServingEvent) : AccountedRelay where
  serving := s.serving.step P A e
  forwarded := s.forwarded +
    totalForwarded (s.serving.loopSent P A e ++ s.serving.readerSent P A e)
  relayed := s.relayed + totalRelayed (s.serving.readerSent P A e)

/-- **A heartbeat reports what has gone out.** -/
def Accurate (s : AccountedRelay) : Prop :=
  ∀ connectionsAccepted uptimeSecs eventSnapshot,
    let body := s.serving.relay.buildMetrics connectionsAccepted uptimeSecs eventSnapshot
    body.bytesForwarded.toNat = s.forwarded ∧ body.bytesReceived.toNat = s.relayed

/-- A BEGIN, DATA or END that is forwarded has no payload, and what is relayed fits in the
counter. -/
def Countable (s : AccountedRelay) : ServingEvent → Prop
  | .cell env msg => s.serving.relay.Forwards env msg → msg.data = []
  | .backward _ _ none => True
  | .backward index env (some msg) =>
    ∀ reader, s.serving.readers[index]? = some reader → reader.running = true →
      s.serving.relay.Relays env msg → s.relayed + msg.data.length < 2 ^ 64

end AccountedRelay

variable {P A}

/-! ## Payloads -/

theorem cellPayload_toBytes {commands : MessageCommand → Bool} {padding : Nat → UInt8}
    {m : Message} (h : m.data.length ≤ MAX_PAYLOAD_SIZE) :
    cellPayload commands (m.toBytes padding) =
      if commands m.command then m.data.length else 0 := by
  rw [cellPayload, Message.fromBytes_toBytes_of_le h]

@[simp] theorem totalForwarded_nil : totalForwarded [] = 0 := rfl

@[simp] theorem totalForwarded_append (sent sent' : List Effect) :
    totalForwarded (sent ++ sent') = totalForwarded sent + totalForwarded sent' := by
  rw [totalForwarded, List.map_append, List.sum_append, totalForwarded, totalForwarded]

@[simp] theorem totalForwarded_singleton (e : Effect) : totalForwarded [e] = e.forwarded := by
  rw [totalForwarded, List.map_singleton, List.sum_singleton]

@[simp] theorem totalRelayed_nil : totalRelayed [] = 0 := rfl

@[simp] theorem totalRelayed_singleton (e : Effect) : totalRelayed [e] = e.relayed := by
  rw [totalRelayed, List.map_singleton, List.sum_singleton]

namespace Relay

/-- A DESTROY has no payload. -/
theorem tearDown_empty (env : Env) (circuitId : CircuitId) :
    totalForwarded (tearDown env circuitId) = 0 ∧ totalRelayed (tearDown env circuitId) = 0 := by
  unfold tearDown
  split
  · rename_i cell hwrite
    obtain ⟨hfits, -, rfl⟩ := Message.writeToStream_eq_ok.mp hwrite
    have hempty : cellPayload (fun _ => true)
        ((Message.destroy circuitId).toBytes env.prevHop.padding) = 0 := by
      rw [cellPayload_toBytes hfits]
      rfl
    simp only [totalForwarded, totalRelayed, List.map_cons, List.map_nil, List.sum_cons,
      List.sum_nil, Effect.forwarded, Effect.relayed, hempty, Nat.add_zero, and_self]
  · exact ⟨rfl, rfl⟩

end Relay

/-! ## Forward cells -/

/-- The call counts nothing, forwards `n` bytes, and returns a response to a CREATE, an EXTEND
or an EXTENDED only. -/
structure Outcome.Passes {σ : Type} (o : Outcome σ) (command : MessageCommand) (n : Nat) :
    Prop where
  uncounted : ∀ m : RelayMetrics, o.sent.foldl RelayMetrics.record m = m
  forwarded : totalForwarded o.sent = n
  answered : ∀ response, o.result = .ok (some response) →
    command = .create ∨ command = .extend ∨ command = .extended

namespace Outcome

variable {σ : Type} {command : MessageCommand}

theorem Passes.fail (h : σ) (e : Error) : (Outcome.fail h [] e).Passes command 0 where
  uncounted _ := rfl
  forwarded := rfl
  answered _ hr := nomatch hr

theorem Passes.none (h : σ) : (Outcome.ok h [] none).Passes command 0 where
  uncounted _ := rfl
  forwarded := rfl
  answered _ hr := nomatch hr

end Outcome

namespace HopHandler

variable {env : Env} {h : HopHandler} {msg : Message}

/-- The handler forwards the BEGIN, DATA or END. -/
def Forwards (env : Env) (h : HopHandler) (msg : Message) : Prop :=
  msg.command.ofStream = true ∧ h.context.cipherPair.isSome = true ∧
    h.nextHop.isSome = true ∧ msg.data.length ≤ MAX_PAYLOAD_SIZE ∧
    env.nextHop.failure.isNone = true

instance (env : Env) (h : HopHandler) (msg : Message) : Decidable (h.Forwards env msg) :=
  inferInstanceAs (Decidable (_ ∧ _ ∧ _ ∧ _ ∧ _))

def forwardedBytes (env : Env) (h : HopHandler) (msg : Message) : Nat :=
  if h.Forwards env msg then msg.data.length else 0

/-- Another command is not counted. -/
theorem forwardedBytes_other (hcommand : msg.command.ofStream = false) :
    h.forwardedBytes env msg = 0 := by
  refine if_neg ?_
  rintro ⟨hstream, -⟩
  rw [hcommand] at hstream
  cases hstream

/-- So it passes whatever the handler does, if that writes nothing to the next hop. -/
theorem passes_other {o : Outcome HopHandler} (hcommand : msg.command.ofStream = false)
    (ho : o.Passes msg.command 0) : o.Passes msg.command (h.forwardedBytes env msg) := by
  rw [forwardedBytes_other hcommand]
  exact ho

/-- The forward cell is peeled and written, or not, and no response is returned either way. -/
theorem handleRelay_passes (role : HopRole) :
    (h.handleRelay P role env msg).Passes msg.command (h.forwardedBytes env msg) := by
  unfold handleRelay
  cases hcipher : h.context.cipherPair with
  | none =>
    have hnone : h.forwardedBytes env msg = 0 := by
      refine if_neg fun hcon => ?_
      rw [Forwards, hcipher] at hcon
      exact Bool.noConfusion hcon.2.1
    rw [hnone]
    exact .fail ..
  | some cipher =>
    dsimp only
    rw [show (h.withCipher (cipher.applyForward P msg.data).1).nextHop = h.nextHop from rfl]
    cases hnext : h.nextHop with
    | none =>
      have hnone : h.forwardedBytes env msg = 0 := by
        refine if_neg fun hcon => ?_
        rw [Forwards, hnext] at hcon
        exact Bool.noConfusion hcon.2.2.1
      rw [hnone]
      exact .none ..
    | some hop =>
      dsimp only
      split
      · rename_i e hwrite
        have hnone : h.forwardedBytes env msg = 0 := by
          refine if_neg ?_
          rintro ⟨-, -, -, hfits, hworks⟩
          rw [← Message.length_peel P cipher msg] at hfits
          cases hwrite.symm.trans (Message.writeToStream_eq_ok.mpr ⟨hfits, hworks, rfl⟩)
        rw [hnone]
        exact .fail ..
      · rename_i cell hwrite
        have hwritten : (msg.peel P cipher).writeToStream env.nextHop = .ok cell := hwrite
        obtain ⟨hfits, hworks, rfl⟩ := Message.writeToStream_eq_ok.mp hwritten
        refine ⟨fun _ => rfl, ?_, fun _ hr => by cases hr⟩
        show totalForwarded [_] = _
        rw [totalForwarded_singleton, Effect.forwarded, cellPayload_toBytes hfits,
          Message.length_peel]
        rw [Message.length_peel] at hfits
        have hforwards : h.Forwards env msg ↔ msg.command.ofStream = true := by
          rw [Forwards, hcipher, hnext]
          exact and_iff_left ⟨rfl, rfl, hfits, hworks⟩
        exact (if_congr hforwards rfl rfl).symm

/-- CREATE writes nothing to a next hop. -/
theorem handleCreate_passes (hcommand : msg.command = .create) :
    (h.handleCreate P env msg).Passes msg.command 0 := by
  unfold handleCreate
  split
  · exact .fail ..
  · exact ⟨fun _ => rfl, rfl, fun _ _ => .inl hcommand⟩

/-- An EXTEND at the last hop dials. -/
theorem handleExtend_passes (role : HopRole) (hcommand : msg.command = .extend) :
    (h.handleExtend P A role env msg).Passes msg.command 0 := by
  unfold handleExtend
  split
  · exact .fail ..
  · dsimp only
    split
    · exact .fail ..
    · split
      · exact ⟨fun _ => rfl, rfl, fun _ hr => nomatch hr⟩
      · exact ⟨fun _ => rfl, rfl, fun _ _ => .inr (.inl hcommand)⟩

/-- EXTENDED comes back as it is. -/
theorem handleExtended_passes (hcommand : msg.command = .extended) :
    (h.handleExtended msg).Passes msg.command 0 := by
  unfold handleExtended
  split
  · exact .fail ..
  · exact ⟨fun _ => rfl, rfl, fun _ _ => .inr (.inr hcommand)⟩

/-- The commands that are passed on go through `handle_relay`, the others are not counted. -/
theorem handleMessageEntry_passes :
    (h.handleMessageEntry P A env msg).Passes msg.command (h.forwardedBytes env msg) := by
  unfold handleMessageEntry
  split
  · rename_i hcommand
    exact passes_other (by rw [hcommand]; rfl) (handleCreate_passes hcommand)
  · rename_i hcommand
    split
    · exact handleRelay_passes entryRole
    · exact passes_other (by rw [hcommand]; rfl) (handleExtend_passes entryRole hcommand)
  · exact handleRelay_passes entryRole
  · exact handleRelay_passes entryRole
  · exact handleRelay_passes entryRole
  · exact handleRelay_passes entryRole
  · rename_i hcommand
    exact passes_other (by rw [hcommand]; rfl) (.none ..)
  · rename_i hcommand
    exact passes_other (by rw [hcommand]; rfl) (.none ..)
  · rename_i hcommand
    exact passes_other (by rw [hcommand]; rfl) (.fail ..)
  · rename_i hcommand
    exact passes_other (by rw [hcommand]; rfl) (.fail ..)

theorem handleMessageMiddle_passes :
    (h.handleMessageMiddle P A env msg).Passes msg.command (h.forwardedBytes env msg) := by
  unfold handleMessageMiddle
  split
  · rename_i hcommand
    exact passes_other (by rw [hcommand]; rfl) (handleCreate_passes hcommand)
  · rename_i hcommand
    split
    · exact handleRelay_passes (middleRole A)
    · exact passes_other (by rw [hcommand]; rfl) (handleExtend_passes (middleRole A) hcommand)
  · rename_i hcommand
    exact passes_other (by rw [hcommand]; rfl) (handleExtended_passes hcommand)
  · exact handleRelay_passes (middleRole A)
  · exact handleRelay_passes (middleRole A)
  · exact handleRelay_passes (middleRole A)
  · exact handleRelay_passes (middleRole A)
  · rename_i hcommand
    exact passes_other (by rw [hcommand]; rfl) (.none ..)
  · rename_i hcommand
    exact passes_other (by rw [hcommand]; rfl) (.none ..)
  · rename_i hcommand
    exact passes_other (by rw [hcommand]; rfl) (.fail ..)

end HopHandler

/-- **What the registry does for a forward cell** at an entry or a middle. -/
theorem Relay.handleMessage_passes {r : Relay} (huniform : r.Uniform) (hrole : r.nodeType ≠ .exit)
    (env : Env) (msg : Message) :
    (r.registry.handleMessage P A env (some env.prevHop) msg).Passes msg.command
      (r.forwardedBytes env msg) := by
  unfold CircuitRegistry.handleMessage
  cases hfound : r.registry.getCircuit msg.circuitId with
  | some handler =>
    have hhop : ∀ h : HopHandler, handler.cipher? = h.context.cipherPair →
        handler.nextHop? = h.nextHop → r.forwardedBytes env msg = h.forwardedBytes env msg := by
      intro h hcipher hnext
      refine if_congr ?_ rfl rfl
      rw [Relay.Forwards, Relay.cipher?, Relay.nextHop?, hfound, Option.bind_some,
        Option.bind_some, hcipher, hnext, HopHandler.Forwards]
    cases handler with
    | entry h =>
      rw [hhop h rfl rfl]
      obtain ⟨huncounted, hforwarded, hanswered⟩ :=
        @HopHandler.handleMessageEntry_passes P A env h msg
      exact ⟨huncounted, hforwarded, hanswered⟩
    | middle h =>
      rw [hhop h rfl rfl]
      obtain ⟨huncounted, hforwarded, hanswered⟩ :=
        @HopHandler.handleMessageMiddle_passes P A env h msg
      exact ⟨huncounted, hforwarded, hanswered⟩
    | exit h => exact absurd (huniform _ _ hfound).symm hrole
  | none =>
    have hnone : r.forwardedBytes env msg = 0 := by
      refine if_neg fun hcon => ?_
      rw [Relay.Forwards, Relay.cipher?, hfound] at hcon
      exact Bool.noConfusion hcon.2.1
    rw [hnone]
    dsimp only
    split
    · exact .none ..
    · exact .fail ..

namespace Relay

/-- The counters a heartbeat takes the bytes from. -/
def byteCounts (r : Relay) : UInt64 × UInt64 := (r.metrics.bytesForwarded, r.metrics.bytesReceived)

@[simp] theorem byteCounts_countDestroyed (r : Relay) (command : MessageCommand) :
    (r.countDestroyed command).byteCounts = r.byteCounts := by
  unfold countDestroyed
  split <;> rfl

@[simp] theorem byteCounts_spawnReader (r : Relay) (circuitId : CircuitId)
    (command : MessageCommand) : (r.spawnReader circuitId command).1.byteCounts = r.byteCounts := by
  rw [byteCounts, metrics_spawnReader, byteCounts]

@[simp] theorem totalForwarded_spawnReader (r : Relay) (circuitId : CircuitId)
    (command : MessageCommand) : totalForwarded (r.spawnReader circuitId command).2 = 0 := by
  unfold spawnReader
  split
  · split <;> rfl
  · rfl

variable {r : Relay}

/-- **What goes out for a forward cell, and what is counted of it**: nothing. -/
theorem onMessage_forwards (huniform : r.Uniform) (hrole : r.nodeType ≠ .exit) (env : Env)
    (msg : Message) :
    totalForwarded (r.onMessage P A env msg).sent = r.forwardedBytes env msg ∧
      (r.onMessage P A env msg).relay.byteCounts = r.byteCounts := by
  unfold onMessage
  split
  · rename_i hcreate
    have hnone : r.forwardedBytes env msg = 0 := by
      refine if_neg ?_
      rintro ⟨hstream, -⟩
      rw [hcreate] at hstream
      cases hstream
    -- the handler is new, and CREATE writes to the previous hop only
    have hquiet : totalForwarded ((CircuitHandler.new r.nodeType msg.circuitId
        r.keypair).handleMessage P A env (some env.prevHop) msg).sent = 0 := by
      cases hnode : r.nodeType with
      | entry =>
        refine (HopHandler.handleMessageEntry_passes (P := P) (A := A)).forwarded.trans ?_
        exact HopHandler.forwardedBytes_other (by rw [hcreate]; rfl)
      | middle =>
        refine (HopHandler.handleMessageMiddle_passes (P := P) (A := A)).forwarded.trans ?_
        exact HopHandler.forwardedBytes_other (by rw [hcreate]; rfl)
      | exit => exact absurd hnode hrole
    rw [hnone]
    unfold onCreate
    dsimp only
    split
    · split
      · exact ⟨hquiet, rfl⟩
      · rw [totalForwarded_append, hquiet]
        exact ⟨rfl, rfl⟩
    · exact ⟨hquiet, rfl⟩
    · exact ⟨hquiet, rfl⟩
  · rename_i hcreate
    obtain ⟨huncounted, hforwarded, hanswered⟩ :=
      handleMessage_passes (P := P) (A := A) huniform hrole env msg
    have hafter : (r.after (r.registry.handleMessage P A env (some env.prevHop) msg)).byteCounts =
        r.byteCounts := by
      rw [byteCounts, after, huncounted, byteCounts]
    unfold onCell
    dsimp only
    split
    · rename_i response hresponse
      split
      · exact ⟨hforwarded, hafter⟩
      · -- the commands that are answered are the ones that are not counted
        have hanswer : msg.command = .extended ∨ msg.command = .extend ∨
            msg.command = .destroy := by
          rcases hanswered response hresponse with h | h | h
          · exact absurd h hcreate
          · exact .inr (.inl h)
          · exact .inl h
        rw [if_pos hanswer, totalForwarded_append, totalForwarded_append, hforwarded,
          totalForwarded_spawnReader, byteCounts_spawnReader, byteCounts_countDestroyed]
        exact ⟨rfl, hafter⟩
    · rw [totalForwarded_append, hforwarded, totalForwarded_spawnReader, byteCounts_spawnReader,
        byteCounts_countDestroyed]
      exact ⟨rfl, hafter⟩
    · exact ⟨hforwarded, hafter⟩

/-! ## Backward cells -/

/-- **What a reader sends, and what it counts of it.** -/
theorem readerStep_relays (huniform : r.Uniform) (hrole : r.nodeType ≠ .exit) (env : Env)
    (circuitId : CircuitId) (msg : Message) :
    let served := r.readerStep P A env circuitId (some msg)
    totalForwarded served.sent = 0 ∧ totalRelayed served.sent = r.relayedBytes env msg ∧
      served.relay.byteCounts = (r.metrics.bytesForwarded,
        r.metrics.bytesReceived + (r.relayedBytes env msg).toUInt64) := by
  obtain ⟨hforwarded, hrelayed⟩ := tearDown_empty env circuitId
  have hstill : r.byteCounts = (r.metrics.bytesForwarded,
      r.metrics.bytesReceived + (0 : Nat).toUInt64) :=
    congrArg (Prod.mk _) (UInt64.add_zero _).symm
  dsimp only
  rw [readerStep]
  by_cases hstops : r.nodeType = .entry ∧ msg.command = .destroy
  · have hnone : r.relayedBytes env msg = 0 := if_neg fun hcon => hcon.1 hstops
    rw [if_pos hstops, hnone]
    exact ⟨hforwarded, hrelayed, hstill⟩
  rw [if_neg hstops]
  cases hkey : r.cipher? msg.circuitId with
  | none =>
    have hnone : r.relayedBytes env msg = 0 := by
      refine if_neg fun hcon => ?_
      rw [Relays, hkey] at hcon
      exact Bool.noConfusion hcon.2.1
    obtain ⟨-, hquiet, e, herror⟩ :=
      handleBackwardMessage_unkeyed (P := P) (A := A) huniform hrole hkey
    have hafter : (r.after (r.registry.handleBackwardMessage P A msg)).byteCounts =
        r.byteCounts := by
      rw [byteCounts, after, hquiet]
      rfl
    dsimp only
    rw [herror, hnone]
    exact ⟨hforwarded, hrelayed, hafter.trans hstill⟩
  | some cipher =>
    obtain ⟨handler, h, -, -, -, hcall⟩ :=
      handleBackwardMessage_keyed (P := P) (A := A) huniform hrole hkey
    rw [hcall]
    dsimp only [Outcome.ok]
    cases hwrite : (msg.wrap P cipher).writeToStream env.prevHop with
    | error e =>
      have hnone : r.relayedBytes env msg = 0 := by
        refine if_neg ?_
        rintro ⟨-, -, hfits, hworks⟩
        rw [← Message.length_wrap P cipher msg] at hfits
        rw [Message.writeToStream_eq_ok.mpr ⟨hfits, hworks, rfl⟩] at hwrite
        cases hwrite
      rw [hnone]
      exact ⟨hforwarded, hrelayed, hstill⟩
    | ok cell =>
      obtain ⟨hfits, hworks, rfl⟩ := Message.writeToStream_eq_ok.mp hwrite
      have hpayload : cellPayload (fun _ => true) ((msg.wrap P cipher).toBytes
          env.prevHop.padding) = msg.data.length := by
        rw [cellPayload_toBytes hfits, if_pos rfl, Message.length_wrap]
      rw [Message.length_wrap] at hfits
      have hall : r.relayedBytes env msg = msg.data.length :=
        if_pos ⟨hstops, by rw [hkey]; rfl, hfits, hworks⟩
      rw [hall]
      exact ⟨rfl, (totalRelayed_singleton _).trans hpayload, rfl⟩

end Relay

/-! ## Runs -/

namespace AccountedRelay

/-- What the counters are in every state: nothing forwarded is counted, everything relayed is,
in 64 bits. -/
structure Metered (nodeType : NodeType) (s : AccountedRelay) : Prop where
  kept : s.serving.Kept nodeType
  bytesForwarded : s.serving.relay.metrics.bytesForwarded = 0
  bytesReceived : s.serving.relay.metrics.bytesReceived = s.relayed.toUInt64

/-- What a step forwards. -/
def forwardedBy (s : AccountedRelay) : ServingEvent → Nat
  | .cell env msg => s.serving.relay.forwardedBytes env msg
  | .backward _ _ _ => 0

/-- What a step relays. -/
def relayedBy (s : AccountedRelay) : ServingEvent → Nat
  | .cell _ _ => 0
  | .backward index env input =>
    match s.serving.readers[index]? with
    | none => 0
    | some reader =>
      if reader.running then (input.map (s.serving.relay.relayedBytes env)).getD 0 else 0

variable {nodeType : NodeType} {s : AccountedRelay}

/-- **One step**: what goes out, and what becomes of the counters. -/
theorem step_accounts (hrole : nodeType ≠ .exit) (h : s.serving.Kept nodeType)
    (e : ServingEvent) :
    (s.step P A e).forwarded = s.forwarded + s.forwardedBy e ∧
      (s.step P A e).relayed = s.relayed + s.relayedBy e ∧
      (s.step P A e).serving.relay.byteCounts = (s.serving.relay.metrics.bytesForwarded,
        s.serving.relay.metrics.bytesReceived + (s.relayedBy e).toUInt64) := by
  have hrole' : s.serving.relay.nodeType ≠ .exit := by
    rw [h.nodeType]
    exact hrole
  have hstill : s.serving.relay.byteCounts = (s.serving.relay.metrics.bytesForwarded,
      s.serving.relay.metrics.bytesReceived + (0 : Nat).toUInt64) :=
    congrArg (Prod.mk _) (UInt64.add_zero _).symm
  match e with
  | .cell env msg =>
    obtain ⟨hforwarded, hcounts⟩ :=
      Relay.onMessage_forwards (P := P) (A := A) h.uniform hrole' env msg
    refine ⟨?_, rfl, hcounts.trans hstill⟩
    show s.forwarded + totalForwarded (_ ++ []) = _
    rw [List.append_nil]
    exact congrArg _ hforwarded
  | .backward index env input =>
    unfold step ServingRelay.loopSent ServingRelay.readerSent ServingRelay.step forwardedBy
      relayedBy
    dsimp only
    rw [List.nil_append]
    cases s.serving.readers[index]? with
    | none => exact ⟨rfl, rfl, hstill⟩
    | some reader =>
      dsimp only
      cases reader.running with
      | false => exact ⟨rfl, rfl, hstill⟩
      | true =>
        simp only [if_true]
        cases input with
        | none =>
          obtain ⟨hforwarded, hrelayed⟩ := Relay.tearDown_empty env reader.circuitId
          exact ⟨congrArg _ hforwarded, congrArg _ hrelayed, hstill⟩
        | some msg =>
          obtain ⟨hforwarded, hrelayed, hcounts⟩ := Relay.readerStep_relays (P := P) (A := A)
            h.uniform hrole' env reader.circuitId msg
          exact ⟨congrArg _ hforwarded, congrArg _ hrelayed, hcounts⟩

/-- The counters are what they are, whatever happens. -/
theorem Metered.step (hrole : nodeType ≠ .exit) (h : s.Metered nodeType) (e : ServingEvent) :
    (s.step P A e).Metered nodeType := by
  obtain ⟨-, hrelayed, hcounts⟩ := step_accounts (P := P) (A := A) hrole h.kept e
  refine ⟨ServingRelay.kept_step h.kept e, ?_, ?_⟩
  · rw [← h.bytesForwarded]
    exact congrArg Prod.fst hcounts
  · have hreceived : (s.step P A e).serving.relay.metrics.bytesReceived =
        s.serving.relay.metrics.bytesReceived + (s.relayedBy e).toUInt64 :=
      congrArg Prod.snd hcounts
    rw [hreceived, hrelayed, h.bytesReceived]
    exact (UInt64.ofNat_add ..).symm

theorem metered_new (nodeType : NodeType) (keypair : KeyPair) :
    (new nodeType keypair).Metered nodeType :=
  ⟨ServingRelay.kept_new nodeType keypair, rfl, rfl⟩

theorem Accurate.bytesForwarded (h : s.Accurate) :
    s.serving.relay.metrics.bytesForwarded.toNat = s.forwarded := (h 0 0 []).1

/-- A heartbeat is accurate while nothing was forwarded and the total relayed fits. -/
theorem Metered.accurate_iff (h : s.Metered nodeType) :
    s.Accurate ↔ s.forwarded = 0 ∧ s.relayed < 2 ^ 64 := by
  have hbody : s.Accurate ↔ (0 : UInt64).toNat = s.forwarded ∧
      s.relayed.toUInt64.toNat = s.relayed := by
    rw [← h.bytesForwarded, ← h.bytesReceived]
    exact ⟨fun hacc => hacc 0 0 [], fun hacc _ _ _ => hacc⟩
  have hwrap : s.relayed.toUInt64.toNat = s.relayed % 2 ^ 64 := UInt64.toNat_ofNat'
  rw [hbody, hwrap, UInt64.toNat_zero]
  omega

section Backward

variable {index : Nat} {env : Env} {reader : Reader}

theorem relayedBy_running (hreader : s.serving.readers[index]? = some reader)
    (hrunning : reader.running = true) (input : Option Message) :
    s.relayedBy (.backward index env input) =
      (input.map (s.serving.relay.relayedBytes env)).getD 0 := by
  simp only [relayedBy, hreader, if_pos hrunning]

/-- Without a running reader nothing is relayed. -/
theorem relayedBy_idle
    (hidle : ¬∃ reader, s.serving.readers[index]? = some reader ∧ reader.running = true)
    (input : Option Message) : s.relayedBy (.backward index env input) = 0 := by
  rw [relayedBy]
  split
  · rfl
  · rename_i reader hreader
    exact if_neg fun hrunning => hidle ⟨reader, hreader, hrunning⟩

/-- A backward cell is countable as long as the counter does not run over. -/
theorem countable_backward (hfits : s.relayed < 2 ^ 64) (input : Option Message) :
    s.Countable (.backward index env input) ↔
      s.relayed + s.relayedBy (.backward index env input) < 2 ^ 64 := by
  by_cases hread : ∃ reader, s.serving.readers[index]? = some reader ∧ reader.running = true
  · obtain ⟨reader, hreader, hrunning⟩ := hread
    rw [relayedBy_running hreader hrunning]
    cases input with
    | none => exact iff_of_true trivial hfits
    | some msg =>
      show _ ↔ s.relayed + (if s.serving.relay.Relays env msg then msg.data.length else 0) < _
      by_cases hrelays : s.serving.relay.Relays env msg
      · rw [if_pos hrelays]
        exact ⟨fun h => h reader hreader hrunning hrelays, fun h _ _ _ _ => h⟩
      · rw [if_neg hrelays]
        exact iff_of_true (fun _ _ _ hcon => absurd hcon hrelays) hfits
  · rw [relayedBy_idle hread]
    cases input with
    | none => exact iff_of_true trivial hfits
    | some msg =>
      exact iff_of_true (fun reader hreader hrunning => absurd ⟨reader, hreader, hrunning⟩ hread)
        hfits

end Backward

/-- Countable steps are the ones that forward nothing and do not fill the counter. -/
theorem countable_iff (hfits : s.relayed < 2 ^ 64) (e : ServingEvent) :
    s.Countable e ↔ s.forwardedBy e = 0 ∧ s.relayed + s.relayedBy e < 2 ^ 64 := by
  cases e with
  | cell env msg =>
    show (s.serving.relay.Forwards env msg → msg.data = []) ↔
      (if s.serving.relay.Forwards env msg then msg.data.length else 0) = 0 ∧ s.relayed + 0 < _
    by_cases hforwards : s.serving.relay.Forwards env msg
    · rw [if_pos hforwards, List.length_eq_zero_iff]
      exact ⟨fun h => ⟨h hforwards, hfits⟩, fun h _ => h.1⟩
    · rw [if_neg hforwards]
      exact iff_of_true (fun hcon => absurd hcon hforwards) ⟨rfl, hfits⟩
  | backward index env input =>
    exact (countable_backward hfits input).trans (and_iff_right rfl).symm

/-- **When heartbeats are accurate**: in every state of a run exactly if nothing with a payload
is forwarded, and the backward payloads fit in the counter. -/
theorem heartbeats_accurate_iff (nodeType : NodeType) (hrole : nodeType ≠ .exit)
    (keypair : KeyPair) (events : List ServingEvent) :
    EveryState (step P A) Accurate (new nodeType keypair) events ↔
      EveryStep (step P A) Countable (new nodeType keypair) events := by
  refine @everyState_iff _ _ (step P A) Countable
    (fun s => s.Metered nodeType ∧ s.forwarded = 0 ∧ s.relayed < 2 ^ 64) Accurate ?_ ?_ ?_ _ _
    ⟨metered_new nodeType keypair, rfl, Nat.two_pow_pos 64⟩
  · rintro s e ⟨hmetered, hnone, hfits⟩ hcountable
    obtain ⟨hforwarded, hrelayed, -⟩ := step_accounts (P := P) (A := A) hrole hmetered.kept e
    obtain ⟨hzero, hlt⟩ := (countable_iff hfits e).mp hcountable
    refine ⟨hmetered.step hrole e, ?_, ?_⟩
    · rw [hforwarded, hnone, hzero]
    · rw [hrelayed]
      exact hlt
  · rintro s ⟨hmetered, hnone, hfits⟩
    exact hmetered.accurate_iff.mpr ⟨hnone, hfits⟩
  · rintro s e ⟨hmetered, -, hfits⟩ haccurate
    obtain ⟨hforwarded, hrelayed, -⟩ := step_accounts (P := P) (A := A) hrole hmetered.kept e
    obtain ⟨hnone, hlt⟩ := (hmetered.step hrole e).accurate_iff.mp haccurate
    rw [hforwarded] at hnone
    rw [hrelayed] at hlt
    exact (countable_iff hfits e).mpr ⟨by omega, hlt⟩

/-! ### One DATA cell -/

open SharedRelay

/-- An entry links circuit 1 to a next hop. -/
def linking : List ServingEvent :=
  [.cell sampleEnv (Message.create 1 (sampleSecret 2).toList),
    .cell ServingRelay.answeringEnv ((Message.extend 1 (extendPayload "127.0.0.2:9001"
      (sampleSecret 5) "a1b2")).peel .sample ServingRelay.crossingCipher)]

/-- The next hop sends five bytes back. -/
theorem linking_received :
    EveryState (step .sample .ipv4) Accurate (new .entry sampleKeypair)
      (linking ++ [.backward 0 sampleEnv (some (Message.ofData 1 1 [1, 2, 3, 4, 5]))]) := by
  refine (heartbeats_accurate_iff .entry (by decide) sampleKeypair _).mpr
    ⟨(fun hcon => nomatch hcon.1), (fun hcon => nomatch hcon.1), fun _ _ _ _ => ?_, trivial⟩
  have hnone : (run (step .sample .ipv4) (new .entry sampleKeypair) linking).relayed = 0 := rfl
  show (run (step .sample .ipv4) (new .entry sampleKeypair) linking).relayed + 5 < 2 ^ 64
  rw [hnone]
  decide

theorem forwarding_counts :
    let s := run (step .sample .ipv4) (new .entry sampleKeypair)
      (linking ++ [.cell sampleEnv (Message.ofData 1 1 [1, 2, 3])])
    s.forwarded = 3 ∧ s.serving.relay.metrics.bytesForwarded = 0 := by
  decide +kernel

/-- **Three bytes are forwarded and none is reported.** -/
theorem forwarded_uncounted :
    ¬EveryState (step .sample .ipv4) Accurate (new .entry sampleKeypair)
      (linking ++ [.cell sampleEnv (Message.ofData 1 1 [1, 2, 3])]) := by
  intro haccurate
  obtain ⟨hforwarded, hcounted⟩ := forwarding_counts
  have hreported := haccurate.last.bytesForwarded
  rw [hforwarded, hcounted] at hreported
  exact absurd hreported (by decide)

end AccountedRelay

end MiniTor
