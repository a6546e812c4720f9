import MiniTor.Relay.Books
import MiniTor.Relay.Isolation

/-!
# The life of a circuit at a relay

CREATE puts a circuit into the registry. Nothing takes it out again: a DESTROY closes
the handler and counts, and a connection that ends leaves its circuits behind.
`RelayLife` is a shared relay together with the history its registry should be
read against: every circuit created, by whom, and which were destroyed.

- `OnlyLive` is the property wanted of a state: the registry holds exactly the
  circuits that were created, not destroyed, and whose connection is still served.
- `Tracks` ties registry and counters to the history, in every run.
- `step_change`: what a step does to the books, and exactly when it is `Undisturbed`.
- `every_state_onlyLive_iff`: so over runs.
- `destroyed_circuit_stays`: one DESTROY is enough to break it.
-/

namespace MiniTor

open Theory

/-- What happens at a relay: its tasks read cells, and connections end, by end of stream or
by a read error. -/
inductive LifeEvent
  | relay (e : RelayEvent)
  | hangup (conn : ConnId)

/-- A relay and its history. A circuit is the number of the CREATE that made it. -/
structure RelayLife where
  shared : SharedRelay
  /-- The connection and the id of every CREATE served. -/
  created : List (ConnId × CircuitId)
  /-- The circuits of the DESTROYs served. -/
  destroyed : List Nat
  /-- The circuit whose handler is registered under an id. -/
  holder : CircuitId → Option Nat

/-- The registry has a circuit under the id. -/
def CircuitRegistry.has (r : CircuitRegistry) (circuitId : CircuitId) : Bool :=
  (r.getCircuit circuitId).isSome

variable (P : Primitives) (A : AddrSyntax)

namespace RelayLife

def new (nodeType : NodeType) (keypair : KeyPair) : RelayLife :=
  { shared := SharedRelay.new nodeType keypair, created := [], destroyed := []
    holder := fun _ => none }

/-- The history after a cell the loop of `conn` served. -/
def record (s : RelayLife) (conn : ConnId) (msg : Message) : RelayLife :=
  if msg.command = .create then
    { s with
      created := s.created ++ [(conn, msg.circuitId)]
      holder := Function.update s.holder msg.circuitId (some s.created.length) }
  else if msg.command = .destroy then
    { s with destroyed := s.destroyed ++ (s.holder msg.circuitId).toList }
  else s

/-- The connection is served, and goes on being served after this cell. -/
def Serves (s : RelayLife) (conn : ConnId) (env : Env) (msg : Message) : Prop :=
  s.shared.closed conn = false ∧ (s.shared.relay.onMessage P A env msg).serving = true

instance (s : RelayLife) (conn : ConnId) (env : Env) (msg : Message) :
    Decidable (s.Serves P A conn env msg) := inferInstanceAs (Decidable (_ ∧ _))

def step (s : RelayLife) : LifeEvent → RelayLife
  | .hangup conn =>
    { s with shared := { s.shared with closed := Function.update s.shared.closed conn true } }
  | .relay (.cell conn env msg) =>
    let s' := if s.Serves P A conn env msg then s.record conn msg else s
    { s' with shared := s.shared.step P A (.cell conn env msg) }
  | .relay e => { s with shared := s.shared.step P A e }

/-- The books of a state: what is registered and counted, and the history. -/
def books (s : RelayLife) : Books where
  has := s.shared.relay.registry.has
  circuitsCreated := s.shared.relay.metrics.circuitsCreated
  circuitsDestroyed := s.shared.relay.metrics.circuitsDestroyed
  created := s.created
  destroyed := s.destroyed
  holder := s.holder
  closed := s.shared.closed

/-- **The registry holds only live circuits**, and the counters agree. -/
structure OnlyLive (s : RelayLife) : Prop where
  registered : ∀ n, s.books.Registered n ↔ s.books.live n = true
  active : s.shared.relay.registry.circuitCount = s.books.liveCircuits.length
  /-- No circuit's DESTROY is counted twice. -/
  once : s.shared.relay.metrics.circuitsDestroyed = s.destroyed.length.toUInt64 ∧
    s.destroyed.Nodup
  destroyed_le :
    s.shared.relay.metrics.circuitsDestroyed ≤ s.shared.relay.metrics.circuitsCreated

/-- No CREATE on a registered id, no DESTROY of a registered circuit, and no end of a
connection that has live circuits. -/
def Undisturbed (s : RelayLife) : LifeEvent → Prop
  | .hangup conn => s.books.Idle conn
  | .relay (.cell conn env msg) =>
    s.shared.closed conn = false →
      (msg.command = .create → (s.shared.relay.onMessage P A env msg).serving = true →
        s.shared.relay.registry.has msg.circuitId = false) ∧
      (msg.command = .destroy → s.shared.relay.registry.has msg.circuitId = false) ∧
      ((s.shared.relay.onMessage P A env msg).serving = false → s.books.Idle conn)
  | .relay _ => True

end RelayLife

variable {P A}

/-! ## What a cell does to keys and counters -/

namespace RelayMetrics

/-- The exit's effects leave the circuit counters alone. -/
theorem circuits_record (sent : List Effect) (m : RelayMetrics) :
    (sent.foldl record m).circuitsCreated = m.circuitsCreated ∧
      (sent.foldl record m).circuitsDestroyed = m.circuitsDestroyed := by
  induction sent generalizing m with
  | nil => exact ⟨rfl, rfl⟩
  | cons e sent ih =>
    obtain ⟨hcreated, hdestroyed⟩ := ih (m.record e)
    rw [List.foldl_cons, hcreated, hdestroyed]
    cases e <;> exact ⟨rfl, rfl⟩

end RelayMetrics

/-- CREATE is answered or refused, never passed over. -/
theorem CircuitHandler.result_create_ne_none {h : CircuitHandler} {env : Env}
    {prev : Option Message.Writer} {msg : Message} (hcommand : msg.command = .create) :
    (h.handleMessage P A env prev msg).result ≠ .ok none := by
  have hhop : ∀ e : HopHandler, (e.handleCreate P env msg).result ≠ .ok none := by
    intro e
    unfold HopHandler.handleCreate
    split <;> exact fun h => by cases h
  cases h with
  | entry e =>
    show (e.handleMessageEntry P A env msg).result ≠ .ok none
    rw [HopHandler.handleMessageEntry, hcommand]
    exact hhop e
  | middle m =>
    show (m.handleMessageMiddle P A env msg).result ≠ .ok none
    rw [HopHandler.handleMessageMiddle, hcommand]
    exact hhop m
  | exit e =>
    show (e.handleMessage P env prev msg).result ≠ .ok none
    unfold ExitCircuitHandler.handleMessage
    rw [hcommand]
    show (e.handleCreate P env msg).result ≠ .ok none
    unfold ExitCircuitHandler.handleCreate
    split
    · exact fun h => by cases h
    · split <;> exact fun h => by cases h

/-- DESTROY is always taken. -/
theorem CircuitHandler.result_destroy {h : CircuitHandler} {env : Env}
    {prev : Option Message.Writer} {msg : Message} (hcommand : msg.command = .destroy) :
    (h.handleMessage P A env prev msg).result = .ok none := by
  cases h with
  | entry e =>
    show (e.handleMessageEntry P A env msg).result = .ok none
    rw [HopHandler.handleMessageEntry, hcommand]
    rfl
  | middle m =>
    show (m.handleMessageMiddle P A env msg).result = .ok none
    rw [HopHandler.handleMessageMiddle, hcommand]
    rfl
  | exit e =>
    show (e.handleMessage P env prev msg).result = .ok none
    unfold ExitCircuitHandler.handleMessage
    rw [hcommand]
    rfl

namespace CircuitRegistry

variable {r : CircuitRegistry}

@[simp] theorem has_setCircuit (circuitId other : CircuitId) (handler : CircuitHandler) :
    (r.setCircuit circuitId handler).has other = r.has other := by
  show ((r.circuits.modify circuitId fun _ => handler).lookup other).isSome = _
  rw [AList.lookup_modify]
  split
  · rw [Option.isSome_map]
    rfl
  · rfl

@[simp] theorem has_handleMessage (env : Env) (prev : Option Message.Writer) (msg : Message)
    (other : CircuitId) :
    (r.handleMessage P A env prev msg).handler.has other = r.has other := by
  unfold handleMessage
  split
  · exact has_setCircuit ..
  · split <;> rfl

@[simp] theorem has_handleBackwardMessage (msg : Message) (other : CircuitId) :
    (r.handleBackwardMessage P A msg).handler.has other = r.has other := by
  unfold handleBackwardMessage
  split
  · exact has_setCircuit ..
  · rfl

theorem has_iff {circuitId : CircuitId} :
    r.has circuitId = true ↔ circuitId ∈ r.circuits.entries.map Sigma.fst := by
  show (r.circuits.lookup circuitId).isSome = true ↔ circuitId ∈ r.circuits.keys
  rw [AList.lookup_isSome, AList.mem_keys]

end CircuitRegistry

namespace Relay

variable {r : Relay} {env : Env} {msg : Message}

@[simp] theorem has_spawnReader (circuitId other : CircuitId) (command : MessageCommand) :
    (r.spawnReader circuitId command).1.registry.has other = r.registry.has other := by
  unfold spawnReader
  split
  · split
    · exact CircuitRegistry.has_setCircuit ..
    · rfl
  · rfl

@[simp] theorem metrics_spawnReader (circuitId : CircuitId) (command : MessageCommand) :
    (r.spawnReader circuitId command).1.metrics = r.metrics := by
  unfold spawnReader
  split
  · split <;> rfl
  · rfl

/-- A CREATE is served and registered, or ends the connection and leaves no trace. -/
theorem onCreate_cases (r : Relay) (env : Env) {msg : Message} (hcreate : msg.command = .create) :
    (∃ handler sent, r.onCreate P A env msg =
      ⟨{ r with
          metrics := { r.metrics with circuitsCreated := r.metrics.circuitsCreated + 1 }
          registry := r.registry.addCircuit msg.circuitId handler }, sent, true⟩) ∨
    ∃ sent, r.onCreate P A env msg = ⟨r, sent, false⟩ := by
  unfold onCreate
  dsimp only
  split
  · split
    · exact .inr ⟨_, rfl⟩
    · exact .inl ⟨_, _, rfl⟩
  · rename_i hnone
    exact absurd hnone (CircuitHandler.result_create_ne_none hcreate)
  · exact .inr ⟨_, rfl⟩

/-- Any other cell registers nothing, and counts if it is a DESTROY that is served. -/
theorem onCell_counts (r : Relay) (env : Env) (msg : Message) :
    (∀ other, (r.onCell P A env msg).relay.registry.has other = r.registry.has other) ∧
    (r.onCell P A env msg).relay.metrics.circuitsCreated = r.metrics.circuitsCreated ∧
    (r.onCell P A env msg).relay.metrics.circuitsDestroyed =
      r.metrics.circuitsDestroyed + (if msg.command = .destroy ∧
        (r.onCell P A env msg).serving = true then 1 else 0) := by
  have hcounters := RelayMetrics.circuits_record
    (r.registry.handleMessage P A env (some env.prevHop) msg).sent r.metrics
  have hhas : ∀ other, (r.registry.handleMessage P A env (some env.prevHop) msg).handler.has
      other = r.registry.has other := fun other => CircuitRegistry.has_handleMessage ..
  -- the response, the DESTROY count and the reader's start leave the keys alone
  have htail : ∀ r' : Relay, r'.registry =
      (r.registry.handleMessage P A env (some env.prevHop) msg).handler →
      r'.metrics.circuitsCreated = r.metrics.circuitsCreated →
      r'.metrics.circuitsDestroyed = r.metrics.circuitsDestroyed →
      (∀ other, ((r'.countDestroyed msg.command).spawnReader msg.circuitId
        msg.command).1.registry.has other = r.registry.has other) ∧
      ((r'.countDestroyed msg.command).spawnReader msg.circuitId
        msg.command).1.metrics.circuitsCreated = r.metrics.circuitsCreated ∧
      ((r'.countDestroyed msg.command).spawnReader msg.circuitId
        msg.command).1.metrics.circuitsDestroyed =
        r.metrics.circuitsDestroyed + (if msg.command = .destroy ∧ true = true then 1 else 0) := by
    intro r' hregistry hcreated hdestroyed
    rw [metrics_spawnReader]
    refine ⟨fun other => ?_, ?_⟩
    · rw [has_spawnReader, registry_countDestroyed, hregistry, hhas]
    · unfold countDestroyed
      by_cases hdestroy : msg.command = .destroy
      · rw [if_pos hdestroy, if_pos ⟨hdestroy, rfl⟩, ← hcreated, ← hdestroyed]
        exact ⟨rfl, rfl⟩
      · rw [if_neg hdestroy, if_neg fun h => hdestroy h.1, ← hcreated, ← hdestroyed]
        exact ⟨rfl, (UInt64.add_zero _).symm⟩
  have hquiet : ∀ n : UInt64, n + (if msg.command = .destroy ∧ false = true then 1 else 0) = n := by
    intro n
    rw [if_neg fun h => Bool.false_ne_true h.2, UInt64.add_zero]
  cases hresult : (r.registry.handleMessage P A env (some env.prevHop) msg).result with
  | error e =>
    have hserved : r.onCell P A env msg =
        ⟨r.after (r.registry.handleMessage P A env (some env.prevHop) msg),
          (r.registry.handleMessage P A env (some env.prevHop) msg).sent, false⟩ := by
      rw [onCell, hresult]
    rw [hserved, hquiet]
    exact ⟨hhas, hcounters⟩
  | ok response =>
    cases response with
    | none =>
      have hserved : (r.onCell P A env msg).relay =
          ((r.after (r.registry.handleMessage P A env (some env.prevHop)
            msg)).countDestroyed msg.command |>.spawnReader msg.circuitId msg.command).1 ∧
          (r.onCell P A env msg).serving = true := by
        rw [onCell, hresult]
        exact ⟨rfl, rfl⟩
      rw [hserved.1, hserved.2]
      exact htail _ rfl hcounters.1 hcounters.2
    | some response =>
      cases hwrite : response.writeToStream env.prevHop with
      | error e =>
        have hserved : r.onCell P A env msg =
            ⟨r.after (r.registry.handleMessage P A env (some env.prevHop) msg),
              (r.registry.handleMessage P A env (some env.prevHop) msg).sent, false⟩ := by
          rw [onCell, hresult]
          dsimp only
          rw [hwrite]
        rw [hserved, hquiet]
        exact ⟨hhas, hcounters⟩
      | ok cell =>
        have hserved : ∃ r' : Relay, (r.onCell P A env msg).relay =
              (r'.countDestroyed msg.command |>.spawnReader msg.circuitId msg.command).1 ∧
            (r.onCell P A env msg).serving = true ∧
            r'.registry = (r.registry.handleMessage P A env (some env.prevHop) msg).handler ∧
            r'.metrics.circuitsCreated =
              (r.after (r.registry.handleMessage P A env (some env.prevHop)
                msg)).metrics.circuitsCreated ∧
            r'.metrics.circuitsDestroyed =
              (r.after (r.registry.handleMessage P A env (some env.prevHop)
                msg)).metrics.circuitsDestroyed := by
          rw [onCell, hresult]
          dsimp only
          rw [hwrite]
          dsimp only
          split
          · exact ⟨_, rfl, rfl, rfl, rfl, rfl⟩
          · exact ⟨_, rfl, rfl, rfl, rfl, rfl⟩
        obtain ⟨r', hrelay, hserving, hregistry, hcreated, hdestroyed⟩ := hserved
        rw [hrelay, hserving]
        exact htail r' hregistry (hcreated.trans hcounters.1) (hdestroyed.trans hcounters.2)

/-- A cell that ends its connection leaves keys and counters alone. -/
theorem onMessage_refused (h : (r.onMessage P A env msg).serving = false) :
    (∀ other, (r.onMessage P A env msg).relay.registry.has other = r.registry.has other) ∧
    (r.onMessage P A env msg).relay.metrics.circuitsCreated = r.metrics.circuitsCreated ∧
    (r.onMessage P A env msg).relay.metrics.circuitsDestroyed = r.metrics.circuitsDestroyed := by
  unfold onMessage at h ⊢
  split
  · rename_i hcreate
    rw [if_pos hcreate] at h
    rcases @onCreate_cases P A r env msg hcreate with
      ⟨handler, sent, hserved⟩ | ⟨sent, hserved⟩
    · rw [hserved] at h
      cases h
    · rw [hserved]
      exact ⟨fun _ => rfl, rfl, rfl⟩
  · rename_i hcreate
    rw [if_neg hcreate] at h
    obtain ⟨hhas, hcreated, hdestroyed⟩ := @onCell_counts P A r env msg
    rw [h, if_neg fun hcon => Bool.false_ne_true hcon.2, UInt64.add_zero] at hdestroyed
    exact ⟨hhas, hcreated, hdestroyed⟩

/-- A CREATE that is served registers its id and counts. -/
theorem onMessage_created (hcreate : msg.command = .create)
    (h : (r.onMessage P A env msg).serving = true) :
    (r.onMessage P A env msg).relay.registry.has =
      Function.update r.registry.has msg.circuitId true ∧
    (r.onMessage P A env msg).relay.metrics.circuitsCreated = r.metrics.circuitsCreated + 1 ∧
    (r.onMessage P A env msg).relay.metrics.circuitsDestroyed = r.metrics.circuitsDestroyed := by
  rw [onMessage, if_pos hcreate] at h ⊢
  rcases @onCreate_cases P A r env msg hcreate with
    ⟨handler, sent, hserved⟩ | ⟨sent, hserved⟩
  · rw [hserved]
    refine ⟨funext fun other => ?_, rfl, rfl⟩
    show (r.registry.addCircuit msg.circuitId handler).has other = _
    by_cases hid : other = msg.circuitId
    · subst hid
      rw [CircuitRegistry.has, CircuitRegistry.getCircuit_addCircuit_self, Function.update_self]
      rfl
    · rw [CircuitRegistry.has, CircuitRegistry.getCircuit_addCircuit_ne hid,
        Function.update_of_ne hid]
      rfl
  · rw [hserved] at h
    cases h

/-- Any other cell that is served registers nothing; a DESTROY counts. -/
theorem onMessage_served (hcreate : msg.command ≠ .create)
    (h : (r.onMessage P A env msg).serving = true) :
    (∀ other, (r.onMessage P A env msg).relay.registry.has other = r.registry.has other) ∧
    (r.onMessage P A env msg).relay.metrics.circuitsCreated = r.metrics.circuitsCreated ∧
    (r.onMessage P A env msg).relay.metrics.circuitsDestroyed =
      r.metrics.circuitsDestroyed + (if msg.command = .destroy then 1 else 0) := by
  rw [onMessage, if_neg hcreate] at h ⊢
  obtain ⟨hhas, hcreated, hdestroyed⟩ := @onCell_counts P A r env msg
  rw [h] at hdestroyed
  simp only [and_true] at hdestroyed
  exact ⟨hhas, hcreated, hdestroyed⟩

/-- A DESTROY is served exactly if its circuit is registered. -/
theorem serving_destroy (hcommand : msg.command = .destroy) :
    (r.onMessage P A env msg).serving = r.registry.has msg.circuitId := by
  have hcreate : msg.command ≠ .create := by
    rw [hcommand]
    decide
  rw [onMessage, if_neg hcreate, onCell, CircuitRegistry.handleMessage, CircuitRegistry.has]
  cases r.registry.getCircuit msg.circuitId with
  | some handler =>
    dsimp only
    rw [CircuitHandler.result_destroy hcommand]
    rfl
  | none =>
    dsimp only
    rw [if_neg hcreate]
    rfl

@[simp] theorem has_readerStep (r : Relay) (env : Env) (circuitId : CircuitId)
    (input : Option Message) (other : CircuitId) :
    (r.readerStep P A env circuitId input).relay.registry.has other = r.registry.has other := by
  unfold readerStep
  split
  · rfl
  · rename_i msg
    have hafter : (r.after (r.registry.handleBackwardMessage P A msg)).registry.has other =
        r.registry.has other := CircuitRegistry.has_handleBackwardMessage ..
    split
    · rfl
    · dsimp only
      split
      · exact hafter
      · exact hafter
      · split <;> exact hafter

theorem counters_readerStep (r : Relay) (env : Env) (circuitId : CircuitId)
    (input : Option Message) :
    (r.readerStep P A env circuitId input).relay.metrics.circuitsCreated =
        r.metrics.circuitsCreated ∧
      (r.readerStep P A env circuitId input).relay.metrics.circuitsDestroyed =
        r.metrics.circuitsDestroyed := by
  unfold readerStep
  split
  · exact ⟨rfl, rfl⟩
  · rename_i msg
    have hafter := RelayMetrics.circuits_record
      (r.registry.handleBackwardMessage P A msg).sent r.metrics
    split
    · exact ⟨rfl, rfl⟩
    · dsimp only
      split
      · exact hafter
      · exact hafter
      · split <;> exact hafter

end Relay

/-! ## Runs -/

namespace RelayLife

@[simp] theorem has_updateExit (s : SharedRelay) (circuitId other : CircuitId)
    (f : ExitCircuitHandler → ExitCircuitHandler) :
    (s.updateExit circuitId f).relay.registry.has other = s.relay.registry.has other := by
  show ((s.relay.registry.circuits.modify circuitId (CircuitHandler.mapExit f)).lookup
    other).isSome = _
  rw [AList.lookup_modify]
  split
  · rw [Option.isSome_map]
    rfl
  · rfl

/-- The cell of a served connection, at the books. -/
theorem step_change_cell {s : RelayLife} {conn : ConnId} {env : Env} {msg : Message}
    (hopen : s.shared.closed conn = false) :
    ∃ p, s.books.Change (s.step P A (.relay (.cell conn env msg))).books p ∧
      (s.Undisturbed P A (.relay (.cell conn env msg)) ↔ p) := by
  obtain ⟨owner, hshared⟩ : ∃ owner, s.shared.step P A (.cell conn env msg) =
      { relay := (s.shared.relay.onMessage P A env msg).relay
        owner
        closed := if (s.shared.relay.onMessage P A env msg).serving then s.shared.closed
          else Function.update s.shared.closed conn true } := by
    unfold SharedRelay.step
    exact ⟨_, if_neg (by rw [hopen]; exact Bool.false_ne_true)⟩
  cases hserving : (s.shared.relay.onMessage P A env msg).serving with
  | false =>
    obtain ⟨hhas, hcreated, hdestroyed⟩ := Relay.onMessage_refused hserving
    -- a cell that is refused ends its connection and registers nothing
    have hbooks : (s.step P A (.relay (.cell conn env msg))).books = s.books.close conn := by
      have hrefused : ¬s.Serves P A conn env msg := by
        rintro ⟨-, h⟩
        rw [hserving] at h
        cases h
      unfold step
      dsimp only
      rw [if_neg hrefused, hshared, hserving]
      exact Books.ext (funext hhas) hcreated hdestroyed rfl rfl rfl rfl
    rw [hbooks]
    refine ⟨_, .ends conn, ?_⟩
    constructor
    · intro h
      exact (h hopen).2.2 hserving
    · intro hidle _
      refine ⟨fun _ h => ?_, fun hdestroy => ?_, fun _ => hidle⟩
      · rw [hserving] at h
        cases h
      · rw [← Relay.serving_destroy hdestroy]
        exact hserving
  | true =>
    have hserves : s.Serves P A conn env msg := ⟨hopen, hserving⟩
    by_cases hcreate : msg.command = .create
    · obtain ⟨hhas, hcreated, hdestroyed⟩ := Relay.onMessage_created hcreate hserving
      have hbooks : (s.step P A (.relay (.cell conn env msg))).books =
          s.books.create conn msg.circuitId := by
        unfold step
        dsimp only
        rw [if_pos hserves, record, if_pos hcreate, hshared, hserving]
        exact Books.ext hhas hcreated hdestroyed rfl rfl rfl rfl
      rw [hbooks]
      refine ⟨_, .creates conn msg.circuitId hopen, ?_⟩
      constructor
      · intro h
        exact (h hopen).1 hcreate hserving
      · intro hfree _
        refine ⟨fun _ _ => hfree, fun hdestroy => ?_, fun h => ?_⟩
        · rw [hcreate] at hdestroy
          cases hdestroy
        · rw [hserving] at h
          cases h
    · obtain ⟨hhas, hcreated, hdestroyed⟩ := Relay.onMessage_served hcreate hserving
      by_cases hdestroy : msg.command = .destroy
      · rw [if_pos hdestroy] at hdestroyed
        have hregistered : s.books.has msg.circuitId = true :=
          (Relay.serving_destroy hdestroy).symm.trans hserving
        have hbooks : (s.step P A (.relay (.cell conn env msg))).books =
            s.books.destroy msg.circuitId := by
          unfold step
          dsimp only
          rw [if_pos hserves, record, if_neg hcreate, if_pos hdestroy, hshared, hserving]
          exact Books.ext (funext hhas) hcreated hdestroyed rfl rfl rfl rfl
        rw [hbooks]
        refine ⟨_, .destroys msg.circuitId hregistered, ?_⟩
        -- a DESTROY that is served finds its circuit, which then stays registered
        refine iff_of_false (fun h => ?_) not_false
        have hfree := (h hopen).2.1 hdestroy
        rw [show s.shared.relay.registry.has msg.circuitId = true from hregistered] at hfree
        cases hfree
      · rw [if_neg hdestroy, UInt64.add_zero] at hdestroyed
        have hbooks : (s.step P A (.relay (.cell conn env msg))).books = s.books := by
          unfold step
          dsimp only
          rw [if_pos hserves, record, if_neg hcreate, if_neg hdestroy, hshared, hserving]
          exact Books.ext (funext hhas) hcreated hdestroyed rfl rfl rfl rfl
        rw [hbooks]
        refine ⟨True, .keeps, iff_of_true ?_ trivial⟩
        intro _
        refine ⟨fun h => absurd h hcreate, fun h => absurd h hdestroy, fun h => ?_⟩
        rw [hserving] at h
        cases h

/-- **Every step is a change of the books**, and undisturbed exactly under its condition. -/
theorem step_change (s : RelayLife) (e : LifeEvent) :
    ∃ p, s.books.Change (s.step P A e).books p ∧ (s.Undisturbed P A e ↔ p) := by
  match e with
  | .hangup conn => exact ⟨_, .ends conn, Iff.rfl⟩
  | .relay (.backward env circuitId input) =>
    refine ⟨True, ?_, Iff.rfl⟩
    obtain ⟨hcreated, hdestroyed⟩ :=
      @Relay.counters_readerStep P A s.shared.relay env circuitId input
    have hsame : (s.step P A (.relay (.backward env circuitId input))).books = s.books :=
      Books.ext (funext (Relay.has_readerStep s.shared.relay env circuitId input)) hcreated
        hdestroyed rfl rfl rfl rfl
    rw [hsame]
    exact .keeps
  | .relay (.streamCell writer circuitId streamId command data) =>
    refine ⟨True, ?_, Iff.rfl⟩
    have hsame : (s.step P A (.relay (.streamCell writer circuitId streamId command data))).books =
        s.books :=
      Books.ext (funext fun other => has_updateExit s.shared circuitId other _) rfl rfl rfl rfl
        rfl rfl
    rw [hsame]
    exact .keeps
  | .relay (.streamEnded circuitId streamId) =>
    refine ⟨True, ?_, Iff.rfl⟩
    have hsame : (s.step P A (.relay (.streamEnded circuitId streamId))).books = s.books :=
      Books.ext (funext fun other => has_updateExit s.shared circuitId other _) rfl rfl rfl rfl
        rfl rfl
    rw [hsame]
    exact .keeps
  | .relay (.cell conn env msg) =>
    by_cases hopen : s.shared.closed conn = false
    · exact step_change_cell hopen
    -- nothing is read from a closed connection
    · have hclosed : s.shared.closed conn = true := by simpa using hopen
      have hsame : (s.step P A (.relay (.cell conn env msg))).books = s.books := by
        have hshared : s.shared.step P A (.cell conn env msg) = s.shared := by
          unfold SharedRelay.step
          exact if_pos hclosed
        unfold step
        dsimp only
        rw [if_neg fun h => hopen h.1, hshared]
      rw [hsame]
      exact ⟨True, .keeps, iff_of_true (fun h => absurd h hopen) trivial⟩

/-- Sound books are what `OnlyLive` asks for. -/
theorem onlyLive_of_sound {s : RelayLife} (h : s.books.Sound) : s.OnlyLive := by
  have hdestroyed : s.destroyed = [] := h.destroyed
  have hcount : s.shared.relay.metrics.circuitsDestroyed = s.destroyed.length.toUInt64 :=
    h.tracks.destroyed
  refine ⟨h.registered, ?_, ⟨hcount, ?_⟩, ?_⟩
  · have hlen := h.length_liveCircuits s.shared.relay.registry.circuits.nodupKeys
      fun _ => CircuitRegistry.has_iff
    rw [← hlen, CircuitRegistry.circuitCount]
    exact (List.length_map _).symm
  · rw [hdestroyed]
    exact List.nodup_nil
  · rw [hcount, hdestroyed]
    exact UInt64.zero_le

theorem sound_new (nodeType : NodeType) (keypair : KeyPair) :
    (RelayLife.new nodeType keypair).books.Sound where
  tracks := ⟨fun _ => rfl, fun _ _ h => (nomatch h), rfl⟩
  destroyed := rfl
  registered _ := iff_of_false (fun ⟨_, h, _⟩ => nomatch h) (fun h => nomatch h)

/-- **When the registry holds only live circuits**: in the state before the first event and
in every state after one, exactly if every event is undisturbed. -/
theorem every_state_onlyLive_iff (nodeType : NodeType) (keypair : KeyPair)
    (events : List LifeEvent) :
    ((RelayLife.new nodeType keypair).OnlyLive ∧
        EveryStep (step P A) (fun s e => (s.step P A e).OnlyLive)
          (RelayLife.new nodeType keypair) events) ↔
      EveryStep (step P A) (Undisturbed P A) (RelayLife.new nodeType keypair) events := by
  have hnew := sound_new nodeType keypair
  have hkeeps : ∀ (s : RelayLife) (e : LifeEvent), s.books.Sound → s.Undisturbed P A e →
      (s.step P A e).books.Sound := by
    intro s e hs hquiet
    obtain ⟨p, hchange, hp⟩ := step_change s e
    exact hs.change hchange (hp.mp hquiet)
  have hforced : ∀ (s : RelayLife) (e : LifeEvent), s.books.Sound → (s.step P A e).OnlyLive →
      s.Undisturbed P A e := by
    intro s e hs hlive
    obtain ⟨p, hchange, hp⟩ := step_change s e
    exact hp.mpr ((hs.change_iff hchange).mp hlive.registered)
  constructor
  · rintro ⟨-, hstates⟩
    exact hstates.of_invariant (fun s e hs hlive => hkeeps s e hs (hforced s e hs hlive)) hforced
      hnew
  · intro hquiet
    exact ⟨onlyLive_of_sound hnew, hquiet.of_invariant hkeeps
      (fun s e hs h => onlyLive_of_sound (hkeeps s e hs h)) hnew⟩

/-! ### A circuit that is destroyed -/

/-- A client creates circuit 1 and destroys it. -/
def createDestroy : List LifeEvent :=
  [.relay (.cell 0 SharedRelay.sampleEnv (Message.create 1 (sampleSecret 2).toList)),
    .relay (.cell 0 SharedRelay.sampleEnv (Message.destroy 1))]

theorem createDestroy_books :
    let b := (run (step .sample SharedRelay.sampleSyntax)
      (RelayLife.new .entry SharedRelay.sampleKeypair) createDestroy).books
    (b.holder 1 = some 0 ∧ b.has 1 = true) ∧ b.live 0 = false := by
  decide +kernel

/-- The destroyed circuit is still in the registry, and counted as active. -/
theorem destroyed_circuit_stays :
    ¬((RelayLife.new .entry SharedRelay.sampleKeypair).OnlyLive ∧
      EveryStep (step .sample SharedRelay.sampleSyntax)
        (fun s e => (s.step .sample SharedRelay.sampleSyntax e).OnlyLive)
        (RelayLife.new .entry SharedRelay.sampleKeypair) createDestroy) := by
  rintro ⟨-, -, hlive, -⟩
  have hlast : (run (step .sample SharedRelay.sampleSyntax)
      (RelayLife.new .entry SharedRelay.sampleKeypair) createDestroy).OnlyLive := hlive
  obtain ⟨hregistered, hdead⟩ := createDestroy_books
  have halive := (hlast.registered 0).mp ⟨1, hregistered⟩
  rw [hdead] at halive
  cases halive

end RelayLife

end MiniTor
