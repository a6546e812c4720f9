import MiniTor.Client.Store
import MiniTor.Client.Tasks

/-!
# What a step of the client can do

`ClientState.Step` says it once, for all statements about the pool: what the calls
that build, replace, expire and remove circuits do, what else changes a circuit, and
what becomes of the replacements still owed and of the circuits selected.

- `ClientState.act`: what an event amounts to in a state.
- `ClientState.step_act`: every event does what it amounts to.
- `ClientState.Step.sound`: and keeps the store sound.
-/

namespace MiniTor.Client

open Theory

namespace ClientState

variable (P : Primitives)

/-- How many replacements of aged circuits are owed: those aged out and not yet rebuilt. -/
def owed (s : ClientState) : Nat :=
  (match s.holder with
    | some (.expiring _ agedOut) => agedOut.length
    | _ => 0) +
  match s.monitor with
  | .rebuilding left => left
  | _ => 0

/-- What an event amounts to. -/
inductive Act
  /-- Nothing that opens or closes a circuit or a stream. -/
  | other
  /-- `handle_stream` registers its stream. -/
  | registers (a : Arc)
  | unregisters (a : Arc) (streamId : StreamId)
  /-- A reader leaves its loop. -/
  | leaves (a : Arc) (input : Option Message)
  /-- `expire_aged_circuits` ages out a circuit. -/
  | expires (circuitId : CircuitId) (a : Arc)
  /-- The monitor builds a replacement that is owed. -/
  | rebuilds (now : Nat) (built : Except Error OnionKeys)
  /-- `select_circuit` found no ready circuit and builds one. -/
  | demands (now : Nat) (built : Except Error OnionKeys)
  /-- `select_circuit` returns a circuit of the pool. -/
  | picks (a : Arc)
  /-- The monitor's cleanup removes an id. -/
  | cleansUp (dirtyId : CircuitId)
  /-- `replace_circuit`. -/
  | replaces (failedId : CircuitId) (now : Nat) (built : Except Error OnionKeys)

def act (s : ClientState) : ClientEvent → Act
  | .monitor now built =>
    match s.holder, s.monitor with
    | none, .rebuilding (_ + 1) => .rebuilds now built
    | none, .removing (dirtyId :: _) => .cleansUp dirtyId
    | none, .waiting failedId _ => .replaces failedId now built
    | _, _ => .other
  | .look index =>
    match s.holder with
    | some (.expiring todo _) =>
      match (todo[index]?).bind fun circuitId =>
        (s.store.pool.circuits.lookup circuitId).map fun a => (circuitId, a) with
      | some (circuitId, a) =>
        if s.store.stateOf a = some .ready then .expires circuitId a else .other
      | none => .other
    | _ => .other
  | .release now built =>
    match s.holder with
    | some (.selecting _ [] none) => .demands now built
    | some (.selecting _ [] (some (circuitId, _))) =>
      match s.store.pool.circuits.lookup circuitId with
      | some a => .picks a
      | none => .other
    | _ => .other
  | .register conn _ =>
    match s.connections[conn]? with
    | some (.selected a) => if (s.store.heap[a]?).isSome then .registers a else .other
    | _ => .other
  | .stream conn .unregister =>
    match s.connections[conn]? with
    | some (.streaming a t _) =>
      if t.phase = .unregistering then .unregisters a t.streamId else .other
    | _ => .other
  | .replaceFailed conn now built =>
    match s.holder, s.connections[conn]? with
    | none, some (.replacing failedId) => .replaces failedId now built
    | _, _ => .other
  | .read a input =>
    match s.store.heap[a]? with
    | some live =>
      if live.reader = .reading ∧ (live.circuit.readerTurn P input).reading = false then
        .leaves a input
      else .other
    | none => .other
  | _ => .other

/-- Beside the store, nothing that counts below changed. -/
structure Beside (s s' : ClientState) : Prop where
  attempts : s'.attempts = s.attempts
  removed : s'.removed = s.removed
  owed : s'.owed ≤ s.owed
  selected : ∀ a, .selected a ∈ s'.connections → .selected a ∈ s.connections

/-- What each act does. -/
inductive Step (s : ClientState) : Act → ClientState → Prop
  /-- The store is as before. -/
  | quiet {s' : ClientState} (hstore : s'.store = s.store) (hbeside : s.Beside s') :
      Step s .other s'
  /-- One circuit was locked and is as before in what counts. -/
  | touched {s' : ClientState} {a : Arc} {f : LiveCircuit → LiveCircuit}
      (hf : ∀ live, s.store.heap[a]? = some live → live.Touched (f live))
      (hstore : s'.store = s.store.update a f) (hbeside : s.Beside s') : Step s .other s'
  /-- A reader that had left its loop has ended. -/
  | ended {s' : ClientState} {a : Arc} {live : LiveCircuit}
      (hlive : s.store.heap[a]? = some live) (hreader : live.reader = .leaving)
      (hstore : s'.store = s.store.update a LiveCircuit.readerEnd)
      (hbeside : s.Beside s') : Step s .other s'
  | registered {s' : ClientState} {a : Arc} {live : LiveCircuit} {conn : Nat}
      (hlive : s.store.heap[a]? = some live) (hselected : .selected a ∈ s.connections)
      (hstore : s'.store = s.store.update a fun _ => (live.register conn).1)
      (hbeside : s.Beside s') : Step s (.registers a) s'
  | unregistered {s' : ClientState} {a : Arc} {streamId : StreamId}
      (hstore : s'.store = s.store.update a fun live => live.unregister streamId)
      (hbeside : s.Beside s') : Step s (.unregisters a streamId) s'
  | left {s' : ClientState} {a : Arc} {input : Option Message} {live : LiveCircuit}
      (hlive : s.store.heap[a]? = some live) (hreader : live.reader = .reading)
      (hleaves : (live.circuit.readerTurn P input).reading = false)
      (hstore : s'.store = s.store.update a fun _ => (live.read P input).1)
      (hbeside : s.Beside s') : Step s (.leaves a input) s'
  | expired {s' : ClientState} {circuitId : CircuitId} {a : Arc} {live : LiveCircuit}
      (hlookup : s.store.pool.circuits.lookup circuitId = some a)
      (hlive : s.store.heap[a]? = some live) (hready : live.circuit.state = .ready)
      (hstore : s'.store = (s.store.expireOne circuitId).1) (hattempts : s'.attempts = s.attempts)
      (hremoved : s'.removed = s.removed) (howed : s'.owed ≤ s.owed + 1)
      (hconnections : s'.connections = s.connections) : Step s (.expires circuitId a) s'
  | rebuilt {s' : ClientState} {now : Nat} {built : Except Error OnionKeys}
      (hstore : s'.store = (s.store.buildCircuit now built).1)
      (hattempts : s'.attempts = s.attempts) (hremoved : s'.removed = s.removed)
      (howed : s'.owed + 1 ≤ s.owed) (hconnections : s'.connections = s.connections) :
      Step s (.rebuilds now built) s'
  | demanded {s' : ClientState} {now : Nat} {built : Except Error OnionKeys}
      (hstore : s'.store = (s.store.buildCircuit now built).1)
      (hattempts : s'.attempts = s.attempts) (hremoved : s'.removed = s.removed)
      (howed : s'.owed ≤ s.owed)
      (hselected : ∀ a, .selected a ∈ s'.connections →
        .selected a ∈ s.connections ∨ (s.store.buildCircuit now built).2 = .ok a) :
      Step s (.demands now built) s'
  | picked {s' : ClientState} {a : Arc} (hin : s.store.inPool a = true)
      (hstore : s'.store = s.store) (hattempts : s'.attempts = s.attempts)
      (hremoved : s'.removed = s.removed) (howed : s'.owed ≤ s.owed)
      (hselected : ∀ b, .selected b ∈ s'.connections → .selected b ∈ s.connections ∨ b = a) :
      Step s (.picks a) s'
  | cleaned {s' : ClientState} {dirtyId : CircuitId} (hstore : s'.store = s.store.remove dirtyId)
      (hattempts : s'.attempts = s.attempts)
      (hremoved : s'.removed = s.removed ++ (s.store.pool.circuits.lookup dirtyId).toList)
      (howed : s'.owed ≤ s.owed) (hconnections : s'.connections = s.connections) :
      Step s (.cleansUp dirtyId) s'
  | replaced {s' : ClientState} {failedId : CircuitId} {now : Nat}
      {built : Except Error OnionKeys}
      (hstore : s'.store = (s.store.replaceCircuit failedId now built).1)
      (hattempts : s'.attempts = s.attempts ++ [(failedId, built.toBool)])
      (hremoved : s'.removed = s.removed) (howed : s'.owed ≤ s.owed)
      (hselected : ∀ a, .selected a ∈ s'.connections → .selected a ∈ s.connections) :
      Step s (.replaces failedId now built) s'

variable {P} {s : ClientState}

theorem selected_of_set {l : List ConnectionPhase} {conn : Nat} {phase : ConnectionPhase} {a : Arc}
    (hphase : phase ≠ .selected a) (h : .selected a ∈ l.set conn phase) : .selected a ∈ l := by
  rcases List.mem_or_eq_of_mem_set h with hold | hnew
  · exact hold
  · exact absurd hnew.symm hphase

theorem goOn_ne_selected (a b : Arc) (t : StreamTask) (connected : Bool) :
    ConnectionPhase.goOn a t connected ≠ .selected b := by
  unfold ConnectionPhase.goOn
  dsimp only
  split
  · split <;> exact nofun
  · exact nofun

theorem selected_of_deliver {l : List ConnectionPhase} {conn : Nat} {m : Message} {a : Arc}
    (h : .selected a ∈ l.modify conn (ConnectionPhase.deliver m)) : .selected a ∈ l := by
  obtain ⟨i, hi⟩ := List.mem_iff_getElem?.mp h
  rw [List.getElem?_modify] at hi
  obtain ⟨phase, hphase, heq⟩ := Option.map_eq_some_iff.mp hi
  have hsame : phase = .selected a := by
    split at heq
    · cases phase <;> first | exact heq | cases heq
    · exact heq
  rw [hsame] at hphase
  exact List.mem_of_getElem? hphase

/-- Only a phase that is not `selected` was set. -/
theorem Beside.set {s' : ClientState} {conn : Nat} {phase : ConnectionPhase}
    (hattempts : s'.attempts = s.attempts) (hremoved : s'.removed = s.removed)
    (howed : s'.owed ≤ s.owed) (hconnections : s'.connections = s.connections.set conn phase)
    (hphase : ∀ a, phase ≠ .selected a) : s.Beside s' :=
  ⟨hattempts, hremoved, howed, fun a h => selected_of_set (hphase a) (hconnections ▸ h)⟩

theorem Beside.refl (s : ClientState) : s.Beside s := ⟨rfl, rfl, Nat.le_refl _, fun _ => id⟩

/-- Only the holder of the mutex and the monitor moved. -/
theorem Beside.moved {s' : ClientState} (hattempts : s'.attempts = s.attempts)
    (hremoved : s'.removed = s.removed) (howed : s'.owed ≤ s.owed)
    (hconnections : s'.connections = s.connections) : s.Beside s' :=
  ⟨hattempts, hremoved, howed, fun _ h => hconnections ▸ h⟩

/-- A `replace_circuit` succeeds if its build does. -/
theorem replaceCircuit_eq (failedId : CircuitId) (now : Nat) (built : Except Error OnionKeys) :
    s.replaceCircuit failedId now built =
      { s with
        store := (s.store.replaceCircuit failedId now built).1
        attempts := s.attempts ++ [(failedId, built.toBool)] } := by
  cases built with
  | error e => rfl
  | ok onionKeys => rfl

/-- A step may be shown under the name its act goes by. -/
theorem Step.of_act {e : ClientEvent} {act : Act} {s' : ClientState} (hact : s.act P e = act)
    (h : s.Step P act s') : s.Step P (s.act P e) s' := hact ▸ h

/-- The monitor goes on when the pool's mutex is free. -/
theorem step_monitor_free (hholder : s.holder = none) (now : Nat)
    (built : Except Error OnionKeys) : s.step P (.monitor now built) = s.monitorTurn now built := by
  have hfree : ¬s.holder.isSome = true := by
    rw [hholder]
    exact Bool.false_ne_true
  exact if_neg hfree

theorem step_monitor_held {task : PoolTask} (hholder : s.holder = some task) (now : Nat)
    (built : Except Error OnionKeys) : s.step P (.monitor now built) = s := by
  refine if_pos ?_
  rw [hholder]
  rfl

/-- A look is a look of the holder. -/
theorem step_look_free (hholder : s.holder = none) (index : Nat) :
    s.step P (.look index) = s := by
  rw [step, hholder]

theorem step_look_held {task : PoolTask} (hholder : s.holder = some task) (index : Nat) :
    s.step P (.look index) = s.lookAt index task := by
  rw [step, hholder]

theorem step_release_free (hholder : s.holder = none) (now : Nat)
    (built : Except Error OnionKeys) : s.step P (.release now built) = s := by
  rw [step, hholder]

theorem step_release_held {task : PoolTask} (hholder : s.holder = some task) (now : Nat)
    (built : Except Error OnionKeys) :
    s.step P (.release now built) = s.released now built task := by
  rw [step, hholder]

theorem step_monitor (now : Nat) (built : Except Error OnionKeys) :
    s.Step P (s.act P (.monitor now built)) (s.step P (.monitor now built)) := by
  cases hholder : s.holder with
  | some task =>
    rw [step_monitor_held hholder]
    refine .of_act ?_ (.quiet rfl (.refl s))
    simp only [act, hholder]
  | none =>
    have howed : s.owed = match s.monitor with
        | .rebuilding left => left
        | _ => 0 := by
      rw [owed, hholder]
      exact Nat.zero_add _
    rw [step_monitor_free hholder]
    unfold monitorTurn
    cases hmonitor : s.monitor with
    | sleeping =>
      refine .of_act ?_ (.quiet rfl (.moved rfl rfl (Nat.zero_le _) rfl))
      simp only [act, hholder, hmonitor]
    | searching =>
      refine .of_act ?_ (.quiet rfl (.refl s))
      simp only [act, hholder, hmonitor]
    | rebuilding left =>
      cases left with
      | zero =>
        refine .of_act ?_ (.quiet rfl (.moved rfl rfl (Nat.zero_le _) rfl))
        simp only [act, hholder, hmonitor]
      | succ left =>
        refine .of_act ?_ (.rebuilt rfl rfl rfl ?_ rfl)
        · simp only [act, hholder, hmonitor]
        · rw [howed, hmonitor, owed, hholder]
          exact Nat.le_of_eq (congrArg (· + 1) (Nat.zero_add left))
    | removing dirtyIds =>
      cases dirtyIds with
      | nil =>
        refine .of_act ?_ (.quiet rfl (.moved rfl rfl (Nat.zero_le _) rfl))
        simp only [act, hholder, hmonitor]
      | cons dirtyId dirtyIds =>
        refine .of_act ?_ (.cleaned rfl rfl rfl ?_ rfl)
        · simp only [act, hholder, hmonitor]
        · rw [owed, hholder]
          exact Nat.zero_le _
    | replacing failedIds =>
      have hquiet : s.act P (.monitor now built) = .other := by
        simp only [act, hholder, hmonitor]
      -- outside `rebuilding` the monitor owes nothing
      have hzero : ∀ monitor : MonitorPhase, (∀ left, monitor ≠ .rebuilding left) →
          ({ s with monitor } : ClientState).owed ≤ s.owed := by
        intro monitor hne
        rw [owed, hholder]
        cases monitor with
        | rebuilding left => exact absurd rfl (hne left)
        | _ => exact Nat.zero_le _
      cases failedIds with
      | nil => exact .of_act hquiet (.quiet rfl (.moved rfl rfl (hzero _ nofun) rfl))
      | cons failedId failedIds =>
        dsimp only
        split
        · exact .of_act hquiet (.quiet rfl (.moved rfl rfl (hzero _ nofun) rfl))
        · exact .of_act hquiet (.quiet rfl (.moved rfl rfl (hzero _ nofun) rfl))
    | waiting failedId failedIds =>
      dsimp only
      rw [replaceCircuit_eq]
      refine .of_act ?_ (.replaced rfl rfl rfl ?_ fun _ => id)
      · simp only [act, hholder, hmonitor]
      · rw [owed, hholder]
        exact Nat.zero_le _

/-- One id of `expire_aged_circuits`. -/
theorem look_expiring {todo agedOut : List CircuitId} {index : Nat} {circuitId : CircuitId}
    (hholder : s.holder = some (.expiring todo agedOut)) (hindex : todo[index]? = some circuitId) :
    s.step P (.look index) =
      { s with
        store := (s.store.expireOne circuitId).1
        holder := some (.expiring (todo.eraseIdx index)
          (if (s.store.expireOne circuitId).2 then agedOut ++ [circuitId] else agedOut)) } := by
  rw [step_look_held hholder, lookAt, hindex]

theorem step_expiring {todo agedOut : List CircuitId} {index : Nat} {circuitId : CircuitId}
    (hholder : s.holder = some (.expiring todo agedOut)) (hindex : todo[index]? = some circuitId) :
    s.Step P (s.act P (.look index)) (s.step P (.look index)) := by
  have hstep := look_expiring (P := P) hholder hindex
  -- an id that is gone, dangling or not ready is skipped
  have hkeeps : (s.store.expireOne circuitId).1 = s.store → (s.store.expireOne circuitId).2 = false →
      s.Step P .other (s.step P (.look index)) := by
    intro hstore hexpired
    rw [hstep, hstore, hexpired]
    refine .quiet rfl (.moved rfl rfl (Nat.le_of_eq ?_) rfl)
    unfold owed
    rw [hholder]
    rfl
  cases hlookup : s.store.pool.circuits.lookup circuitId with
  | none =>
    refine .of_act ?_ (hkeeps ?_ ?_)
    · simp only [act, hholder, hindex, Option.bind_some, hlookup, Option.map_none]
    · rw [Store.expireOne, hlookup]
    · rw [Store.expireOne, hlookup]
  | some a =>
    cases hlive : s.store.heap[a]? with
    | none =>
      refine .of_act ?_ (hkeeps ?_ ?_)
      · simp only [act, hholder, hindex, Option.bind_some, hlookup, Option.map_some,
          Store.stateOf, hlive, Option.map_none]
        rfl
      · simp only [Store.expireOne, hlookup, hlive]
      · simp only [Store.expireOne, hlookup, hlive]
    | some live =>
      by_cases hready : live.circuit.state = .ready
      · have hexpired : (s.store.expireOne circuitId).2 = true := by
          simp only [Store.expireOne, hlookup, hlive, if_pos hready]
        rw [hstep]
        refine .of_act ?_ (.expired hlookup hlive hready rfl rfl rfl ?_ rfl)
        · simp only [act, hholder, hindex, Option.bind_some, hlookup, Option.map_some,
            Store.stateOf, hlive, hready, if_true]
        · unfold owed
          rw [hexpired, hholder]
          dsimp only
          rw [if_pos rfl, List.length_append, List.length_singleton]
          omega
      · refine .of_act ?_ (hkeeps ?_ ?_)
        · simp only [act, hholder, hindex, Option.bind_some, hlookup, Option.map_some,
            Store.stateOf, hlive, Option.some.injEq, if_neg hready]
        · simp only [Store.expireOne, hlookup, hlive, if_neg hready]
        · simp only [Store.expireOne, hlookup, hlive, if_neg hready]

theorem step_look (index : Nat) :
    s.Step P (s.act P (.look index)) (s.step P (.look index)) := by
  cases hholder : s.holder with
  | none =>
    rw [step_look_free hholder]
    refine .of_act ?_ (.quiet rfl (.refl s))
    simp only [act, hholder]
  | some task =>
    have hstep := step_look_held (P := P) hholder index
    -- a search that stays one owes as much as before
    have hmoved : ∀ task' : PoolTask, (∀ todo agedOut, task' ≠ .expiring todo agedOut) →
        s.Step P .other { s with holder := some task' } := by
      intro task' hne
      refine .quiet rfl (.moved rfl rfl ?_ rfl)
      cases task' with
      | expiring todo agedOut => exact absurd rfl (hne todo agedOut)
      | _ =>
        unfold owed
        dsimp only
        omega
    cases task with
    | selecting conn todo best =>
      have hquiet : s.act P (.look index) = .other := by simp only [act, hholder]
      rw [hstep, hquiet, lookAt]
      split
      · exact .quiet rfl (.refl s)
      · split
        · exact .quiet rfl (.refl s)
        · exact hmoved _ nofun
    | expiring todo agedOut =>
      cases hindex : todo[index]? with
      | none =>
        rw [hstep, lookAt, hindex]
        refine .of_act ?_ (.quiet rfl (.refl s))
        simp only [act, hholder, hindex, Option.bind_none]
      | some circuitId => exact step_expiring hholder hindex
    | sweeping todo dirtyIds =>
      have hquiet : s.act P (.look index) = .other := by simp only [act, hholder]
      rw [hstep, hquiet, lookAt]
      split
      · exact .quiet rfl (.refl s)
      · split
        · exact .quiet rfl (.refl s)
        · split
          · exact hmoved _ nofun
          · exact hmoved _ nofun
    | counting circuitId a todo dirtyIds =>
      have hquiet : s.act P (.look index) = .other := by simp only [act, hholder]
      rw [hstep, hquiet, lookAt]
      split
      · exact .quiet rfl (.refl s)
      · exact hmoved _ nofun
    | collecting todo failedIds =>
      have hquiet : s.act P (.look index) = .other := by simp only [act, hholder]
      rw [hstep, hquiet, lookAt]
      split
      · exact .quiet rfl (.refl s)
      · split
        · exact .quiet rfl (.refl s)
        · exact hmoved _ nofun

/-- `select_circuit` after its loop. -/
theorem step_selected {conn : Nat} {best : Option (CircuitId × Nat)}
    (hholder : s.holder = some (.selecting conn [] best)) (now : Nat)
    (built : Except Error OnionKeys) :
    s.Step P (s.act P (.release now built)) (s.selected conn best now built) := by
  have hfree : ∀ store : Store, ∀ connections : List ConnectionPhase,
      ({ s with store, holder := none, connections } : ClientState).owed ≤ s.owed := by
    intro store connections
    unfold owed
    dsimp only
    omega
  unfold selected
  cases best with
  | some best =>
    obtain ⟨circuitId, count⟩ := best
    dsimp only
    cases hlookup : s.store.pool.circuits.lookup circuitId with
    | none =>
      refine .of_act ?_ (.quiet rfl (.set rfl rfl (hfree _ _) rfl nofun))
      simp only [act, hholder, hlookup]
    | some a =>
      have hin : s.store.inPool a = true := Store.inPool_iff.mpr ⟨circuitId, hlookup⟩
      refine .of_act ?_ (.picked hin rfl rfl rfl (hfree _ _) fun b hb => ?_)
      · simp only [act, hholder, hlookup]
      · rcases List.mem_or_eq_of_mem_set hb with hold | hnew
        · exact .inl hold
        · cases hnew
          exact .inr rfl
  | none =>
    have hact : s.act P (.release now built) = .demands now built := by
      simp only [act, hholder]
    rw [hact]
    cases built with
    | error e =>
      refine .demanded rfl rfl rfl (hfree _ _) fun a ha => .inl ?_
      have hdone : ConnectionPhase.done ≠ .selected a := nofun
      exact selected_of_set hdone ha
    | ok onionKeys =>
      refine .demanded rfl rfl rfl (hfree _ _) fun a ha => ?_
      rcases List.mem_or_eq_of_mem_set ha with hold | hnew
      · exact .inl hold
      · cases hnew
        exact .inr rfl

theorem step_release (now : Nat) (built : Except Error OnionKeys) :
    s.Step P (s.act P (.release now built)) (s.step P (.release now built)) := by
  cases hholder : s.holder with
  | none =>
    rw [step_release_free hholder]
    refine .of_act ?_ (.quiet rfl (.refl s))
    simp only [act, hholder]
  | some task =>
    rw [step_release_held hholder]
    cases task with
    | selecting conn todo best =>
      cases todo with
      | cons next todo =>
        refine .of_act ?_ (.quiet rfl (.refl s))
        cases best <;> simp only [act, hholder]
      | nil => exact step_selected hholder now built
    | expiring todo agedOut =>
      have hquiet : s.act P (.release now built) = .other := by simp only [act, hholder]
      rw [hquiet]
      cases todo with
      | cons next todo => exact .quiet rfl (.refl s)
      | nil =>
        refine .quiet rfl (.moved rfl rfl ?_ rfl)
        show 0 + agedOut.length ≤ s.owed
        rw [owed, hholder]
        dsimp only
        omega
    | sweeping todo dirtyIds =>
      have hquiet : s.act P (.release now built) = .other := by simp only [act, hholder]
      rw [hquiet]
      cases todo with
      | cons next todo => exact .quiet rfl (.refl s)
      | nil => exact .quiet rfl (.moved rfl rfl (Nat.zero_le _) rfl)
    | counting circuitId a todo dirtyIds =>
      have hquiet : s.act P (.release now built) = .other := by simp only [act, hholder]
      rw [hquiet]
      exact .quiet rfl (.refl s)
    | collecting todo failedIds =>
      have hquiet : s.act P (.release now built) = .other := by simp only [act, hholder]
      rw [hquiet]
      cases todo with
      | cons next todo => exact .quiet rfl (.refl s)
      | nil => exact .quiet rfl (.moved rfl rfl (Nat.zero_le _) rfl)

/-- `handle_stream` going on drops a receiver at most. -/
theorem goOn_step {a : Arc} {f : LiveCircuit → LiveCircuit}
    (hf : ∀ live, s.store.heap[a]? = some live → live.Touched (f live)) (conn : Nat)
    (t : StreamTask) (connected : Bool) :
    s.Step P .other
      (({ s with store := s.store.update a f } : ClientState).goOn conn a t connected) := by
  -- a call that has returned drops the receiver of its channel
  let g := fun live : LiveCircuit =>
    if t.phase = .closed then live.dropReceiver conn t.streamId else live
  have hg : ∀ live : LiveCircuit, live.Touched (g live) := by
    intro live
    show live.Touched (if t.phase = .closed then live.dropReceiver conn t.streamId else live)
    split
    · exact .dropReceiver live conn t.streamId
    · exact .refl live
  exact .touched (fun live hlive => (hf live hlive).trans (hg (f live)))
    (Store.update_update s.store a f g)
    (.set rfl rfl (Nat.le_refl _) rfl fun b => goOn_ne_selected a b t connected)

/-- An await of `handle_stream` other than the unregistering. -/
theorem streamStep_step {conn : Nat} {a : Arc} {t : StreamTask} {connected : Bool}
    {input : StreamInput} (hinput : input ≠ .unregister) :
    s.Step P .other (s.streamStep P conn a t connected input) := by
  have hgoOn : ∀ t' : StreamTask, s.Step P .other (s.goOn conn a t' connected) := by
    intro t'
    have h := @goOn_step P s a (fun live => live) (fun live _ => .refl live) conn t' connected
    rw [Store.update_id] at h
    exact h
  cases input with
  | send writer =>
    rw [streamStep]
    cases hlive : s.store.heap[a]? with
    | none => exact .quiet rfl (.refl s)
    | some live =>
      cases hnext : t.nextSend with
      | none => exact .quiet rfl (.refl s)
      | some next =>
        obtain ⟨command, data⟩ := next
        refine goOn_step (fun live' hlive' => ?_) conn _ connected
        cases hlive.symm.trans hlive'
        exact .send live writer t.streamId data (StreamTask.nextSend_ne_destroy hnext)
  | receive =>
    rw [streamStep]
    cases s.store.heap[a]? with
    | none => exact .quiet rfl (.refl s)
    | some live => exact hgoOn _
  | receiveUnwritten => exact hgoOn _
  | reply sent => exact hgoOn _
  | giveUp => exact hgoOn _
  | socksRead data => exact hgoOn _
  | unregister => exact absurd rfl hinput

theorem step_stream (conn : Nat) (input : StreamInput) :
    s.Step P (s.act P (.stream conn input)) (s.step P (.stream conn input)) := by
  by_cases hinput : input = .unregister
  · subst hinput
    rw [act, step]
    cases hconn : s.connections[conn]? with
    | none => exact .quiet rfl (.refl s)
    | some phase =>
      cases phase with
      | streaming a t connected =>
        show s.Step P _ (if t.phase = .unregistering then _ else s)
        dsimp only
        split
        · exact .unregistered rfl
            (.set rfl rfl (Nat.le_refl _) rfl fun b => goOn_ne_selected a b _ connected)
        · exact .quiet rfl (.refl s)
      | _ => exact .quiet rfl (.refl s)
  · have hquiet : s.act P (.stream conn input) = .other := by
      cases input with
      | unregister => exact absurd rfl hinput
      | _ => rfl
    rw [hquiet]
    rw [step]
    split
    · exact streamStep_step hinput
    · exact .quiet rfl (.refl s)

/-- A turn of a reader reads into its circuit, and selects none. -/
theorem read_reading {a : Arc} {live : LiveCircuit} (hlive : s.store.heap[a]? = some live)
    (hreader : live.reader = .reading) (input : Option Message) :
    ∃ connections, s.read P a input =
        { s with store := s.store.update a fun _ => (live.read P input).1, connections } ∧
      ∀ b, .selected b ∈ connections → .selected b ∈ s.connections := by
  rw [read, hlive]
  dsimp only
  rw [if_pos hreader]
  refine ⟨_, rfl, fun b hb => ?_⟩
  split at hb
  · exact selected_of_deliver hb
  · exact hb

theorem step_read (a : Arc) (input : Option Message) :
    s.Step P (s.act P (.read a input)) (s.step P (.read a input)) := by
  rw [act, step]
  cases hlive : s.store.heap[a]? with
  | none =>
    rw [read, hlive]
    exact .quiet rfl (.refl s)
  | some live =>
    dsimp only
    by_cases hreader : live.reader = .reading
    · obtain ⟨connections, hread, hselected⟩ := read_reading (P := P) hlive hreader input
      have hbeside : ∀ store, s.Beside { s with store, connections } := fun _ =>
        ⟨rfl, rfl, Nat.le_refl _, hselected⟩
      rw [hread]
      cases hgoes : (live.circuit.readerTurn P input).reading with
      | true =>
        rw [if_neg fun h => Bool.noConfusion h.2]
        refine .touched (fun live' hlive' => ?_) rfl (hbeside _)
        cases hlive.symm.trans hlive'
        exact .read hreader input hgoes
      | false =>
        rw [if_pos ⟨hreader, rfl⟩]
        exact .left hlive hreader hgoes rfl (hbeside _)
    · rw [if_neg fun h => hreader h.1, read, hlive]
      dsimp only
      rw [if_neg hreader]
      exact .quiet rfl (.refl s)

/-- **Every event does what it amounts to.** -/
theorem step_act (s : ClientState) (e : ClientEvent) : s.Step P (s.act P e) (s.step P e) := by
  cases e with
  | monitor now built => exact step_monitor now built
  | look index => exact step_look index
  | release now built => exact step_release now built
  | accept =>
    refine .quiet rfl ⟨rfl, rfl, Nat.le_refl _, fun a ha => ?_⟩
    rcases List.mem_append.mp ha with hold | hnew
    · exact hold
    · cases List.mem_singleton.mp hnew
  | select conn =>
    show s.Step P .other _
    rw [step]
    split
    · rename_i hholder _
      refine .quiet rfl (.set rfl rfl ?_ rfl fun a ha => by cases ha)
      show 0 + _ ≤ s.owed
      rw [owed, hholder]
      exact Nat.le_refl _
    · exact .quiet rfl (.refl s)
  | register conn destination =>
    rw [act, step]
    cases hconn : s.connections[conn]? with
    | none => exact .quiet rfl (.refl s)
    | some phase =>
      cases phase with
      | selected a =>
        dsimp only
        unfold register
        cases hlive : s.store.heap[a]? with
        | none => exact .quiet rfl (.refl s)
        | some live =>
          exact .registered hlive (List.mem_of_getElem? hconn) rfl
            (.set rfl rfl (Nat.le_refl _) rfl fun b hb => by cases hb)
      | _ => exact .quiet rfl (.refl s)
  | stream conn input => exact step_stream conn input
  | checkClosed conn =>
    show s.Step P .other _
    rw [step]
    split
    · rename_i a hconn
      cases hlive : s.store.heap[a]? with
      | none => exact .quiet rfl (.refl s)
      | some live =>
        refine .quiet rfl (.set rfl rfl (Nat.le_refl _) rfl fun b hb => ?_)
        split at hb <;> cases hb
    · exact .quiet rfl (.refl s)
  | replaceFailed conn now built =>
    rw [act, step]
    cases s.holder with
    | some task => exact .quiet rfl (.refl s)
    | none =>
      cases s.connections[conn]? with
      | none => exact .quiet rfl (.refl s)
      | some phase =>
        cases phase with
        | replacing failedId =>
          dsimp only
          rw [replaceCircuit_eq]
          refine .replaced rfl rfl rfl (Nat.le_refl _) fun a ha => ?_
          exact selected_of_set (fun hdone => by cases hdone) ha
        | _ => exact .quiet rfl (.refl s)
  | read a input => exact step_read a input
  | readerEnd a =>
    show s.Step P .other (s.readerEnd a)
    unfold readerEnd
    cases hlive : s.store.heap[a]? with
    | none => exact .quiet rfl (.refl s)
    | some live =>
      dsimp only
      by_cases hreader : live.reader = .leaving
      · rw [if_pos hreader]
        exact .ended hlive hreader rfl (.moved rfl rfl (Nat.le_refl _) rfl)
      · rw [if_neg hreader]
        exact .quiet rfl (.refl s)
  | keepalive a writer data =>
    exact .touched (fun live _ => .keepalive live writer data) rfl
      (.moved rfl rfl (Nat.le_refl _) rfl)

/-- What a step does to the store. -/
theorem Step.change {act : Act} {s' : ClientState} (hstep : s.Step P act s') :
    s.store.Change s'.store := by
  cases hstep with
  | quiet hstore hbeside => exact hstore ▸ .same
  | touched hf hstore hbeside => exact hstore ▸ .locked fun live hlive => (hf live hlive).later
  | ended hlive hreader hstore hbeside => exact hstore ▸ .locked fun live _ => .readerEnd live
  | registered hlive hselected hstore hbeside =>
    rw [hstore]
    refine .locked fun live' hlive' => ?_
    cases hlive.symm.trans hlive'
    exact ⟨rfl, id, id⟩
  | unregistered hstore hbeside => exact hstore ▸ .locked fun _ _ => ⟨rfl, id, id⟩
  | left hlive hreader hleaves hstore hbeside =>
    rw [hstore]
    refine .locked fun live' hlive' => ?_
    cases hlive.symm.trans hlive'
    exact .read hleaves
  | expired hlookup hlive hready hstore hattempts hremoved howed hconnections =>
    exact hstore ▸ .aged hlookup hlive hready
  | rebuilt hstore hattempts hremoved howed hconnections => exact hstore ▸ .built _ _
  | demanded hstore hattempts hremoved howed hselected => exact hstore ▸ .built _ _
  | picked hin hstore hattempts hremoved howed hselected => exact hstore ▸ .same
  | cleaned hstore hattempts hremoved howed hconnections => exact hstore ▸ .taken _
  | replaced hstore hattempts hremoved howed hselected => exact hstore ▸ .replaced _ _ _

/-- A step keeps the store sound. -/
theorem Step.sound {act : Act} {s' : ClientState} (hstep : s.Step P act s') (h : s.store.Sound) :
    s'.store.Sound := hstep.change.sound h

end ClientState

/-! ## A small client -/

/-- How the builds of the runs below end. -/
def sampleBuilt : Except Error OnionKeys := .ok (OnionKeys.new [] [])

/-- The store of a client that started with a pool of this size. -/
def sampleStore (poolSize maxRebuildAttempts : Nat) : Store :=
  ((Store.new poolSize maxRebuildAttempts).initializePool fun _ => (0, sampleBuilt)).toOption.getD
    (.new poolSize maxRebuildAttempts)

/-- The monitor's pass over a pool with one circuit, which has not aged, up to the point where
it has found the Closed ones. -/
def samplePass : List ClientEvent :=
  [.monitor 0 sampleBuilt, .release 0 sampleBuilt, .monitor 0 sampleBuilt, .look 0,
    .release 0 sampleBuilt, .monitor 0 sampleBuilt, .look 0, .release 0 sampleBuilt]

end MiniTor.Client
