import MiniTor.Client.Ageing
import MiniTor.Theory.AssocList

/-!
# What becomes of a pool whose circuits age (`tor-client/src/core/circuit.rs`)

The monitor builds one replacement for each circuit that ages out, in the pass that marks it,
and only logs a build that fails. Nobody asks later how many circuits are ready.

- `Store.readyCount`: how many circuits of the pool are ready.
- `ClientState.lost`, `ClientState.gained`: what a step takes from the ready circuits and the
  replacements owed, and what it adds to them.
- `balance_step`: no step changes them otherwise.
- `ready_poolSize_iff`: so a pool is full after a pass exactly if what was lost was gained.
- `failed_replacement_lost`: one build that fails is enough.
-/

namespace MiniTor.Client

open Theory

namespace Store

variable {s t : Store} {circuitId : CircuitId} {a : Arc} {live : LiveCircuit}

/-- How many circuits of the pool are ready. -/
def readyCount (s : Store) : Nat :=
  s.pool.circuits.entries.countP fun e => decide (s.stateOf e.2 = some .ready)

theorem Alike.readyCount (h : s.Alike t) : t.readyCount = s.readyCount := by
  unfold Store.readyCount
  rw [h.circuits]
  exact List.countP_congr fun e _ => by rw [h.stateOf]

theorem readyCount_remove (s : Store) (circuitId : CircuitId) :
    (s.remove circuitId).readyCount + (s.readyIn circuitId).toNat = s.readyCount :=
  s.pool.circuits.countP_erase (fun _ a => decide (s.stateOf a = some .ready)) circuitId

/-- A new circuit is ready, and takes the place of the one under its id. -/
theorem readyCount_add (hsound : s.Sound) (onionKeys : OnionKeys) :
    (s.add onionKeys).readyCount + (s.readyIn s.pool.nextCircuitId).toNat = s.readyCount + 1 := by
  have hself := stateOf_add_self s onionKeys
  have hothers : ∀ e ∈ (s.pool.circuits.erase s.pool.nextCircuitId).entries,
      (decide ((s.add onionKeys).stateOf e.2 = some .ready) = true ↔
        decide (s.stateOf e.2 = some .ready) = true) := by
    rintro ⟨id, a⟩ he
    obtain ⟨-, hlookup⟩ := AList.lookup_erase_eq_some.mp (AList.lookup_eq_some.mpr he)
    obtain ⟨live, hlive, -⟩ := hsound.filed id a hlookup
    rw [stateOf_add_of_lt onionKeys (lt_of_getElem? hlive)]
  have hinsert : (s.add onionKeys).readyCount =
      (s.pool.circuits.erase s.pool.nextCircuitId).entries.countP
        (fun e => decide ((s.add onionKeys).stateOf e.2 = some .ready)) + 1 := by
    have hentries := s.pool.circuits.countP_insert
      (fun _ a => decide ((s.add onionKeys).stateOf a = some .ready)) s.pool.nextCircuitId
      s.heap.length
    rwa [decide_eq_true hself] at hentries
  have herase := s.readyCount_remove s.pool.nextCircuitId
  rw [List.countP_congr hothers] at hinsert
  rw [hinsert, Nat.add_right_comm]
  exact congrArg Nat.succ herase

theorem readyCount_buildCircuit (hsound : s.Sound) (now : Nat) (onionKeys : OnionKeys) :
    (s.buildCircuit now (.ok onionKeys)).1.readyCount +
      (s.readyIn s.pool.nextCircuitId).toNat = s.readyCount + 1 := by
  rw [(alike_built s now onionKeys).readyCount]
  exact readyCount_add hsound onionKeys

/-- A change that keeps the state of its circuit. -/
theorem readyCount_update_same {f : LiveCircuit → LiveCircuit}
    (hf : ∀ live, s.heap[a]? = some live → (f live).circuit.state = live.circuit.state) :
    (s.update a f).readyCount = s.readyCount :=
  List.countP_congr fun e _ => by rw [stateOf_update_same hf]

/-- A circuit that is not ready any more counts no more, if it is in the pool. -/
theorem readyCount_update (hsound : s.Sound) {f : LiveCircuit → LiveCircuit}
    (hlive : s.heap[a]? = some live) (hf : (f live).circuit.state ≠ .ready) :
    (s.update a f).readyCount + (s.inPool a && decide (s.stateOf a = some .ready)).toNat =
      s.readyCount := by
  have hothers : ∀ id b, s.pool.circuits.lookup id = some b → b ≠ a →
      (decide ((s.update a f).stateOf b = some .ready) = true ↔
        decide (s.stateOf b = some .ready) = true) := by
    intro id b hlookup hne
    rw [stateOf_update_ne f hne.symm]
  cases hin : s.inPool a with
  | false =>
    -- no entry is the circuit's
    refine List.countP_congr fun e he => hothers e.1 e.2 (AList.lookup_eq_some.mpr he) ?_
    rintro hea
    rw [inPool_iff.mpr ⟨e.1, hea ▸ AList.lookup_eq_some.mpr he⟩] at hin
    cases hin
  | true =>
    obtain ⟨circuitId, hlookup⟩ := inPool_iff.mp hin
    have hbefore := s.readyCount_remove circuitId
    have hafter := (s.update a f).readyCount_remove circuitId
    have hsame : ((s.update a f).remove circuitId).readyCount =
        (s.remove circuitId).readyCount := by
      refine List.countP_congr fun e he => ?_
      obtain ⟨hne, hlookup'⟩ := AList.lookup_erase_eq_some.mp (AList.lookup_eq_some.mpr he)
      refine hothers e.1 e.2 hlookup' ?_
      rintro hea
      exact hne (hsound.lookup_inj (hea ▸ hlookup') hlookup)
    have hgone : (s.update a f).readyIn circuitId = false := by
      unfold readyIn
      rw [show (s.update a f).pool.circuits.lookup circuitId = some a from hlookup,
        Option.any_some, stateOf_update_self f hlive]
      exact decide_eq_false fun h => hf (Option.some.inj h)
    have hready : s.readyIn circuitId = decide (s.stateOf a = some .ready) := by
      unfold readyIn
      rw [hlookup, Option.any_some]
    rw [hgone] at hafter
    rw [hready] at hbefore
    rw [Bool.true_and, ← hafter, hsame, ← hbefore]
    rfl

/-- A circuit that ages out. -/
theorem readyCount_expireOne (hsound : s.Sound)
    (hlookup : s.pool.circuits.lookup circuitId = some a) (hlive : s.heap[a]? = some live)
    (hready : live.circuit.state = .ready) :
    (s.expireOne circuitId).1.readyCount + 1 = s.readyCount := by
  have hcount := readyCount_update (f := LiveCircuit.expire) hsound hlive nofun
  have hstate : s.stateOf a = some .ready := (stateOf_of_getElem? hlive).trans (congrArg _ hready)
  rw [inPool_iff.mpr ⟨_, hlookup⟩, decide_eq_true hstate] at hcount
  rw [(alike_expired hlookup hlive hready).readyCount]
  exact hcount

theorem readyCount_replace_failed (s : Store) (failedId : CircuitId) (now : Nat) (error : Error) :
    (s.replaceCircuit failedId now (.error error)).1.readyCount + (s.readyIn failedId).toNat =
      s.readyCount := by
  rw [(alike_replace_failed s failedId now error).readyCount]
  exact s.readyCount_remove failedId

theorem readyCount_replaced (hsound : s.Sound) (failedId : CircuitId) (now : Nat)
    (onionKeys : OnionKeys) :
    (s.replaceCircuit failedId now (.ok onionKeys)).1.readyCount + (s.readyIn failedId).toNat +
      ((s.remove failedId).readyIn s.pool.nextCircuitId).toNat = s.readyCount + 1 := by
  have hadd := readyCount_add (hsound.remove failedId) onionKeys
  have hremove := s.readyCount_remove failedId
  rw [(alike_replaced s failedId now onionKeys).readyCount]
  rw [show (s.remove failedId).pool.nextCircuitId = s.pool.nextCircuitId from rfl] at hadd
  omega

end Store

/-! ## What the monitor owes -/

/-- A task of the monitor, not of a connection. -/
def PoolTask.ofMonitor : PoolTask → Bool
  | .selecting _ _ _ => false
  | _ => true

/-- How many circuits the task has aged out. -/
def PoolTask.aged : PoolTask → Nat
  | .expiring _ agedOut => agedOut.length
  | _ => 0

/-- The monitor goes on, or a search takes the mutex, goes on or ends. -/
def ClientEvent.takesTurn : ClientEvent → Bool
  | .monitor _ _ | .look _ | .release _ _ | .select _ => true
  | _ => false

deriving instance DecidableEq for MonitorPhase

/-- How many builds are still to come. -/
def MonitorPhase.left : MonitorPhase → Nat
  | .rebuilding left => left
  | _ => 0

namespace ClientState

/-- One more replacement is owed. -/
def Act.owes : Act → Nat
  | .expires _ _ => 1
  | _ => 0

/-- One that was owed is built, or its build has failed. -/
def Act.settles : Act → Nat
  | .rebuilds _ _ => 1
  | _ => 0

/-- The monitor searches while it holds the pool's mutex. -/
def Phased (s : ClientState) : Prop :=
  s.monitor = .searching ↔ s.holder.any PoolTask.ofMonitor = true

/-- What a step does to the replacements owed. -/
structure Turned (s : ClientState) (act : Act) (s' : ClientState) : Prop where
  phased : s'.Phased
  owed : s'.owed + act.settles = s.owed + act.owes

variable {P : Primitives} {s s' : ClientState}

theorem owed_eq (s : ClientState) : s.owed = s.holder.elim 0 PoolTask.aged + s.monitor.left := by
  rw [owed]
  congr 1
  cases s.holder with
  | none => rfl
  | some task => cases task <;> rfl

namespace Turned

variable {act : Act} {holder : Option PoolTask} {monitor before : MonitorPhase} {task task' : PoolTask}

theorem of (hholder : s'.holder = holder) (hmonitor : s'.monitor = monitor)
    (hphased : monitor = .searching ↔ holder.any PoolTask.ofMonitor = true)
    (howed : holder.elim 0 PoolTask.aged + monitor.left + act.settles = s.owed + act.owes) :
    s.Turned act s' := by
  constructor
  · unfold Phased
    rw [hholder, hmonitor]
    exact hphased
  · rw [owed_eq, hholder, hmonitor]
    exact howed

theorem same (h : s.Phased) (hholder : s'.holder = s.holder) (hmonitor : s'.monitor = s.monitor)
    (howes : act.owes = 0) (hsettles : act.settles = 0) : s.Turned act s' := by
  refine .of hholder hmonitor h ?_
  rw [← owed_eq, howes, hsettles]

/-- The monitor goes on without the mutex. -/
theorem free (hfree : s.holder = none) (hbefore : s.monitor = before)
    (hholder : s'.holder = s.holder) (hmonitor : s'.monitor = monitor) (hne : monitor ≠ .searching)
    (hleft : monitor.left + act.settles = before.left + act.owes) : s.Turned act s' := by
  refine .of hholder hmonitor ?_ ?_
  · rw [hfree]
    exact iff_of_false hne nofun
  · rw [owed_eq, hfree, hbefore, Nat.add_assoc, hleft, Nat.add_assoc]

/-- The monitor takes the mutex. -/
theorem takes (hfree : s.holder = none) (hbefore : s.monitor = before)
    (hholder : s'.holder = some task) (hmonitor : s'.monitor = .searching)
    (htask : task.ofMonitor = true) (haged : task.aged = 0) (hleft : before.left = 0) :
    s.Turned .other s' := by
  refine .of hholder hmonitor (iff_of_true rfl htask) ?_
  rw [owed_eq, hfree, hbefore, Option.elim_some, haged, Option.elim_none, hleft]
  rfl

/-- The holder of the mutex goes on. -/
theorem keeps (h : s.Phased) (hheld : s.holder = some task) (hholder : s'.holder = some task')
    (hmonitor : s'.monitor = s.monitor) (htask : task'.ofMonitor = task.ofMonitor)
    (haged : task'.aged + act.settles = task.aged + act.owes) : s.Turned act s' := by
  refine .of hholder hmonitor ?_ ?_
  · rw [Phased, hheld] at h
    rw [Option.any_some, htask]
    exact h
  · rw [owed_eq, hheld, Option.elim_some, Option.elim_some]
    omega

/-- The monitor releases it. -/
theorem releases (h : s.Phased) (hheld : s.holder = some task) (htask : task.ofMonitor = true)
    (hholder : s'.holder = none) (hmonitor : s'.monitor = monitor) (hne : monitor ≠ .searching)
    (hleft : monitor.left = task.aged) : s.Turned .other s' := by
  have hsearching : s.monitor = .searching := h.mpr (by rw [hheld]; exact htask)
  refine .of hholder hmonitor (iff_of_false hne nofun) ?_
  rw [owed_eq, hheld, hsearching, hleft]
  exact Nat.zero_add _

end Turned

theorem turned_monitor (h : s.Phased) (now : Nat) (built : Except Error OnionKeys) :
    s.Turned (s.act P (.monitor now built)) (s.step P (.monitor now built)) := by
  cases hholder : s.holder with
  | some task =>
    have hact : s.act P (.monitor now built) = .other := by simp only [act, hholder]
    rw [step_monitor_held hholder, hact]
    exact .same h rfl rfl rfl rfl
  | none =>
    rw [step_monitor_free hholder]
    unfold monitorTurn
    cases hmonitor : s.monitor with
    | sleeping =>
      have hact : s.act P (.monitor now built) = .other := by simp only [act, hholder, hmonitor]
      rw [hact]
      exact .takes hholder hmonitor rfl rfl rfl rfl rfl
    | searching =>
      have hact : s.act P (.monitor now built) = .other := by simp only [act, hholder, hmonitor]
      rw [hact]
      exact .same h rfl rfl rfl rfl
    | rebuilding left =>
      cases left with
      | zero =>
        have hact : s.act P (.monitor now built) = .other := by simp only [act, hholder, hmonitor]
        rw [hact]
        exact .takes hholder hmonitor rfl rfl rfl rfl rfl
      | succ left =>
        have hact : s.act P (.monitor now built) = .rebuilds now built := by
          simp only [act, hholder, hmonitor]
        rw [hact]
        dsimp only
        exact .free hholder hmonitor rfl rfl (fun h => by cases h) rfl
    | removing dirtyIds =>
      cases dirtyIds with
      | nil =>
        have hact : s.act P (.monitor now built) = .other := by simp only [act, hholder, hmonitor]
        rw [hact]
        exact .takes hholder hmonitor rfl rfl rfl rfl rfl
      | cons dirtyId dirtyIds =>
        have hact : s.act P (.monitor now built) = .cleansUp dirtyId := by
          simp only [act, hholder, hmonitor]
        rw [hact]
        dsimp only
        exact .free hholder hmonitor rfl rfl (fun h => by cases h) rfl
    | replacing failedIds =>
      have hact : s.act P (.monitor now built) = .other := by simp only [act, hholder, hmonitor]
      rw [hact]
      cases failedIds with
      | nil => exact .free hholder hmonitor rfl rfl (fun h => by cases h) rfl
      | cons failedId failedIds =>
        dsimp only
        split
        · exact .free hholder hmonitor rfl rfl (fun h => by cases h) rfl
        · exact .free hholder hmonitor rfl rfl (fun h => by cases h) rfl
    | waiting failedId failedIds =>
      have hact : s.act P (.monitor now built) = .replaces failedId now built := by
        simp only [act, hholder, hmonitor]
      rw [hact]
      dsimp only
      rw [replaceCircuit_eq]
      exact .free hholder hmonitor rfl rfl (fun h => by cases h) rfl

theorem turned_expiring (h : s.Phased) {todo agedOut : List CircuitId} {index : Nat}
    {circuitId : CircuitId} (hholder : s.holder = some (.expiring todo agedOut))
    (hindex : todo[index]? = some circuitId) :
    s.Turned (s.act P (.look index)) (s.step P (.look index)) := by
  rw [look_expiring hholder hindex]
  cases hready : s.store.readyIn circuitId with
  | false =>
    have hact : s.act P (.look index) = .other := by
      simp only [act, hholder, hindex, Option.bind_some]
      unfold Store.readyIn at hready
      cases hlookup : s.store.pool.circuits.lookup circuitId with
      | none => rfl
      | some a =>
        rw [hlookup, Option.any_some] at hready
        exact if_neg (of_decide_eq_false hready)
    rw [hact, Store.expireOne_idle hready]
    exact .keeps h hholder rfl rfl rfl rfl
  | true =>
    obtain ⟨a, live, hlookup, hlive, hstate⟩ := Store.readyIn_iff.mp hready
    have hact : s.act P (.look index) = .expires circuitId a := by
      simp only [act, hholder, hindex, Option.bind_some, hlookup, Option.map_some,
        Store.stateOf_of_getElem? hlive, hstate, if_true]
    rw [hact, Store.expireOne_ready hlookup hlive hstate]
    exact .keeps h hholder rfl rfl rfl List.length_append

theorem turned_look (h : s.Phased) (index : Nat) :
    s.Turned (s.act P (.look index)) (s.step P (.look index)) := by
  cases hholder : s.holder with
  | none =>
    have hact : s.act P (.look index) = .other := by simp only [act, hholder]
    rw [step_look_free hholder, hact]
    exact .same h rfl rfl rfl rfl
  | some task =>
    have hstep := step_look_held (P := P) hholder index
    have hsame : s.Turned .other s := .same h rfl rfl rfl rfl
    cases task with
    | selecting conn todo best =>
      have hact : s.act P (.look index) = .other := by simp only [act, hholder]
      rw [hstep, hact, lookAt]
      split
      · exact hsame
      · split
        · exact hsame
        · exact .keeps h hholder rfl rfl rfl rfl
    | expiring todo agedOut =>
      cases hindex : todo[index]? with
      | none =>
        have hact : s.act P (.look index) = .other := by
          simp only [act, hholder, hindex, Option.bind_none]
        rw [hstep, hact, lookAt, hindex]
        exact hsame
      | some circuitId => exact turned_expiring h hholder hindex
    | sweeping todo dirtyIds =>
      have hact : s.act P (.look index) = .other := by simp only [act, hholder]
      rw [hstep, hact, lookAt]
      split
      · exact hsame
      · split
        · exact hsame
        · split
          · exact .keeps h hholder rfl rfl rfl rfl
          · exact .keeps h hholder rfl rfl rfl rfl
    | counting circuitId a todo dirtyIds =>
      have hact : s.act P (.look index) = .other := by simp only [act, hholder]
      rw [hstep, hact, lookAt]
      split
      · exact hsame
      · exact .keeps h hholder rfl rfl rfl rfl
    | collecting todo failedIds =>
      have hact : s.act P (.look index) = .other := by simp only [act, hholder]
      rw [hstep, hact, lookAt]
      split
      · exact hsame
      · split
        · exact hsame
        · exact .keeps h hholder rfl rfl rfl rfl

/-- A connection that has selected a circuit releases the mutex. -/
theorem turned_selected (h : s.Phased) {conn : Nat} {best : Option (CircuitId × Nat)}
    (hholder : s.holder = some (.selecting conn [] best)) (now : Nat)
    (built : Except Error OnionKeys) {act : Act} (howes : act.owes = 0)
    (hsettles : act.settles = 0) : s.Turned act (s.selected conn best now built) := by
  have hturn : (s.selected conn best now built).holder = none ∧
      (s.selected conn best now built).monitor = s.monitor := by
    unfold selected
    dsimp only
    split
    · split <;> exact ⟨rfl, rfl⟩
    · split <;> exact ⟨rfl, rfl⟩
  refine .of hturn.1 hturn.2 ?_ ?_
  · rw [Phased, hholder] at h
    exact h
  · rw [owed_eq, hholder, howes, hsettles]
    rfl

theorem turned_release (h : s.Phased) (now : Nat) (built : Except Error OnionKeys) :
    s.Turned (s.act P (.release now built)) (s.step P (.release now built)) := by
  have hsame : s.Turned .other s := .same h rfl rfl rfl rfl
  cases hholder : s.holder with
  | none =>
    have hact : s.act P (.release now built) = .other := by simp only [act, hholder]
    rw [step_release_free hholder, hact]
    exact hsame
  | some task =>
    rw [step_release_held hholder]
    cases task with
    | selecting conn todo best =>
      cases todo with
      | cons next todo =>
        have hact : s.act P (.release now built) = .other := by
          cases best <;> simp only [act, hholder]
        rw [hact]
        exact hsame
      | nil =>
        have hact : (s.act P (.release now built)).owes = 0 ∧
            (s.act P (.release now built)).settles = 0 := by
          unfold act
          rw [hholder]
          cases best with
          | none => exact ⟨rfl, rfl⟩
          | some best =>
            dsimp only
            split <;> exact ⟨rfl, rfl⟩
        exact turned_selected h hholder now built hact.1 hact.2
    | expiring todo agedOut =>
      have hact : s.act P (.release now built) = .other := by simp only [act, hholder]
      rw [hact]
      cases todo with
      | cons next todo => exact hsame
      | nil => exact .releases h hholder rfl rfl rfl (fun h => by cases h) rfl
    | sweeping todo dirtyIds =>
      have hact : s.act P (.release now built) = .other := by simp only [act, hholder]
      rw [hact]
      cases todo with
      | cons next todo => exact hsame
      | nil => exact .releases h hholder rfl rfl rfl (fun h => by cases h) rfl
    | counting circuitId a todo dirtyIds =>
      have hact : s.act P (.release now built) = .other := by simp only [act, hholder]
      rw [hact]
      exact hsame
    | collecting todo failedIds =>
      have hact : s.act P (.release now built) = .other := by simp only [act, hholder]
      rw [hact]
      cases todo with
      | cons next todo => exact hsame
      | nil => exact .releases h hholder rfl rfl rfl (fun h => by cases h) rfl

/-- Holder and monitor are as before. -/
structure Elsewhere (s s' : ClientState) : Prop where
  holder : s'.holder = s.holder
  monitor : s'.monitor = s.monitor

theorem elsewhere_streamStep (s : ClientState) (conn : Nat) (a : Arc) (t : StreamTask)
    (connected : Bool) (input : StreamInput) :
    s.Elsewhere (s.streamStep P conn a t connected input) := by
  unfold streamStep
  cases input with
  | send writer =>
    dsimp only
    split
    · exact ⟨rfl, rfl⟩
    · exact ⟨rfl, rfl⟩
  | receive =>
    dsimp only
    split
    · exact ⟨rfl, rfl⟩
    · exact ⟨rfl, rfl⟩
  | unregister =>
    dsimp only
    split
    · exact ⟨rfl, rfl⟩
    · exact ⟨rfl, rfl⟩
  | receiveUnwritten | reply _ | giveUp | socksRead _ => exact ⟨rfl, rfl⟩

/-- What connections, readers and keepalives do is no concern of the monitor's. -/
theorem elsewhere_step (s : ClientState) {e : ClientEvent} (he : e.takesTurn = false) :
    s.Elsewhere (s.step P e) := by
  cases e with
  | monitor _ _ | look _ | release _ _ | select _ => cases he
  | accept => exact ⟨rfl, rfl⟩
  | register conn destination =>
    unfold step register
    dsimp only
    split
    · split <;> exact ⟨rfl, rfl⟩
    · exact ⟨rfl, rfl⟩
  | stream conn input =>
    unfold step
    dsimp only
    split
    · exact s.elsewhere_streamStep ..
    · exact ⟨rfl, rfl⟩
  | checkClosed conn =>
    unfold step
    dsimp only
    split
    · split <;> exact ⟨rfl, rfl⟩
    · exact ⟨rfl, rfl⟩
  | replaceFailed conn now built =>
    unfold step
    dsimp only
    split
    · exact ⟨rfl, rfl⟩
    · exact ⟨rfl, rfl⟩
  | read a input =>
    unfold step read
    dsimp only
    split
    · exact ⟨rfl, rfl⟩
    · split <;> exact ⟨rfl, rfl⟩
  | readerEnd a =>
    unfold step readerEnd
    dsimp only
    split
    · exact ⟨rfl, rfl⟩
    · split <;> exact ⟨rfl, rfl⟩
  | keepalive a writer data => exact ⟨rfl, rfl⟩

theorem act_elsewhere (s : ClientState) {e : ClientEvent} (he : e.takesTurn = false) :
    (s.act P e).owes = 0 ∧ (s.act P e).settles = 0 := by
  cases e with
  | monitor _ _ | look _ | release _ _ | select _ => cases he
  | accept | checkClosed _ | readerEnd _ | keepalive _ _ _ => exact ⟨rfl, rfl⟩
  | register conn destination =>
    unfold act
    dsimp only
    split
    · split <;> exact ⟨rfl, rfl⟩
    · exact ⟨rfl, rfl⟩
  | stream conn input =>
    cases input with
    | unregister =>
      unfold act
      dsimp only
      split
      · split <;> exact ⟨rfl, rfl⟩
      · exact ⟨rfl, rfl⟩
    | _ => exact ⟨rfl, rfl⟩
  | replaceFailed conn now built =>
    unfold act
    dsimp only
    split <;> exact ⟨rfl, rfl⟩
  | read a input =>
    unfold act
    dsimp only
    split
    · split <;> exact ⟨rfl, rfl⟩
    · exact ⟨rfl, rfl⟩

theorem turned_select (h : s.Phased) (conn : Nat) :
    s.Turned (s.act P (.select conn)) (s.step P (.select conn)) := by
  show s.Turned .other _
  rw [step]
  split
  · rename_i hholder hconn
    rw [Phased, hholder] at h
    refine .of rfl rfl h ?_
    rw [owed_eq, hholder]
    rfl
  · exact .same h rfl rfl rfl rfl

/-- **What is owed** grows by the circuits that age out and shrinks by the builds of the
monitor, however they end. -/
theorem turned_step (h : s.Phased) (e : ClientEvent) : s.Turned (s.act P e) (s.step P e) := by
  cases hturn : e.takesTurn with
  | false =>
    have helse := s.elsewhere_step (P := P) hturn
    have hact := s.act_elsewhere (P := P) hturn
    exact .same h helse.holder helse.monitor hact.1 hact.2
  | true =>
    cases e with
    | monitor now built => exact turned_monitor h now built
    | look index => exact turned_look h index
    | release now built => exact turned_release h now built
    | select conn => exact turned_select h conn
    | _ => cases hturn

/-! ## The account -/

variable (P) in
/-- What a step takes from the ready circuits of the pool and the replacements owed: a build
the monitor owes fails, a ready circuit is pushed out of the pool by one under the same id or
taken out, or it ends. -/
def lost (s : ClientState) (e : ClientEvent) : Nat :=
  match s.act P e with
  | .rebuilds _ (.error _) => 1
  | .rebuilds _ (.ok _) | .demands _ (.ok _) =>
    (s.store.readyIn s.store.pool.nextCircuitId).toNat
  | .cleansUp dirtyId => (s.store.readyIn dirtyId).toNat
  | .replaces failedId _ (.error _) => (s.store.readyIn failedId).toNat
  | .replaces failedId _ (.ok _) => (s.store.readyIn failedId).toNat +
    ((s.store.remove failedId).readyIn s.store.pool.nextCircuitId).toNat
  | .leaves a _ => (s.store.inPool a && decide (s.store.stateOf a = some .ready)).toNat
  | _ => 0

variable (P) in
/-- What it adds: a circuit built on demand or for one that ended. -/
def gained (s : ClientState) (e : ClientEvent) : Nat :=
  match s.act P e with
  | .demands _ (.ok _) | .replaces _ _ (.ok _) => 1
  | _ => 0

/-- Ready circuits of the pool, and replacements that are still to come. -/
def promised (s : ClientState) : Nat := s.store.readyCount + s.owed

/-- **The account balances at every step.** -/
theorem balance_step (hsound : s.store.Sound) (h : s.Phased) (e : ClientEvent) :
    (s.step P e).promised + s.lost P e = s.promised + s.gained P e := by
  have hstep := step_act (P := P) s e
  have howed := (turned_step (P := P) h e).owed
  unfold promised lost gained
  generalize s.act P e = act at hstep howed
  generalize s.step P e = s' at hstep howed
  cases hstep with
  | quiet hstore hbeside =>
    change s'.owed = s.owed at howed
    rw [hstore, howed]
  | touched hf hstore hbeside =>
    change s'.owed = s.owed at howed
    rw [hstore, howed, Store.readyCount_update_same fun live hlive => (hf live hlive).state]
  | @ended _ a live hlive hreader hstore hbeside =>
    change s'.owed = s.owed at howed
    rw [hstore, howed,
      Store.readyCount_update_same (hsound.state_readerEnd hlive hreader)]
  | @registered _ a live conn hlive hselected hstore hbeside =>
    change s'.owed = s.owed at howed
    rw [hstore, howed, Store.readyCount_update_same fun live' hlive' => ?_]
    cases hlive.symm.trans hlive'
    rfl
  | @unregistered _ a streamId hstore hbeside =>
    change s'.owed = s.owed at howed
    have hcount : (s.store.update a fun live => live.unregister streamId).readyCount =
        s.store.readyCount := Store.readyCount_update_same fun _ _ => rfl
    rw [hstore, howed, hcount]
  | @left _ a input live hlive hreader hleaves hstore hbeside =>
    change s'.owed = s.owed at howed
    have hclosed : (live.read P input).1.circuit.state ≠ .ready := by
      rw [(LiveCircuit.told_read hleaves).1]
      exact nofun
    have hcount := Store.readyCount_update (f := fun _ => (live.read P input).1) hsound hlive
      hclosed
    rw [hstore, howed]
    dsimp only
    omega
  | expired hlookup hlive hready hstore hattempts hremoved howed' hconnections =>
    change s'.owed = s.owed + 1 at howed
    have hcount := Store.readyCount_expireOne hsound hlookup hlive hready
    rw [hstore, howed]
    dsimp only
    omega
  | @rebuilt _ now built hstore hattempts hremoved howed' hconnections =>
    change s'.owed + 1 = s.owed at howed
    rw [hstore]
    cases built with
    | error error =>
      rw [(Store.alike_build_failed s.store now error).readyCount]
      dsimp only
      omega
    | ok onionKeys =>
      have hcount := Store.readyCount_buildCircuit hsound now onionKeys
      dsimp only
      omega
  | @demanded _ now built hstore hattempts hremoved howed' hselected =>
    change s'.owed = s.owed at howed
    rw [hstore, howed]
    cases built with
    | error error => rw [(Store.alike_build_failed s.store now error).readyCount]
    | ok onionKeys =>
      have hcount := Store.readyCount_buildCircuit hsound now onionKeys
      dsimp only
      omega
  | picked hin hstore hattempts hremoved howed' hselected =>
    change s'.owed = s.owed at howed
    rw [hstore, howed]
  | @cleaned _ dirtyId hstore hattempts hremoved howed' hconnections =>
    change s'.owed = s.owed at howed
    have hcount := s.store.readyCount_remove dirtyId
    rw [hstore, howed]
    dsimp only
    omega
  | @replaced _ failedId now built hstore hattempts hremoved howed' hselected =>
    change s'.owed = s.owed at howed
    rw [hstore, howed]
    cases built with
    | error error =>
      have hcount := s.store.readyCount_replace_failed failedId now error
      dsimp only
      omega
    | ok onionKeys =>
      have hcount := Store.readyCount_replaced hsound failedId now onionKeys
      dsimp only
      omega

/-- Startup fills the pool, up to as many circuits as there are ids. -/
theorem filled_initializePool {poolSize m : Nat} {builds : Nat → Nat × Except Error OnionKeys}
    {store : Store} (hstart : (Store.new poolSize m).initializePool builds = .ok store)
    (hsize : poolSize ≤ UInt32.size) : store.pool.circuits.entries.length = poolSize := by
  have hkeeps := Store.initializePool_keeps (fun i s => i ≤ UInt32.size →
    s.pool.circuits.entries.length = i ∧ s.pool.nextCircuitId = UInt32.ofNat (i + 1) ∧
      ∀ circuitId ∈ s.pool.circuits, ∃ j < i, circuitId = UInt32.ofNat (j + 1)) ?_ hstart ?_
  · exact (hkeeps hsize).1
  · intro i s now onionKeys h hi
    obtain ⟨hlength, hnext, hids⟩ := h (Nat.le_of_succ_le hi)
    have hnew : s.pool.nextCircuitId ∉ s.pool.circuits := by
      intro hmem
      obtain ⟨j, hj, hsame⟩ := hids _ hmem
      rw [hnext] at hsame
      have hmod := congrArg UInt32.toNat hsame
      rw [UInt32.toNat_ofNat', UInt32.toNat_ofNat'] at hmod
      rw [UInt32.size] at hi
      omega
    refine ⟨?_, ?_, fun circuitId hmem => ?_⟩
    · show (s.pool.circuits.insert s.pool.nextCircuitId s.heap.length).entries.length = _
      rw [AList.entries_insert_of_notMem hnew, List.length_cons, hlength]
    · show s.pool.nextCircuitId + 1 = _
      rw [hnext, UInt32.ofNat_add (i + 1) 1]
      rfl
    · rcases (AList.mem_insert _).mp hmem with rfl | hold
      · exact ⟨i, Nat.lt_succ_self i, hnext⟩
      · obtain ⟨j, hj, hsame⟩ := hids circuitId hold
        exact ⟨j, Nat.lt_succ_of_lt hj, hsame⟩
  · exact fun _ => ⟨rfl, rfl, fun _ hmem => absurd hmem List.not_mem_nil⟩

/-- After startup every circuit of the pool is ready, and nothing is owed. -/
theorem promised_start {poolSize m : Nat} {builds : Nat → Nat × Except Error OnionKeys}
    {store : Store} (hstart : (Store.new poolSize m).initializePool builds = .ok store) :
    (start store).promised = store.pool.circuits.entries.length := by
  have hready : store.Sound ∧ ∀ (a : Arc) (live : LiveCircuit),
      store.heap[a]? = some live → live.circuit.state = .ready := by
    refine Store.initializePool_keeps (fun _ s => s.Sound ∧ ∀ (a : Arc) (live : LiveCircuit),
      s.heap[a]? = some live → live.circuit.state = .ready) ?_ hstart ?_
    · rintro i s now onionKeys ⟨hsound, hready⟩
      refine ⟨hsound.buildCircuit now (.ok onionKeys), fun a live hlive => ?_⟩
      rcases @Store.of_getElem?_add s a onionKeys live hlive with hold | ⟨-, rfl⟩
      · exact hready a live hold
      · rfl
    · exact ⟨.new poolSize m, nofun⟩
  show store.readyCount = _
  refine List.countP_eq_length.mpr fun e he => decide_eq_true ?_
  obtain ⟨live, hlive, -⟩ := hready.1.filed e.1 e.2 (AList.lookup_eq_some.mpr he)
  rw [Store.stateOf_of_getElem? hlive, hready.2 e.2 live hlive]

/-- **A pool that was full is full after a pass exactly if the losses of its run were made
good.** Of a pool whose circuits only age, what is lost are the builds of replacements that
fail: each is attempted once. -/
theorem ready_poolSize_iff {poolSize m : Nat} {builds : Nat → Nat × Except Error OnionKeys}
    {store : Store} (hstart : (Store.new poolSize m).initializePool builds = .ok store)
    (hfilled : store.pool.circuits.entries.length = poolSize) {events : List ClientEvent}
    (hasleep : (run (step P) (start store) events).monitor = .sleeping) :
    poolSize ≤ (run (step P) (start store) events).store.readyCount ↔
      total (step P) (lost P) (start store) events ≤
        total (step P) (gained P) (start store) events := by
  have hinv : ∀ (s : ClientState) (e : ClientEvent), s.store.Sound ∧ s.Phased →
      (s.step P e).store.Sound ∧ (s.step P e).Phased :=
    fun s e h => ⟨(step_act s e).sound h.1, (turned_step h.2 e).phased⟩
  have h0 : (start store).store.Sound ∧ (start store).Phased :=
    ⟨Store.sound_initializePool hstart, iff_of_false nofun nofun⟩
  have hbalance : (run (step P) (start store) events).promised +
      total (step P) (lost P) (start store) events =
        (start store).promised + total (step P) (gained P) (start store) events :=
    balance_run hinv (fun s e h => balance_step h.1 h.2 e) h0
  have hphased : (run (step P) (start store) events).Phased := (run_invariant hinv h0).2
  -- a monitor that is asleep owes nothing
  have howed : (run (step P) (start store) events).owed = 0 := by
    rw [owed_eq, hasleep]
    cases hholder : (run (step P) (start store) events).holder with
    | none => rfl
    | some task =>
      rw [Phased, hasleep, hholder] at hphased
      cases task with
      | selecting conn todo best => rfl
      | _ => exact absurd (hphased.mpr rfl) nofun
  rw [promised_start hstart, hfilled] at hbalance
  unfold promised at hbalance
  omega

/-! ### A build that fails once -/

/-- A pass in which the only circuit of a pool ages out and is idle, and its replacement
fails. -/
def failedPass : List ClientEvent :=
  let now := 600 * 1000000000
  let failed : Except Error OnionKeys := .error (.text "Connection refused")
  [.monitor now failed, .look 0, .release now failed, .monitor now failed, .monitor now failed,
    .look 0, .look 0, .release now failed, .monitor now failed, .monitor now failed,
    .release now failed, .monitor now failed]

/-- A pass over an empty pool, in which every build would succeed. -/
def emptyPass : List ClientEvent :=
  let now := 660 * 1000000000
  [.monitor now sampleBuilt, .release now sampleBuilt, .monitor now sampleBuilt,
    .release now sampleBuilt, .monitor now sampleBuilt, .release now sampleBuilt,
    .monitor now sampleBuilt]

/-- A pass like the first in which the replacement is built. -/
def rebuiltPass : List ClientEvent :=
  let now := 600 * 1000000000
  [.monitor now sampleBuilt, .look 0, .release now sampleBuilt, .monitor now sampleBuilt,
    .monitor now sampleBuilt, .look 0, .look 0, .look 0, .release now sampleBuilt,
    .monitor now sampleBuilt, .monitor now sampleBuilt, .look 0, .release now sampleBuilt,
    .monitor now sampleBuilt]

theorem rebuiltPass_ready :
    1 ≤ (run (step .sample) (start (sampleStore 1 3)) rebuiltPass).store.readyCount := by
  have hstart : (Store.new 1 3).initializePool (fun _ => (0, sampleBuilt)) =
      .ok (sampleStore 1 3) := rfl
  have hasleep : (run (step .sample) (start (sampleStore 1 3)) rebuiltPass).monitor =
      .sleeping := by decide +kernel
  refine (ready_poolSize_iff hstart rfl hasleep).mpr ?_
  decide +kernel

/-- **A replacement that fails is never built.** No relay closes a circuit; a pass later, with
nothing left to fail, the pool of one is still empty. -/
theorem failed_replacement_lost :
    let events := failedPass ++ emptyPass
    (Store.new 1 3).initializePool (fun _ => (0, sampleBuilt)) = .ok (sampleStore 1 3) ∧
      (∀ e ∈ events, ∀ a input, e ≠ .read a input) ∧
      (run (step .sample) (start (sampleStore 1 3)) failedPass).monitor = .sleeping ∧
      (run (step .sample) (start (sampleStore 1 3)) events).monitor = .sleeping ∧
      ¬1 ≤ (run (step .sample) (start (sampleStore 1 3)) events).store.readyCount := by
  refine ⟨rfl, ?_, by decide +kernel, by decide +kernel, by decide +kernel⟩
  intro e he a input
  rintro rfl
  simp [failedPass, emptyPass] at he

end ClientState

end MiniTor.Client
