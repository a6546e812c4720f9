import Mathlib
import MiniTor.Client.Budget

/-!
# How many circuits are ready

Four places build circuits: startup, the monitor for circuits that aged out or were
found Closed, `select_circuit` when none is ready, and every failed SOCKS connection.
None of them counts. What bounds the ready circuits, where something does, is that a
build fills a slot that a circuit has left.

- `Store.takers`: the circuits that a slot is spoken for by: the ready ones, and the
  Closed ones in the pool, which the monitor is going to replace.
- `ClientState.PerSlot`: no step speaks for one more slot while all are.
- `ready_le_poolSize`: then the pool never outgrows its size.
- `replaced_twice`: the monitor and an on-demand build replace the same circuit.
-/

namespace MiniTor.Client

open Theory

namespace Store

variable {s t : Store}

/-- A ready circuit, or a Closed one in the pool. -/
def takes (s : Store) (a : Arc) : Bool :=
  s.stateOf a = some .ready || (s.stateOf a = some .closed && s.inPool a)

def takers (s : Store) : Finset Arc := (Finset.range s.heap.length).filter fun a => s.takes a = true

theorem takes_iff {a : Arc} : s.takes a = true ↔
    s.stateOf a = some .ready ∨ s.stateOf a = some .closed ∧ s.inPool a = true := by
  unfold takes
  rw [Bool.or_eq_true, Bool.and_eq_true, decide_eq_true_iff, decide_eq_true_iff]

theorem mem_takers {a : Arc} : a ∈ s.takers ↔ s.takes a = true := by
  unfold takers
  rw [Finset.mem_filter, Finset.mem_range]
  refine and_iff_right_of_imp fun h => ?_
  rcases takes_iff.mp h with hready | ⟨hclosed, -⟩
  · exact lt_of_stateOf hready
  · exact lt_of_stateOf hclosed

theorem card_takers_le (h : ∀ a, t.takes a = true → s.takes a = true) :
    t.takers.card ≤ s.takers.card :=
  Finset.card_le_card fun a ha => mem_takers.mpr (h a (mem_takers.mp ha))

/-- One taker more at most. -/
theorem card_takers_insert (b : Arc) (h : ∀ a, t.takes a = true → a = b ∨ s.takes a = true) :
    t.takers.card ≤ s.takers.card + 1 := by
  have hsub : t.takers ⊆ insert b s.takers := by
    intro a ha
    rcases h a (mem_takers.mp ha) with rfl | hold
    · exact Finset.mem_insert_self ..
    · exact Finset.mem_insert_of_mem (mem_takers.mpr hold)
  exact (Finset.card_le_card hsub).trans (Finset.card_insert_le ..)

/-- One taker less at least. -/
theorem card_takers_erase {b : Arc} (hb : s.takes b = true)
    (h : ∀ a, t.takes a = true → a ≠ b ∧ s.takes a = true) :
    t.takers.card + 1 ≤ s.takers.card := by
  have hsub : t.takers ⊆ s.takers.erase b := by
    intro a ha
    obtain ⟨hne, hold⟩ := h a (mem_takers.mp ha)
    exact Finset.mem_erase.mpr ⟨hne, mem_takers.mpr hold⟩
  have hcard := Finset.card_le_card hsub
  have hmem := mem_takers.mpr hb
  rw [Finset.card_erase_of_mem hmem] at hcard
  have hpos : 0 < s.takers.card := Finset.card_pos.mpr ⟨b, hmem⟩
  omega

theorem takers_alike (h : s.Alike t) : t.takers.card ≤ s.takers.card := by
  refine card_takers_le fun a ha => ?_
  unfold takes at ha ⊢
  rwa [h.stateOf, h.inPool] at ha

/-! ### The operations -/

theorem takers_remove (s : Store) (circuitId : CircuitId) :
    (s.remove circuitId).takers.card ≤ s.takers.card := by
  refine card_takers_le fun a ha => takes_iff.mpr ?_
  rcases takes_iff.mp ha with hready | ⟨hclosed, hin⟩
  · exact .inl hready
  · obtain ⟨id, -, hid⟩ := inPool_remove hin
    exact .inr ⟨hclosed, inPool_iff.mpr ⟨id, hid⟩⟩

/-- **A Closed circuit that leaves the pool gives its slot back.** -/
theorem takers_remove_closed (h : s.Sound) {circuitId : CircuitId} {b : Arc}
    (hlookup : s.pool.circuits.lookup circuitId = some b) (hclosed : s.stateOf b = some .closed) :
    (s.remove circuitId).takers.card + 1 ≤ s.takers.card := by
  refine card_takers_erase (takes_iff.mpr (.inr ⟨hclosed, inPool_iff.mpr ⟨_, hlookup⟩⟩))
    fun a ha => ?_
  rcases takes_iff.mp ha with hready | ⟨hclosed', hin⟩
  · refine ⟨?_, takes_iff.mpr (.inl hready)⟩
    rintro rfl
    cases hclosed.symm.trans hready
  · obtain ⟨id, -, hid⟩ := inPool_remove hin
    refine ⟨?_, takes_iff.mpr (.inr ⟨hclosed', inPool_iff.mpr ⟨id, hid⟩⟩)⟩
    rintro rfl
    rw [h.not_inPool_remove hlookup] at hin
    cases hin

theorem takers_add (s : Store) (onionKeys : OnionKeys) :
    (s.add onionKeys).takers.card ≤ s.takers.card + 1 := by
  refine card_takers_insert s.heap.length fun a ha => ?_
  by_cases ha' : a = s.heap.length
  · exact .inl ha'
  · right
    have hstate : ∀ state, (s.add onionKeys).stateOf a = some state → s.stateOf a = some state := by
      intro state h
      obtain ⟨live, hlive, hstate⟩ := Option.map_eq_some_iff.mp h
      rcases of_getElem?_add hlive with hold | ⟨hnew, -⟩
      · exact (stateOf_of_getElem? hold).trans (congrArg some hstate)
      · exact absurd hnew ha'
    rcases takes_iff.mp ha with hready | ⟨hclosed, hin⟩
    · exact takes_iff.mpr (.inl (hstate _ hready))
    · rcases inPool_add hin with hnew | hold
      · exact absurd hnew ha'
      · exact takes_iff.mpr (.inr ⟨hstate _ hclosed, hold⟩)

theorem takers_same {a : Arc} {f : LiveCircuit → LiveCircuit}
    (hf : ∀ live, s.heap[a]? = some live → (f live).circuit.state = live.circuit.state) :
    (s.update a f).takers.card ≤ s.takers.card := by
  refine card_takers_le fun b hb => ?_
  unfold takes at hb ⊢
  rwa [stateOf_update_same hf] at hb

/-- **A circuit that ages out gives its slot back.** -/
theorem takers_expire {a : Arc} {live : LiveCircuit} (hlive : s.heap[a]? = some live)
    (hready : live.circuit.state = .ready) :
    (s.update a LiveCircuit.expire).takers.card + 1 ≤ s.takers.card := by
  have hstate : s.stateOf a = some .ready := (stateOf_of_getElem? hlive).trans (congrArg some hready)
  refine card_takers_erase (takes_iff.mpr (.inl hstate)) fun b hb => ?_
  by_cases hab : a = b
  · subst hab
    have hdirty := stateOf_update_self LiveCircuit.expire hlive
    rcases takes_iff.mp hb with hready' | ⟨hclosed, -⟩
    · cases hdirty.symm.trans hready'
    · cases hdirty.symm.trans hclosed
  · refine ⟨Ne.symm hab, ?_⟩
    unfold takes at hb ⊢
    rwa [stateOf_update_ne _ hab] at hb

/-- A circuit that ends keeps its slot, if it was ready. Otherwise it takes one if it is still
in the pool. -/
theorem takers_close {a : Arc} {live : LiveCircuit} {f : LiveCircuit → LiveCircuit}
    (hlive : s.heap[a]? = some live) (hclosed : (f live).circuit.state = .closed) :
    (s.update a f).takers.card ≤ s.takers.card + 1 ∧
      (s.stateOf a = some .ready ∨ s.inPool a = false →
        (s.update a f).takers.card ≤ s.takers.card) := by
  have hself := stateOf_update_self f hlive
  rw [hclosed] at hself
  have hother : ∀ b, a ≠ b → (s.update a f).takes b = true → s.takes b = true := by
    intro b hab hb
    unfold takes at hb ⊢
    rwa [stateOf_update_ne f hab] at hb
  constructor
  · refine card_takers_insert a fun b hb => ?_
    by_cases hab : a = b
    · exact .inl hab.symm
    · exact .inr (hother b hab hb)
  · intro h
    refine card_takers_le fun b hb => ?_
    by_cases hab : a = b
    · subst hab
      rcases h with hready | hout
      · exact takes_iff.mpr (.inl hready)
      · rcases takes_iff.mp hb with hready | ⟨-, hin⟩
        · cases hself.symm.trans hready
        · have hin' : s.inPool a = true := hin
          rw [hout] at hin'
          cases hin'
    · exact hother b hab hb

end Store

namespace ClientState

variable (P : Primitives)

/-- The circuits in state Ready. -/
def readyCircuits (s : ClientState) : Finset Arc :=
  (Finset.range s.store.heap.length).filter fun a => s.store.stateOf a = some .ready

/-- The slots that a circuit takes or that a replacement is owed for. -/
def spokenFor (s : ClientState) : Nat := s.store.takers.card + s.owed

/-- The event speaks for a slot that no circuit has left: it builds on demand, it replaces a
circuit that is not found Closed in the pool, or a circuit ends that is in the pool but not
ready, which the monitor will replace although it was replaced when it aged out. -/
def speaksAnew (s : ClientState) (e : ClientEvent) : Bool :=
  match s.act P e with
  | .demands _ (.ok _) => true
  | .replaces failedId _ (.ok _) => !s.retries failedId
  | .leaves a _ => s.store.inPool a && decide (s.store.stateOf a ≠ some .ready)
  | _ => false

/-- The event speaks for a new slot only while one is left. -/
def PerSlot (s : ClientState) (e : ClientEvent) : Prop :=
  s.speaksAnew P e = true → s.spokenFor < s.store.pool.poolSize

instance (s : ClientState) (e : ClientEvent) : Decidable (s.PerSlot P e) :=
  inferInstanceAs (Decidable (_ → _))

variable {P} {s : ClientState}

theorem card_readyCircuits_le (s : ClientState) : s.readyCircuits.card ≤ s.spokenFor := by
  refine (Finset.card_le_card fun a ha => ?_).trans (Nat.le_add_right ..)
  exact Store.mem_takers.mpr (Store.takes_iff.mpr (.inl (Finset.mem_filter.mp ha).2))

theorem closed_of_retries {circuitId : CircuitId} (h : s.retries circuitId = true) :
    ∃ a, s.store.pool.circuits.lookup circuitId = some a ∧ s.store.stateOf a = some .closed := by
  unfold retries at h
  cases hlookup : s.store.pool.circuits.lookup circuitId with
  | none =>
    rw [hlookup] at h
    cases h
  | some a =>
    rw [hlookup, Option.any_some] at h
    refine ⟨a, rfl, ?_⟩
    unfold Store.stateOf
    cases hlive : s.store.heap[a]? with
    | none =>
      rw [hlive] at h
      cases h
    | some live =>
      rw [hlive, Option.any_some, decide_eq_true_iff] at h
      exact congrArg some h

/-- **A step per slot** never speaks for more slots than there are. -/
theorem spokenFor_step (hsound : s.store.Sound) (h : s.spokenFor ≤ s.store.pool.poolSize)
    {e : ClientEvent} (hper : s.PerSlot P e) :
    (s.step P e).spokenFor ≤ s.store.pool.poolSize := by
  have hspoken : s.spokenFor = s.store.takers.card + s.owed := rfl
  have hstep := step_act (P := P) s e
  unfold PerSlot speaksAnew at hper
  generalize s.act P e = act at hstep hper
  generalize s.step P e = s' at hstep
  have hspoken' : s'.spokenFor = s'.store.takers.card + s'.owed := rfl
  rw [hspoken']
  cases hstep with
  | quiet hstore hbeside =>
    have howed := hbeside.owed
    rw [hstore]
    omega
  | touched hf hstore hbeside =>
    have howed := hbeside.owed
    have hcard := Store.takers_same fun live hlive => (hf live hlive).state
    rw [hstore]
    omega
  | @ended _ a live hlive hreader hstore hbeside =>
    have howed := hbeside.owed
    have hcard := Store.takers_same (hsound.state_readerEnd hlive hreader)
    rw [hstore]
    omega
  | @registered _ a live conn hlive hselected hstore hbeside =>
    have howed := hbeside.owed
    have hcard : (s.store.update a fun _ => (live.register conn).1).takers.card ≤
        s.store.takers.card := by
      refine Store.takers_same fun live' hlive' => ?_
      cases hlive.symm.trans hlive'
      rfl
    rw [hstore]
    omega
  | @unregistered _ a streamId hstore hbeside =>
    have howed := hbeside.owed
    have hcard : (s.store.update a fun live => live.unregister streamId).takers.card ≤
        s.store.takers.card := Store.takers_same fun _ _ => rfl
    rw [hstore]
    omega
  | @left _ a input live hlive hreader hleaves hstore hbeside =>
    have howed := hbeside.owed
    obtain ⟨hmore, hsame⟩ := @Store.takers_close s.store a live
      (fun _ => (live.read P input).1) hlive (LiveCircuit.told_read hleaves).1
    rw [hstore]
    -- a ready circuit leaves its slot to the replacement; one out of the pool took none
    by_cases hready : s.store.stateOf a = some .ready
    · have hcard := hsame (.inl hready)
      omega
    · cases hin : s.store.inPool a with
      | false =>
        have hcard := hsame (.inr hin)
        omega
      | true =>
        have hanew : (s.store.inPool a && decide (s.store.stateOf a ≠ some .ready)) = true := by
          rw [hin, decide_eq_true hready]
          rfl
        have hroom := hper hanew
        omega
  | expired hlookup hlive hready hstore hattempts hremoved howed hconnections =>
    have hcard := Store.takers_expire hlive hready
    have halike := Store.takers_alike (Store.alike_expired hlookup hlive hready)
    rw [hstore]
    omega
  | @rebuilt _ now built hstore hattempts hremoved howed hconnections =>
    rw [hstore]
    cases built with
    | error error =>
      have halike := Store.takers_alike (Store.alike_build_failed s.store now error)
      omega
    | ok onionKeys =>
      have halike := Store.takers_alike (Store.alike_built s.store now onionKeys)
      have hcard := Store.takers_add s.store onionKeys
      omega
  | @demanded _ now built hstore hattempts hremoved howed hselected =>
    rw [hstore]
    cases built with
    | error error =>
      have halike := Store.takers_alike (Store.alike_build_failed s.store now error)
      omega
    | ok onionKeys =>
      have halike := Store.takers_alike (Store.alike_built s.store now onionKeys)
      have hcard := Store.takers_add s.store onionKeys
      have hroom := hper rfl
      omega
  | picked hin hstore hattempts hremoved howed hselected =>
    rw [hstore]
    omega
  | @cleaned _ dirtyId hstore hattempts hremoved howed hconnections =>
    have hcard := Store.takers_remove s.store dirtyId
    rw [hstore]
    omega
  | @replaced _ failedId now built hstore hattempts hremoved howed hselected =>
    have hremove := Store.takers_remove s.store failedId
    rw [hstore]
    cases built with
    | error error =>
      have halike := Store.takers_alike (Store.alike_replace_failed s.store failedId now error)
      omega
    | ok onionKeys =>
      have halike := Store.takers_alike (Store.alike_replaced s.store failedId now onionKeys)
      have hadd := Store.takers_add (s.store.remove failedId) onionKeys
      -- a circuit found Closed in the pool makes room for its own replacement
      cases hretries : s.retries failedId with
      | false =>
        have hanew : (!s.retries failedId) = true := by
          rw [hretries]
          rfl
        have hroom := hper hanew
        omega
      | true =>
        obtain ⟨a, hlookup, hclosed⟩ := closed_of_retries hretries
        have hfreed := Store.takers_remove_closed hsound hlookup hclosed
        omega

/-- The pool is full after startup. -/
theorem spokenFor_start {poolSize m : Nat} {builds : Nat → Nat × Except Error OnionKeys}
    {store : Store} (hstart : (Store.new poolSize m).initializePool builds = .ok store) :
    (start store).spokenFor ≤ poolSize ∧ store.pool.poolSize = poolSize := by
  have hinit : store.takers.card ≤ poolSize ∧ store.pool.poolSize = poolSize := by
    refine Store.initializePool_keeps
      (fun i s => s.takers.card ≤ i ∧ s.pool.poolSize = poolSize) ?_ hstart ⟨Nat.le_refl 0, rfl⟩
    rintro i s now onionKeys ⟨hcard, hsize⟩
    have halike := Store.takers_alike (Store.alike_built s now onionKeys)
    have hadd := Store.takers_add s onionKeys
    exact ⟨by omega, hsize⟩
  exact hinit

/-- **The pool never outgrows its size** in a run whose steps are all per slot. -/
theorem ready_le_poolSize {poolSize m : Nat} {builds : Nat → Nat × Except Error OnionKeys}
    {store : Store} (hstart : (Store.new poolSize m).initializePool builds = .ok store)
    {events : List ClientEvent}
    (hper : EveryStep (step P) (PerSlot P) (start store) events) :
    EveryState (step P) (fun s => s.readyCircuits.card ≤ poolSize) (start store) events := by
  obtain ⟨hspoken, hsize⟩ := spokenFor_start hstart
  refine @EveryStep.everyState _ _ (step P) (PerSlot P)
    (fun s => s.store.Sound ∧ s.spokenFor ≤ poolSize ∧ s.store.pool.poolSize = poolSize) _
    ?_ ?_ _ _ ⟨Store.sound_initializePool hstart, hspoken, hsize⟩ hper
  · rintro s e ⟨hsound, hspoken, hsize⟩ hstep
    refine ⟨(step_act s e).sound hsound, ?_, (step_act s e).change.poolSize.trans hsize⟩
    have hle := spokenFor_step hsound (hspoken.trans (Nat.le_of_eq hsize.symm)) hstep
    exact hle.trans (Nat.le_of_eq hsize)
  · rintro s ⟨-, hspoken, -⟩
    exact (card_readyCircuits_le s).trans hspoken

/-- The circuit of a pool of one ends and the monitor finds it Closed; during its backoff a SOCKS
connection finds no ready circuit. -/
def replaceAndDemand : List ClientEvent :=
  [.read 0 none, .readerEnd 0] ++ samplePass ++ [.monitor 0 sampleBuilt, .accept, .select 0,
    .look 0, .release 0 sampleBuilt, .monitor 0 sampleBuilt]

/-- The same without the connection. -/
def replaceOnly : List ClientEvent :=
  [.read 0 none, .readerEnd 0] ++ samplePass ++ [.monitor 0 sampleBuilt, .monitor 0 sampleBuilt]

theorem replaceOnly_ready : EveryState (step .sample) (fun s => s.readyCircuits.card ≤ 1)
    (start (sampleStore 1 3)) replaceOnly := by
  have hstart : (Store.new 1 3).initializePool (fun _ => (0, sampleBuilt)) =
      .ok (sampleStore 1 3) := rfl
  have hper : EveryStep (step .sample) (PerSlot .sample) (start (sampleStore 1 3)) replaceOnly := by
    decide +kernel
  exact ready_le_poolSize hstart hper

theorem replaceAndDemand_ready :
    (run (step .sample) (start (sampleStore 1 3)) replaceAndDemand).readyCircuits.card = 2 := by
  decide +kernel

/-- **One dead circuit is replaced twice**, and the pool of one has two ready circuits. -/
theorem replaced_twice : ¬EveryState (step .sample) (fun s => s.readyCircuits.card ≤ 1)
    (start (sampleStore 1 3)) replaceAndDemand := by
  intro h
  have hlast : (run (step .sample) (start (sampleStore 1 3))
      replaceAndDemand).readyCircuits.card ≤ 1 := h.last
  rw [replaceAndDemand_ready] at hlast
  exact absurd hlast (by decide)

end ClientState

end MiniTor.Client
