import Mathlib
import MiniTor.Client.Steps

/-!
# Circuits nobody looks after

A circuit whose reader runs has an open connection to its entry. It is looked after
while it is in the pool, where the monitor finds it, or while it has a stream. The
cleanup of idle Dirty circuits only takes them out of the pool: no DESTROY is sent and
no half of the connection is shut down, so reader and connection stay.

- `ClientState.NoOrphan`: what was cleaned up is torn down, and whatever reads is held.
- `ClientState.Attended`: no step lets go of a circuit whose reader runs.
- `every_state_noOrphan_iff`: runs without orphans.
- `cleaned_up_circuit_reads_on`: one circuit that ages out and is idle.
-/

namespace MiniTor.Client

open Theory

namespace Store

variable {s t : Store}

/-- The number of streams registered on a circuit. -/
def streamsOf (s : Store) (a : Arc) : Nat :=
  ((s.heap[a]?).map fun live => live.circuit.activeStreamCount).getD 0

/-- The circuit's reader runs. -/
def reads (s : Store) (a : Arc) : Bool := (s.heap[a]?).any fun live => live.reader = .reading

/-- A DESTROY was sent, or the connection has ended. -/
def tornDown (s : Store) (a : Arc) : Bool :=
  (s.heap[a]?).any fun live => decide (.destroy ∈ live.sent) || decide (live.reader ≠ .reading)

/-- The circuit is in the pool or has a stream. -/
def held (s : Store) (a : Arc) : Bool := s.inPool a || decide (s.streamsOf a ≠ 0)

/-- The circuit filed under the id reads and has no stream: the pool alone holds it. -/
def strands (s : Store) (circuitId : CircuitId) : Bool :=
  (s.pool.circuits.lookup circuitId).any fun a => s.reads a && decide (s.streamsOf a = 0)

theorem reads_iff {a : Arc} :
    s.reads a = true ↔ ∃ live, s.heap[a]? = some live ∧ live.reader = .reading := by
  unfold reads
  cases s.heap[a]? with
  | none => exact iff_of_false (fun h => nomatch h) fun ⟨_, h, _⟩ => nomatch h
  | some live =>
    rw [Option.any_some, decide_eq_true_iff]
    exact ⟨fun h => ⟨live, rfl, h⟩, fun ⟨_, heq, h⟩ => by cases heq; exact h⟩

theorem streamsOf_of_getElem? {a : Arc} {live : LiveCircuit} (h : s.heap[a]? = some live) :
    s.streamsOf a = live.circuit.activeStreamCount := by
  unfold streamsOf
  rw [h]
  rfl

theorem held_iff {a : Arc} : s.held a = true ↔ s.inPool a = true ∨ s.streamsOf a ≠ 0 := by
  unfold held
  rw [Bool.or_eq_true, decide_eq_true_iff]

theorem strands_eq_false {circuitId : CircuitId} (h : s.strands circuitId = false) {a : Arc}
    (hlookup : s.pool.circuits.lookup circuitId = some a) (hreads : s.reads a = true) :
    s.streamsOf a ≠ 0 := by
  unfold strands at h
  rw [hlookup, Option.any_some, hreads, Bool.true_and, decide_eq_false_iff_not] at h
  exact h

theorem of_strands {circuitId : CircuitId} (h : s.strands circuitId = true) :
    ∃ a, s.pool.circuits.lookup circuitId = some a ∧ s.reads a = true ∧ s.streamsOf a = 0 := by
  unfold strands at h
  cases hlookup : s.pool.circuits.lookup circuitId with
  | none =>
    rw [hlookup] at h
    cases h
  | some a =>
    rw [hlookup, Option.any_some, Bool.and_eq_true, decide_eq_true_iff] at h
    exact ⟨a, rfl, h⟩

/-- Whatever reads is held. -/
def AllHeld (s : Store) : Prop := ∀ a, s.reads a = true → s.held a = true

namespace AllHeld

theorem alike (h : s.AllHeld) (halike : s.Alike t) : t.AllHeld := by
  intro a hreads
  unfold reads at hreads
  rw [halike.heap] at hreads
  have hheld := h a hreads
  unfold held streamsOf at hheld ⊢
  rwa [halike.inPool, halike.heap]

/-- A change that starts no reader, and takes no stream from a circuit that reads. -/
theorem update (h : s.AllHeld) {a : Arc} {f : LiveCircuit → LiveCircuit}
    (hf : ∀ live, s.heap[a]? = some live → (f live).reader = .reading →
      live.reader = .reading ∧ (s.held a = true →
        s.inPool a = true ∨ (f live).circuit.activeStreamCount ≠ 0)) : (s.update a f).AllHeld := by
  intro b hreads
  obtain ⟨live, hlive, hreading⟩ := reads_iff.mp hreads
  obtain ⟨old, hold, ⟨rfl, rfl⟩ | ⟨hab, rfl⟩⟩ := of_getElem?_update hlive
  · obtain ⟨hreading', hkept⟩ := hf old hold hreading
    have hheld := h a (reads_iff.mpr ⟨old, hold, hreading'⟩)
    rw [held_iff, streamsOf_of_getElem? hlive]
    exact hkept hheld
  · have hheld := held_iff.mp (h b (reads_iff.mpr ⟨live, hold, hreading⟩))
    rw [streamsOf_of_getElem? hold] at hheld
    rw [held_iff, streamsOf_of_getElem? hlive]
    exact hheld

theorem remove (h : s.AllHeld) {circuitId : CircuitId} (hkept : s.strands circuitId = false) :
    (s.remove circuitId).AllHeld := by
  intro a hreads
  rcases held_iff.mp (h a hreads) with hin | hstreams
  · obtain ⟨id, hid⟩ := inPool_iff.mp hin
    by_cases hne : id = circuitId
    · subst hne
      exact held_iff.mpr (.inr (strands_eq_false hkept hid hreads))
    · exact held_iff.mpr (.inl (inPool_iff.mpr ⟨id, (lookup_remove_ne hne).trans hid⟩))
  · exact held_iff.mpr (.inr hstreams)

theorem add (h : s.AllHeld) (onionKeys : OnionKeys)
    (hkept : s.strands s.pool.nextCircuitId = false) : (s.add onionKeys).AllHeld := by
  intro a hreads
  obtain ⟨live, hlive, hreading⟩ := reads_iff.mp hreads
  rcases of_getElem?_add hlive with hold | ⟨rfl, -⟩
  · have hreads' := reads_iff.mpr ⟨live, hold, hreading⟩
    rw [held_iff, streamsOf_of_getElem? hlive, ← streamsOf_of_getElem? hold]
    rcases held_iff.mp (h a hreads') with hin | hstreams
    · obtain ⟨id, hid⟩ := inPool_iff.mp hin
      by_cases hne : id = s.pool.nextCircuitId
      · subst hne
        exact .inr (strands_eq_false hkept hid hreads')
      · exact .inl (inPool_iff.mpr ⟨id, (lookup_add_ne onionKeys hne).trans hid⟩)
    · exact .inr hstreams
  · exact held_iff.mpr (.inl (inPool_add_self s onionKeys))

/-- **A circuit that only the pool held is lost with its entry.** -/
theorem strands_remove (hsound : s.Sound) {circuitId : CircuitId}
    (h : (s.remove circuitId).AllHeld) : s.strands circuitId = false := by
  rw [← Bool.not_eq_true]
  intro hstrands
  obtain ⟨a, hlookup, hreads, hstreams⟩ := of_strands hstrands
  rcases held_iff.mp (h a hreads) with hin | hmore
  · rw [hsound.not_inPool_remove hlookup] at hin
    cases hin
  · exact hmore hstreams

theorem strands_add (hsound : s.Sound) {onionKeys : OnionKeys} (h : (s.add onionKeys).AllHeld) :
    s.strands s.pool.nextCircuitId = false := by
  rw [← Bool.not_eq_true]
  intro hstrands
  obtain ⟨a, hlookup, hreads, hstreams⟩ := of_strands hstrands
  obtain ⟨live, hlive, hreading⟩ := reads_iff.mp hreads
  have hlive' : (s.add onionKeys).heap[a]? = some live :=
    (getElem?_add_of_lt onionKeys (lt_of_getElem? hlive)).trans hlive
  rcases held_iff.mp (h a (reads_iff.mpr ⟨live, hlive', hreading⟩)) with hin | hmore
  · -- its id now files the new circuit, and it had no other
    obtain ⟨id, hid⟩ := inPool_iff.mp hin
    by_cases hne : id = s.pool.nextCircuitId
    · rw [hne, lookup_add_self] at hid
      cases hid
      exact absurd (lt_of_getElem? hlive) (Nat.lt_irrefl _)
    · rw [lookup_add_ne onionKeys hne] at hid
      obtain ⟨live₁, hlive₁, hid₁⟩ := hsound.filed _ a hlookup
      obtain ⟨live₂, hlive₂, hid₂⟩ := hsound.filed id a hid
      cases hlive₁.symm.trans hlive₂
      exact hne (hid₂.symm.trans hid₁)
  · rw [streamsOf_of_getElem? hlive', ← streamsOf_of_getElem? hlive] at hmore
    exact hmore hstreams

/-- What reads without a stream once a circuit was added was in the pool before. -/
theorem of_add {onionKeys : OnionKeys} (h : (s.add onionKeys).AllHeld) {a : Arc}
    (hreads : s.reads a = true) (hstreams : s.streamsOf a = 0) : s.inPool a = true := by
  obtain ⟨live, hlive, hreading⟩ := reads_iff.mp hreads
  have hlive' : (s.add onionKeys).heap[a]? = some live :=
    (getElem?_add_of_lt onionKeys (lt_of_getElem? hlive)).trans hlive
  rcases held_iff.mp (h a (reads_iff.mpr ⟨live, hlive', hreading⟩)) with hin | hmore
  · rcases inPool_add hin with rfl | hold
    · exact absurd (lt_of_getElem? hlive) (Nat.lt_irrefl _)
    · exact hold
  · rw [streamsOf_of_getElem? hlive', ← streamsOf_of_getElem? hlive] at hmore
    exact absurd hstreams hmore

theorem strands_replace (hsound : s.Sound) {circuitId : CircuitId} {onionKeys : OnionKeys}
    (h : ((s.remove circuitId).add onionKeys).AllHeld) :
    s.strands circuitId = false ∧
      (s.remove circuitId).strands (s.remove circuitId).pool.nextCircuitId = false := by
  refine ⟨?_, strands_add (hsound.remove circuitId) h⟩
  rw [← Bool.not_eq_true]
  intro hstrands
  obtain ⟨a, hlookup, hreads, hstreams⟩ := of_strands hstrands
  have hin := @of_add (s.remove circuitId) onionKeys h a hreads hstreams
  rw [hsound.not_inPool_remove hlookup] at hin
  cases hin

end AllHeld

end Store

namespace ClientState

/-- **No orphans**: what the cleanup removed is torn down, and every circuit whose reader runs
is in the pool or has a stream. -/
structure NoOrphan (s : ClientState) : Prop where
  removed : ∀ a ∈ s.removed, s.store.tornDown a = true
  held : s.store.AllHeld

variable (P : Primitives)

/-- The act leaves a circuit whose reader runs neither in the pool nor with a stream: it takes
the circuit out of the pool, or its last stream away. A build or a replacement takes a circuit
that reads out of the pool only by reusing its id. -/
def strandsBy (s : ClientState) : Act → Bool
  | .cleansUp dirtyId => s.store.strands dirtyId
  | .unregisters a streamId =>
    s.store.reads a && !s.store.inPool a &&
      decide ((s.store.update a fun live => live.unregister streamId).streamsOf a = 0)
  | .rebuilds _ (.ok _) => s.store.strands s.store.pool.nextCircuitId
  | .demands _ (.ok _) => s.store.strands s.store.pool.nextCircuitId
  | .replaces failedId _ (.error _) => s.store.strands failedId
  | .replaces failedId _ (.ok _) => s.store.strands failedId ||
    (s.store.remove failedId).strands (s.store.remove failedId).pool.nextCircuitId
  | _ => false

/-- The event lets go of a circuit whose reader runs: the cleanup removes it, with or without
streams, or it loses whatever held it. -/
def abandons (s : ClientState) (e : ClientEvent) : Bool :=
  match s.act P e with
  | .cleansUp dirtyId => (s.store.pool.circuits.lookup dirtyId).any s.store.reads
  | act => s.strandsBy act

/-- The event lets go of no circuit whose reader runs. -/
def Attended (s : ClientState) (e : ClientEvent) : Prop := s.abandons P e = false

instance (s : ClientState) (e : ClientEvent) : Decidable (s.Attended P e) :=
  inferInstanceAs (Decidable (_ = _))

variable {P} {s : ClientState}

/-! ## Readers and cells sent, step by step -/

/-- What a step does to a circuit that is there: no reader starts, and no DESTROY is sent. -/
structure Onward (live live' : LiveCircuit) : Prop where
  reader : live'.reader = .reading → live.reader = .reading
  sent : .destroy ∈ live'.sent → .destroy ∈ live.sent

/-- The circuits of the next state come from this one, or are new. -/
theorem Step.onward {act : Act} {s' : ClientState} (hstep : s.Step P act s') {a : Arc}
    {live' : LiveCircuit} (hlive' : s'.store.heap[a]? = some live') :
    (∃ live, s.store.heap[a]? = some live ∧ Onward live live') ∨
      (s.store.heap[a]? = none ∧ live'.sent = []) := by
  have hsame : ∀ t : Store, t.heap = s.store.heap → t.heap[a]? = some live' →
      ∃ live, s.store.heap[a]? = some live ∧ Onward live live' := by
    intro t heq h
    rw [heq] at h
    exact ⟨live', h, id, id⟩
  have hupdate : ∀ (b : Arc) (f : LiveCircuit → LiveCircuit),
      (∀ live, s.store.heap[b]? = some live → Onward live (f live)) →
      (s.store.update b f).heap[a]? = some live' →
      ∃ live, s.store.heap[a]? = some live ∧ Onward live live' := by
    intro b f hf h
    obtain ⟨old, hold, ⟨rfl, rfl⟩ | ⟨-, rfl⟩⟩ := Store.of_getElem?_update h
    · exact ⟨old, hold, hf old hold⟩
    · exact ⟨live', hold, id, id⟩
  have hadd : ∀ t : Store, t.heap = s.store.heap → ∀ onionKeys,
      (t.add onionKeys).heap[a]? = some live' →
      (∃ live, s.store.heap[a]? = some live ∧ Onward live live') ∨
        (s.store.heap[a]? = none ∧ live'.sent = []) := by
    intro t heq onionKeys h
    rcases Store.of_getElem?_add h with hold | ⟨rfl, rfl⟩
    · exact .inl (hsame t heq hold)
    · refine .inr ⟨?_, rfl⟩
      rw [heq]
      exact List.getElem?_eq_none (Nat.le_refl _)
  cases hstep with
  | quiet hstore hbeside => exact .inl (hsame _ (congrArg Store.heap hstore) hlive')
  | touched hf hstore hbeside =>
    rw [hstore] at hlive'
    refine .inl (hupdate _ _ (fun live hlive => ?_) hlive')
    exact ⟨fun h => (hf live hlive).reader.symm.trans h, (hf live hlive).sent⟩
  | ended hlive hreader hstore hbeside =>
    rw [hstore] at hlive'
    refine .inl (hupdate _ _ (fun _ _ => ?_) hlive')
    exact ⟨fun h => (nomatch h), id⟩
  | registered hlive hselected hstore hbeside =>
    rw [hstore] at hlive'
    refine .inl (hupdate _ _ (fun old hold => ?_) hlive')
    cases hlive.symm.trans hold
    exact ⟨id, id⟩
  | unregistered hstore hbeside =>
    rw [hstore] at hlive'
    refine .inl (hupdate _ _ (fun _ _ => ?_) hlive')
    exact ⟨id, id⟩
  | left hlive hreader hleaves hstore hbeside =>
    rw [hstore] at hlive'
    refine .inl (hupdate _ _ (fun old hold => ?_) hlive')
    cases hlive.symm.trans hold
    exact ⟨fun _ => hreader, id⟩
  | expired hlookup hlive hready hstore hattempts hremoved howed hconnections =>
    rw [hstore, (Store.alike_expired hlookup hlive hready).heap] at hlive'
    refine .inl (hupdate _ _ (fun _ _ => ?_) hlive')
    exact ⟨id, id⟩
  | @rebuilt _ now built hstore hattempts hremoved howed hconnections =>
    rw [hstore] at hlive'
    cases built with
    | error error => exact .inl (hsame _ rfl hlive')
    | ok onionKeys => exact hadd s.store rfl onionKeys hlive'
  | @demanded _ now built hstore hattempts hremoved howed hselected =>
    rw [hstore] at hlive'
    cases built with
    | error error => exact .inl (hsame _ rfl hlive')
    | ok onionKeys => exact hadd s.store rfl onionKeys hlive'
  | picked hin hstore hattempts hremoved howed hselected =>
    exact .inl (hsame _ (congrArg Store.heap hstore) hlive')
  | cleaned hstore hattempts hremoved howed hconnections =>
    rw [hstore] at hlive'
    exact .inl (hsame _ rfl hlive')
  | @replaced _ failedId now built hstore hattempts hremoved howed hselected =>
    rw [hstore] at hlive'
    cases built with
    | error error => exact .inl (hsame _ rfl hlive')
    | ok onionKeys => exact hadd (s.store.remove failedId) rfl onionKeys hlive'

/-! ## What is held, step by step -/

/-- Taking a stream away from a circuit. -/
theorem allHeld_unregister (hheld : s.store.AllHeld) (a : Arc) (streamId : StreamId) :
    (s.store.update a fun live => live.unregister streamId).AllHeld ↔
      s.strandsBy (.unregisters a streamId) = false := by
  unfold strandsBy
  constructor
  · intro h
    rw [← Bool.not_eq_true, Bool.and_eq_true, Bool.and_eq_true, decide_eq_true_iff]
    rintro ⟨⟨hreads, hout⟩, hstreams⟩
    obtain ⟨live, hlive, hreading⟩ := Store.reads_iff.mp hreads
    have hlive' := Store.getElem?_update_self (fun live => live.unregister streamId) hlive
    rcases Store.held_iff.mp (h a (Store.reads_iff.mpr ⟨_, hlive', hreading⟩)) with hin | hmore
    · rw [show (s.store.update a fun live => live.unregister streamId).inPool a =
        s.store.inPool a from rfl] at hin
      rw [hin] at hout
      cases hout
    · exact hmore hstreams
  · intro h
    refine hheld.update fun live hlive hreading => ⟨hreading, fun _ => ?_⟩
    have hlive' := Store.getElem?_update_self (fun live => live.unregister streamId) hlive
    dsimp only at h
    rw [Store.reads_iff.mpr ⟨live, hlive, hreading⟩, Store.streamsOf_of_getElem? hlive',
      Bool.true_and] at h
    cases hin : s.store.inPool a with
    | true => exact .inl rfl
    | false =>
      rw [hin, Bool.not_false, Bool.true_and, decide_eq_false_iff_not] at h
      exact .inr h

/-- A build lets go of the circuit that was filed under the new one's id. -/
theorem allHeld_built (hsound : s.store.Sound) (hheld : s.store.AllHeld) (now : Nat)
    (onionKeys : OnionKeys) : (s.store.buildCircuit now (.ok onionKeys)).1.AllHeld ↔
      s.store.strands s.store.pool.nextCircuitId = false := by
  have halike := Store.alike_built s.store now onionKeys
  constructor
  · exact fun h => Store.AllHeld.strands_add hsound (h.alike halike.symm)
  · exact fun h => (hheld.add onionKeys h).alike halike

/-- **Whatever reads stays held exactly if the act strands nothing.** -/
theorem Step.allHeld_iff {act : Act} {s' : ClientState} (hstep : s.Step P act s')
    (hsound : s.store.Sound) (hheld : s.store.AllHeld) :
    s'.store.AllHeld ↔ s.strandsBy act = false := by
  have hstreams : ∀ {a : Arc} {live : LiveCircuit}, s.store.heap[a]? = some live →
      s.store.held a = true → s.store.inPool a = true ∨ live.circuit.activeStreamCount ≠ 0 := by
    intro a live hlive h
    rw [Store.held_iff, Store.streamsOf_of_getElem? hlive] at h
    exact h
  cases hstep with
  | quiet hstore hbeside => exact iff_of_true (hstore ▸ hheld) rfl
  | touched hf hstore hbeside =>
    rw [hstore]
    refine iff_of_true (hheld.update fun live hlive hreading => ?_) rfl
    refine ⟨(hf live hlive).reader.symm.trans hreading, fun h => ?_⟩
    rw [(hf live hlive).streams]
    exact hstreams hlive h
  | ended hlive hreader hstore hbeside =>
    rw [hstore]
    refine iff_of_true (hheld.update fun live _ hreading => ?_) rfl
    exact nomatch hreading
  | @registered _ a live conn hlive hselected hstore hbeside =>
    rw [hstore]
    refine iff_of_true (hheld.update fun old hold hreading => ?_) rfl
    cases hlive.symm.trans hold
    refine ⟨hreading, fun _ => .inr ?_⟩
    -- the stream that was just registered
    show (live.circuit.streamSenders.insert _ _).entries.length ≠ 0
    rw [AList.entries_insert, List.length_cons]
    exact Nat.succ_ne_zero _
  | unregistered hstore hbeside => exact hstore ▸ allHeld_unregister hheld _ _
  | left hlive hreader hleaves hstore hbeside =>
    rw [hstore]
    refine iff_of_true (hheld.update fun old hold hreading => ?_) rfl
    rw [(LiveCircuit.told_read hleaves).2] at hreading
    cases hreading
  | expired hlookup hlive hready hstore hattempts hremoved howed hconnections =>
    have halike := Store.alike_expired hlookup hlive hready
    rw [hstore]
    refine iff_of_true (Store.AllHeld.alike ?_ halike) rfl
    refine hheld.update fun live' hlive' hreading => ⟨hreading, fun h => ?_⟩
    show _ ∨ live'.circuit.activeStreamCount ≠ 0
    exact hstreams hlive' h
  | @rebuilt _ now built hstore hattempts hremoved howed hconnections =>
    rw [hstore]
    cases built with
    | error error => exact iff_of_true (hheld.alike (Store.alike_build_failed s.store now error)) rfl
    | ok onionKeys => exact allHeld_built hsound hheld now onionKeys
  | @demanded _ now built hstore hattempts hremoved howed hselected =>
    rw [hstore]
    cases built with
    | error error => exact iff_of_true (hheld.alike (Store.alike_build_failed s.store now error)) rfl
    | ok onionKeys => exact allHeld_built hsound hheld now onionKeys
  | picked hin hstore hattempts hremoved howed hselected => exact iff_of_true (hstore ▸ hheld) rfl
  | cleaned hstore hattempts hremoved howed hconnections =>
    rw [hstore]
    exact ⟨Store.AllHeld.strands_remove hsound, hheld.remove⟩
  | @replaced _ failedId now built hstore hattempts hremoved howed hselected =>
    rw [hstore]
    cases built with
    | error error =>
      have halike := Store.alike_replace_failed s.store failedId now error
      exact ⟨fun h => Store.AllHeld.strands_remove hsound (h.alike halike.symm),
        fun h => (hheld.remove h).alike halike⟩
    | ok onionKeys =>
      have halike := Store.alike_replaced s.store failedId now onionKeys
      constructor
      · intro h
        obtain ⟨hold, hnew⟩ := Store.AllHeld.strands_replace hsound (h.alike halike.symm)
        show (s.store.strands failedId || _) = false
        rw [hold, hnew]
        rfl
      · intro h
        obtain ⟨hold, hnew⟩ := Bool.or_eq_false_iff.mp h
        exact ((hheld.remove hold).add onionKeys hnew).alike halike

/-! ## Runs -/

/-- No orphan, and no cell DESTROY, so that torn down means that the connection has ended. -/
structure Kept (s : ClientState) : Prop where
  sound : s.store.Sound
  undestroyed : ∀ (a : Arc) (live : LiveCircuit), s.store.heap[a]? = some live →
    .destroy ∉ live.sent
  removed : ∀ a ∈ s.removed, ∃ live, s.store.heap[a]? = some live ∧ live.reader ≠ .reading
  held : s.store.AllHeld

theorem Kept.noOrphan (h : s.Kept) : s.NoOrphan where
  removed a ha := by
    obtain ⟨live, hlive, hreader⟩ := h.removed a ha
    unfold Store.tornDown
    rw [hlive, Option.any_some, decide_eq_true hreader, Bool.or_true]
  held := h.held

/-- The removed circuits of the next state. -/
theorem Step.removed_eq {act : Act} {s' : ClientState} (hstep : s.Step P act s') :
    s'.removed = s.removed ∨ ∃ dirtyId, act = .cleansUp dirtyId ∧
      s'.removed = s.removed ++ (s.store.pool.circuits.lookup dirtyId).toList := by
  cases hstep with
  | quiet hstore hbeside => exact .inl hbeside.removed
  | touched hf hstore hbeside => exact .inl hbeside.removed
  | ended hlive hreader hstore hbeside => exact .inl hbeside.removed
  | registered hlive hselected hstore hbeside => exact .inl hbeside.removed
  | unregistered hstore hbeside => exact .inl hbeside.removed
  | left hlive hreader hleaves hstore hbeside => exact .inl hbeside.removed
  | expired hlookup hlive hready hstore hattempts hremoved howed hconnections => exact .inl hremoved
  | rebuilt hstore hattempts hremoved howed hconnections => exact .inl hremoved
  | demanded hstore hattempts hremoved howed hselected => exact .inl hremoved
  | picked hin hstore hattempts hremoved howed hselected => exact .inl hremoved
  | cleaned hstore hattempts hremoved howed hconnections => exact .inr ⟨_, rfl, hremoved⟩
  | replaced hstore hattempts hremoved howed hselected => exact .inl hremoved

/-- No step sends a DESTROY. -/
theorem Step.undestroyed {act : Act} {s' : ClientState} (hstep : s.Step P act s')
    (h : ∀ (a : Arc) (live : LiveCircuit), s.store.heap[a]? = some live → .destroy ∉ live.sent)
    (a : Arc) (live' : LiveCircuit) (hlive' : s'.store.heap[a]? = some live') :
    .destroy ∉ live'.sent := by
  intro hsent
  rcases hstep.onward hlive' with ⟨live, hlive, honward⟩ | ⟨-, hnil⟩
  · exact h a live hlive (honward.sent hsent)
  · rw [hnil] at hsent
    cases hsent

/-- A circuit that has stopped reading never reads again. -/
theorem Step.stopped {act : Act} {s' : ClientState} (hstep : s.Step P act s') {a : Arc}
    {live : LiveCircuit} (hlive : s.store.heap[a]? = some live) (hreader : live.reader ≠ .reading) :
    ∃ live', s'.store.heap[a]? = some live' ∧ live'.reader ≠ .reading := by
  have hlt : a < s'.store.heap.length :=
    Nat.lt_of_lt_of_le (Store.lt_of_getElem? hlive) hstep.change.length_le
  refine ⟨_, List.getElem?_eq_getElem hlt, fun hreading => ?_⟩
  rcases hstep.onward (List.getElem?_eq_getElem hlt) with ⟨old, hold, honward⟩ | ⟨hnone, -⟩
  · cases hlive.symm.trans hold
    exact hreader (honward.reader hreading)
  · cases hlive.symm.trans hnone

/-- **An attended step keeps every circuit looked after.** -/
theorem Kept.step (h : s.Kept) {e : ClientEvent} (hattended : s.Attended P e) :
    (s.step P e).Kept := by
  have hstep := step_act (P := P) s e
  unfold Attended abandons at hattended
  generalize s.act P e = act at hstep hattended
  generalize s.step P e = s' at hstep
  have hstrands : s.strandsBy act = false := by
    cases act with
    | cleansUp dirtyId =>
      show s.store.strands dirtyId = false
      unfold Store.strands
      cases hlookup : s.store.pool.circuits.lookup dirtyId with
      | none => rfl
      | some a =>
        dsimp only at hattended
        rw [hlookup, Option.any_some] at hattended
        rw [Option.any_some, hattended]
        rfl
    | _ => exact hattended
  refine ⟨hstep.sound h.sound, hstep.undestroyed h.undestroyed, fun a ha => ?_,
    (hstep.allHeld_iff h.sound h.held).mpr hstrands⟩
  have hold : a ∈ s.removed → ∃ live, s'.store.heap[a]? = some live ∧ live.reader ≠ .reading := by
    intro hin
    obtain ⟨live, hlive, hreader⟩ := h.removed a hin
    exact hstep.stopped hlive hreader
  rcases hstep.removed_eq with hsame | ⟨dirtyId, rfl, hmore⟩
  · exact hold (hsame ▸ ha)
  · rw [hmore] at ha
    rcases List.mem_append.mp ha with hin | hnew
    · exact hold hin
    · have hlookup : s.store.pool.circuits.lookup dirtyId = some a := Option.mem_toList.mp hnew
      obtain ⟨live, hlive, -⟩ := h.sound.filed dirtyId a hlookup
      dsimp only at hattended
      rw [hlookup, Option.any_some] at hattended
      refine hstep.stopped hlive fun hreading => ?_
      rw [Store.reads_iff.mpr ⟨live, hlive, hreading⟩] at hattended
      cases hattended

/-- A step that leaves no orphan was attended. -/
theorem Kept.attended (h : s.Kept) {e : ClientEvent} (hafter : (s.step P e).NoOrphan) :
    s.Attended P e := by
  have hstep := step_act (P := P) s e
  unfold Attended abandons
  generalize s.act P e = act at hstep
  generalize s.step P e = s' at hstep hafter
  have hstrands := (hstep.allHeld_iff h.sound h.held).mp hafter.held
  cases act with
  | cleansUp dirtyId =>
    cases hlookup : s.store.pool.circuits.lookup dirtyId with
    | none =>
      dsimp only
      rw [hlookup]
      rfl
    | some a =>
      dsimp only
      rw [hlookup, Option.any_some, ← Bool.not_eq_true]
      intro hreads
      obtain ⟨live, hlive, hreading⟩ := Store.reads_iff.mp hreads
      cases hstep with | cleaned hstore hattempts hremoved howed hconnections => _
      have hin : a ∈ s'.removed := by
        rw [hremoved, hlookup]
        exact List.mem_append_right _ (List.mem_singleton_self a)
      have htorn := hafter.removed a hin
      unfold Store.tornDown at htorn
      rw [hstore, show (s.store.remove dirtyId).heap = s.store.heap from rfl, hlive,
        Option.any_some, decide_eq_false (h.undestroyed a live hlive),
        decide_eq_false (not_not_intro hreading)] at htorn
      cases htorn
  | _ => exact hstrands

/-! ### Startup -/

/-- What startup has built so far: all of it reads, without streams, and while no id comes back,
the circuit built as number `j` is filed under `j + 1`. -/
structure Started (i : Nat) (s : Store) : Prop where
  length : s.heap.length = i
  next : s.pool.nextCircuitId = UInt32.ofNat (i + 1)
  fresh : ∀ (a : Arc) (live : LiveCircuit), s.heap[a]? = some live →
    live.reader = .reading ∧ live.sent = [] ∧ live.circuit.activeStreamCount = 0
  filed : i ≤ 2 ^ 32 → ∀ j < i, s.pool.circuits.lookup (UInt32.ofNat (j + 1)) = some j

theorem Started.build {i : Nat} {t : Store} (h : Started i t) (now : Nat) (onionKeys : OnionKeys) :
    Started (i + 1) (t.buildCircuit now (.ok onionKeys)).1 := by
  refine ⟨?_, ?_, fun a live hlive => ?_, fun hle j hj => ?_⟩
  · show (t.heap ++ [_]).length = i + 1
    rw [List.length_append, h.length]
    rfl
  · show t.pool.nextCircuitId + 1 = _
    rw [h.next, UInt32.ofNat_add (i + 1) 1]
    rfl
  · rcases @Store.of_getElem?_add t a onionKeys live hlive with hold | ⟨-, rfl⟩
    · exact h.fresh a live hold
    · exact ⟨rfl, rfl, rfl⟩
  · show (t.pool.circuits.insert t.pool.nextCircuitId t.heap.length).lookup _ = some j
    rw [h.next, h.length]
    rcases Nat.lt_succ_iff_lt_or_eq.mp hj with hlt | rfl
    · rw [AList.lookup_insert_ne]
      · exact h.filed (by omega) j hlt
      · intro heq
        have hnat := congrArg UInt32.toNat heq
        rw [UInt32.toNat_ofNat', UInt32.toNat_ofNat'] at hnat
        omega
    · exact AList.lookup_insert ..

/-- **Startup orphans no circuit exactly if it has an id for each.** -/
theorem Started.allHeld_iff {i : Nat} {t : Store} (h : Started i t) :
    t.AllHeld ↔ i ≤ 2 ^ 32 := by
  constructor
  · intro hheld
    have hid : ∀ a < i, ∃ circuitId, t.pool.circuits.lookup circuitId = some a := by
      intro a ha
      rw [← h.length] at ha
      have hlive := List.getElem?_eq_getElem ha
      obtain ⟨hreading, -, hstreams⟩ := h.fresh a _ hlive
      rcases Store.held_iff.mp (hheld a (Store.reads_iff.mpr ⟨_, hlive, hreading⟩)) with hin | hmore
      · exact Store.inPool_iff.mp hin
      · rw [Store.streamsOf_of_getElem? hlive] at hmore
        exact absurd hstreams hmore
    -- different circuits are filed under different ids
    choose! f hf using hid
    have hcard : (Finset.range i).card ≤ (Finset.range (2 ^ 32)).card := by
      refine Finset.card_le_card_of_injOn (fun a => (f a).toNat) (fun a _ => ?_) ?_
      · exact Finset.mem_coe.mpr (Finset.mem_range.mpr (f a).toNat_lt)
      · intro a ha b hb heq
        have hfa := hf a (Finset.mem_range.mp (Finset.mem_coe.mp ha))
        have hfb := hf b (Finset.mem_range.mp (Finset.mem_coe.mp hb))
        rw [UInt32.toNat_inj.mp heq] at hfa
        exact Option.some.inj (hfa.symm.trans hfb)
    rwa [Finset.card_range, Finset.card_range] at hcard
  · intro hle a hreads
    obtain ⟨live, hlive, -⟩ := Store.reads_iff.mp hreads
    have hlt := Store.lt_of_getElem? hlive
    rw [h.length] at hlt
    exact Store.held_iff.mpr (.inl (Store.inPool_iff.mpr ⟨_, h.filed hle a hlt⟩))

theorem started {poolSize m : Nat} {builds : Nat → Nat × Except Error OnionKeys} {store : Store}
    (hstart : (Store.new poolSize m).initializePool builds = .ok store) :
    Started poolSize store :=
  Store.initializePool_keeps Started (fun _ _ now onionKeys h => h.build now onionKeys) hstart
    ⟨rfl, rfl, fun _ _ h => (nomatch h), fun _ _ h => absurd h (Nat.not_lt_zero _)⟩

/-- Nothing is removed at startup. -/
theorem kept_start {poolSize m : Nat} {builds : Nat → Nat × Except Error OnionKeys}
    {store : Store} (hstart : (Store.new poolSize m).initializePool builds = .ok store)
    (hsize : poolSize ≤ 2 ^ 32) : (start store).Kept where
  sound := Store.sound_initializePool hstart
  undestroyed a live hlive hsent := by
    rw [((started hstart).fresh a live hlive).2.1] at hsent
    cases hsent
  removed _ ha := nomatch ha
  held := (started hstart).allHeld_iff.mpr hsize

/-- **When no circuit is orphaned**: in every state of a run exactly if startup has an id for
each circuit and every step is attended. -/
theorem every_state_noOrphan_iff {poolSize m : Nat}
    {builds : Nat → Nat × Except Error OnionKeys} {store : Store}
    (hstart : (Store.new poolSize m).initializePool builds = .ok store)
    (events : List ClientEvent) :
    EveryState (step P) NoOrphan (start store) events ↔
      poolSize ≤ 2 ^ 32 ∧ EveryStep (step P) (Attended P) (start store) events := by
  have hruns : poolSize ≤ 2 ^ 32 → (EveryState (step P) NoOrphan (start store) events ↔
      EveryStep (step P) (Attended P) (start store) events) := fun hsize =>
    everyState_iff (fun _ _ hkept hattended => hkept.step hattended) (fun _ hkept => hkept.noOrphan)
      (fun _ _ hkept hafter => hkept.attended hafter) (kept_start hstart hsize)
  constructor
  · intro h
    have hsize := (started hstart).allHeld_iff.mp h.head.held
    exact ⟨hsize, (hruns hsize).mp h⟩
  · rintro ⟨hsize, h⟩
    exact (hruns hsize).mpr h

/-- The only circuit ages out, its replacement is built, and the cleanup removes it. -/
def ageOut : List ClientEvent :=
  let now := 600 * 1000000000
  [.monitor now sampleBuilt, .look 0, .release now sampleBuilt, .monitor now sampleBuilt,
    .monitor now sampleBuilt, .look 0, .look 0, .look 0, .release now sampleBuilt,
    .monitor now sampleBuilt]

/-- The entry hangs up before the circuit is cleaned up: then nothing is orphaned. -/
def ageOutHungUp : List ClientEvent :=
  let now := 600 * 1000000000
  [.monitor now sampleBuilt, .look 0, .release now sampleBuilt, .monitor now sampleBuilt,
    .monitor now sampleBuilt, .look 0, .look 0, .read 0 none, .look 0, .release now sampleBuilt,
    .monitor now sampleBuilt]

theorem ageOutHungUp_noOrphan :
    EveryState (step .sample) NoOrphan (start (sampleStore 1 3)) ageOutHungUp := by
  have hstart : (Store.new 1 3).initializePool (fun _ => (0, sampleBuilt)) =
      .ok (sampleStore 1 3) := rfl
  have hattended : EveryStep (step .sample) (Attended .sample) (start (sampleStore 1 3))
      ageOutHungUp := by
    decide +kernel
  exact (every_state_noOrphan_iff hstart ageOutHungUp).mpr ⟨by decide, hattended⟩

theorem ageOut_end :
    let s := run (step .sample) (start (sampleStore 1 3)) ageOut
    s.removed = [0] ∧ s.store.tornDown 0 = false ∧ s.store.reads 0 = true ∧
      s.store.held 0 = false := by
  decide +kernel

/-- **A circuit that was cleaned up reads on**, held by nothing. -/
theorem cleaned_up_circuit_reads_on :
    ¬EveryState (step .sample) NoOrphan (start (sampleStore 1 3)) ageOut := by
  intro h
  have hlast : (run (step .sample) (start (sampleStore 1 3)) ageOut).NoOrphan := h.last
  obtain ⟨hremoved, htorn, hreads, hheld⟩ := ageOut_end
  rw [hlast.held 0 hreads] at hheld
  cases hheld

end ClientState

end MiniTor.Client
