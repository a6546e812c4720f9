import MiniTor.Discovery.Path
import MiniTor.Theory.Run

/-!
# The registry under a clock

`Instant::now` never goes back, so the readings a sequence of calls takes are in
order. Under such a clock the map keeps its representation invariant.

- `NodeRegistry.Consistent`: every key is its entry's node id, an address belongs
  to one key, and no entry was heard of before it was registered.
- `NodeRegistry.Registered`: what one registration does to the map, entry by
  entry.
- `Timely.step`, `Timely.run`: the invariant, with the clock as a bound of every
  stamp, over one call and over a sequence of them.
- `registry_consistent`: both, for every sequence of calls.
-/

namespace MiniTor

/-- The clock reading a call takes; `remove_node` takes none. -/
def RegistryOp.reading : RegistryOp → Option Instant
  | .register now _ => some now
  | .heartbeat now _ => some now
  | .heartbeatWithMetrics now _ _ => some now
  | .remove _ => none
  | .cleanup now _ => some now

namespace NodeRegistry

/-- The representation invariant of the map. -/
structure Consistent (r : NodeRegistry) : Prop where
  key : ∀ id entry, r.nodes.lookup id = some entry → entry.descriptor.nodeId = id
  address : ∀ id id' entry entry', r.nodes.lookup id = some entry →
    r.nodes.lookup id' = some entry' →
    entry.descriptor.address = entry'.descriptor.address → id = id'
  stamps : ∀ id entry, r.nodes.lookup id = some entry →
    entry.registeredAt ≤ entry.lastHeartbeat

/-- `r'` is `r` with `descriptor` registered at `now`. -/
structure Registered (r r' : NodeRegistry) (now : Instant) (descriptor : NodeDescriptor) :
    Prop where
  /-- A node that was not there. -/
  fresh : r.nodes.lookup descriptor.nodeId = none →
    r'.nodes.lookup descriptor.nodeId =
      some { descriptor, registeredAt := now, lastHeartbeat := now, metrics := none }
  /-- A known node keeps its registration time and its metrics. -/
  known : ∀ entry, r.nodes.lookup descriptor.nodeId = some entry →
    r'.nodes.lookup descriptor.nodeId =
      some { descriptor, registeredAt := entry.registeredAt, lastHeartbeat := now,
             metrics := entry.metrics }
  /-- The others stay as they are, except those at the descriptor's address, which go. -/
  others : ∀ id entry, id ≠ descriptor.nodeId →
    (r'.nodes.lookup id = some entry ↔
      r.nodes.lookup id = some entry ∧ entry.descriptor.address ≠ descriptor.address)

/-- The eviction pass spares the id being registered. -/
theorem lookup_evict_self (r : NodeRegistry) (descriptor : NodeDescriptor) :
    (r.nodes.retain fun id entry =>
        id == descriptor.nodeId || entry.descriptor.address != descriptor.address).lookup
      descriptor.nodeId = r.nodes.lookup descriptor.nodeId := by
  rw [AList.lookup_retain]
  cases r.nodes.lookup descriptor.nodeId with
  | none => rfl
  | some entry => simp

/-- Of the other ids it spares those at another address. -/
theorem lookup_evict_ne {r : NodeRegistry} {descriptor : NodeDescriptor} {id : String}
    (hid : id ≠ descriptor.nodeId) {entry : NodeEntry} :
    (r.nodes.retain fun id entry =>
        id == descriptor.nodeId || entry.descriptor.address != descriptor.address).lookup
      id = some entry ↔
      r.nodes.lookup id = some entry ∧ entry.descriptor.address ≠ descriptor.address := by
  rw [AList.lookup_retain, Option.filter_eq_some_iff]
  simp [hid]

/-- What `register_node` does to each entry. -/
theorem registerNode_registered (r : NodeRegistry) (now : Instant)
    (descriptor : NodeDescriptor) :
    r.Registered (r.registerNode now descriptor) now descriptor := by
  have hself := lookup_evict_self r descriptor
  constructor
  · intro hnone
    rw [hnone] at hself
    unfold registerNode
    dsimp only
    rw [hself, Option.isSome_none]
    exact AList.lookup_insert _
  · intro entry hsome
    rw [hsome] at hself
    unfold registerNode
    dsimp only
    rw [hself, Option.isSome_some]
    dsimp only
    rw [AList.lookup_modify_self, hself]
    rfl
  · intro id entry hid
    rw [← lookup_evict_ne hid]
    unfold registerNode
    dsimp only
    split
    · rw [AList.lookup_insert_ne hid]
    · rw [AList.lookup_modify_ne hid]

/-- No entry carries a stamp later than `clock`, and none was heard of before it was
registered. -/
structure Timely (clock : Instant) (r : NodeRegistry) : Prop where
  registered : ∀ e ∈ r.nodes.entries, e.2.registeredAt ≤ e.2.lastHeartbeat
  heard : ∀ e ∈ r.nodes.entries, e.2.lastHeartbeat ≤ clock

theorem Timely.later {clock now : Instant} {r : NodeRegistry} (h : r.Timely clock)
    (hle : clock ≤ now) : r.Timely now where
  registered := h.registered
  heard e he := le_trans (h.heard e he) hle

theorem Timely.of_subset {clock : Instant} {r r' : NodeRegistry} (h : r.Timely clock)
    (hsub : r'.nodes.entries ⊆ r.nodes.entries) : r'.Timely clock where
  registered e he := h.registered e (hsub he)
  heard e he := h.heard e (hsub he)

/-- A heartbeat stamps its entry with the reading of the clock. -/
theorem Timely.modify {now : Instant} {r : NodeRegistry} (h : r.Timely now) (nodeId : String)
    {f : NodeEntry → NodeEntry}
    (hf : ∀ entry, (f entry).registeredAt = entry.registeredAt ∧ (f entry).lastHeartbeat = now) :
    Timely now { r with nodes := r.nodes.modify nodeId f } := by
  -- an entry is an old one or an old one with its stamp moved up to `now`
  have hold : ∀ e ∈ (r.nodes.modify nodeId f).entries, ∃ d ∈ r.nodes.entries,
      e.2.registeredAt = d.2.registeredAt ∧
        (e.2.lastHeartbeat = d.2.lastHeartbeat ∨ e.2.lastHeartbeat = now) := by
    intro e he
    obtain ⟨d, hd, rfl⟩ := AList.mem_entries_modify.mp he
    refine ⟨d, hd, ?_⟩
    unfold AList.modifyEntry
    split
    · exact ⟨(hf d.2).1, .inr (hf d.2).2⟩
    · exact ⟨rfl, .inl rfl⟩
  constructor
  · intro e he
    obtain ⟨d, hd, hreg, hstamp⟩ := hold e he
    have hle := h.registered d hd
    have hheard := h.heard d hd
    rcases hstamp with hstamp | hstamp
    · rw [hreg, hstamp]
      exact hle
    · rw [hreg, hstamp]
      exact le_trans hle hheard
  · intro e he
    obtain ⟨d, hd, -, hstamp | hstamp⟩ := hold e he
    · rw [hstamp]
      exact h.heard d hd
    · rw [hstamp]

/-- A registration stamps its entry with the reading of the clock. -/
theorem Timely.registerNode {now : Instant} {r : NodeRegistry} (h : r.Timely now)
    (descriptor : NodeDescriptor) : (r.registerNode now descriptor).Timely now := by
  have hevict : ({ r with nodes := r.nodes.retain fun id entry =>
      id == descriptor.nodeId || entry.descriptor.address != descriptor.address } :
        NodeRegistry).Timely now :=
    h.of_subset fun _ he => (AList.mem_entries_retain.mp he).1
  unfold NodeRegistry.registerNode
  dsimp only
  split
  · constructor
    · intro e he
      rcases List.mem_cons.mp he with rfl | hmem
      · exact le_refl now
      · exact hevict.registered e ((List.kerase_sublist _ _).subset hmem)
    · intro e he
      rcases List.mem_cons.mp he with rfl | hmem
      · exact le_refl now
      · exact hevict.heard e ((List.kerase_sublist _ _).subset hmem)
  · exact hevict.modify _ fun _ => ⟨rfl, rfl⟩

/-- One call, at a clock that has not gone back. -/
theorem Timely.step {clock : Instant} {r : NodeRegistry} (h : r.Timely clock) (op : RegistryOp)
    (hclock : ∀ now, op.reading = some now → clock ≤ now) :
    (r.step op).Timely (op.reading.getD clock) := by
  cases op with
  | register now descriptor => exact (h.later (hclock now rfl)).registerNode descriptor
  | heartbeat now nodeId =>
    have hnow := h.later (hclock now rfl)
    show Timely now (r.updateHeartbeat now nodeId).1
    unfold updateHeartbeat
    split
    · exact hnow
    · exact hnow.modify nodeId fun _ => ⟨rfl, rfl⟩
  | heartbeatWithMetrics now nodeId metrics =>
    have hnow := h.later (hclock now rfl)
    show Timely now (r.updateHeartbeatWithMetrics now nodeId metrics).1
    unfold updateHeartbeatWithMetrics
    split
    · exact hnow
    · exact hnow.modify nodeId fun _ => ⟨rfl, rfl⟩
  | remove nodeId =>
    show Timely clock (r.removeNode nodeId).1
    unfold removeNode
    split
    · exact h
    · exact h.of_subset (List.kerase_sublist _ _).subset
  | cleanup now timeout =>
    exact (h.later (hclock now rfl)).of_subset fun _ he => (AList.mem_entries_retain.mp he).1

/-- A sequence of calls whose readings are in order. -/
theorem Timely.run {clock : Instant} {r : NodeRegistry} (h : r.Timely clock)
    {ops : List RegistryOp}
    (hclock : (clock :: ops.filterMap RegistryOp.reading).Pairwise (· ≤ ·)) :
    ∃ now, (Theory.run NodeRegistry.step r ops).Timely now := by
  induction ops generalizing clock r with
  | nil => exact ⟨clock, h⟩
  | cons op ops ih =>
    cases hread : op.reading with
    | none =>
      have hnext := h.step op (by simp [hread])
      rw [hread] at hnext
      rw [List.filterMap_cons_none hread] at hclock
      exact ih hnext hclock
    | some now =>
      rw [List.filterMap_cons_some hread] at hclock
      obtain ⟨hle, hrest⟩ := List.pairwise_cons.mp hclock
      have hnext := h.step op (by simp [hread, hle now])
      rw [hread] at hnext
      exact ih hnext hrest

theorem WellKeyed.run {r : NodeRegistry} (h : r.WellKeyed) (ops : List RegistryOp) :
    (Theory.run NodeRegistry.step r ops).WellKeyed := by
  induction ops generalizing r with
  | nil => exact h
  | cons op ops ih => exact ih (h.step op)

/-- The invariant on entries, read through `lookup`. -/
theorem WellKeyed.consistent {r : NodeRegistry} (h : r.WellKeyed) {clock : Instant}
    (ht : r.Timely clock) : r.Consistent where
  key _ _ hlook := h.key _ (AList.lookup_eq_some.mp hlook)
  address _ _ _ _ hlook hlook' haddr :=
    h.address _ (AList.lookup_eq_some.mp hlook) _ (AList.lookup_eq_some.mp hlook') haddr
  stamps _ _ hlook := ht.registered _ (AList.lookup_eq_some.mp hlook)

end NodeRegistry

/-- After every sequence of calls under a non-decreasing clock the map satisfies its
invariant, and a registration does to it what `Registered` says. -/
theorem registry_consistent (allowSameIp : Bool) (ops : List RegistryOp)
    (hclock : (ops.filterMap RegistryOp.reading).Pairwise (· ≤ ·)) :
    let r := Theory.run NodeRegistry.step (NodeRegistry.new allowSameIp) ops
    r.Consistent ∧
      ∀ now descriptor, r.Registered (r.registerNode now descriptor) now descriptor := by
  intro r
  have hempty : (NodeRegistry.new allowSameIp).Timely 0 :=
    ⟨fun _ he => absurd he List.not_mem_nil, fun _ he => absurd he List.not_mem_nil⟩
  have hkeyed : r.WellKeyed := (NodeRegistry.Reachable.new.wellKeyed).run ops
  obtain ⟨now, htimely⟩ := hempty.run
    (List.pairwise_cons.mpr ⟨fun now _ => Nat.zero_le now, hclock⟩)
  exact ⟨hkeyed.consistent htimely, fun now d => r.registerNode_registered now d⟩

/-- A second relay registers at the first one's address: the first is evicted. -/
def sampleCalls : List RegistryOp :=
  [.register 1 (NodeRegistry.sampleNode "first" .entry 1),
    .register 1 (NodeRegistry.sampleNode "second" .middle 1), .heartbeat 4 "second",
    .remove "first", .cleanup 9 30]

theorem sample_registry_consistent :
    let r := Theory.run NodeRegistry.step (NodeRegistry.new false) sampleCalls
    (r.nodes.lookup "first").isNone = true ∧
      (r.Consistent ∧
        ∀ now descriptor, r.Registered (r.registerNode now descriptor) now descriptor) :=
  ⟨by decide, registry_consistent false sampleCalls (by decide)⟩

end MiniTor
