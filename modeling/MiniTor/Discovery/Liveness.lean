import MiniTor.Discovery.Clock

/-!
# Which nodes are registered (`discovery/src/core/registry.rs`)

The map, seen from one node id: what the registry knows of it is the descriptor it was last
registered with and when it was last heard of.

- `RegistryOp.track`: what each call does to that, with nothing said of the other ids.
- `known_run`: the map does the same (`known_step`), over every sequence of calls.
- `RegistryOp.Spares`: the calls that leave a node in place.
- `liveness_follows_history`: so a node is present exactly if every call after its last
  registration spares it; what a cleanup returns is the number of nodes it removed, and a
  call that fails changes nothing.
-/

namespace MiniTor

open Theory

/-! ## One id -/

namespace RegistryOp

/-- What a call makes of what was known of `id`: its descriptor and when it was last heard
of. -/
def track (id : String) (known : Option (NodeDescriptor × Instant)) :
    RegistryOp → Option (NodeDescriptor × Instant)
  | register now d =>
    if d.nodeId = id then some (d, now) else known.filter fun k => k.1.address != d.address
  | heartbeat now nodeId => if nodeId = id then known.map fun k => (k.1, now) else known
  | heartbeatWithMetrics now nodeId _ =>
    if nodeId = id then known.map fun k => (k.1, now) else known
  | remove nodeId => if nodeId = id then none else known
  | cleanup now timeout => known.filter fun k => !decide (now - k.2 > timeout)

/-- The reading of a registration or a heartbeat of `id`. -/
def heard (id : String) : RegistryOp → Option Instant
  | register now d => if d.nodeId = id then some now else none
  | heartbeat now nodeId => if nodeId = id then some now else none
  | heartbeatWithMetrics now nodeId _ => if nodeId = id then some now else none
  | remove _ => none
  | cleanup _ _ => none

/-- A call that neither removes nor replaces the node with this descriptor, last heard of at
`last`. -/
def Spares (d : NodeDescriptor) (last : Instant) : RegistryOp → Prop
  | register _ d' => d'.nodeId ≠ d.nodeId ∧ d'.address ≠ d.address
  | heartbeat _ _ => True
  | heartbeatWithMetrics _ _ _ => True
  | remove nodeId => nodeId ≠ d.nodeId
  | cleanup now timeout => ¬(now - last > timeout)

end RegistryOp

/-- When `id` was last heard of, if it was at `now` and these calls came after. -/
def lastHeard (id : String) (now : Instant) (after : List RegistryOp) : Instant :=
  (after.filterMap (RegistryOp.heard id)).getLastD now

/-- Each of these calls spares the node that was registered at `now`. -/
def Spared (now : Instant) (d : NodeDescriptor) (after : List RegistryOp) : Prop :=
  EveryPast (fun past op => op.Spares d (lastHeard d.nodeId now past)) after

/-- The history of a node that is there: its last registration, and calls that spare it. -/
def Alive (id : String) (ops : List RegistryOp) : Prop :=
  ∃ before now d after, ops = before ++ .register now d :: after ∧ d.nodeId = id ∧ Spared now d after

/-! ## What a history leaves known -/

theorem lastHeard_concat (id : String) (now : Instant) (after : List RegistryOp)
    (op : RegistryOp) :
    lastHeard id now (after ++ [op]) = (op.heard id).getD (lastHeard id now after) := by
  unfold lastHeard
  rw [List.filterMap_append]
  cases hop : op.heard id with
  | none => rw [List.filterMap_cons_none hop, List.filterMap_nil, List.append_nil, Option.getD_none]
  | some t => rw [List.filterMap_cons_some hop, List.filterMap_nil, List.getLastD_concat,
      Option.getD_some]

/-- The node is there, with this descriptor and last heard of at `last`. -/
def Remembers (id : String) (ops : List RegistryOp) (d : NodeDescriptor) (last : Instant) : Prop :=
  ∃ before now after, ops = before ++ .register now d :: after ∧ d.nodeId = id ∧
    Spared now d after ∧ lastHeard id now after = last

theorem remembers_concat {id : String} {ops : List RegistryOp} {op : RegistryOp}
    {d : NodeDescriptor} {last : Instant} :
    Remembers id (ops ++ [op]) d last ↔
      (op = .register last d ∧ d.nodeId = id) ∨
        ∃ last', Remembers id ops d last' ∧ op.Spares d last' ∧
          (op.heard id).getD last' = last := by
  constructor
  · rintro ⟨before, now, after, hops, rfl, hkept, rfl⟩
    rcases List.eq_nil_or_concat' after with rfl | ⟨after', x, rfl⟩
    · obtain ⟨-, hop⟩ := List.append_inj' hops rfl
      cases hop
      exact .inl ⟨rfl, rfl⟩
    · rw [← List.cons_append, ← List.append_assoc] at hops
      obtain ⟨hbefore, hop⟩ := List.append_inj' hops rfl
      cases hop
      obtain ⟨hkept, hspares⟩ := everyPast_concat.mp hkept
      exact .inr ⟨_, ⟨before, now, after', hbefore, rfl, hkept, rfl⟩, hspares,
        (lastHeard_concat ..).symm⟩
  · rintro (⟨rfl, rfl⟩ | ⟨last', ⟨before, now, after, rfl, rfl, hkept, rfl⟩, hspares, rfl⟩)
    · exact ⟨ops, last, [], rfl, rfl, everyPast_nil, rfl⟩
    · refine ⟨before, now, after ++ [op], ?_, rfl, everyPast_concat.mpr ⟨hkept, hspares⟩,
        lastHeard_concat ..⟩
      rw [List.append_assoc, List.cons_append]

theorem Remembers.nodeId_eq {id : String} {ops : List RegistryOp} {d : NodeDescriptor}
    {last : Instant} (h : Remembers id ops d last) : d.nodeId = id := by
  obtain ⟨-, -, -, -, hid, -⟩ := h
  exact hid

theorem Remembers.alive {id : String} {ops : List RegistryOp} {d : NodeDescriptor}
    {last : Instant} (h : Remembers id ops d last) : Alive id ops := by
  obtain ⟨before, now, after, hops, hid, hkept, -⟩ := h
  exact ⟨before, now, d, after, hops, hid, hkept⟩

/-- One more call. -/
theorem RegistryOp.track_eq_some_iff {id : String} {ops : List RegistryOp} {op : RegistryOp}
    {known : Option (NodeDescriptor × Instant)}
    (ih : ∀ d last, known = some (d, last) ↔ Remembers id ops d last)
    (d : NodeDescriptor) (last : Instant) :
    op.track id known = some (d, last) ↔ Remembers id (ops ++ [op]) d last := by
  rw [remembers_concat]
  -- a heartbeat, with or without metrics
  have hbeat : ∀ (now : Instant) (nodeId : String),
      (if nodeId = id then known.map fun k => (k.1, now) else known) = some (d, last) ↔
        ∃ last', Remembers id ops d last' ∧
          (if nodeId = id then some now else none).getD last' = last := by
    intro now nodeId
    by_cases hid : nodeId = id
    · simp only [if_pos hid, Option.map_eq_some_iff, Option.getD_some]
      constructor
      · rintro ⟨⟨d', last'⟩, hknown, heq⟩
        cases heq
        exact ⟨last', (ih _ _).mp hknown, rfl⟩
      · rintro ⟨last', hknown, rfl⟩
        exact ⟨(d, last'), (ih _ _).mpr hknown, rfl⟩
    · simp only [if_neg hid, Option.getD_none]
      constructor
      · exact fun hknown => ⟨last, (ih _ _).mp hknown, rfl⟩
      · rintro ⟨last', hknown, rfl⟩
        exact (ih _ _).mpr hknown
  -- a call that is no registration and spares every node
  have hspared : ∀ op : RegistryOp, op ≠ .register last d → (∀ last', op.Spares d last') →
      ((∃ last', Remembers id ops d last' ∧ (op.heard id).getD last' = last) ↔
        (op = .register last d ∧ d.nodeId = id) ∨
          ∃ last', Remembers id ops d last' ∧ op.Spares d last' ∧
            (op.heard id).getD last' = last) := by
    intro op hop hspares
    constructor
    · rintro ⟨last', hknown, hlast⟩
      exact .inr ⟨last', hknown, hspares last', hlast⟩
    · rintro (⟨h, -⟩ | ⟨last', hknown, -, hlast⟩)
      · exact absurd h hop
      · exact ⟨last', hknown, hlast⟩
  cases op with
  | register now d' =>
    by_cases hid : d'.nodeId = id
    · rw [track, if_pos hid]
      constructor
      · intro h
        cases h
        exact .inl ⟨rfl, hid⟩
      · rintro (⟨h, -⟩ | ⟨last', hknown, hspares, -⟩)
        · cases h
          rfl
        · exact absurd (hid.trans hknown.nodeId_eq.symm) hspares.1
    · rw [track, if_neg hid, Option.filter_eq_some_iff, heard, if_neg hid]
      constructor
      · rintro ⟨hknown, haddr⟩
        have hrem := (ih _ _).mp hknown
        exact .inr ⟨last, hrem, ⟨hrem.nodeId_eq ▸ hid, (bne_iff_ne.mp haddr).symm⟩, rfl⟩
      · rintro (⟨h, hid'⟩ | ⟨last', hknown, hspares, rfl⟩)
        · cases h
          exact absurd hid' hid
        · exact ⟨(ih _ _).mpr hknown, bne_iff_ne.mpr hspares.2.symm⟩
  | heartbeat now nodeId =>
    exact (hbeat now nodeId).trans (hspared (.heartbeat now nodeId) nofun fun _ => trivial)
  | heartbeatWithMetrics now nodeId metrics =>
    exact (hbeat now nodeId).trans
      (hspared (.heartbeatWithMetrics now nodeId metrics) nofun fun _ => trivial)
  | remove nodeId =>
    rw [track]
    constructor
    · intro h
      split_ifs at h with hid
      have hrem := (ih _ _).mp h
      exact .inr ⟨last, hrem, fun heq => hid (heq.trans hrem.nodeId_eq), rfl⟩
    · rintro (⟨h, -⟩ | ⟨last', hknown, hspares, rfl⟩)
      · cases h
      · rw [if_neg fun heq => hspares (heq.trans hknown.nodeId_eq.symm)]
        exact (ih _ _).mpr hknown
  | cleanup now timeout =>
    rw [track, Option.filter_eq_some_iff]
    constructor
    · rintro ⟨hknown, hfresh⟩
      exact .inr ⟨last, (ih _ _).mp hknown, by simpa [Spares] using hfresh, rfl⟩
    · rintro (⟨h, -⟩ | ⟨last', hknown, hspares, rfl⟩)
      · cases h
      · exact ⟨(ih _ _).mpr hknown, by simpa [Spares, heard] using hspares⟩

/-- Tracking an id through a history. -/
theorem track_foldl_iff (id : String) (ops : List RegistryOp) (d : NodeDescriptor)
    (last : Instant) :
    ops.foldl (RegistryOp.track id) none = some (d, last) ↔ Remembers id ops d last := by
  induction ops using List.reverseRecOn generalizing d last with
  | nil =>
    constructor
    · exact fun h => nomatch h
    · rintro ⟨before, now, after, h, -⟩
      exact absurd h.symm (List.append_ne_nil_of_right_ne_nil _ (List.cons_ne_nil _ _))
  | append_singleton ops op ih =>
    rw [List.foldl_concat]
    exact RegistryOp.track_eq_some_iff ih d last

/-! ## The map -/

namespace NodeRegistry

/-- What the registry knows of `id`. -/
def known (r : NodeRegistry) (id : String) : Option (NodeDescriptor × Instant) :=
  (r.nodes.lookup id).map fun entry => (entry.descriptor, entry.lastHeartbeat)

/-- A call does to every id what it is tracked to do. -/
theorem known_step (r : NodeRegistry) (op : RegistryOp) (id : String) :
    (r.step op).known id = op.track id (r.known id) := by
  -- a heartbeat, whatever it does to the metrics
  have hbeat : ∀ (now : Instant) (nodeId : String) (f : NodeEntry → NodeEntry),
      (∀ entry, (f entry).descriptor = entry.descriptor ∧ (f entry).lastHeartbeat = now) →
      known { r with nodes := r.nodes.modify nodeId f } id =
        if nodeId = id then (r.known id).map fun k => (k.1, now) else r.known id := by
    intro now nodeId f hf
    unfold known
    by_cases hid : nodeId = id
    · rw [if_pos hid, hid, AList.lookup_modify_self, Option.map_map, Option.map_map]
      congr 1
      funext entry
      exact Prod.ext (hf entry).1 (hf entry).2
    · rw [if_neg hid, AList.lookup_modify_ne (Ne.symm hid)]
  have hmissing : ∀ nodeId, r.nodes.lookup nodeId = none → nodeId = id → r.known id = none := by
    rintro nodeId hnone rfl
    rw [known, hnone, Option.map_none]
  cases op with
  | register now descriptor =>
    have hreg := r.registerNode_registered now descriptor
    show (r.registerNode now descriptor).known id = _
    rw [RegistryOp.track]
    by_cases hid : descriptor.nodeId = id
    · subst hid
      rw [if_pos rfl, known]
      cases hlook : r.nodes.lookup descriptor.nodeId with
      | none => rw [hreg.fresh hlook, Option.map_some]
      | some entry => rw [hreg.known entry hlook, Option.map_some]
    · have hothers : (r.registerNode now descriptor).nodes.lookup id =
          (r.nodes.lookup id).filter fun entry =>
            entry.descriptor.address != descriptor.address :=
        Option.ext fun entry => by
          rw [Option.filter_eq_some_iff, hreg.others id entry (Ne.symm hid), bne_iff_ne]
      rw [if_neg hid, known, known, hothers, Option.filter_map]
      rfl
  | heartbeat now nodeId =>
    show (r.updateHeartbeat now nodeId).1.known id = _
    rw [RegistryOp.track]
    unfold updateHeartbeat
    cases hlook : r.nodes.lookup nodeId with
    | none =>
      dsimp only
      split_ifs with hid
      · rw [hmissing nodeId hlook hid, Option.map_none]
      · rfl
    | some _ => exact hbeat now nodeId _ fun _ => ⟨rfl, rfl⟩
  | heartbeatWithMetrics now nodeId metrics =>
    show (r.updateHeartbeatWithMetrics now nodeId metrics).1.known id = _
    rw [RegistryOp.track]
    unfold updateHeartbeatWithMetrics
    cases hlook : r.nodes.lookup nodeId with
    | none =>
      dsimp only
      split_ifs with hid
      · rw [hmissing nodeId hlook hid, Option.map_none]
      · rfl
    | some _ => exact hbeat now nodeId _ fun _ => ⟨rfl, rfl⟩
  | remove nodeId =>
    show (r.removeNode nodeId).1.known id = _
    rw [RegistryOp.track]
    unfold removeNode
    cases hlook : r.nodes.lookup nodeId with
    | none =>
      dsimp only
      split_ifs with hid
      · exact hmissing nodeId hlook hid
      · rfl
    | some _ =>
      dsimp only
      unfold known
      split_ifs with hid
      · rw [← hid, AList.lookup_erase, Option.map_none]
      · rw [AList.lookup_erase_ne (Ne.symm hid)]
  | cleanup now timeout =>
    show ((r.cleanupStaleNodes now timeout).1.nodes.lookup id).map _ = _
    rw [RegistryOp.track, cleanupStaleNodes, AList.lookup_retain, known, Option.filter_map]
    rfl

theorem known_run (r : NodeRegistry) (ops : List RegistryOp) (id : String) :
    (Theory.run NodeRegistry.step r ops).known id = ops.foldl (RegistryOp.track id) (r.known id) := by
  induction ops generalizing r with
  | nil => rfl
  | cons op ops ih => rw [run_cons, ih, known_step, List.foldl_cons]

/-- What a cleanup returns is how many of the keys it removed. -/
theorem cleanupStaleNodes_count (r : NodeRegistry) (now : Instant) (timeout : Nat) :
    (r.cleanupStaleNodes now timeout).2 =
      (r.nodes.keys.filter fun id =>
        ((r.cleanupStaleNodes now timeout).1.nodes.lookup id).isNone).length := by
  have hgone : ∀ e ∈ r.nodes.entries,
      ((r.cleanupStaleNodes now timeout).1.nodes.lookup e.1).isNone =
        decide (now - e.2.lastHeartbeat > timeout) := by
    intro e he
    rw [cleanupStaleNodes, AList.lookup_retain, AList.lookup_eq_some.mpr he]
    by_cases hstale : now - e.2.lastHeartbeat > timeout
    · simp [hstale, Option.filter_some]
    · simp [hstale, Option.filter_some]
  have hkeys : (r.nodes.keys.filter fun id =>
      ((r.cleanupStaleNodes now timeout).1.nodes.lookup id).isNone).length =
        r.nodes.entries.countP fun e => decide (now - e.2.lastHeartbeat > timeout) := by
    rw [← List.countP_eq_length_filter, AList.keys, List.keys, List.countP_map]
    exact List.countP_congr fun e he => by rw [Function.comp_apply, hgone e he]
  have hlen := List.length_eq_countP_add_countP
    (fun e : Sigma fun _ : String => NodeEntry => decide (now - e.2.lastHeartbeat > timeout))
    (l := r.nodes.entries)
  have hkept : (r.nodes.retain fun _ entry =>
      !decide (now - entry.lastHeartbeat > timeout)).entries.length =
        r.nodes.entries.countP fun e => !decide (now - e.2.lastHeartbeat > timeout) :=
    List.countP_eq_length_filter.symm
  simp only [decide_not, Bool.decide_eq_true] at hlen
  rw [hkeys, cleanupStaleNodes]
  dsimp only
  omega

end NodeRegistry

/-- **Presence follows the history.** After every sequence of calls a node id is present
exactly if it was registered and every call since its last registration spares it: none
removes it or registers another id at its address, and no cleanup finds it silent for longer
than its timeout. A cleanup returns the number of nodes it removes; a heartbeat or a removal
that fails leaves the registry as it was. -/
theorem liveness_follows_history (allowSameIp : Bool) (ops : List RegistryOp) :
    let r := Theory.run NodeRegistry.step (NodeRegistry.new allowSameIp) ops
    (∀ id, (∃ entry, r.nodes.lookup id = some entry) ↔ Alive id ops) ∧
      (∀ now timeout, (r.cleanupStaleNodes now timeout).2 =
        (r.nodes.keys.filter fun id =>
          ((r.cleanupStaleNodes now timeout).1.nodes.lookup id).isNone).length) ∧
      (∀ now id e, (r.updateHeartbeat now id).2 = .error e →
        e = .nodeNotFound id ∧ (r.updateHeartbeat now id).1 = r) ∧
      (∀ now id metrics e, (r.updateHeartbeatWithMetrics now id metrics).2 = .error e →
        e = .nodeNotFound id ∧ (r.updateHeartbeatWithMetrics now id metrics).1 = r) ∧
      ∀ id e, (r.removeNode id).2 = .error e → e = .nodeNotFound id ∧ (r.removeNode id).1 = r := by
  intro r
  have hknown : ∀ id, r.known id = ops.foldl (RegistryOp.track id) none := fun id =>
    NodeRegistry.known_run (NodeRegistry.new allowSameIp) ops id
  refine ⟨fun id => ?_, r.cleanupStaleNodes_count, ?_, ?_, ?_⟩
  · constructor
    · rintro ⟨entry, hentry⟩
      have hlast : r.known id = some (entry.descriptor, entry.lastHeartbeat) := by
        rw [NodeRegistry.known, hentry, Option.map_some]
      rw [hknown, track_foldl_iff] at hlast
      exact hlast.alive
    · rintro ⟨before, now, d, after, hops, hid, hkept⟩
      have hlast := (track_foldl_iff id ops d _).mpr ⟨before, now, after, hops, hid, hkept, rfl⟩
      rw [← hknown] at hlast
      obtain ⟨entry, hentry, -⟩ := Option.map_eq_some_iff.mp hlast
      exact ⟨entry, hentry⟩
  · intro now id e h
    unfold NodeRegistry.updateHeartbeat at h ⊢
    split at h
    · cases h
      exact ⟨rfl, rfl⟩
    · cases h
  · intro now id metrics e h
    unfold NodeRegistry.updateHeartbeatWithMetrics at h ⊢
    split at h
    · cases h
      exact ⟨rfl, rfl⟩
    · cases h
  · intro id e h
    unfold NodeRegistry.removeNode at h ⊢
    split at h
    · cases h
      exact ⟨rfl, rfl⟩
    · cases h

end MiniTor
