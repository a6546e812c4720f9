import MiniTor.Common.Types
import MiniTor.Theory.AssocList

/-!
# Node registry (`discovery/src/core/registry.rs`)

The map of registered relays and the calls that change it. Clock readings are
parameters. `Reachable` is every registry some sequence of calls produces; the
iteration order of a `HashMap` is unspecified, so a reachable registry stays
reachable under any reordering of its entries.

`Reachable.wellKeyed`: every entry is stored under its own node id, and no two
ids share a socket address.
-/

namespace MiniTor

/-- `std::time::Instant`. -/
abbrev Instant := Nat

/-- Registry-specific errors. -/
inductive RegistryError
  | nodeNotFound (nodeId : String)
  | insufficientNodes (message : String)
  deriving DecidableEq, Repr

/-- Entry in the node registry. -/
structure NodeEntry where
  descriptor : NodeDescriptor
  registeredAt : Instant
  lastHeartbeat : Instant
  metrics : Option NodeMetrics
  deriving DecidableEq

def NodeEntry.new (d : NodeDescriptor) (reg last : Instant) : NodeEntry :=
  { descriptor := d, registeredAt := reg, lastHeartbeat := last, metrics := none }

/-- Node registry storing all registered relay nodes. -/
structure NodeRegistry where
  nodes : AList fun _ : String => NodeEntry
  allowSameIp : Bool

namespace NodeRegistry

def new (allowSameIp : Bool) : NodeRegistry := { nodes := ∅, allowSameIp }

/-- Drop every other node at the descriptor's address, then insert or update. -/
def registerNode (r : NodeRegistry) (now : Instant) (descriptor : NodeDescriptor) :
    NodeRegistry :=
  let nodeId := descriptor.nodeId
  let addr := descriptor.address
  let nodes := r.nodes.retain fun id entry => id == nodeId || entry.descriptor.address != addr
  match (nodes.lookup nodeId).isSome with
  | false => { r with nodes := nodes.insert nodeId (NodeEntry.new descriptor now now) }
  | true =>
    { r with
      nodes := nodes.modify nodeId fun entry => { entry with descriptor, lastHeartbeat := now } }

def getAllNodes (r : NodeRegistry) : List NodeDescriptor :=
  r.nodes.values.map fun entry => entry.descriptor

def getNodesByType (r : NodeRegistry) (nodeType : NodeType) : List NodeDescriptor :=
  (r.nodes.values.filter fun entry => entry.descriptor.nodeType == nodeType).map
    fun entry => entry.descriptor

def updateHeartbeat (r : NodeRegistry) (now : Instant) (nodeId : String) :
    NodeRegistry × Except RegistryError Unit :=
  match r.nodes.lookup nodeId with
  | none => (r, .error (.nodeNotFound nodeId))
  | some _ =>
    ({ r with nodes := r.nodes.modify nodeId fun entry => { entry with lastHeartbeat := now } },
      .ok ())

def updateHeartbeatWithMetrics (r : NodeRegistry) (now : Instant) (nodeId : String)
    (metrics : NodeMetrics) : NodeRegistry × Except RegistryError Unit :=
  match r.nodes.lookup nodeId with
  | none => (r, .error (.nodeNotFound nodeId))
  | some _ =>
    ({ r with
        nodes := r.nodes.modify nodeId fun entry =>
          { entry with lastHeartbeat := now, metrics := some metrics } },
      .ok ())

def removeNode (r : NodeRegistry) (nodeId : String) : NodeRegistry × Except RegistryError Unit :=
  match r.nodes.lookup nodeId with
  | none => (r, .error (.nodeNotFound nodeId))
  | some _ => ({ r with nodes := r.nodes.erase nodeId }, .ok ())

/-- Keep the nodes heard of within `timeout`; the number removed. -/
def cleanupStaleNodes (r : NodeRegistry) (now : Instant) (timeout : Nat) : NodeRegistry × Nat :=
  let nodes := r.nodes.retain fun _ entry =>
    let isStale := decide (now - entry.lastHeartbeat > timeout)
    !isStale
  ({ r with nodes }, r.nodes.entries.length - nodes.entries.length)

end NodeRegistry

/-! ## Runs -/

/-- The calls that take the registry by `&mut`. -/
inductive RegistryOp
  | register (now : Instant) (descriptor : NodeDescriptor)
  | heartbeat (now : Instant) (nodeId : String)
  | heartbeatWithMetrics (now : Instant) (nodeId : String) (metrics : NodeMetrics)
  | remove (nodeId : String)
  | cleanup (now : Instant) (timeout : Nat)

def NodeRegistry.step (r : NodeRegistry) : RegistryOp → NodeRegistry
  | .register now descriptor => r.registerNode now descriptor
  | .heartbeat now nodeId => (r.updateHeartbeat now nodeId).1
  | .heartbeatWithMetrics now nodeId metrics => (r.updateHeartbeatWithMetrics now nodeId metrics).1
  | .remove nodeId => (r.removeNode nodeId).1
  | .cleanup now timeout => (r.cleanupStaleNodes now timeout).1

/-- The registries the service can get to from `new allowSameIp`. -/
inductive NodeRegistry.Reachable (allowSameIp : Bool) : NodeRegistry → Prop
  | new : Reachable allowSameIp (NodeRegistry.new allowSameIp)
  | step {r : NodeRegistry} (h : Reachable allowSameIp r) (op : RegistryOp) :
      Reachable allowSameIp (r.step op)
  | reorder {r r' : NodeRegistry} (h : Reachable allowSameIp r)
      (hperm : r'.nodes.entries.Perm r.nodes.entries) (hflag : r'.allowSameIp = r.allowSameIp) :
      Reachable allowSameIp r'

/-! ## The representation invariant -/

/-- Entries sit under their own id, and an address belongs to one id. -/
structure NodeRegistry.WellKeyed (r : NodeRegistry) : Prop where
  key : ∀ e ∈ r.nodes.entries, e.2.descriptor.nodeId = e.1
  address : ∀ e ∈ r.nodes.entries, ∀ e' ∈ r.nodes.entries,
    e.2.descriptor.address = e'.2.descriptor.address → e.1 = e'.1

namespace NodeRegistry

/-- Removing entries keeps the invariant. -/
theorem WellKeyed.of_subset {r r' : NodeRegistry} (h : r.WellKeyed)
    (hsub : r'.nodes.entries ⊆ r.nodes.entries) : r'.WellKeyed where
  key e he := h.key e (hsub he)
  address e he e' he' := h.address e (hsub he) e' (hsub he')

/-- Updating an entry without its descriptor keeps the invariant. -/
theorem WellKeyed.modify {r : NodeRegistry} (h : r.WellKeyed) (nodeId : String)
    {f : NodeEntry → NodeEntry} (hf : ∀ entry, (f entry).descriptor = entry.descriptor) :
    WellKeyed { r with nodes := r.nodes.modify nodeId f } := by
  -- every updated entry has the key and the descriptor of an old one
  have hold : ∀ e ∈ (r.nodes.modify nodeId f).entries,
      ∃ d ∈ r.nodes.entries, d.1 = e.1 ∧ d.2.descriptor = e.2.descriptor := by
    intro e he
    obtain ⟨d, hd, rfl⟩ := AList.mem_entries_modify.mp he
    refine ⟨d, hd, (AList.modifyEntry_fst ..).symm, ?_⟩
    unfold AList.modifyEntry
    split
    · exact (hf d.2).symm
    · rfl
  constructor
  · intro e he
    obtain ⟨d, hd, hkey, hdesc⟩ := hold e he
    rw [← hdesc, ← hkey]
    exact h.key d hd
  · intro e he e' he' haddr
    obtain ⟨d, hd, hkey, hdesc⟩ := hold e he
    obtain ⟨d', hd', hkey', hdesc'⟩ := hold e' he'
    rw [← hkey, ← hkey']
    exact h.address d hd d' hd' (by rw [hdesc, hdesc', haddr])

/-- Once the other holders of its address are gone, a descriptor may be put under
its id. -/
theorem WellKeyed.put {r r' : NodeRegistry} (h : r.WellKeyed) {descriptor : NodeDescriptor}
    (hput : ∀ e ∈ r'.nodes.entries,
      (e.1 = descriptor.nodeId ∧ e.2.descriptor = descriptor) ∨
        (e.1 ≠ descriptor.nodeId ∧ e ∈ r.nodes.entries ∧
          e.2.descriptor.address ≠ descriptor.address)) : r'.WellKeyed := by
  constructor
  · intro e he
    rcases hput e he with ⟨hkey, hdesc⟩ | ⟨-, hmem, -⟩
    · rw [hdesc, hkey]
    · exact h.key e hmem
  · intro e he e' he' haddr
    rcases hput e he with ⟨hkey, hdesc⟩ | ⟨-, hmem, hne⟩ <;>
      rcases hput e' he' with ⟨hkey', hdesc'⟩ | ⟨-, hmem', hne'⟩
    · rw [hkey, hkey']
    · exact absurd (by rw [← haddr, hdesc]) hne'
    · exact absurd (by rw [haddr, hdesc']) hne
    · exact h.address e hmem e' hmem' haddr

/-- What a registration leaves in the map. -/
theorem mem_registerNode {r : NodeRegistry} {now : Instant} {descriptor : NodeDescriptor}
    {e : Sigma fun _ : String => NodeEntry}
    (he : e ∈ (r.registerNode now descriptor).nodes.entries) :
    (e.1 = descriptor.nodeId ∧ e.2.descriptor = descriptor) ∨
      (e.1 ≠ descriptor.nodeId ∧ e ∈ r.nodes.entries ∧
        e.2.descriptor.address ≠ descriptor.address) := by
  have hretained : ∀ d ∈ (r.nodes.retain fun id entry =>
      id == descriptor.nodeId || entry.descriptor.address != descriptor.address).entries,
      d.1 ≠ descriptor.nodeId →
      d ∈ r.nodes.entries ∧ d.2.descriptor.address ≠ descriptor.address := by
    intro d hd hne
    obtain ⟨hmem, hp⟩ := AList.mem_entries_retain.mp hd
    refine ⟨hmem, ?_⟩
    simpa [hne] using hp
  by_cases hkey : e.1 = descriptor.nodeId
  · refine .inl ⟨hkey, ?_⟩
    unfold registerNode at he
    dsimp only at he
    split at he
    · rcases List.mem_cons.mp he with rfl | hmem
      · rfl
      · have hfst := List.mem_keys_of_mem hmem
        rw [hkey] at hfst
        exact absurd hfst (List.notMem_keys_kerase _ (AList.nodupKeys _))
    · obtain ⟨d, hd, rfl⟩ := AList.mem_entries_modify.mp he
      rw [AList.modifyEntry_fst] at hkey
      rw [AList.modifyEntry, if_pos hkey]
  · refine .inr ⟨hkey, ?_⟩
    unfold registerNode at he
    dsimp only at he
    split at he
    · rcases List.mem_cons.mp he with rfl | hmem
      · exact absurd rfl hkey
      · exact hretained e ((List.kerase_sublist _ _).subset hmem) hkey
    · obtain ⟨d, hd, rfl⟩ := AList.mem_entries_modify.mp he
      rw [AList.modifyEntry_fst] at hkey
      rw [AList.modifyEntry, if_neg hkey]
      exact hretained d hd hkey

/-- One call keeps the invariant. -/
theorem WellKeyed.step {r : NodeRegistry} (h : r.WellKeyed) (op : RegistryOp) :
    (r.step op).WellKeyed := by
  cases op with
  | register now descriptor => exact h.put fun e he => mem_registerNode he
  | heartbeat now nodeId =>
    simp only [NodeRegistry.step, updateHeartbeat]
    split
    · exact h
    · exact h.modify nodeId fun _ => rfl
  | heartbeatWithMetrics now nodeId metrics =>
    simp only [NodeRegistry.step, updateHeartbeatWithMetrics]
    split
    · exact h
    · exact h.modify nodeId fun _ => rfl
  | remove nodeId =>
    simp only [NodeRegistry.step, removeNode]
    split
    · exact h
    · exact h.of_subset (List.kerase_sublist _ _).subset
  | cleanup now timeout =>
    exact h.of_subset fun _ he => (AList.mem_entries_retain.mp he).1

/-- Every reachable registry is well keyed. -/
theorem Reachable.wellKeyed {allowSameIp : Bool} {r : NodeRegistry}
    (h : Reachable allowSameIp r) : r.WellKeyed := by
  induction h with
  | new => exact ⟨fun e he => absurd he List.not_mem_nil, fun e he => absurd he List.not_mem_nil⟩
  | step _ op ih => exact ih.step op
  | reorder _ hperm _ ih => exact ih.of_subset hperm.subset

@[simp] theorem allowSameIp_step (r : NodeRegistry) (op : RegistryOp) :
    (r.step op).allowSameIp = r.allowSameIp := by
  cases op <;> simp only [NodeRegistry.step, registerNode, updateHeartbeat,
    updateHeartbeatWithMetrics, removeNode, cleanupStaleNodes]
  all_goals split <;> rfl

/-- The flag is the one the service was started with. -/
theorem Reachable.allowSameIp_eq {allowSameIp : Bool} {r : NodeRegistry}
    (h : Reachable allowSameIp r) : r.allowSameIp = allowSameIp := by
  induction h with
  | new => rfl
  | step _ op ih => rw [allowSameIp_step, ih]
  | reorder _ _ hflag ih => rw [hflag, ih]

/-! ## What the listings contain -/

theorem mem_getAllNodes {r : NodeRegistry} {n : NodeDescriptor} :
    n ∈ r.getAllNodes ↔ ∃ e ∈ r.nodes.entries, e.2.descriptor = n := by
  rw [getAllNodes, AList.values, List.map_map]
  exact List.mem_map

/-- A call adds no node but the one it registers. -/
theorem mem_getAllNodes_step {r : NodeRegistry} {op : RegistryOp} {n : NodeDescriptor}
    (h : n ∈ (r.step op).getAllNodes) : n ∈ r.getAllNodes ∨ ∃ now, op = .register now n := by
  have hmodify : ∀ (nodeId : String) (f : NodeEntry → NodeEntry),
      (∀ entry, (f entry).descriptor = entry.descriptor) →
      n ∈ getAllNodes { r with nodes := r.nodes.modify nodeId f } → n ∈ r.getAllNodes := by
    intro nodeId f hf hn
    obtain ⟨e, he, rfl⟩ := mem_getAllNodes.mp hn
    obtain ⟨d, hd, rfl⟩ := AList.mem_entries_modify.mp he
    refine mem_getAllNodes.mpr ⟨d, hd, ?_⟩
    unfold AList.modifyEntry
    split
    · exact (hf d.2).symm
    · rfl
  have hsubset : ∀ r' : NodeRegistry, r'.nodes.entries ⊆ r.nodes.entries →
      n ∈ r'.getAllNodes → n ∈ r.getAllNodes := by
    intro r' hsub hn
    obtain ⟨e, he, rfl⟩ := mem_getAllNodes.mp hn
    exact mem_getAllNodes.mpr ⟨e, hsub he, rfl⟩
  cases op with
  | register now descriptor =>
    obtain ⟨e, he, rfl⟩ := mem_getAllNodes.mp h
    rcases mem_registerNode he with ⟨-, hdesc⟩ | ⟨-, hold, -⟩
    · exact .inr ⟨now, by rw [hdesc]⟩
    · exact .inl (mem_getAllNodes.mpr ⟨e, hold, rfl⟩)
  | heartbeat now nodeId =>
    simp only [NodeRegistry.step, updateHeartbeat] at h
    split at h
    · exact .inl h
    · exact .inl (hmodify nodeId (fun entry => { entry with lastHeartbeat := now }) (fun _ => rfl) h)
  | heartbeatWithMetrics now nodeId metrics =>
    simp only [NodeRegistry.step, updateHeartbeatWithMetrics] at h
    split at h
    · exact .inl h
    · exact .inl (hmodify nodeId
        (fun entry => { entry with lastHeartbeat := now, metrics := some metrics })
        (fun _ => rfl) h)
  | remove nodeId =>
    simp only [NodeRegistry.step, removeNode] at h
    split at h
    · exact .inl h
    · exact .inl (hsubset _ (List.kerase_sublist _ _).subset h)
  | cleanup now timeout =>
    exact .inl (hsubset _ (fun _ he => (AList.mem_entries_retain.mp he).1) h)

/-- A node listed by type is a registered node of that type. -/
theorem getNodesByType_eq (r : NodeRegistry) (nodeType : NodeType) :
    r.getNodesByType nodeType = r.getAllNodes.filter fun n => n.nodeType == nodeType := by
  rw [getNodesByType, getAllNodes, List.filter_map]
  rfl

theorem mem_getNodesByType {r : NodeRegistry} {nodeType : NodeType} {n : NodeDescriptor} :
    n ∈ r.getNodesByType nodeType ↔ n ∈ r.getAllNodes ∧ n.nodeType = nodeType := by
  rw [getNodesByType_eq, List.mem_filter, beq_iff_eq]

/-- Registered nodes with one id are the same node. -/
theorem WellKeyed.eq_of_nodeId {r : NodeRegistry} (h : r.WellKeyed) {a b : NodeDescriptor}
    (ha : a ∈ r.getAllNodes) (hb : b ∈ r.getAllNodes) (hid : a.nodeId = b.nodeId) : a = b := by
  obtain ⟨⟨k, e⟩, he, rfl⟩ := mem_getAllNodes.mp ha
  obtain ⟨⟨k', e'⟩, he', rfl⟩ := mem_getAllNodes.mp hb
  have hkey : e.descriptor.nodeId = k := h.key _ he
  have hkey' : e'.descriptor.nodeId = k' := h.key _ he'
  obtain rfl : k = k' := by rw [← hkey, ← hkey', hid]
  rw [r.nodes.nodupKeys.eq_of_mk_mem he he']

/-- Registered nodes at one address are the same node. -/
theorem WellKeyed.eq_of_address {r : NodeRegistry} (h : r.WellKeyed) {a b : NodeDescriptor}
    (ha : a ∈ r.getAllNodes) (hb : b ∈ r.getAllNodes) (haddr : a.address = b.address) :
    a = b := by
  obtain ⟨e, he, rfl⟩ := mem_getAllNodes.mp ha
  obtain ⟨e', he', rfl⟩ := mem_getAllNodes.mp hb
  apply h.eq_of_nodeId ha hb
  rw [h.key e he, h.key e' he', h.address e he e' he' haddr]

/-- No node is listed twice. -/
theorem WellKeyed.nodup_getAllNodes {r : NodeRegistry} (h : r.WellKeyed) :
    r.getAllNodes.Nodup := by
  rw [getAllNodes, AList.values, List.map_map]
  refine List.Nodup.map_on ?_ r.nodes.nodupKeys.nodup
  rintro ⟨k, e⟩ he ⟨k', e'⟩ he' hdesc
  have hkey : e.descriptor.nodeId = k := h.key _ he
  have hkey' : e'.descriptor.nodeId = k' := h.key _ he'
  have hdesc : e.descriptor = e'.descriptor := hdesc
  obtain rfl : k = k' := by rw [← hkey, ← hkey', hdesc]
  rw [r.nodes.nodupKeys.eq_of_mk_mem he he']

end NodeRegistry

end MiniTor
