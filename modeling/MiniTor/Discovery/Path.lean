import Mathlib
import MiniTor.Discovery.Registry
import MiniTor.Theory.Failing

/-!
# Path selection (`discovery/src/core/registry.rs`)

`getRandomPath` picks the exit, then the entry, then the middles one by one;
two exclusion sets hold the IPs and operator ids of the nodes picked so far.

The draws of the random generator are a parameter: `Rng` is any sequence of raw
values, each reduced to the range it is drawn from. So is the build profile:
with overflow checks a wrapping bandwidth sum panics, without them it wraps.

The loop invariant is `Committed`: the exclusion sets cover every node picked so
far. A node that passes the check is `Compatible` with all of them
(`admissible_compatible`), and picking it keeps the invariant
(`Committed.commit`).
-/

namespace MiniTor

open Theory

/-- Raw random values and how many were used. -/
structure Rng where
  draws : Nat → Nat
  used : Nat

/-- `rng.random_range(0..n)`. -/
def Rng.randomRange (rng : Rng) (n : Nat) : Rng × Nat :=
  ({ rng with used := rng.used + 1 }, rng.draws rng.used % n)

/-- How a path request stops short: a panic, or the error it returns. -/
inductive PathFault
  | panic
  | registry (e : RegistryError)
  deriving DecidableEq, Repr

/-- `InsufficientNodes` with its message. -/
def PathFault.insufficient (message : String) : PathFault :=
  .registry (.insufficientNodes message)

namespace NodeRegistry

section Select

variable (overflowChecks : Bool)

/-- `u64` sum of the bandwidths. -/
def totalBandwidth (nodes : List NodeDescriptor) : Except PathFault UInt64 :=
  nodes.foldlM (fun acc n =>
    if overflowChecks && decide (2 ^ 64 ≤ acc.toNat + n.bandwidth.toNat) then .error .panic
    else .ok (acc + n.bandwidth)) 0

/-- The scan of `select_weighted_index` from index `i` on. -/
def weightedScan : List NodeDescriptor → Nat → UInt64 → Option Nat
  | [], _, _ => none
  | node :: nodes, i, randomWeight =>
    if randomWeight < node.bandwidth then some i
    else weightedScan nodes (i + 1) (randomWeight - node.bandwidth)

/-- The index of a bandwidth-weighted random node. -/
def selectWeightedIndex (nodes : List NodeDescriptor) (rng : Rng) :
    Except PathFault (Rng × Nat) := do
  failIf (nodes = []) (.insufficient "Empty node list")
  let totalBandwidth ← totalBandwidth overflowChecks nodes
  if totalBandwidth = 0 then return rng.randomRange nodes.length
  let (rng, randomWeight) := rng.randomRange totalBandwidth.toNat
  match weightedScan nodes 0 (UInt64.ofNat randomWeight) with
  | some i => return (rng, i)
  | none => return (rng, nodes.length - 1)

def selectWeightedNode (nodes : List NodeDescriptor) (rng : Rng) :
    Except PathFault (Rng × NodeDescriptor) := do
  let (rng, idx) ← selectWeightedIndex overflowChecks nodes rng
  let node ← okOr nodes[idx]? (.insufficient "Empty node list")
  return (rng, node)

variable (allowSameIp : Bool)

/-- Add a picked node's IP to the exclusion set; loopback IPs are exempt. -/
def excludeIp (node : NodeDescriptor) (excludedIps : Finset IpAddr) : Finset IpAddr :=
  if !allowSameIp && !node.address.ip.isLoopback then insert node.address.ip excludedIps
  else excludedIps

/-- Add a picked node's operator to the exclusion set. -/
def excludeOp (node : NodeDescriptor) (excludedOps : Finset String) : Finset String :=
  match node.operatorId with
  | some op => insert op excludedOps
  | none => excludedOps

/-- The filter on the middles still available. -/
def admissible (excludedIps : Finset IpAddr) (excludedOps : Finset String)
    (n : NodeDescriptor) : Bool :=
  let ipOk := allowSameIp || n.address.ip.isLoopback || !decide (n.address.ip ∈ excludedIps)
  let opOk := n.operatorId.all fun op => !decide (op ∈ excludedOps)
  ipOk && opOk

/-- The middle loop, with `remainingSlots` still to fill. -/
def pickMiddles : Nat → List NodeDescriptor → Finset IpAddr → Finset String → Rng →
    Except PathFault (List NodeDescriptor)
  | 0, _, _, _, _ => return []
  | slots + 1, availableMiddles, excludedIps, excludedOps, rng => do
    let availableMiddles :=
      availableMiddles.filter (admissible allowSameIp excludedIps excludedOps)
    let remainingSlots := slots + 1
    failIf (availableMiddles.length < remainingSlots) (.insufficient
      ("Not enough unique-IP/operator middle nodes: need " ++ toString remainingSlots ++
        " more, " ++ toString availableMiddles.length ++ " remain"))
    let (rng, idx) ← selectWeightedIndex overflowChecks availableMiddles rng
    let node ← okOr availableMiddles[idx]? .panic
    let nodes ← pickMiddles slots (availableMiddles.eraseIdx idx)
      (excludeIp allowSameIp node excludedIps) (excludeOp node excludedOps) rng
    return node :: nodes

end Select

/-- Get a random N-hop path: 1 entry + (count-2) middles + 1 exit. -/
def getRandomPath (overflowChecks : Bool) (r : NodeRegistry) (count : Nat) (rng : Rng) :
    Except PathFault (List NodeDescriptor) := do
  failIf (count < 3) (.insufficient ("hop count must be >= 3, got " ++ toString count))
  let entryNodes := r.getNodesByType .entry
  let middleNodes := r.getNodesByType .middle
  let exitNodes := r.getNodesByType .exit
  failIf (entryNodes = []) (.insufficient "No entry nodes available")
  let middleCount := count - 2
  failIf (middleNodes = []) (.insufficient "No middle nodes available")
  failIf (middleNodes.length < middleCount) (.insufficient
    ("Need " ++ toString middleCount ++ " unique middle nodes for a " ++ toString count ++
      "-hop circuit, only " ++ toString middleNodes.length ++ " registered"))
  failIf (exitNodes = []) (.insufficient "No exit nodes available")
  -- the exit is picked first
  let (rng, exitNode) ← selectWeightedNode overflowChecks exitNodes rng
  let excludedIps := excludeIp r.allowSameIp exitNode ∅
  let excludedOps := excludeOp exitNode ∅
  let (rng, entryNode) ← selectWeightedNode overflowChecks entryNodes rng
  failIf (!r.allowSameIp && !entryNode.address.ip.isLoopback &&
      decide (entryNode.address.ip ∈ excludedIps))
    (.insufficient "entry and exit share the same IP address")
  failIf (entryNode.operatorId.any fun op => decide (op ∈ excludedOps))
    (.insufficient "entry and exit share the same operator_id")
  let excludedOps := excludeOp entryNode excludedOps
  let excludedIps := excludeIp r.allowSameIp entryNode excludedIps
  let middles ← pickMiddles overflowChecks r.allowSameIp middleCount middleNodes excludedIps
    excludedOps rng
  return entryNode :: middles ++ [exitNode]

/-! ## The constraints -/

/-- Two nodes may be on one circuit. -/
structure Compatible (allowSameIp : Bool) (a b : NodeDescriptor) : Prop where
  operator : ∀ op, a.operatorId = some op → b.operatorId ≠ some op
  ip : allowSameIp = false → a.address.ip.isLoopback = false → a.address.ip ≠ b.address.ip

theorem Compatible.symm {allowSameIp : Bool} {a b : NodeDescriptor}
    (h : Compatible allowSameIp a b) : Compatible allowSameIp b a where
  operator op hb ha := h.operator op ha hb
  ip hflag hb heq := h.ip hflag (by rw [← heq]; exact hb) heq.symm

/-- The exclusion sets cover the nodes picked so far. -/
structure Committed (allowSameIp : Bool) (picked : List NodeDescriptor)
    (excludedIps : Finset IpAddr) (excludedOps : Finset String) : Prop where
  ip : ∀ c ∈ picked, allowSameIp = false → c.address.ip.isLoopback = false →
    c.address.ip ∈ excludedIps
  op : ∀ c ∈ picked, ∀ op, c.operatorId = some op → op ∈ excludedOps

section Committed

variable {allowSameIp : Bool} {picked : List NodeDescriptor} {excludedIps : Finset IpAddr}
  {excludedOps : Finset String}

theorem committed_nil : Committed allowSameIp [] excludedIps excludedOps where
  ip _ hc := absurd hc List.not_mem_nil
  op _ hc := absurd hc List.not_mem_nil

theorem subset_excludeIp (node : NodeDescriptor) :
    excludedIps ⊆ excludeIp allowSameIp node excludedIps := by
  unfold excludeIp
  split
  · exact Finset.subset_insert _ _
  · exact Finset.Subset.refl _

theorem subset_excludeOp (node : NodeDescriptor) :
    excludedOps ⊆ excludeOp node excludedOps := by
  unfold excludeOp
  split
  · exact Finset.subset_insert _ _
  · exact Finset.Subset.refl _

/-- Excluding a picked node's IP and operator commits it. -/
theorem Committed.commit (h : Committed allowSameIp picked excludedIps excludedOps)
    (node : NodeDescriptor) :
    Committed allowSameIp (node :: picked) (excludeIp allowSameIp node excludedIps)
      (excludeOp node excludedOps) := by
  constructor
  · intro c hc hflag hloop
    rcases List.mem_cons.mp hc with rfl | hmem
    · rw [excludeIp, hflag, hloop]
      exact Finset.mem_insert_self _ _
    · exact subset_excludeIp node (h.ip c hmem hflag hloop)
  · intro c hc op hop
    rcases List.mem_cons.mp hc with rfl | hmem
    · rw [excludeOp, hop]
      exact Finset.mem_insert_self _ _
    · exact subset_excludeOp node (h.op c hmem op hop)

/-- A node outside the exclusion sets is compatible with every committed one. -/
theorem Committed.compatible (h : Committed allowSameIp picked excludedIps excludedOps)
    {n : NodeDescriptor}
    (hip : allowSameIp = false → n.address.ip.isLoopback = false → n.address.ip ∉ excludedIps)
    (hop : ∀ op, n.operatorId = some op → op ∉ excludedOps) :
    ∀ c ∈ picked, Compatible allowSameIp c n := by
  intro c hc
  refine ⟨fun op hcop hnop => hop op hnop (h.op c hc op hcop), fun hflag hloop heq => ?_⟩
  exact hip hflag (by rw [← heq]; exact hloop) (heq ▸ h.ip c hc hflag hloop)

theorem admissible_compatible (h : Committed allowSameIp picked excludedIps excludedOps)
    {n : NodeDescriptor} (hn : admissible allowSameIp excludedIps excludedOps n = true) :
    ∀ c ∈ picked, Compatible allowSameIp c n := by
  obtain ⟨hipOk, hopOk⟩ := (Bool.and_eq_true _ _).mp hn
  apply h.compatible
  · intro hflag hloop
    simpa [hflag, hloop] using hipOk
  · intro op hop
    simpa [hop] using hopOk

/-- The two explicit checks on the entry make it compatible with the exit. -/
theorem compatible_of_entryChecks {exitNode entryNode : NodeDescriptor}
    (hip : (!allowSameIp && !entryNode.address.ip.isLoopback &&
      decide (entryNode.address.ip ∈ excludeIp allowSameIp exitNode ∅)) = false)
    (hop : (entryNode.operatorId.any fun op => decide (op ∈ excludeOp exitNode ∅)) = false) :
    Compatible allowSameIp exitNode entryNode := by
  have hcommitted : Committed allowSameIp [exitNode] (excludeIp allowSameIp exitNode ∅)
      (excludeOp exitNode ∅) := committed_nil.commit exitNode
  refine hcommitted.compatible ?_ ?_ _ List.mem_cons_self
  · intro hflag hloop
    simpa [hflag, hloop] using hip
  · intro op hentryOp
    simpa [hentryOp] using hop

end Committed

/-! ## What the selection returns -/

section Spec

variable {overflowChecks : Bool}

/-- A selected node is one of the list. -/
theorem mem_of_selectWeightedNode {nodes : List NodeDescriptor} {rng rng' : Rng}
    {node : NodeDescriptor}
    (h : selectWeightedNode overflowChecks nodes rng = .ok (rng', node)) : node ∈ nodes := by
  simp only [selectWeightedNode, bind_eq_ok, okOr_eq_ok] at h
  obtain ⟨⟨_, idx⟩, -, node', hget, hreturn⟩ := h
  cases hreturn
  exact List.mem_of_getElem? hget

/-- One turn of the middle loop: the node picked passes the filter, the others that
pass it stay available. -/
theorem pickMiddles_succ {allowSameIp : Bool} {slots : Nat} {available : List NodeDescriptor}
    {ips : Finset IpAddr} {ops : Finset String} {rng : Rng} {out : List NodeDescriptor}
    (h : pickMiddles overflowChecks allowSameIp (slots + 1) available ips ops rng = .ok out) :
    ∃ node left rng' rest, out = node :: rest ∧
      (available.filter (admissible allowSameIp ips ops)).Perm (node :: left) ∧
      pickMiddles overflowChecks allowSameIp slots left (excludeIp allowSameIp node ips)
        (excludeOp node ops) rng' = .ok rest := by
  simp only [pickMiddles, bind_eq_ok, okOr_eq_ok, failIf_eq_ok] at h
  obtain ⟨-, -, ⟨rng', idx⟩, -, node, hget, rest, hrest, hreturn⟩ := h
  cases hreturn
  obtain ⟨hlt, rfl⟩ := List.getElem?_eq_some_iff.mp hget
  exact ⟨_, _, _, rest, rfl, (List.getElem_cons_eraseIdx_perm hlt).symm, hrest⟩

/-- **The middle loop.** Whatever is committed when it starts, the nodes it picks are
distinct available ones, compatible with each other and with all committed nodes. -/
theorem pickMiddles_spec {allowSameIp : Bool} {slots : Nat}
    {available picked out : List NodeDescriptor} {ips : Finset IpAddr} {ops : Finset String}
    {rng : Rng} (hcommitted : Committed allowSameIp picked ips ops) (hnodup : available.Nodup)
    (h : pickMiddles overflowChecks allowSameIp slots available ips ops rng = .ok out) :
    out.length = slots ∧ out ⊆ available ∧ out.Nodup ∧
      out.Pairwise (Compatible allowSameIp) ∧
      ∀ c ∈ picked, ∀ m ∈ out, Compatible allowSameIp c m := by
  induction slots generalizing available picked out ips ops rng with
  | zero =>
    cases h
    exact ⟨rfl, List.nil_subset _, List.nodup_nil, .nil, fun _ _ _ hm => absurd hm List.not_mem_nil⟩
  | succ slots ih =>
    obtain ⟨node, left, rng', rest, rfl, hperm, hrest⟩ := pickMiddles_succ h
    have hcons : (node :: left).Nodup := hperm.nodup (hnodup.filter _)
    have hnode := List.mem_filter.mp (hperm.mem_iff.mpr List.mem_cons_self)
    have hleft : left ⊆ available := fun m hm =>
      (List.mem_filter.mp (hperm.mem_iff.mpr (List.mem_cons_of_mem _ hm))).1
    obtain ⟨hlen, hsub, hdistinct, hpair, hcompat⟩ :=
      ih (hcommitted.commit node) hcons.of_cons hrest
    refine ⟨by rw [List.length_cons, hlen], ?_, ?_, ?_, ?_⟩
    · exact List.cons_subset.mpr ⟨hnode.1, fun _ hm => hleft (hsub hm)⟩
    · exact List.nodup_cons.mpr ⟨fun hmem => (List.nodup_cons.mp hcons).1 (hsub hmem), hdistinct⟩
    · exact List.pairwise_cons.mpr ⟨fun m hm => hcompat node List.mem_cons_self m hm, hpair⟩
    · intro c hc m hm
      rcases List.mem_cons.mp hm with rfl | hm
      · exact admissible_compatible hcommitted hnode.2 c hc
      · exact hcompat c (List.mem_cons_of_mem _ hc) m hm

end Spec

/-! ## Soundness -/

/-- What a path may be used for: `count` registered nodes in their roles, pairwise
different, no operator twice, no IP twice. -/
structure ValidPath (r : NodeRegistry) (count : Nat) (path : List NodeDescriptor) : Prop where
  length : path.length = count
  registered : ∀ n ∈ path, n ∈ r.getAllNodes
  roles : path.map NodeDescriptor.nodeType =
    .entry :: (List.replicate (count - 2) .middle ++ [.exit])
  nodeIds : (path.map NodeDescriptor.nodeId).Nodup
  addresses : (path.map NodeDescriptor.address).Nodup
  operators : path.Pairwise fun a b => ∀ op, a.operatorId = some op → b.operatorId ≠ some op
  ips : r.allowSameIp = false →
    path.Pairwise fun a b => a.address.ip.isLoopback = false → a.address.ip ≠ b.address.ip

/-- The picks of a successful request. -/
theorem getRandomPath_inv {overflowChecks : Bool} {r : NodeRegistry} {count : Nat} {rng : Rng}
    {path : List NodeDescriptor} (h : getRandomPath overflowChecks r count rng = .ok path) :
    ∃ entryNode middles exitNode rng', path = entryNode :: middles ++ [exitNode] ∧ 3 ≤ count ∧
      exitNode ∈ r.getNodesByType .exit ∧ entryNode ∈ r.getNodesByType .entry ∧
      Compatible r.allowSameIp exitNode entryNode ∧
      pickMiddles overflowChecks r.allowSameIp (count - 2) (r.getNodesByType .middle)
        (excludeIp r.allowSameIp entryNode (excludeIp r.allowSameIp exitNode ∅))
        (excludeOp entryNode (excludeOp exitNode ∅)) rng' = .ok middles := by
  simp only [getRandomPath, bind_eq_ok, failIf_eq_ok] at h
  obtain ⟨-, hcount, -, -, -, -, -, -, -, -, ⟨_, exitNode⟩, hexit, ⟨_, entryNode⟩, hentry, -, hip,
    -, hop, middles, hmiddles, hreturn⟩ := h
  cases hreturn
  refine ⟨entryNode, middles, exitNode, _, rfl, by omega, mem_of_selectWeightedNode hexit,
    mem_of_selectWeightedNode hentry, ?_, hmiddles⟩
  exact compatible_of_entryChecks (Bool.eq_false_iff.mpr hip) (Bool.eq_false_iff.mpr hop)

/-- How long a path is, where its nodes come from, and their roles. -/
theorem getRandomPath_layout {allowSameIp : Bool} {r : NodeRegistry}
    (hr : Reachable allowSameIp r) {overflowChecks : Bool} {count : Nat} {rng : Rng}
    {path : List NodeDescriptor} (h : getRandomPath overflowChecks r count rng = .ok path) :
    path.length = count ∧ (∀ n ∈ path, n ∈ r.getAllNodes) ∧
      ∃ middles, count = middles + 3 ∧ path.map NodeDescriptor.nodeType =
        .entry :: List.replicate (middles + 1) .middle ++ [.exit] := by
  obtain ⟨entryNode, middles, exitNode, rng', rfl, hcount, hexit, hentry, -, hmiddles⟩ :=
    getRandomPath_inv h
  have hnodup : (r.getNodesByType .middle).Nodup := by
    rw [getNodesByType_eq]
    exact hr.wellKeyed.nodup_getAllNodes.filter _
  obtain ⟨hlen, hsub, -⟩ := pickMiddles_spec committed_nil hnodup hmiddles
  obtain ⟨hexitMem, hexitType⟩ := mem_getNodesByType.mp hexit
  obtain ⟨hentryMem, hentryType⟩ := mem_getNodesByType.mp hentry
  have hmiddle : ∀ m ∈ middles, m ∈ r.getAllNodes ∧ m.nodeType = .middle := fun m hm =>
    mem_getNodesByType.mp (hsub hm)
  have hroles : middles.map NodeDescriptor.nodeType = List.replicate (count - 3 + 1) .middle := by
    rw [List.eq_replicate_iff, List.length_map]
    refine ⟨by omega, fun t ht => ?_⟩
    obtain ⟨m, hm, rfl⟩ := List.mem_map.mp ht
    exact (hmiddle m hm).2
  refine ⟨?_, ?_, count - 3, by omega, ?_⟩
  · simp only [List.length_append, List.length_cons, List.length_nil, hlen]
    omega
  · intro n hn
    rcases List.mem_append.mp hn with hn | hn
    · rcases List.mem_cons.mp hn with rfl | hn
      · exact hentryMem
      · exact (hmiddle n hn).1
    · obtain rfl := List.mem_singleton.mp hn
      exact hexitMem
  · rw [List.map_append, List.map_cons, hroles, hentryType, List.map_singleton, hexitType]

/-- **Path selection is sound**: every path a reachable registry returns is valid,
whatever the draws. -/
theorem getRandomPath_valid {allowSameIp : Bool} {r : NodeRegistry}
    (hr : Reachable allowSameIp r) {overflowChecks : Bool} {count : Nat} {rng : Rng}
    {path : List NodeDescriptor} (h : getRandomPath overflowChecks r count rng = .ok path) :
    ValidPath r count path := by
  obtain ⟨entryNode, middles, exitNode, rng', rfl, hcount, hexit, hentry, hcompat, hmiddles⟩ :=
    getRandomPath_inv h
  have hkeyed := hr.wellKeyed
  obtain ⟨hexitMem, hexitType⟩ := mem_getNodesByType.mp hexit
  obtain ⟨hentryMem, hentryType⟩ := mem_getNodesByType.mp hentry
  have hcommitted : Committed r.allowSameIp [entryNode, exitNode]
      (excludeIp r.allowSameIp entryNode (excludeIp r.allowSameIp exitNode ∅))
      (excludeOp entryNode (excludeOp exitNode ∅)) :=
    (committed_nil.commit exitNode).commit entryNode
  have hnodup : (r.getNodesByType .middle).Nodup := by
    rw [getNodesByType_eq]
    exact hkeyed.nodup_getAllNodes.filter _
  obtain ⟨hlen, hsub, hdistinct, hpair, hothers⟩ := pickMiddles_spec hcommitted hnodup hmiddles
  have hmiddle : ∀ m ∈ middles, m ∈ r.getAllNodes ∧ m.nodeType = .middle := fun m hm =>
    mem_getNodesByType.mp (hsub hm)
  -- all pairs are compatible
  have hpairs : (entryNode :: middles ++ [exitNode]).Pairwise (Compatible r.allowSameIp) := by
    refine List.pairwise_append.mpr ⟨List.pairwise_cons.mpr ⟨fun m hm => ?_, hpair⟩,
      List.pairwise_singleton _ _, fun a ha b hb => ?_⟩
    · exact hothers entryNode List.mem_cons_self m hm
    · obtain rfl := List.mem_singleton.mp hb
      rcases List.mem_cons.mp ha with rfl | ha
      · exact hcompat.symm
      · exact (hothers b (List.mem_cons_of_mem _ List.mem_cons_self) a ha).symm
  have hregistered : ∀ n ∈ entryNode :: middles ++ [exitNode], n ∈ r.getAllNodes := by
    intro n hn
    rcases List.mem_append.mp hn with hn | hn
    · rcases List.mem_cons.mp hn with rfl | hn
      · exact hentryMem
      · exact (hmiddle n hn).1
    · obtain rfl := List.mem_singleton.mp hn
      exact hexitMem
  -- the roles keep the three groups apart
  have hpath : (entryNode :: middles ++ [exitNode]).Nodup := by
    refine List.nodup_append.mpr ⟨List.nodup_cons.mpr ⟨fun hm => ?_, hdistinct⟩,
      List.nodup_singleton _, fun a ha b hb => ?_⟩
    · exact absurd (hentryType.symm.trans (hmiddle _ hm).2) (by decide)
    · obtain rfl := List.mem_singleton.mp hb
      rintro rfl
      rcases List.mem_cons.mp ha with rfl | ha
      · exact absurd (hentryType.symm.trans hexitType) (by decide)
      · exact absurd (hexitType.symm.trans (hmiddle _ ha).2) (by decide)
  constructor
  · simp only [List.length_append, List.length_cons, List.length_nil, hlen]
    omega
  · exact hregistered
  · have hroles : middles.map NodeDescriptor.nodeType = List.replicate (count - 2) .middle := by
      rw [List.eq_replicate_iff, List.length_map]
      refine ⟨hlen, fun t ht => ?_⟩
      obtain ⟨m, hm, rfl⟩ := List.mem_map.mp ht
      exact (hmiddle m hm).2
    simp [hroles, hentryType, hexitType]
  · exact hpath.map_on fun a ha b hb =>
      hkeyed.eq_of_nodeId (hregistered a ha) (hregistered b hb)
  · exact hpath.map_on fun a ha b hb =>
      hkeyed.eq_of_address (hregistered a ha) (hregistered b hb)
  · exact hpairs.imp fun hc => hc.operator
  · exact fun hflag => hpairs.imp fun hc => hc.ip hflag

/-! ### A sample registry -/

/-- A node at 10.0.0.`host`. -/
def sampleNode (nodeId : String) (nodeType : NodeType) (host : UInt8) : NodeDescriptor where
  nodeId
  nodeType
  address := .v4 ⟨[10, 0, 0, host], rfl⟩ 9001
  publicKey := ⟨List.Vector.replicate 32 host⟩
  bandwidth := 100
  exitPolicy := none
  operatorId := none
  tlsCertFingerprint := ""

/-- One entry, two middles, one exit. -/
def sampleRegistry : NodeRegistry :=
  ((((new false).step (.register 0 (sampleNode "entry" .entry 1))).step
    (.register 1 (sampleNode "middle-1" .middle 2))).step
      (.register 2 (sampleNode "middle-2" .middle 3))).step
        (.register 3 (sampleNode "exit" .exit 4))

def samplePath : List NodeDescriptor :=
  [sampleNode "entry" .entry 1, sampleNode "middle-2" .middle 3, sampleNode "middle-1" .middle 2,
    sampleNode "exit" .exit 4]

theorem samplePath_valid : ValidPath sampleRegistry 4 samplePath :=
  getRandomPath_valid ((((Reachable.new.step _).step _).step _).step _)
    (show getRandomPath true sampleRegistry 4 ⟨fun _ => 0, 0⟩ = .ok samplePath by decide +kernel)

end NodeRegistry

end MiniTor
