import MiniTor.Discovery.Weights

/-!
# When path selection gives up (`discovery/src/core/registry.rs`)

`get_random_path` draws the exit, the entry and the middles one after another and never takes
a draw back. So it may give up although a path exists, but only when no path goes on from what
it has drawn.

- `Covered`: the exclusion sets hold nothing but the IPs and operators of the nodes drawn; a
  node that is compatible with all of these passes the filter (`Covered.admissible`).
- `pickMiddles_stuck`: the loop stops short only when no middles complete what is drawn.
- `getRandomPath_complete`: and so does the whole selection, which draws the nodes it returns
  where it succeeds (`drawnNodes_of_ok`).
- `greedy_gives_up`: one of two entries belongs to the operator of the exit, and is drawn.
-/

namespace MiniTor

open Theory

namespace NodeRegistry

/-! ## The selections of a request -/

section Selections

variable (overflowChecks : Bool)

/-- The lists `pickMiddles` selects from, each with the node it draws, if it draws one. -/
def middleSelections (allowSameIp : Bool) : Nat → List NodeDescriptor → Finset IpAddr →
    Finset String → Rng → List (List NodeDescriptor × Option NodeDescriptor)
  | 0, _, _, _, _ => []
  | slots + 1, availableMiddles, excludedIps, excludedOps, rng =>
    let availableMiddles :=
      availableMiddles.filter (admissible allowSameIp excludedIps excludedOps)
    if availableMiddles.length < slots + 1 then []
    else
      match selectWeightedIndex overflowChecks availableMiddles rng with
      | .error _ => [(availableMiddles, none)]
      | .ok (rng, idx) =>
        match availableMiddles[idx]? with
        | none => [(availableMiddles, none)]
        | some node =>
          (availableMiddles, some node) ::
            middleSelections allowSameIp slots (availableMiddles.eraseIdx idx)
              (excludeIp allowSameIp node excludedIps) (excludeOp node excludedOps) rng

/-- The counts `getRandomPath` checks before it draws a node. -/
def TooFew (r : NodeRegistry) (count : Nat) : Prop :=
  count < 3 ∨ r.getNodesByType .entry = [] ∨ r.getNodesByType .middle = [] ∨
    (r.getNodesByType .middle).length < count - 2 ∨ r.getNodesByType .exit = []

instance (r : NodeRegistry) (count : Nat) : Decidable (TooFew r count) :=
  inferInstanceAs (Decidable (_ ∨ _ ∨ _ ∨ _ ∨ _))

/-- The lists `getRandomPath` selects from, with the nodes it draws: none with too few nodes,
else the exits, the entries and the middles. -/
def selections (r : NodeRegistry) (count : Nat) (rng : Rng) :
    List (List NodeDescriptor × Option NodeDescriptor) :=
  let entryNodes := r.getNodesByType .entry
  let middleNodes := r.getNodesByType .middle
  let exitNodes := r.getNodesByType .exit
  if TooFew r count then []
  else
    match selectWeightedNode overflowChecks exitNodes rng with
    | .error _ => [(exitNodes, none)]
    | .ok (rng, exitNode) =>
      let excludedIps := excludeIp r.allowSameIp exitNode ∅
      let excludedOps := excludeOp exitNode ∅
      (exitNodes, some exitNode) ::
        match selectWeightedNode overflowChecks entryNodes rng with
        | .error _ => [(entryNodes, none)]
        | .ok (rng, entryNode) =>
          (entryNodes, some entryNode) ::
            if !r.allowSameIp && !entryNode.address.ip.isLoopback &&
                decide (entryNode.address.ip ∈ excludedIps) ||
                entryNode.operatorId.any fun op => decide (op ∈ excludedOps) then []
            else
              middleSelections overflowChecks r.allowSameIp (count - 2) middleNodes
                (excludeIp r.allowSameIp entryNode excludedIps) (excludeOp entryNode excludedOps)
                rng

/-- The middles `pickMiddles` draws before it ends, in either way. -/
def drawnMiddles (allowSameIp : Bool) (slots : Nat) (availableMiddles : List NodeDescriptor)
    (excludedIps : Finset IpAddr) (excludedOps : Finset String) (rng : Rng) :
    List NodeDescriptor :=
  (middleSelections overflowChecks allowSameIp slots availableMiddles excludedIps excludedOps
    rng).filterMap Prod.snd

/-- The nodes `getRandomPath` draws before it ends, in either way. -/
def drawnNodes (r : NodeRegistry) (count : Nat) (rng : Rng) : List NodeDescriptor :=
  (selections overflowChecks r count rng).filterMap Prod.snd

end Selections

/-- There are enough nodes to draw from. -/
theorem not_tooFew {r : NodeRegistry} {count : Nat} :
    ¬TooFew r count ↔ ¬count < 3 ∧ r.getNodesByType .entry ≠ [] ∧ r.getNodesByType .middle ≠ [] ∧
      ¬(r.getNodesByType .middle).length < count - 2 ∧ r.getNodesByType .exit ≠ [] := by
  rw [TooFew, not_or, not_or, not_or, not_or]

/-- A choice of one entry, `count - 2` different middles and one exit that keeps the
constraints the selection enforces. -/
structure Choice (r : NodeRegistry) (count : Nat) (entryNode : NodeDescriptor)
    (middles : List NodeDescriptor) (exitNode : NodeDescriptor) : Prop where
  mem_entry : entryNode ∈ r.getNodesByType .entry
  mem_middle : middles ⊆ r.getNodesByType .middle
  mem_exit : exitNode ∈ r.getNodesByType .exit
  length : middles.length = count - 2
  distinct : middles.Nodup
  compatible : (entryNode :: middles ++ [exitNode]).Pairwise (Compatible r.allowSameIp)

/-! ## The selection of one node -/

section Select

variable {overflowChecks : Bool}

theorem weightedScan_lt {nodes : List NodeDescriptor} {i j : Nat} {w : UInt64}
    (h : weightedScan nodes i w = some j) : j < i + nodes.length := by
  induction nodes generalizing i w with
  | nil => exact nomatch h
  | cons node nodes ih =>
    rw [weightedScan] at h
    split at h
    · cases h
      simp
    · have hlt := ih h
      rw [List.length_cons]
      omega

/-- The sum fails only by a panic. -/
theorem totalBandwidth_error {nodes : List NodeDescriptor} {e : PathFault}
    (h : totalBandwidth overflowChecks nodes = .error e) : e = .panic := by
  cases overflowChecks with
  | true =>
    rw [totalBandwidth_checked] at h
    split at h
    · exact nomatch h
    · cases h
      rfl
  | false =>
    rw [totalBandwidth_wrapping] at h
    exact nomatch h

/-- With a sum to draw below, an index in range is selected. -/
theorem selectWeightedIndex_ok {nodes : List NodeDescriptor} (hnodes : nodes ≠ []) {total : UInt64}
    (htotal : totalBandwidth overflowChecks nodes = .ok total) (rng : Rng) :
    ∃ rng' i, selectWeightedIndex overflowChecks nodes rng = .ok (rng', i) ∧ i < nodes.length := by
  have hpos : 0 < nodes.length := List.length_pos_iff.mpr hnodes
  rw [selectWeightedIndex, failIf_neg hnodes, ok_bind, htotal, ok_bind]
  by_cases hzero : total = 0
  · exact ⟨_, _, if_pos hzero, Nat.mod_lt _ hpos⟩
  · rw [if_neg hzero]
    dsimp only [Rng.randomRange]
    cases hscan : weightedScan nodes 0 (UInt64.ofNat (rng.draws rng.used % total.toNat)) with
    | some i =>
      refine ⟨_, i, rfl, ?_⟩
      have hlt := weightedScan_lt hscan
      omega
    | none => exact ⟨_, nodes.length - 1, rfl, by omega⟩

variable (overflowChecks) in
/-- An index is selected, or the sum panics. -/
theorem selectWeightedIndex_cases {nodes : List NodeDescriptor} (hnodes : nodes ≠ [])
    (rng : Rng) :
    (∃ rng' i, selectWeightedIndex overflowChecks nodes rng = .ok (rng', i) ∧ i < nodes.length) ∨
      selectWeightedIndex overflowChecks nodes rng = .error .panic := by
  cases htotal : totalBandwidth overflowChecks nodes with
  | ok total => exact .inl (selectWeightedIndex_ok hnodes htotal rng)
  | error e =>
    right
    rw [selectWeightedIndex, failIf_neg hnodes, ok_bind, htotal, totalBandwidth_error htotal]
    rfl

/-- An index in range is a node. -/
theorem selectWeightedNode_of_index {nodes : List NodeDescriptor} {rng rng' : Rng} {i : Nat}
    (hselect : selectWeightedIndex overflowChecks nodes rng = .ok (rng', i))
    (hi : i < nodes.length) :
    selectWeightedNode overflowChecks nodes rng = .ok (rng', nodes[i]) := by
  rw [selectWeightedNode, hselect, ok_bind]
  dsimp only
  rw [List.getElem?_eq_getElem hi]
  rfl

variable (overflowChecks) in
/-- So a node is selected, or the sum panics. -/
theorem selectWeightedNode_cases {nodes : List NodeDescriptor} (hnodes : nodes ≠ [])
    (rng : Rng) :
    (∃ rng' node, selectWeightedNode overflowChecks nodes rng = .ok (rng', node) ∧
        node ∈ nodes) ∨
      selectWeightedNode overflowChecks nodes rng = .error .panic := by
  rcases selectWeightedIndex_cases overflowChecks hnodes rng with
    ⟨rng', i, hselect, hi⟩ | hpanic
  · exact .inl ⟨rng', nodes[i], selectWeightedNode_of_index hselect hi, List.getElem_mem hi⟩
  · right
    rw [selectWeightedNode, hpanic]
    rfl

end Select

/-! ## The exclusion sets -/

/-- The exclusion sets hold only what the nodes drawn so far bring in. -/
structure Covered (allowSameIp : Bool) (picked : List NodeDescriptor)
    (excludedIps : Finset IpAddr) (excludedOps : Finset String) : Prop where
  ip : ∀ ip ∈ excludedIps, allowSameIp = false ∧
    ∃ c ∈ picked, c.address.ip.isLoopback = false ∧ c.address.ip = ip
  op : ∀ op ∈ excludedOps, ∃ c ∈ picked, c.operatorId = some op

section Covered

variable {allowSameIp : Bool} {picked : List NodeDescriptor} {excludedIps : Finset IpAddr}
  {excludedOps : Finset String}

theorem covered_nil : Covered allowSameIp [] ∅ ∅ where
  ip ip hip := absurd hip (Finset.notMem_empty ip)
  op op hop := absurd hop (Finset.notMem_empty op)

theorem Covered.commit (h : Covered allowSameIp picked excludedIps excludedOps)
    (node : NodeDescriptor) :
    Covered allowSameIp (node :: picked) (excludeIp allowSameIp node excludedIps)
      (excludeOp node excludedOps) := by
  constructor
  · intro ip hip
    unfold excludeIp at hip
    -- loopback addresses are never excluded, and none is when same addresses are allowed
    split at hip
    · rename_i hguard
      simp only [Bool.and_eq_true, Bool.not_eq_true'] at hguard
      rcases Finset.mem_insert.mp hip with rfl | hip
      · exact ⟨hguard.1, node, List.mem_cons_self, hguard.2, rfl⟩
      · obtain ⟨hflag, c, hc, hrest⟩ := h.ip ip hip
        exact ⟨hflag, c, List.mem_cons_of_mem _ hc, hrest⟩
    · obtain ⟨hflag, c, hc, hrest⟩ := h.ip ip hip
      exact ⟨hflag, c, List.mem_cons_of_mem _ hc, hrest⟩
  · intro op hop
    unfold excludeOp at hop
    split at hop
    · rename_i own hown
      rcases Finset.mem_insert.mp hop with rfl | hop
      · exact ⟨node, List.mem_cons_self, hown⟩
      · obtain ⟨c, hc, hcop⟩ := h.op op hop
        exact ⟨c, List.mem_cons_of_mem _ hc, hcop⟩
    · obtain ⟨c, hc, hcop⟩ := h.op op hop
      exact ⟨c, List.mem_cons_of_mem _ hc, hcop⟩

/-- A node that is compatible with all that is drawn has neither its IP nor its operator
excluded. -/
theorem Covered.free (h : Covered allowSameIp picked excludedIps excludedOps)
    {n : NodeDescriptor} (hcompatible : ∀ c ∈ picked, Compatible allowSameIp c n) :
    n.address.ip ∉ excludedIps ∧ ∀ op, n.operatorId = some op → op ∉ excludedOps := by
  constructor
  · intro hip
    obtain ⟨hflag, c, hc, hloop, hsame⟩ := h.ip _ hip
    exact (hcompatible c hc).ip hflag hloop hsame
  · intro op hn hop
    obtain ⟨c, hc, hcop⟩ := h.op op hop
    exact (hcompatible c hc).operator op hcop hn

/-- **What is compatible passes the filter.** -/
theorem Covered.admissible (h : Covered allowSameIp picked excludedIps excludedOps)
    {n : NodeDescriptor} (hcompatible : ∀ c ∈ picked, Compatible allowSameIp c n) :
    admissible allowSameIp excludedIps excludedOps n = true := by
  obtain ⟨hip, hop⟩ := h.free hcompatible
  rw [NodeRegistry.admissible, Bool.and_eq_true]
  constructor
  · simp [hip]
  · cases hoperator : n.operatorId with
    | none => rfl
    | some op => simpa using hop op hoperator

/-- The checks on the entry pass when it goes with the exit. -/
theorem entryChecks_of_compatible {exitNode entryNode : NodeDescriptor}
    (h : Compatible allowSameIp exitNode entryNode) :
    (!allowSameIp && !entryNode.address.ip.isLoopback &&
        decide (entryNode.address.ip ∈ excludeIp allowSameIp exitNode ∅)) = false ∧
      (entryNode.operatorId.any fun op => decide (op ∈ excludeOp exitNode ∅)) = false := by
  have hcovered : Covered allowSameIp [exitNode] (excludeIp allowSameIp exitNode ∅)
      (excludeOp exitNode ∅) := covered_nil.commit exitNode
  obtain ⟨hip, hop⟩ := hcovered.free fun c hc => List.mem_singleton.mp hc ▸ h
  constructor
  · simp [hip]
  · cases hoperator : entryNode.operatorId with
    | none => rfl
    | some op => simpa using hop op hoperator

end Covered

/-! ## The middles -/

section Middles

variable {overflowChecks allowSameIp : Bool}

theorem drawnMiddles_subset {slots : Nat} {available : List NodeDescriptor}
    {ips : Finset IpAddr} {ops : Finset String} {rng : Rng} :
    drawnMiddles overflowChecks allowSameIp slots available ips ops rng ⊆ available := by
  induction slots generalizing available ips ops rng with
  | zero => exact List.nil_subset _
  | succ slots ih =>
    rw [drawnMiddles, middleSelections]
    split
    · exact List.nil_subset _
    · split
      · exact List.nil_subset _
      · split
        · exact List.nil_subset _
        · rename_i node hget
          have hfiltered := List.mem_of_getElem? hget
          refine List.cons_subset.mpr ⟨(List.mem_filter.mp hfiltered).1, fun m hm => ?_⟩
          exact (List.mem_filter.mp (List.eraseIdx_subset (ih hm))).1

/-- Where the loop ends well, it has drawn what it returns. -/
theorem drawnMiddles_of_ok {slots : Nat} {available out : List NodeDescriptor}
    {ips : Finset IpAddr} {ops : Finset String} {rng : Rng}
    (h : pickMiddles overflowChecks allowSameIp slots available ips ops rng = .ok out) :
    drawnMiddles overflowChecks allowSameIp slots available ips ops rng = out := by
  induction slots generalizing available out ips ops rng with
  | zero =>
    cases h
    rfl
  | succ slots ih =>
    simp only [pickMiddles, bind_eq_ok, okOr_eq_ok, failIf_eq_ok] at h
    obtain ⟨-, henough, ⟨rng', idx⟩, hselect, node, hget, rest, hrest, hreturn⟩ := h
    cases hreturn
    rw [drawnMiddles, middleSelections, if_neg henough, hselect]
    dsimp only
    rw [hget]
    exact congrArg (List.cons node) (ih hrest)

/-- What completes the draws has the first of them in it; the others complete what is left. -/
theorem pairwise_erase {rest : List NodeDescriptor} {node : NodeDescriptor}
    (hpair : rest.Pairwise (Compatible allowSameIp)) (hmem : node ∈ rest) :
    ∀ m ∈ rest.erase node, Compatible allowSameIp node m := by
  have hperm : rest.Perm (node :: rest.erase node) := List.perm_cons_erase hmem
  have hpair' : (node :: rest.erase node).Pairwise (Compatible allowSameIp) :=
    hpair.perm hperm fun h => h.symm
  exact (List.pairwise_cons.mp hpair').1

/-- **The loop stops short only when no middles complete what is drawn.** -/
theorem pickMiddles_stuck {slots : Nat} {available picked rest : List NodeDescriptor}
    {ips : Finset IpAddr} {ops : Finset String} {rng : Rng} {message : String}
    (hcovered : Covered allowSameIp picked ips ops) (havailable : available.Nodup)
    (hfail : pickMiddles overflowChecks allowSameIp slots available ips ops rng =
      .error (.insufficient message))
    (hdistinct : rest.Nodup) (hlength : rest.length = slots) (hsub : rest ⊆ available)
    (hpicked : ∀ c ∈ picked, ∀ m ∈ rest, Compatible allowSameIp c m)
    (hpair : rest.Pairwise (Compatible allowSameIp)) :
    ¬drawnMiddles overflowChecks allowSameIp slots available ips ops rng ⊆ rest := by
  induction slots generalizing available picked rest ips ops rng with
  | zero => cases hfail
  | succ slots ih =>
    -- the filter keeps all of `rest`
    have hkept : rest ⊆ available.filter (admissible allowSameIp ips ops) := fun m hm =>
      List.mem_filter.mpr ⟨hsub hm, hcovered.admissible fun c hc => hpicked c hc m hm⟩
    have hfiltered : (available.filter (admissible allowSameIp ips ops)).Nodup :=
      havailable.filter _
    rw [pickMiddles] at hfail
    rw [drawnMiddles, middleSelections]
    generalize available.filter (admissible allowSameIp ips ops) = filtered
      at hkept hfiltered hfail ⊢
    dsimp only at hfail ⊢
    have henough : ¬filtered.length < slots + 1 := by
      have hle := (hdistinct.subperm hkept).length_le
      omega
    have hnonempty : filtered ≠ [] := by
      rintro rfl
      exact henough (Nat.succ_pos _)
    rw [failIf_neg henough, ok_bind] at hfail
    rw [if_neg henough]
    rcases selectWeightedIndex_cases overflowChecks hnonempty rng with
      ⟨rng', idx, hselect, hidx⟩ | hpanic
    · rw [hselect, ok_bind] at hfail
      rw [hselect]
      dsimp only at hfail ⊢
      rw [List.getElem?_eq_getElem hidx] at hfail ⊢
      rw [okOr_some, ok_bind] at hfail
      dsimp only
      -- `remove(idx)` splits the candidates into the drawn one and the others
      have hperm : (filtered[idx] :: filtered.eraseIdx idx).Perm filtered :=
        List.getElem_cons_eraseIdx_perm hidx
      have hcons : (filtered[idx] :: filtered.eraseIdx idx).Nodup := hperm.symm.nodup hfiltered
      generalize filtered[idx] = node at *
      have hrest := (bind_eq_error.mp hfail).resolve_right (by rintro ⟨_, _, ⟨⟩⟩)
      intro hdrawn
      obtain ⟨hnode, hdrawn⟩ := List.cons_subset.mp hdrawn
      -- what is left of `rest` completes the draws with the node among them
      refine ih (hcovered.commit node) hcons.of_cons hrest (hdistinct.erase node) ?_ ?_ ?_ ?_ ?_
      · rw [List.length_erase_of_mem hnode, hlength]
        rfl
      · intro m hm
        obtain ⟨hne, hmem⟩ := (hdistinct.mem_erase_iff).mp hm
        exact (List.mem_cons.mp (hperm.mem_iff.mpr (hkept hmem))).resolve_left hne
      · intro c hc m hm
        rcases List.mem_cons.mp hc with rfl | hc
        · exact pairwise_erase hpair hnode m hm
        · exact hpicked c hc m (List.mem_of_mem_erase hm)
      · exact hpair.sublist List.erase_sublist
      · intro m hm
        refine (hdistinct.mem_erase_iff).mpr ⟨?_, hdrawn hm⟩
        rintro rfl
        exact (List.nodup_cons.mp hcons).1 (drawnMiddles_subset hm)
    · rw [hpanic] at hfail
      cases hfail

end Middles

/-! ## The selection -/

/-- The node of a choice that has the role of a drawn one is the drawn one. -/
theorem Choice.roles {r : NodeRegistry} {count : Nat} {entryNode exitNode : NodeDescriptor}
    {middles : List NodeDescriptor} (h : Choice r count entryNode middles exitNode)
    {n : NodeDescriptor} (hmem : n ∈ entryNode :: middles ++ [exitNode]) :
    (n.nodeType = .entry → n = entryNode) ∧ (n.nodeType = .exit → n = exitNode) ∧
      (n.nodeType = .middle → n ∈ middles) := by
  have hentry := (mem_getNodesByType.mp h.mem_entry).2
  have hexit := (mem_getNodesByType.mp h.mem_exit).2
  rcases List.mem_append.mp hmem with hmem | hmem
  · rcases List.mem_cons.mp hmem with rfl | hmem
    · exact ⟨fun _ => rfl, fun hrole => (nomatch hentry.symm.trans hrole),
        fun hrole => nomatch hentry.symm.trans hrole⟩
    · have hmiddle := (mem_getNodesByType.mp (h.mem_middle hmem)).2
      exact ⟨fun hrole => (nomatch hmiddle.symm.trans hrole),
        fun hrole => (nomatch hmiddle.symm.trans hrole), fun _ => hmem⟩
  · obtain rfl := List.mem_singleton.mp hmem
    exact ⟨fun hrole => (nomatch hexit.symm.trans hrole), fun _ => rfl,
      fun hrole => nomatch hexit.symm.trans hrole⟩

/-- **Path selection is complete up to its draws**: a reachable registry reports too few nodes
only if no choice contains the nodes drawn until then. -/
theorem getRandomPath_complete {allowSameIp : Bool} {r : NodeRegistry}
    (hr : Reachable allowSameIp r) {overflowChecks : Bool} {count : Nat} (hcount : 3 ≤ count)
    {rng : Rng} {message : String}
    (hfail : getRandomPath overflowChecks r count rng = .error (.insufficient message)) :
    ¬∃ entryNode middles exitNode, Choice r count entryNode middles exitNode ∧
      drawnNodes overflowChecks r count rng ⊆ entryNode :: middles ++ [exitNode] := by
  rintro ⟨entryNode, middles, exitNode, hchoice, hdrawn⟩
  have hentries : r.getNodesByType .entry ≠ [] := List.ne_nil_of_mem hchoice.mem_entry
  have hexits : r.getNodesByType .exit ≠ [] := List.ne_nil_of_mem hchoice.mem_exit
  have hmiddlesLength : ¬(r.getNodesByType .middle).length < count - 2 := by
    have hle := (hchoice.distinct.subperm hchoice.mem_middle).length_le
    rw [hchoice.length] at hle
    omega
  have hmiddles : r.getNodesByType .middle ≠ [] := by
    intro hnil
    rw [hnil, List.length_nil] at hmiddlesLength
    omega
  have hcount' : ¬count < 3 := by omega
  have hstart : ¬TooFew r count :=
    not_tooFew.mpr ⟨hcount', hentries, hmiddles, hmiddlesLength, hexits⟩
  unfold getRandomPath at hfail
  dsimp only at hfail
  rw [failIf_neg hcount', ok_bind, failIf_neg hentries, ok_bind, failIf_neg hmiddles, ok_bind,
    failIf_neg hmiddlesLength, ok_bind, failIf_neg hexits, ok_bind] at hfail
  unfold drawnNodes selections at hdrawn
  dsimp only at hdrawn
  rw [if_neg hstart] at hdrawn
  -- the exit
  rcases selectWeightedNode_cases overflowChecks hexits rng with
    ⟨rng₁, drawnExit, hexit, hexitMem⟩ | hpanic
  swap
  · rw [hpanic] at hfail
    exact nomatch hfail
  rw [hexit, ok_bind] at hfail
  rw [hexit] at hdrawn
  dsimp only at hfail hdrawn
  -- the entry
  rcases selectWeightedNode_cases overflowChecks hentries rng₁ with
    ⟨rng₂, drawnEntry, hentry, hentryMem⟩ | hpanic
  swap
  · rw [hpanic] at hfail
    exact nomatch hfail
  rw [hentry, ok_bind] at hfail
  rw [hentry] at hdrawn
  dsimp only at hfail hdrawn
  have hpair := List.pairwise_append.mp hchoice.compatible
  have hpicked : drawnExit = exitNode ∧ drawnEntry = entryNode := by
    have hboth : drawnExit ∈ entryNode :: middles ++ [exitNode] ∧
        drawnEntry ∈ entryNode :: middles ++ [exitNode] := by
      split at hdrawn
      · exact ⟨hdrawn (by simp), hdrawn (by simp)⟩
      · exact ⟨hdrawn (by simp), hdrawn (by simp)⟩
    exact ⟨(hchoice.roles hboth.1).2.1 (mem_getNodesByType.mp hexitMem).2,
      (hchoice.roles hboth.2).1 (mem_getNodesByType.mp hentryMem).2⟩
  obtain ⟨rfl, rfl⟩ := hpicked
  -- the two checks on the entry pass, as it goes with the exit
  obtain ⟨hipCheck, hopCheck⟩ := entryChecks_of_compatible
    (hpair.2.2 drawnEntry List.mem_cons_self drawnExit (List.mem_singleton_self _)).symm
  rw [hipCheck, hopCheck] at hfail hdrawn
  rw [failIf_neg Bool.false_ne_true, ok_bind, failIf_neg Bool.false_ne_true, ok_bind] at hfail
  rw [Bool.or_false, if_neg Bool.false_ne_true] at hdrawn
  -- the middles
  have hrest := (bind_eq_error.mp hfail).resolve_right fun ⟨_, _, hreturn⟩ => nomatch hreturn
  have hnodup : (r.getNodesByType .middle).Nodup := by
    rw [getNodesByType_eq]
    exact hr.wellKeyed.nodup_getAllNodes.filter _
  obtain ⟨hentryPair, hmiddlePair⟩ := List.pairwise_cons.mp hpair.1
  refine pickMiddles_stuck ((covered_nil.commit drawnExit).commit drawnEntry) hnodup hrest
    hchoice.distinct hchoice.length hchoice.mem_middle ?_ hmiddlePair ?_
  · intro c hc m hm
    rcases List.mem_cons.mp hc with rfl | hc
    · exact hentryPair m hm
    · obtain rfl := List.mem_singleton.mp hc
      exact (hpair.2.2 m (List.mem_cons_of_mem _ hm) c hc).symm
  · intro m hm
    have hmem := hdrawn (List.mem_cons_of_mem _ (List.mem_cons_of_mem _ hm))
    exact (hchoice.roles hmem).2.2 (mem_getNodesByType.mp (drawnMiddles_subset hm)).2

/-- A request that succeeds has drawn the nodes of its path. -/
theorem drawnNodes_of_ok {r : NodeRegistry} {overflowChecks : Bool} {count : Nat} {rng : Rng}
    {path : List NodeDescriptor} (h : getRandomPath overflowChecks r count rng = .ok path) :
    (drawnNodes overflowChecks r count rng).Perm path := by
  simp only [getRandomPath, bind_eq_ok, failIf_eq_ok] at h
  obtain ⟨-, hcount, -, hentries, -, hmiddles, -, hlength, -, hexits, ⟨rng₁, exitNode⟩, hexit,
    ⟨rng₂, entryNode⟩, hentry, -, hip, -, hop, middles, hpicked, hreturn⟩ := h
  cases hreturn
  have hstart : ¬TooFew r count := not_tooFew.mpr ⟨hcount, hentries, hmiddles, hlength, hexits⟩
  unfold drawnNodes selections
  dsimp only
  rw [if_neg hstart, hexit]
  dsimp only
  rw [hentry]
  dsimp only
  rw [Bool.eq_false_iff.mpr hip, Bool.eq_false_iff.mpr hop, Bool.or_false,
    if_neg Bool.false_ne_true]
  have hdrawn := congrArg (fun l => exitNode :: entryNode :: l) (drawnMiddles_of_ok hpicked)
  exact (List.Perm.of_eq hdrawn).trans
    (List.perm_append_singleton exitNode (entryNode :: middles)).symm

/-! ### Two entries, one of them the operator's -/

/-- The node as one of an operator's family. -/
def inFamily (operatorId : String) (d : NodeDescriptor) : NodeDescriptor :=
  { d with operatorId := some operatorId }

/-- The first entry and the exit belong to one operator. -/
def sampleFamily : NodeRegistry :=
  ((((new false).step (.register 0 (inFamily "x" (sampleNode "entry-1" .entry 1)))).step
    (.register 1 (sampleNode "entry-2" .entry 2))).step
      (.register 2 (sampleNode "middle" .middle 3))).step
        (.register 3 (inFamily "x" (sampleNode "exit" .exit 4)))

theorem sampleFamily_reachable : Reachable false sampleFamily :=
  (((Reachable.new.step _).step _).step _).step _

/-- The draws take the exit and the entry of its operator. -/
theorem sampleFamily_fails :
    getRandomPath true sampleFamily 3 ⟨fun _ => 100, 0⟩ =
      .error (.insufficient "entry and exit share the same operator_id") := by decide +kernel

theorem sampleFamily_incomplete :
    ¬∃ entryNode middles exitNode, Choice sampleFamily 3 entryNode middles exitNode ∧
      drawnNodes true sampleFamily 3 ⟨fun _ => 100, 0⟩ ⊆ entryNode :: middles ++ [exitNode] :=
  getRandomPath_complete sampleFamily_reachable (by decide) sampleFamily_fails

/-- With the other entry there is a path. -/
theorem greedy_gives_up :
    ¬∀ (r : NodeRegistry) (count : Nat) (rng : Rng) (message : String), Reachable false r →
      3 ≤ count → getRandomPath true r count rng = .error (.insufficient message) →
        ¬∃ entryNode middles exitNode, Choice r count entryNode middles exitNode := by
  intro hclaim
  refine hclaim sampleFamily 3 ⟨fun _ => 100, 0⟩ _ sampleFamily_reachable (by decide)
    sampleFamily_fails ?_
  refine ⟨sampleNode "entry-2" .entry 2, [sampleNode "middle" .middle 3],
    inFamily "x" (sampleNode "exit" .exit 4), ?_⟩
  refine ⟨by decide +kernel, by decide +kernel, by decide +kernel, rfl, List.nodup_singleton _, ?_⟩
  refine List.Pairwise.imp_of_mem (R := fun a b => a.operatorId = none ∧ a.address.ip ≠ b.address.ip)
    (fun _ _ h => ⟨fun op hop => ?_, fun _ _ => h.2⟩) (by decide +kernel)
  rw [h.1] at hop
  exact nomatch hop

end NodeRegistry

end MiniTor
