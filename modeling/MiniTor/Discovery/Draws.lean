import MiniTor.Discovery.Greedy
import MiniTor.Discovery.Overflow

/-!
# Which draws select a path (`discovery/src/core/registry.rs`)

`get_random_path` draws the exit, the entry and the middles, each below the sum of the
bandwidths of the nodes still to choose from.

- `drawsOf`: the lists drawn from on the way to a path, each with the node drawn.
- `pickMiddles_eq_ok_iff`, `getRandomPath_eq_ok_iff`: a request returns a choice of nodes that
  keeps the constraints, namely the one whose intervals its draws lie in.
- `path_draws_exact`: so the paths that can be returned are just these choices, each drawn by
  as many draws as the product of its nodes' bandwidths.
-/

namespace MiniTor

open Theory

namespace NodeRegistry

/-- A list drawn from, and the node drawn. -/
abbrev Draw := List NodeDescriptor × NodeDescriptor

/-- What the draw is taken below. -/
def Draw.total (d : Draw) : Nat := (weights d.1).sum

/-- This raw value draws the node. -/
def Draw.Hit (d : Draw) (w : Nat) : Prop :=
  pick (weights d.1) (w % d.total) = some (d.1.idxOf d.2)

/-- The draws of the middle loop when it picks these. -/
def middleDraws (allowSameIp : Bool) :
    List NodeDescriptor → Finset IpAddr → Finset String → List NodeDescriptor → List Draw
  | _, _, _, [] => []
  | available, ips, ops, node :: rest =>
    let filtered := available.filter (admissible allowSameIp ips ops)
    (filtered, node) :: middleDraws allowSameIp (filtered.erase node)
      (excludeIp allowSameIp node ips) (excludeOp node ops) rest

/-- The draws of a request that returns this path. -/
def drawsOf (r : NodeRegistry) (entryNode : NodeDescriptor) (middles : List NodeDescriptor)
    (exitNode : NodeDescriptor) : List Draw :=
  (r.getNodesByType .exit, exitNode) :: (r.getNodesByType .entry, entryNode) ::
    middleDraws r.allowSameIp (r.getNodesByType .middle)
      (excludeIp r.allowSameIp entryNode (excludeIp r.allowSameIp exitNode ∅))
      (excludeOp entryNode (excludeOp exitNode ∅)) middles

/-- At the node's index is its bandwidth. -/
theorem getD_weights_idxOf {nodes : List NodeDescriptor} {node : NodeDescriptor}
    (h : node ∈ nodes) : (weights nodes).getD (nodes.idxOf node) 0 = node.bandwidth.toNat := by
  have hlt : nodes.idxOf node < nodes.length := List.idxOf_lt_length_iff.mpr h
  rw [weights, List.getD_eq_getElem?_getD, List.getElem?_map, List.getElem?_eq_getElem hlt,
    List.getElem_idxOf hlt]
  rfl

/-- The raw values from `used` on hit the draws one after another. -/
def Hits : List Draw → (Nat → Nat) → Nat → Prop
  | [], _, _ => True
  | d :: ds, raw, used => d.Hit (raw used) ∧ Hits ds raw (used + 1)

theorem hits_iff {ds : List Draw} {raw : Nat → Nat} {used : Nat} :
    Hits ds raw used ↔ ∀ i : Fin ds.length, (ds.get i).Hit (raw (used + i)) := by
  induction ds generalizing used with
  | nil => exact ⟨fun _ i => i.elim0, fun _ => trivial⟩
  | cons d ds ih =>
    show _ ↔ ∀ i : Fin (ds.length + 1), ((d :: ds).get i).Hit (raw (used + i))
    rw [Hits, ih, Fin.forall_fin_succ]
    refine and_congr Iff.rfl (forall_congr' fun i => ?_)
    rw [Fin.val_succ, Nat.add_assoc, Nat.add_comm 1]
    rfl

/-! ## One draw -/

section Select

variable {overflowChecks : Bool} {nodes : List NodeDescriptor}

/-- Nodes that have a bandwidth each, and not too much together. -/
structure Weighable (nodes : List NodeDescriptor) : Prop where
  distinct : nodes.Nodup
  pos : ∀ n ∈ nodes, n.bandwidth ≠ 0
  lt : (weights nodes).sum < 2 ^ 64

theorem Weighable.sublist {nodes' : List NodeDescriptor} (h : Weighable nodes)
    (hsub : nodes'.Sublist nodes) : Weighable nodes' where
  distinct := h.distinct.sublist hsub
  pos n hn := h.pos n (hsub.subset hn)
  lt := Nat.lt_of_le_of_lt ((hsub.map fun n => n.bandwidth.toNat).sum_le_sum fun _ _ => Nat.zero_le _)
    h.lt

theorem Weighable.sum_pos (h : Weighable nodes) (hnodes : nodes ≠ []) :
    0 < (weights nodes).sum := by
  cases nodes with
  | nil => exact absurd rfl hnodes
  | cons n nodes =>
    rw [sum_weights_cons]
    have hn : n.bandwidth.toNat ≠ 0 := fun h0 =>
      h.pos n List.mem_cons_self (UInt64.toNat_inj.mp h0)
    omega

/-- **A draw selects the node whose interval it lies in.** -/
theorem Weighable.selectWeightedIndex_hit (h : Weighable nodes) (hnodes : nodes ≠ [])
    (rng : Rng) :
    ∃ i, ∃ hi : i < nodes.length,
      selectWeightedIndex overflowChecks nodes rng = .ok ({ rng with used := rng.used + 1 }, i) ∧
        ∀ node ∈ nodes, Draw.Hit (nodes, node) (rng.draws rng.used) ↔ node = nodes[i] := by
  obtain ⟨i, hpick⟩ := pick_isSome (Nat.mod_lt (rng.draws rng.used) (h.sum_pos hnodes))
  have hi : i < nodes.length := by
    have hweights := (weight_pos_of_pick hpick).1
    rwa [weights, List.length_map] at hweights
  refine ⟨i, hi, selectWeightedIndex_eq (h.sum_pos hnodes) h.lt hpick, fun node hnode => ?_⟩
  show pick (weights nodes) (_ % (weights nodes).sum) = some (nodes.idxOf node) ↔ _
  rw [hpick, Option.some_inj]
  constructor
  · rintro rfl
    exact (List.getElem_idxOf hi).symm
  · rintro rfl
    exact (h.distinct.idxOf_getElem i hi).symm

theorem Weighable.selectWeightedNode_eq_ok_iff (h : Weighable nodes) {rng rng' : Rng}
    {node : NodeDescriptor} :
    selectWeightedNode overflowChecks nodes rng = .ok (rng', node) ↔
      node ∈ nodes ∧ Draw.Hit (nodes, node) (rng.draws rng.used) ∧
        rng' = { rng with used := rng.used + 1 } := by
  by_cases hnodes : nodes = []
  · subst hnodes
    exact iff_of_false (fun hselect => absurd (mem_of_selectWeightedNode hselect) List.not_mem_nil)
      fun hmem => absurd hmem.1 List.not_mem_nil
  · obtain ⟨i, hi, hselect, hhit⟩ := @h.selectWeightedIndex_hit overflowChecks nodes hnodes rng
    rw [selectWeightedNode_of_index hselect hi]
    constructor
    · intro hok
      cases hok
      exact ⟨List.getElem_mem hi, (hhit _ (List.getElem_mem hi)).mpr rfl, rfl⟩
    · rintro ⟨hmem, hdrawn, rfl⟩
      rw [(hhit node hmem).mp hdrawn]

end Select

/-! ## The middles -/

section Middles

variable {overflowChecks allowSameIp : Bool}

/-- Nodes that may complete what is picked. -/
structure Completes (allowSameIp : Bool) (picked available : List NodeDescriptor) (slots : Nat)
    (out : List NodeDescriptor) : Prop where
  length : out.length = slots
  available : out ⊆ available
  distinct : out.Nodup
  pairwise : out.Pairwise (Compatible allowSameIp)
  picked : ∀ c ∈ picked, ∀ m ∈ out, Compatible allowSameIp c m

/-- The first of the nodes passes the filter, and the others complete it too. -/
theorem completes_cons {slots : Nat} {available picked rest : List NodeDescriptor}
    {node : NodeDescriptor} {ips : Finset IpAddr} {ops : Finset String}
    (hcommitted : Committed allowSameIp picked ips ops)
    (hcovered : Covered allowSameIp picked ips ops) (hnodup : available.Nodup) :
    Completes allowSameIp picked available (slots + 1) (node :: rest) ↔
      node ∈ available.filter (admissible allowSameIp ips ops) ∧
        Completes allowSameIp (node :: picked)
          ((available.filter (admissible allowSameIp ips ops)).erase node) slots rest := by
  have hfiltered := hnodup.filter (admissible allowSameIp ips ops)
  constructor
  · intro h
    have hpassed : ∀ m ∈ node :: rest, m ∈ available.filter (admissible allowSameIp ips ops) :=
      fun m hm => List.mem_filter.mpr
        ⟨h.available hm, hcovered.admissible fun c hc => h.picked c hc m hm⟩
    obtain ⟨hnode, hdistinct⟩ := List.nodup_cons.mp h.distinct
    obtain ⟨hfirst, hpairwise⟩ := List.pairwise_cons.mp h.pairwise
    refine ⟨hpassed node List.mem_cons_self, Nat.succ.inj h.length, fun m hm => ?_, hdistinct,
      hpairwise, fun c hc m hm => ?_⟩
    · refine hfiltered.mem_erase_iff.mpr ⟨?_, hpassed m (List.mem_cons_of_mem _ hm)⟩
      rintro rfl
      exact hnode hm
    · rcases List.mem_cons.mp hc with rfl | hc
      · exact hfirst m hm
      · exact h.picked c hc m (List.mem_cons_of_mem _ hm)
  · rintro ⟨hnode, h⟩
    have hleft : ∀ m ∈ rest, m ≠ node ∧ m ∈ available.filter (admissible allowSameIp ips ops) :=
      fun m hm => hfiltered.mem_erase_iff.mp (h.available hm)
    constructor
    · rw [List.length_cons, h.length]
    · exact List.cons_subset.mpr
        ⟨(List.mem_filter.mp hnode).1, fun m hm => (List.mem_filter.mp (hleft m hm).2).1⟩
    · exact List.nodup_cons.mpr ⟨fun hm => (hleft node hm).1 rfl, h.distinct⟩
    · exact List.pairwise_cons.mpr ⟨h.picked node List.mem_cons_self, h.pairwise⟩
    · intro c hc m hm
      rcases List.mem_cons.mp hm with rfl | hm
      · exact admissible_compatible hcommitted (List.mem_filter.mp hnode).2 c hc
      · exact h.picked c (List.mem_cons_of_mem _ hc) m hm

/-- **The middle loop** returns the nodes that complete what is picked and whose intervals the
draws lie in. -/
theorem pickMiddles_eq_ok_iff {slots : Nat} {available picked out : List NodeDescriptor}
    {ips : Finset IpAddr} {ops : Finset String} {rng : Rng}
    (hcommitted : Committed allowSameIp picked ips ops)
    (hcovered : Covered allowSameIp picked ips ops) (hweigh : Weighable available) :
    pickMiddles overflowChecks allowSameIp slots available ips ops rng = .ok out ↔
      Completes allowSameIp picked available slots out ∧
        Hits (middleDraws allowSameIp available ips ops out) rng.draws rng.used := by
  induction slots generalizing available picked out ips ops rng with
  | zero =>
    rw [pickMiddles]
    constructor
    · intro h
      cases h
      exact ⟨⟨rfl, List.nil_subset _, List.nodup_nil, .nil, fun _ _ _ hm =>
        absurd hm List.not_mem_nil⟩, trivial⟩
    · rintro ⟨h, -⟩
      rw [List.length_eq_zero_iff.mp h.length]
      rfl
  | succ slots ih =>
    have hfiltered : Weighable (available.filter (admissible allowSameIp ips ops)) :=
      hweigh.sublist List.filter_sublist
    rw [pickMiddles]
    dsimp only
    by_cases henough : (available.filter (admissible allowSameIp ips ops)).length < slots + 1
    · -- what completes the path passes the filter, so it is long enough then
      rw [failIf_pos henough]
      refine iff_of_false (by rintro ⟨⟩) ?_
      rintro ⟨h, -⟩
      have hpassed : out ⊆ available.filter (admissible allowSameIp ips ops) := fun m hm =>
        List.mem_filter.mpr ⟨h.available hm, hcovered.admissible fun c hc => h.picked c hc m hm⟩
      have hle := (h.distinct.subperm hpassed).length_le
      rw [h.length] at hle
      exact absurd henough (Nat.not_lt.mpr hle)
    · have hnonempty : available.filter (admissible allowSameIp ips ops) ≠ [] := by
        intro hnil
        rw [hnil] at henough
        exact henough (Nat.succ_pos slots)
      obtain ⟨i, hi, hselect, hhit⟩ := @hfiltered.selectWeightedIndex_hit overflowChecks _ hnonempty rng
      rw [failIf_neg henough, ok_bind, hselect, ok_bind]
      dsimp only
      rw [List.getElem?_eq_getElem hi, okOr_some, ok_bind, ← hfiltered.distinct.erase_getElem i hi]
      cases out with
      | nil =>
        refine iff_of_false ?_ fun h => absurd h.1.length (Nat.succ_ne_zero slots).symm
        simp only [bind_eq_ok]
        rintro ⟨rest, -, ⟨⟩⟩
      | cons node rest =>
        rw [completes_cons hcommitted hcovered hweigh.distinct, middleDraws, Hits]
        simp only [bind_eq_ok]
        constructor
        · rintro ⟨rest', hrest, hreturn⟩
          cases hreturn
          obtain ⟨hcompletes, hhits⟩ := (ih (hcommitted.commit _) (hcovered.commit _)
            (hfiltered.sublist List.erase_sublist)).mp hrest
          exact ⟨⟨List.getElem_mem hi, hcompletes⟩, (hhit _ (List.getElem_mem hi)).mpr rfl, hhits⟩
        · rintro ⟨⟨hmem, hcompletes⟩, hdrawn, hhits⟩
          obtain rfl := (hhit node hmem).mp hdrawn
          exact ⟨rest, (ih (hcommitted.commit _) (hcovered.commit _)
            (hfiltered.sublist List.erase_sublist)).mpr ⟨hcompletes, hhits⟩, rfl⟩

end Middles

/-! ## The path -/

section Path

variable {r : NodeRegistry} {count : Nat}

/-- A choice is an entry and an exit that go together, and middles that complete them. -/
theorem choice_iff {entryNode exitNode : NodeDescriptor} {middles : List NodeDescriptor} :
    Choice r count entryNode middles exitNode ↔
      entryNode ∈ r.getNodesByType .entry ∧ exitNode ∈ r.getNodesByType .exit ∧
        Compatible r.allowSameIp exitNode entryNode ∧
          Completes r.allowSameIp [entryNode, exitNode] (r.getNodesByType .middle) (count - 2)
            middles := by
  constructor
  · intro h
    obtain ⟨hbefore, -, hexit⟩ := List.pairwise_append.mp h.compatible
    obtain ⟨hentry, hmiddles⟩ := List.pairwise_cons.mp hbefore
    refine ⟨h.mem_entry, h.mem_exit, (hexit entryNode List.mem_cons_self exitNode
      (List.mem_singleton_self _)).symm, h.length, h.mem_middle, h.distinct, hmiddles,
      fun c hc m hm => ?_⟩
    rcases List.mem_cons.mp hc with rfl | hc
    · exact hentry m hm
    · obtain rfl := List.mem_singleton.mp hc
      exact (hexit m (List.mem_cons_of_mem _ hm) c hc).symm
  · rintro ⟨hentry, hexit, hcompat, h⟩
    refine ⟨hentry, h.available, hexit, h.length, h.distinct, List.pairwise_append.mpr
      ⟨List.pairwise_cons.mpr ⟨h.picked entryNode List.mem_cons_self, h.pairwise⟩,
        List.pairwise_singleton _ _, fun a ha b hb => ?_⟩⟩
    obtain rfl := List.mem_singleton.mp hb
    rcases List.mem_cons.mp ha with rfl | ha
    · exact hcompat.symm
    · exact (h.picked b (List.mem_cons_of_mem _ (List.mem_singleton_self _)) a ha).symm

/-- The nodes of a choice are registered, each under its type. -/
theorem Choice.mem_byType {entryNode exitNode n : NodeDescriptor} {middles : List NodeDescriptor}
    (h : Choice r count entryNode middles exitNode) (hn : n ∈ entryNode :: middles ++ [exitNode]) :
    ∃ nodeType, n ∈ r.getNodesByType nodeType := by
  rcases List.mem_append.mp hn with hn | hn
  · rcases List.mem_cons.mp hn with rfl | hn
    · exact ⟨.entry, h.mem_entry⟩
    · exact ⟨.middle, h.mem_middle hn⟩
  · obtain rfl := List.mem_singleton.mp hn
    exact ⟨.exit, h.mem_exit⟩

/-- There are enough nodes where there is a choice. -/
theorem Choice.not_tooFew {entryNode exitNode : NodeDescriptor} {middles : List NodeDescriptor}
    (h : Choice r count entryNode middles exitNode) (hcount : 3 ≤ count) : ¬TooFew r count := by
  have hle := (h.distinct.subperm h.mem_middle).length_le
  rw [h.length] at hle
  refine NodeRegistry.not_tooFew.mpr ⟨by omega, List.ne_nil_of_mem h.mem_entry, ?_, by omega,
    List.ne_nil_of_mem h.mem_exit⟩
  intro hnil
  rw [hnil, List.length_nil] at hle
  omega

/-- **A request returns the choice whose intervals its draws lie in.** -/
theorem getRandomPath_eq_ok_iff (hweigh : ∀ nodeType, Weighable (r.getNodesByType nodeType))
    {overflowChecks : Bool} {rng : Rng} {path : List NodeDescriptor} :
    getRandomPath overflowChecks r count rng = .ok path ↔
      3 ≤ count ∧ ∃ entryNode middles exitNode, path = entryNode :: middles ++ [exitNode] ∧
        Choice r count entryNode middles exitNode ∧
          Hits (drawsOf r entryNode middles exitNode) rng.draws rng.used := by
  constructor
  · intro h
    simp only [getRandomPath, bind_eq_ok, failIf_eq_ok] at h
    obtain ⟨-, hcount, -, -, -, -, -, -, -, -, ⟨rng₁, exitNode⟩, hexit, ⟨rng₂, entryNode⟩, hentry,
      -, hip, -, hop, middles, hmiddles, hreturn⟩ := h
    cases hreturn
    obtain ⟨hexitMem, hexitHit, rfl⟩ := (hweigh .exit).selectWeightedNode_eq_ok_iff.mp hexit
    obtain ⟨hentryMem, hentryHit, rfl⟩ := (hweigh .entry).selectWeightedNode_eq_ok_iff.mp hentry
    have hcompat := compatible_of_entryChecks (Bool.eq_false_iff.mpr hip) (Bool.eq_false_iff.mpr hop)
    obtain ⟨hcompletes, hhits⟩ := (pickMiddles_eq_ok_iff
      ((committed_nil.commit exitNode).commit entryNode)
      ((covered_nil.commit exitNode).commit entryNode) (hweigh .middle)).mp hmiddles
    exact ⟨Nat.not_lt.mp hcount, entryNode, middles, exitNode, rfl,
      choice_iff.mpr ⟨hentryMem, hexitMem, hcompat, hcompletes⟩, hexitHit, hentryHit, hhits⟩
  · rintro ⟨hcount, entryNode, middles, exitNode, rfl, hchoice, hexitHit, hentryHit, hhits⟩
    obtain ⟨hfew, hentries, hmiddles, hlength, hexits⟩ :=
      NodeRegistry.not_tooFew.mp (hchoice.not_tooFew hcount)
    obtain ⟨hentryMem, hexitMem, hcompat, hcompletes⟩ := choice_iff.mp hchoice
    obtain ⟨hip, hop⟩ := entryChecks_of_compatible hcompat
    have hexit := (@Weighable.selectWeightedNode_eq_ok_iff overflowChecks _ (hweigh .exit) rng _
      exitNode).mpr ⟨hexitMem, hexitHit, rfl⟩
    have hentry := (@Weighable.selectWeightedNode_eq_ok_iff overflowChecks _ (hweigh .entry)
      { rng with used := rng.used + 1 } _ entryNode).mpr ⟨hentryMem, hentryHit, rfl⟩
    have hrest := (@pickMiddles_eq_ok_iff overflowChecks _ _ _ _ middles _ _
      { rng with used := rng.used + 1 + 1 } ((committed_nil.commit exitNode).commit entryNode)
      ((covered_nil.commit exitNode).commit entryNode) (hweigh .middle)).mpr ⟨hcompletes, hhits⟩
    unfold getRandomPath
    dsimp only
    rw [failIf_neg hfew, ok_bind, failIf_neg hentries, ok_bind, failIf_neg hmiddles, ok_bind,
      failIf_neg hlength, ok_bind, failIf_neg hexits, ok_bind, hexit, ok_bind, hentry, ok_bind]
    dsimp only
    rw [hip, hop, failIf_neg Bool.false_ne_true, ok_bind, failIf_neg Bool.false_ne_true, ok_bind,
      hrest]
    rfl

/-! ## How many draws -/

/-- A generator that gives these values first. -/
def rngOf {n : Nat} (w : Fin n → Nat) : Rng where
  draws i := if h : i < n then w ⟨i, h⟩ else 0
  used := 0

theorem map_snd_middleDraws {allowSameIp : Bool} {available out : List NodeDescriptor}
    {ips : Finset IpAddr} {ops : Finset String} :
    (middleDraws allowSameIp available ips ops out).map Prod.snd = out := by
  induction out generalizing available ips ops with
  | nil => rfl
  | cons node rest ih => rw [middleDraws, List.map_cons, ih]

/-- What the middle loop draws is in the list it draws from. -/
theorem mem_of_mem_middleDraws {allowSameIp : Bool} {slots : Nat}
    {available picked out : List NodeDescriptor} {ips : Finset IpAddr} {ops : Finset String}
    (hcommitted : Committed allowSameIp picked ips ops)
    (hcovered : Covered allowSameIp picked ips ops) (hnodup : available.Nodup)
    (h : Completes allowSameIp picked available slots out) :
    ∀ d ∈ middleDraws allowSameIp available ips ops out, d.2 ∈ d.1 := by
  induction out generalizing available picked slots ips ops with
  | nil => exact fun d hd => absurd hd List.not_mem_nil
  | cons node rest ih =>
    obtain ⟨slots, rfl⟩ : ∃ n, slots = n + 1 := ⟨rest.length, h.length.symm⟩
    obtain ⟨hmem, hrest⟩ := (completes_cons hcommitted hcovered hnodup).mp h
    exact List.forall_mem_cons.mpr ⟨hmem, ih (hcommitted.commit node) (hcovered.commit node)
      ((hnodup.filter _).erase node) hrest⟩

theorem Choice.mem_drawsOf {entryNode exitNode : NodeDescriptor} {middles : List NodeDescriptor}
    (h : Choice r count entryNode middles exitNode) (hnodup : (r.getNodesByType .middle).Nodup) :
    ∀ d ∈ drawsOf r entryNode middles exitNode, d.2 ∈ d.1 :=
  List.forall_mem_cons.mpr ⟨h.mem_exit, List.forall_mem_cons.mpr ⟨h.mem_entry,
    mem_of_mem_middleDraws ((committed_nil.commit exitNode).commit entryNode)
      ((covered_nil.commit exitNode).commit entryNode) hnodup (choice_iff.mp h).2.2.2⟩⟩

theorem map_snd_drawsOf (entryNode exitNode : NodeDescriptor) (middles : List NodeDescriptor) :
    (drawsOf r entryNode middles exitNode).map Prod.snd = exitNode :: entryNode :: middles := by
  rw [drawsOf, List.map_cons, List.map_cons, map_snd_middleDraws]

theorem Choice.length_drawsOf {entryNode exitNode : NodeDescriptor}
    {middles : List NodeDescriptor} (h : Choice r count entryNode middles exitNode)
    (hcount : 3 ≤ count) : (drawsOf r entryNode middles exitNode).length = count := by
  have hlength := congrArg List.length (map_snd_drawsOf (r := r) entryNode exitNode middles)
  rw [List.length_map, List.length_cons, List.length_cons, h.length] at hlength
  omega

/-- **A choice is drawn by as many draws as the product of its bandwidths.** -/
theorem Choice.card_draws (hweigh : ∀ nodeType, Weighable (r.getNodesByType nodeType))
    (hcount : 3 ≤ count) {entryNode exitNode : NodeDescriptor} {middles : List NodeDescriptor}
    (h : Choice r count entryNode middles exitNode) (overflowChecks : Bool) :
    ((Fintype.piFinset fun i : Fin (drawsOf r entryNode middles exitNode).length =>
        Finset.range ((drawsOf r entryNode middles exitNode).get i).total).filter fun w =>
          getRandomPath overflowChecks r count (rngOf w) =
            .ok (entryNode :: middles ++ [exitNode])).card =
      ((entryNode :: middles ++ [exitNode]).map fun n => n.bandwidth.toNat).prod := by
  generalize hds : drawsOf r entryNode middles exitNode = ds
  have hmem : ∀ d ∈ ds, d.2 ∈ d.1 := hds ▸ h.mem_drawsOf (hweigh .middle).distinct
  have hreturned : ∀ rng : Rng,
      getRandomPath overflowChecks r count rng = .ok (entryNode :: middles ++ [exitNode]) ↔
        Hits ds rng.draws rng.used := by
    intro rng
    rw [getRandomPath_eq_ok_iff hweigh, ← hds]
    constructor
    · rintro ⟨-, entryNode', middles', exitNode', hpath, -, hhits⟩
      obtain ⟨hfront, hexit⟩ := List.append_inj' hpath rfl
      cases hfront
      cases hexit
      exact hhits
    · exact fun hhits => ⟨hcount, entryNode, middles, exitNode, rfl, h, hhits⟩
  -- the values are below the totals already, so the code's reduction leaves them
  have hpicked : ∀ w ∈ Fintype.piFinset fun i : Fin ds.length => Finset.range (ds.get i).total,
      getRandomPath overflowChecks r count (rngOf w) = .ok (entryNode :: middles ++ [exitNode]) ↔
        ∀ i, pick (weights (ds.get i).1) (w i) = some ((ds.get i).1.idxOf (ds.get i).2) := by
    intro w hw
    rw [hreturned, hits_iff]
    refine forall_congr' fun i => ?_
    have hraw : (rngOf w).draws ((rngOf w).used + i) = w i := by
      show (if h : 0 + i.1 < ds.length then w ⟨0 + i.1, h⟩ else 0) = _
      rw [dif_pos (by omega)]
      congr 2
      exact Nat.zero_add _
    rw [Draw.Hit, hraw,
      Nat.mod_eq_of_lt (Finset.mem_range.mp (Fintype.mem_piFinset.mp hw i))]
  rw [Finset.filter_congr hpicked]
  calc _ = ∏ i : Fin ds.length, (weights (ds.get i).1).getD ((ds.get i).1.idxOf (ds.get i).2) 0 :=
        card_picks _ _
    _ = ∏ i : Fin ds.length, (ds.get i).2.bandwidth.toNat :=
        Finset.prod_congr rfl fun i _ => getD_weights_idxOf (hmem _ (List.get_mem ds i))
    _ = (ds.map fun d => d.2.bandwidth.toNat).prod :=
        Fin.prod_univ_fun_getElem ds fun d => d.2.bandwidth.toNat
    _ = ((exitNode :: entryNode :: middles).map fun n => n.bandwidth.toNat).prod := by
        rw [← map_snd_drawsOf (r := r), hds, List.map_map]
        rfl
    _ = _ := ((List.perm_append_singleton exitNode (entryNode :: middles)).symm.map _).prod_eq

end Path

section Served

variable {A : AddrSyntax} {sent : Proto.NodeDescriptor → Prop} {allowSameIp : Bool}
  {r : NodeRegistry}

/-- What the service admits has a bandwidth; how much there is in all is not checked. -/
theorem weighable_served (hr : ServedRegistry A sent allowSameIp r)
    (hlt : ∀ nodeType, (weights (r.getNodesByType nodeType)).sum < 2 ^ 64) (nodeType : NodeType) :
    Weighable (r.getNodesByType nodeType) where
  distinct := by
    rw [getNodesByType_eq]
    exact hr.reachable.wellKeyed.nodup_getAllNodes.filter _
  pos n hn := (hr.admitted n (mem_getNodesByType.mp hn).1).bandwidth
  lt := hlt nodeType

/-- **What is drawn, and how often.** In a registry the service can get to, as long as the
bandwidths of each role sum to less than 2^64, the paths some draws return are exactly the
choices of an entry, middles and an exit that keep the constraints; and of the draws below the
totals of the lists drawn from, as many return a choice as the product of its bandwidths. -/
theorem path_draws_exact (hr : ServedRegistry A sent allowSameIp r)
    (hlt : ∀ nodeType, (weights (r.getNodesByType nodeType)).sum < 2 ^ 64)
    (overflowChecks : Bool) {count : Nat} (hcount : 3 ≤ count) :
    (∀ path, (∃ rng, getRandomPath overflowChecks r count rng = .ok path) ↔
      ∃ entryNode middles exitNode, path = entryNode :: middles ++ [exitNode] ∧
        Choice r count entryNode middles exitNode) ∧
    ∀ entryNode middles exitNode, Choice r count entryNode middles exitNode →
      (drawsOf r entryNode middles exitNode).length = count ∧
      ((Fintype.piFinset fun i : Fin (drawsOf r entryNode middles exitNode).length =>
          Finset.range ((drawsOf r entryNode middles exitNode).get i).total).filter fun w =>
            getRandomPath overflowChecks r count (rngOf w) =
              .ok (entryNode :: middles ++ [exitNode])).card =
        ((entryNode :: middles ++ [exitNode]).map fun n => n.bandwidth.toNat).prod := by
  have hweigh := weighable_served hr hlt
  refine ⟨fun path => ⟨?_, ?_⟩, fun entryNode middles exitNode h =>
    ⟨h.length_drawsOf hcount, h.card_draws hweigh hcount overflowChecks⟩⟩
  · rintro ⟨rng, hpath⟩
    obtain ⟨-, entryNode, middles, exitNode, heq, hchoice, -⟩ :=
      (getRandomPath_eq_ok_iff hweigh).mp hpath
    exact ⟨entryNode, middles, exitNode, heq, hchoice⟩
  · rintro ⟨entryNode, middles, exitNode, rfl, h⟩
    -- no bandwidth is zero, so some draws return it
    have hpos : 0 < ((entryNode :: middles ++ [exitNode]).map fun n => n.bandwidth.toNat).prod := by
      refine List.prod_pos fun b hb => ?_
      obtain ⟨n, hn, rfl⟩ := List.mem_map.mp hb
      obtain ⟨nodeType, hmem⟩ := h.mem_byType hn
      exact Nat.pos_of_ne_zero fun h0 => (hweigh nodeType).pos n hmem (UInt64.toNat_inj.mp h0)
    rw [← h.card_draws hweigh hcount overflowChecks, Finset.card_pos] at hpos
    obtain ⟨w, hw⟩ := hpos
    exact ⟨rngOf w, (Finset.mem_filter.mp hw).2⟩

end Served

/-- One entry, two middles, one exit, each of bandwidth 100. -/
def drawRelays : List NodeDescriptor :=
  [sampleNode "entry" .entry 1, sampleNode "middle-1" .middle 2, sampleNode "middle-2" .middle 3,
    sampleNode "exit" .exit 4]

/-- Of the draws below 100, 100, 200 and 100, half take the middles in this order. -/
theorem drawRelays_exact :
    ((Fintype.piFinset fun i : Fin (drawsOf (registered drawRelays) (sampleNode "entry" .entry 1)
          [sampleNode "middle-2" .middle 3, sampleNode "middle-1" .middle 2]
          (sampleNode "exit" .exit 4)).length =>
        Finset.range ((drawsOf (registered drawRelays) (sampleNode "entry" .entry 1)
          [sampleNode "middle-2" .middle 3, sampleNode "middle-1" .middle 2]
          (sampleNode "exit" .exit 4)).get i).total).filter fun w =>
            getRandomPath true (registered drawRelays) 4 (rngOf w) = .ok samplePath).card =
      100000000 := by
  have hchoice : Choice (registered drawRelays) 4 (sampleNode "entry" .entry 1)
      [sampleNode "middle-2" .middle 3, sampleNode "middle-1" .middle 2]
      (sampleNode "exit" .exit 4) := by
    refine ⟨by decide +kernel, by decide +kernel, by decide +kernel, rfl, by decide +kernel, ?_⟩
    refine List.Pairwise.imp_of_mem (R := fun a b => a.operatorId = none ∧ a.address.ip ≠ b.address.ip)
      (fun _ _ h => ⟨fun op hop => ?_, fun _ _ => h.2⟩) (by decide +kernel)
    rw [h.1] at hop
    cases hop
  have hlt : ∀ nodeType,
      (weights ((registered drawRelays).getNodesByType nodeType)).sum < 2 ^ 64 := by
    intro nodeType
    cases nodeType <;> decide +kernel
  have hexact := (path_draws_exact (registered_served drawRelays) hlt true (by decide)).2 _ _ _
    hchoice
  exact hexact.2.trans (by decide +kernel)

end NodeRegistry

end MiniTor
