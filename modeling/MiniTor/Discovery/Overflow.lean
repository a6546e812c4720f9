import Mathlib
import MiniTor.Discovery.Greedy
import MiniTor.Discovery.Grpc

/-!
# Bandwidths that are too large (`discovery/src/core/registry.rs`, `discovery/src/api/grpc.rs`)

`register_node` takes every bandwidth but 0, and `select_weighted_index` adds the bandwidths of
its candidates in `u64`.

- `RolesFit`: the sums that may be formed over the exits, over the entries, and over the middles
  that go with an exit and an entry are below 2^64.
- `middles_weigh`: the candidates of the middle loop only shrink.
- `weighing_sound_iff`: so a registry of the service never forms a larger sum, and never
  panics over one, exactly when its roles fit.
- `two_large_exits`: two exits of bandwidth 2^63.
-/

namespace MiniTor

open Theory

namespace NodeRegistry

/-- The bandwidths add up in `u64`. -/
def Fits (nodes : List NodeDescriptor) : Prop := (weights nodes).sum < 2 ^ 64

instance (nodes : List NodeDescriptor) : Decidable (Fits nodes) :=
  inferInstanceAs (Decidable (_ < _))

/-- The lists a request passes to `select_weighted_index`. -/
def weighed (overflowChecks : Bool) (r : NodeRegistry) (count : Nat) (rng : Rng) :
    List (List NodeDescriptor) :=
  (selections overflowChecks r count rng).map Prod.fst

/-- No request of the registry forms a sum that overflows, or panics. -/
def WeighingSound (r : NodeRegistry) : Prop :=
  ∀ overflowChecks count rng,
    (∀ nodes ∈ weighed overflowChecks r count rng, Fits nodes) ∧
      getRandomPath overflowChecks r count rng ≠ .error .panic

/-- The middles that pass the filter once an exit and an entry are drawn. -/
def middlesBeside (r : NodeRegistry) (exitNode entryNode : NodeDescriptor) :
    List NodeDescriptor :=
  (r.getNodesByType .middle).filter (admissible r.allowSameIp
    (excludeIp r.allowSameIp entryNode (excludeIp r.allowSameIp exitNode ∅))
    (excludeOp entryNode (excludeOp exitNode ∅)))

/-- If there is a node of each type: the exits fit, the entries fit, and so do the middles
beside every exit and entry that may be on one circuit. -/
def RolesFit (r : NodeRegistry) : Prop :=
  r.getNodesByType .entry ≠ [] → r.getNodesByType .middle ≠ [] → r.getNodesByType .exit ≠ [] →
    Fits (r.getNodesByType .exit) ∧ Fits (r.getNodesByType .entry) ∧
      ∀ exitNode ∈ r.getNodesByType .exit, ∀ entryNode ∈ r.getNodesByType .entry,
        Compatible r.allowSameIp exitNode entryNode → Fits (r.middlesBeside exitNode entryNode)

/-! ## Sums -/

theorem fits_nil : Fits [] := by decide

/-- What is left of a list that fits, fits. -/
theorem Fits.sublist {nodes nodes' : List NodeDescriptor} (h : Fits nodes)
    (hsub : nodes'.Sublist nodes) : Fits nodes' := by
  have hweights : (weights nodes').Sublist (weights nodes) := hsub.map _
  exact Nat.lt_of_le_of_lt (hweights.sum_le_sum fun _ _ => Nat.zero_le _) h

section Select

variable (overflowChecks : Bool)

/-- From a list that fits an index is selected. -/
theorem Fits.selects {nodes : List NodeDescriptor} (h : Fits nodes) (hnodes : nodes ≠ [])
    (rng : Rng) :
    ∃ rng' i, selectWeightedIndex overflowChecks nodes rng = .ok (rng', i) ∧ i < nodes.length :=
  selectWeightedIndex_ok hnodes (totalBandwidth_of_lt h overflowChecks) rng

/-- **Every node with a bandwidth can be drawn** from a list that fits. -/
theorem Fits.draws {nodes : List NodeDescriptor} (h : Fits nodes) {n : NodeDescriptor}
    (hmem : n ∈ nodes) (hbandwidth : n.bandwidth ≠ 0) :
    ∃ w, ∀ rng : Rng, rng.draws rng.used = w →
      selectWeightedNode overflowChecks nodes rng = .ok ({ rng with used := rng.used + 1 }, n) := by
  obtain ⟨i, hi, rfl⟩ := List.getElem_of_mem hmem
  have hweight : (weights nodes).getD i 0 = nodes[i].bandwidth.toNat := by
    simp [weights, List.getD_eq_getElem?_getD, hi]
  have hpos : 0 < nodes[i].bandwidth.toNat := by
    refine Nat.pos_of_ne_zero fun hzero => hbandwidth (UInt64.toNat_inj.mp ?_)
    rw [hzero]
    rfl
  -- the first number of the node's interval
  have hnext := startOf_next (weights nodes) i
  have hle := startOf_le_sum (weights nodes) (i + 1)
  have hlt : startOf (weights nodes) i < (weights nodes).sum := by omega
  refine ⟨startOf (weights nodes) i, fun rng hdraw => ?_⟩
  have hpick : pick (weights nodes) (rng.draws rng.used % (weights nodes).sum) = some i := by
    rw [hdraw, Nat.mod_eq_of_lt hlt]
    exact pick_eq_some_iff.mpr ⟨Nat.le_refl _, by omega⟩
  exact selectWeightedNode_of_index (selectWeightedIndex_eq (by omega) h hpick) hi

end Select

/-! ## The middle loop -/

section Middles

variable {overflowChecks allowSameIp : Bool}

/-- **The candidates only shrink**: if the first of them fit, all do, and the loop does not
panic. -/
theorem middles_weigh {slots : Nat} {available : List NodeDescriptor} {ips : Finset IpAddr}
    {ops : Finset String} {rng : Rng}
    (hfits : Fits (available.filter (admissible allowSameIp ips ops))) :
    (∀ nodes ∈ (middleSelections overflowChecks allowSameIp slots available ips ops rng).map
        Prod.fst, Fits nodes) ∧
      pickMiddles overflowChecks allowSameIp slots available ips ops rng ≠ .error .panic := by
  induction slots generalizing available ips ops rng with
  | zero => exact ⟨fun _ hmem => absurd hmem List.not_mem_nil, fun h => by cases h⟩
  | succ slots ih =>
    rw [middleSelections, pickMiddles]
    generalize available.filter (admissible allowSameIp ips ops) = filtered at hfits ⊢
    dsimp only
    by_cases hshort : filtered.length < slots + 1
    · rw [if_pos hshort, failIf_pos hshort]
      exact ⟨fun _ hmem => absurd hmem List.not_mem_nil, fun h => by cases h⟩
    · have hnonempty : filtered ≠ [] := by
        rintro rfl
        exact hshort (Nat.succ_pos _)
      obtain ⟨rng', idx, hselect, hidx⟩ :=
        hfits.selects overflowChecks hnonempty rng
      rw [if_neg hshort, failIf_neg hshort, ok_bind, hselect, ok_bind]
      dsimp only
      rw [List.getElem?_eq_getElem hidx, okOr_some, ok_bind]
      dsimp only
      -- the next candidates are some of these, so their sum is no larger
      have hleft : Fits ((filtered.eraseIdx idx).filter (admissible allowSameIp
          (excludeIp allowSameIp filtered[idx] ips) (excludeOp filtered[idx] ops))) :=
        hfits.sublist (List.filter_sublist.trans (List.eraseIdx_sublist ..))
      obtain ⟨hrest, hpanic⟩ := @ih _ _ _ rng' hleft
      refine ⟨fun nodes hmem => ?_, fun herror => ?_⟩
      · rcases List.mem_cons.mp hmem with rfl | hmem
        · exact hfits
        · exact hrest nodes hmem
      · rcases bind_eq_error.mp herror with herror | ⟨_, _, hreturn⟩
        · exact hpanic herror
        · cases hreturn

end Middles

/-! ## The selection -/

section Selection

variable {overflowChecks : Bool} {r : NodeRegistry} {count : Nat} {rng rng₁ rng₂ : Rng}
  {exitNode entryNode : NodeDescriptor}

variable (overflowChecks rng) in
/-- With too few nodes nothing is selected, and nothing panics. -/
theorem tooFew_weigh (h : TooFew r count) :
    weighed overflowChecks r count rng = [] ∧
      getRandomPath overflowChecks r count rng ≠ .error .panic := by
  constructor
  · rw [weighed, selections, if_pos h]
    rfl
  · intro hpanic
    unfold getRandomPath at hpanic
    dsimp only at hpanic
    by_cases hcount : count < 3
    · rw [failIf_pos hcount] at hpanic
      exact nomatch hpanic
    by_cases hentries : r.getNodesByType .entry = []
    · rw [failIf_neg hcount, ok_bind, failIf_pos hentries] at hpanic
      exact nomatch hpanic
    by_cases hmiddles : r.getNodesByType .middle = []
    · rw [failIf_neg hcount, ok_bind, failIf_neg hentries, ok_bind, failIf_pos hmiddles] at hpanic
      exact nomatch hpanic
    by_cases hlength : (r.getNodesByType .middle).length < count - 2
    · rw [failIf_neg hcount, ok_bind, failIf_neg hentries, ok_bind, failIf_neg hmiddles, ok_bind,
        failIf_pos hlength] at hpanic
      exact nomatch hpanic
    by_cases hexits : r.getNodesByType .exit = []
    · rw [failIf_neg hcount, ok_bind, failIf_neg hentries, ok_bind, failIf_neg hmiddles, ok_bind,
        failIf_neg hlength, ok_bind, failIf_pos hexits] at hpanic
      exact nomatch hpanic
    -- all five checks pass only if there are enough nodes
    · exact not_tooFew.mpr ⟨hcount, hentries, hmiddles, hlength, hexits⟩ h

/-- **Roles that fit weigh soundly.** -/
theorem RolesFit.sound (h : RolesFit r) : WeighingSound r := by
  intro overflowChecks count rng
  by_cases hfew : TooFew r count
  · obtain ⟨hnone, hpanic⟩ := tooFew_weigh overflowChecks rng hfew
    refine ⟨fun nodes hmem => ?_, hpanic⟩
    rw [hnone] at hmem
    exact absurd hmem List.not_mem_nil
  · obtain ⟨hcount, hentries, hmiddles, hlength, hexits⟩ := not_tooFew.mp hfew
    obtain ⟨hexitsFit, hentriesFit, hbeside⟩ := h hentries hmiddles hexits
    obtain ⟨rng₁, i, hi, hilt⟩ := hexitsFit.selects overflowChecks hexits rng
    have hexit := selectWeightedNode_of_index hi hilt
    obtain ⟨rng₂, j, hj, hjlt⟩ :=
      hentriesFit.selects overflowChecks hentries rng₁
    have hentry := selectWeightedNode_of_index hj hjlt
    unfold weighed selections getRandomPath
    dsimp only
    rw [if_neg hfew, failIf_neg hcount, ok_bind, failIf_neg hentries, ok_bind, failIf_neg hmiddles,
      ok_bind, failIf_neg hlength, ok_bind, failIf_neg hexits, ok_bind, hexit, ok_bind]
    dsimp only
    rw [hentry, ok_bind]
    dsimp only
    have hexitMem := List.getElem_mem hilt
    have hentryMem := List.getElem_mem hjlt
    generalize (r.getNodesByType .exit)[i] = exitNode at hexitMem ⊢
    generalize (r.getNodesByType .entry)[j] = entryNode at hentryMem ⊢
    rw [List.map_cons, List.map_cons, List.forall_mem_cons, List.forall_mem_cons]
    rw [and_assoc, and_assoc]
    refine ⟨hexitsFit, hentriesFit, ?_⟩
    cases hip : (!r.allowSameIp && !entryNode.address.ip.isLoopback &&
        decide (entryNode.address.ip ∈ excludeIp r.allowSameIp exitNode ∅)) with
    | true =>
      rw [failIf_pos rfl, Bool.true_or, if_pos rfl]
      exact ⟨fun _ hmem => absurd hmem List.not_mem_nil, fun h => nomatch h⟩
    | false =>
      rw [failIf_neg Bool.false_ne_true, ok_bind, Bool.false_or]
      cases hop : (entryNode.operatorId.any fun op => decide (op ∈ excludeOp exitNode ∅)) with
      | true =>
        rw [failIf_pos rfl, if_pos rfl]
        exact ⟨fun _ hmem => absurd hmem List.not_mem_nil, fun h => nomatch h⟩
      | false =>
        rw [failIf_neg Bool.false_ne_true, ok_bind, if_neg Bool.false_ne_true]
        have hfit := hbeside exitNode hexitMem entryNode hentryMem
          (compatible_of_entryChecks hip hop)
        obtain ⟨hmiddlesFit, hpanic⟩ :=
          @middles_weigh overflowChecks r.allowSameIp (count - 2) _ _ _ rng₂ hfit
        refine ⟨hmiddlesFit, fun herror => ?_⟩
        rcases bind_eq_error.mp herror with herror | ⟨_, _, hreturn⟩
        · exact hpanic herror
        · cases hreturn

/-- Where there is a node of each type, a request for three hops selects from the exits. -/
theorem exits_weighed (h : ¬TooFew r 3) (rng : Rng) :
    r.getNodesByType .exit ∈ weighed overflowChecks r 3 rng := by
  rw [weighed, selections, if_neg h]
  dsimp only
  split
  · exact List.mem_singleton_self _
  · exact List.mem_cons_self

/-- With an exit drawn it selects from the entries. -/
theorem entries_weighed (h : ¬TooFew r 3)
    (hexit : selectWeightedNode overflowChecks (r.getNodesByType .exit) rng =
      .ok (rng₁, exitNode)) :
    r.getNodesByType .entry ∈ weighed overflowChecks r 3 rng := by
  rw [weighed, selections, if_neg h]
  dsimp only
  rw [hexit]
  dsimp only
  refine List.mem_cons_of_mem _ ?_
  split
  · exact List.mem_singleton_self _
  · exact List.mem_cons_self

/-- With an entry drawn that goes with it, from the middles beside the two, if there are any. -/
theorem middlesBeside_weighed (h : ¬TooFew r 3)
    (hexit : selectWeightedNode overflowChecks (r.getNodesByType .exit) rng =
      .ok (rng₁, exitNode))
    (hentry : selectWeightedNode overflowChecks (r.getNodesByType .entry) rng₁ =
      .ok (rng₂, entryNode))
    (hcompatible : Compatible r.allowSameIp exitNode entryNode)
    (hmiddles : r.middlesBeside exitNode entryNode ≠ []) :
    r.middlesBeside exitNode entryNode ∈ weighed overflowChecks r 3 rng := by
  obtain ⟨hip, hop⟩ := entryChecks_of_compatible hcompatible
  have hlength : ¬(r.middlesBeside exitNode entryNode).length < 1 :=
    Nat.not_lt.mpr (List.length_pos_iff.mpr hmiddles)
  rw [weighed, selections, if_neg h]
  dsimp only
  rw [hexit]
  dsimp only
  rw [hentry]
  dsimp only
  rw [hip, hop, Bool.or_false, if_neg Bool.false_ne_true]
  refine List.mem_cons_of_mem _ (List.mem_cons_of_mem _ ?_)
  show _ ∈ (middleSelections overflowChecks r.allowSameIp 1 _ _ _ _).map Prod.fst
  rw [middleSelections]
  unfold middlesBeside at hlength ⊢
  rw [if_neg hlength]
  split
  · exact List.mem_singleton_self _
  · split
    · exact List.mem_singleton_self _
    · exact List.mem_cons_self

/-- **A registry that weighs soundly has roles that fit**, as every exit and entry can be
drawn. -/
theorem WeighingSound.rolesFit (h : WeighingSound r)
    (hbandwidth : ∀ n ∈ r.getAllNodes, n.bandwidth ≠ 0) : RolesFit r := by
  intro hentries hmiddles hexits
  have hstart : ¬TooFew r 3 := by
    refine not_tooFew.mpr ⟨by decide, hentries, hmiddles, ?_, hexits⟩
    exact Nat.not_lt.mpr (List.length_pos_iff.mpr hmiddles)
  have hexitsFit : Fits (r.getNodesByType .exit) :=
    (h false 3 ⟨fun _ => 0, 0⟩).1 _ (exits_weighed hstart _)
  have hdrawExit : ∀ x ∈ r.getNodesByType .exit, ∃ w, ∀ rng : Rng, rng.draws rng.used = w →
      selectWeightedNode false (r.getNodesByType .exit) rng =
        .ok ({ rng with used := rng.used + 1 }, x) := fun x hx =>
    hexitsFit.draws false hx (hbandwidth x (mem_getNodesByType.mp hx).1)
  have hentriesFit : Fits (r.getNodesByType .entry) := by
    obtain ⟨x, hx⟩ := List.exists_mem_of_ne_nil _ hexits
    obtain ⟨w, hw⟩ := hdrawExit x hx
    exact (h false 3 ⟨fun _ => w, 0⟩).1 _ (entries_weighed hstart (hw _ rfl))
  refine ⟨hexitsFit, hentriesFit, fun x hx e he hcompatible => ?_⟩
  by_cases hnone : r.middlesBeside x e = []
  · rw [hnone]
    exact fits_nil
  · obtain ⟨w, hw⟩ := hdrawExit x hx
    obtain ⟨w', hw'⟩ := hentriesFit.draws false he
      (hbandwidth e (mem_getNodesByType.mp he).1)
    -- the draws that select this exit and this entry
    let rng : Rng := ⟨fun k => if k = 0 then w else w', 0⟩
    exact (h false 3 rng).1 _
      (middlesBeside_weighed hstart (hw rng rfl) (hw' { rng with used := 1 } rfl) hcompatible hnone)

end Selection

/-- **What a registry of the service weighs fits in `u64`, and it never panics, exactly when
its roles fit.** -/
theorem weighing_sound_iff {A : AddrSyntax} {sent : Proto.NodeDescriptor → Prop}
    {allowSameIp : Bool} {r : NodeRegistry} (hr : ServedRegistry A sent allowSameIp r) :
    WeighingSound r ↔ RolesFit r :=
  ⟨fun h => h.rolesFit fun n hn => (hr.admitted n hn).bandwidth, RolesFit.sound⟩

/-! ### Two large exits -/

/-- Relays that register at the service, one after another. -/
def registered (relays : List NodeDescriptor) : NodeRegistry :=
  relays.foldl (fun r d => DiscoveryService.step .ipv4 r (.registerNode 0 (d.toProto .ipv4)))
    (new false)

theorem registered_served (relays : List NodeDescriptor) :
    ServedRegistry .ipv4 (fun _ => True) false (registered relays) := by
  have hfold : ∀ r, ServedRegistry .ipv4 (fun _ => True) false r →
      ServedRegistry .ipv4 (fun _ => True) false (relays.foldl (fun r d =>
        DiscoveryService.step .ipv4 r (.registerNode 0 (d.toProto .ipv4))) r) := by
    induction relays with
    | nil => exact fun r hr => hr
    | cons d relays ih => exact fun r hr => ih _ (hr.step _ fun _ _ _ => trivial)
  exact hfold _ .new

/-- Three relays of bandwidth 100. -/
theorem sample_weighing_sound :
    WeighingSound (registered [sampleNode "entry" .entry 1, sampleNode "middle" .middle 2,
      sampleNode "exit" .exit 3]) := by
  refine (weighing_sound_iff (registered_served _)).mpr fun _ _ _ => ⟨?_, ?_, ?_⟩
  · decide +kernel
  · decide +kernel
  · intro exitNode _ entryNode _ _
    have hmiddles : Fits ((registered [sampleNode "entry" .entry 1, sampleNode "middle" .middle 2,
        sampleNode "exit" .exit 3]).getNodesByType .middle) := by decide +kernel
    exact hmiddles.sublist List.filter_sublist

/-- Two exits of bandwidth 2^63 are admitted, and the first path request panics. -/
theorem two_large_exits :
    ¬∀ r, ServedRegistry .ipv4 (fun _ => True) false r → WeighingSound r := by
  intro hclaim
  have hsound := hclaim _ (registered_served [sampleNode "entry" .entry 1,
    sampleNode "middle" .middle 2, { sampleNode "exit-1" .exit 3 with bandwidth := 2 ^ 63 },
    { sampleNode "exit-2" .exit 4 with bandwidth := 2 ^ 63 }])
  refine (hsound true 3 ⟨fun _ => 0, 0⟩).2 ?_
  decide +kernel

end NodeRegistry

end MiniTor
