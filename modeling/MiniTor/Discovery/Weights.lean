import MiniTor.Discovery.Path
import MiniTor.Theory.Weighted

/-!
# Bandwidth weights (`discovery/src/core/registry.rs`)

`select_weighted_index` works in `u64`; as long as the bandwidths sum to less than 2^64 it
is `pick` on natural numbers.

- `weightedScan_eq`: the scan is `pick`, and its subtraction never wraps
  (`weightedScanChecked_eq`).
- `totalBandwidth_checked`, `totalBandwidth_wrapping`: the sum in both build profiles.
- `selectWeightedIndex_eq`: so a draw selects the index in whose interval it lies.
- `weighting_exact`: each index is selected by as many draws as its bandwidth.
-/

namespace MiniTor

open Theory

namespace NodeRegistry

/-- The bandwidths of nodes, as numbers. -/
def weights (nodes : List NodeDescriptor) : List Nat := nodes.map fun n => n.bandwidth.toNat

/-- The scan with overflow checks: a subtraction that goes below zero panics. -/
def weightedScanChecked : List NodeDescriptor → Nat → UInt64 → Except PathFault (Option Nat)
  | [], _, _ => .ok none
  | node :: nodes, i, randomWeight =>
    if randomWeight < node.bandwidth then .ok (some i)
    else if randomWeight.toNat < node.bandwidth.toNat then .error .panic
    else weightedScanChecked nodes (i + 1) (randomWeight - node.bandwidth)

/-- **The scan is `pick`.** -/
theorem weightedScan_eq (nodes : List NodeDescriptor) (i : Nat) (w : UInt64) :
    weightedScan nodes i w = (pick (weights nodes) w.toNat).map (i + ·) := by
  induction nodes generalizing i w with
  | nil => rfl
  | cons node nodes ih =>
    rw [weightedScan, weights, List.map_cons, pick]
    by_cases hw : w < node.bandwidth
    · rw [if_pos hw, if_pos (UInt64.lt_iff_toNat_lt.mp hw)]
      rfl
    · have hle : node.bandwidth ≤ w := UInt64.not_lt.mp hw
      have hnat : ¬w.toNat < node.bandwidth.toNat := fun h => hw (UInt64.lt_iff_toNat_lt.mpr h)
      rw [if_neg hw, if_neg hnat, ih, UInt64.toNat_sub_of_le _ _ hle, Option.map_map]
      show (pick (weights nodes) _).map _ = (pick (weights nodes) _).map _
      congr 1
      funext j
      show i + 1 + j = i + (j + 1)
      omega

/-- **The subtraction never underflows.** -/
theorem weightedScanChecked_eq (nodes : List NodeDescriptor) (i : Nat) (w : UInt64) :
    weightedScanChecked nodes i w = .ok (weightedScan nodes i w) := by
  induction nodes generalizing i w with
  | nil => rfl
  | cons node nodes ih =>
    rw [weightedScanChecked, weightedScan]
    by_cases hw : w < node.bandwidth
    · rw [if_pos hw, if_pos hw]
    · have hnat : ¬w.toNat < node.bandwidth.toNat := fun h => hw (UInt64.lt_iff_toNat_lt.mpr h)
      rw [if_neg hw, if_neg hw, if_neg hnat, ih]

/-! ## The sum -/

/-- One addition of the sum. -/
def addBandwidth (overflowChecks : Bool) (acc : UInt64) (n : NodeDescriptor) :
    Except PathFault UInt64 :=
  if overflowChecks && decide (2 ^ 64 ≤ acc.toNat + n.bandwidth.toNat) then .error .panic
  else .ok (acc + n.bandwidth)

theorem totalBandwidth_eq_foldlM (overflowChecks : Bool) (nodes : List NodeDescriptor) :
    totalBandwidth overflowChecks nodes = nodes.foldlM (addBandwidth overflowChecks) 0 := rfl

theorem sum_weights_cons (node : NodeDescriptor) (nodes : List NodeDescriptor) :
    (weights (node :: nodes)).sum = node.bandwidth.toNat + (weights nodes).sum := by
  rw [weights, List.map_cons, List.sum_cons, weights]

theorem foldlM_checked (nodes : List NodeDescriptor) (acc : UInt64) :
    nodes.foldlM (addBandwidth true) acc =
      if acc.toNat + (weights nodes).sum < 2 ^ 64 then
        .ok (UInt64.ofNat (acc.toNat + (weights nodes).sum))
      else .error .panic := by
  induction nodes generalizing acc with
  | nil =>
    have hacc : acc.toNat + (weights []).sum < 2 ^ 64 := acc.toNat_lt
    rw [if_pos hacc]
    show Except.ok acc = .ok (UInt64.ofNat acc.toNat)
    rw [UInt64.ofNat_toNat]
  | cons node nodes ih =>
    rw [List.foldlM_cons, addBandwidth, Bool.true_and, sum_weights_cons, ← Nat.add_assoc]
    -- once the accumulator is over, so is the sum: the panic here is that of the whole
    by_cases hover : 2 ^ 64 ≤ acc.toNat + node.bandwidth.toNat
    · have hpanic : ¬acc.toNat + node.bandwidth.toNat + (weights nodes).sum < 2 ^ 64 := by omega
      rw [if_pos (decide_eq_true hover), if_neg hpanic]
      rfl
    · have hadd : (acc + node.bandwidth).toNat = acc.toNat + node.bandwidth.toNat := by
        rw [UInt64.toNat_add, Nat.mod_eq_of_lt (Nat.not_le.mp hover)]
      rw [if_neg fun h => hover (of_decide_eq_true h), ok_bind, ih, hadd]

/-- **With overflow checks** the sum is taken or the request panics. -/
theorem totalBandwidth_checked (nodes : List NodeDescriptor) :
    totalBandwidth true nodes =
      if (weights nodes).sum < 2 ^ 64 then .ok (UInt64.ofNat (weights nodes).sum)
      else .error .panic := by
  rw [totalBandwidth_eq_foldlM, foldlM_checked, UInt64.toNat_zero, Nat.zero_add]

theorem foldlM_wrapping (nodes : List NodeDescriptor) (acc : UInt64) :
    nodes.foldlM (addBandwidth false) acc = .ok (acc + UInt64.ofNat (weights nodes).sum) := by
  induction nodes generalizing acc with
  | nil =>
    show Except.ok acc = .ok (acc + 0)
    rw [UInt64.add_zero]
  | cons node nodes ih =>
    rw [List.foldlM_cons, sum_weights_cons, UInt64.ofNat_add, UInt64.ofNat_toNat,
      ← UInt64.add_assoc]
    exact ih _

/-- **Without them** it wraps. -/
theorem totalBandwidth_wrapping (nodes : List NodeDescriptor) :
    totalBandwidth false nodes = .ok (UInt64.ofNat (weights nodes).sum) := by
  rw [totalBandwidth_eq_foldlM, foldlM_wrapping, UInt64.zero_add]

/-- The sum of bandwidths that fit, in either profile. -/
theorem totalBandwidth_of_lt {nodes : List NodeDescriptor} (h : (weights nodes).sum < 2 ^ 64)
    (overflowChecks : Bool) :
    totalBandwidth overflowChecks nodes = .ok (UInt64.ofNat (weights nodes).sum) := by
  cases overflowChecks with
  | true => rw [totalBandwidth_checked, if_pos h]
  | false => exact totalBandwidth_wrapping nodes

/-! ## The draw -/

section Draw

variable {overflowChecks : Bool} {nodes : List NodeDescriptor}

/-- **A draw selects the index in whose interval it lies.** -/
theorem selectWeightedIndex_eq (hpos : 0 < (weights nodes).sum)
    (hlt : (weights nodes).sum < 2 ^ 64) {rng : Rng} {i : Nat}
    (hpick : pick (weights nodes) (rng.draws rng.used % (weights nodes).sum) = some i) :
    selectWeightedIndex overflowChecks nodes rng = .ok ({ rng with used := rng.used + 1 }, i) := by
  have hnonempty : nodes ≠ [] := by
    rintro rfl
    exact Nat.lt_irrefl 0 hpos
  -- the sum fits, so the total the code draws below is the sum itself
  have htotal : (UInt64.ofNat (weights nodes).sum).toNat = (weights nodes).sum := by
    rw [UInt64.toNat_ofNat', Nat.mod_eq_of_lt hlt]
  have hnonzero : ¬UInt64.ofNat (weights nodes).sum = 0 := by
    intro h
    have hnat := congrArg UInt64.toNat h
    rw [htotal, UInt64.toNat_zero] at hnat
    omega
  have hdraw : rng.draws rng.used % (weights nodes).sum < 2 ^ 64 :=
    (Nat.mod_lt _ hpos).trans hlt
  have hscan : weightedScan nodes 0 (UInt64.ofNat (rng.draws rng.used % (weights nodes).sum)) =
      some i := by
    rw [weightedScan_eq, UInt64.toNat_ofNat', Nat.mod_eq_of_lt hdraw, hpick, Option.map_some,
      Nat.zero_add]
  rw [selectWeightedIndex, failIf_neg hnonempty, totalBandwidth_of_lt hlt]
  dsimp only [ok_bind, Rng.randomRange]
  rw [if_neg hnonzero, htotal, hscan]
  rfl

/-- **Bandwidth weighting is exact.** If the bandwidths sum to `T` with `0 < T < 2^64`, a draw
selects the one index whose interval of prefix sums it lies in, which has a positive
bandwidth; over the draws below `T`, each index is selected exactly as often as its bandwidth
says. The subtraction of the scan never underflows, and the scan never runs to its end. -/
theorem weighting_exact (overflowChecks : Bool) (nodes : List NodeDescriptor)
    (hpos : 0 < (weights nodes).sum) (hlt : (weights nodes).sum < 2 ^ 64) :
    (∀ rng : Rng, ∃ i,
      selectWeightedIndex overflowChecks nodes rng = .ok ({ rng with used := rng.used + 1 }, i) ∧
        i < nodes.length ∧ 0 < (weights nodes).getD i 0 ∧
        startOf (weights nodes) i ≤ rng.draws rng.used % (weights nodes).sum ∧
        rng.draws rng.used % (weights nodes).sum < startOf (weights nodes) (i + 1)) ∧
      (∀ i, ((Finset.range (weights nodes).sum).filter fun w =>
        (selectWeightedIndex overflowChecks nodes ⟨fun _ => w, 0⟩).map Prod.snd = .ok i).card =
          (weights nodes).getD i 0) ∧
      (∀ w, weightedScanChecked nodes 0 w = .ok (weightedScan nodes 0 w)) ∧
      ∀ w < (weights nodes).sum, weightedScan nodes 0 (UInt64.ofNat w) ≠ none := by
  refine ⟨fun rng => ?_, fun i => ?_, weightedScanChecked_eq nodes 0, fun w hw => ?_⟩
  · obtain ⟨i, hpick⟩ := pick_isSome (Nat.mod_lt (rng.draws rng.used) hpos)
    obtain ⟨hi, hweight⟩ := weight_pos_of_pick hpick
    have hlength : i < nodes.length := by
      rwa [weights, List.length_map] at hi
    exact ⟨i, selectWeightedIndex_eq hpos hlt hpick, hlength, hweight, pick_eq_some_iff.mp hpick⟩
  -- counted through `pick`, which the scan computes
  · rw [← card_pick]
    congr 1
    refine Finset.filter_congr fun w hw => ?_
    have hw : w < (weights nodes).sum := Finset.mem_range.mp hw
    obtain ⟨j, hpick⟩ := pick_isSome hw
    have hselect := @selectWeightedIndex_eq overflowChecks nodes hpos hlt ⟨fun _ => w, 0⟩ j (by
      rw [Nat.mod_eq_of_lt hw]
      exact hpick)
    rw [hselect, hpick]
    show Except.ok j = .ok i ↔ some j = some i
    constructor
    · intro h
      cases h
      rfl
    · intro h
      cases h
      rfl
  · obtain ⟨i, hpick⟩ := pick_isSome hw
    rw [weightedScan_eq, UInt64.toNat_ofNat', Nat.mod_eq_of_lt (hw.trans hlt), hpick]
    exact fun h => nomatch h

/-- Three nodes of bandwidth 100: each is selected by 100 of the 300 draws. -/
theorem weighting_exact_three :
    ((Finset.range 300).filter fun w => (selectWeightedIndex true
      [sampleNode "a" .middle 1, sampleNode "b" .middle 2, sampleNode "c" .middle 3]
      ⟨fun _ => w, 0⟩).map Prod.snd = .ok 1).card = 100 :=
  (weighting_exact true
    [sampleNode "a" .middle 1, sampleNode "b" .middle 2, sampleNode "c" .middle 3]
    (by decide) (by decide)).2.1 1

end Draw

end NodeRegistry

end MiniTor
