import Mathlib

/-!
# Picking by weight

A number below the sum of a list of weights picks the index in whose interval it lies: the
weights laid end to end cut `[0, sum)` into one interval for each index.

- `pick`: go through the list, taking each weight off the number until one is larger.
- `pick_eq_some_iff`: the index picked is the one of the interval.
- `card_pick`: so each index is picked by as many numbers as its weight.
- `card_picks`: and each choice of indices, one a list, by as many tuples as the product.
-/

namespace Theory

/-- The index a number picks. -/
def pick : List Nat → Nat → Option Nat
  | [], _ => none
  | weight :: weights, w => if w < weight then some 0 else (pick weights (w - weight)).map (· + 1)

/-- Where the interval of an index begins. -/
def startOf (weights : List Nat) (i : Nat) : Nat := (weights.take i).sum

@[simp] theorem startOf_zero (weights : List Nat) : startOf weights 0 = 0 := rfl

@[simp] theorem startOf_succ (weight : Nat) (weights : List Nat) (i : Nat) :
    startOf (weight :: weights) (i + 1) = weight + startOf weights i := by
  rw [startOf, List.take_succ_cons, List.sum_cons, startOf]

/-- The interval of an index is as long as its weight. -/
theorem startOf_next (weights : List Nat) (i : Nat) :
    startOf weights (i + 1) = startOf weights i + weights.getD i 0 := by
  induction weights generalizing i with
  | nil => simp [startOf]
  | cons weight weights ih =>
    cases i with
    | zero => simp
    | succ i =>
      rw [startOf_succ, startOf_succ, ih, List.getD_cons_succ]
      omega

/-- No interval goes past the sum. -/
theorem startOf_le_sum (weights : List Nat) (i : Nat) : startOf weights i ≤ weights.sum := by
  calc startOf weights i ≤ startOf weights i + (weights.drop i).sum := Nat.le_add_right ..
    _ = weights.sum := by rw [startOf, ← List.sum_append, List.take_append_drop]

/-- **A number picks the index of its interval.** -/
theorem pick_eq_some_iff {weights : List Nat} {w i : Nat} :
    pick weights w = some i ↔ startOf weights i ≤ w ∧ w < startOf weights (i + 1) := by
  induction weights generalizing w i with
  | nil => simp [pick, startOf]
  | cons weight weights ih =>
    rw [pick]
    by_cases hw : w < weight
    · rw [if_pos hw]
      cases i with
      | zero => simp [hw]
      | succ i =>
        rw [startOf_succ]
        constructor
        · exact fun h => nomatch h
        · rintro ⟨hle, -⟩
          omega
    · rw [if_neg hw]
      cases i with
      | zero =>
        rw [startOf_succ, startOf_zero, startOf_zero]
        constructor
        · intro h
          obtain ⟨j, -, hj⟩ := Option.map_eq_some_iff.mp h
          exact absurd hj (Nat.succ_ne_zero j)
        · rintro ⟨-, hlt⟩
          omega
      | succ i =>
        have hmap : (pick weights (w - weight)).map (· + 1) = some (i + 1) ↔
            pick weights (w - weight) = some i := by
          cases pick weights (w - weight) with
          | none => simp
          | some j => simp
        rw [hmap, ih, startOf_succ, startOf_succ]
        constructor
        · rintro ⟨hle, hlt⟩
          omega
        · rintro ⟨hle, hlt⟩
          omega

/-- A number below the sum picks an index. -/
theorem pick_isSome {weights : List Nat} {w : Nat} (h : w < weights.sum) :
    ∃ i, pick weights w = some i := by
  induction weights generalizing w with
  | nil => cases h
  | cons weight weights ih =>
    rw [pick]
    by_cases hw : w < weight
    · exact ⟨0, if_pos hw⟩
    · rw [List.sum_cons] at h
      obtain ⟨i, hi⟩ := ih (w := w - weight) (by omega)
      refine ⟨i + 1, ?_⟩
      rw [if_neg hw, hi]
      rfl

/-- An index that is picked is one of the list, and has a weight. -/
theorem weight_pos_of_pick {weights : List Nat} {w i : Nat} (h : pick weights w = some i) :
    i < weights.length ∧ 0 < weights.getD i 0 := by
  obtain ⟨hle, hlt⟩ := pick_eq_some_iff.mp h
  rw [startOf_next] at hlt
  refine ⟨?_, by omega⟩
  by_contra hout
  have hzero : weights.getD i 0 = 0 := by
    rw [List.getD_eq_getElem?_getD, List.getElem?_eq_none (Nat.not_lt.mp hout)]
    rfl
  omega

/-- **An index is picked by as many numbers as its weight.** -/
theorem card_pick (weights : List Nat) (i : Nat) :
    ((Finset.range weights.sum).filter fun w => pick weights w = some i).card =
      weights.getD i 0 := by
  have hinterval : ((Finset.range weights.sum).filter fun w => pick weights w = some i) =
      Finset.Ico (startOf weights i) (startOf weights (i + 1)) := by
    ext w
    rw [Finset.mem_filter, Finset.mem_range, Finset.mem_Ico, pick_eq_some_iff]
    constructor
    · rintro ⟨-, h⟩
      exact h
    · intro h
      exact ⟨Nat.lt_of_lt_of_le h.2 (startOf_le_sum weights (i + 1)), h⟩
  rw [hinterval, Nat.card_Ico, startOf_next, Nat.add_sub_cancel_left]

/-- **A choice of indices is picked by as many tuples as the product of its weights.** -/
theorem card_picks {n : Nat} (lists : Fin n → List Nat) (chosen : Fin n → Nat) :
    ((Fintype.piFinset fun i => Finset.range (lists i).sum).filter fun w =>
      ∀ i, pick (lists i) (w i) = some (chosen i)).card = ∏ i, (lists i).getD (chosen i) 0 := by
  have hproduct : ((Fintype.piFinset fun i => Finset.range (lists i).sum).filter fun w =>
        ∀ i, pick (lists i) (w i) = some (chosen i)) =
      Fintype.piFinset fun i =>
        (Finset.range (lists i).sum).filter fun w => pick (lists i) w = some (chosen i) := by
    ext w
    simp only [Finset.mem_filter, Fintype.mem_piFinset]
    exact ⟨fun h i => ⟨h.1 i, h.2 i⟩, fun h => ⟨fun i => (h i).1, fun i => (h i).2⟩⟩
  rw [hproduct, Fintype.card_piFinset]
  exact Finset.prod_congr rfl fun i _ => card_pick (lists i) (chosen i)

end Theory
