import Mathlib

/-!
# The last elements of a sequence

`window n l` is the last `n` elements of `l`. A queue that drops its front before it takes
an element once it holds `n` of them is such a window (`foldl_pushBounded`); one of capacity
0 still holds the last element.
-/

namespace Theory

variable {α : Type*}

/-- The last `n` elements. -/
def window (n : Nat) (l : List α) : List α := l.drop (l.length - n)

/-- Put an element at the back, once the front has made room. -/
def pushBounded (n : Nat) (q : List α) (a : α) : List α :=
  (if n ≤ q.length then q.tail else q) ++ [a]

theorem length_window (n : Nat) (l : List α) : (window n l).length = min n l.length := by
  rw [window, List.length_drop]
  omega

/-- One more element. -/
theorem pushBounded_window {n : Nat} (l : List α) (a : α) :
    pushBounded n (window (max 1 n) l) a = window (max 1 n) (l ++ [a]) := by
  have hlen : (window (max 1 n) l).length = min (max 1 n) l.length := length_window _ _
  unfold pushBounded
  by_cases hfull : n ≤ (window (max 1 n) l).length
  · rw [if_pos hfull, window, window, List.tail_drop, List.length_append, List.length_singleton]
    rcases Nat.lt_or_ge l.length (max 1 n) with hshort | hlong
    · -- only an empty queue of capacity 0 is full with less than one element
      have hempty : l = [] := List.length_eq_zero_iff.mp (by omega)
      subst hempty
      have hzero : ([] : List α).length + 1 - max 1 n = 0 := by
        rw [List.length_nil]
        omega
      rw [hzero]
      rfl
    · rw [List.drop_append_of_le_length (by omega)]
      congr 2
      omega
  · have hshort : l.length + 1 ≤ max 1 n := by omega
    rw [if_neg hfull, window, window, List.length_append, List.length_singleton,
      Nat.sub_eq_zero_of_le hshort, Nat.sub_eq_zero_of_le (by omega : l.length ≤ max 1 n)]
    rfl

/-- **A bounded queue holds the last elements** it was given. -/
theorem foldl_pushBounded (n : Nat) (items : List α) :
    items.foldl (pushBounded n) [] = window (max 1 n) items := by
  induction items using List.reverseRecOn with
  | nil => exact List.drop_nil.symm
  | append_singleton items a ih => rw [List.foldl_concat, ih, pushBounded_window]

end Theory
