import Mathlib

/-!
# Retry budgets

A log of attempts, each for a key and either successful or not.

- `failuresInARow log k`: how many attempts for `k` have failed since its last
  success.
- `Exhausted m log k`: at some point exactly `m` attempts in a row had failed. The
  count moves by one at a time, so passing `m` means having been there
  (`exhausted_of_le`).
-/

namespace Theory

variable {κ : Type*} [DecidableEq κ]

/-- How the count for `k` goes on. -/
def countFailure (k : κ) (n : Nat) (attempt : κ × Bool) : Nat :=
  if attempt.1 = k then if attempt.2 then 0 else n + 1 else n

/-- The failed attempts for `k` since its last success. -/
def failuresInARow (log : List (κ × Bool)) (k : κ) : Nat := log.foldl (countFailure k) 0

/-- At some point exactly `m` attempts in a row had failed. -/
def Exhausted (m : Nat) (log : List (κ × Bool)) (k : κ) : Prop :=
  ∃ n, failuresInARow (log.take n) k = m

variable {log : List (κ × Bool)} {k : κ}

theorem failuresInARow_append (attempt : κ × Bool) :
    failuresInARow (log ++ [attempt]) k = countFailure k (failuresInARow log k) attempt := by
  unfold failuresInARow
  rw [List.foldl_append]
  rfl

@[simp] theorem failuresInARow_failed :
    failuresInARow (log ++ [(k, false)]) k = failuresInARow log k + 1 := by
  rw [failuresInARow_append]
  exact if_pos rfl

@[simp] theorem failuresInARow_succeeded : failuresInARow (log ++ [(k, true)]) k = 0 := by
  rw [failuresInARow_append]
  exact if_pos rfl

theorem failuresInARow_other {i : κ} (h : i ≠ k) (ok : Bool) :
    failuresInARow (log ++ [(i, ok)]) k = failuresInARow log k := by
  rw [failuresInARow_append]
  exact if_neg h

theorem Exhausted.append {m : Nat} (h : Exhausted m log k) (attempts : List (κ × Bool)) :
    Exhausted m (log ++ attempts) k := by
  obtain ⟨n, hn⟩ := h
  refine ⟨min n log.length, ?_⟩
  rw [List.take_append_of_le_length (Nat.min_le_right ..)]
  rcases Nat.le_total n log.length with hle | hle
  · rw [Nat.min_eq_left hle]
    exact hn
  · rw [Nat.min_eq_right hle, List.take_length]
    rwa [List.take_of_length_le hle] at hn

/-- One more attempt exhausts the budget only by completing the row. -/
theorem exhausted_concat {m : Nat} {attempt : κ × Bool} :
    Exhausted m (log ++ [attempt]) k ↔
      Exhausted m log k ∨ failuresInARow (log ++ [attempt]) k = m := by
  constructor
  · rintro ⟨n, hn⟩
    rcases Nat.lt_or_ge log.length n with hlt | hle
    · have hall : (log ++ [attempt]).length ≤ n := by
        rw [List.length_append, List.length_singleton]
        exact hlt
      rw [List.take_of_length_le hall] at hn
      exact .inr hn
    · rw [List.take_append_of_le_length hle] at hn
      exact .inl ⟨n, hn⟩
  · rintro (hold | hnow)
    · exact hold.append [attempt]
    · exact ⟨(log ++ [attempt]).length, by rw [List.take_length]; exact hnow⟩

/-- The count moves by one at a time. -/
theorem exhausted_of_le {m : Nat} (hm : 0 < m) (h : m ≤ failuresInARow log k) :
    Exhausted m log k := by
  induction log using List.reverseRecOn with
  | nil => exact absurd (Nat.lt_of_lt_of_le hm h) (Nat.lt_irrefl 0)
  | append_singleton log attempt ih =>
    rw [exhausted_concat]
    rw [failuresInARow_append] at h ⊢
    unfold countFailure at h ⊢
    split at h
    · split at h
      · omega
      · rename_i hkey hfailed
        rw [if_pos hkey, if_neg hfailed]
        rcases Nat.lt_or_ge (failuresInARow log k) m with hlt | hle
        · exact .inr (by omega)
        · exact .inl (ih hle)
    · exact .inl (ih h)

end Theory
