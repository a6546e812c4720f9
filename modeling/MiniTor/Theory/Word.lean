import Mathlib

/-!
# Machine words in both build profiles

Arithmetic on words of `w` bits. With overflow checks an operation that goes wrong stops
the program (`none`); without them a product wraps, and a shift takes its amount modulo
`w`. Bits that a shift pushes out are lost in either profile.

- `shiftLeft_checked_isSome`, `mul_checked_isSome`: when the checks pass.
- `shiftLeft_one`, `mul_of_lt`: what passes them is the result on numbers.
-/

namespace Theory

namespace Word

variable {w : Nat} (overflowChecks : Bool)

/-- `x << n`. -/
def shiftLeft (x : BitVec w) (n : Nat) : Option (BitVec w) :=
  if overflowChecks && decide (w ≤ n) then none else some (x <<< (n % w))

/-- `x * y`. -/
def mul (x y : BitVec w) : Option (BitVec w) :=
  if overflowChecks && x.umulOverflow y then none else some (x * y)

/-! ## The checks -/

theorem shiftLeft_checked_isSome {x : BitVec w} {n : Nat} :
    (shiftLeft true x n).isSome = true ↔ n < w := by
  rw [shiftLeft, Bool.true_and]
  split
  · rename_i hwide
    exact iff_of_false Bool.false_ne_true (Nat.not_lt.mpr (of_decide_eq_true hwide))
  · rename_i hwide
    exact iff_of_true rfl (Nat.not_le.mp fun hle => hwide (decide_eq_true hle))

theorem mul_checked_isSome {x y : BitVec w} :
    (mul true x y).isSome = true ↔ x.toNat * y.toNat < 2 ^ w := by
  rw [mul, Bool.true_and, BitVec.umulOverflow]
  split
  · rename_i hlarge
    exact iff_of_false Bool.false_ne_true (Nat.not_lt.mpr (of_decide_eq_true hlarge))
  · rename_i hlarge
    exact iff_of_true rfl (Nat.not_le.mp fun hle => hlarge (decide_eq_true hle))

/-- Without the checks every operation has a result. -/
theorem shiftLeft_unchecked (x : BitVec w) (n : Nat) :
    shiftLeft false x n = some (x <<< (n % w)) := rfl

theorem mul_unchecked (x y : BitVec w) : mul false x y = some (x * y) := rfl

/-! ## The results -/

/-- A one shifted within the word is a power of two. -/
theorem toNat_one_shiftLeft {n : Nat} (h : n < w) : ((1 : BitVec w) <<< n).toNat = 2 ^ n := by
  have hone : (1 : BitVec w).toNat = 1 := by
    show 1 % 2 ^ w = 1
    exact Nat.mod_eq_of_lt (Nat.one_lt_two_pow (by omega))
  rw [BitVec.toNat_shiftLeft, hone, Nat.shiftLeft_eq, Nat.one_mul,
    Nat.mod_eq_of_lt (Nat.pow_lt_pow_right Nat.one_lt_two h)]

theorem shiftLeft_one {n : Nat} (h : n < w) :
    shiftLeft overflowChecks (1 : BitVec w) n = some ((1 : BitVec w) <<< n) := by
  rw [shiftLeft, Nat.mod_eq_of_lt h, if_neg]
  rw [Bool.and_eq_true, decide_eq_true_iff]
  exact fun hcon => absurd h (Nat.not_lt.mpr hcon.2)

theorem mul_of_lt {x y : BitVec w} (h : x.toNat * y.toNat < 2 ^ w) :
    mul overflowChecks x y = some (x * y) ∧ (x * y).toNat = x.toNat * y.toNat := by
  refine ⟨if_neg ?_, ?_⟩
  · rw [Bool.and_eq_true, BitVec.umulOverflow, decide_eq_true_iff]
    exact fun hcon => absurd h (Nat.not_lt.mpr hcon.2)
  · rw [BitVec.toNat_mul, Nat.mod_eq_of_lt h]

end Word

end Theory
