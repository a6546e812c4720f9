import Mathlib

/-!
# Additive stream ciphers

A stream cipher in counter mode XORs byte `i` of a text with byte `pos + i` of
a keystream. The theory only needs the keystream as a function
`ks : Nat → UInt8`:

- `xorAt ks pos data` is the text `data` under `ks` from position `pos` on; it
  is an involution (`xorAt_xorAt`) and layers under different keystreams
  commute (`xorAt_comm`), which is what makes onion encryption independent of
  the order the layers are added and peeled in.
- `Keyed` is the state of one direction of one layer (keystream and position);
  `Keyed.apply` is the in-place application that advances it.
- `applyLayers` runs a text through a list of layers, each advancing its own
  position. `applyLayers_cancel`: two lists of layers in the same state cancel,
  in whatever order the second one is run.
-/

namespace Theory

/-- `data` XORed with the keystream `ks` from position `pos` on. -/
def xorAt (ks : Nat → UInt8) : Nat → List UInt8 → List UInt8
  | _, [] => []
  | pos, b :: bs => (b ^^^ ks pos) :: xorAt ks (pos + 1) bs

@[simp] theorem xorAt_nil (ks : Nat → UInt8) (pos : Nat) : xorAt ks pos [] = [] := rfl

@[simp] theorem xorAt_cons (ks : Nat → UInt8) (pos : Nat) (b : UInt8) (bs : List UInt8) :
    xorAt ks pos (b :: bs) = (b ^^^ ks pos) :: xorAt ks (pos + 1) bs := rfl

@[simp] theorem length_xorAt (ks : Nat → UInt8) (pos : Nat) (data : List UInt8) :
    (xorAt ks pos data).length = data.length := by
  induction data generalizing pos with
  | nil => rfl
  | cons b bs ih => simp [ih]

/-- The same keystream bytes applied twice cancel. -/
@[simp] theorem xorAt_xorAt (ks : Nat → UInt8) (pos : Nat) (data : List UInt8) :
    xorAt ks pos (xorAt ks pos data) = data := by
  induction data generalizing pos with
  | nil => rfl
  | cons b bs ih =>
    rw [xorAt_cons, xorAt_cons, ih, UInt8.xor_assoc, UInt8.xor_self, UInt8.xor_zero]

/-- Layers under two keystreams commute. -/
theorem xorAt_comm (ks ks' : Nat → UInt8) (pos pos' : Nat) (data : List UInt8) :
    xorAt ks pos (xorAt ks' pos' data) = xorAt ks' pos' (xorAt ks pos data) := by
  induction data generalizing pos pos' with
  | nil => rfl
  | cons b bs ih =>
    have hb : b ^^^ ks' pos' ^^^ ks pos = b ^^^ ks pos ^^^ ks' pos' := by
      rw [UInt8.xor_assoc, UInt8.xor_comm (ks' pos'), ← UInt8.xor_assoc]
    simp [ih, hb]

/-! ## One direction of one layer -/

/-- A keystream and how much of it has been used. -/
structure Keyed where
  ks : Nat → UInt8
  pos : Nat

/-- Apply the layer in place and advance it. -/
def Keyed.apply (k : Keyed) (data : List UInt8) : Keyed × List UInt8 :=
  ({ k with pos := k.pos + data.length }, xorAt k.ks k.pos data)

/-- The layer after a text of length `n` went through it. -/
def Keyed.advance (k : Keyed) (n : Nat) : Keyed := { k with pos := k.pos + n }

@[simp] theorem Keyed.apply_fst (k : Keyed) (data : List UInt8) :
    (k.apply data).1 = k.advance data.length := rfl

@[simp] theorem Keyed.length_apply (k : Keyed) (data : List UInt8) :
    (k.apply data).2.length = data.length := length_xorAt ..

theorem Keyed.apply_apply (k : Keyed) (data : List UInt8) :
    (k.apply (k.apply data).2).2 = data := xorAt_xorAt ..

theorem Keyed.apply_comm (k l : Keyed) (data : List UInt8) :
    (k.apply (l.apply data).2).2 = (l.apply (k.apply data).2).2 := xorAt_comm ..

/-! ## Lists of layers -/

/-- Run `data` through the layers in order; each one advances. -/
def applyLayers : List Keyed → List UInt8 → List Keyed × List UInt8
  | [], data => ([], data)
  | k :: ks, data =>
    let (k', data') := k.apply data
    let (ks', out) := applyLayers ks data'
    (k' :: ks', out)

@[simp] theorem applyLayers_nil (data : List UInt8) : applyLayers [] data = ([], data) := rfl

theorem applyLayers_cons (k : Keyed) (ks : List Keyed) (data : List UInt8) :
    applyLayers (k :: ks) data =
      ((k.apply data).1 :: (applyLayers ks (k.apply data).2).1,
        (applyLayers ks (k.apply data).2).2) := rfl

@[simp] theorem length_applyLayers (ks : List Keyed) (data : List UInt8) :
    (applyLayers ks data).2.length = data.length := by
  induction ks generalizing data with
  | nil => rfl
  | cons k ks ih => rw [applyLayers_cons, ih, Keyed.length_apply]

theorem applyLayers_append (ks ls : List Keyed) (data : List UInt8) :
    applyLayers (ks ++ ls) data =
      ((applyLayers ks data).1 ++ (applyLayers ls (applyLayers ks data).2).1,
        (applyLayers ls (applyLayers ks data).2).2) := by
  induction ks generalizing data with
  | nil => rfl
  | cons k ks ih => simp [applyLayers_cons, ih]

/-- A layer commutes with a whole list of layers. -/
theorem applyLayers_apply (ks : List Keyed) (k : Keyed) (data : List UInt8) :
    (applyLayers ks (k.apply data).2).2 = (k.apply (applyLayers ks data).2).2 := by
  induction ks generalizing data with
  | nil => rfl
  | cons l ls ih => rw [applyLayers_cons, applyLayers_cons, Keyed.apply_comm, ih]

/-- The order of the layers does not matter for the text. -/
theorem applyLayers_perm {ks ls : List Keyed} (h : ks.Perm ls) (data : List UInt8) :
    (applyLayers ks data).2 = (applyLayers ls data).2 := by
  induction h generalizing data with
  | nil => rfl
  | cons k _ ih => rw [applyLayers_cons, applyLayers_cons, ih]
  | swap k l ks => simp only [applyLayers_cons, Keyed.apply_comm]
  | trans _ _ ih₁ ih₂ => rw [ih₁, ih₂]

/-- **Layers in the same state cancel.** -/
theorem applyLayers_cancel (ks : List Keyed) (data : List UInt8) :
    (applyLayers ks (applyLayers ks data).2).2 = data := by
  induction ks generalizing data with
  | nil => rfl
  | cons k ks ih =>
    rw [applyLayers_cons, applyLayers_cons]
    show (applyLayers ks (k.apply (applyLayers ks (k.apply data).2).2).2).2 = data
    rw [applyLayers_apply ks k data, Keyed.apply_apply, ih]

/-- Layers cancel in whatever order the second pass takes them. -/
theorem applyLayers_cancel_perm {ks ls : List Keyed} (h : ls.Perm ks) (data : List UInt8) :
    (applyLayers ls (applyLayers ks data).2).2 = data := by
  rw [applyLayers_perm h, applyLayers_cancel]

end Theory
