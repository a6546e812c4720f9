import MiniTor.Common.Crypto

/-!
# Onion layers (`tor-client/src/core/crypto_engine.rs`)

The client holds one cipher pair per hop, entry first. `wrapForward` and
`unwrapBackward` are the two loops over them: forward cells get the exit's layer
first and the entry's last, backward cells lose the entry's layer first.

Both are `applyLayers` on the keystream layers of the ciphers
(`wrapForward_snd`, `unwrapBackward_snd`).
-/

namespace MiniTor.Client

open Theory

variable (P : Primitives)

/-- One pass of `apply_forward` over the ciphers, first one first. -/
def applyForwardAll : List CipherPair → Bytes → List CipherPair × Bytes
  | [], data => ([], data)
  | cipher :: ciphers, data =>
    let (cipher, data) := cipher.applyForward P data
    let (ciphers, data) := applyForwardAll ciphers data
    (cipher :: ciphers, data)

/-- The loop over `ciphers.iter_mut().rev()`. -/
def wrapForward (ciphers : List CipherPair) (data : Bytes) : List CipherPair × Bytes :=
  let (ciphers, data) := applyForwardAll P ciphers.reverse data
  (ciphers.reverse, data)

/-- The loop over `ciphers.iter_mut()`. -/
def unwrapBackward : List CipherPair → Bytes → List CipherPair × Bytes
  | [], data => ([], data)
  | cipher :: ciphers, data =>
    let (cipher, data) := cipher.applyBackward P data
    let (ciphers, data) := unwrapBackward ciphers data
    (cipher :: ciphers, data)

/-- Keys for an N-hop onion circuit, indexed from the entry to the exit. -/
structure OnionKeys where
  sessionKeys : List SessionKey
  ciphers : List CipherPair
  forwardDigest : RunningDigest
  backwardDigest : RunningDigest
  deriving DecidableEq

namespace OnionKeys

def new (sessionKeys : List SessionKey) (ciphers : List CipherPair) : OnionKeys :=
  { sessionKeys, ciphers, forwardDigest := RunningDigest.new, backwardDigest := RunningDigest.new }

/-- Apply N-layer onion encryption (client to exit). -/
def onionEncrypt (k : OnionKeys) (data : Bytes) : OnionKeys × Bytes :=
  let (ciphers, data) := wrapForward P k.ciphers data
  ({ k with ciphers }, data)

/-- Peel N-layer onion encryption (exit to client). -/
def onionDecrypt (k : OnionKeys) (data : Bytes) : OnionKeys × Bytes :=
  let (ciphers, data) := unwrapBackward P k.ciphers data
  ({ k with ciphers }, data)

end OnionKeys

/-! ## The layers -/

/-- The forward layers of the ciphers. -/
def forwardLayers (ciphers : List CipherPair) : List Keyed :=
  ciphers.map fun cipher => cipher.forward.layer P

/-- The backward layers of the ciphers. -/
def backwardLayers (ciphers : List CipherPair) : List Keyed :=
  ciphers.map fun cipher => cipher.backward.layer P

/-- All forward positions moved by `n`. -/
def advanceForwardAll (ciphers : List CipherPair) (n : Nat) : List CipherPair :=
  ciphers.map fun cipher => { cipher with forward := cipher.forward.advance n }

/-- All backward positions moved by `n`. -/
def advanceBackwardAll (ciphers : List CipherPair) (n : Nat) : List CipherPair :=
  ciphers.map fun cipher => { cipher with backward := cipher.backward.advance n }

theorem applyForwardAll_snd (ciphers : List CipherPair) (data : Bytes) :
    (applyForwardAll P ciphers data).2 = (applyLayers (forwardLayers P ciphers) data).2 := by
  induction ciphers generalizing data with
  | nil => rfl
  | cons cipher ciphers ih => exact ih _

theorem applyForwardAll_fst (ciphers : List CipherPair) (data : Bytes) :
    (applyForwardAll P ciphers data).1 = advanceForwardAll ciphers data.length := by
  induction ciphers generalizing data with
  | nil => rfl
  | cons cipher ciphers ih =>
    have hlen : (cipher.applyForward P data).2.length = data.length :=
      CipherPair.length_applyForward ..
    have htail := ih (cipher.applyForward P data).2
    rw [hlen] at htail
    exact congrArg (List.cons _) htail

theorem wrapForward_fst (ciphers : List CipherPair) (data : Bytes) :
    (wrapForward P ciphers data).1 = advanceForwardAll ciphers data.length := by
  show (applyForwardAll P ciphers.reverse data).1.reverse = _
  rw [applyForwardAll_fst, advanceForwardAll, List.map_reverse, List.reverse_reverse]
  rfl

/-- The layers of a forward cell, whatever order they are applied in. -/
theorem wrapForward_snd (ciphers : List CipherPair) (data : Bytes) :
    (wrapForward P ciphers data).2 = (applyLayers (forwardLayers P ciphers) data).2 := by
  show (applyForwardAll P ciphers.reverse data).2 = _
  rw [applyForwardAll_snd, forwardLayers, List.map_reverse]
  exact applyLayers_perm (List.reverse_perm _) data

theorem unwrapBackward_snd (ciphers : List CipherPair) (data : Bytes) :
    (unwrapBackward P ciphers data).2 = (applyLayers (backwardLayers P ciphers) data).2 := by
  induction ciphers generalizing data with
  | nil => rfl
  | cons cipher ciphers ih => exact ih _

theorem unwrapBackward_fst (ciphers : List CipherPair) (data : Bytes) :
    (unwrapBackward P ciphers data).1 = advanceBackwardAll ciphers data.length := by
  induction ciphers generalizing data with
  | nil => rfl
  | cons cipher ciphers ih =>
    have hlen : (cipher.applyBackward P data).2.length = data.length :=
      CipherPair.length_applyBackward ..
    have htail := ih (cipher.applyBackward P data).2
    rw [hlen] at htail
    exact congrArg (List.cons _) htail

@[simp] theorem forwardLayers_advanceForwardAll (ciphers : List CipherPair) (n : Nat) :
    forwardLayers P (advanceForwardAll ciphers n) =
      (forwardLayers P ciphers).map (Keyed.advance · n) := by
  simp [forwardLayers, advanceForwardAll]

@[simp] theorem backwardLayers_advanceForwardAll (ciphers : List CipherPair) (n : Nat) :
    backwardLayers P (advanceForwardAll ciphers n) = backwardLayers P ciphers := by
  simp [backwardLayers, advanceForwardAll]

@[simp] theorem forwardLayers_advanceBackwardAll (ciphers : List CipherPair) (n : Nat) :
    forwardLayers P (advanceBackwardAll ciphers n) = forwardLayers P ciphers := by
  simp [forwardLayers, advanceBackwardAll]

@[simp] theorem backwardLayers_advanceBackwardAll (ciphers : List CipherPair) (n : Nat) :
    backwardLayers P (advanceBackwardAll ciphers n) =
      (backwardLayers P ciphers).map (Keyed.advance · n) := by
  simp [backwardLayers, advanceBackwardAll]

@[simp] theorem length_wrapForward (ciphers : List CipherPair) (data : Bytes) :
    (wrapForward P ciphers data).2.length = data.length := by
  rw [wrapForward_snd, length_applyLayers]

end MiniTor.Client
