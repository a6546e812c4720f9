import Mathlib
import MiniTor.Theory.Keystream
import MiniTor.Theory.Sha256

/-!
# Cell cryptography (`common/src/crypto.rs`)

The primitives come from third-party crates; the model takes them as functions
on byte strings (`Primitives`). Everything built on them is translated:

- `Aes128Ctr` and `CipherPair`: one keystream per direction, started at the
  zero IV and advanced by every byte it is applied to;
- `RunningDigest`: the SHA-256 state as the bytes absorbed so far, a 4-byte
  snapshot after each cell;
- `SessionKey`: the two AES-128 keys of a hop.
-/

namespace MiniTor

open Theory

abbrev Bytes := List UInt8

/-- `[u8; n]`. -/
abbrev ByteArr (n : Nat) := List.Vector UInt8 n

/-- The cryptographic primitives the services call. -/
structure Primitives where
  /-- AES-128-CTR keystream of a key at the zero IV. -/
  aes128Ctr : ByteArr 16 → Nat → UInt8
  sha256 : Bytes → ByteArr 32
  /-- HMAC-SHA256, key first; it accepts keys of every length. -/
  hmacSha256 : Bytes → Bytes → ByteArr 32
  /-- X25519: secret, then the other side's public key. -/
  x25519 : ByteArr 32 → ByteArr 32 → ByteArr 32
  /-- X25519 public key of a secret. -/
  x25519Public : ByteArr 32 → ByteArr 32

/-- An instance to evaluate the model on: SHA-256 and HMAC are the real ones, the
keystream and the key exchange are stand-ins with the algebra the protocol uses. -/
def Primitives.sample : Primitives where
  aes128Ctr key pos := key.toList.foldl (· + ·) (UInt8.ofNat pos)
  sha256 := Sha256.digest
  hmacSha256 := Sha256.hmac
  x25519 secret theirs := List.Vector.map₂ (· ^^^ ·) secret theirs
  x25519Public secret := secret

variable (P : Primitives)

/-! ## Stream ciphers -/

/-- AES-128-CTR state: key and keystream position. -/
@[ext] structure Aes128Ctr where
  key : ByteArr 16
  pos : Nat
  deriving DecidableEq

/-- Fresh state at the zero IV. -/
def Aes128Ctr.new (key : ByteArr 16) : Aes128Ctr := ⟨key, 0⟩

def Aes128Ctr.applyKeystream (c : Aes128Ctr) (data : Bytes) : Aes128Ctr × Bytes :=
  ({ c with pos := c.pos + data.length }, xorAt (P.aes128Ctr c.key) c.pos data)

/-- The cipher as a keystream layer. -/
def Aes128Ctr.layer (c : Aes128Ctr) : Keyed := ⟨P.aes128Ctr c.key, c.pos⟩

/-- The state after `n` bytes. -/
def Aes128Ctr.advance (c : Aes128Ctr) (n : Nat) : Aes128Ctr := { c with pos := c.pos + n }

@[simp] theorem Aes128Ctr.applyKeystream_fst (c : Aes128Ctr) (data : Bytes) :
    (c.applyKeystream P data).1 = c.advance data.length := rfl

@[simp] theorem Aes128Ctr.layer_advance (c : Aes128Ctr) (n : Nat) :
    (c.advance n).layer P = (c.layer P).advance n := rfl

/-- Session key with separate forward and backward AES-128 keys. -/
@[ext] structure SessionKey where
  forward : ByteArr 16
  backward : ByteArr 16
  deriving DecidableEq

/-- Stateful AES-128-CTR cipher pair for a single circuit hop. -/
@[ext] structure CipherPair where
  forward : Aes128Ctr
  backward : Aes128Ctr
  deriving DecidableEq

def CipherPair.new (key : SessionKey) : CipherPair :=
  ⟨Aes128Ctr.new key.forward, Aes128Ctr.new key.backward⟩

def CipherPair.applyForward (c : CipherPair) (data : Bytes) : CipherPair × Bytes :=
  let (forward, data) := c.forward.applyKeystream P data
  ({ c with forward }, data)

def CipherPair.applyBackward (c : CipherPair) (data : Bytes) : CipherPair × Bytes :=
  let (backward, data) := c.backward.applyKeystream P data
  ({ c with backward }, data)

section CipherPair

variable (c : CipherPair) (data : Bytes)

@[simp] theorem CipherPair.applyForward_forward :
    (c.applyForward P data).1.forward = c.forward.advance data.length := rfl

@[simp] theorem CipherPair.applyForward_backward :
    (c.applyForward P data).1.backward = c.backward := rfl

@[simp] theorem CipherPair.applyBackward_backward :
    (c.applyBackward P data).1.backward = c.backward.advance data.length := rfl

@[simp] theorem CipherPair.applyBackward_forward :
    (c.applyBackward P data).1.forward = c.forward := rfl

@[simp] theorem CipherPair.length_applyForward :
    (c.applyForward P data).2.length = data.length := length_xorAt ..

@[simp] theorem CipherPair.length_applyBackward :
    (c.applyBackward P data).2.length = data.length := length_xorAt ..

end CipherPair

/-! ## Running digest -/

/-- Running SHA-256 digest: the bytes fed to the hasher so far. -/
structure RunningDigest where
  state : Bytes
  deriving DecidableEq

/-- `u16::to_be_bytes`. -/
def u16ToBeBytes (n : UInt16) : Bytes :=
  [UInt8.ofNat (n.toNat / 256), UInt8.ofNat (n.toNat % 256)]

@[simp] theorem length_u16ToBeBytes (n : UInt16) : (u16ToBeBytes n).length = 2 := rfl

theorem u16ToBeBytes_injective {m n : UInt16} (h : u16ToBeBytes m = u16ToBeBytes n) : m = n := by
  simp only [u16ToBeBytes, List.cons.injEq, and_true] at h
  obtain ⟨hhi, hlo⟩ := h
  have hhi' := congrArg UInt8.toNat hhi
  have hlo' := congrArg UInt8.toNat hlo
  have hm := m.toNat_lt
  have hn := n.toNat_lt
  simp only [UInt8.toNat_ofNat'] at hhi' hlo'
  exact UInt16.toNat_inj.mp (by omega)

/-- What one cell adds to a running digest: `stream_id`, `command`, `data`. -/
def cellTranscript (streamId : UInt16) (command : UInt8) (data : Bytes) : Bytes :=
  u16ToBeBytes streamId ++ command :: data

@[simp] theorem length_cellTranscript (streamId : UInt16) (command : UInt8) (data : Bytes) :
    (cellTranscript streamId command data).length = 3 + data.length := by
  simp [cellTranscript]; omega

theorem cellTranscript_injective {s s' : UInt16} {c c' : UInt8} {d d' : Bytes}
    (h : cellTranscript s c d = cellTranscript s' c' d') : s = s' ∧ c = c' ∧ d = d' := by
  obtain ⟨hs, hcd⟩ := List.append_inj h (by simp)
  obtain ⟨hc, hd⟩ := List.cons.inj hcd
  exact ⟨u16ToBeBytes_injective hs, hc, hd⟩

/-- The first four bytes of SHA-256 of `absorbed`. -/
def tagOf (absorbed : Bytes) : ByteArr 4 := (P.sha256 absorbed).take 4

/-- A fresh digest state. -/
def RunningDigest.new : RunningDigest := ⟨[]⟩

/-- Feed a cell's fields into the running digest and return the 4-byte snapshot. -/
def RunningDigest.update (d : RunningDigest) (streamId : UInt16) (command : UInt8)
    (data : Bytes) : RunningDigest × ByteArr 4 :=
  let d' : RunningDigest := ⟨d.state ++ cellTranscript streamId command data⟩
  (d', tagOf P d'.state)

/-- Verify a cell's digest by recomputing and comparing. -/
def RunningDigest.verify (d : RunningDigest) (streamId : UInt16) (command : UInt8)
    (data : Bytes) (expected : ByteArr 4) : RunningDigest × Bool :=
  let (d', computed) := d.update P streamId command data
  (d', computed == expected)

/-- A digest and its mirror in the same state accept each other's tags. -/
theorem RunningDigest.verify_update (d : RunningDigest) (streamId : UInt16) (command : UInt8)
    (data : Bytes) :
    d.verify P streamId command data (d.update P streamId command data).2 =
      ((d.update P streamId command data).1, true) := by
  simp [verify]

end MiniTor
