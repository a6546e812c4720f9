import Mathlib

/-!
# SHA-256 and HMAC

The hash function of FIPS 180-4 over byte lists, and HMAC over it, as
computable definitions. Words are naturals below `2 ^ 32`. The rest of the
development treats the hash as an arbitrary function; these definitions are for
the statements that are about SHA-256 itself on given bytes.
-/

namespace Theory.Sha256

/-- Round constants. -/
def k : List Nat :=
  [0x428a2f98, 0x71374491, 0xb5c0fbcf, 0xe9b5dba5, 0x3956c25b, 0x59f111f1, 0x923f82a4, 0xab1c5ed5,
   0xd807aa98, 0x12835b01, 0x243185be, 0x550c7dc3, 0x72be5d74, 0x80deb1fe, 0x9bdc06a7, 0xc19bf174,
   0xe49b69c1, 0xefbe4786, 0x0fc19dc6, 0x240ca1cc, 0x2de92c6f, 0x4a7484aa, 0x5cb0a9dc, 0x76f988da,
   0x983e5152, 0xa831c66d, 0xb00327c8, 0xbf597fc7, 0xc6e00bf3, 0xd5a79147, 0x06ca6351, 0x14292967,
   0x27b70a85, 0x2e1b2138, 0x4d2c6dfc, 0x53380d13, 0x650a7354, 0x766a0abb, 0x81c2c92e, 0x92722c85,
   0xa2bfe8a1, 0xa81a664b, 0xc24b8b70, 0xc76c51a3, 0xd192e819, 0xd6990624, 0xf40e3585, 0x106aa070,
   0x19a4c116, 0x1e376c08, 0x2748774c, 0x34b0bcb5, 0x391c0cb3, 0x4ed8aa4a, 0x5b9cca4f, 0x682e6ff3,
   0x748f82ee, 0x78a5636f, 0x84c87814, 0x8cc70208, 0x90befffa, 0xa4506ceb, 0xbef9a3f7, 0xc67178f2]

/-- Initial hash value. -/
def h0 : List Nat :=
  [0x6a09e667, 0xbb67ae85, 0x3c6ef372, 0xa54ff53a, 0x510e527f, 0x9b05688c, 0x1f83d9ab, 0x5be0cd19]

/-- Rotate a word right. -/
def rotr (x n : Nat) : Nat := (x >>> n ||| x <<< (32 - n)) % 2 ^ 32

def bigSigma0 (x : Nat) : Nat := rotr x 2 ^^^ rotr x 13 ^^^ rotr x 22

def bigSigma1 (x : Nat) : Nat := rotr x 6 ^^^ rotr x 11 ^^^ rotr x 25

def smallSigma0 (x : Nat) : Nat := rotr x 7 ^^^ rotr x 18 ^^^ x >>> 3

def smallSigma1 (x : Nat) : Nat := rotr x 17 ^^^ rotr x 19 ^^^ x >>> 10

def ch (x y z : Nat) : Nat := (x &&& y) ^^^ ((2 ^ 32 - 1 - x) &&& z)

def maj (x y z : Nat) : Nat := (x &&& y) ^^^ (x &&& z) ^^^ (y &&& z)

/-- Big-endian bytes of `n`, `w` of them. -/
def toBytesBE : Nat → Nat → List UInt8
  | 0, _ => []
  | w + 1, n => UInt8.ofNat (n / 256 ^ w % 256) :: toBytesBE w n

@[simp] theorem length_toBytesBE (w n : Nat) : (toBytesBE w n).length = w := by
  induction w with
  | zero => rfl
  | succ w ih => simp [toBytesBE, ih]

/-- The words of a block. -/
def toWords : List UInt8 → List Nat
  | a :: b :: c :: d :: rest =>
    (a.toNat * 2 ^ 24 + b.toNat * 2 ^ 16 + c.toNat * 2 ^ 8 + d.toNat) :: toWords rest
  | _ => []

/-- Message padding: a one bit, zeros, the length in bits. -/
def pad (m : List UInt8) : List UInt8 :=
  m ++ 0x80 :: List.replicate ((119 - m.length % 64) % 64) 0 ++ toBytesBE 8 (8 * m.length)

/-- The `n` words of the message schedule that follow the 16 in `w`. -/
def schedule : Nat → List Nat → List Nat
  | 0, _ => []
  | n + 1, w =>
    let next := (smallSigma1 (w.getD 14 0) + w.getD 9 0 + smallSigma0 (w.getD 1 0) + w.getD 0 0) %
      2 ^ 32
    next :: schedule n (w.tail ++ [next])

/-- One round on the eight working variables. -/
def round : List Nat → Nat × Nat → List Nat
  | [a, b, c, d, e, f, g, h], (kt, wt) =>
    let t1 := h + bigSigma1 e + ch e f g + kt + wt
    let t2 := bigSigma0 a + maj a b c
    [(t1 + t2) % 2 ^ 32, a, b, c, (d + t1) % 2 ^ 32, e, f, g]
  | v, _ => v

/-- Compress one block into the hash value. -/
def compress (h : List Nat) (block : List UInt8) : List Nat :=
  let w := toWords block
  let v := (k.zip (w ++ schedule 48 w)).foldl round h
  List.zipWith (fun x y => (x + y) % 2 ^ 32) h v

/-- Compress `n` blocks. -/
def blocks : Nat → List Nat → List UInt8 → List Nat
  | 0, h, _ => h
  | n + 1, h, m => blocks n (compress h (m.take 64)) (m.drop 64)

/-- The 32 digest bytes, padded or cut to that length by construction. -/
def digest (m : List UInt8) : List.Vector UInt8 32 :=
  let p := pad m
  let out := (blocks (p.length / 64) h0 p).flatMap (toBytesBE 4)
  ⟨(out ++ List.replicate 32 0).take 32, by simp⟩

/-- HMAC with the 64-byte blocks of SHA-256. -/
def hmac (key m : List UInt8) : List.Vector UInt8 32 :=
  let key := if key.length > 64 then (digest key).toList else key
  let key := key ++ List.replicate (64 - key.length) 0
  digest (key.map (· ^^^ 0x5c) ++ (digest (key.map (· ^^^ 0x36) ++ m)).toList)

-- The one-block message "abc" of FIPS 180-4.
example : (digest [0x61, 0x62, 0x63]).toList.take 8 =
    [0xba, 0x78, 0x16, 0xbf, 0x8f, 0x01, 0xcf, 0xea] := by decide +kernel

end Theory.Sha256
