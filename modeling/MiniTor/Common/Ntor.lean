import MiniTor.Common.Crypto
import MiniTor.Common.Error
import MiniTor.Theory.Collision

/-!
# The ntor handshake (`common/src/crypto.rs`)

`ntorServer` and `ntorClientFinishRaw` are translated side by side, each with
its own copy of the transcript it authenticates, as in the source. The ephemeral
secret the server draws from `OsRng` is a parameter.

- `authInput_injective`: the hand-built transcript is unambiguous, all its variable
  fields having 32 bytes.
- `ntorClientFinishRaw_sound`: an accepted tag pins the server's view, or two
  explicit HMAC inputs collide.
- `ntorServer_ntorClientFinishRaw`: with a commutative `x25519` the two
  derivations agree, and every other tag is refused.
-/

namespace MiniTor

open Theory

variable (P : Primitives)

def PROTOID : Bytes := ascii "ntor-curve25519-sha256-1"

def tKey : Bytes := PROTOID ++ ascii ":key_extract"

def tVerify : Bytes := PROTOID ++ ascii ":verify"

def tMac : Bytes := PROTOID ++ ascii ":mac"

def mExpand : Bytes := PROTOID ++ ascii ":key_expand"

/-- Raw X25519 DH (no hashing). -/
def rawDhStatic (secretBytes theirPublic : ByteArr 32) : ByteArr 32 :=
  P.x25519 secretBytes theirPublic

/-- `secret_input = exp1 || exp2 || B || X || Y || PROTOID`. -/
def buildSecretInput (exp1 exp2 serverStaticPub clientEphemeralPub serverEphemeralPub : ByteArr 32) :
    Bytes :=
  exp1.toList ++ exp2.toList ++ serverStaticPub.toList ++ clientEphemeralPub.toList ++
    serverEphemeralPub.toList ++ PROTOID

/-- Derive a `SessionKey` from a KEY_SEED: first half forward, second half backward. -/
def expandKeySeed (keySeed : ByteArr 32) : SessionKey :=
  let keyMaterial := P.hmacSha256 mExpand keySeed.toList
  { forward := keyMaterial.take 16, backward := keyMaterial.drop 16 }

/-- Server (relay) side: `(server_ephemeral_public, auth, session_key)`. -/
def ntorServer (staticSecret staticPublic clientEphemeralPub : ByteArr 32)
    (ySecret : ByteArr 32) : ByteArr 32 × ByteArr 32 × SessionKey :=
  let yPub := P.x25519Public ySecret
  let exp1 := rawDhStatic P ySecret clientEphemeralPub
  let exp2 := rawDhStatic P staticSecret clientEphemeralPub
  let secretInput := buildSecretInput exp1 exp2 staticPublic clientEphemeralPub yPub
  let keySeed := P.hmacSha256 tKey secretInput
  let verify := P.hmacSha256 tVerify secretInput
  let authInput := verify.toList ++ staticPublic.toList ++ yPub.toList ++
    clientEphemeralPub.toList ++ PROTOID ++ ascii "Server"
  let auth := P.hmacSha256 tMac authInput
  (yPub, auth, expandKeySeed P keySeed)

/-- Client side: verify AUTH and derive the session key. -/
def ntorClientFinishRaw (clientEphemeralSecret clientEphemeralPub serverStaticPub
    serverEphemeralPub auth : ByteArr 32) : Except TorError SessionKey :=
  let exp1 := rawDhStatic P clientEphemeralSecret serverEphemeralPub
  let exp2 := rawDhStatic P clientEphemeralSecret serverStaticPub
  let secretInput := buildSecretInput exp1 exp2 serverStaticPub clientEphemeralPub
    serverEphemeralPub
  let keySeed := P.hmacSha256 tKey secretInput
  let verify := P.hmacSha256 tVerify secretInput
  let authInput := verify.toList ++ serverStaticPub.toList ++ serverEphemeralPub.toList ++
    clientEphemeralPub.toList ++ PROTOID ++ ascii "Server"
  let expectedAuth := P.hmacSha256 tMac authInput
  if auth ≠ expectedAuth then .error .handshakeAuthFailed
  else .ok (expandKeySeed P keySeed)

/-! ## The transcripts -/

/-- The transcript both sides authenticate. -/
def authInput (verify staticPub ephemeralPub clientPub : ByteArr 32) : Bytes :=
  verify.toList ++ staticPub.toList ++ ephemeralPub.toList ++ clientPub.toList ++ PROTOID ++
    ascii "Server"

/-- The client's secret input. -/
def clientSecretInput (x X B Y : ByteArr 32) : Bytes :=
  buildSecretInput (rawDhStatic P x Y) (rawDhStatic P x B) B X Y

/-- The server's secret input. -/
def serverSecretInput (b B X y : ByteArr 32) : Bytes :=
  buildSecretInput (rawDhStatic P y X) (rawDhStatic P b X) B X (P.x25519Public y)

theorem ntorServer_eq (b B X y : ByteArr 32) :
    ntorServer P b B X y =
      (P.x25519Public y,
        P.hmacSha256 tMac
          (authInput (P.hmacSha256 tVerify (serverSecretInput P b B X y)) B (P.x25519Public y) X),
        expandKeySeed P (P.hmacSha256 tKey (serverSecretInput P b B X y))) := rfl

theorem ntorClientFinishRaw_eq (x X B Y auth : ByteArr 32) :
    ntorClientFinishRaw P x X B Y auth =
      if auth ≠ P.hmacSha256 tMac
          (authInput (P.hmacSha256 tVerify (clientSecretInput P x X B Y)) B Y X)
      then .error .handshakeAuthFailed
      else .ok (expandKeySeed P (P.hmacSha256 tKey (clientSecretInput P x X B Y))) := rfl

theorem authInput_injective {v v' B B' Y Y' X X' : ByteArr 32}
    (h : authInput v B Y X = authInput v' B' Y' X') : v = v' ∧ B = B' ∧ Y = Y' ∧ X = X' := by
  simp only [authInput, List.append_assoc] at h
  obtain ⟨hv, h⟩ := List.append_inj h (by simp)
  obtain ⟨hB, h⟩ := List.append_inj h (by simp)
  obtain ⟨hY, h⟩ := List.append_inj h (by simp)
  obtain ⟨hX, -⟩ := List.append_inj h (by simp)
  exact ⟨List.Vector.eq _ _ hv, List.Vector.eq _ _ hB, List.Vector.eq _ _ hY,
    List.Vector.eq _ _ hX⟩

/-- The server's tag, checked by the client, is the client's own expectation. -/
theorem ntorClientFinishRaw_eq_ok {x X B Y auth : ByteArr 32} {key : SessionKey} :
    ntorClientFinishRaw P x X B Y auth = .ok key ↔
      auth = P.hmacSha256 tMac
          (authInput (P.hmacSha256 tVerify (clientSecretInput P x X B Y)) B Y X) ∧
        key = expandKeySeed P (P.hmacSha256 tKey (clientSecretInput P x X B Y)) := by
  rw [ntorClientFinishRaw_eq]
  by_cases h : auth = P.hmacSha256 tMac
      (authInput (P.hmacSha256 tVerify (clientSecretInput P x X B Y)) B Y X)
  · rw [if_neg (not_not.mpr h)]
    constructor
    · rintro ⟨⟩
      exact ⟨h, rfl⟩
    · rintro ⟨-, rfl⟩
      rfl
  · rw [if_pos h]
    constructor
    · rintro ⟨⟩
    · rintro ⟨h', -⟩
      exact absurd h' h

/-! ## Soundness -/

/-- **An accepted tag pins the server's view.** If the client accepts the tag of a
server run, the static key, the client key and the ephemeral key are the ones both
sides used and the session keys agree, or the two authenticated transcripts, or the
two secret inputs, collide under HMAC. -/
theorem ntorClientFinishRaw_sound (x X B Y b' B' X' y' : ByteArr 32) (key : SessionKey)
    (h : ntorClientFinishRaw P x X B Y (ntorServer P b' B' X' y').2.1 = .ok key) :
    (B' = B ∧ X' = X ∧ (ntorServer P b' B' X' y').1 = Y ∧
        key = (ntorServer P b' B' X' y').2.2) ∨
      Collides (P.hmacSha256 tMac)
        (authInput (P.hmacSha256 tVerify (clientSecretInput P x X B Y)) B Y X)
        (authInput (P.hmacSha256 tVerify (serverSecretInput P b' B' X' y')) B'
          (P.x25519Public y') X') ∨
      Collides (P.hmacSha256 tVerify) (clientSecretInput P x X B Y)
        (serverSecretInput P b' B' X' y') := by
  obtain ⟨htag, hkey⟩ := (ntorClientFinishRaw_eq_ok P).mp h
  -- first reduction: equal tags, so equal transcripts or a collision under t_mac
  rcases eq_or_collides htag.symm with hauth | hmac
  · obtain ⟨hverify, rfl, rfl, rfl⟩ := authInput_injective hauth
    -- second reduction: equal verify values, so equal secret inputs or a collision
    rcases eq_or_collides hverify with hsecret | hcoll
    · refine .inl ⟨rfl, rfl, rfl, ?_⟩
      rw [hkey, hsecret]
      rfl
    · exact .inr (.inr hcoll)
  · exact .inr (.inl hmac)

/-! ## Agreement -/

/-- With a commutative exchange the two secret inputs of an honest run coincide. -/
theorem clientSecretInput_eq_server
    (hcomm : ∀ x y, P.x25519 x (P.x25519Public y) = P.x25519 y (P.x25519Public x))
    (b x y : ByteArr 32) :
    clientSecretInput P x (P.x25519Public x) (P.x25519Public b) (P.x25519Public y) =
      serverSecretInput P b (P.x25519Public b) (P.x25519Public x) y := by
  simp only [clientSecretInput, serverSecretInput, rawDhStatic, hcomm x]

/-- The tag an honest client expects is the one the server computed. -/
theorem ntorClientFinishRaw_honest
    (hcomm : ∀ x y, P.x25519 x (P.x25519Public y) = P.x25519 y (P.x25519Public x))
    (b x y auth : ByteArr 32) :
    ntorClientFinishRaw P x (P.x25519Public x) (P.x25519Public b)
        (ntorServer P b (P.x25519Public b) (P.x25519Public x) y).1 auth =
      if auth = (ntorServer P b (P.x25519Public b) (P.x25519Public x) y).2.1
      then .ok (ntorServer P b (P.x25519Public b) (P.x25519Public x) y).2.2
      else .error .handshakeAuthFailed := by
  simp only [ntorServer_eq, ntorClientFinishRaw_eq, clientSecretInput_eq_server P hcomm]
  exact ite_not ..

/-- **Both sides derive the same session key**, and every other tag is refused. -/
theorem ntorServer_ntorClientFinishRaw
    (hcomm : ∀ x y, P.x25519 x (P.x25519Public y) = P.x25519 y (P.x25519Public x))
    (b x y : ByteArr 32) {Y auth : ByteArr 32} {key : SessionKey}
    (hrun : ntorServer P b (P.x25519Public b) (P.x25519Public x) y = (Y, auth, key)) :
    ntorClientFinishRaw P x (P.x25519Public x) (P.x25519Public b) Y auth = .ok key ∧
      ∀ other, other ≠ auth →
        ntorClientFinishRaw P x (P.x25519Public x) (P.x25519Public b) Y other =
          .error .handshakeAuthFailed := by
  have honest := ntorClientFinishRaw_honest P hcomm b x y
  rw [hrun] at honest
  refine ⟨?_, fun other hother => ?_⟩
  · rw [honest, if_pos rfl]
  · rw [honest, if_neg hother]

/-! ### A sample run -/

theorem sample_x25519_comm (x y : ByteArr 32) :
    Primitives.sample.x25519 x (Primitives.sample.x25519Public y) =
      Primitives.sample.x25519 y (Primitives.sample.x25519Public x) := by
  apply List.Vector.eq
  obtain ⟨xs, hx⟩ := x
  obtain ⟨ys, hy⟩ := y
  show List.zipWith (· ^^^ ·) xs ys = List.zipWith (· ^^^ ·) ys xs
  exact List.zipWith_comm_of_comm fun a b => UInt8.xor_comm a b

/-- The secret whose bytes are all `n`. -/
def sampleSecret (n : UInt8) : ByteArr 32 := List.Vector.replicate 32 n

/-- A server run with static secret 1 and ephemeral secret 3 for client secret 2. -/
def sampleRun : ByteArr 32 × ByteArr 32 × SessionKey :=
  ntorServer .sample (sampleSecret 1) (Primitives.sample.x25519Public (sampleSecret 1))
    (Primitives.sample.x25519Public (sampleSecret 2)) (sampleSecret 3)

/-- The honest client's result on the sample run. -/
theorem sampleRun_honest :
    ntorClientFinishRaw .sample (sampleSecret 2) (Primitives.sample.x25519Public (sampleSecret 2))
        (Primitives.sample.x25519Public (sampleSecret 1)) sampleRun.1 sampleRun.2.1 =
      .ok sampleRun.2.2 :=
  (ntorClientFinishRaw_honest .sample sample_x25519_comm _ _ _ _).trans (if_pos rfl)

theorem sampleRun_sound :
    let B := Primitives.sample.x25519Public (sampleSecret 1)
    let X := Primitives.sample.x25519Public (sampleSecret 2)
    (B = B ∧ X = X ∧ sampleRun.1 = sampleRun.1 ∧ sampleRun.2.2 = sampleRun.2.2) ∨
      Collides (Primitives.sample.hmacSha256 tMac)
        (authInput (Primitives.sample.hmacSha256 tVerify
          (clientSecretInput .sample (sampleSecret 2) X B sampleRun.1)) B sampleRun.1 X)
        (authInput (Primitives.sample.hmacSha256 tVerify
          (serverSecretInput .sample (sampleSecret 1) B X (sampleSecret 3))) B sampleRun.1 X) ∨
      Collides (Primitives.sample.hmacSha256 tVerify)
        (clientSecretInput .sample (sampleSecret 2) X B sampleRun.1)
        (serverSecretInput .sample (sampleSecret 1) B X (sampleSecret 3)) :=
  ntorClientFinishRaw_sound .sample (sampleSecret 2)
    (Primitives.sample.x25519Public (sampleSecret 2))
    (Primitives.sample.x25519Public (sampleSecret 1)) sampleRun.1 (sampleSecret 1)
    (Primitives.sample.x25519Public (sampleSecret 1))
    (Primitives.sample.x25519Public (sampleSecret 2)) (sampleSecret 3) sampleRun.2.2
    sampleRun_honest

theorem sampleRun_agrees :
    ntorClientFinishRaw .sample (sampleSecret 2) (Primitives.sample.x25519Public (sampleSecret 2))
        (Primitives.sample.x25519Public (sampleSecret 1)) sampleRun.1 sampleRun.2.1 =
      .ok sampleRun.2.2 :=
  (ntorServer_ntorClientFinishRaw .sample sample_x25519_comm (sampleSecret 1) (sampleSecret 2)
    (sampleSecret 3)
    (show ntorServer .sample (sampleSecret 1) (Primitives.sample.x25519Public (sampleSecret 1))
        (Primitives.sample.x25519Public (sampleSecret 2)) (sampleSecret 3) =
      (sampleRun.1, sampleRun.2.1, sampleRun.2.2) from rfl)).1

end MiniTor
