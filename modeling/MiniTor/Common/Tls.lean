import MiniTor.Common.Crypto
import MiniTor.Common.Error
import MiniTor.Common.Hex
import MiniTor.Theory.Collision

/-!
# Certificate pins (`common/src/tls.rs`)

A relay publishes the SHA-256 of its certificate in hexadecimal, and whoever dials it takes the
certificate it is shown if it has that fingerprint, in either case. The handshake's signatures
are not looked at: `verify_tls12_signature` and `verify_tls13_signature` accept them all.

- `computeCertFingerprint`, `FingerprintVerifier.verifyServerCert`, `TcpTlsTransport.connect`.
- `computeCertFingerprint_inj`: two fingerprints agree exactly if the digests do.
- `verify_eq_ok_iff`: so a pin lets a certificate through exactly if it has the digest of the
  one that was published.
-/

namespace MiniTor

open Theory

variable (P : Primitives)

/-- `hex::encode`. -/
def hexEncode (bytes : Bytes) : String := String.ofList (bytes.flatMap byteHex)

def computeCertFingerprint (certDer : Bytes) : String := hexEncode (P.sha256 certDer).toList

/-- `str::eq_ignore_ascii_case`. -/
def eqIgnoreAsciiCase (a b : String) : Bool := a.toList.map Char.toLower == b.toList.map Char.toLower

structure FingerprintVerifier where
  expected : String

def FingerprintVerifier.verifyServerCert (v : FingerprintVerifier) (endEntity : Bytes) :
    Except String Unit :=
  let actual := computeCertFingerprint P endEntity
  if eqIgnoreAsciiCase actual v.expected then .ok ()
  else .error ("Certificate fingerprint mismatch: expected " ++ v.expected ++ ", got " ++ actual)

/-- What a TCP connection to an address meets: nobody, or a server that shows a certificate. -/
abbrev Servers := SocketAddr → Except IoError Bytes

/-- `TcpTlsTransport::connect`, which the relays' EXTEND handlers repeat, up to the end of the
handshake; it gives the certificate the server showed. -/
def TcpTlsTransport.connect (servers : Servers) (addr : SocketAddr) (tlsFingerprint : String) :
    Except Error Bytes :=
  match servers addr with
  | .error e => .error (.io e)
  | .ok shown =>
    match FingerprintVerifier.verifyServerCert P ⟨tlsFingerprint⟩ shown with
    | .error message => .error (.tls ⟨ascii message⟩)
    | .ok () => .ok shown

/-! ## Fingerprints -/

theorem digitChar_injective :
    ∀ i < 16, ∀ j < 16, Nat.digitChar i = Nat.digitChar j → i = j := by decide

theorem toLower_digitChar : ∀ i < 16, (Nat.digitChar i).toLower = Nat.digitChar i := by decide

theorem byteHex_injective {a b : UInt8} (h : byteHex a = byteHex b) : a = b := by
  have hlt : ∀ byte : UInt8, byte.toNat / 16 < 16 ∧ byte.toNat % 16 < 16 := by
    intro byte
    have hbyte := byte.toNat_lt
    omega
  obtain ⟨hhigh, hrest⟩ := List.cons.inj h
  obtain ⟨hlow, -⟩ := List.cons.inj hrest
  have hdiv := digitChar_injective _ (hlt a).1 _ (hlt b).1 hhigh
  have hmod := digitChar_injective _ (hlt a).2 _ (hlt b).2 hlow
  refine UInt8.toNat_inj.mp ?_
  omega

theorem flatMap_byteHex_injective :
    ∀ {as bs : Bytes}, as.flatMap byteHex = bs.flatMap byteHex → as = bs
  | [], [], _ => rfl
  | [], _ :: _, h => by cases h
  | _ :: _, [], h => by cases h
  | a :: as, b :: bs, h => by
    rw [List.flatMap_cons, List.flatMap_cons] at h
    obtain ⟨hbyte, hrest⟩ := List.append_inj h rfl
    rw [byteHex_injective hbyte, flatMap_byteHex_injective hrest]

theorem map_toLower_flatMap_byteHex (bytes : Bytes) :
    (bytes.flatMap byteHex).map Char.toLower = bytes.flatMap byteHex := by
  induction bytes with
  | nil => rfl
  | cons byte bytes ih =>
    have hbyte := byte.toNat_lt
    have hlow : (byteHex byte).map Char.toLower = byteHex byte := by
      rw [byteHex, List.map_cons, List.map_cons, toLower_digitChar _ (by omega),
        toLower_digitChar _ (by omega)]
      rfl
    rw [List.flatMap_cons, List.map_append, hlow, ih]

variable {P}

/-- **A fingerprint tells the digest.** -/
theorem computeCertFingerprint_inj {cert cert' : Bytes} :
    computeCertFingerprint P cert = computeCertFingerprint P cert' ↔
      P.sha256 cert = P.sha256 cert' := by
  constructor
  · intro h
    have hlist := congrArg String.toList h
    rw [computeCertFingerprint, computeCertFingerprint, hexEncode, hexEncode, String.toList_ofList,
      String.toList_ofList] at hlist
    exact List.Vector.toList_injective (flatMap_byteHex_injective hlist)
  · intro h
    rw [computeCertFingerprint, h, computeCertFingerprint]

/-- The fingerprint of a certificate is in lower case already. -/
theorem eqIgnoreAsciiCase_iff {cert : Bytes} {expected : String} :
    eqIgnoreAsciiCase (computeCertFingerprint P cert) expected = true ↔
      computeCertFingerprint P cert = expected.toLower := by
  rw [eqIgnoreAsciiCase, beq_iff_eq, computeCertFingerprint, hexEncode, String.toList_ofList,
    map_toLower_flatMap_byteHex, ← String.toList_inj, String.toList_ofList, String.toLower,
    String.toList_map]

/-- A pin in any case lets through what has the fingerprint in lower case. -/
theorem verifyServerCert_eq_ok_iff {expected : String} {shown : Bytes} :
    FingerprintVerifier.verifyServerCert P ⟨expected⟩ shown = .ok () ↔
      computeCertFingerprint P shown = expected.toLower := by
  rw [← eqIgnoreAsciiCase_iff, FingerprintVerifier.verifyServerCert]
  dsimp only
  by_cases h : eqIgnoreAsciiCase (computeCertFingerprint P shown) expected = true
  · rw [if_pos h]
    exact iff_of_true rfl h
  · rw [if_neg h]
    exact iff_of_false (by rintro ⟨⟩) h

/-- **A published pin lets a certificate through exactly if it has the digest of the published
one.** -/
theorem verify_eq_ok_iff {cert shown : Bytes} :
    FingerprintVerifier.verifyServerCert P ⟨computeCertFingerprint P cert⟩ shown = .ok () ↔
      P.sha256 shown = P.sha256 cert := by
  have hlower : (computeCertFingerprint P cert).toLower = computeCertFingerprint P cert := by
    rw [String.toLower, ← String.toList_inj, String.toList_map, computeCertFingerprint, hexEncode,
      String.toList_ofList, map_toLower_flatMap_byteHex]
  rw [verifyServerCert_eq_ok_iff, hlower, computeCertFingerprint_inj]

/-- **A connection is made with whoever answers at the address and shows a certificate of the
published digest**, with nobody else. -/
theorem connect_eq_ok_iff {servers : Servers} {addr : SocketAddr} {cert shown : Bytes} :
    TcpTlsTransport.connect P servers addr (computeCertFingerprint P cert) = .ok shown ↔
      servers addr = .ok shown ∧ P.sha256 shown = P.sha256 cert := by
  rw [TcpTlsTransport.connect]
  cases servers addr with
  | error e => exact iff_of_false (by rintro ⟨⟩) fun h => by cases h.1
  | ok server =>
    dsimp only
    cases hverify : FingerprintVerifier.verifyServerCert P ⟨computeCertFingerprint P cert⟩ server with
    | ok u =>
      have hdigest := verify_eq_ok_iff.mp hverify
      constructor
      · intro h
        cases h
        exact ⟨rfl, hdigest⟩
      · rintro ⟨h, -⟩
        cases h
        rfl
    | error message =>
      refine iff_of_false (by rintro ⟨⟩) ?_
      rintro ⟨h, hdigest⟩
      cases h
      rw [verify_eq_ok_iff.mpr hdigest] at hverify
      cases hverify

end MiniTor
