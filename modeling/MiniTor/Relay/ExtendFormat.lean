import MiniTor.Common.Addr
import MiniTor.Relay.Hop

/-!
# The EXTEND payload (`entry.rs`, `middle.rs`)

`addr NUL key NUL fingerprint`, where the key may hold NULs and so may the fingerprint. The
address ends at the first NUL and the key has 32 bytes, so each part is found.

- `parseExtend_eq_ok`: what a parser accepts is a payload, and the one it was made of.
- `parseExtend_inRange`: the ranges a parser reads are there once its checks have passed.
- `extend_format`: so both roles read every payload back and agree on every other string.
-/

namespace MiniTor

open Theory

/-- Valid UTF-8 is the bytes of the string it decodes to. -/
theorem asBytes_of_fromUtf8 {b : Bytes} {s : String} (h : fromUtf8 b = some s) :
    asBytes s = b := by
  unfold fromUtf8 String.fromUTF8? at h
  split at h
  · cases h
    rfl
  · cases h

/-- What a range that is there holds. -/
theorem getRange_of_le {b : Bytes} {i j : Nat} (hij : i ≤ j) (hj : j ≤ b.length) :
    getRange b i j = some ((b.drop i).take (j - i)) := if_pos ⟨hij, hj⟩

/-- An array is made of as many bytes as it has. -/
theorem toArr_eq_some {n : Nat} {b : Bytes} {v : ByteArr n} (h : toArr n b = some v) :
    v.toList = b := by
  unfold toArr at h
  split at h
  · cases h
    rfl
  · cases h

variable {A : AddrSyntax} {role : HopRole} {b : Bytes}

/-- The first NUL ends what has none. -/
theorem findIdx?_nul {addrEnd : Nat} (h : b.findIdx? (· == 0) = some addrEnd) :
    addrEnd < b.length ∧ b[addrEnd]? = some 0 ∧ (0 : UInt8) ∉ b.take addrEnd := by
  obtain ⟨hlt, hnul, hbefore⟩ := List.findIdx?_eq_some_iff_getElem.mp h
  refine ⟨hlt, ?_, fun hmem => ?_⟩
  · rw [List.getElem?_eq_getElem hlt, beq_iff_eq.mp hnul]
  · obtain ⟨i, hi, hzero⟩ := List.mem_iff_getElem.mp hmem
    rw [List.length_take] at hi
    have hlate := hbefore i (by omega)
    rw [List.getElem_take] at hzero
    rw [hzero] at hlate
    exact hlate rfl

/-- **What is accepted is a payload.** -/
theorem parseExtend_eq_ok {request : ExtendRequest} (h : parseExtend A role b = .ok request) :
    b = extendPayload request.addrStr request.clientPublic request.fingerprint ∧
      (0 : UInt8) ∉ asBytes request.addrStr ∧ A.parse request.addrStr = some request.addr := by
  simp only [parseExtend, bind_eq_ok, failIf_eq_ok, okOr_eq_ok] at h
  obtain ⟨-, -, addrEnd, hend, addrBytes, haddrBytes, addrStr, haddrStr, -, hkeyEnd, clientPublic,
    hkey, separator, hseparator, -, hzero, fpBytes, hfpBytes, fingerprint, hfingerprint, addr,
    haddr, hrequest⟩ := h
  cases hrequest
  obtain ⟨hlt, hnul, hbefore⟩ := findIdx?_nul hend
  obtain ⟨-, -, htake⟩ := getRange_eq_some_iff.mp haddrBytes
  obtain ⟨keyBytes, hkeyBytes, harr⟩ := Option.bind_eq_some_iff.mp hkey
  obtain ⟨-, -, hkeyTake⟩ := getRange_eq_some_iff.mp hkeyBytes
  obtain ⟨-, -, hfpTake⟩ := getRange_eq_some_iff.mp hfpBytes
  rw [not_not] at hzero
  subst hzero
  rw [List.drop_zero, Nat.sub_zero] at htake
  have haddrEq : asBytes addrStr = b.take addrEnd :=
    (asBytes_of_fromUtf8 haddrStr).trans htake.symm
  have hkeyEq : clientPublic.toList = (b.drop (addrEnd + 1)).take 32 := by
    rw [toArr_eq_some harr, ← hkeyTake]
    congr 1
    omega
  have hfpEq : asBytes fingerprint = b.drop (addrEnd + 1 + 32 + 1) := by
    rw [asBytes_of_fromUtf8 hfingerprint, ← hfpTake]
    exact List.take_of_length_le (by rw [List.length_drop])
  -- the string falls apart at the two separators and at the end of the key
  have hcut : ∀ i, b[i]? = some 0 → b.drop i = [0] ++ b.drop (i + 1) := by
    intro i hi
    obtain ⟨hlen, hget⟩ := List.getElem?_eq_some_iff.mp hi
    rw [List.drop_eq_getElem_cons hlen, hget]
    rfl
  refine ⟨?_, by rw [haddrEq]; exact hbefore, haddr⟩
  have hkeyEnds : b.drop (addrEnd + 1) =
      (b.drop (addrEnd + 1)).take 32 ++ b.drop (addrEnd + 1 + 32) := by
    rw [← List.drop_drop (i := 32), List.take_append_drop]
  calc b = b.take addrEnd ++ b.drop addrEnd := (List.take_append_drop ..).symm
    _ = b.take addrEnd ++ ([0] ++ ((b.drop (addrEnd + 1)).take 32 ++ b.drop (addrEnd + 1 + 32))) := by
      rw [hcut addrEnd hnul, ← hkeyEnds]
    _ = _ := by
      rw [hcut (addrEnd + 1 + 32) hseparator, extendPayload, haddrEq, hkeyEq, hfpEq]
      simp only [List.append_assoc]

/-- The texts of a parser whose range is not there. -/
def HopRole.rangeErrors (role : HopRole) : List Error :=
  [.text "Invalid address in EXTEND payload", .text role.keyInvalid,
    .text "EXTEND payload missing TLS fingerprint"]

/-- **No range is missing**: the checks before it see to that. -/
theorem parseExtend_inRange (hrole : role = entryRole ∨ role = middleRole A) :
    ∀ e ∈ role.rangeErrors, parseExtend A role b ≠ .error e := by
  intro e he h
  have hother : ∀ e' ∈ role.rangeErrors, e' ≠ .text "EXTEND payload too short" ∧
      e' ≠ .text "EXTEND payload missing address separator" ∧ e' ≠ .utf8 ∧
      e' ≠ .text role.keyTooShort ∧ e' ≠ .text "EXTEND payload missing fingerprint separator" ∧
      e' ≠ .addrParse := by
    rcases hrole with rfl | rfl
    · simp [HopRole.rangeErrors, entryRole]
    · simp [HopRole.rangeErrors, middleRole]
  obtain ⟨hshort, hseparator, hutf8, hkeyShort, hfpSeparator, haddrParse⟩ := hother e he
  simp only [parseExtend, bind_eq_error, failIf_eq_error, okOr_eq_error, okOr_eq_ok,
    failIf_eq_ok] at h
  rcases h with ⟨-, rfl⟩ | ⟨-, -, h⟩
  · exact hshort rfl
  rcases h with ⟨-, rfl⟩ | ⟨addrEnd, hend, h⟩
  · exact hseparator rfl
  obtain ⟨hlt, -, -⟩ := findIdx?_nul hend
  rcases h with ⟨hnone, -⟩ | ⟨addrBytes, -, h⟩
  · rw [getRange_of_le (Nat.zero_le _) (Nat.le_of_lt hlt)] at hnone
    cases hnone
  rcases h with ⟨-, rfl⟩ | ⟨addrStr, -, h⟩
  · exact hutf8 rfl
  rcases h with ⟨-, rfl⟩ | ⟨-, hkeyEnd, h⟩
  · exact hkeyShort rfl
  rcases h with ⟨hnone, -⟩ | ⟨clientPublic, -, h⟩
  · have hlen : ((b.drop (addrEnd + 1)).take (addrEnd + 1 + 32 - (addrEnd + 1))).length = 32 := by
      rw [List.length_take, List.length_drop]
      omega
    rw [getRange_of_le (by omega) (Nat.not_lt.mp hkeyEnd), Option.bind_some, toArr,
      dif_pos hlen] at hnone
    cases hnone
  rcases h with ⟨-, rfl⟩ | ⟨separator, hfound, h⟩
  · exact hfpSeparator rfl
  have hpast : addrEnd + 1 + 32 < b.length := (List.getElem?_eq_some_iff.mp hfound).1
  rcases h with ⟨-, rfl⟩ | ⟨-, -, h⟩
  · exact hfpSeparator rfl
  rcases h with ⟨hnone, -⟩ | ⟨fpBytes, -, h⟩
  · rw [getRange_of_le hpast (Nat.le_refl _)] at hnone
    cases hnone
  rcases h with ⟨-, rfl⟩ | ⟨fingerprint, -, h⟩
  · exact hutf8 rfl
  rcases h with ⟨-, rfl⟩ | ⟨addr, -, h⟩
  · exact haddrParse rfl
  · cases h

/-- **The EXTEND payload format is unambiguous.** Both roles read the three parts of every
payload back. Of any other bytes, they accept the same ones with the same parts, exactly the
payloads of some address without NULs that parses, and neither ever reads out of range. -/
theorem extend_format (A : AddrSyntax) (role : HopRole)
    (hrole : role = entryRole ∨ role = middleRole A) :
    (∀ (addrStr : String) (addr : SocketAddr) (clientPublic : ByteArr 32) (fingerprint : String),
      (0 : UInt8) ∉ asBytes addrStr → A.parse addrStr = some addr →
      parseExtend A role (extendPayload addrStr clientPublic fingerprint) =
        .ok { addrStr, addr, clientPublic, fingerprint }) ∧
      ∀ b : Bytes,
        (∀ request, parseExtend A role b = .ok request ↔
          b = extendPayload request.addrStr request.clientPublic request.fingerprint ∧
            (0 : UInt8) ∉ asBytes request.addrStr ∧
            A.parse request.addrStr = some request.addr) ∧
        (∀ request, parseExtend A entryRole b = .ok request ↔
          parseExtend A (middleRole A) b = .ok request) ∧
        ∀ e ∈ role.rangeErrors, parseExtend A role b ≠ .error e := by
  have hiff : ∀ (role : HopRole) (b : Bytes) (request : ExtendRequest),
      parseExtend A role b = .ok request ↔
        b = extendPayload request.addrStr request.clientPublic request.fingerprint ∧
          (0 : UInt8) ∉ asBytes request.addrStr ∧ A.parse request.addrStr = some request.addr := by
    intro role b request
    constructor
    · exact parseExtend_eq_ok
    · rintro ⟨rfl, hnul, hparse⟩
      exact parseExtend_extendPayload A hparse hnul
  refine ⟨fun addrStr addr clientPublic fingerprint hnul hparse =>
    parseExtend_extendPayload A hparse hnul, fun b => ⟨hiff role b, fun request => ?_,
    parseExtend_inRange hrole⟩⟩
  rw [hiff, hiff]

/-- A key full of NULs is read back by the entry. -/
theorem extend_format_nulKey :
    parseExtend .ipv4 entryRole
        (extendPayload "127.0.0.1:9002" (List.Vector.replicate 32 0) "ab") =
      .ok { addrStr := "127.0.0.1:9002", addr := .v4 ⟨[127, 0, 0, 1], rfl⟩ 9002,
            clientPublic := List.Vector.replicate 32 0, fingerprint := "ab" } :=
  (extend_format .ipv4 entryRole (.inl rfl)).1 _ _ _ _ (by decide +kernel) (by decide +kernel)

end MiniTor
