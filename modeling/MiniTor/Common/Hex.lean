import MiniTor.Common.Protocol
import MiniTor.Common.Text

/-!
# Public keys in hexadecimal (`common/src/types.rs`)

`PublicKey::from_hex` takes 32 slices of two bytes and hands each to
`u8::from_str_radix`; `to_hex` prints two lower-case digits a byte.

- `strGet`, `u8FromStrRadix16`: what the standard library does with a slice whose ends are
  no character boundaries, and with a sign.
- `PublicKey.fromHex_ok_iff`: the slices read the characters two at a time, where the first
  of two may be a `+` (`readPair`).
- `PublicKey.fromHex_exact_iff`: so exactly the strings with such a `+` are accepted without
  being 64 hexadecimal digits.
-/

namespace MiniTor

open Theory

/-! ## The standard library -/

/-- `str::is_char_boundary`, on the bytes of the string. -/
def isCharBoundary (bytes : Bytes) (index : Nat) : Bool :=
  index == 0 ||
    match bytes[index]? with
    | some byte => byte < 0x80 || 0xC0 ≤ byte
    | none => index == bytes.length

/-- `str::get(i..j)`, as the bytes of the slice. -/
def strGet (s : String) (i j : Nat) : Option Bytes :=
  let bytes := asBytes s
  if i ≤ j ∧ isCharBoundary bytes i = true ∧ isCharBoundary bytes j = true then
    some ((bytes.drop i).take (j - i))
  else none

/-- The kinds of `ParseIntError` an unsigned number can fail with. -/
inductive IntErrorKind
  | empty
  | invalidDigit
  | posOverflow
  deriving DecidableEq, Repr

/-- Its `Display` text. -/
def IntErrorKind.text : IntErrorKind → String
  | empty => "cannot parse integer from empty string"
  | invalidDigit => "invalid digit found in string"
  | posOverflow => "number too large to fit in target type"

/-- `u8 as char`. -/
def byteChar (byte : UInt8) : Char := Char.ofNat byte.toNat

/-- `char::to_digit(16)`: `0` to `9`, `a` to `f` and `A` to `F`. -/
def toDigit16 (c : Char) : Option Nat :=
  let n := c.toNat
  if 48 ≤ n ∧ n ≤ 57 then some (n - 48)
  else if 97 ≤ n ∧ n ≤ 102 then some (n - 97 + 10)
  else if 65 ≤ n ∧ n ≤ 70 then some (n - 65 + 10)
  else none

/-- The digit loop of `from_str_radix`. -/
def readDigits16 (result : Nat) : Bytes → Except IntErrorKind UInt8
  | [] => .ok (UInt8.ofNat result)
  | byte :: rest => do
    let digit ← okOr (toDigit16 (byteChar byte)) .invalidDigit
    failIf (255 < result * 16 + digit) .posOverflow
    readDigits16 (result * 16 + digit) rest

/-- `u8::from_str_radix(src, 16)`: a leading `+` (43) is skipped, a `-` (45) is no digit. -/
def u8FromStrRadix16 : Bytes → Except IntErrorKind UInt8
  | [] => .error .empty
  | [43] | [45] => .error .invalidDigit
  | 43 :: digits => readDigits16 0 digits
  | digits => readDigits16 0 digits

/-- `format!("{:02x}", byte)`. -/
def byteHex (byte : UInt8) : List Char :=
  [Nat.digitChar (byte.toNat / 16), Nat.digitChar (byte.toNat % 16)]

namespace PublicKey

/-! ## The conversions -/

/-- One turn of the loop of `from_hex`. -/
def hexByte (hex : String) (i : Nat) : Except String UInt8 := do
  let hexSlice ← okOr (strGet hex (i * 2) (i * 2 + 2))
    ("Invalid hex slice at position " ++ toString i)
  match u8FromStrRadix16 hexSlice with
  | .ok byte => .ok byte
  | .error e => .error ("Invalid hex: " ++ e.text)

def fromHex (hex : String) : Except String PublicKey := do
  failIf ((asBytes hex).length ≠ 64) "Hex string must be 64 characters (32 bytes)"
  let bytes ← List.Vector.mOfFn fun i : Fin 32 => hexByte hex i
  return ⟨bytes⟩

def toHex (pk : PublicKey) : String := String.ofList (pk.bytes.toList.flatMap byteHex)

end PublicKey

/-! ## ASCII strings -/

/-- An ASCII string is its bytes read as characters. -/
theorem asBytes_eq_map {s : String} (h : ∀ c ∈ s.toList, c.toNat < 128) :
    asBytes s = s.toList.map fun c => UInt8.ofNat c.toNat := by
  have hbytes : asBytes s = s.toList.flatMap String.utf8EncodeChar := by
    rw [asBytes, ← String.utf8Encode_toList, List.utf8Encode]
    simp
  rw [hbytes, ← List.flatMap_singleton' (s.toList.map _), List.flatMap_map]
  refine List.flatMap_congr fun c hc => ?_
  have hval : c.val ≤ 127 := UInt32.le_iff_toNat_le.mpr (Nat.le_of_lt_succ (h c hc))
  rw [String.utf8EncodeChar_eq_singleton (Char.utf8Size_eq_one_iff.mpr hval)]
  rfl

@[simp] theorem toNat_byteChar (byte : UInt8) : (byteChar byte).toNat = byte.toNat := by
  have hlt := byte.toNat_lt
  rw [byteChar, Char.ofNat, dif_pos (.inl (by omega))]
  rfl

/-- Bytes below 128 are the characters of their string. -/
theorem toList_eq_map {s : String} (h : ∀ byte ∈ asBytes s, byte.toNat < 128) :
    s.toList = (asBytes s).map byteChar := by
  have hchars : ∀ c ∈ (String.ofList ((asBytes s).map byteChar)).toList, c.toNat < 128 := by
    intro c hc
    rw [String.toList_ofList] at hc
    obtain ⟨byte, hbyte, rfl⟩ := List.mem_map.mp hc
    rw [toNat_byteChar]
    exact h byte hbyte
  have hsame : asBytes (String.ofList ((asBytes s).map byteChar)) = asBytes s := by
    rw [asBytes_eq_map hchars, String.toList_ofList, List.map_map]
    refine List.map_id'' (fun byte => ?_) _
    rw [Function.comp_apply, toNat_byteChar, UInt8.ofNat_toNat]
  have hs := fromUtf8_asBytes (String.ofList ((asBytes s).map byteChar))
  rw [hsame, fromUtf8_asBytes] at hs
  rw [← String.toList_ofList (l := (asBytes s).map byteChar), ← Option.some.inj hs]

/-- Between ASCII characters every index is a boundary. -/
theorem isCharBoundary_ascii {bytes : Bytes} (h : ∀ byte ∈ bytes, byte.toNat < 128) {index : Nat}
    (hle : index ≤ bytes.length) : isCharBoundary bytes index = true := by
  rw [isCharBoundary, Bool.or_eq_true]
  right
  cases hbyte : bytes[index]? with
  | none =>
    have hge := List.getElem?_eq_none_iff.mp hbyte
    exact beq_iff_eq.mpr (by omega)
  | some byte =>
    have hlt := h byte (List.mem_of_getElem? hbyte)
    exact Bool.or_eq_true_iff.mpr (.inl (decide_eq_true (UInt8.lt_iff_toNat_lt.mpr hlt)))

/-! ## Hexadecimal digits -/

/-- The hexadecimal digits, of either case. -/
def hexDigits : List Char := "0123456789abcdefABCDEF".toList

theorem toDigit16_lt {c : Char} {digit : Nat} (h : toDigit16 c = some digit) : digit < 16 := by
  unfold toDigit16 at h
  dsimp only at h
  split_ifs at h
  all_goals
    cases h
    omega

/-- A hexadecimal digit has a value, which prints as the digit in lower case. -/
theorem digitChar_toDigit16 :
    ∀ c ∈ hexDigits, (toDigit16 c).map Nat.digitChar = some c.toLower := by
  have hall : hexDigits.all fun c => (toDigit16 c).map Nat.digitChar == some c.toLower := by decide
  exact fun c hc => eq_of_beq (List.all_eq_true.mp hall c hc)

theorem mem_hexDigits_of_toDigit16 {c : Char} {digit : Nat} (h : toDigit16 c = some digit) :
    c ∈ hexDigits := by
  have hcode : ∀ n < 103, (toDigit16 (Char.ofNat n)).isSome = true → Char.ofNat n ∈ hexDigits := by
    decide
  have hlt : c.toNat < 103 := by
    unfold toDigit16 at h
    dsimp only at h
    split_ifs at h
    all_goals omega
  have hmem := hcode c.toNat hlt
  rw [Char.ofNat_toNat, h] at hmem
  exact hmem rfl

theorem toDigit16_eq_some_iff (c : Char) : (∃ digit, toDigit16 c = some digit) ↔ c ∈ hexDigits := by
  constructor
  · rintro ⟨digit, hdigit⟩
    exact mem_hexDigits_of_toDigit16 hdigit
  · intro hc
    obtain ⟨digit, hdigit, -⟩ := Option.map_eq_some_iff.mp (digitChar_toDigit16 c hc)
    exact ⟨digit, hdigit⟩

/-- What a slice of two characters is read as. -/
def readPair (a b : Char) : Option Nat :=
  if a = '+' then toDigit16 b
  else (toDigit16 a).bind fun high => (toDigit16 b).map fun low => high * 16 + low

theorem readPair_le {a b : Char} {n : Nat} (h : readPair a b = some n) : n ≤ 255 := by
  unfold readPair at h
  split_ifs at h
  · have hlt := toDigit16_lt h
    omega
  · obtain ⟨high, hhigh, hmap⟩ := Option.bind_eq_some_iff.mp h
    obtain ⟨low, hlow, rfl⟩ := Option.map_eq_some_iff.mp hmap
    have hlt := toDigit16_lt hhigh
    have hlt' := toDigit16_lt hlow
    omega

/-- Two digits, or a sign and a digit. -/
theorem readPair_eq_some_iff (a b : Char) :
    (∃ n, readPair a b = some n) ↔ (a = '+' ∨ a ∈ hexDigits) ∧ b ∈ hexDigits := by
  rw [← toDigit16_eq_some_iff, ← toDigit16_eq_some_iff, readPair]
  by_cases ha : a = '+'
  · rw [if_pos ha]
    exact ⟨fun h => ⟨.inl ha, h⟩, fun h => h.2⟩
  · rw [if_neg ha]
    constructor
    · rintro ⟨n, hn⟩
      obtain ⟨high, hhigh, hmap⟩ := Option.bind_eq_some_iff.mp hn
      obtain ⟨low, hlow, -⟩ := Option.map_eq_some_iff.mp hmap
      exact ⟨.inr ⟨high, hhigh⟩, low, hlow⟩
    · rintro ⟨hsign | ⟨high, hhigh⟩, low, hlow⟩
      · exact absurd hsign ha
      · exact ⟨high * 16 + low, by rw [hhigh, hlow]; rfl⟩

/-- What two digits are read as prints as the two digits in lower case. -/
theorem byteHex_readPair {a b : Char} {n : Nat} (ha : a ∈ hexDigits) (h : readPair a b = some n) :
    byteHex (UInt8.ofNat n) = [a.toLower, b.toLower] := by
  have hsign : a ≠ '+' := by
    rintro rfl
    exact absurd ha (by decide)
  have hb : b ∈ hexDigits := ((readPair_eq_some_iff a b).mp ⟨n, h⟩).2
  have hle := readPair_le h
  rw [readPair, if_neg hsign] at h
  obtain ⟨high, hhigh, hmap⟩ := Option.bind_eq_some_iff.mp h
  obtain ⟨low, hlow, rfl⟩ := Option.map_eq_some_iff.mp hmap
  have hlt := toDigit16_lt hlow
  have ha' := digitChar_toDigit16 a ha
  have hb' := digitChar_toDigit16 b hb
  rw [hhigh, Option.map_some, Option.some.injEq] at ha'
  rw [hlow, Option.map_some, Option.some.injEq] at hb'
  have hnat : (UInt8.ofNat (high * 16 + low)).toNat = high * 16 + low :=
    UInt8.toNat_ofNat_of_lt' (by rw [UInt8.size]; omega)
  have hdiv : (high * 16 + low) / 16 = high := by omega
  have hmod : (high * 16 + low) % 16 = low := by omega
  rw [byteHex, hnat, hdiv, hmod, ha', hb']

theorem readDigits16_singleton (result : Nat) (byte value : UInt8) :
    readDigits16 result [byte] = .ok value ↔
      ∃ digit, toDigit16 (byteChar byte) = some digit ∧ result * 16 + digit ≤ 255 ∧
        UInt8.ofNat (result * 16 + digit) = value := by
  simp only [readDigits16, bind_eq_ok, okOr_eq_ok, failIf_eq_ok, Except.ok.injEq, Nat.not_lt,
    exists_const]

theorem byteChar_eq_plus_iff (byte : UInt8) : byteChar byte = '+' ↔ byte = 43 := by
  rw [← Char.toNat_inj, toNat_byteChar, ← UInt8.toNat_inj]
  rfl

/-- A slice of two bytes is read as its two characters are. -/
theorem u8FromStrRadix16_pair (a b value : UInt8) :
    u8FromStrRadix16 [a, b] = .ok value ↔
      readPair (byteChar a) (byteChar b) = some value.toNat := by
  have hofNat : ∀ {n : Nat}, n ≤ 255 → (UInt8.ofNat n = value ↔ n = value.toNat) := by
    intro n hle
    rw [← UInt8.toNat_inj, UInt8.toNat_ofNat_of_lt' (by rw [UInt8.size]; omega)]
  by_cases ha : a = 43
  · have hread : u8FromStrRadix16 [a, b] = readDigits16 0 [b] := by
      subst ha
      rfl
    rw [hread, readDigits16_singleton, readPair, if_pos ((byteChar_eq_plus_iff a).mpr ha)]
    constructor
    · rintro ⟨digit, hdigit, hle, hvalue⟩
      rw [hdigit, ← (hofNat hle).mp hvalue, Nat.zero_mul, Nat.zero_add]
    · intro hdigit
      have hlt := toDigit16_lt hdigit
      exact ⟨value.toNat, hdigit, by omega, (hofNat (by omega)).mpr (by omega)⟩
  · have hread : u8FromStrRadix16 [a, b] = readDigits16 0 [a, b] := by
      unfold u8FromStrRadix16
      split
      · next heq => cases heq
      · next heq => cases heq
      · next heq => cases heq
      · next heq => exact absurd (List.cons.inj heq).1 ha
      · rfl
    rw [hread, readDigits16, bind_eq_ok, readPair,
      if_neg (mt (byteChar_eq_plus_iff a).mp ha)]
    constructor
    · rintro ⟨high, hhigh, htail⟩
      obtain ⟨-, -, hlow⟩ := bind_eq_ok.mp htail
      obtain ⟨low, hlow, hle, hvalue⟩ := (readDigits16_singleton _ b value).mp hlow
      rw [okOr_eq_ok.mp hhigh, hlow, Option.bind_some, Option.map_some, ← (hofNat hle).mp hvalue,
        Nat.zero_mul, Nat.zero_add]
    · intro hpair
      obtain ⟨high, hhigh, hmap⟩ := Option.bind_eq_some_iff.mp hpair
      obtain ⟨low, hlow, hvalue⟩ := Option.map_eq_some_iff.mp hmap
      have hlt := toDigit16_lt hhigh
      have hlt' := toDigit16_lt hlow
      refine ⟨high, okOr_eq_ok.mpr hhigh, bind_eq_ok.mpr ⟨(), failIf_neg (by omega), ?_⟩⟩
      exact (readDigits16_singleton _ b value).mpr
        ⟨low, hlow, by omega, (hofNat (by omega)).mpr (by omega)⟩

/-! ## What is accepted -/

/-- Characters read two at a time. -/
def readPairs : List Char → Option Bytes
  | [] => some []
  | [_] => none
  | a :: b :: rest => do
    let n ← readPair a b
    let bytes ← readPairs rest
    return UInt8.ofNat n :: bytes

theorem readPairs_cons {a b : Char} {rest : List Char} {bytes : Bytes} :
    readPairs (a :: b :: rest) = some bytes ↔
      ∃ n tail, readPair a b = some n ∧ readPairs rest = some tail ∧
        UInt8.ofNat n :: tail = bytes := by
  rw [readPairs]
  constructor
  · intro h
    obtain ⟨n, hn, htail⟩ := Option.bind_eq_some_iff.mp h
    obtain ⟨tail, htail, heq⟩ := Option.bind_eq_some_iff.mp htail
    exact ⟨n, tail, hn, htail, Option.some.inj heq⟩
  · rintro ⟨n, tail, hn, htail, rfl⟩
    rw [hn, htail]
    rfl

/-- The list is read place by place. -/
theorem readPairs_eq_some_iff :
    ∀ {cs : List Char} {bytes : Bytes}, readPairs cs = some bytes ↔
      cs.length = bytes.length * 2 ∧ ∀ (i : Nat) (hi : i < bytes.length), ∃ a b,
        cs[i * 2]? = some a ∧ cs[i * 2 + 1]? = some b ∧ readPair a b = some bytes[i].toNat
  | [], bytes => by
    constructor
    · intro h
      cases h
      exact ⟨rfl, fun i hi => absurd hi (Nat.not_lt_zero i)⟩
    · rintro ⟨hlen, -⟩
      rw [List.length_nil] at hlen
      rw [List.eq_nil_of_length_eq_zero (l := bytes) (by omega)]
      rfl
  | [c], bytes => by
    constructor
    · exact fun h => nomatch h
    · rintro ⟨hlen, -⟩
      rw [List.length_singleton] at hlen
      omega
  | a :: b :: rest, bytes => by
    rw [readPairs_cons]
    constructor
    · rintro ⟨n, tail, hn, htail, rfl⟩
      obtain ⟨hlen, hplaces⟩ := readPairs_eq_some_iff.mp htail
      refine ⟨by simp only [List.length_cons]; omega, fun i hi => ?_⟩
      cases i with
      | zero =>
        have hvalue : (UInt8.ofNat n).toNat = n :=
          UInt8.toNat_ofNat_of_lt' (by rw [UInt8.size]; have := readPair_le hn; omega)
        exact ⟨a, b, rfl, rfl, by rw [List.getElem_cons_zero, hvalue, hn]⟩
      | succ i =>
        have hi' : i < tail.length := Nat.lt_of_succ_lt_succ hi
        obtain ⟨a', b', ha, hb, hpair⟩ := hplaces i hi'
        have htwo : (i + 1) * 2 = i * 2 + 1 + 1 := by omega
        exact ⟨a', b', by rw [htwo]; exact ha, by rw [htwo]; exact hb, hpair⟩
    · rintro ⟨hlen, hplaces⟩
      cases bytes with
      | nil =>
        simp only [List.length_cons, List.length_nil] at hlen
        omega
      | cons value tail =>
        obtain ⟨a', b', ha, hb, hpair⟩ := hplaces 0 (Nat.zero_lt_succ _)
        cases ha
        cases hb
        refine ⟨value.toNat, tail, hpair, readPairs_eq_some_iff.mpr ⟨?_, fun i hi => ?_⟩, ?_⟩
        · simp only [List.length_cons] at hlen
          omega
        · obtain ⟨a', b', ha, hb, hpair⟩ := hplaces (i + 1) (Nat.succ_lt_succ hi)
          have htwo : (i + 1) * 2 = i * 2 + 1 + 1 := by omega
          rw [htwo] at ha hb
          exact ⟨a', b', ha, hb, hpair⟩
        · rw [UInt8.ofNat_toNat]

/-- Everything read is a digit or a sign. -/
theorem mem_of_readPairs :
    ∀ {cs : List Char} {bytes : Bytes}, readPairs cs = some bytes →
      ∀ c ∈ cs, c = '+' ∨ c ∈ hexDigits
  | [], _, _, c, hc => absurd hc List.not_mem_nil
  | [_], _, h, _, _ => nomatch h
  | a :: b :: rest, bytes, h, c, hc => by
    obtain ⟨n, tail, hn, htail, -⟩ := readPairs_cons.mp h
    have hpair := (readPair_eq_some_iff a b).mp ⟨n, hn⟩
    rcases List.mem_cons.mp hc with rfl | hc
    · exact hpair.1
    · rcases List.mem_cons.mp hc with rfl | hc
      · exact .inr hpair.2
      · exact mem_of_readPairs htail c hc

theorem toNat_lt_of_hexChar {c : Char} (h : c = '+' ∨ c ∈ hexDigits) : c.toNat < 128 := by
  rcases h with rfl | hc
  · decide
  · have hascii : hexDigits.all fun c => decide (c.toNat < 128) := by decide
    exact of_decide_eq_true (List.all_eq_true.mp hascii c hc)

/-- Pairs that can be read are read. -/
theorem readPairs_isSome :
    ∀ {cs : List Char} {k : Nat}, cs.length = k * 2 →
      (∀ (i : Nat) (a b : Char), cs[i * 2]? = some a → cs[i * 2 + 1]? = some b →
        (a = '+' ∨ a ∈ hexDigits) ∧ b ∈ hexDigits) →
      ∃ bytes, readPairs cs = some bytes
  | [], _, _, _ => ⟨[], rfl⟩
  | [_], k, hlen, _ => by
    rw [List.length_singleton] at hlen
    omega
  | a :: b :: rest, k, hlen, hgroups => by
    have hlen' : rest.length = (k - 1) * 2 := by
      simp only [List.length_cons] at hlen
      omega
    obtain ⟨n, hn⟩ := (readPair_eq_some_iff a b).mpr (hgroups 0 a b rfl rfl)
    obtain ⟨tail, htail⟩ := readPairs_isSome hlen' fun i a' b' ha hb => by
      have htwo : (i + 1) * 2 = i * 2 + 1 + 1 := by omega
      exact hgroups (i + 1) a' b' (by rw [htwo]; exact ha) (by rw [htwo]; exact hb)
    exact ⟨_, readPairs_cons.mpr ⟨n, tail, hn, htail, rfl⟩⟩

/-- What digits are read as prints as them in lower case. -/
theorem flatMap_byteHex_readPairs :
    ∀ {cs : List Char} {bytes : Bytes}, readPairs cs = some bytes →
      (∀ c ∈ cs, c ∈ hexDigits) → bytes.flatMap byteHex = cs.map Char.toLower
  | [], _, h, _ => by
    cases h
    rfl
  | [_], _, h, _ => nomatch h
  | a :: b :: rest, bytes, h, hdigits => by
    obtain ⟨n, tail, hn, htail, rfl⟩ := readPairs_cons.mp h
    obtain ⟨ha, hb, hrest⟩ : a ∈ hexDigits ∧ b ∈ hexDigits ∧ ∀ c ∈ rest, c ∈ hexDigits := by
      simpa only [List.forall_mem_cons] using hdigits
    rw [List.flatMap_cons, byteHex_readPair ha hn, flatMap_byteHex_readPairs htail hrest]
    rfl

namespace PublicKey

/-- One turn succeeds if the slice ends at boundaries and its two characters are read. -/
theorem hexByte_eq_ok_iff {hex : String} {i : Nat} (hlen : i * 2 + 1 < (asBytes hex).length)
    (value : UInt8) :
    hexByte hex i = .ok value ↔
      isCharBoundary (asBytes hex) (i * 2) = true ∧
        isCharBoundary (asBytes hex) (i * 2 + 2) = true ∧
          readPair (byteChar (asBytes hex)[i * 2]) (byteChar (asBytes hex)[i * 2 + 1]) =
            some value.toNat := by
  have hslice : ((asBytes hex).drop (i * 2)).take 2 =
      [(asBytes hex)[i * 2], (asBytes hex)[i * 2 + 1]] := by
    rw [List.drop_eq_getElem_cons (by omega), List.drop_eq_getElem_cons hlen]
    rfl
  rw [← u8FromStrRadix16_pair, ← hslice, hexByte, bind_eq_ok]
  simp only [okOr_eq_ok, strGet]
  have hsub : i * 2 + 2 - i * 2 = 2 := by omega
  constructor
  · rintro ⟨slice, hget, hparse⟩
    split_ifs at hget with hbounds
    cases hget
    refine ⟨hbounds.2.1, hbounds.2.2, ?_⟩
    rw [hsub] at hparse
    split at hparse
    · next byte hbyte =>
      cases hparse
      exact hbyte
    · cases hparse
  · rintro ⟨hstart, hend, hparse⟩
    refine ⟨_, if_pos ⟨by omega, hstart, hend⟩, ?_⟩
    rw [hsub, hparse]

/-- The loop succeeds if each of its 32 turns does. -/
theorem fromHex_turns (hex : String) (pk : PublicKey) :
    fromHex hex = .ok pk ↔
      (asBytes hex).length = 64 ∧ ∀ i : Fin 32, hexByte hex i = .ok (pk.bytes.get i) := by
  rw [fromHex, bind_eq_ok, ← mOfFn_eq_ok]
  constructor
  · rintro ⟨_, hcount, htail⟩
    obtain ⟨bytes, hbytes, heq⟩ := bind_eq_ok.mp htail
    cases heq
    exact ⟨not_ne_iff.mp (failIf_eq_ok.mp hcount), hbytes⟩
  · rintro ⟨hcount, hbytes⟩
    exact ⟨(), failIf_neg (not_ne_iff.mpr hcount), bind_eq_ok.mpr ⟨pk.bytes, hbytes, rfl⟩⟩

/-- **What `from_hex` accepts**: 32 pairs of characters, each two digits or a sign and a
digit, which are the bytes of the key. -/
theorem fromHex_ok_iff (hex : String) (pk : PublicKey) :
    fromHex hex = .ok pk ↔ hex.toList.length = 64 ∧ readPairs hex.toList = some pk.bytes.toList := by
  have hkey : pk.bytes.toList.length = 32 := pk.bytes.toList_length
  have hget : ∀ (i : Nat) (hi : i < pk.bytes.toList.length) (hi' : i < 32),
      pk.bytes.get ⟨i, hi'⟩ = pk.bytes.toList[i] := fun i hi hi' => by
    rw [List.Vector.get_eq_get_toList]
    rfl
  rw [fromHex_turns]
  constructor
  · rintro ⟨hlen, hturns⟩
    have hpairs : ∀ (i : Nat) (hi : i < 32),
        readPair (byteChar (asBytes hex)[i * 2]) (byteChar (asBytes hex)[i * 2 + 1]) =
          some (pk.bytes.get ⟨i, hi⟩).toNat := fun i hi =>
      ((hexByte_eq_ok_iff (by omega) _).mp (hturns ⟨i, hi⟩)).2.2
    have hbytes : ∀ byte ∈ asBytes hex, byte.toNat < 128 := by
      intro byte hbyte
      obtain ⟨j, hj, rfl⟩ := List.mem_iff_getElem.mp hbyte
      have hpair := (readPair_eq_some_iff _ _).mp ⟨_, hpairs (j / 2) (by omega)⟩
      -- the byte is the first or the second of its pair
      rcases Nat.mod_two_eq_zero_or_one j with hmod | hmod
      · have hfirst := toNat_lt_of_hexChar hpair.1
        have hj' : j / 2 * 2 = j := by omega
        simpa only [toNat_byteChar, hj'] using hfirst
      · have hsecond := toNat_lt_of_hexChar (.inr hpair.2)
        have hj' : j / 2 * 2 + 1 = j := by omega
        simpa only [toNat_byteChar, hj'] using hsecond
    rw [toList_eq_map hbytes, List.length_map, readPairs_eq_some_iff, List.length_map]
    refine ⟨hlen, by omega, fun i hi => ⟨_, _, ?_, ?_, hget i hi (by omega) ▸ hpairs i (by omega)⟩⟩
    · rw [List.getElem?_map, List.getElem?_eq_getElem (by omega)]
      rfl
    · rw [List.getElem?_map, List.getElem?_eq_getElem (by omega)]
      rfl
  · rintro ⟨hlen, hread⟩
    have hchars : ∀ c ∈ hex.toList, c.toNat < 128 := fun c hc =>
      toNat_lt_of_hexChar (mem_of_readPairs hread c hc)
    have hbytes := asBytes_eq_map hchars
    have hcount : (asBytes hex).length = 64 := by rw [hbytes, List.length_map, hlen]
    have hsmall : ∀ byte ∈ asBytes hex, byte.toNat < 128 := by
      intro byte hbyte
      rw [hbytes] at hbyte
      obtain ⟨c, hc, rfl⟩ := List.mem_map.mp hbyte
      have hlt := hchars c hc
      rw [UInt8.toNat_ofNat_of_lt' (by rw [UInt8.size]; omega)]
      exact hlt
    have hplaces := (readPairs_eq_some_iff.mp hread).2
    rw [toList_eq_map hsmall] at hplaces
    refine ⟨hcount, fun i => ?_⟩
    obtain ⟨a, b, ha, hb, hpair⟩ := hplaces i (by omega)
    rw [List.getElem?_map, List.getElem?_eq_getElem (by omega)] at ha hb
    cases ha
    cases hb
    refine (hexByte_eq_ok_iff (by omega) _).mpr
      ⟨isCharBoundary_ascii hsmall (by omega), isCharBoundary_ascii hsmall (by omega), ?_⟩
    rw [hpair, ← hget i (by omega) i.isLt]

/-- 64 hexadecimal digits. -/
def IsHex (s : String) : Prop := s.toList.length = 64 ∧ ∀ c ∈ s.toList, c ∈ hexDigits

/-- 32 groups of two characters, each two hexadecimal digits or a `+` and one. -/
def IsSignedHex (s : String) : Prop :=
  s.toList.length = 64 ∧ ∀ (i : Nat) (a b : Char),
    s.toList[i * 2]? = some a → s.toList[i * 2 + 1]? = some b →
      (a = '+' ∨ a ∈ hexDigits) ∧ b ∈ hexDigits

/-- The characters of such a string. -/
theorem IsSignedHex.mem {s : String} (h : IsSignedHex s) {c : Char} (hc : c ∈ s.toList) :
    c = '+' ∨ c ∈ hexDigits := by
  obtain ⟨bytes, hread⟩ := readPairs_isSome (k := 32) h.1 h.2
  exact mem_of_readPairs hread c hc

/-- Some key is read from exactly these strings. -/
theorem fromHex_isOk_iff (s : String) : (∃ pk, fromHex s = .ok pk) ↔ IsSignedHex s := by
  constructor
  · rintro ⟨pk, hpk⟩
    obtain ⟨hlen, hread⟩ := (fromHex_ok_iff s pk).mp hpk
    obtain ⟨hcount, hplaces⟩ := readPairs_eq_some_iff.mp hread
    refine ⟨hlen, fun i a b ha hb => ?_⟩
    have hi := (List.getElem?_eq_some_iff.mp ha).1
    obtain ⟨a', b', ha', hb', hpair⟩ := hplaces i (by omega)
    rw [ha] at ha'
    rw [hb] at hb'
    cases ha'
    cases hb'
    exact (readPair_eq_some_iff a b).mp ⟨_, hpair⟩
  · rintro ⟨hlen, hgroups⟩
    obtain ⟨bytes, hread⟩ := readPairs_isSome (k := 32) hlen hgroups
    have hcount := (readPairs_eq_some_iff.mp hread).1
    exact ⟨⟨bytes, by omega⟩, (fromHex_ok_iff s _).mpr ⟨hlen, hread⟩⟩

/-- A string of digits is accepted, and what is read from it prints in lower case. -/
theorem toHex_fromHex {s : String} {pk : PublicKey} (hdigits : ∀ c ∈ s.toList, c ∈ hexDigits)
    (h : fromHex s = .ok pk) : pk.toHex = s.toLower := by
  have hread := ((fromHex_ok_iff s pk).mp h).2
  have hprint := flatMap_byteHex_readPairs hread hdigits
  rw [toHex, hprint, String.toLower, ← String.toList_inj, String.toList_ofList, String.toList_map]

/-- **`from_hex` accepts its grammar and the strings with a sign**: what is accepted is
64 hexadecimal digits, and prints as them, unless one of its 32 groups starts with a `+`. -/
theorem fromHex_exact_iff (s : String) :
    (((∃ pk, fromHex s = .ok pk) ↔ IsHex s) ∧ ∀ pk, fromHex s = .ok pk → pk.toHex = s.toLower) ↔
      ¬(IsSignedHex s ∧ '+' ∈ s.toList) := by
  have hplus : '+' ∉ hexDigits := by decide
  rw [fromHex_isOk_iff]
  constructor
  · rintro ⟨hexact, -⟩ ⟨hsigned, hmem⟩
    exact hplus ((hexact.mp hsigned).2 _ hmem)
  · intro hok
    have hhex : IsSignedHex s ↔ IsHex s := by
      constructor
      · intro hsigned
        refine ⟨hsigned.1, fun c hc => (hsigned.mem hc).resolve_left ?_⟩
        rintro rfl
        exact hok ⟨hsigned, hc⟩
      · rintro ⟨hlen, hdigits⟩
        exact ⟨hlen, fun i a b ha hb => ⟨.inr (hdigits a (List.mem_of_getElem? ha)),
          hdigits b (List.mem_of_getElem? hb)⟩⟩
    refine ⟨hhex, fun pk hpk => toHex_fromHex ?_ hpk⟩
    exact (hhex.mp ((fromHex_isOk_iff s).mp ⟨pk, hpk⟩)).2

/-- 32 groups `+f` are accepted. -/
theorem fromHex_signed : ¬∀ s, (∃ pk, fromHex s = .ok pk) ↔ IsHex s := by
  intro h
  have hlist : (String.ofList (List.replicate 32 ['+', 'f']).flatten).toList =
      (List.replicate 32 ['+', 'f']).flatten := String.toList_ofList
  have hhex := (h (String.ofList (List.replicate 32 ['+', 'f']).flatten)).mp
    ⟨⟨List.Vector.replicate 32 15⟩, (fromHex_ok_iff _ _).mpr
      ⟨by rw [hlist]; rfl, by rw [hlist]; decide⟩⟩
  have hmem := hhex.2 '+' (by rw [hlist]; decide)
  exact absurd hmem (by decide)

end PublicKey

end MiniTor
