import MiniTor.Common.Protocol

/-!
# The cell codec, in both directions

Any 514 bytes split into the fields of a cell (`exists_layout`), so what decodes
is read off the fields: the length field, the command byte and the payload length
decide (`fromBytes_ok_iff`), and the decoded message written out again, with the
filler of the cell it came from, is that cell (`toBytes_of_fromBytes`).
-/

namespace MiniTor

open Theory

/-! ## Fields -/

/-- Four bytes are the big-endian number they make. -/
theorem u32ToBeBytes_fromBeBytes {b : Bytes} (h : b.length = 4) :
    u32ToBeBytes (u32FromBeBytes b) = b := by
  match b, h with
  | [w, x, y, z], _ =>
    have hw := w.toNat_lt
    have hx := x.toNat_lt
    have hy := y.toNat_lt
    have hz := z.toNat_lt
    have hnum : (u32FromBeBytes [w, x, y, z]).toNat =
        w.toNat * 2 ^ 24 + x.toNat * 2 ^ 16 + y.toNat * 2 ^ 8 + z.toNat := by
      rw [u32FromBeBytes, UInt32.toNat_ofNat']
      omega
    have hbytes : ∀ n : Nat, ∀ v : UInt8, n = v.toNat → UInt8.ofNat n = v := by
      rintro n v rfl
      exact UInt8.ofNat_toNat
    rw [u32ToBeBytes, hnum]
    rw [hbytes _ w (by omega), hbytes _ x (by omega), hbytes _ y (by omega), hbytes _ z (by omega)]

/-- Two bytes are the big-endian number they make. -/
theorem u16ToBeBytes_fromBeBytes {b : Bytes} (h : b.length = 2) :
    u16ToBeBytes (u16FromBeBytes b) = b := by
  match b, h with
  | [y, z], _ =>
    have hy := y.toNat_lt
    have hz := z.toNat_lt
    have hnum : (u16FromBeBytes [y, z]).toNat = y.toNat * 2 ^ 8 + z.toNat := by
      rw [u16FromBeBytes, UInt16.toNat_ofNat']
      omega
    have hbytes : ∀ n : Nat, ∀ v : UInt8, n = v.toNat → UInt8.ofNat n = v := by
      rintro n v rfl
      exact UInt8.ofNat_toNat
    rw [u16ToBeBytes, hnum]
    rw [hbytes _ y (by omega), hbytes _ z (by omega)]

/-- A command byte is the code of the command it decodes to. -/
theorem MessageCommand.fromU8_eq_ok {v : UInt8} {c : MessageCommand} :
    fromU8 v = .ok c ↔ v = c.toU8 := by
  constructor
  · intro h
    unfold fromU8 at h
    split at h
    all_goals cases h
    all_goals rfl
  · rintro rfl
    exact fromU8_toU8 c

namespace Message

/-- **Every 514 bytes are laid out as a cell.** -/
theorem exists_layout {b : Bytes} (h : CELL_SIZE ≤ b.length) :
    ∃ (L C S : Bytes) (c : UInt8) (K : Bytes) (digest : ByteArr 4) (body : Bytes),
      b = L ++ (C ++ (S ++ ([c] ++ (K ++ (digest.toList ++ body))))) ∧
        L.length = 4 ∧ C.length = 4 ∧ S.length = 2 ∧ K.length = 2 ∧
        MAX_PAYLOAD_SIZE ≤ body.length := by
  have hcell : CELL_SIZE = 514 := rfl
  have hmax : MAX_PAYLOAD_SIZE = 497 := rfl
  have hcommand : 10 < b.length := by omega
  let digest : ByteArr 4 := ⟨(b.drop 13).take 4, by
    rw [List.length_take, List.length_drop]
    omega⟩
  refine ⟨b.take 4, (b.drop 4).take 4, (b.drop 8).take 2, b[10], (b.drop 11).take 2, digest,
    b.drop 17, ?_, ?_, ?_, ?_, ?_, ?_⟩
  · -- each field is cut off what the fields before it leave
    have hcut : ∀ i n, b.drop i = (b.drop i).take n ++ b.drop (i + n) := by
      intro i n
      rw [← List.drop_drop, List.take_append_drop]
    have hten : b.drop 10 = [b[10]] ++ b.drop 11 := List.drop_eq_getElem_cons hcommand
    calc b = b.take 4 ++ b.drop 4 := (List.take_append_drop 4 b).symm
      _ = b.take 4 ++ ((b.drop 4).take 4 ++ ((b.drop 8).take 2 ++ b.drop 10)) := by
        rw [← hcut 8 2, ← hcut 4 4]
      _ = b.take 4 ++ ((b.drop 4).take 4 ++ ((b.drop 8).take 2 ++ ([b[10]] ++
            ((b.drop 11).take 2 ++ ((b.drop 13).take 4 ++ b.drop 17))))) := by
        rw [hten, ← hcut 13 4, ← hcut 11 2]
  all_goals simp only [List.length_take, List.length_drop]
  all_goals omega

section Layout

variable {L C S K body : Bytes} {c : UInt8} {digest : ByteArr 4} {m : Message}

/-- What a cell decodes to, when it decodes. -/
theorem fromBytes_eq_ok_of_layout {b : Bytes} (h : Layout b L C S c K digest.toList body)
    (hbody : MAX_PAYLOAD_SIZE ≤ body.length) :
    fromBytes b = .ok m ↔
      (u32FromBeBytes L).toNat = CELL_SIZE - 4 ∧ (u16FromBeBytes K).toNat ≤ MAX_PAYLOAD_SIZE ∧
        c = m.command.toU8 ∧ m.circuitId = u32FromBeBytes C ∧ m.streamId = u16FromBeBytes S ∧
        m.data = body.take (u16FromBeBytes K).toNat ∧ m.digest = digest := by
  rw [h.fromBytes hbody]
  constructor
  · intro hok
    obtain ⟨_, hlength, hok⟩ := bind_eq_ok.mp hok
    obtain ⟨command, hcommand, hok⟩ := bind_eq_ok.mp hok
    obtain ⟨_, hpayloadLen, hok⟩ := bind_eq_ok.mp hok
    rw [failIf_eq_ok] at hlength hpayloadLen
    cases hok
    exact ⟨not_not.mp hlength, Nat.not_lt.mp hpayloadLen, MessageCommand.fromU8_eq_ok.mp hcommand,
      rfl, rfl, rfl, rfl⟩
  · rintro ⟨hlength, hpayloadLen, hcommand, hcircuit, hstream, hdata, hdigest⟩
    rw [failIf_neg (not_not.mpr hlength), MessageCommand.fromU8_eq_ok.mpr hcommand,
      failIf_neg (Nat.not_lt.mpr hpayloadLen), ← hcircuit, ← hstream, ← hdata, ← hdigest]
    rfl

end Layout

/-- The length field, the command byte and the payload length of these bytes are those of a
cell. -/
structure WellFormed (b : Bytes) : Prop where
  size : CELL_SIZE ≤ b.length
  length : (u32FromBeBytes (b.take 4)).toNat = CELL_SIZE - 4
  command : ∃ c : MessageCommand, b[10]? = some c.toU8
  payloadLen : (u16FromBeBytes ((b.drop 11).take 2)).toNat ≤ MAX_PAYLOAD_SIZE

/-- **The bytes that decode** are those whose checked fields are a cell's. -/
theorem fromBytes_ok_iff (b : Bytes) : (∃ m, fromBytes b = .ok m) ↔ WellFormed b := by
  by_cases hsize : CELL_SIZE ≤ b.length
  · obtain ⟨L, C, S, c, K, digest, body, hb, hL, hC, hS, hK, hbody⟩ := exists_layout hsize
    have hlayout : Layout b L C S c K digest.toList body := by
      rw [hb]
      exact layout c hL hC hS hK digest.toList_length
    have hfirst : b.take 4 = L := (getRange_eq_some_iff.mp hlayout.length).2.2
    have hlen : (b.drop 11).take 2 = K := (getRange_eq_some_iff.mp hlayout.payloadLen).2.2
    constructor
    · rintro ⟨m, hm⟩
      obtain ⟨hlength, hpayloadLen, hcommand, -⟩ := (fromBytes_eq_ok_of_layout hlayout hbody).mp hm
      refine ⟨hsize, by rw [hfirst]; exact hlength, ⟨m.command, ?_⟩, by rw [hlen]; exact hpayloadLen⟩
      rw [hlayout.command, hcommand]
    · rintro ⟨-, hlength, ⟨command, hcommand⟩, hpayloadLen⟩
      rw [hfirst] at hlength
      rw [hlen] at hpayloadLen
      rw [hlayout.command] at hcommand
      let m : Message :=
        { circuitId := u32FromBeBytes C
          streamId := u16FromBeBytes S
          command
          data := body.take (u16FromBeBytes K).toNat
          digest }
      exact ⟨m, (fromBytes_eq_ok_of_layout hlayout hbody).mpr
        ⟨hlength, hpayloadLen, Option.some.inj hcommand, rfl, rfl, rfl, rfl⟩⟩
  · constructor
    · rintro ⟨m, hm⟩
      rw [fromBytes, failIf_pos (Nat.not_le.mp hsize)] at hm
      cases hm
    · intro h
      exact absurd h.size hsize

/-- **Re-encoding** what bytes decode to, with their own filler, gives the bytes back. -/
theorem toBytes_of_fromBytes {b : Bytes} {m : Message} (h : fromBytes b = .ok m)
    (padding : Nat → UInt8)
    (hpadding : ∀ i, b[17 + m.data.length + i]? = some (padding i) ∨
      CELL_SIZE ≤ 17 + m.data.length + i) :
    m.toBytes padding = b.take CELL_SIZE := by
  have hsize := ((fromBytes_ok_iff b).mp ⟨m, h⟩).size
  obtain ⟨L, C, S, c, K, digest, body, hb, hL, hC, hS, hK, hbody⟩ := exists_layout hsize
  have hlayout : Layout b L C S c K digest.toList body := by
    rw [hb]
    exact layout c hL hC hS hK digest.toList_length
  obtain ⟨hlength, hpayloadLen, hcommand, hcircuit, hstream, hdata, hdigest⟩ :=
    (fromBytes_eq_ok_of_layout hlayout hbody).mp h
  have hmax : MAX_PAYLOAD_SIZE = 497 := rfl
  have hcell : CELL_SIZE = 514 := rfl
  have hdataLen : m.data.length = (u16FromBeBytes K).toNat := by
    rw [hdata, List.length_take]
    omega
  have hmin : min m.data.length MAX_PAYLOAD_SIZE = (u16FromBeBytes K).toNat := by omega
  -- the filler is what the body holds after the data
  have hfiller : (List.range (MAX_PAYLOAD_SIZE - (u16FromBeBytes K).toNat)).map padding =
      (body.take MAX_PAYLOAD_SIZE).drop (u16FromBeBytes K).toNat := by
    apply List.ext_getElem?
    intro i
    have hbodyAt : b[17 + m.data.length + i]? = body[(u16FromBeBytes K).toNat + i]? := by
      have hfront : (L ++ C ++ S ++ [c] ++ K ++ digest.toList).length = 17 := by
        simp only [List.length_append, hL, hC, hS, hK, List.length_singleton,
          List.Vector.toList_length]
      have hsplit : b = (L ++ C ++ S ++ [c] ++ K ++ digest.toList) ++ body := by
        simp only [hb, List.append_assoc]
      rw [hsplit, List.getElem?_append_right (by omega), hfront, hdataLen]
      congr 1
      omega
    rw [List.getElem?_map, List.getElem?_drop]
    by_cases hi : i < MAX_PAYLOAD_SIZE - (u16FromBeBytes K).toNat
    · have hin : (u16FromBeBytes K).toNat + i < MAX_PAYLOAD_SIZE := by omega
      rw [List.getElem?_range hi, List.getElem?_take_of_lt hin, ← hbodyAt]
      rcases hpadding i with hp | hp
      · rw [hp]
        rfl
      · omega
    · have hout : ¬(u16FromBeBytes K).toNat + i < MAX_PAYLOAD_SIZE := by omega
      rw [List.getElem?_eq_none (by rw [List.length_range]; omega),
        List.getElem?_eq_none (by rw [List.length_take]; omega)]
      rfl
  have hL' : u32ToBeBytes (UInt32.ofNat (CELL_SIZE - 4)) = L := by
    rw [← hlength, UInt32.ofNat_toNat, u32ToBeBytes_fromBeBytes hL]
  have htake : m.data.take (u16FromBeBytes K).toNat =
      (body.take MAX_PAYLOAD_SIZE).take (u16FromBeBytes K).toNat := by
    rw [hdata, List.take_take, List.take_take, Nat.min_self, Nat.min_eq_left hpayloadLen]
  have hbytes : b.take CELL_SIZE =
      L ++ (C ++ (S ++ ([c] ++ (K ++ (digest.toList ++ body.take MAX_PAYLOAD_SIZE))))) := by
    have hfront : (L ++ C ++ S ++ [c] ++ K ++ digest.toList).length = 17 := by
      simp only [List.length_append, hL, hC, hS, hK, List.length_singleton,
        List.Vector.toList_length]
    have hsplit : b = (L ++ C ++ S ++ [c] ++ K ++ digest.toList) ++ body := by
      simp only [hb, List.append_assoc]
    rw [hsplit, List.take_append, hfront, List.take_of_length_le (by omega)]
    simp only [List.append_assoc]
    rfl
  rw [hbytes, toBytes, hmin, hL', hcircuit, hstream, hdigest, UInt16.ofNat_toNat,
    u32ToBeBytes_fromBeBytes hC, u16ToBeBytes_fromBeBytes hS, u16ToBeBytes_fromBeBytes hK, ← hcommand,
    hfiller, htake]
  simp only [List.append_assoc, List.take_append_drop]

/-- **The codec is exact in both directions.** A cell has 514 bytes and decodes, whatever
filler it was made with and whatever follows it, to its message cut to the first 497 bytes of
data. Bytes decode exactly when their checked fields are a cell's, and what they decode to,
encoded with their own filler, is their first 514 bytes. -/
theorem codec_exact :
    (∀ (m : Message) (padding : Nat → UInt8) (rest : Bytes),
      (m.toBytes padding).length = 514 ∧
        fromBytes (m.toBytes padding ++ rest) = .ok { m with data := m.data.take 497 } ∧
        (m.data.length ≤ MAX_PAYLOAD_SIZE → fromBytes (m.toBytes padding ++ rest) = .ok m)) ∧
    ∀ b : Bytes,
      ((∃ m, fromBytes b = .ok m) ↔
        514 ≤ b.length ∧ (u32FromBeBytes (b.take 4)).toNat = 510 ∧
          (∃ c : MessageCommand, b[10]? = some c.toU8) ∧
          (u16FromBeBytes ((b.drop 11).take 2)).toNat ≤ 497) ∧
      ∀ m, fromBytes b = .ok m →
        m.toBytes (fun i => b.getD (17 + m.data.length + i) 0) = b.take 514 := by
  refine ⟨fun m padding rest => ⟨length_toBytes padding m, fromBytes_toBytes padding m rest,
    fun hfits => ?_⟩, fun b => ⟨?_, fun m hm => toBytes_of_fromBytes hm _ fun i => ?_⟩⟩
  · rw [fromBytes_toBytes, truncated_of_le hfits]
  · rw [fromBytes_ok_iff]
    constructor
    · intro h
      exact ⟨h.size, h.length, h.command, h.payloadLen⟩
    · rintro ⟨hsize, hlength, hcommand, hpayloadLen⟩
      exact ⟨hsize, hlength, hcommand, hpayloadLen⟩
  · have hsize := ((fromBytes_ok_iff b).mp ⟨m, hm⟩).size
    by_cases hi : 17 + m.data.length + i < b.length
    · left
      rw [List.getD_eq_getElem?_getD, List.getElem?_eq_getElem hi]
      rfl
    · right
      omega

end Message

end MiniTor
