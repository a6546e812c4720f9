import MiniTor.Common.Crypto
import MiniTor.Common.Error
import MiniTor.Theory.Failing

/-!
# Wire protocol (`common/src/protocol.rs`)

A `Message` travels as a fixed-size cell of 514 bytes:

    length:4 | circuit_id:4 | stream_id:2 | command:1 | payload_len:2 | digest:4 | data | padding

`toBytes` cuts the data at `MAX_PAYLOAD_SIZE` and fills the rest with random
bytes, which the model takes as the parameter `padding`; `fromBytes` checks the
length field, the command byte and the payload length. `fromBytes_toBytes`: a
cell decodes to the message it was made of, whatever the padding.
-/

namespace MiniTor

open Theory

abbrev CircuitId := UInt32

abbrev StreamId := UInt16

/-- Fixed cell size in bytes. -/
def CELL_SIZE : Nat := 514

def HEADER_SIZE : Nat := 11

def PAYLOAD_LEN_SIZE : Nat := 2

def DIGEST_SIZE : Nat := 4

/-- Maximum usable payload per cell (497 bytes). -/
def MAX_PAYLOAD_SIZE : Nat := CELL_SIZE - HEADER_SIZE - PAYLOAD_LEN_SIZE - DIGEST_SIZE

/-- Message commands for the Tor protocol. -/
inductive MessageCommand
  | padding
  | create
  | created
  | extend
  | extended
  | destroy
  | begin
  | connected
  | data
  | «end»
  deriving DecidableEq, Repr

def MessageCommand.toU8 : MessageCommand → UInt8
  | padding => 0x00
  | create => 0x01
  | created => 0x02
  | extend => 0x03
  | extended => 0x04
  | destroy => 0x05
  | begin => 0x10
  | connected => 0x11
  | data => 0x12
  | «end» => 0x13

/-- Lower-case hexadecimal digit. -/
def hexDigit (n : Nat) : Char := "0123456789abcdef".toList.getD n '0'

/-- `{:02x}`. -/
def hexByte (b : UInt8) : String := String.ofList [hexDigit (b.toNat / 16), hexDigit (b.toNat % 16)]

def MessageCommand.fromU8 (value : UInt8) : Except String MessageCommand :=
  match value with
  | 0x00 => .ok padding
  | 0x01 => .ok create
  | 0x02 => .ok created
  | 0x03 => .ok extend
  | 0x04 => .ok extended
  | 0x05 => .ok destroy
  | 0x10 => .ok begin
  | 0x11 => .ok connected
  | 0x12 => .ok data
  | 0x13 => .ok «end»
  | _ => .error ("Unknown message command: 0x" ++ hexByte value)

/-- `{}` of a command. -/
def MessageCommand.display : MessageCommand → String
  | padding => "PADDING"
  | create => "CREATE"
  | created => "CREATED"
  | extend => "EXTEND"
  | extended => "EXTENDED"
  | destroy => "DESTROY"
  | begin => "BEGIN"
  | connected => "CONNECTED"
  | data => "DATA"
  | «end» => "END"

@[simp] theorem MessageCommand.fromU8_toU8 (c : MessageCommand) : fromU8 c.toU8 = .ok c := by
  cases c <;> rfl

theorem MessageCommand.toU8_injective {c c' : MessageCommand} (h : c.toU8 = c'.toU8) : c = c' := by
  have := congrArg fromU8 h
  simpa using this

/-- Wire protocol message. -/
@[ext] structure Message where
  circuitId : CircuitId
  streamId : StreamId
  command : MessageCommand
  data : Bytes
  digest : ByteArr 4
  deriving DecidableEq

namespace Message

def zeroDigest : ByteArr 4 := List.Vector.replicate 4 0

/-- A new message with digest set to zero. -/
def new (circuitId : CircuitId) (streamId : StreamId) (command : MessageCommand)
    (data : Bytes) : Message :=
  { circuitId, streamId, command, data, digest := zeroDigest }

/-- A circuit-level message (stream 0). -/
def circuit (circuitId : CircuitId) (command : MessageCommand) (data : Bytes) : Message :=
  new circuitId 0 command data

def create (circuitId : CircuitId) (publicKey : Bytes) : Message :=
  circuit circuitId .create publicKey

def created (circuitId : CircuitId) (publicKey : Bytes) : Message :=
  circuit circuitId .created publicKey

def extend (circuitId : CircuitId) (encryptedPayload : Bytes) : Message :=
  circuit circuitId .extend encryptedPayload

def extended (circuitId : CircuitId) (responseData : Bytes) : Message :=
  circuit circuitId .extended responseData

def destroy (circuitId : CircuitId) : Message := circuit circuitId .destroy []

/-- A PADDING message; its random payload is a parameter. -/
def padding (circuitId : CircuitId) (data : Bytes) : Message := circuit circuitId .padding data

def begin (circuitId : CircuitId) (streamId : StreamId) (destination : Bytes) : Message :=
  new circuitId streamId .begin destination

def connected (circuitId : CircuitId) (streamId : StreamId) : Message :=
  new circuitId streamId .connected []

def ofData (circuitId : CircuitId) (streamId : StreamId) (payload : Bytes) : Message :=
  new circuitId streamId .data payload

def «end» (circuitId : CircuitId) (streamId : StreamId) (reason : Bytes) : Message :=
  new circuitId streamId .end reason

end Message

/-! ## Encoding -/

/-- `u32::to_be_bytes`. -/
def u32ToBeBytes (n : UInt32) : Bytes :=
  [UInt8.ofNat (n.toNat / 2 ^ 24), UInt8.ofNat (n.toNat / 2 ^ 16 % 256),
    UInt8.ofNat (n.toNat / 2 ^ 8 % 256), UInt8.ofNat (n.toNat % 256)]

/-- `u32::from_be_bytes`. -/
def u32FromBeBytes : Bytes → UInt32
  | [a, b, c, d] =>
    UInt32.ofNat (a.toNat * 2 ^ 24 + b.toNat * 2 ^ 16 + c.toNat * 2 ^ 8 + d.toNat)
  | _ => 0

/-- `u16::from_be_bytes`. -/
def u16FromBeBytes : Bytes → UInt16
  | [a, b] => UInt16.ofNat (a.toNat * 2 ^ 8 + b.toNat)
  | _ => 0

@[simp] theorem length_u32ToBeBytes (n : UInt32) : (u32ToBeBytes n).length = 4 := rfl

@[simp] theorem u32FromBeBytes_toBeBytes (n : UInt32) : u32FromBeBytes (u32ToBeBytes n) = n := by
  have hn := n.toNat_lt
  apply UInt32.toNat_inj.mp
  simp only [u32ToBeBytes, u32FromBeBytes, UInt8.toNat_ofNat', UInt32.toNat_ofNat']
  omega

@[simp] theorem u16FromBeBytes_toBeBytes (n : UInt16) : u16FromBeBytes (u16ToBeBytes n) = n := by
  have hn := n.toNat_lt
  apply UInt16.toNat_inj.mp
  simp only [u16ToBeBytes, u16FromBeBytes, UInt8.toNat_ofNat', UInt16.toNat_ofNat']
  omega

/-- `bytes.get(i..j)`. -/
def getRange (bytes : Bytes) (i j : Nat) : Option Bytes :=
  if i ≤ j ∧ j ≤ bytes.length then some ((bytes.drop i).take (j - i)) else none

/-- What `getRange` reads. -/
theorem getRange_eq_some_iff {b r : Bytes} {i j : Nat} :
    getRange b i j = some r ↔ i ≤ j ∧ j ≤ b.length ∧ (b.drop i).take (j - i) = r := by
  unfold getRange
  by_cases hrange : i ≤ j ∧ j ≤ b.length
  · rw [if_pos hrange, Option.some.injEq]
    constructor
    · exact fun h => ⟨hrange.1, hrange.2, h⟩
    · exact fun h => h.2.2
  · rw [if_neg hrange]
    constructor
    · exact fun h => nomatch h
    · exact fun h => absurd ⟨h.1, h.2.1⟩ hrange

/-- `<[u8; n]>::try_from`. -/
def toArr (n : Nat) (b : Bytes) : Option (ByteArr n) :=
  if h : b.length = n then some ⟨b, h⟩ else none

@[simp] theorem toArr_toList {n : Nat} (v : ByteArr n) : toArr n v.toList = some v := by
  obtain ⟨b, rfl⟩ := v
  exact dif_pos rfl

/-- Reading a field of a concatenation at its own offset. -/
theorem getRange_append {a b c : Bytes} {i j : Nat} (hi : i = a.length)
    (hj : j = a.length + b.length) : getRange (a ++ (b ++ c)) i j = some b := by
  subst hi hj
  have hle : a.length ≤ a.length + b.length ∧
      a.length + b.length ≤ (a ++ (b ++ c)).length := by
    simp only [List.length_append]
    omega
  rw [getRange, if_pos hle, List.drop_left, Nat.add_sub_cancel_left, List.take_left]

/-- Reading the field that follows the fields `a`. -/
theorem getRange_field {bytes a b c : Bytes} (h : bytes = a ++ (b ++ c)) {i j : Nat}
    (hi : a.length = i) (hj : i + b.length = j) : getRange bytes i j = some b := by
  rw [h]
  exact getRange_append hi.symm (by omega)

namespace Message

/-- Serialize to a fixed-size 514-byte cell. `padding` are the random bytes the
unused region is filled with. -/
def toBytes (padding : Nat → UInt8) (m : Message) : Bytes :=
  let length := u32ToBeBytes (UInt32.ofNat (CELL_SIZE - 4))
  let dataLen := min m.data.length MAX_PAYLOAD_SIZE
  length ++ u32ToBeBytes m.circuitId ++ u16ToBeBytes m.streamId ++ [m.command.toU8] ++
    u16ToBeBytes (UInt16.ofNat dataLen) ++ m.digest.toList ++ m.data.take dataLen ++
    (List.range (MAX_PAYLOAD_SIZE - dataLen)).map padding

/-- The writing end of a connection: whether the next write fails, and the random
bytes it pads with. -/
structure Writer where
  failure : Option IoError
  padding : Nat → UInt8

/-- A connection that takes every write. -/
def Writer.working (padding : Nat → UInt8) : Writer := ⟨none, padding⟩

/-- Write a message as one cell; the cell that goes out. -/
def writeToStream (w : Writer) (m : Message) : Except TorError Bytes := do
  failIf (m.data.length > MAX_PAYLOAD_SIZE) (.payloadTooLarge m.data.length MAX_PAYLOAD_SIZE)
  match w.failure with
  | some e => throw (.io e)
  | none => return m.toBytes w.padding

/-- Deserialize from a cell. -/
def fromBytes (bytes : Bytes) : Except String Message := do
  failIf (bytes.length < CELL_SIZE) ("Cell too short: " ++ toString bytes.length ++
    " bytes (expected " ++ toString CELL_SIZE ++ ")")
  let lengthBytes ← okOr (getRange bytes 0 4) "Incomplete cell: missing length"
  let length := (u32FromBeBytes lengthBytes).toNat
  failIf (length ≠ CELL_SIZE - 4) ("Invalid cell length field: " ++ toString length ++
    " (expected " ++ toString (CELL_SIZE - 4) ++ ")")
  let circuitBytes ← okOr (getRange bytes 4 8) "Incomplete cell: missing circuit ID"
  let circuitId := u32FromBeBytes circuitBytes
  let streamBytes ← okOr (getRange bytes 8 10) "Incomplete cell: missing stream ID"
  let streamId := u16FromBeBytes streamBytes
  let commandByte ← okOr bytes[10]? "Incomplete cell: missing command"
  let command ← MessageCommand.fromU8 commandByte
  let payloadLenBytes ← okOr (getRange bytes 11 13) "Incomplete cell: missing payload length"
  let payloadLen := (u16FromBeBytes payloadLenBytes).toNat
  failIf (payloadLen > MAX_PAYLOAD_SIZE) ("Payload length " ++ toString payloadLen ++
    " exceeds maximum " ++ toString MAX_PAYLOAD_SIZE)
  let digest ← okOr ((getRange bytes 13 17).bind (toArr 4)) "Incomplete cell: missing digest"
  let dataStart := HEADER_SIZE + PAYLOAD_LEN_SIZE + DIGEST_SIZE
  let data ← okOr (getRange bytes dataStart (dataStart + payloadLen))
    "Incomplete cell: data region too short"
  return { circuitId, streamId, command, data, digest }

/-- The data a cell of `m` carries. -/
def truncated (m : Message) : Message := { m with data := m.data.take MAX_PAYLOAD_SIZE }

theorem truncated_of_le {m : Message} (h : m.data.length ≤ MAX_PAYLOAD_SIZE) :
    m.truncated = m := by
  rw [truncated, List.take_of_length_le h]

@[simp] theorem length_toBytes (padding : Nat → UInt8) (m : Message) :
    (m.toBytes padding).length = CELL_SIZE := by
  simp only [toBytes, List.length_append, length_u32ToBeBytes, length_u16ToBeBytes,
    List.length_cons, List.length_nil, List.Vector.toList_length, List.length_take,
    List.length_map, List.length_range, MAX_PAYLOAD_SIZE, CELL_SIZE, HEADER_SIZE,
    PAYLOAD_LEN_SIZE, DIGEST_SIZE]
  omega

/-- A cell laid out field by field: what is read at each offset. -/
structure Layout (bytes L C S : Bytes) (c : UInt8) (K D body : Bytes) : Prop where
  length : getRange bytes 0 4 = some L
  circuit : getRange bytes 4 8 = some C
  stream : getRange bytes 8 10 = some S
  command : bytes[10]? = some c
  payloadLen : getRange bytes 11 13 = some K
  digest : getRange bytes 13 17 = some D
  data : ∀ n ≤ body.length, getRange bytes 17 (17 + n) = some (body.take n)
  size : bytes.length = 17 + body.length

theorem layout {L C S K D body : Bytes} (c : UInt8) (hL : L.length = 4) (hC : C.length = 4)
    (hS : S.length = 2) (hK : K.length = 2) (hD : D.length = 4) :
    Layout (L ++ (C ++ (S ++ ([c] ++ (K ++ (D ++ body)))))) L C S c K D body := by
  generalize hbytes : L ++ (C ++ (S ++ ([c] ++ (K ++ (D ++ body))))) = bytes
  -- the lengths of the fields read so far
  have h8 : (L ++ C).length = 8 := by rw [List.length_append, hL, hC]
  have h10 : (L ++ C ++ S).length = 10 := by rw [List.length_append, h8, hS]
  have h11 : (L ++ C ++ S ++ [c]).length = 11 := by
    rw [List.length_append, h10, List.length_singleton]
  have h13 : (L ++ C ++ S ++ [c] ++ K).length = 13 := by rw [List.length_append, h11, hK]
  have h17 : (L ++ C ++ S ++ [c] ++ K ++ D).length = 17 := by rw [List.length_append, h13, hD]
  have hstream : bytes = (L ++ C) ++ (S ++ ([c] ++ (K ++ (D ++ body)))) := by
    simp only [← hbytes, List.append_assoc]
  have hcommand : bytes = (L ++ C ++ S) ++ c :: (K ++ (D ++ body)) := by
    simp only [← hbytes, List.append_assoc, List.singleton_append]
  have hpayloadLen : bytes = (L ++ C ++ S ++ [c]) ++ (K ++ (D ++ body)) := by
    simp only [← hbytes, List.append_assoc]
  have hdigest : bytes = (L ++ C ++ S ++ [c] ++ K) ++ (D ++ body) := by
    simp only [← hbytes, List.append_assoc]
  have hdata : bytes = (L ++ C ++ S ++ [c] ++ K ++ D) ++ body := by
    simp only [← hbytes, List.append_assoc]
  exact
    { length := getRange_field (a := []) hbytes.symm rfl (by rw [hL])
      circuit := getRange_field hbytes.symm hL (by rw [hC])
      stream := getRange_field hstream h8 (by rw [hS])
      command := by
        rw [hcommand, List.getElem?_append_right (Nat.le_of_eq h10), h10]
        rfl
      payloadLen := getRange_field hpayloadLen h11 (by rw [hK])
      digest := getRange_field hdigest h13 (by rw [hD])
      data := by
        intro n hn
        have hsplit : bytes = (L ++ C ++ S ++ [c] ++ K ++ D) ++ (body.take n ++ body.drop n) := by
          rw [List.take_append_drop]
          exact hdata
        refine getRange_field hsplit h17 ?_
        rw [List.length_take, Nat.min_eq_left hn]
      size := by rw [hdata, List.length_append, h17] }

/-- **Decoding a cell, field by field**: the length field, the command byte and the payload
length are checked, in this order. -/
theorem Layout.fromBytes {bytes L C S K body : Bytes} {c : UInt8} {digest : ByteArr 4}
    (h : Layout bytes L C S c K digest.toList body) (hbody : MAX_PAYLOAD_SIZE ≤ body.length) :
    fromBytes bytes = do
      failIf ((u32FromBeBytes L).toNat ≠ CELL_SIZE - 4) ("Invalid cell length field: " ++
        toString (u32FromBeBytes L).toNat ++ " (expected " ++ toString (CELL_SIZE - 4) ++ ")")
      let command ← MessageCommand.fromU8 c
      failIf ((u16FromBeBytes K).toNat > MAX_PAYLOAD_SIZE) ("Payload length " ++
        toString (u16FromBeBytes K).toNat ++ " exceeds maximum " ++ toString MAX_PAYLOAD_SIZE)
      return { circuitId := u32FromBeBytes C, streamId := u16FromBeBytes S, command
               data := body.take (u16FromBeBytes K).toNat, digest } := by
  have hstart : HEADER_SIZE + PAYLOAD_LEN_SIZE + DIGEST_SIZE = 17 := rfl
  have hsize : ¬bytes.length < CELL_SIZE := by
    have hmax : MAX_PAYLOAD_SIZE = 497 := rfl
    have hcell : CELL_SIZE = 514 := rfl
    rw [h.size]
    omega
  rw [Message.fromBytes, failIf_neg hsize, h.length, h.circuit, h.stream, h.command,
    h.payloadLen, h.digest]
  simp only [ok_bind, okOr_some, Option.bind_some, toArr_toList, hstart]
  by_cases hlength : (u32FromBeBytes L).toNat ≠ CELL_SIZE - 4
  · rw [failIf_pos hlength]
    rfl
  · rw [failIf_neg hlength]
    simp only [ok_bind]
    cases MessageCommand.fromU8 c with
    | error e => rfl
    | ok command =>
      simp only [ok_bind]
      by_cases hmax : (u16FromBeBytes K).toNat > MAX_PAYLOAD_SIZE
      · rw [failIf_pos hmax]
        rfl
      · rw [failIf_neg hmax, h.data _ (Nat.le_trans (Nat.not_lt.mp hmax) hbody)]
        rfl

/-- **A cell decodes to the message it was made of**, whatever the padding bytes and
whatever follows the cell. -/
theorem fromBytes_toBytes (padding : Nat → UInt8) (m : Message) (rest : Bytes) :
    fromBytes (m.toBytes padding ++ rest) = .ok m.truncated := by
  have hmax : MAX_PAYLOAD_SIZE = 497 := rfl
  have hcell : CELL_SIZE = 514 := rfl
  generalize hn : min m.data.length MAX_PAYLOAD_SIZE = n
  have hlen : (m.data.take n).length = n := by
    rw [List.length_take]
    omega
  have htake : m.data.take n = m.data.take MAX_PAYLOAD_SIZE := by
    rw [← hn, Nat.min_comm, ← List.take_take, List.take_length]
  have hlayout : m.toBytes padding ++ rest = u32ToBeBytes (UInt32.ofNat (CELL_SIZE - 4)) ++
      (u32ToBeBytes m.circuitId ++ (u16ToBeBytes m.streamId ++ ([m.command.toU8] ++
        (u16ToBeBytes (UInt16.ofNat n) ++ (m.digest.toList ++ (m.data.take n ++
          ((List.range (MAX_PAYLOAD_SIZE - n)).map padding ++ rest))))))) := by
    simp only [toBytes, hn, List.append_assoc]
  have hbody : MAX_PAYLOAD_SIZE ≤ (m.data.take n ++
      ((List.range (MAX_PAYLOAD_SIZE - n)).map padding ++ rest)).length := by
    simp only [List.length_append, hlen, List.length_map, List.length_range]
    omega
  have hlength : ¬(u32FromBeBytes (u32ToBeBytes (UInt32.ofNat (CELL_SIZE - 4)))).toNat ≠
      CELL_SIZE - 4 := by
    rw [u32FromBeBytes_toBeBytes, UInt32.toNat_ofNat']
    omega
  have hpayloadLen : (u16FromBeBytes (u16ToBeBytes (UInt16.ofNat n))).toNat = n := by
    rw [u16FromBeBytes_toBeBytes, UInt16.toNat_ofNat']
    omega
  have hmost : ¬n > MAX_PAYLOAD_SIZE := by omega
  rw [hlayout, (layout _ (length_u32ToBeBytes _) (length_u32ToBeBytes _) (length_u16ToBeBytes _)
    (length_u16ToBeBytes _) m.digest.toList_length).fromBytes hbody, failIf_neg hlength,
    MessageCommand.fromU8_toU8, hpayloadLen, failIf_neg hmost, u32FromBeBytes_toBeBytes,
    u16FromBeBytes_toBeBytes, List.take_left' hlen, htake]
  rfl

/-- What a working connection carries is what the other side reads. -/
theorem writeToStream_working {padding : Nat → UInt8} {m : Message}
    (h : m.data.length ≤ MAX_PAYLOAD_SIZE) :
    m.writeToStream (.working padding) = .ok (m.toBytes padding) := by
  rw [writeToStream, failIf_neg (Nat.not_lt.mpr h)]
  rfl

/-- A cell goes out when the payload fits and the connection takes it, and then it is the
message's. -/
theorem writeToStream_eq_ok {w : Writer} {m : Message} {cell : Bytes} :
    m.writeToStream w = .ok cell ↔
      m.data.length ≤ MAX_PAYLOAD_SIZE ∧ w.failure.isNone = true ∧ cell = m.toBytes w.padding := by
  unfold writeToStream
  by_cases hfits : m.data.length > MAX_PAYLOAD_SIZE
  · rw [failIf_pos hfits]
    exact iff_of_false (fun h => nomatch h) fun h => absurd h.1 (Nat.not_le.mpr hfits)
  · rw [failIf_neg hfits, ok_bind]
    cases w.failure with
    | none =>
      refine ⟨fun h => ⟨Nat.not_lt.mp hfits, rfl, ?_⟩, fun h => h.2.2 ▸ rfl⟩
      cases h
      rfl
    | some e => exact iff_of_false (fun h => nomatch h) fun h => nomatch h.2.1

/-- A cell on its own decodes to the message it was made of. -/
theorem fromBytes_toBytes_of_le {padding : Nat → UInt8} {m : Message}
    (h : m.data.length ≤ MAX_PAYLOAD_SIZE) : fromBytes (m.toBytes padding) = .ok m := by
  have := fromBytes_toBytes padding m []
  rwa [List.append_nil, truncated_of_le h] at this

end Message

end MiniTor
