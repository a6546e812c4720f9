import MiniTor.Common.Codec
import MiniTor.Common.Text

/-!
# Cells on a byte stream (`common/src/protocol.rs`)

`write_to_stream` and `from_stream` on a reliable byte stream. A cell is 514 bytes
whatever it carries, so the only boundaries a reader knows are the multiples of 514.

- `readMany_eq`: whatever the bytes, the reads decode one block after the other
  (`blockRead`), and an incomplete block is the end of the stream.
- `writeMany_eq`: a message that is too large is refused and leaves the stream as it was.
- `blockRead_take`: of a stream that is cut, the blocks before the cut are left.
- `stream_framing`: so what was accepted is read back, up to the cut.
-/

namespace MiniTor

open Theory

/-- `io::Error::new(ErrorKind::InvalidData, e)`. -/
def invalidData (e : String) : IoError := ⟨asBytes e⟩

namespace Message

/-- `read_exact` of `n` bytes: an end of the stream in between takes what there is. -/
def readExact (n : Nat) (stream : Bytes) : Bytes × Option Bytes :=
  if stream.length < n then ([], none) else (stream.drop n, some (stream.take n))

/-- Read a message from a stream; `none` is the graceful close. What is left of the stream,
and the result. -/
def fromStream (stream : Bytes) : Bytes × Except IoError (Option Message) :=
  match readExact CELL_SIZE stream with
  | (stream, none) => (stream, .ok none)
  | (stream, some buf) =>
    match fromBytes buf with
    | .ok m => (stream, .ok (some m))
    | .error e => (stream, .error (invalidData e))

/-- The results of reading `n` times, whatever each read returns. -/
def readMany : Nat → Bytes → List (Except IoError (Option Message))
  | 0, _ => []
  | n + 1, stream =>
    let (stream, result) := fromStream stream
    result :: readMany n stream

/-- Attempts to write, one after the other, each with the random bytes its cell is filled
with: what is on the stream, and the results. -/
def writeMany : Bytes → List (Message × (Nat → UInt8)) → Bytes × List (Except TorError Unit)
  | stream, [] => (stream, [])
  | stream, (m, padding) :: attempts =>
    match m.writeToStream (.working padding) with
    | .error e =>
      let (stream, results) := writeMany stream attempts
      (stream, .error e :: results)
    | .ok cell =>
      let (stream, results) := writeMany (stream ++ cell) attempts
      (stream, .ok () :: results)

/-! ## Reading -/

/-- What is read at block `k`, counted from the front of the stream. -/
def blockRead (stream : Bytes) (k : Nat) : Except IoError (Option Message) :=
  if (k + 1) * CELL_SIZE ≤ stream.length then
    match fromBytes ((stream.drop (k * CELL_SIZE)).take CELL_SIZE) with
    | .ok m => .ok (some m)
    | .error e => .error (invalidData e)
  else .ok none

theorem blockRead_of_lt {stream : Bytes} {k : Nat} (h : stream.length < (k + 1) * CELL_SIZE) :
    blockRead stream k = .ok none := if_neg (Nat.not_le.mpr h)

/-- Block 0 is read first. -/
theorem fromStream_snd (stream : Bytes) : (fromStream stream).2 = blockRead stream 0 := by
  unfold fromStream readExact
  by_cases hshort : stream.length < CELL_SIZE
  · rw [if_pos hshort, blockRead_of_lt (by omega)]
  · have hlong : (0 + 1) * CELL_SIZE ≤ stream.length := by omega
    rw [if_neg hshort, blockRead, if_pos hlong, Nat.zero_mul, List.drop_zero]
    dsimp only
    cases fromBytes (stream.take CELL_SIZE) with
    | ok m => rfl
    | error e => rfl

/-- What is left is the stream from block 1 on. -/
theorem blockRead_fromStream (stream : Bytes) (k : Nat) :
    blockRead (fromStream stream).1 k = blockRead stream (k + 1) := by
  unfold fromStream readExact
  by_cases hshort : stream.length < CELL_SIZE
  · have hmul : CELL_SIZE ≤ (k + 1) * CELL_SIZE := Nat.le_mul_of_pos_left _ (Nat.succ_pos k)
    have hnone : blockRead [] k = .ok none := blockRead_of_lt (Nat.lt_of_lt_of_le (by decide) hmul)
    rw [if_pos hshort, blockRead_of_lt (k := k + 1) (by rw [Nat.succ_mul (k + 1)]; omega)]
    exact hnone
  · have hleft : ∀ result : Except String Message,
        (match result with
          | .ok m => ((stream.drop CELL_SIZE, .ok (some m)) : Bytes × Except IoError _)
          | .error e => (stream.drop CELL_SIZE, .error (invalidData e))).1 =
          stream.drop CELL_SIZE := by
      intro result
      cases result with
      | ok m => rfl
      | error e => rfl
    -- a block is consumed even if it does not decode, so the blocks stay aligned
    rw [if_neg hshort]
    dsimp only
    rw [hleft, blockRead, blockRead, List.length_drop, List.drop_drop, Nat.succ_mul (k + 1),
      Nat.succ_mul k, Nat.add_comm CELL_SIZE]
    by_cases hblock : k * CELL_SIZE + CELL_SIZE ≤ stream.length - CELL_SIZE
    · have hblock' : k * CELL_SIZE + CELL_SIZE + CELL_SIZE ≤ stream.length := by omega
      rw [if_pos hblock, if_pos hblock']
    · have hblock' : ¬k * CELL_SIZE + CELL_SIZE + CELL_SIZE ≤ stream.length := by omega
      rw [if_neg hblock, if_neg hblock']

/-- **Any stream is read block by block.** -/
theorem readMany_eq (n : Nat) (stream : Bytes) :
    readMany n stream = (List.range n).map (blockRead stream) := by
  induction n generalizing stream with
  | zero => rfl
  | succ n ih =>
    rw [List.range_succ_eq_map, List.map_cons, List.map_map]
    show (fromStream stream).2 :: readMany n (fromStream stream).1 = _
    rw [fromStream_snd, ih]
    have hrest : (List.range n).map (blockRead (fromStream stream).1) =
        (List.range n).map (blockRead stream ∘ Nat.succ) :=
      List.map_congr_left fun k _ => blockRead_fromStream stream k
    rw [hrest]

/-- **A cut leaves the blocks before it.** -/
theorem blockRead_take (stream : Bytes) (cut k : Nat) :
    blockRead (stream.take cut) k =
      if k < cut / CELL_SIZE then blockRead stream k else .ok none := by
  have hbefore : k < cut / CELL_SIZE ↔ (k + 1) * CELL_SIZE ≤ cut := by
    rw [← Nat.succ_le_iff]
    exact Nat.le_div_iff_mul_le (by decide)
  by_cases hk : k < cut / CELL_SIZE
  · have hcut := hbefore.mp hk
    rw [if_pos hk, blockRead, blockRead, List.length_take]
    by_cases hlen : (k + 1) * CELL_SIZE ≤ stream.length
    -- the block lies before the cut, so its bytes are those of the whole stream
    · rw [if_pos (Nat.le_min.mpr ⟨hcut, hlen⟩), if_pos hlen, List.drop_take, List.take_take,
        Nat.min_eq_left]
      rw [Nat.succ_mul] at hcut
      omega
    · rw [if_neg hlen, if_neg fun h => hlen (Nat.le_min.mp h).2]
  · rw [if_neg hk, blockRead_of_lt]
    rw [List.length_take]
    exact Nat.lt_of_le_of_lt (Nat.min_le_left ..) (Nat.lt_of_not_le fun h => hk (hbefore.mpr h))

/-! ## Writing -/

/-- The message of an attempt is not too large. -/
def fits (attempt : Message × (Nat → UInt8)) : Bool :=
  decide (attempt.1.data.length ≤ MAX_PAYLOAD_SIZE)

/-- The cell of an attempt. -/
def cellOf (attempt : Message × (Nat → UInt8)) : Bytes := attempt.1.toBytes attempt.2

/-- What an attempt returns. -/
def writeResult (attempt : Message × (Nat → UInt8)) : Except TorError Unit :=
  if fits attempt then .ok ()
  else .error (.payloadTooLarge attempt.1.data.length MAX_PAYLOAD_SIZE)

/-- **Attempts to write** put the cells of the messages that fit behind each other. -/
theorem writeMany_eq (stream : Bytes) (attempts : List (Message × (Nat → UInt8))) :
    writeMany stream attempts =
      (stream ++ (attempts.filter fits).flatMap cellOf, attempts.map writeResult) := by
  induction attempts generalizing stream with
  | nil => simp [writeMany]
  | cons attempt attempts ih =>
    obtain ⟨m, padding⟩ := attempt
    rw [writeMany]
    by_cases hfits : m.data.length ≤ MAX_PAYLOAD_SIZE
    · have hyes : fits (m, padding) = true := decide_eq_true hfits
      rw [writeToStream_working hfits]
      dsimp only
      rw [ih, List.filter_cons_of_pos hyes, List.flatMap_cons, List.append_assoc, List.map_cons,
        writeResult, if_pos hyes]
      rfl
    -- the size is checked before anything is written
    · have hno : ¬fits (m, padding) = true := fun h => hfits (of_decide_eq_true h)
      have hrefused : m.writeToStream (.working padding) =
          .error (.payloadTooLarge m.data.length MAX_PAYLOAD_SIZE) := by
        rw [writeToStream, failIf_pos (Nat.lt_of_not_le hfits)]
        rfl
      rw [hrefused]
      dsimp only
      rw [ih, List.filter_cons_of_neg hno, List.map_cons, writeResult, if_neg hno]

/-- Block `k` of cells put behind each other is cell `k`. -/
theorem blockRead_flatMap {accepted : List (Message × (Nat → UInt8))}
    (h : ∀ attempt ∈ accepted, fits attempt = true) (k : Nat) :
    blockRead (accepted.flatMap cellOf) k = .ok (accepted[k]?.map Prod.fst) := by
  induction accepted generalizing k with
  | nil =>
    have hpos : 0 < (k + 1) * CELL_SIZE := Nat.mul_pos (Nat.succ_pos k) (by decide)
    exact blockRead_of_lt hpos
  | cons attempt rest ih =>
    have hfits : attempt.1.data.length ≤ MAX_PAYLOAD_SIZE :=
      of_decide_eq_true (h attempt List.mem_cons_self)
    have hlen : (cellOf attempt).length = CELL_SIZE := length_toBytes ..
    have hread : fromStream ((attempt :: rest).flatMap cellOf) =
        (rest.flatMap cellOf, .ok (some attempt.1)) := by
      have hlong : ¬((cellOf attempt).length + (rest.flatMap cellOf).length) < CELL_SIZE := by omega
      rw [List.flatMap_cons, fromStream, readExact, List.length_append, if_neg hlong,
        List.drop_left' hlen, List.take_left' hlen, cellOf]
      dsimp only
      rw [fromBytes_toBytes_of_le hfits]
    cases k with
    | zero =>
      rw [← fromStream_snd, hread]
      rfl
    | succ k =>
      rw [← blockRead_fromStream, hread]
      exact ih (fun a ha => h a (List.mem_cons_of_mem _ ha)) k

end Message

open Message

/-- **Stream framing.** Exactly the messages that fit are written, in order; a rejected one
returns its size and adds no byte. Reading returns what was written, digests included, and then
nothing; of a stream that is cut, the cells wholly before the cut; and of any bytes, the
decodings of their blocks until one is incomplete. -/
theorem stream_framing :
    (∀ attempts : List (Message × (Nat → UInt8)),
      let accepted := attempts.filter fits
      let written := (writeMany [] attempts).1
      written = accepted.flatMap cellOf ∧ (writeMany [] attempts).2 = attempts.map writeResult ∧
        (∀ n, readMany n written =
          (List.range n).map fun k => .ok (accepted[k]?.map Prod.fst)) ∧
        ∀ cut n, readMany n (written.take cut) =
          (List.range n).map fun k => .ok ((accepted.take (cut / CELL_SIZE))[k]?.map Prod.fst)) ∧
      ∀ (n : Nat) (stream : Bytes), readMany n stream = (List.range n).map (blockRead stream) := by
  refine ⟨fun attempts => ?_, readMany_eq⟩
  have hwritten : (writeMany [] attempts).1 = (attempts.filter fits).flatMap cellOf := by
    rw [writeMany_eq, List.nil_append]
  have hfits : ∀ attempt ∈ attempts.filter fits, fits attempt = true :=
    fun _ h => (List.mem_filter.mp h).2
  refine ⟨hwritten, by rw [writeMany_eq], fun n => ?_, fun cut n => ?_⟩
  · rw [readMany_eq, hwritten]
    exact List.map_congr_left fun k _ => blockRead_flatMap hfits k
  · rw [readMany_eq, hwritten]
    refine List.map_congr_left fun k _ => ?_
    rw [blockRead_take, blockRead_flatMap hfits, List.getElem?_take]
    by_cases hk : k < cut / CELL_SIZE
    · rw [if_pos hk, if_pos hk]
    · rw [if_neg hk, if_neg hk]
      rfl

end MiniTor
