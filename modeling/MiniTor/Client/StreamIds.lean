import MiniTor.Client.Pool
import MiniTor.Theory.Run

/-!
# Stream ids (`tor-client/src/core/circuit.rs`, `allocate_stream_id`)

The counter of a circuit is 16 bits wide, skips 0 and does not look at the streams that are
registered. `IdBook` runs a circuit through every call that is made on it and remembers, of
each registered id, which allocation it came from.

- `idOf`: the `k`-th allocation returns `k mod 65535 + 1` (`Numbered`).
- `IdBook.freshNext_iff`: so the next id is free exactly when no registered stream is a
  multiple of 65535 allocations old.
- `stream_ids_fresh_iff`: the same along every run.
- `stream_id_taken`: one stream stays open while 65534 others come and go.
-/

namespace MiniTor.Client

open Theory

/-- The id of allocation `k`, counted from 0. -/
def idOf (k : Nat) : StreamId := UInt16.ofNat (k % 65535 + 1)

@[simp] theorem toNat_idOf (k : Nat) : (idOf k).toNat = k % 65535 + 1 := by
  have hlt : k % 65535 < 65535 := Nat.mod_lt k (by decide)
  rw [idOf, UInt16.toNat_ofNat']
  omega

theorem idOf_ne_zero (k : Nat) : idOf k ≠ 0 := by
  intro h
  have hnat := congrArg UInt16.toNat h
  rw [toNat_idOf, UInt16.toNat_zero] at hnat
  omega

/-- Two allocations get one id exactly when they are a multiple of 65535 apart. -/
theorem idOf_eq_iff {j k : Nat} (h : j ≤ k) : idOf j = idOf k ↔ 65535 ∣ k - j := by
  rw [← UInt16.toNat_inj, toNat_idOf, toNat_idOf]
  omega

/-- The counter after allocation `k`: one more, and 0 is skipped. -/
theorem idOf_succ (k : Nat) : (if idOf k + 1 = 0 then 1 else idOf k + 1) = idOf (k + 1) := by
  have hlt : k % 65535 < 65535 := Nat.mod_lt k (by decide)
  have hadd : (idOf k + 1).toNat = (k % 65535 + 2) % 65536 := by
    rw [UInt16.toNat_add, toNat_idOf]
    rfl
  have hzero : idOf k + 1 = 0 ↔ (k % 65535 + 2) % 65536 = 0 := by
    rw [← UInt16.toNat_inj, hadd, UInt16.toNat_zero]
  apply UInt16.toNat_inj.mp
  by_cases hwrap : idOf k + 1 = 0
  · have hlast : (k % 65535 + 2) % 65536 = 0 := hzero.mp hwrap
    have hfirst : (k + 1) % 65535 = 0 := by omega
    rw [if_pos hwrap, toNat_idOf, hfirst]
    rfl
  · have hnotlast : (k % 65535 + 2) % 65536 ≠ 0 := fun h => hwrap (hzero.mpr h)
    rw [if_neg hwrap, hadd, toNat_idOf]
    omega

/-! ## The calls -/

/-- The calls on a circuit. A stream is allocated and registered under one lock, as
`handle_stream` does; an id may also be allocated and never used. -/
inductive CircuitCall
  | openStream (sender : StreamSender)
  | allocate
  | unregister (streamId : StreamId)
  | send (entryWriter : Message.Writer) (streamId : StreamId) (command : MessageCommand)
      (data : Bytes)
  /-- The two critical sections of the reader: a turn of its loop, and the end of the task. -/
  | readerTurn (input : Option Message)
  | readerEnd
  /-- The monitor, the cleanup and the shutdown only set the state. -/
  | setState (state : CircuitState)

/-- A circuit with the number of ids it has handed out and, for each id, the allocation that
the stream registered under it got the id from. -/
structure IdBook where
  circuit : Circuit
  allocated : Nat
  origin : StreamId → Nat

namespace IdBook

variable (P : Primitives)

def start (circuitId : CircuitId) (onionKeys : OnionKeys) : IdBook where
  circuit := Circuit.new circuitId onionKeys
  allocated := 0
  origin := fun _ => 0

def step (b : IdBook) : CircuitCall → IdBook
  | .openStream sender =>
    let (circuit, streamId) := b.circuit.allocateStreamId
    { circuit := circuit.registerStream streamId sender
      allocated := b.allocated + 1
      origin := Function.update b.origin streamId b.allocated }
  | .allocate =>
    { b with circuit := b.circuit.allocateStreamId.1, allocated := b.allocated + 1 }
  | .unregister streamId => { b with circuit := b.circuit.unregisterStream streamId }
  | .send entryWriter streamId command data =>
    { b with circuit := (b.circuit.sendMessage P entryWriter streamId command data).1 }
  | .readerTurn input => { b with circuit := (b.circuit.readerTurn P input).circuit }
  | .readerEnd => { b with circuit := b.circuit.readerEnd }
  | .setState state => { b with circuit := { b.circuit with state } }

end IdBook

/-- The next id is not 0 and not in use, so that opening a stream leaves every other stream
its sender and its cells. -/
structure Circuit.FreshNext (c : Circuit) : Prop where
  nonzero : c.allocateStreamId.2 ≠ 0
  free : c.allocateStreamId.2 ∉ c.streamSenders
  kept : ∀ sender, ∀ streamId ∈ c.streamSenders,
    (c.allocateStreamId.1.registerStream c.allocateStreamId.2 sender).streamSenders.lookup
      streamId = c.streamSenders.lookup streamId
  delivered : ∀ sender (msg : Message), msg.streamId ∈ c.streamSenders →
    delivery (c.allocateStreamId.1.registerStream c.allocateStreamId.2 sender).streamSenders msg =
      delivery c.streamSenders msg

/-- No registered stream is a multiple of 65535 allocations old. -/
def IdBook.NoneWrapped (b : IdBook) : Prop :=
  ∀ streamId ∈ b.circuit.streamSenders, ¬65535 ∣ b.allocated - b.origin streamId

/-- A free id is all it takes. -/
theorem Circuit.freshNext_of_free {c : Circuit} (hnonzero : c.allocateStreamId.2 ≠ 0)
    (hfree : c.allocateStreamId.2 ∉ c.streamSenders) : c.FreshNext := by
  have hkept : ∀ sender, ∀ streamId ∈ c.streamSenders,
      (c.allocateStreamId.1.registerStream c.allocateStreamId.2 sender).streamSenders.lookup
        streamId = c.streamSenders.lookup streamId := by
    intro sender streamId hmem
    -- the insertion overwrites no entry, as its key is free
    have hne : streamId ≠ c.allocateStreamId.2 := by
      rintro rfl
      exact hfree hmem
    exact AList.lookup_insert_ne hne
  refine ⟨hnonzero, hfree, hkept, ?_⟩
  intro sender msg hmem
  rw [delivery, delivery, hkept sender msg.streamId hmem]

/-! ## The numbering -/

/-- What the other calls do to the streams: none is added. -/
theorem sendMessage_streams (P : Primitives) (c : Circuit) (entryWriter : Message.Writer)
    (streamId : StreamId) (command : MessageCommand) (data : Bytes) :
    (c.sendMessage P entryWriter streamId command data).1.streamSenders = c.streamSenders ∧
      (c.sendMessage P entryWriter streamId command data).1.nextStreamId = c.nextStreamId := by
  unfold Circuit.sendMessage
  dsimp only
  split
  · exact ⟨rfl, rfl⟩
  · exact ⟨rfl, rfl⟩

theorem readerTurn_streams (P : Primitives) (c : Circuit) (input : Option Message) :
    ((c.readerTurn P input).circuit.streamSenders = c.streamSenders ∨
        (c.readerTurn P input).circuit.streamSenders = ∅) ∧
      (c.readerTurn P input).circuit.nextStreamId = c.nextStreamId := by
  cases input with
  | none => exact ⟨.inl rfl, rfl⟩
  | some msg =>
    unfold Circuit.readerTurn
    dsimp only
    split
    · exact ⟨.inr rfl, rfl⟩
    · split
      · exact ⟨.inl rfl, rfl⟩
      · split
        · exact ⟨.inl rfl, rfl⟩
        · exact ⟨.inl rfl, rfl⟩

namespace IdBook

/-- The counter is the id of the next allocation, and every registered id that of its own. -/
structure Numbered (b : IdBook) : Prop where
  next : b.circuit.nextStreamId = idOf b.allocated
  before : ∀ streamId ∈ b.circuit.streamSenders, b.origin streamId < b.allocated
  own : ∀ streamId ∈ b.circuit.streamSenders, streamId = idOf (b.origin streamId)

theorem numbered_start (circuitId : CircuitId) (onionKeys : OnionKeys) :
    (start circuitId onionKeys).Numbered where
  next := rfl
  before streamId hmem := absurd hmem (AList.notMem_empty streamId)
  own streamId hmem := absurd hmem (AList.notMem_empty streamId)

/-- A call that allocates nothing and adds no stream keeps the numbering. -/
theorem Numbered.of_streams {b : IdBook} (h : b.Numbered) {c : Circuit}
    (hnext : c.nextStreamId = b.circuit.nextStreamId)
    (hstreams : ∀ streamId ∈ c.streamSenders, streamId ∈ b.circuit.streamSenders) :
    { b with circuit := c }.Numbered where
  next := hnext.trans h.next
  before streamId hmem := h.before streamId (hstreams streamId hmem)
  own streamId hmem := h.own streamId (hstreams streamId hmem)

variable {P : Primitives}

theorem Numbered.allocate {b : IdBook} (h : b.Numbered) : (b.step P .allocate).Numbered where
  next := by
    show (if b.circuit.nextStreamId + 1 = 0 then 1 else b.circuit.nextStreamId + 1) = _
    rw [h.next]
    exact idOf_succ _
  before streamId hmem := (h.before streamId hmem).trans (Nat.lt_succ_self _)
  own streamId hmem := h.own streamId hmem

theorem Numbered.openStream {b : IdBook} (h : b.Numbered) (sender : StreamSender) :
    (b.step P (.openStream sender)).Numbered := by
  have hallocate := h.allocate (P := P)
  refine ⟨hallocate.next, ?_, ?_⟩
  -- the id just given out originates in this allocation, every other keeps its own
  · intro streamId hmem
    show Function.update b.origin b.circuit.nextStreamId b.allocated streamId < b.allocated + 1
    by_cases hnew : streamId = b.circuit.nextStreamId
    · rw [hnew, Function.update_self]
      exact Nat.lt_succ_self _
    · rw [Function.update_of_ne hnew]
      exact hallocate.before streamId (((AList.mem_insert _).mp hmem).resolve_left hnew)
  · intro streamId hmem
    show streamId = idOf (Function.update b.origin b.circuit.nextStreamId b.allocated streamId)
    by_cases hnew : streamId = b.circuit.nextStreamId
    · rw [hnew, Function.update_self]
      exact h.next
    · rw [Function.update_of_ne hnew]
      exact h.own streamId (((AList.mem_insert _).mp hmem).resolve_left hnew)

/-- **Every call keeps the numbering.** -/
theorem Numbered.step {b : IdBook} (h : b.Numbered) (call : CircuitCall) :
    (b.step P call).Numbered := by
  cases call with
  | openStream sender => exact h.openStream sender
  | allocate => exact h.allocate
  | unregister streamId => exact h.of_streams rfl fun id hmem => (AList.mem_erase.mp hmem).2
  | send entryWriter streamId command data =>
    obtain ⟨hstreams, hnext⟩ :=
      sendMessage_streams P b.circuit entryWriter streamId command data
    exact h.of_streams hnext fun id hmem => hstreams ▸ hmem
  | readerTurn input =>
    obtain ⟨hsame | hempty, hnext⟩ := readerTurn_streams P b.circuit input
    · exact h.of_streams hnext fun id hmem => hsame ▸ hmem
    · exact h.of_streams hnext fun id hmem => absurd (hempty ▸ hmem) (AList.notMem_empty id)
  | readerEnd => exact h.of_streams rfl fun id hmem => absurd hmem (AList.notMem_empty id)
  | setState state => exact h.of_streams rfl fun id hmem => hmem

/-- **The next id is fresh exactly when no registered stream is a multiple of 65535
allocations old.** -/
theorem freshNext_iff {b : IdBook} (h : b.Numbered) :
    b.circuit.FreshNext ↔ b.NoneWrapped := by
  have hnext : b.circuit.allocateStreamId.2 = idOf b.allocated := h.next
  constructor
  · intro hfresh streamId hmem hwrapped
    -- an id of the same residue is the same id
    refine hfresh.free ?_
    rw [hnext, ← (idOf_eq_iff (h.before streamId hmem).le).mpr hwrapped, ← h.own streamId hmem]
    exact hmem
  · intro hnone
    refine Circuit.freshNext_of_free (hnext ▸ idOf_ne_zero _) ?_
    intro hmem
    refine hnone _ hmem ((idOf_eq_iff (h.before _ hmem).le).mp ?_)
    rw [← h.own _ hmem, hnext]

end IdBook

/-- **Stream ids are unique along a run exactly when no stream stays registered for a multiple
of 65535 further allocations**, counted at the states in which an id is left. -/
theorem stream_ids_fresh_iff (P : Primitives) (circuitId : CircuitId) (onionKeys : OnionKeys)
    (calls : List CircuitCall) :
    EveryState (IdBook.step P)
        (fun b => b.circuit.activeStreamCount < 65535 → b.circuit.FreshNext)
        (IdBook.start circuitId onionKeys) calls ↔
      EveryState (IdBook.step P)
        (fun b => b.circuit.activeStreamCount < 65535 → b.NoneWrapped)
        (IdBook.start circuitId onionKeys) calls := by
  have hstart := IdBook.numbered_start circuitId onionKeys
  -- by induction on the calls: the numbering holds in each state and turns one side into the other
  generalize IdBook.start circuitId onionKeys = b at hstart
  induction calls generalizing b with
  | nil => exact imp_congr_right fun _ => IdBook.freshNext_iff hstart
  | cons call calls ih =>
    exact and_congr (imp_congr_right fun _ => IdBook.freshNext_iff hstart)
      (ih _ (hstart.step call))

/-! ## A stream that stays -/

/-- One stream is opened and stays; the `n` after it are closed at once. -/
def longLived (n : Nat) : List CircuitCall :=
  .openStream ⟨0, true⟩ ::
    (List.range n).flatMap fun k => [.openStream ⟨k + 1, true⟩, .unregister (idOf (k + 1))]

/-- Opening a stream under a free id and closing it leaves the streams as they were. -/
theorem erase_insert {senders : AList fun _ : StreamId => StreamSender} {streamId : StreamId}
    (sender : StreamSender) (h : streamId ∉ senders) :
    (senders.insert streamId sender).erase streamId = senders := by
  apply AList.ext
  show List.kerase streamId (senders.insert streamId sender).entries = senders.entries
  rw [AList.entries_insert_of_notMem h]
  exact List.kerase_cons_eq rfl

/-- As long as the counter has not come round, only the first stream is registered. -/
theorem longLived_run (P : Primitives) (circuitId : CircuitId) (onionKeys : OnionKeys) {n : Nat}
    (hn : n < 65535) :
    let b := run (IdBook.step P) (IdBook.start circuitId onionKeys) (longLived n)
    b.circuit.streamSenders = (∅ : AList fun _ : StreamId => StreamSender).insert 1 ⟨0, true⟩ ∧
      b.circuit.nextStreamId = idOf (n + 1) ∧ b.allocated = n + 1 := by
  induction n with
  | zero => exact ⟨rfl, rfl, rfl⟩
  | succ n ih =>
    obtain ⟨hsenders, hnext, hallocated⟩ := ih (by omega)
    have hcalls : longLived (n + 1) = longLived n ++
        [.openStream ⟨n + 1, true⟩, .unregister (idOf (n + 1))] := by
      simp [longLived, List.range_succ]
    rw [hcalls, run_append]
    generalize run (IdBook.step P) (IdBook.start circuitId onionKeys) (longLived n) = b
      at hsenders hnext hallocated ⊢
    -- the counter is past 1 and has not come round, so the next id is not the first stream's
    have hfree : idOf (n + 1) ∉ b.circuit.streamSenders := by
      rw [hsenders, AList.mem_insert]
      rintro (hone | hmem)
      · have hnat := congrArg UInt16.toNat hone
        rw [toNat_idOf] at hnat
        have hmod : (n + 1) % 65535 = n + 1 := Nat.mod_eq_of_lt hn
        rw [hmod] at hnat
        exact absurd hnat (by simp)
      · exact AList.notMem_empty _ hmem
    refine ⟨?_, ?_, ?_⟩
    · show ((b.circuit.streamSenders.insert b.circuit.nextStreamId ⟨n + 1, true⟩).erase
        (idOf (n + 1))) = _
      rw [hnext, erase_insert _ hfree, hsenders]
    · show (if b.circuit.nextStreamId + 1 = 0 then 1 else b.circuit.nextStreamId + 1) = _
      rw [hnext]
      exact idOf_succ _
    · show b.allocated + 1 = _
      rw [hallocated]

/-- Once the counter has come round, it is at the id of the first stream. -/
theorem longLived_taken (P : Primitives) (circuitId : CircuitId) (onionKeys : OnionKeys) {n : Nat}
    (hn : n + 1 = 65535) :
    ¬EveryState (IdBook.step P)
      (fun b => b.circuit.activeStreamCount < 65535 → b.circuit.FreshNext)
      (IdBook.start circuitId onionKeys) (longLived n) := by
  intro hfresh
  obtain ⟨hsenders, hnext, -⟩ := longLived_run P circuitId onionKeys (show n < 65535 by omega)
  have hlast := hfresh.last
  generalize run (IdBook.step P) (IdBook.start circuitId onionKeys) (longLived n) = b
    at hsenders hnext hlast
  have hcount : b.circuit.activeStreamCount < 65535 := by
    rw [Circuit.activeStreamCount, hsenders]
    show 1 < 65535
    omega
  have hone : idOf (n + 1) = 1 := by
    apply UInt16.toNat_inj.mp
    rw [toNat_idOf, hn, Nat.mod_self]
    rfl
  -- 65535 allocations after the first the counter is at 1 again, which is still registered
  refine (hlast hcount).free ?_
  show b.circuit.nextStreamId ∈ b.circuit.streamSenders
  rw [hnext, hone, hsenders, AList.mem_insert]
  exact .inl rfl

/-- After 65534 short streams beside one that stays, one stream is registered and the next
gets its id. -/
theorem stream_id_taken :
    ¬EveryState (IdBook.step .sample)
      (fun b => b.circuit.activeStreamCount < 65535 → b.circuit.FreshNext)
      (IdBook.start 1 (OnionKeys.new [] [])) (longLived 65534) :=
  longLived_taken .sample 1 (OnionKeys.new [] []) rfl

end MiniTor.Client
