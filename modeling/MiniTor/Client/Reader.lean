import MiniTor.Client.Store
import MiniTor.Theory.Run

/-!
# The reader of a circuit (`tor-client/src/core/circuit.rs`)

`spawn_circuit_reader` over every sequence of results of `Message::from_stream`, with what
the other tasks do to the circuit in between. Its loop has five ways out: the end of the
stream, a read error or malformed cell (both an `Err`), a DESTROY and a digest mismatch.

- `Circuit.openedBy`: the backward ciphers and digest after some cells; the streams they are
  addressed to play no part.
- `ReaderEvent.due`: what a result has to put into a channel, told from the history alone.
- `ReaderInv`: what the history says of the circuit while the reader is in its loop and after.
- `reader_fails_closed`: the reader hands out what is due and nothing else, and leaves the
  circuit Closed without a sender.
-/

namespace MiniTor.Client

open Theory

variable (P : Primitives)

/-! ## The task -/

/-- What happens to a circuit with a reader: a `from_stream` of the reader returns, the
reader's task ends after its loop, or another task has the circuit. -/
inductive ReaderEvent
  | result (r : Except IoError (Option Message))
  | finish
  | register (streamId : StreamId) (sender : StreamSender)
  | unregister (streamId : StreamId)
  | dropReceiver (channel : Nat) (streamId : StreamId)
  | send (writer : Message.Writer) (streamId : StreamId) (command : MessageCommand) (data : Bytes)
  | expire

/-- What a turn of the loop acts on: no message is the end of the stream or an error. -/
def readerInput : Except IoError (Option Message) → Option Message
  | .ok msg => msg
  | .error _ => none

/-- The circuit after an event, and what was put into channels. A result that would come after
the loop is never asked for. -/
def LiveCircuit.readerAct (live : LiveCircuit) : ReaderEvent → LiveCircuit × List (Nat × Message)
  | .result r =>
    if live.reader = .reading then
      let (live, delivered) := live.read P (readerInput r)
      (live, delivered.toList)
    else (live, [])
  | .finish => (if live.reader = .leaving then live.readerEnd else live, [])
  | .register streamId sender =>
    ({ live with circuit := live.circuit.registerStream streamId sender }, [])
  | .unregister streamId => (live.unregister streamId, [])
  | .dropReceiver channel streamId => (live.dropReceiver channel streamId, [])
  | .send writer streamId command data => ((live.send P writer streamId command data).1, [])
  | .expire => (if live.circuit.state = .ready then live.expire else live, [])

def LiveCircuit.readerStepTo (live : LiveCircuit) (e : ReaderEvent) : LiveCircuit :=
  (live.readerAct P e).1

section

variable {P} {live : LiveCircuit}

theorem LiveCircuit.readerAct_result (hreading : live.reader = .reading)
    (r : Except IoError (Option Message)) :
    live.readerAct P (.result r) =
      ((live.read P (readerInput r)).1, (live.read P (readerInput r)).2.toList) := if_pos hreading

theorem LiveCircuit.readerAct_result_after (hnot : live.reader ≠ .reading)
    (r : Except IoError (Option Message)) : live.readerAct P (.result r) = (live, []) := if_neg hnot

theorem LiveCircuit.readerStepTo_finish :
    live.readerStepTo P .finish = if live.reader = .leaving then live.readerEnd else live := rfl

theorem LiveCircuit.readerStepTo_expire :
    live.readerStepTo P .expire = if live.circuit.state = .ready then live.expire else live := rfl

end

/-! ## What the history says -/

/-- The cell among the results. -/
def ReaderEvent.cell? : ReaderEvent → Option Message
  | result (.ok (some msg)) => some msg
  | _ => none

def cellsOf (past : List ReaderEvent) : List Message := past.filterMap ReaderEvent.cell?

/-- The circuit after these backward cells, whatever streams they are for. -/
def Circuit.openedBy (c : Circuit) (cells : List Message) : Circuit :=
  cells.foldl (fun c msg => c.opened msg.streamId msg.command (c.decrypted P msg)) c

/-- A cell that is no DESTROY and whose tag continues the backward digest. -/
def Circuit.Genuine (c : Circuit) (msg : Message) : Prop :=
  msg.command ≠ .destroy ∧
    msg.digest = tagOf P (c.onionKeys.backwardDigest.state ++
      cellTranscript msg.streamId msg.command.toU8 (c.decrypted P msg))

instance (c : Circuit) (msg : Message) : Decidable (c.Genuine P msg) :=
  inferInstanceAs (Decidable (_ ∧ _))

/-- The results that end the loop. -/
def ReaderEvent.Fails (c : Circuit) (past : List ReaderEvent) : ReaderEvent → Prop
  | result (.ok (some msg)) => ¬(c.openedBy P (cellsOf past)).Genuine P msg
  | result (.ok none) => True
  | result (.error _) => True
  | _ => False

instance (c : Circuit) (past : List ReaderEvent) (e : ReaderEvent) :
    Decidable (e.Fails P c past) := by
  unfold ReaderEvent.Fails
  split <;> infer_instance

/-- No result so far ended the loop. -/
def Unfailed (c : Circuit) (past : List ReaderEvent) : Prop :=
  EveryPast (fun past e => ¬e.Fails P c past) past

instance (c : Circuit) (past : List ReaderEvent) : Decidable (Unfailed P c past) :=
  inferInstanceAs (Decidable (EveryPast _ past))

/-- The streams registered after what the other tasks did. -/
def registered (senders : AList fun _ : StreamId => StreamSender) (past : List ReaderEvent) :
    AList fun _ : StreamId => StreamSender :=
  past.foldl (fun senders e =>
    match e with
    | .register streamId sender => senders.insert streamId sender
    | .unregister streamId => senders.erase streamId
    | .dropReceiver channel streamId => senders.modify streamId fun sender =>
      if sender.channel = channel then { sender with receiverAlive := false } else sender
    | _ => senders) senders

/-- What an event has to put into a channel: a cell before the first result that fails goes, in
the clear, to the stream registered under its id. -/
def ReaderEvent.due (c : Circuit) (past : List ReaderEvent) : ReaderEvent → Option (Nat × Message)
  | result (.ok (some msg)) =>
    if Unfailed P c (past ++ [result (.ok (some msg))]) then
      delivery (registered c.streamSenders past)
        (Message.new msg.circuitId msg.streamId msg.command
          ((c.openedBy P (cellsOf past)).decrypted P msg))
    else none
  | _ => none

variable {P}

/-! ## The backward half of a circuit -/

/-- The same backward ciphers and digest. -/
structure Circuit.SameBackward (c c' : Circuit) : Prop where
  ciphers : c.onionKeys.ciphers.map CipherPair.backward =
    c'.onionKeys.ciphers.map CipherPair.backward
  digest : c.onionKeys.backwardDigest = c'.onionKeys.backwardDigest

namespace Circuit.SameBackward

variable {c c' : Circuit}

theorem refl (c : Circuit) : c.SameBackward c := ⟨rfl, rfl⟩

theorem trans {c'' : Circuit} (h : c.SameBackward c') (h' : c'.SameBackward c'') :
    c.SameBackward c'' := ⟨h.ciphers.trans h'.ciphers, h.digest.trans h'.digest⟩

theorem decrypted (h : c.SameBackward c') (msg : Message) :
    c.decrypted P msg = c'.decrypted P msg := by
  have hlayers := congrArg (List.map (Aes128Ctr.layer P)) h.ciphers
  rw [List.map_map, List.map_map] at hlayers
  unfold Circuit.decrypted
  exact congrArg (fun layers => (applyLayers layers msg.data).2) hlayers

theorem opened (h : c.SameBackward c') (streamId : StreamId) (command : MessageCommand)
    (data : Bytes) :
    (c.opened streamId command data).SameBackward (c'.opened streamId command data) := by
  have hadvance := congrArg (List.map (Aes128Ctr.advance · data.length)) h.ciphers
  rw [List.map_map, List.map_map] at hadvance
  constructor
  · show (advanceBackwardAll _ _).map _ = (advanceBackwardAll _ _).map _
    rw [advanceBackwardAll, advanceBackwardAll, List.map_map, List.map_map]
    exact hadvance
  · show RunningDigest.mk _ = RunningDigest.mk _
    rw [h.digest]

theorem genuine_iff (h : c.SameBackward c') (msg : Message) :
    c.Genuine P msg ↔ c'.Genuine P msg := by
  rw [Genuine, Genuine, h.digest, h.decrypted]

/-- Sealing a cell moves the forward half only. -/
theorem sendMessage (c : Circuit) (writer : Message.Writer) (streamId : StreamId)
    (command : MessageCommand) (data : Bytes) :
    (c.sendMessage P writer streamId command data).1.SameBackward c := by
  have hciphers := wrapForward_fst P c.onionKeys.ciphers data
  unfold Circuit.sendMessage OnionKeys.onionEncrypt
  dsimp only
  split
  · refine ⟨?_, rfl⟩
    dsimp only
    rw [hciphers, advanceForwardAll, List.map_map]
    rfl
  · refine ⟨?_, rfl⟩
    dsimp only
    rw [hciphers, advanceForwardAll, List.map_map]
    rfl

end Circuit.SameBackward

theorem Circuit.openedBy_concat (c : Circuit) (cells : List Message) (msg : Message) :
    c.openedBy P (cells ++ [msg]) =
      (c.openedBy P cells).opened msg.streamId msg.command
        ((c.openedBy P cells).decrypted P msg) := List.foldl_concat ..

/-- Each backward cipher has moved by all the bytes. -/
theorem Circuit.openedBy_ciphers (c : Circuit) (cells : List Message) :
    (c.openedBy P cells).onionKeys.ciphers.map CipherPair.backward =
      (c.onionKeys.ciphers.map CipherPair.backward).map
        (Aes128Ctr.advance · (cells.map fun msg => msg.data.length).sum) := by
  induction cells using List.reverseRecOn with
  | nil => simp [openedBy, Aes128Ctr.advance]
  | append_singleton cells msg ih =>
    have hlen : ((c.openedBy P cells).decrypted P msg).length = msg.data.length :=
      length_applyLayers ..
    rw [openedBy_concat]
    show (advanceBackwardAll _ _).map _ = _
    rw [hlen, advanceBackwardAll, List.map_map, List.map_append, List.sum_append]
    have hmoved := congrArg (List.map (Aes128Ctr.advance · msg.data.length)) ih
    rw [List.map_map, List.map_map, List.map_map] at hmoved
    rw [List.map_map]
    refine Eq.trans hmoved (List.map_congr_left fun cipher _ => ?_)
    simp [Aes128Ctr.advance, Nat.add_assoc]

/-! ## A turn of the loop -/

theorem Circuit.readerTurn_genuine {c : Circuit} {msg : Message} (h : c.Genuine P msg) :
    c.readerTurn P (some msg) =
      ⟨c.opened msg.streamId msg.command (c.decrypted P msg),
        some (Message.new msg.circuitId msg.streamId msg.command (c.decrypted P msg)),
        delivery c.streamSenders
          (Message.new msg.circuitId msg.streamId msg.command (c.decrypted P msg)), true⟩ := by
  have hstep := c.readerStep_eq (P := P) (some msg)
  rw [Circuit.readerStep_accept h.1 h.2] at hstep
  cases hreading : (c.readerTurn P (some msg)).reading with
  | true =>
    rw [hreading, if_pos rfl] at hstep
    exact hstep.symm
  | false =>
    rw [hreading, if_neg Bool.false_ne_true] at hstep
    have hflag := congrArg ReaderOutcome.reading hstep
    rw [hreading] at hflag
    cases hflag

/-- Every other cell, and having none, ends the loop with the circuit Closed. -/
theorem Circuit.readerTurn_fails {c : Circuit} {input : Option Message}
    (h : ∀ msg ∈ input, ¬c.Genuine P msg) :
    (c.readerTurn P input).reading = false ∧ (c.readerTurn P input).delivered = none ∧
      (c.readerTurn P input).circuit.state = .closed := by
  cases input with
  | none => exact ⟨rfl, rfl, rfl⟩
  | some msg =>
    have hnot := h msg rfl
    unfold readerTurn
    dsimp only
    by_cases hdestroy : msg.command = .destroy
    · rw [if_pos hdestroy]
      exact ⟨rfl, rfl, rfl⟩
    · have hsnd : (c.onionKeys.onionDecrypt P msg.data).2 = c.decrypted P msg :=
        unwrapBackward_snd P c.onionKeys.ciphers msg.data
      have hverify : (RunningDigest.verify P (c.onionKeys.onionDecrypt P msg.data).1.backwardDigest
          msg.streamId msg.command.toU8 (c.onionKeys.onionDecrypt P msg.data).2 msg.digest).2 =
            false := by
        rw [hsnd]
        show (tagOf P _ == msg.digest) = false
        exact beq_eq_false_iff_ne.mpr fun htag => hnot ⟨hdestroy, htag.symm⟩
      rw [if_neg hdestroy, hverify]
      exact ⟨rfl, rfl, rfl⟩

/-! ## The invariant -/

/-- What the history says of the circuit. -/
structure ReaderInv (P : Primitives) (c : Circuit) (past : List ReaderEvent) (live : LiveCircuit) :
    Prop where
  reading_iff : live.reader = .reading ↔ Unfailed P c past
  /-- Every cell so far has moved the ciphers and the digest. -/
  opened : live.reader = .reading → live.circuit.SameBackward (c.openedBy P (cellsOf past))
  senders : live.reader = .reading →
    live.circuit.streamSenders = registered c.streamSenders past
  closed : live.reader ≠ .reading → live.circuit.state = .closed

theorem unfailed_concat {c : Circuit} {past : List ReaderEvent} {e : ReaderEvent} :
    Unfailed P c (past ++ [e]) ↔ Unfailed P c past ∧ ¬e.Fails P c past := everyPast_concat

theorem cellsOf_concat (past : List ReaderEvent) (e : ReaderEvent) :
    cellsOf (past ++ [e]) = cellsOf past ++ e.cell?.toList := by
  rw [cellsOf, cellsOf, List.filterMap_append]
  cases hcell : e.cell? with
  | none => rw [List.filterMap_cons_none hcell]; rfl
  | some msg => rw [List.filterMap_cons_some hcell]; rfl

namespace ReaderInv

variable {c : Circuit} {past : List ReaderEvent} {live : LiveCircuit}

/-- An event of another task that leaves the reader and the backward half alone. -/
theorem other (h : ReaderInv P c past live) {e : ReaderEvent} {live' : LiveCircuit}
    (hcell : e.cell? = none) (hfails : ¬e.Fails P c past) (hreader : live'.reader = live.reader)
    (hback : live'.circuit.SameBackward live.circuit)
    (hsenders : live.circuit.streamSenders = registered c.streamSenders past →
      live'.circuit.streamSenders = registered c.streamSenders (past ++ [e]))
    (hclosed : live.circuit.state = .closed → live'.circuit.state = .closed) :
    ReaderInv P c (past ++ [e]) live' where
  reading_iff := by
    rw [hreader, unfailed_concat, h.reading_iff]
    exact (and_iff_left hfails).symm
  opened hreading := by
    rw [hreader] at hreading
    rw [cellsOf_concat, hcell, Option.toList_none, List.append_nil]
    exact hback.trans (h.opened hreading)
  senders hreading := by
    rw [hreader] at hreading
    exact hsenders (h.senders hreading)
  closed hnot := by
    rw [hreader] at hnot
    exact hclosed (h.closed hnot)

/-- An event after the loop. -/
theorem after (h : ReaderInv P c past live) {e : ReaderEvent} {live' : LiveCircuit}
    (hnot : live.reader ≠ .reading) (hreader : live'.reader ≠ .reading)
    (hclosed : live'.circuit.state = .closed) : ReaderInv P c (past ++ [e]) live' where
  reading_iff := by
    rw [unfailed_concat, ← h.reading_iff]
    exact ⟨fun hreading => absurd hreading hreader, fun hopen => absurd hopen.1 hnot⟩
  opened hreading := absurd hreading hreader
  senders hreading := absurd hreading hreader
  closed _ := hclosed

/-- Once the loop has ended, nothing is due. -/
theorem due_eq_none (h : ReaderInv P c past live) (hnot : live.reader ≠ .reading)
    (e : ReaderEvent) : e.due P c past = none := by
  have hfailed : ¬Unfailed P c (past ++ [e]) := fun hopen =>
    hnot (h.reading_iff.mpr (unfailed_concat.mp hopen).1)
  cases e with
  | result r =>
    rcases r with e | (_ | msg)
    · rfl
    · rfl
    · exact if_neg hfailed
  | _ => rfl

/-- A result while the reader is in its loop. -/
theorem result (h : ReaderInv P c past live) (hreading : live.reader = .reading)
    (r : Except IoError (Option Message)) :
    (live.read P (readerInput r)).2 = (ReaderEvent.result r).due P c past ∧
      ReaderInv P c (past ++ [.result r]) (live.read P (readerInput r)).1 := by
  have hopened := h.opened hreading
  have hunfailed := h.reading_iff.mp hreading
  by_cases hfails : (ReaderEvent.result r).Fails P c past
  · -- the loop ends here
    have hinput : ∀ msg ∈ readerInput r, ¬live.circuit.Genuine P msg := by
      intro msg hmsg
      rcases r with e | (_ | msg')
      · cases hmsg
      · cases hmsg
      · cases hmsg
        rw [hopened.genuine_iff]
        exact hfails
    obtain ⟨hstop, hnone, hstate⟩ := Circuit.readerTurn_fails hinput
    have hleft : (live.read P (readerInput r)).1.reader ≠ .reading := by
      show (if _ then ReaderPhase.reading else .leaving) ≠ .reading
      rw [hstop, if_neg Bool.false_ne_true]
      exact fun heq => nomatch heq
    have hdue : (ReaderEvent.result r).due P c past = none := by
      rcases r with e | (_ | msg)
      · rfl
      · rfl
      · exact if_neg fun hopen => (unfailed_concat.mp hopen).2 hfails
    refine ⟨hnone.trans hdue.symm, ?_⟩
    constructor
    · rw [unfailed_concat]
      exact ⟨fun heq => absurd heq hleft, fun hopen => absurd hfails hopen.2⟩
    · exact fun heq => absurd heq hleft
    · exact fun heq => absurd heq hleft
    · exact fun _ => hstate
  · -- a cell that continues the digest
    rcases r with e | (_ | msg)
    · exact absurd trivial hfails
    · exact absurd trivial hfails
    · have hgenuine : (c.openedBy P (cellsOf past)).Genuine P msg := not_not.mp hfails
      have hturn := Circuit.readerTurn_genuine ((hopened.genuine_iff msg).mpr hgenuine)
      have hplain := hopened.decrypted (P := P) msg
      have hstill : Unfailed P c (past ++ [.result (.ok (some msg))]) :=
        unfailed_concat.mpr ⟨hunfailed, hfails⟩
      have hreads : (live.read P (some msg)).1.reader = .reading := by
        show (if (live.circuit.readerTurn P (some msg)).reading then ReaderPhase.reading
          else .leaving) = .reading
        rw [hturn]
        rfl
      have hcircuit : (live.read P (some msg)).1.circuit =
          live.circuit.opened msg.streamId msg.command (live.circuit.decrypted P msg) := by
        show (live.circuit.readerTurn P (some msg)).circuit = _
        rw [hturn]
      constructor
      · show (live.circuit.readerTurn P (some msg)).delivered = if _ then _ else none
        rw [hturn, if_pos hstill, ← hplain, ← h.senders hreading]
      · constructor
        · exact ⟨fun _ => hstill, fun _ => hreads⟩
        · intro _
          show Circuit.SameBackward (live.read P (some msg)).1.circuit _
          rw [hcircuit, cellsOf_concat]
          show Circuit.SameBackward _ (c.openedBy P (cellsOf past ++ [msg]))
          rw [Circuit.openedBy_concat, ← hplain]
          exact hopened.opened _ _ _
        · intro _
          show (live.read P (some msg)).1.circuit.streamSenders = _
          rw [hcircuit, registered, List.foldl_concat]
          exact h.senders hreading
        · exact fun hnot => absurd hreads hnot

/-- **One event**: what is put into a channel is what is due, and the history goes on to say
what the circuit is like. -/
theorem step (h : ReaderInv P c past live) (e : ReaderEvent) :
    (live.readerAct P e).2 = (e.due P c past).toList ∧
      ReaderInv P c (past ++ [e]) (live.readerStepTo P e) := by
  cases e with
  | result r =>
    unfold LiveCircuit.readerStepTo
    by_cases hreading : live.reader = .reading
    · rw [LiveCircuit.readerAct_result hreading]
      obtain ⟨hdue, hnext⟩ := h.result hreading r
      exact ⟨congrArg Option.toList hdue, hnext⟩
    · rw [LiveCircuit.readerAct_result_after hreading, h.due_eq_none hreading]
      exact ⟨rfl, h.after hreading hreading (h.closed hreading)⟩
  | finish =>
    refine ⟨rfl, ?_⟩
    rw [LiveCircuit.readerStepTo_finish]
    by_cases hleaving : live.reader = .leaving
    · rw [if_pos hleaving]
      exact h.after (hleaving ▸ nofun) nofun rfl
    · rw [if_neg hleaving]
      refine h.other rfl id rfl (.refl _) (fun hsame => ?_) id
      rw [hsame, registered, registered, List.foldl_concat]
  | register streamId sender =>
    refine ⟨rfl, h.other rfl id rfl ⟨rfl, rfl⟩ (fun hsame => ?_) id⟩
    rw [registered, List.foldl_concat]
    exact congrArg (AList.insert streamId sender) hsame
  | unregister streamId =>
    refine ⟨rfl, h.other rfl id rfl ⟨rfl, rfl⟩ (fun hsame => ?_) id⟩
    rw [registered, List.foldl_concat]
    exact congrArg (AList.erase streamId) hsame
  | dropReceiver channel streamId =>
    refine ⟨rfl, h.other rfl id rfl ⟨rfl, rfl⟩ (fun hsame => ?_) id⟩
    rw [registered, List.foldl_concat]
    exact congrArg (fun senders => AList.modify senders streamId _) hsame
  | send writer streamId command data =>
    have hcircuit : (live.send P writer streamId command data).1.circuit =
        (live.circuit.sendMessage P writer streamId command data).1 := by
      unfold LiveCircuit.send
      split <;> simp [*]
    have hreader : (live.send P writer streamId command data).1.reader = live.reader := by
      unfold LiveCircuit.send
      split <;> rfl
    obtain ⟨-, hstate, hsenders⟩ := @LiveCircuit.Touched.sendMessage_same P live.circuit writer
      streamId command data
    have hstep : live.readerStepTo P (.send writer streamId command data) =
        (live.send P writer streamId command data).1 := rfl
    rw [hstep]
    refine ⟨rfl, h.other rfl id hreader ?_ (fun hsame => ?_) fun hclosed => ?_⟩
    · rw [hcircuit]
      exact .sendMessage live.circuit writer streamId command data
    · rw [hcircuit, hsenders, hsame, registered, registered, List.foldl_concat]
    · rw [hcircuit, hstate, hclosed]
  | expire =>
    refine ⟨rfl, ?_⟩
    rw [LiveCircuit.readerStepTo_expire]
    by_cases hready : live.circuit.state = .ready
    · rw [if_pos hready]
      refine h.other rfl id rfl ⟨rfl, rfl⟩ (fun hsame => ?_) fun hclosed => ?_
      · rw [registered, List.foldl_concat]
        exact hsame
      · rw [hready] at hclosed
        cases hclosed
    · rw [if_neg hready]
      refine h.other rfl id rfl (.refl _) (fun hsame => ?_) id
      rw [hsame, registered, registered, List.foldl_concat]

/-- From the start of the reader's task on. -/
theorem run (P : Primitives) (c : Circuit) (sent : List MessageCommand) (accepted : Nat)
    (past : List ReaderEvent) :
    ReaderInv P c past (Theory.run (LiveCircuit.readerStepTo P) ⟨c, .reading, sent, accepted⟩ past) := by
  induction past using List.reverseRecOn with
  | nil =>
    refine ⟨⟨fun _ => everyPast_nil, fun _ => rfl⟩, fun _ => .refl c, fun _ => rfl, ?_⟩
    exact fun hnot => absurd rfl hnot
  | append_singleton past e ih =>
    rw [run_append]
    exact (ih.step e).2

end ReaderInv

/-- **The reader fails closed.** Over every sequence of results of `from_stream`, with anything
the other tasks do in between:
- the channels get what is due, in order: the cells before the first DESTROY, digest mismatch,
  malformed cell or end of the stream that are for a stream registered at the time;
- the reader is in its loop exactly until then, and all cells have moved all backward ciphers
  and the digest;
- out of the loop the circuit is Closed, and the end of the task leaves it without senders. -/
theorem reader_fails_closed (P : Primitives) (c : Circuit) (sent : List MessageCommand)
    (accepted : Nat) (events : List ReaderEvent) :
    let start : LiveCircuit := ⟨c, .reading, sent, accepted⟩
    let live := Theory.run (LiveCircuit.readerStepTo P) start events
    outputs (LiveCircuit.readerStepTo P) (fun live e => (live.readerAct P e).2) start events =
        (withPast events).flatMap (fun x => (x.2.due P c x.1).toList) ∧
      (live.reader = .reading ↔ Unfailed P c events) ∧
      (live.reader = .reading →
        live.circuit.onionKeys.ciphers.map CipherPair.backward =
            (c.onionKeys.ciphers.map CipherPair.backward).map (Aes128Ctr.advance ·
              ((cellsOf events).map fun msg => msg.data.length).sum) ∧
          live.circuit.onionKeys.backwardDigest =
            (c.openedBy P (cellsOf events)).onionKeys.backwardDigest) ∧
      (live.reader ≠ .reading → live.circuit.state = .closed) ∧
      (live.reader = .leaving →
        (live.readerStepTo P .finish).reader = .ended ∧
          (live.readerStepTo P .finish).circuit.state = .closed ∧
          (live.readerStepTo P .finish).circuit.streamSenders = ∅) := by
  intro start live
  have hinv : ReaderInv P c events live := ReaderInv.run P c sent accepted events
  refine ⟨?_, hinv.reading_iff, fun hreading => ?_, hinv.closed, fun hleaving => ?_⟩
  · rw [outputs_eq]
    exact List.flatMap_congr fun x _ => ((ReaderInv.run P c sent accepted x.1).step x.2).1
  · have hopened := hinv.opened hreading
    exact ⟨hopened.ciphers.trans (c.openedBy_ciphers _), hopened.digest⟩
  · have hend : live.readerStepTo P .finish = live.readerEnd := if_pos hleaving
    rw [hend]
    exact ⟨rfl, rfl, rfl⟩

end MiniTor.Client
