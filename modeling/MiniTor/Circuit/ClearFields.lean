import MiniTor.Circuit.Start
import MiniTor.Circuit.Teardown
import MiniTor.Theory.Collision

/-!
# What the relays of a circuit see in the clear

A relay peels one layer off a cell's payload and passes every other field on. So what the
entry and the middles see of a cell besides that payload is what the client put there: the
circuit id, the stream id, the command, the payload's length, and the digest, which is
computed before any layer is applied.

- `WatchedLine`: a client that seals one payload after the other, and the relays that pass
  the cells on, each at its own pace; the log has every cell a relay handles and what it
  writes to its next hop.
- `WatchedLine.Sound.passedOn_prefix`: the fields in the clear of the cells a relay passes on
  are those of the sealed cells, in order (`sealedFields`).
- `clear_fields_agree_iff`: two runs that agree but for their payloads. The digests of the
  `k`-th cell agree exactly if the payloads sent up to it do, or what was fed into the digest
  collides.
- `digest_reveals_destination`: the digests differ, and the entry can tell.
-/

namespace MiniTor

open Theory Client

variable (P : Primitives) (A : AddrSyntax) (circuitId : CircuitId)

/-! ## Fields in the clear -/

/-- The fields of a message that no layer covers and no digest is. -/
structure Header where
  circuitId : CircuitId
  streamId : StreamId
  command : MessageCommand
  length : Nat
  deriving DecidableEq

def Message.header (m : Message) : Header :=
  ⟨m.circuitId, m.streamId, m.command, m.data.length⟩

/-- All fields in the clear. -/
def Message.clear (m : Message) : Header × ByteArr 4 := (m.header, m.digest)

/-- What of a plaintext is no payload. -/
def Plain.shape (p : Plain) : StreamId × MessageCommand × Nat :=
  (p.streamId, p.command, p.data.length)

def Plain.header (p : Plain) : Header := ⟨circuitId, p.streamId, p.command, p.data.length⟩

/-- The forward digest after a plaintext was fed into it. -/
def absorb (d : Bytes) (p : Plain) : Bytes :=
  d ++ cellTranscript p.streamId p.command.toU8 p.data

/-- What was fed into the digest up to each cell that is written when these plaintexts are
sent; one that is too long is not written, and the digest goes on. -/
def transcripts : Bytes → List Plain → List Bytes
  | _, [] => []
  | d, p :: ps =>
    if p.data.length ≤ MAX_PAYLOAD_SIZE then absorb d p :: transcripts (absorb d p) ps
    else transcripts (absorb d p) ps

/-- The plaintexts among these that are written. -/
def written (ps : List Plain) : List Plain := ps.filter fun p => p.data.length ≤ MAX_PAYLOAD_SIZE

/-- The plaintexts sent up to the `k`-th cell that is written, counting from 0. -/
def sentUpTo : Nat → List Plain → List Plain
  | _, [] => []
  | 0, p :: ps => if p.data.length ≤ MAX_PAYLOAD_SIZE then [p] else p :: sentUpTo 0 ps
  | k + 1, p :: ps =>
    if p.data.length ≤ MAX_PAYLOAD_SIZE then p :: sentUpTo k ps else p :: sentUpTo (k + 1) ps

/-- The fields in the clear of the cells that are written when these plaintexts are sent. -/
def sealedFields (d : Bytes) (ps : List Plain) : List (Header × ByteArr 4) :=
  ((written ps).map (Plain.header circuitId)).zip ((transcripts d ps).map (tagOf P))

/-! ## A line whose cells are logged -/

/-- A cell a relay handled: its position, the message, and the cells it wrote to its next
hop. -/
structure Handled where
  hop : Nat
  message : Message
  forwarded : List Bytes
  deriving DecidableEq

structure WatchedLine where
  client : Circuit
  hops : List Node
  /-- The random bytes the client pads with. -/
  padding : Nat → UInt8
  sent : List Plain
  log : List Handled

inductive LineEvent
  /-- `Circuit::send_message`. -/
  | send (p : Plain)
  | keepalive (data : Bytes)
  | hopServe (index : Nat)
  | hopRead (index : Nat)
  /-- The exit writes a cell back. -/
  | respond (cell : Bytes)

/-- The client sends BEGIN, DATA and END; the exit's cells are a built circuit's. -/
def LineEvent.Allowed : LineEvent → Prop
  | .send p => p.command = .begin ∨ p.command = .data ∨ p.command = .end
  | .respond cell => Carries (Message.Backward circuitId) [cell]
  | _ => True

/-- The message a node will handle next. -/
def Node.nextMessage (n : Node) : Option Message :=
  match n.serving, n.fwdIn with
  | true, cell :: _ => (Message.fromBytes cell).toOption
  | _, _ => none

/-- What the hop at an index is about to handle, and what it will write. -/
def handling (index : Nat) (hops : List Node) : List Handled :=
  match hops[index]? with
  | some n => n.nextMessage.toList.map fun m =>
    ⟨index, m, cellsForward (n.serve P A fun _ => .ok ()).sent⟩
  | none => []

namespace WatchedLine

/-- A line on which nothing was sent yet. -/
def start (client : Circuit) (hops : List Host) (padding : Nat → UInt8) : WatchedLine :=
  { client, hops := hops.map Node.idle, padding, sent := [], log := [] }

def sendMessage (s : WatchedLine) (p : Plain) : WatchedLine :=
  match s.client.sendMessage P (.working s.padding) p.streamId p.command p.data with
  | (client, .ok cell) =>
    { s with client, hops := (pushFirst [cell] s.hops).1, sent := s.sent ++ [p] }
  | (client, .error _) => { s with client, sent := s.sent ++ [p] }

def keepalive (s : WatchedLine) (data : Bytes) : WatchedLine :=
  if s.client.state = .ready then
    match s.client.sendPadding (.working s.padding) data with
    | .ok cell => { s with hops := (pushFirst [cell] s.hops).1 }
    | .error _ => s
  else s

def step (s : WatchedLine) : LineEvent → WatchedLine
  | .send p => s.sendMessage P p
  | .keepalive data => s.keepalive data
  | .hopServe index =>
    { s with
      hops := (actAt (Node.serve P A fun _ => .ok ()) index s.hops).nodes
      log := s.log ++ handling P A index s.hops }
  | .hopRead index => { s with hops := (actAt (Node.readNext P A circuitId) index s.hops).nodes }
  | .respond cell => { s with hops := (pushLast [cell] s.hops).1 }

/-- What the hop at an index has handled and passed on. -/
def passedOn (s : WatchedLine) (index : Nat) : List Handled :=
  s.log.filter fun h => h.hop = index ∧ h.forwarded ≠ []

/-- What a hop has been sent: the client's cells, or what the hop before it passed on. -/
def inputs (s : WatchedLine) (d : Bytes) : Nat → List (Header × ByteArr 4)
  | 0 => sealedFields P circuitId d s.sent
  | index + 1 => (s.passedOn index).map fun h => h.message.clear

end WatchedLine

/-- The plaintexts a run sends. -/
def sendsOf (events : List LineEvent) : List Plain :=
  events.filterMap fun e =>
    match e with
    | .send p => some p
    | _ => none

variable {P A circuitId}

/-! ## What is sealed -/

theorem written_append (ps qs : List Plain) : written (ps ++ qs) = written ps ++ written qs :=
  List.filter_append ..

theorem transcripts_append (d : Bytes) (ps qs : List Plain) :
    transcripts d (ps ++ qs) = transcripts d ps ++ transcripts (ps.foldl absorb d) qs := by
  induction ps generalizing d with
  | nil => rfl
  | cons p ps ih =>
    by_cases hfits : p.data.length ≤ MAX_PAYLOAD_SIZE
    · simp only [List.cons_append, transcripts, if_pos hfits, List.foldl_cons, ih]
    · simp only [List.cons_append, transcripts, if_neg hfits, List.foldl_cons, ih]

@[simp] theorem length_transcripts (d : Bytes) (ps : List Plain) :
    (transcripts d ps).length = (written ps).length := by
  induction ps generalizing d with
  | nil => rfl
  | cons p ps ih =>
    by_cases hfits : p.data.length ≤ MAX_PAYLOAD_SIZE
    · simp [transcripts, written, hfits, ih]
    · simp [transcripts, written, hfits, ih]

theorem sealedFields_append (d : Bytes) (ps qs : List Plain) :
    sealedFields P circuitId d (ps ++ qs) =
      sealedFields P circuitId d ps ++ sealedFields P circuitId (ps.foldl absorb d) qs := by
  rw [sealedFields, written_append, transcripts_append, List.map_append, List.map_append,
    List.zip_append (by simp)]
  rfl

theorem sealedFields_fits {d : Bytes} {p : Plain} (h : p.data.length ≤ MAX_PAYLOAD_SIZE) :
    sealedFields P circuitId d [p] = [(p.header circuitId, tagOf P (absorb d p))] := by
  simp [sealedFields, written, transcripts, h]

theorem sealedFields_tooLong {d : Bytes} {p : Plain} (h : ¬p.data.length ≤ MAX_PAYLOAD_SIZE) :
    sealedFields P circuitId d [p] = [] := by
  simp [sealedFields, written, transcripts, h]

/-- Which plaintexts are written, and under which headers, is a matter of their shapes. -/
theorem headers_eq (ps : List Plain) :
    (written ps).map (Plain.header circuitId) =
      ((ps.map Plain.shape).filter fun shape => shape.2.2 ≤ MAX_PAYLOAD_SIZE).map
        fun shape => ⟨circuitId, shape.1, shape.2.1, shape.2.2⟩ := by
  rw [List.filter_map, List.map_map]
  rfl

/-! ## What is fed into the digest -/

/-- What is fed into the digest up to a cell comes from the plaintexts sent up to it. -/
theorem eq_of_transcripts_getElem? {d t : Bytes} {ps : List Plain} {k : Nat}
    (h : (transcripts d ps)[k]? = some t) : t = (sentUpTo k ps).foldl absorb d := by
  induction ps generalizing d k with
  | nil => cases h
  | cons p ps ih =>
    by_cases hfits : p.data.length ≤ MAX_PAYLOAD_SIZE
    · rw [transcripts, if_pos hfits] at h
      cases k with
      | zero =>
        rw [sentUpTo, if_pos hfits]
        exact (Option.some.inj h).symm
      | succ k =>
        rw [sentUpTo, if_pos hfits]
        exact ih h
    · rw [transcripts, if_neg hfits] at h
      cases k with
      | zero =>
        rw [sentUpTo, if_neg hfits]
        exact ih h
      | succ k =>
        rw [sentUpTo, if_neg hfits]
        exact ih h

/-- How far a cell is down the list is a matter of the shapes. -/
theorem sentUpTo_shapes {ps ps' : List Plain} (h : ps.map Plain.shape = ps'.map Plain.shape)
    (k : Nat) : (sentUpTo k ps).map Plain.shape = (sentUpTo k ps').map Plain.shape := by
  induction ps generalizing ps' k with
  | nil =>
    obtain rfl := List.map_eq_nil_iff.mp h.symm
    rfl
  | cons p ps ih =>
    cases ps' with
    | nil => cases h
    | cons p' ps' =>
      obtain ⟨hshape, hrest⟩ := List.cons.inj h
      have hlength : p.data.length = p'.data.length := congrArg (fun shape => shape.2.2) hshape
      by_cases hfits : p.data.length ≤ MAX_PAYLOAD_SIZE
      · have hfits' : p'.data.length ≤ MAX_PAYLOAD_SIZE := hlength ▸ hfits
        cases k with
        | zero =>
          rw [sentUpTo, sentUpTo, if_pos hfits, if_pos hfits']
          exact congrArg (· :: []) hshape
        | succ k =>
          rw [sentUpTo, sentUpTo, if_pos hfits, if_pos hfits', List.map_cons, List.map_cons,
            hshape, ih hrest k]
      · have hfits' : ¬p'.data.length ≤ MAX_PAYLOAD_SIZE := hlength ▸ hfits
        cases k with
        | zero =>
          rw [sentUpTo, sentUpTo, if_neg hfits, if_neg hfits', List.map_cons, List.map_cons,
            hshape, ih hrest 0]
        | succ k =>
          rw [sentUpTo, sentUpTo, if_neg hfits, if_neg hfits', List.map_cons, List.map_cons,
            hshape, ih hrest (k + 1)]

theorem foldl_absorb (d : Bytes) (ps : List Plain) :
    ps.foldl absorb d =
      d ++ ps.flatMap fun p => cellTranscript p.streamId p.command.toU8 p.data := by
  induction ps generalizing d with
  | nil => exact (List.append_nil d).symm
  | cons p ps ih => rw [List.foldl_cons, ih, absorb, List.flatMap_cons, List.append_assoc]

/-- **Of two lists of one shape the digest is fed the same exactly if the payloads are the
same.** -/
theorem foldl_absorb_eq_iff {ps ps' : List Plain} (h : ps.map Plain.shape = ps'.map Plain.shape)
    (d : Bytes) :
    ps.foldl absorb d = ps'.foldl absorb d ↔ ps.map Plain.data = ps'.map Plain.data := by
  rw [foldl_absorb, foldl_absorb, List.append_cancel_left_eq]
  induction ps generalizing ps' with
  | nil =>
    obtain rfl := List.map_eq_nil_iff.mp h.symm
    exact iff_of_true rfl rfl
  | cons p ps ih =>
    cases ps' with
    | nil => cases h
    | cons p' ps' =>
      obtain ⟨hshape, hrest⟩ := List.cons.inj h
      obtain ⟨hstream, hcommand, hlength⟩ : p.streamId = p'.streamId ∧ p.command = p'.command ∧
          p.data.length = p'.data.length := by
        simpa only [Plain.shape, Prod.mk.injEq] using hshape
      rw [List.flatMap_cons, List.flatMap_cons, List.map_cons, List.map_cons, List.cons.injEq,
        ← ih hrest]
      constructor
      · intro heq
        -- the first cells take up as many bytes, so they end at the same place
        have hsame : (cellTranscript p.streamId p.command.toU8 p.data).length =
            (cellTranscript p'.streamId p'.command.toU8 p'.data).length := by
          rw [length_cellTranscript, length_cellTranscript, hlength]
        obtain ⟨hfirst, hlater⟩ := List.append_inj heq hsame
        exact ⟨(cellTranscript_injective hfirst).2.2, hlater⟩
      · rintro ⟨hdata, hlater⟩
        rw [hstream, hcommand, hdata, hlater]

/-! ## What waits for a hop -/

/-- The messages among these cells that a relay passes on. -/
def relayedIn (cells : List Bytes) : List Message :=
  (messagesIn cells).filter fun m => m.command ≠ .padding

theorem relayedIn_append (cells cells' : List Bytes) :
    relayedIn (cells ++ cells') = relayedIn cells ++ relayedIn cells' := by
  rw [relayedIn, messagesIn_append, List.filter_append]
  rfl

/-- The cells waiting for the hop at an index. -/
def queued (hops : List Node) (index : Nat) : List Bytes :=
  (hops[index]?.map Node.fwdIn).getD []

@[simp] theorem length_pushFirst (cells : List Bytes) (hops : List Node) :
    (pushFirst cells hops).1.length = hops.length := by
  cases hops with
  | nil => rfl
  | cons n rest => rfl

@[simp] theorem length_pushLast (cells : List Bytes) (hops : List Node) :
    (pushLast cells hops).1.length = hops.length := by
  induction hops with
  | nil => rfl
  | cons n rest ih => exact congrArg (· + 1) ih

@[simp] theorem length_actAt (act : Node → Acted) (i : Nat) (hops : List Node) :
    (actAt act i hops).nodes.length = hops.length := by
  induction i generalizing hops with
  | zero =>
    cases hops with
    | nil => rfl
    | cons n rest => exact congrArg (· + 1) (length_pushFirst ..)
  | succ i ih =>
    cases hops with
    | nil => rfl
    | cons n rest => exact congrArg (· + 1) (ih rest)

/-- Cells written to the line wait for its first hop. -/
theorem queued_pushFirst (cells : List Bytes) {hops : List Node} {j : Nat} (hj : j < hops.length) :
    queued (pushFirst cells hops).1 j =
      if j = 0 then queued hops j ++ cells else queued hops j := by
  cases hops with
  | nil => exact absurd hj (Nat.not_lt_zero j)
  | cons n rest =>
    cases j with
    | zero => rfl
    | succ j => rfl

/-- Cells written back wait for no hop to serve them. -/
theorem queued_pushLast (cells : List Bytes) (hops : List Node) (j : Nat) :
    queued (pushLast cells hops).1 j = queued hops j := by
  induction hops generalizing j with
  | nil => rfl
  | cons n rest ih =>
    cases j with
    | zero => rfl
    | succ j => exact ih j

/-- A hop that moves takes from its own queue and adds to the one behind it. -/
theorem queued_actAt {act : Node → Acted} {i : Nat} {hops : List Node} {n : Node}
    (hn : hops[i]? = some n) {j : Nat} (hj : j < hops.length) :
    queued (actAt act i hops).nodes j =
      if j = i then (act n).node.fwdIn
      else if j = i + 1 then queued hops j ++ cellsForward (act n).sent
      else queued hops j := by
  induction i generalizing hops j with
  | zero =>
    cases hops with
    | nil => exact nomatch hn
    | cons m rest =>
      obtain rfl : m = n := Option.some.inj hn
      cases j with
      | zero => rfl
      | succ j =>
        have hpush := queued_pushFirst (cellsForward (act m).sent) (Nat.lt_of_succ_lt_succ hj)
        rw [if_neg (Nat.succ_ne_zero j)]
        simp only [Nat.add_right_cancel_iff]
        exact hpush
  | succ i ih =>
    cases hops with
    | nil => exact nomatch hn
    | cons m rest =>
      cases j with
      | zero =>
        rw [if_neg (Nat.succ_ne_zero i).symm, if_neg (Nat.succ_ne_zero _).symm]
        rfl
      | succ j =>
        have hrest := @ih rest hn j (Nat.lt_of_succ_lt_succ hj)
        simp only [Nat.add_right_cancel_iff]
        exact hrest

/-- No hop at the index: nothing moves. -/
theorem queued_actAt_none {act : Node → Acted} {i : Nat} {hops : List Node}
    (hn : hops[i]? = none) (j : Nat) : queued (actAt act i hops).nodes j = queued hops j := by
  induction i generalizing hops j with
  | zero =>
    cases hops with
    | nil => rfl
    | cons m rest => exact nomatch hn
  | succ i ih =>
    cases hops with
    | nil => rfl
    | cons m rest =>
      cases j with
      | zero => rfl
      | succ j => exact ih hn j

/-! ## A hop that serves -/

variable (P A) in
/-- What the hop at an index is about to handle and pass on. -/
def passing (index : Nat) (hops : List Node) : List Handled :=
  (handling P A index hops).filter fun h => h.forwarded ≠ []

/-- **What a hop passes on** it takes from its queue, and its next hop is sent the same fields
in the clear. -/
theorem Node.Relaying.passing {index : Nat} {hops : List Node} {n : Node}
    (hn : hops[index]? = some n) (h : n.Relaying circuitId) :
    relayedIn n.fwdIn = (passing P A index hops).map Handled.message ++
        relayedIn (n.serve P A fun _ => .ok ()).node.fwdIn ∧
      (relayedIn (cellsForward (n.serve P A fun _ => .ok ()).sent)).map Message.clear =
        (passing P A index hops).map (fun e => e.message.clear) ∧
      ∀ e ∈ passing P A index hops,
        e.hop = index ∧ (messagesIn e.forwarded).map Message.clear = [e.message.clear] := by
  have hhandling : handling P A index hops = n.nextMessage.toList.map fun m =>
      ⟨index, m, cellsForward (n.serve P A fun _ => .ok ()).sent⟩ := by
    rw [handling, hn]
  rw [MiniTor.passing, hhandling]
  cases hcells : n.fwdIn with
  | nil =>
    have hidle : n.serve P A (fun _ => .ok ()) = ⟨n, []⟩ := by
      rw [Node.serve, h.serving, hcells]
    have hnone : n.nextMessage = none := by
      rw [Node.nextMessage, h.serving, hcells]
    rw [hidle, hnone]
    refine ⟨?_, rfl, fun e he => by cases he⟩
    rw [hcells]
    rfl
  | cons cell cells =>
    have hfwd := h.fwd
    rw [hcells] at hfwd
    obtain ⟨m, hm, hforward, -, hmessages⟩ := hfwd.head
    have hnext : n.nextMessage = some m := by
      rw [Node.nextMessage, h.serving, hcells]
      show (Message.fromBytes cell).toOption = _
      rw [hm]
      rfl
    rw [hnext]
    by_cases hpadding : m.command = .padding
    · -- PADDING is handled and not passed on, so neither side counts it
      obtain ⟨cipher, relay, -, -, hserve⟩ :=
        @Node.Relaying.serve_padding P A _ n h (fun _ => .ok ()) _ _ m hcells hm hforward hpadding
      rw [hserve]
      refine ⟨?_, rfl, fun e he => by cases he⟩
      rw [relayedIn, hmessages, List.filter_cons_of_neg (by simp [hpadding])]
      rfl
    · obtain ⟨cipher, relay, -, -, hserve⟩ :=
        @Node.Relaying.serve_relayed P A _ n h (fun _ => .ok ()) _ _ m hcells hm hforward hpadding
      have hfits : (m.peel P cipher).data.length ≤ MAX_PAYLOAD_SIZE := by
        rw [Message.length_peel]
        exact hforward.fits
      have hpeeled : messagesIn [(m.peel P cipher).toBytes n.host.padding] = [m.peel P cipher] :=
        messagesIn_singleton hfits
      -- only the payload goes through the layer, and its length stays
      have hclear : (m.peel P cipher).clear = m.clear := by
        rw [Message.clear, Message.header, Message.length_peel]
        rfl
      rw [hserve]
      refine ⟨?_, ?_, ?_⟩
      · rw [relayedIn, hmessages, List.filter_cons_of_pos (by simp [hpadding])]
        rfl
      · show (relayedIn [(m.peel P cipher).toBytes n.host.padding]).map Message.clear = [m.clear]
        have hcommand : (m.peel P cipher).command ≠ .padding := hpadding
        rw [relayedIn, hpeeled, List.filter_cons_of_pos (by simp [hcommand])]
        exact congrArg (fun x => [x]) hclear
      · intro e he
        obtain rfl : e = ⟨index, m, [(m.peel P cipher).toBytes n.host.padding]⟩ :=
          List.mem_singleton.mp he
        refine ⟨rfl, ?_⟩
        rw [hpeeled]
        exact congrArg (fun x => [x]) hclear

/-! ## The invariant -/

namespace WatchedLine

variable (P circuitId) in
/-- The cells a hop passed on and those that wait for it are what it was sent, in order: to
the first hop the sealed cells, to the others what the hop before them passed on. -/
structure Sound (d : Bytes) (s : WatchedLine) : Prop where
  circuit : s.client.circuitId = circuitId
  digest : s.client.onionKeys.forwardDigest.state = s.sent.foldl absorb d
  relaying : ∀ n ∈ s.hops, n.Relaying circuitId
  queued : ∀ i < s.hops.length,
    (s.passedOn i).map (fun h => h.message.clear) ++
      (relayedIn (queued s.hops i)).map Message.clear = s.inputs P circuitId d i
  logged : ∀ i, ∀ h ∈ s.passedOn i, i < s.hops.length ∧
    (messagesIn h.forwarded).map Message.clear = [h.message.clear]

variable {d : Bytes} {s : WatchedLine}

/-- A step that sends nothing and passes nothing on. -/
theorem Sound.quiet (h : s.Sound P circuitId d) {s' : WatchedLine} (hclient : s'.client = s.client)
    (hsent : s'.sent = s.sent) (hpassed : ∀ j, s'.passedOn j = s.passedOn j)
    (hrelaying : ∀ n ∈ s'.hops, n.Relaying circuitId) (hlength : s'.hops.length = s.hops.length)
    (hqueued : ∀ j < s.hops.length, relayedIn (MiniTor.queued s'.hops j) =
      relayedIn (MiniTor.queued s.hops j)) :
    s'.Sound P circuitId d := by
  have hinputs : ∀ j, s'.inputs P circuitId d j = s.inputs P circuitId d j := by
    intro j
    cases j with
    | zero => rw [inputs, inputs, hsent]
    | succ j => rw [inputs, inputs, hpassed]
  refine ⟨hclient ▸ h.circuit, ?_, hrelaying, ?_, ?_⟩
  · rw [hclient, hsent]
    exact h.digest
  · intro j hj
    rw [hlength] at hj
    rw [hpassed, hinputs, hqueued j hj]
    exact h.queued j hj
  · intro j e he
    rw [hpassed] at he
    rw [hlength]
    exact h.logged j e he

theorem Sound.hopRead (h : s.Sound P circuitId d) (index : Nat) :
    (s.step P A circuitId (.hopRead index)).Sound P circuitId d := by
  have hmove := @actAt_backwards P circuitId (Node.readNext P A circuitId) s.hops
    (fun n hn => hn.readNext) index h.relaying
  refine h.quiet rfl rfl (fun _ => rfl) hmove.relaying (length_actAt ..) ?_
  intro j hj
  show relayedIn (MiniTor.queued (actAt _ index s.hops).nodes j) = _
  cases hn : s.hops[index]? with
  | none => rw [queued_actAt_none hn]
  | some n =>
    have hnode := (h.relaying n (List.mem_of_getElem? hn)).readNext (P := P) (A := A)
    have hkept : (n.readNext P A circuitId).node.fwdIn = n.fwdIn := by
      unfold Node.readNext
      split
      · rfl
      · rfl
    rw [queued_actAt hn hj, hnode.down, List.append_nil, hkept]
    by_cases hself : j = index
    · rw [if_pos hself, hself, MiniTor.queued, hn]
      rfl
    · rw [if_neg hself, ite_self]

theorem Sound.respond (h : s.Sound P circuitId d) {cell : Bytes}
    (hcell : Carries (Message.Backward circuitId) [cell]) :
    (s.step P A circuitId (.respond cell)).Sound P circuitId d := by
  obtain ⟨hrelaying, -⟩ := @pushLast_flush P circuitId s.hops [cell] h.relaying hcell
  refine h.quiet rfl rfl (fun _ => rfl) hrelaying (length_pushLast ..) ?_
  intro j _
  exact congrArg relayedIn (queued_pushLast [cell] s.hops j)

/-- All a hop is about to handle is logged under its index. -/
theorem hop_of_handling {index : Nat} {hops : List Node} {e : Handled}
    (he : e ∈ handling P A index hops) : e.hop = index := by
  unfold handling at he
  split at he
  · obtain ⟨m, -, rfl⟩ := List.mem_map.mp he
    rfl
  · exact nomatch he

theorem passedOn_serve (s : WatchedLine) (index j : Nat) :
    (s.step P A circuitId (.hopServe index)).passedOn j =
      s.passedOn j ++ if j = index then passing P A index s.hops else [] := by
  have happend : (s.step P A circuitId (.hopServe index)).passedOn j = s.passedOn j ++
      (handling P A index s.hops).filter fun h => h.hop = j ∧ h.forwarded ≠ [] :=
    List.filter_append ..
  rw [happend]
  congr 1
  by_cases hj : j = index
  · rw [if_pos hj, passing]
    refine List.filter_congr fun e he => ?_
    have hhop : e.hop = j := (hop_of_handling he).trans hj.symm
    simp [hhop]
  · rw [if_neg hj, List.filter_eq_nil_iff]
    intro e he
    have hhop : e.hop ≠ j := fun h => hj (h.symm.trans (hop_of_handling he))
    simp [hhop]

theorem inputs_serve (s : WatchedLine) (index j : Nat) :
    (s.step P A circuitId (.hopServe index)).inputs P circuitId d j =
      s.inputs P circuitId d j ++
        if j = index + 1 then (passing P A index s.hops).map fun h => h.message.clear else [] := by
  cases j with
  | zero => exact (List.append_nil _).symm
  | succ j =>
    rw [inputs, inputs, passedOn_serve, List.map_append]
    by_cases hj : j = index
    · rw [if_pos hj, if_pos (congrArg (· + 1) hj)]
    · rw [if_neg hj, if_neg fun h => hj (Nat.succ.inj h)]
      rfl

theorem Sound.hopServe (h : s.Sound P circuitId d) (index : Nat) :
    (s.step P A circuitId (.hopServe index)).Sound P circuitId d := by
  have hmove := @actAt_forwards P circuitId (Node.serve P A fun _ => .ok ()) s.hops
    (fun n hn => hn.serve _) index h.relaying
  have hlength : (s.step P A circuitId (.hopServe index)).hops.length = s.hops.length :=
    length_actAt ..
  cases hn : s.hops[index]? with
  | none =>
    have hpassing : passing P A index s.hops = [] := by
      rw [passing, handling, hn]
      rfl
    refine h.quiet rfl rfl ?_ hmove.relaying hlength ?_
    · intro j
      rw [passedOn_serve, hpassing, ite_self, List.append_nil]
    · intro j _
      exact congrArg relayedIn (queued_actAt_none hn j)
  | some n =>
    obtain ⟨htaken, hsent, hentries⟩ := (h.relaying n (List.mem_of_getElem? hn)).passing
      (P := P) (A := A) hn
    refine ⟨h.circuit, h.digest, hmove.relaying, ?_, ?_⟩
    · intro j hj
      have hj' : j < s.hops.length := hlength ▸ hj
      have hold := h.queued j hj'
      have hqueue := @queued_actAt (Node.serve P A fun _ => .ok ()) index s.hops n hn j hj'
      rw [passedOn_serve, inputs_serve, ← hold, List.map_append]
      show _ ++ (relayedIn (MiniTor.queued (actAt _ index s.hops).nodes j)).map Message.clear = _
      rw [hqueue]
      -- the hop itself passes on what it took, the one behind it is sent that, the others rest
      by_cases hself : j = index
      · have hwaiting : MiniTor.queued s.hops j = n.fwdIn := by
          rw [hself, MiniTor.queued, hn]
          rfl
        rw [if_pos hself, if_pos hself, if_neg (by omega), hwaiting, htaken, List.map_append,
          List.map_map, List.append_nil, List.append_assoc]
        rfl
      · rw [if_neg hself, if_neg hself]
        by_cases hnext : j = index + 1
        · rw [if_pos hnext, if_pos hnext, relayedIn_append, List.map_append, hsent]
          simp
        · rw [if_neg hnext, if_neg hnext]
          simp
    · intro j e he
      rw [passedOn_serve] at he
      rcases List.mem_append.mp he with he | he
      · obtain ⟨hj, hforwarded⟩ := h.logged j e he
        exact ⟨hlength ▸ hj, hforwarded⟩
      · by_cases hself : j = index
        · rw [if_pos hself] at he
          have hindex : index < s.hops.length := (List.getElem?_eq_some_iff.mp hn).1
          exact ⟨hlength ▸ hself ▸ hindex, (hentries e he).2⟩
        · rw [if_neg hself] at he
          exact nomatch he

/-- PADDING waits for the entry, which will not pass it on. -/
theorem Sound.keepalive (h : s.Sound P circuitId d) (data : Bytes) :
    (s.step P A circuitId (.keepalive data)).Sound P circuitId d := by
  show (s.keepalive data).Sound P circuitId d
  rw [WatchedLine.keepalive]
  by_cases hready : s.client.state = .ready
  · rw [if_pos hready]
    by_cases hfits : data.length ≤ MAX_PAYLOAD_SIZE
    · let m := Message.padding s.client.circuitId data
      have hcells : Carries (Message.Forward circuitId) [m.toBytes s.padding] :=
        Carries.singleton ⟨h.circuit, hfits, .inl rfl⟩ hfits
      have hwrite : s.client.sendPadding (.working s.padding) data = .ok (m.toBytes s.padding) :=
        Message.writeToStream_working hfits
      have hmessages : messagesIn [m.toBytes s.padding] = [m] := messagesIn_singleton hfits
      obtain ⟨hrelaying, -⟩ := @pushFirst_flush P circuitId s.hops _ h.relaying hcells
      rw [hwrite]
      refine h.quiet rfl rfl (fun _ => rfl) hrelaying (length_pushFirst ..) ?_
      intro j hj
      have hnone : relayedIn [m.toBytes s.padding] = [] := by
        rw [relayedIn, hmessages]
        rfl
      show relayedIn (MiniTor.queued (pushFirst _ s.hops).1 j) = _
      rw [queued_pushFirst _ hj]
      by_cases hfirst : j = 0
      · rw [if_pos hfirst, relayedIn_append, hnone, List.append_nil]
      · rw [if_neg hfirst]
    · have hwrite : s.client.sendPadding (.working s.padding) data =
          .error (.payloadTooLarge data.length MAX_PAYLOAD_SIZE) := by
        rw [Circuit.sendPadding, Message.writeToStream]
        show (do failIf (MAX_PAYLOAD_SIZE < data.length) _; _) = _
        rw [Theory.failIf_pos (Nat.not_le.mp hfits)]
        rfl
      rw [hwrite]
      exact h
  · rw [if_neg hready]
    exact h

/-- The cell of a plaintext that fits is one the hops pass on. -/
theorem relayedIn_sealedCell (c : Circuit) (padding : Nat → UInt8) {p : Plain}
    (hfits : p.data.length ≤ MAX_PAYLOAD_SIZE)
    (hcommand : p.command = .begin ∨ p.command = .data ∨ p.command = .end) :
    relayedIn [(c.sealedCell P p.streamId p.command p.data).toBytes padding] =
      [c.sealedCell P p.streamId p.command p.data] := by
  have hpadding : (c.sealedCell P p.streamId p.command p.data).command ≠ .padding := by
    rcases hcommand with hc | hc | hc
    all_goals
      show p.command ≠ .padding
      rw [hc]
      decide
  have hsealed : (c.sealedCell P p.streamId p.command p.data).data.length ≤ MAX_PAYLOAD_SIZE := by
    rw [Circuit.length_sealedCell]
    exact hfits
  rw [relayedIn, messagesIn_singleton hsealed, List.filter_cons_of_pos (by simp [hpadding])]
  rfl

/-- What a plaintext is sealed into is what its cell has in the clear. -/
theorem sealedFields_sealedCell (c : Circuit) {p : Plain}
    (hfits : p.data.length ≤ MAX_PAYLOAD_SIZE) :
    sealedFields P c.circuitId c.onionKeys.forwardDigest.state [p] =
      [(c.sealedCell P p.streamId p.command p.data).clear] := by
  rw [sealedFields_fits hfits, Message.clear, Message.header, Circuit.length_sealedCell]
  rfl

/-- A plaintext is sealed, and its cell waits for the entry. -/
theorem Sound.send (h : s.Sound P circuitId d) {p : Plain}
    (hcommand : p.command = .begin ∨ p.command = .data ∨ p.command = .end) :
    (s.step P A circuitId (.send p)).Sound P circuitId d := by
  show (s.sendMessage P p).Sound P circuitId d
  have hfields : sealedFields P circuitId d (s.sent ++ [p]) =
      sealedFields P circuitId d s.sent ++
        sealedFields P circuitId (s.client.onionKeys.forwardDigest.state) [p] := by
    rw [sealedFields_append, h.digest]
  have hdigest : (s.client.sealed p.streamId p.command p.data).onionKeys.forwardDigest.state =
      (s.sent ++ [p]).foldl absorb d := by
    rw [List.foldl_append, ← h.digest]
    rfl
  rw [sendMessage]
  by_cases hfits : p.data.length ≤ MAX_PAYLOAD_SIZE
  · have hsealed : (s.client.sealedCell P p.streamId p.command p.data).data.length ≤
        MAX_PAYLOAD_SIZE := by
      rw [Circuit.length_sealedCell]
      exact hfits
    obtain ⟨hrelaying, -⟩ := @pushFirst_flush P circuitId s.hops _ h.relaying
      (@Carries.singleton _ _ s.padding ⟨h.circuit, hsealed, .inr hcommand⟩ hsealed)
    rw [Circuit.sendMessage_working _ _ _ hfits]
    refine ⟨h.circuit, hdigest, hrelaying, ?_, ?_⟩
    · intro j hj
      rw [length_pushFirst] at hj
      have hold := h.queued j hj
      show (s.passedOn j).map _ ++
        (relayedIn (MiniTor.queued (pushFirst _ s.hops).1 j)).map Message.clear = _
      rw [queued_pushFirst _ hj]
      cases j with
      | zero =>
        rw [if_pos rfl, relayedIn_append, relayedIn_sealedCell s.client s.padding hfits hcommand,
          List.map_append, ← List.append_assoc, hold]
        show sealedFields P circuitId d s.sent ++ [_] = sealedFields P circuitId d (s.sent ++ [p])
        rw [hfields, ← h.circuit, sealedFields_sealedCell s.client hfits]
      | succ j =>
        rw [if_neg (Nat.succ_ne_zero j)]
        exact hold
    · intro j e he
      rw [length_pushFirst]
      exact h.logged j e he
  · rw [Circuit.sendMessage_tooLong _ _ _ _ (Nat.not_le.mp hfits)]
    -- the digest has moved on, and no cell was written
    refine ⟨h.circuit, hdigest, h.relaying, ?_, h.logged⟩
    intro j hj
    have hold := h.queued j hj
    cases j with
    | zero =>
      show _ = sealedFields P circuitId d (s.sent ++ [p])
      rw [hfields, sealedFields_tooLong hfits, List.append_nil]
      exact hold
    | succ j => exact hold

/-! ## Runs -/

theorem Sound.start {client : Circuit} (hcircuit : client.circuitId = circuitId)
    {hops : List Host} (hpasses : ∀ h ∈ hops, ∃ cipher, h.relay.Passes circuitId cipher)
    (padding : Nat → UInt8) :
    (start client hops padding).Sound P circuitId client.onionKeys.forwardDigest.state := by
  refine ⟨hcircuit, rfl, ?_, ?_, fun _ _ he => nomatch he⟩
  · intro n hn
    obtain ⟨host, hhost, rfl⟩ := List.mem_map.mp hn
    exact ⟨hpasses host hhost, rfl, rfl, Carries.nil, Carries.nil⟩
  · intro i hi
    have hempty : MiniTor.queued (hops.map Node.idle) i = [] := by
      rw [MiniTor.queued, List.getElem?_map]
      cases hops[i]? with
      | none => rfl
      | some host => rfl
    show _ ++ (relayedIn (MiniTor.queued (hops.map Node.idle) i)).map Message.clear = _
    rw [hempty]
    cases i with
    | zero => rfl
    | succ i => rfl

theorem Sound.step (h : s.Sound P circuitId d) {e : LineEvent} (hallowed : e.Allowed circuitId) :
    (s.step P A circuitId e).Sound P circuitId d := by
  cases e with
  | send p => exact h.send hallowed
  | keepalive data => exact h.keepalive data
  | hopServe index => exact h.hopServe index
  | hopRead index => exact h.hopRead index
  | respond cell => exact h.respond hallowed

theorem Sound.run (h : s.Sound P circuitId d) {events : List LineEvent}
    (hallowed : ∀ e ∈ events, e.Allowed circuitId) :
    (Theory.run (WatchedLine.step P A circuitId) s events).Sound P circuitId d := by
  induction events generalizing s with
  | nil => exact h
  | cons e events ih =>
    exact ih (h.step (hallowed e List.mem_cons_self)) fun e' he' =>
      hallowed e' (List.mem_cons_of_mem e he')

theorem sent_step (s : WatchedLine) (e : LineEvent) :
    (s.step P A circuitId e).sent = s.sent ++ sendsOf [e] := by
  cases e with
  | send p =>
    show (s.sendMessage P p).sent = s.sent ++ [p]
    unfold sendMessage
    split
    · rfl
    · rfl
  | keepalive data =>
    show (s.keepalive data).sent = s.sent ++ []
    rw [List.append_nil]
    unfold keepalive
    split
    · split
      · rfl
      · rfl
    · rfl
  | hopServe index => exact (List.append_nil _).symm
  | hopRead index => exact (List.append_nil _).symm
  | respond cell => exact (List.append_nil _).symm

theorem sent_run (s : WatchedLine) (events : List LineEvent) :
    (Theory.run (WatchedLine.step P A circuitId) s events).sent = s.sent ++ sendsOf events := by
  induction events generalizing s with
  | nil => exact (List.append_nil _).symm
  | cons e events ih =>
    rw [run_cons, ih, sent_step, List.append_assoc]
    congr 1
    exact List.filterMap_append.symm

/-- **The fields in the clear of the cells a hop passes on** are those of the sealed cells, in
order. -/
theorem Sound.passedOn_prefix (h : s.Sound P circuitId d) (i : Nat) :
    (s.passedOn i).map (fun e => e.message.clear) <+: sealedFields P circuitId d s.sent := by
  by_cases hi : i < s.hops.length
  · -- down the line: what a hop passed on is a prefix of what the hop before it did
    induction i with
    | zero => exact ⟨_, h.queued 0 hi⟩
    | succ i ih => exact List.IsPrefix.trans ⟨_, h.queued (i + 1) hi⟩ (ih (Nat.lt_of_succ_lt hi))
  · have hnone : s.passedOn i = [] :=
      List.eq_nil_iff_forall_not_mem.mpr fun e he => hi (h.logged i e he).1
    rw [hnone]
    exact List.nil_prefix

/-- The fields in the clear of the `k`-th cell a hop passes on. -/
theorem Sound.passedOn_getElem (h : s.Sound P circuitId d) {i k : Nat} {e : Handled}
    (he : (s.passedOn i)[k]? = some e) :
    ((written s.sent).map (Plain.header circuitId))[k]? = some e.message.header ∧
      ((transcripts d s.sent).map (tagOf P))[k]? = some e.message.digest := by
  have hclear : ((s.passedOn i).map fun e => e.message.clear)[k]? = some e.message.clear := by
    rw [List.getElem?_map, he]
    rfl
  obtain ⟨rest, hprefix⟩ := h.passedOn_prefix i
  have hfields : (sealedFields P circuitId d s.sent)[k]? = some e.message.clear := by
    rw [← hprefix, List.getElem?_append_left (List.getElem?_eq_some_iff.mp hclear).1]
    exact hclear
  exact List.getElem?_zip_eq_some.mp hfields

end WatchedLine

/-! ## Two runs -/

/-- Two handled cells have the same fields in the clear, as have the cells passed on for
them. -/
def Handled.SameClear (h h' : Handled) : Prop :=
  h.message.clear = h'.message.clear ∧
    (messagesIn h.forwarded).map Message.clear = (messagesIn h'.forwarded).map Message.clear

open WatchedLine in
/-- **What the relays of a circuit see of two runs that differ in payloads only**: the `k`-th
cells a hop passes on agree in every header field, and they agree in all fields in the clear
exactly if the payloads sent up to them are the same, or what was fed into the digest for
them collides. -/
theorem clear_fields_agree_iff {client : Circuit} (hcircuit : client.circuitId = circuitId)
    {hops : List Host} (hpasses : ∀ h ∈ hops, ∃ cipher, h.relay.Passes circuitId cipher)
    (padding padding' : Nat → UInt8) {events events' : List LineEvent}
    (hallowed : ∀ e ∈ events, e.Allowed circuitId)
    (hallowed' : ∀ e ∈ events', e.Allowed circuitId)
    (hshapes : (sendsOf events).map Plain.shape = (sendsOf events').map Plain.shape) {i k : Nat}
    {h h' : Handled}
    (hh : ((run (step P A circuitId) (start client hops padding) events).passedOn i)[k]? = some h)
    (hh' : ((run (step P A circuitId) (start client hops padding') events').passedOn i)[k]? =
      some h') :
    h.message.header = h'.message.header ∧
      (h.SameClear h' ↔
        (sentUpTo k (sendsOf events)).map Plain.data =
            (sentUpTo k (sendsOf events')).map Plain.data ∨
          Collides (tagOf P)
            ((sentUpTo k (sendsOf events)).foldl absorb client.onionKeys.forwardDigest.state)
            ((sentUpTo k (sendsOf events')).foldl absorb client.onionKeys.forwardDigest.state)) := by
  have hsound := (Sound.start (P := P) hcircuit hpasses padding).run (A := A) hallowed
  have hsound' := (Sound.start (P := P) hcircuit hpasses padding').run (A := A) hallowed'
  obtain ⟨hheader, hdigest⟩ := hsound.passedOn_getElem hh
  obtain ⟨hheader', hdigest'⟩ := hsound'.passedOn_getElem hh'
  obtain ⟨-, hforwarded⟩ := hsound.logged i h (List.mem_of_getElem? hh)
  obtain ⟨-, hforwarded'⟩ := hsound'.logged i h' (List.mem_of_getElem? hh')
  rw [sent_run] at hheader hdigest hheader' hdigest'
  have hsame : h.message.header = h'.message.header := by
    have hheaders : (written (sendsOf events)).map (Plain.header circuitId) =
        (written (sendsOf events')).map (Plain.header circuitId) := by
      rw [headers_eq, headers_eq, hshapes]
    exact Option.some.inj (hheader.symm.trans ((congrArg (·[k]?) hheaders).trans hheader'))
  -- the digest in the clear is the tag of what was sent up to the cell
  rw [List.getElem?_map, Option.map_eq_some_iff] at hdigest hdigest'
  obtain ⟨t, ht, htag⟩ := hdigest
  obtain ⟨t', ht', htag'⟩ := hdigest'
  cases eq_of_transcripts_getElem? ht
  cases eq_of_transcripts_getElem? ht'
  have hfed := foldl_absorb_eq_iff (sentUpTo_shapes hshapes k) client.onionKeys.forwardDigest.state
  have hclear : h.SameClear h' ↔ h.message.digest = h'.message.digest := by
    constructor
    · rintro ⟨hclear, -⟩
      exact congrArg Prod.snd hclear
    · intro hdigests
      have hclear : h.message.clear = h'.message.clear := Prod.ext hsame hdigests
      refine ⟨hclear, ?_⟩
      rw [hforwarded, hforwarded', hclear]
  refine ⟨hsame, ?_⟩
  rw [hclear, ← htag, ← htag', ← hfed]
  constructor
  · exact eq_or_collides
  · rintro (heq | hcollides)
    · exact congrArg (tagOf P) heq
    · exact hcollides.2

/-! ### Two destinations of the same length -/

/-- A BEGIN for a destination, which the entry and the middle pass on. -/
def sampleBegin (destination : String) : List LineEvent :=
  [.send ⟨1, .begin, (StreamTask.new 1 destination 0).beginPayload⟩, .hopServe 0, .hopServe 1]

/-- An entry and a middle with the keys of the sample client. -/
def sampleHops : List Host :=
  [TeardownSystem.sampleLinked 1 .entry, TeardownSystem.sampleLinked 2 .middle]

/-- What the hop at an index passed on for the BEGIN. -/
def sampleHandled (destination : String) (index : Nat) : Option Handled :=
  ((run (WatchedLine.step .sample .ipv4 1) (.start TeardownSystem.sampleClient sampleHops fun _ => 0)
    (sampleBegin destination)).passedOn index)[0]?

/-- Two BEGINs of the same shape reach the entry with different digests. -/
theorem digest_reveals_destination :
    (sendsOf (sampleBegin "a:80")).map Plain.shape =
        (sendsOf (sampleBegin "b:80")).map Plain.shape ∧
      ∃ h h', sampleHandled "a:80" 0 = some h ∧ sampleHandled "b:80" 0 = some h' ∧
        ¬h.SameClear h' := by
  have hsome : (sampleHandled "a:80" 0).isSome ∧ (sampleHandled "b:80" 0).isSome := by
    decide +kernel
  have hdigests : (sampleHandled "a:80" 0).map (fun h => h.message.digest) ≠
      (sampleHandled "b:80" 0).map (fun h => h.message.digest) := by
    decide +kernel
  obtain ⟨h, hh⟩ := Option.isSome_iff_exists.mp hsome.1
  obtain ⟨h', hh'⟩ := Option.isSome_iff_exists.mp hsome.2
  rw [hh, hh'] at hdigests
  exact ⟨by decide, h, h', hh, hh', fun hsame =>
    hdigests (congrArg some (congrArg Prod.snd hsame.1))⟩

/-- The middle sees one header and, the payloads being different and no collision at hand, two
digests. -/
theorem sample_clear_fields :
    ∃ h h', sampleHandled "a:80" 1 = some h ∧ sampleHandled "b:80" 1 = some h' ∧
      h.message.header = h'.message.header ∧ ¬h.SameClear h' := by
  have hsome : (sampleHandled "a:80" 1).isSome ∧ (sampleHandled "b:80" 1).isSome := by
    decide +kernel
  have hpayloads : ¬(sentUpTo 0 (sendsOf (sampleBegin "a:80"))).map Plain.data =
      (sentUpTo 0 (sendsOf (sampleBegin "b:80"))).map Plain.data := by
    decide +kernel
  have htags : ¬Collides (tagOf .sample) ((sentUpTo 0 (sendsOf (sampleBegin "a:80"))).foldl absorb [])
      ((sentUpTo 0 (sendsOf (sampleBegin "b:80"))).foldl absorb []) := by
    decide +kernel
  have hpasses : ∀ h ∈ sampleHops, ∃ cipher, h.relay.Passes 1 cipher := by
    intro h hh
    rcases List.mem_cons.mp hh with rfl | hh
    · exact ⟨_, TeardownSystem.sampleLinked_passes 1 nofun⟩
    · obtain rfl := List.mem_singleton.mp hh
      exact ⟨_, TeardownSystem.sampleLinked_passes 2 nofun⟩
  have hallowed : ∀ destination, ∀ e ∈ sampleBegin destination, e.Allowed 1 := by
    intro destination e he
    rcases List.mem_cons.mp he with rfl | he
    · exact .inl rfl
    · rcases List.mem_cons.mp he with rfl | he
      · trivial
      · obtain rfl := List.mem_singleton.mp he
        trivial
  obtain ⟨h, hh⟩ := Option.isSome_iff_exists.mp hsome.1
  obtain ⟨h', hh'⟩ := Option.isSome_iff_exists.mp hsome.2
  obtain ⟨hheader, hclear⟩ := @clear_fields_agree_iff .sample .ipv4 1 TeardownSystem.sampleClient
    rfl sampleHops hpasses (fun _ => 0) (fun _ => 0) (sampleBegin "a:80") (sampleBegin "b:80")
    (hallowed "a:80") (hallowed "b:80") (by decide) 1 0 h h' hh hh'
  exact ⟨h, h', hh, hh', hheader, fun hsame => (hclear.mp hsame).elim hpayloads htags⟩

end MiniTor
