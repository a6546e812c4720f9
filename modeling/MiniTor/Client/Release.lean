import MiniTor.Client.Stream
import MiniTor.Client.StreamIds

/-!
# What `handle_stream` leaves behind (`tor-client/src/core/stream.rs`)

`Handling` is one call of `handle_stream` on a circuit it shares with others: its task, the
circuit, and the cells it has tried to send. An event is the outcome of one of its awaits, or
whatever the others do to the circuit.

- `Handling.Booked`: until the task is done, BEGIN is sent and END is not; after
  `cleanup_stream` has tried END, exactly one is attempted.
- `Handling.Booked.accounted`: of the steps that return, two leave the stream behind (`Leaks`).
- `streams_released_iff`: so a run releases its stream exactly when it takes neither.
- `handling_leaks`: a run for each of the two.
-/

namespace MiniTor.Client

open Theory

variable (P : Primitives)

/-- A call of `handle_stream`. -/
structure Handling where
  circuit : Circuit
  task : StreamTask
  /-- The cells sent, and whether they were written. -/
  attempts : List (MessageCommand × Bool)

/-- The outcome of an await of the task, or a step of another. -/
inductive HandlingEvent
  | send (entryWriter : Message.Writer)
  /-- The reader puts a message into the stream's channel. -/
  | deliver (m : Message)
  /-- A message, or the end of the channel once the circuit has dropped its sender. -/
  | receive
  | receiveUnwritten
  | reply (sent : Bool)
  /-- A timeout, or a read error of the SOCKS client. -/
  | giveUp
  | socksRead (data : Bytes)
  | unregister
  | others (circuit : Circuit)

namespace Handling

/-- `allocate_stream_id` and `register_stream`, under one lock. -/
def start (c : Circuit) (destination : String) : Handling :=
  let (c, streamId) := c.allocateStreamId
  { circuit := c.registerStream streamId { channel := 0, receiverAlive := true }
    task := StreamTask.new streamId destination 0
    attempts := [] }

def step (s : Handling) : HandlingEvent → Handling
  | .send entryWriter =>
    match s.task.nextSend with
    | none => s
    | some (command, data) =>
      let (circuit, result) := s.circuit.sendMessage P entryWriter s.task.streamId command data
      { circuit
        task := s.task.afterSend result.isOk
        attempts := s.attempts ++ [(command, result.isOk)] }
  | .deliver m => { s with task := s.task.deliver m }
  | .receive =>
    { s with task := s.task.receive (s.circuit.streamSenders.lookup s.task.streamId).isSome }
  | .receiveUnwritten => { s with task := s.task.receiveUnwritten }
  | .reply sent => { s with task := s.task.reply sent }
  | .giveUp => { s with task := s.task.giveUp }
  | .socksRead data => { s with task := s.task.socksRead data }
  | .unregister =>
    if s.task.phase = .unregistering then
      { s with
        circuit := s.circuit.unregisterStream s.task.streamId
        task := { s.task with phase := .closed } }
    else s
  | .others circuit => { s with circuit }

/-- How many ENDs of the stream were attempted. -/
def ends (s : Handling) : Nat := s.attempts.countP fun a => a.1 = .end

/-- This step returns from `handle_stream`. -/
def Returns (s : Handling) (e : HandlingEvent) : Prop :=
  s.task.phase ≠ .closed ∧ (s.step P e).task.phase = .closed

/-- The stream is released: its id is not registered, and if BEGIN was sent, one END was
attempted. -/
def Released (s : Handling) : Prop :=
  s.task.streamId ∉ s.circuit.streamSenders ∧
    ((MessageCommand.begin, true) ∈ s.attempts → s.ends = 1)

/-- The two ways out through `?`: BEGIN cannot be written while the stream is registered, or
the success reply cannot be sent. -/
inductive Leaks (s : Handling) : HandlingEvent → Prop
  | begin {entryWriter : Message.Writer} (hphase : s.task.phase = .opening)
      (hfails : entryWriter.failure ≠ none ∨ MAX_PAYLOAD_SIZE < s.task.beginPayload.length)
      (hregistered : s.task.streamId ∈ s.circuit.streamSenders) : Leaks s (.send entryWriter)
  | reply (hphase : s.task.phase = .replying) : Leaks s (.reply false)

end Handling

/-! ## Sending -/

/-- A failing link writes nothing. -/
theorem writeToStream_failing (e : IoError) (padding : Nat → UInt8) (m : Message) (cell : Bytes) :
    m.writeToStream ⟨some e, padding⟩ ≠ .ok cell := by
  intro h
  obtain ⟨-, -, hthrow⟩ := bind_eq_ok.mp h
  exact nomatch hthrow

/-- A cell is written exactly when the link works and the payload fits. -/
theorem sendMessage_isOk (c : Circuit) (w : Message.Writer) (streamId : StreamId)
    (command : MessageCommand) (data : Bytes) :
    (c.sendMessage P w streamId command data).2.isOk = true ↔
      w.failure = none ∧ data.length ≤ MAX_PAYLOAD_SIZE := by
  obtain ⟨failure, padding⟩ := w
  cases failure with
  | none =>
    by_cases hlen : data.length ≤ MAX_PAYLOAD_SIZE
    · have hsend := @Circuit.sendMessage_working P c padding streamId command data hlen
      rw [Message.Writer.working] at hsend
      rw [hsend]
      exact ⟨fun _ => ⟨rfl, hlen⟩, fun _ => rfl⟩
    · rw [c.sendMessage_tooLong (P := P) _ streamId command (Nat.not_le.mp hlen)]
      exact ⟨fun h => (nomatch h), fun h => absurd h.2 hlen⟩
  | some e =>
    refine ⟨fun h => ?_, fun h => nomatch h.1⟩
    unfold Circuit.sendMessage at h
    dsimp only at h
    split at h
    · exact nomatch h
    · rename_i cell hcell
      exact absurd hcell (writeToStream_failing e padding _ cell)

/-! ## The phases -/

/-- BEGIN is sent, END is not. -/
def StreamPhase.begun : StreamPhase → Bool
  | .waiting | .replying | .relaying _ | .closing => true
  | .opening | .unregistering | .closed => false

/-- Between BEGIN and END a stream is in none of the phases before and after. -/
theorem ne_of_begun {phase : StreamPhase} (h : phase.begun = true) :
    phase ≠ .opening ∧ phase ≠ .unregistering ∧ phase ≠ .closed := by
  refine ⟨?_, ?_, ?_⟩
  all_goals
    rintro rfl
    exact nomatch h

namespace StreamTask

variable (t : StreamTask)

/-- Without sending or replying a task stays where it is, or among the phases after BEGIN. -/
theorem receive_phase (registered : Bool) :
    (t.receive registered).streamId = t.streamId ∧
      ((t.receive registered).phase = t.phase ∨
        t.phase.begun = true ∧ (t.receive registered).phase.begun = true) := by
  have hgoes := t.receive_goes registered
  refine ⟨hgoes.streamId, ?_⟩
  obtain ⟨streamId, destination, phase, channel, read, written, delivered, since⟩ := t
  -- only `waiting` and `relaying` have a branch of their own; the other phases ignore the channel
  cases phase with
  | waiting =>
    refine .inr ⟨rfl, ?_⟩
    cases channel with
    | nil => cases registered <;> rfl
    | cons m rest =>
      by_cases hconnected : m.command = .connected
      · simp [receive, hconnected, StreamPhase.begun]
      · simp [receive, hconnected, StreamPhase.begun]
  | relaying chunks =>
    refine .inr ⟨rfl, ?_⟩
    cases chunks with
    | cons chunk chunks => rfl
    | nil =>
      cases channel with
      | nil => cases registered <;> rfl
      | cons m rest =>
        by_cases hdata : m.command = .data
        · simp [receive, hdata, StreamPhase.begun]
        · by_cases hend : m.command = .end
          · simp [receive, hend, StreamPhase.begun]
          · simp [receive, hdata, hend, StreamPhase.begun]
  | opening => exact .inl rfl
  | replying => exact .inl rfl
  | closing => exact .inl rfl
  | unregistering => exact .inl rfl
  | closed => exact .inl rfl

theorem receiveUnwritten_phase :
    t.receiveUnwritten.streamId = t.streamId ∧
      (t.receiveUnwritten.phase = t.phase ∨
        t.phase.begun = true ∧ t.receiveUnwritten.phase.begun = true) := by
  unfold receiveUnwritten
  split
  · rename_i m rest hphase hchannel
    by_cases hdata : m.command = .data
    · rw [if_pos hdata]
      exact ⟨rfl, .inr ⟨by rw [hphase]; rfl, rfl⟩⟩
    · rw [if_neg hdata]
      exact ⟨rfl, .inl rfl⟩
  · exact ⟨rfl, .inl rfl⟩

theorem giveUp_phase :
    t.giveUp.streamId = t.streamId ∧
      (t.giveUp.phase = t.phase ∨ t.phase.begun = true ∧ t.giveUp.phase.begun = true) := by
  refine ⟨t.giveUp_goes.streamId, ?_⟩
  unfold giveUp
  split
  · rename_i hphase
    exact .inr ⟨by rw [hphase]; rfl, rfl⟩
  · rename_i hphase
    exact .inr ⟨by rw [hphase]; rfl, rfl⟩
  · exact .inl rfl

theorem socksRead_phase (data : Bytes) :
    (t.socksRead data).streamId = t.streamId ∧
      ((t.socksRead data).phase = t.phase ∨
        t.phase.begun = true ∧ (t.socksRead data).phase.begun = true) := by
  refine ⟨(t.socksRead_goes data).streamId, ?_⟩
  unfold socksRead
  split
  · rename_i hphase
    -- an empty read is the end of the SOCKS side: the task closes, which is after BEGIN too
    refine .inr ⟨by rw [hphase]; rfl, ?_⟩
    by_cases hnil : data = []
    · rw [if_pos hnil]
      rfl
    · rw [if_neg hnil]
      rfl
  · exact .inl rfl

end StreamTask

/-! ## The books -/

namespace Handling

variable {P}

/-- What has been sent, phase by phase. -/
structure Booked (s : Handling) : Prop where
  opening : s.task.phase = .opening → s.attempts = []
  begun : s.task.phase.begun = true →
    (MessageCommand.begin, true) ∈ s.attempts ∧ s.ends = 0
  unregistering : s.task.phase = .unregistering → s.ends = 1

theorem booked_start (c : Circuit) (destination : String) : (start c destination).Booked where
  opening _ := rfl
  begun h := nomatch h
  unregistering h := nomatch h

/-- A task that only moves among the phases after BEGIN keeps the books. -/
theorem Booked.moves {s : Handling} (h : s.Booked) {t : StreamTask} {c : Circuit}
    (hphase : t.phase = s.task.phase ∨ s.task.phase.begun = true ∧ t.phase.begun = true) :
    { s with task := t, circuit := c }.Booked := by
  rcases hphase with hsame | ⟨hbefore, hafter⟩
  · exact ⟨fun ho => h.opening (hsame ▸ ho), fun hb => h.begun (hsame ▸ hb),
      fun hu => h.unregistering (hsame ▸ hu)⟩
  · obtain ⟨hopening, hunregistering, -⟩ := ne_of_begun hafter
    exact ⟨fun ho => absurd ho hopening, fun _ => h.begun hbefore,
      fun hu => absurd hu hunregistering⟩

/-- A step is accounted for: the books stay right, and if it returns, the stream is released
unless the step is one of the two that leak. -/
def Accounted (P : Primitives) (s : Handling) (e : HandlingEvent) : Prop :=
  (s.step P e).Booked ∧ ((s.Returns P e → (s.step P e).Released) ↔ ¬s.Leaks e)

/-- Moving among the phases after BEGIN returns from nothing. -/
theorem Booked.accounted_moves {s : Handling} (h : s.Booked) {e : HandlingEvent} {t : StreamTask}
    {c : Circuit} (hstep : s.step P e = { s with task := t, circuit := c })
    (hphase : t.phase = s.task.phase ∨ s.task.phase.begun = true ∧ t.phase.begun = true)
    (hleaks : ¬s.Leaks e) : s.Accounted P e := by
  refine ⟨hstep ▸ h.moves hphase, fun _ => hleaks, ?_⟩
  rintro - ⟨hrunning, hclosed⟩
  have hclosed : t.phase = .closed := by
    rw [hstep] at hclosed
    exact hclosed
  -- closed after the step is closed before it, or out of the phases after BEGIN
  rcases hphase with hsame | ⟨-, hafter⟩
  · exact absurd (hsame ▸ hclosed) hrunning
  · exact absurd hclosed (ne_of_begun hafter).2.2

theorem countP_end (command : MessageCommand) (written : Bool) (l : List (MessageCommand × Bool)) :
    (l ++ [(command, written)]).countP (fun a => a.1 = .end) =
      l.countP (fun a => a.1 = .end) + if command = .end then 1 else 0 := by
  rw [List.countP_append, List.countP_singleton]
  simp

/-- What a step that sends does. -/
theorem step_send {s : Handling} {w : Message.Writer} {command : MessageCommand} {data : Bytes}
    (hnext : s.task.nextSend = some (command, data)) :
    ∃ sent c, (sent = true ↔ w.failure = none ∧ data.length ≤ MAX_PAYLOAD_SIZE) ∧
      c.streamSenders = s.circuit.streamSenders ∧
      s.step P (.send w) =
        { circuit := c
          task := s.task.afterSend sent
          attempts := s.attempts ++ [(command, sent)] } := by
  refine ⟨(s.circuit.sendMessage P w s.task.streamId command data).2.isOk,
    (s.circuit.sendMessage P w s.task.streamId command data).1, sendMessage_isOk ..,
    (sendMessage_streams ..).1, ?_⟩
  rw [step, hnext]

/-- A phase with nothing to send stays. -/
theorem Booked.accounted_silent {s : Handling} (h : s.Booked) (w : Message.Writer)
    (hnext : s.task.nextSend = none) : s.Accounted P (.send w) := by
  refine h.accounted_moves (t := s.task) (c := s.circuit) ?_ (.inl rfl) ?_
  · rw [step, hnext]
  · intro hleak
    cases hleak with
    | begin hphase =>
      rw [StreamTask.nextSend, hphase] at hnext
      exact nomatch hnext

/-- BEGIN: what is written is waited for; what is not returns, and leaves the id registered if
it still was. -/
theorem Booked.accounted_begin {s : Handling} (h : s.Booked) (w : Message.Writer)
    (hphase : s.task.phase = .opening) : s.Accounted P (.send w) := by
  have hnext : s.task.nextSend = some (.begin, s.task.beginPayload) := by
    rw [StreamTask.nextSend, hphase]
  obtain ⟨sent, c, hsent, hstreams, hstep⟩ := step_send (P := P) (w := w) hnext
  have htask : s.task.afterSend sent =
      { s.task with phase := if sent then .waiting else .closed } := by
    rw [StreamTask.afterSend, hphase]
  rw [h.opening hphase, htask, List.nil_append] at hstep
  cases sent with
  | true =>
    have hfits := hsent.mp rfl
    refine ⟨?_, fun _ hleak => ?_, ?_⟩
    · rw [hstep]
      exact ⟨fun ho => (nomatch ho), fun _ => ⟨List.mem_singleton_self _, rfl⟩,
        fun hu => nomatch hu⟩
    · cases hleak with
      | begin _ hfails =>
        rcases hfails with hbroken | hlong
        · exact hbroken hfits.1
        · exact Nat.not_lt.mpr hfits.2 hlong
    · rintro - ⟨-, hclosed⟩
      rw [hstep] at hclosed
      exact nomatch hclosed
  | false =>
    have hfails : w.failure ≠ none ∨ MAX_PAYLOAD_SIZE < s.task.beginPayload.length := by
      by_contra hworks
      push Not at hworks
      exact nomatch hsent.mpr hworks
    -- `handle_stream` returns by `?`: the stream is released if its id was not registered
    have hreturns : s.Returns P (.send w) := by
      refine ⟨fun hclosed => ?_, by rw [hstep]; rfl⟩
      rw [hclosed] at hphase
      exact nomatch hphase
    refine ⟨?_, fun hreleased hleak => ?_, fun hleak _ => ?_⟩
    · rw [hstep]
      exact ⟨fun ho => (nomatch ho), fun hb => (nomatch hb), fun hu => nomatch hu⟩
    · have hunregistered := (hreleased hreturns).1
      rw [hstep] at hunregistered
      cases hleak with
      | begin _ _ hregistered => exact hunregistered (hstreams ▸ hregistered)
    · rw [hstep]
      refine ⟨fun hregistered => hleak (.begin hphase hfails (hstreams ▸ hregistered)), ?_⟩
      intro hbegun
      exact nomatch List.mem_singleton.mp hbegun

/-- **BEGIN is sent, a chunk, or the END of `cleanup_stream`.** -/
theorem Booked.accounted_send {s : Handling} (h : s.Booked) (w : Message.Writer) :
    s.Accounted P (.send w) := by
  have hleaks : s.task.phase ≠ .opening → ¬s.Leaks (.send w) := by
    intro hne hleak
    cases hleak with
    | begin hphase => exact hne hphase
  cases hphase : s.task.phase with
  | opening => exact h.accounted_begin w hphase
  | relaying chunks =>
    cases chunks with
    | nil => exact h.accounted_silent w (by rw [StreamTask.nextSend, hphase])
    | cons chunk chunks =>
      have hnext : s.task.nextSend = some (.data, chunk) := by
        rw [StreamTask.nextSend, hphase]
      obtain ⟨sent, c, -, -, hstep⟩ := step_send (P := P) (w := w) hnext
      have htask : s.task.afterSend sent =
          { s.task with phase := if sent then .relaying chunks else .closing } := by
        rw [StreamTask.afterSend, hphase]
      obtain ⟨hbegun, hends⟩ := h.begun (by rw [hphase]; rfl)
      -- written or not, the task goes on to a phase that still owes the END
      have hafter : (if sent then StreamPhase.relaying chunks else .closing).begun = true := by
        cases sent <;> rfl
      rw [htask] at hstep
      refine ⟨?_, fun _ => hleaks (by rw [hphase]; exact fun ho => nomatch ho), ?_⟩
      · rw [hstep]
        exact ⟨fun ho => absurd ho (ne_of_begun hafter).1,
          fun _ => ⟨List.mem_append_left _ hbegun, (countP_end ..).trans hends⟩,
          fun hu => absurd hu (ne_of_begun hafter).2.1⟩
      · rintro - ⟨-, hclosed⟩
        rw [hstep] at hclosed
        exact absurd hclosed (ne_of_begun hafter).2.2
  | closing =>
    have hnext : s.task.nextSend = some (.end, []) := by
      rw [StreamTask.nextSend, hphase]
    obtain ⟨sent, c, -, -, hstep⟩ := step_send (P := P) (w := w) hnext
    have htask : s.task.afterSend sent = { s.task with phase := .unregistering } := by
      rw [StreamTask.afterSend, hphase]
    obtain ⟨-, hends⟩ := h.begun (by rw [hphase]; rfl)
    rw [htask] at hstep
    refine ⟨?_, fun _ => hleaks (by rw [hphase]; exact fun ho => nomatch ho), ?_⟩
    · rw [hstep]
      refine ⟨fun ho => (nomatch ho), fun hb => (nomatch hb), fun _ => ?_⟩
      -- the END counts whether it is written or not: `cleanup_stream` only logs a failure
      have hcount := countP_end .end sent s.attempts
      rw [show s.attempts.countP (fun a => a.1 = .end) = 0 from hends] at hcount
      exact hcount
    · rintro - ⟨-, hclosed⟩
      rw [hstep] at hclosed
      exact nomatch hclosed
  | waiting => exact h.accounted_silent w (by rw [StreamTask.nextSend, hphase])
  | replying => exact h.accounted_silent w (by rw [StreamTask.nextSend, hphase])
  | unregistering => exact h.accounted_silent w (by rw [StreamTask.nextSend, hphase])
  | closed => exact h.accounted_silent w (by rw [StreamTask.nextSend, hphase])

/-- The success reply: one that cannot be sent returns with the stream registered and no END. -/
theorem Booked.accounted_reply {s : Handling} (h : s.Booked) (sent : Bool) :
    s.Accounted P (.reply sent) := by
  by_cases hphase : s.task.phase = .replying
  · have htask : s.task.reply sent =
        { s.task with phase := if sent then .relaying [] else .closed } := by
      rw [StreamTask.reply, hphase]
    obtain ⟨hbegun, hends⟩ := h.begun (by rw [hphase]; rfl)
    cases sent with
    | true =>
      refine h.accounted_moves (c := s.circuit) rfl (.inr ⟨by rw [hphase]; rfl, ?_⟩) ?_
      · rw [htask]
        rfl
      · exact fun hleak => by cases hleak
    | false =>
      have hstep : s.step P (.reply false) = { s with task := { s.task with phase := .closed } } :=
        congrArg (fun t => { s with task := t }) htask
      have hreturns : s.Returns P (.reply false) := by
        refine ⟨fun hclosed => ?_, by rw [hstep]⟩
        rw [hclosed] at hphase
        cases hphase
      refine ⟨?_, fun hreleased _ => ?_, fun hleak => absurd (.reply hphase) hleak⟩
      · rw [hstep]
        exact ⟨fun ho => (by cases ho), fun hb => (by cases hb), fun hu => (by cases hu)⟩
      · -- BEGIN was sent, and no END
        have hone := (hreleased hreturns).2
        rw [hstep] at hone
        have hends' : s.ends = 1 := hone hbegun
        omega
  · have hstay : s.task.reply sent = s.task := by
      unfold StreamTask.reply
      split
      · exact absurd ‹_› hphase
      · rfl
    refine h.accounted_moves (c := s.circuit) rfl (.inl (by rw [hstay])) ?_
    intro hleak
    cases hleak with
    | reply hreplying => exact hphase hreplying

/-- `cleanup_stream` unregisters the stream last. -/
theorem Booked.accounted_unregister {s : Handling} (h : s.Booked) :
    s.Accounted P .unregister := by
  have hleaks : ¬s.Leaks .unregister := fun hleak => nomatch hleak
  by_cases hphase : s.task.phase = .unregistering
  · have hstep : s.step P .unregister =
        { s with
          circuit := s.circuit.unregisterStream s.task.streamId
          task := { s.task with phase := .closed } } := by
      rw [step, if_pos hphase]
    refine ⟨?_, fun _ => hleaks, fun _ _ => ?_⟩
    · rw [hstep]
      exact ⟨fun ho => (nomatch ho), fun hb => (nomatch hb), fun hu => nomatch hu⟩
    · rw [hstep]
      exact ⟨fun hmem => (AList.mem_erase.mp hmem).1 rfl, fun _ => h.unregistering hphase⟩
  · exact h.accounted_moves (t := s.task) (c := s.circuit) (by rw [step, if_neg hphase]) (.inl rfl)
      hleaks

/-- **Every step is accounted for.** -/
theorem Booked.accounted {s : Handling} (h : s.Booked) (e : HandlingEvent) :
    s.Accounted P e := by
  cases e with
  | send entryWriter => exact h.accounted_send entryWriter
  | reply sent => exact h.accounted_reply sent
  | unregister => exact h.accounted_unregister
  | deliver m =>
    exact h.accounted_moves (c := s.circuit) rfl (.inl rfl) fun hleak => nomatch hleak
  | receive =>
    exact h.accounted_moves (c := s.circuit) rfl (s.task.receive_phase _).2
      fun hleak => nomatch hleak
  | receiveUnwritten =>
    exact h.accounted_moves (c := s.circuit) rfl s.task.receiveUnwritten_phase.2
      fun hleak => nomatch hleak
  | giveUp =>
    exact h.accounted_moves (c := s.circuit) rfl s.task.giveUp_phase.2 fun hleak => nomatch hleak
  | socksRead data =>
    exact h.accounted_moves (c := s.circuit) rfl (s.task.socksRead_phase data).2
      fun hleak => nomatch hleak
  | others circuit =>
    exact h.accounted_moves (t := s.task) (c := circuit) rfl (.inl rfl) fun hleak => nomatch hleak

end Handling

/-- **A call of `handle_stream` releases its stream exactly when it does not return through a
BEGIN that cannot be written, the stream being registered, or through a success reply that
cannot be sent.** -/
theorem streams_released_iff (P : Primitives) (c : Circuit) (destination : String)
    (events : List HandlingEvent) :
    EveryStep (Handling.step P) (fun s e => s.Returns P e → (s.step P e).Released)
        (Handling.start c destination) events ↔
      EveryStep (Handling.step P) (fun s e => ¬s.Leaks e) (Handling.start c destination)
        events := by
  have hstart := Handling.booked_start c destination
  -- by induction on the run; the books are what makes the equivalence hold at each step
  generalize Handling.start c destination = s at hstart
  induction events generalizing s with
  | nil => exact Iff.rfl
  | cons e events ih =>
    obtain ⟨hbooked, hiff⟩ := hstart.accounted (P := P) e
    exact and_congr hiff (ih _ hbooked)

/-- The SOCKS client goes away before the success reply, or the link is down when BEGIN is to
be sent. -/
theorem handling_leaks :
    ¬EveryStep (Handling.step .sample)
        (fun s e => s.Returns .sample e → (s.step .sample e).Released)
        (Handling.start (Circuit.new 1 (OnionKeys.new [] [])) "a:80")
        [.send (.working fun _ => 0), .deliver (Message.new 1 1 .connected []), .receive,
          .reply false] ∧
      ¬EveryStep (Handling.step .sample)
        (fun s e => s.Returns .sample e → (s.step .sample e).Released)
        (Handling.start (Circuit.new 1 (OnionKeys.new [] [])) "a:80")
        [.send ⟨some ⟨ascii "broken pipe"⟩, fun _ => 0⟩] := by
  constructor
  · rintro ⟨-, -, -, hreply, -⟩
    have hreleased := hreply ⟨by decide, by decide⟩
    exact absurd hreleased.1 (by decide)
  · rintro ⟨hbegin, -⟩
    have hreleased := hbegin ⟨by decide, by decide⟩
    exact absurd hreleased.1 (by decide)

end MiniTor.Client
