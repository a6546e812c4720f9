import MiniTor.Circuit.ExitNode
import MiniTor.Client.Stream
import MiniTor.Theory.Mutex
import MiniTor.Theory.Run

/-!
# The tasks of an exit circuit

One circuit of an exit, one lock operation at a time: the loop of `handle_connection`
and the tasks of `spawn_stream_tasks` share the crypto state (`shared_state`) and the
write half to the previous hop (`prev_hop_write`), each behind a mutex. CONNECTED and
the cells of a stream are sealed and written with `shared_state` held throughout; the
ENDs the handler answers with are sealed under it, returned, and written later.

- `Phase`: where a task is, told by the locks it has asked for.
- `ExitTasks.step`: what a task does next.
- `Move`, `step_move`: all a step can do to locks, seals and wire.
- `Locked`: the mutexes and the phases agree, in every state (`Locked.step`).
-/

namespace MiniTor

open Theory

/-- What a task does once it has let go of `shared_state`. -/
inductive After
  /-- `spawn_stream_tasks` and `streams.insert` of `handle_begin`. -/
  | spawn (streamId : StreamId)
  /-- The other chunks of the last read. -/
  | chunks (streamId : StreamId) (rest : List Bytes)
  /-- The task is over. -/
  | done

/-- What a task needs `shared_state` for. -/
inductive Job
  /-- Decrypt and verify a forward cell. -/
  | openCell (msg : Message)
  /-- Seal a cell and write it before letting go. -/
  | send (p : Plain) (next : After)
  /-- Seal the cell that `handle_message` returns. -/
  | answer (p : Plain)

/-- Whether the loop goes on so, or else a stream task. -/
def After.of (loop : Bool) : After → Bool
  | .spawn _ => loop
  | .chunks _ _ => !loop
  | .done => true

def Job.of (loop : Bool) : Job → Bool
  | .openCell _ | .answer _ => loop
  | .send _ next => next.of loop

def After.Fits : After → Prop
  | .chunks _ rest => ∀ chunk ∈ rest, chunk.length ≤ MAX_PAYLOAD_SIZE
  | _ => True

/-- What is to be sealed fits a cell. -/
def Job.Fits : Job → Prop
  | .openCell _ => True
  | .send p next => p.Sealable ∧ next.Fits
  | .answer p => p.Sealable

/-- Where a task is. -/
inductive Phase
  /-- The loop, at `Message::from_stream`. -/
  | reading
  /-- A stream task, at its `select!`. -/
  | selecting (streamId : StreamId)
  /-- About to lock `shared_state`. -/
  | starting (job : Job)
  /-- In line for `shared_state`. -/
  | waiting (job : Job)
  /-- Holds `shared_state`, the cell is sealed. -/
  | sealed (cell : Message) (next : After)
  /-- Holds `shared_state`, in line for the writer. -/
  | queued (cell : Message) (next : After)
  /-- Holds both, the write has returned. -/
  | written (next : After)
  /-- Holds `shared_state`, the writer is dropped. -/
  | dropping (next : After)
  /-- The loop, with the response `handle_message` returned. -/
  | response (cell : Message)
  /-- The loop, in line for the writer with it. -/
  | responding (cell : Message)
  /-- The loop holds the writer, the write has returned. -/
  | responded (sent : Bool)
  | ended

namespace Phase

/-- In line for `shared_state` or holding it. -/
def asksState : Phase → Bool
  | .waiting _ | .sealed _ _ | .queued _ _ | .written _ | .dropping _ => true
  | _ => false

/-- Past the await of `shared_state.lock()`. -/
def holdsState : Phase → Bool
  | .sealed _ _ | .queued _ _ | .written _ | .dropping _ => true
  | _ => false

/-- In line for the writer or holding it. -/
def asksWriter : Phase → Bool
  | .queued _ _ | .written _ | .responding _ | .responded _ => true
  | _ => false

/-- Past the await of `prev_hop_write.lock()`. -/
def holdsWriter : Phase → Bool
  | .written _ | .responded _ => true
  | _ => false

/-- The sealed cell a task has yet to write. -/
def unwritten? : Phase → Option Message
  | .sealed cell _ | .queued cell _ | .response cell | .responding cell => some cell
  | _ => none

/-- The response the loop has yet to write. -/
def response? : Phase → Option Message
  | .response cell | .responding cell => some cell
  | _ => none

/-- The cell a task has yet to write while it holds `shared_state`. -/
def held? : Phase → Option Message
  | .sealed cell _ | .queued cell _ => some cell
  | _ => none

/-- Has a sealed cell that fits and is yet to be written. -/
def toWrite (phase : Phase) : Bool :=
  phase.unwritten?.any fun cell => decide (cell.data.length ≤ MAX_PAYLOAD_SIZE)

/-- Needs `shared_state`, or has sealed a cell it has not written. -/
def busy : Phase → Bool
  | .starting _ | .waiting _ => true
  | phase => phase.unwritten?.isSome

/-- No lock held or asked for, no cell sealed. -/
def away : Phase → Bool
  | .reading | .selecting _ | .starting _ | .ended => true
  | _ => false

/-- Where the loop can be, or else a stream task. -/
def of (loop : Bool) : Phase → Bool
  | .reading | .response _ | .responding _ | .responded _ => loop
  | .selecting _ => !loop
  | .starting job | .waiting job => job.of loop
  | .sealed _ next | .queued _ next | .written next | .dropping next => next.of loop
  | .ended => true

/-- What is sealed or to be sealed fits a cell. -/
def Fits : Phase → Prop
  | .starting job | .waiting job => job.Fits
  | .sealed cell next | .queued cell next => cell.data.length ≤ MAX_PAYLOAD_SIZE ∧ next.Fits
  | .written next | .dropping next => next.Fits
  | .response cell | .responding cell => cell.data.length ≤ MAX_PAYLOAD_SIZE
  | _ => True

variable {phase : Phase}

/-- A task without locks has nothing to do with either. -/
theorem away_locks (h : phase.away = true) :
    phase.asksState = false ∧ phase.holdsState = false ∧ phase.asksWriter = false ∧
      phase.holdsWriter = false ∧ phase.unwritten? = none := by
  cases phase <;> first | exact ⟨rfl, rfl, rfl, rfl, rfl⟩ | cases h

theorem asksWriter_of_holdsWriter (h : phase.holdsWriter = true) : phase.asksWriter = true := by
  cases phase <;> first | rfl | cases h

end Phase

/-- One circuit of an exit. Task 0 is the loop of `handle_connection`, the others are stream
tasks in the order they were spawned. -/
structure ExitTasks where
  circuitId : CircuitId
  /-- What `shared_state` guards. -/
  crypto : ExitCryptoState
  /-- The task behind each `dest_tx`. -/
  streams : AList fun _ : StreamId => Nat
  tasks : List Phase
  sharedState : Mutex Nat
  writer : Mutex Nat
  /-- The connection to the previous hop has failed. -/
  broken : Bool
  /-- The cells written to the previous hop. -/
  wire : List Message
  /-- The backward cells in the order in which they advanced digest and cipher, and their
  plaintexts. -/
  seals : List Message
  plains : List Plain

/-- What can happen next. -/
inductive ExitEvent
  /-- The loop reads a forward cell of the circuit. -/
  | read (msg : Message)
  /-- A stream task reads from its destination. -/
  | destination (i : Nat) (input : Except IoError Bytes)
  /-- Its `dest_rx` is closed, or what came through it could not be written. -/
  | hangUp (i : Nat)
  /-- A task locks the mutex it needs next: it gets in line. -/
  | lock (i : Nat)
  /-- The first in line for `shared_state` does what it is for. -/
  | enter (i : Nat) (connect : String → Except IoError Unit)
  /-- The first in line for the writer writes. -/
  | write (i : Nat)
  /-- A task drops the guard it took last. -/
  | unlock (i : Nat)
  | breaks

/-- The text of an error the outside world answers with fits the END that carries it. -/
def ExitEvent.Fits : ExitEvent → Prop
  | .enter _ connect =>
    ∀ destination e, connect destination = .error e →
      (connectionFailed e).length ≤ MAX_PAYLOAD_SIZE
  | .destination _ (.error e) => (ascii "Read error: " ++ e.text).length ≤ MAX_PAYLOAD_SIZE
  | _ => True

namespace ExitTasks

variable (P : Primitives) (s : ExitTasks)

/-- A circuit whose `streamIds` are open and idle. -/
def start (circuitId : CircuitId) (crypto : ExitCryptoState) (streamIds : List StreamId) :
    ExitTasks where
  circuitId := circuitId
  crypto := crypto
  streams := (streamIds.zipIdx 1).foldl (fun streams (streamId, i) => streams.insert streamId i) ∅
  tasks := .reading :: streamIds.map .selecting
  sharedState := .free
  writer := .free
  broken := false
  wire := []
  seals := []
  plains := []

def goTo (i : Nat) (phase : Phase) : ExitTasks := { s with tasks := s.tasks.set i phase }

/-- The first lines of `handle_message`; CREATE replaces the handler, DESTROY closes it. -/
def onMessage (msg : Message) : Phase :=
  match msg.command with
  | .begin | .data | .end => .starting (.openCell msg)
  | .padding => .reading
  | _ => .ended

/-- `dest_tx.send` succeeds. -/
def receiverAlive (i : Nat) : Bool :=
  match s.tasks[i]? with
  | none | some .ended => false
  | some _ => true

/-- What `handle_begin`, `handle_data` and `handle_end` do with a cell that verified, up to
the next lock. -/
def serve (connect : String → Except IoError Unit) (i : Nat) (p : Plain) : ExitTasks :=
  match p.command with
  | .begin =>
    match fromUtf8 p.data with
    | none => s.goTo i .ended
    | some text =>
      match connect (trimEndNul text) with
      | .ok () => s.goTo i (.starting (.send ⟨p.streamId, .connected, []⟩ (.spawn p.streamId)))
      | .error e => s.goTo i (.starting (.answer ⟨p.streamId, .end, connectionFailed e⟩))
  | .data =>
    match s.streams.lookup p.streamId with
    | some task =>
      if s.receiverAlive task then s.goTo i .reading
      else s.goTo i (.starting (.answer ⟨p.streamId, .end, ascii "Destination closed"⟩))
    | none => s.goTo i (.starting (.answer ⟨p.streamId, .end, ascii "Stream not found"⟩))
  | _ =>
    { s with streams := s.streams.erase p.streamId }.goTo i
      (.starting (.answer ⟨p.streamId, .end, []⟩))

/-- Decrypt and verify under `shared_state`, and let go of it. -/
def openCell (connect : String → Except IoError Unit) (i : Nat) (msg : Message) : ExitTasks :=
  let (crypto, decrypted, verified) := s.crypto.openForward P msg
  let s := { s with crypto, sharedState := s.sharedState.release }
  if verified then s.serve connect i ⟨msg.streamId, msg.command, decrypted⟩ else s.goTo i .ended

/-- Seal a cell under `shared_state`. -/
def sealCell (p : Plain) : ExitTasks × Message :=
  let (crypto, cell) := s.crypto.sealPlain P s.circuitId p
  ({ s with crypto, seals := s.seals ++ [cell], plains := s.plains ++ [p] }, cell)

/-- `write_to_stream` under the writer. -/
def put (cell : Message) : ExitTasks × Bool :=
  if cell.data.length ≤ MAX_PAYLOAD_SIZE ∧ s.broken = false then
    ({ s with wire := s.wire ++ [cell] }, true)
  else (s, false)

/-- What `read_half.read` returned. -/
def fromDestination (streamId : StreamId) : Except IoError Bytes → Phase
  | .ok [] => .starting (.send ⟨streamId, .end, []⟩ .done)
  | .ok data =>
    match Client.chunks MAX_PAYLOAD_SIZE data with
    | [] => .selecting streamId
    | chunk :: rest => .starting (.send ⟨streamId, .data, chunk⟩ (.chunks streamId rest))
  | .error e => .starting (.send ⟨streamId, .end, ascii "Read error: " ++ e.text⟩ .done)

/-- A task goes on after both guards are dropped. -/
def goOn (i : Nat) : After → ExitTasks
  | .spawn streamId =>
    { s with
      tasks := s.tasks.set i Phase.reading ++ [Phase.selecting streamId]
      streams := s.streams.insert streamId s.tasks.length }
  | .chunks streamId [] => s.goTo i (.selecting streamId)
  | .chunks streamId (chunk :: rest) =>
    s.goTo i (.starting (.send ⟨streamId, .data, chunk⟩ (.chunks streamId rest)))
  | .done => s.goTo i .ended

def step (s : ExitTasks) : ExitEvent → ExitTasks
  | .read msg =>
    match s.tasks[0]? with
    | some Phase.reading => s.goTo 0 (onMessage msg)
    | _ => s
  | .destination i input =>
    match s.tasks[i]? with
    | some (.selecting streamId) => s.goTo i (fromDestination streamId input)
    | _ => s
  | .hangUp i =>
    match s.tasks[i]? with
    | some (.selecting _) => s.goTo i .ended
    | _ => s
  | .lock i =>
    match s.tasks[i]? with
    | some (.starting job) => { s with sharedState := s.sharedState.ask i }.goTo i (.waiting job)
    | some (.sealed cell next) => { s with writer := s.writer.ask i }.goTo i (.queued cell next)
    | some (.response cell) => { s with writer := s.writer.ask i }.goTo i (.responding cell)
    | _ => s
  | .enter i connect =>
    match s.tasks[i]? with
    | some (.waiting job) =>
      if s.sharedState.holder = some i then
        match job with
        | .openCell msg => s.openCell P connect i msg
        | .send p next =>
          let (s, cell) := s.sealCell P p
          s.goTo i (.sealed cell next)
        | .answer p =>
          let (s, cell) := s.sealCell P p
          { s with sharedState := s.sharedState.release }.goTo i (.response cell)
      else s
    | _ => s
  | .write i =>
    match s.tasks[i]? with
    | some (.queued cell next) =>
      if s.writer.holder = some i then
        let (s, sent) := s.put cell
        -- a failed write ends the task once it has dropped its guards
        s.goTo i (.written (if sent then next else .done))
      else s
    | some (.responding cell) =>
      if s.writer.holder = some i then
        let (s, sent) := s.put cell
        s.goTo i (.responded sent)
      else s
    | _ => s
  | .unlock i =>
    match s.tasks[i]? with
    | some (.written next) => { s with writer := s.writer.release }.goTo i (.dropping next)
    | some (.dropping next) => { s with sharedState := s.sharedState.release }.goOn i next
    | some (.responded sent) =>
      { s with writer := s.writer.release }.goTo i (if sent then .reading else .ended)
    | _ => s
  | .breaks => { s with broken := true }

/-! ## What a step does -/

/-- Task `i` is at a phase that satisfies `q`. -/
def At (s : ExitTasks) (q : Phase → Bool) (i : Nat) : Prop :=
  ∃ phase, s.tasks[i]? = some phase ∧ q phase = true

/-- All a step can do to locks, seals and wire; `streams` is left open. -/
inductive Move (s : ExitTasks) : ExitEvent → ExitTasks → Prop
  | quiet {e : ExitEvent} : Move s e s
  | broke : Move s .breaks { s with broken := true }
  /-- The loop has read a cell. -/
  | reads {msg : Message} {phase' : Phase} (hphase : s.tasks[0]? = some .reading)
      (haway' : phase'.away = true) (hrole : phase'.of true = true) (hfits : phase'.Fits) :
      Move s (.read msg) (s.goTo 0 phase')
  /-- A stream task leaves its `select!`. -/
  | selects {e : ExitEvent} {i : Nat} {streamId : StreamId} {phase' : Phase}
      (he : e = .hangUp i ∨ ∃ input, e = .destination i input)
      (hphase : s.tasks[i]? = some (.selecting streamId)) (haway' : phase'.away = true)
      (hrole : phase'.of false = true) (hfits : e.Fits → phase'.Fits) : Move s e (s.goTo i phase')
  | asksState {i : Nat} {job : Job} (hphase : s.tasks[i]? = some (.starting job)) :
      Move s (.lock i) ({ s with sharedState := s.sharedState.ask i }.goTo i (.waiting job))
  /-- A task that has sealed a cell asks for the writer. -/
  | asksWriter {i : Nat} {phase phase' : Phase} (hphase : s.tasks[i]? = some phase)
      (hasks : phase.asksWriter = false) (hasks' : phase'.asksWriter = true)
      (hholds : phase'.holdsWriter = false) (hstate : phase'.asksState = phase.asksState)
      (hheld : phase'.holdsState = phase.holdsState)
      (hunwritten : phase'.unwritten? = phase.unwritten?)
      (hbusy : phase'.busy = phase.busy) (hcell : phase'.held? = phase.held?)
      (hresponse : phase'.response? = phase.response?)
      (hrole : ∀ loop, phase.of loop = true → phase'.of loop = true)
      (hfits : phase.Fits → phase'.Fits) :
      Move s (.lock i) ({ s with writer := s.writer.ask i }.goTo i phase')
  /-- The loop opens a forward cell. -/
  | opens {i : Nat} {connect : String → Except IoError Unit} {msg : Message} {phase' : Phase}
      {streams : AList fun _ : StreamId => Nat}
      (hphase : s.tasks[i]? = some (.waiting (.openCell msg)))
      (hholder : s.sharedState.holder = some i) (haway' : phase'.away = true)
      (hrole : phase'.of true = true)
      (hfits : (ExitEvent.enter i connect).Fits → phase'.Fits) :
      Move s (.enter i connect) ({ s with
        crypto := (s.crypto.openForward P msg).1
        sharedState := s.sharedState.release
        streams }.goTo i phase')
  /-- A task seals a cell and keeps `shared_state`. -/
  | seals {i : Nat} {connect : String → Except IoError Unit} {p : Plain} {next : After}
      (hphase : s.tasks[i]? = some (.waiting (.send p next)))
      (hholder : s.sharedState.holder = some i) :
      Move s (.enter i connect) ((s.sealCell P p).1.goTo i (.sealed (s.sealCell P p).2 next))
  /-- The loop seals a response and lets go of `shared_state`. -/
  | answers {i : Nat} {connect : String → Except IoError Unit} {p : Plain}
      (hphase : s.tasks[i]? = some (.waiting (.answer p)))
      (hholder : s.sharedState.holder = some i) :
      Move s (.enter i connect)
        ({ (s.sealCell P p).1 with sharedState := s.sharedState.release }.goTo i
          (.response (s.sealCell P p).2))
  /-- A task writes its cell, or fails to. -/
  | writes {i : Nat} {phase phase' : Phase} {cell : Message} (hphase : s.tasks[i]? = some phase)
      (hholder : s.writer.holder = some i) (hcell : phase.unwritten? = some cell)
      (hnone : phase'.unwritten? = none) (hasks : phase.asksWriter = true)
      (hasks' : phase'.asksWriter = true) (hstate : phase'.asksState = phase.asksState)
      (hheld : phase'.holdsState = phase.holdsState)
      (hrole : ∀ loop, phase.of loop = true → phase'.of loop = true)
      (hfits : phase.Fits → phase'.Fits) :
      Move s (.write i) ((s.put cell).1.goTo i phase')
  /-- A task that has written lets go of the writer. -/
  | dropsWriter {i : Nat} {phase phase' : Phase} (hphase : s.tasks[i]? = some phase)
      (hholds : phase.holdsWriter = true) (hasks' : phase'.asksWriter = false)
      (hstate : phase'.asksState = phase.asksState)
      (hheld : phase'.holdsState = phase.holdsState) (hnone : phase'.unwritten? = none)
      (hbusy : phase'.busy = false)
      (hrole : ∀ loop, phase.of loop = true → phase'.of loop = true)
      (hfits : phase.Fits → phase'.Fits) :
      Move s (.unlock i) ({ s with writer := s.writer.release }.goTo i phase')
  /-- A task that has written lets go of `shared_state`, the loop after spawning the task of a
  stream. -/
  | dropsState {i : Nat} {next : After} {phase' : Phase}
      {streams : AList fun _ : StreamId => Nat} {spawned : List StreamId}
      (hphase : s.tasks[i]? = some (.dropping next)) (haway' : phase'.away = true)
      (hbusy : phase'.busy = true → next.of true = false)
      (hrole : ∀ loop, next.of loop = true → phase'.of loop = true)
      (hfits : next.Fits → phase'.Fits) :
      Move s (.unlock i) { s with
        sharedState := s.sharedState.release
        streams
        tasks := s.tasks.set i phase' ++ spawned.map Phase.selecting }

variable {P} {s s' : ExitTasks} {e : ExitEvent}

theorem tasks_put (s : ExitTasks) (cell : Message) (i : Nat) (phase' : Phase) :
    ((s.put cell).1.goTo i phase').tasks = s.tasks.set i phase' := by
  unfold put
  split <;> rfl

/-- Serving a cell leaves everything but the loop and the streams as they are. -/
theorem serve_cases (connect : String → Except IoError Unit) (i : Nat) (p : Plain) :
    ∃ streams phase', s.serve connect i p = { s with streams }.goTo i phase' ∧
      phase'.away = true ∧ phase'.of true = true ∧
      ((ExitEvent.enter i connect).Fits → phase'.Fits) := by
  have hclosed : (ascii "Destination closed").length ≤ MAX_PAYLOAD_SIZE := by decide
  have hnotFound : (ascii "Stream not found").length ≤ MAX_PAYLOAD_SIZE := by decide
  unfold serve
  split
  · split
    · exact ⟨s.streams, _, rfl, rfl, rfl, fun _ => trivial⟩
    · split
      · exact ⟨s.streams, _, rfl, rfl, rfl, fun _ => ⟨⟨Nat.zero_le _, .inl rfl⟩, trivial⟩⟩
      · next e hconnect =>
        exact ⟨s.streams, _, rfl, rfl, rfl, fun hfits => ⟨hfits _ e hconnect, .inr (.inr rfl)⟩⟩
  · split
    · split
      · exact ⟨s.streams, _, rfl, rfl, rfl, fun _ => trivial⟩
      · exact ⟨s.streams, _, rfl, rfl, rfl, fun _ => ⟨hclosed, .inr (.inr rfl)⟩⟩
    · exact ⟨s.streams, _, rfl, rfl, rfl, fun _ => ⟨hnotFound, .inr (.inr rfl)⟩⟩
  · exact ⟨_, _, rfl, rfl, rfl, fun _ => ⟨Nat.zero_le _, .inr (.inr rfl)⟩⟩

theorem fromDestination_away (streamId : StreamId) (input : Except IoError Bytes) :
    (fromDestination streamId input).away = true ∧
      (fromDestination streamId input).of false = true := by
  unfold fromDestination
  split
  · exact ⟨rfl, rfl⟩
  · split
    · exact ⟨rfl, rfl⟩
    · exact ⟨rfl, rfl⟩
  · exact ⟨rfl, rfl⟩

theorem fromDestination_fits {i : Nat} {streamId : StreamId} {input : Except IoError Bytes}
    (hfits : (ExitEvent.destination i input).Fits) : (fromDestination streamId input).Fits := by
  unfold fromDestination
  split
  · exact ⟨⟨Nat.zero_le _, .inr (.inr rfl)⟩, trivial⟩
  · next data hdata =>
    split
    · trivial
    · next chunk rest hchunks =>
      have hlen : ∀ found ∈ chunk :: rest, found.length ≤ MAX_PAYLOAD_SIZE := by
        rw [← hchunks]
        exact Client.length_chunks _ _
      exact ⟨⟨hlen chunk List.mem_cons_self, .inr (.inl rfl)⟩,
        fun found hmem => hlen found (List.mem_cons_of_mem _ hmem)⟩
  · exact ⟨⟨hfits, .inr (.inr rfl)⟩, trivial⟩

theorem onMessage_away (msg : Message) :
    (onMessage msg).away = true ∧ (onMessage msg).of true = true ∧ (onMessage msg).Fits := by
  unfold onMessage
  split
  all_goals exact ⟨rfl, rfl, trivial⟩

/-- A task that spawns none. -/
theorem move_dropping {i : Nat} {next : After} {phase' : Phase}
    (hphase : s.tasks[i]? = some (.dropping next)) (haway' : phase'.away = true)
    (hbusy : phase'.busy = true → next.of true = false)
    (hrole : ∀ loop, next.of loop = true → phase'.of loop = true)
    (hfits : next.Fits → phase'.Fits) :
    s.Move P (.unlock i) ({ s with sharedState := s.sharedState.release }.goTo i phase') := by
  have hmove := @Move.dropsState P s i next phase' s.streams [] hphase haway' hbusy hrole hfits
  rwa [List.map_nil, List.append_nil] at hmove

/-- **Every step is a move.** -/
theorem step_move (s : ExitTasks) (e : ExitEvent) : s.Move P e (s.step P e) := by
  cases e with
  | read msg =>
    dsimp only [step]
    split
    · next hphase =>
      obtain ⟨haway, hrole, hfits⟩ := onMessage_away msg
      exact .reads hphase haway hrole hfits
    · exact .quiet
  | destination i input =>
    dsimp only [step]
    split
    · next streamId hphase =>
      obtain ⟨haway, hrole⟩ := fromDestination_away streamId input
      exact .selects (.inr ⟨input, rfl⟩) hphase haway hrole fromDestination_fits
    · exact .quiet
  | hangUp i =>
    dsimp only [step]
    split
    · next hphase => exact .selects (.inl rfl) hphase rfl rfl fun _ => trivial
    · exact .quiet
  | lock i =>
    dsimp only [step]
    split
    · next hphase => exact .asksState hphase
    · next hphase => exact .asksWriter hphase rfl rfl rfl rfl rfl rfl rfl rfl rfl (fun _ => id) id
    · next hphase => exact .asksWriter hphase rfl rfl rfl rfl rfl rfl rfl rfl rfl (fun _ => id) id
    · exact .quiet
  | enter i connect =>
    dsimp only [step]
    split
    · next job hphase =>
      split
      · next hholder =>
        cases job with
        | openCell msg =>
          show s.Move P _ (s.openCell P connect i msg)
          unfold openCell
          dsimp only
          split
          · obtain ⟨streams, phase', hserve, haway, hrole, hfits⟩ := @serve_cases
              { s with
                crypto := (s.crypto.openForward P msg).1
                sharedState := s.sharedState.release } connect i
              ⟨msg.streamId, msg.command, (s.crypto.openForward P msg).2.1⟩
            rw [hserve]
            exact .opens hphase hholder haway hrole hfits
          · exact .opens hphase hholder rfl rfl fun _ => trivial
        | send p next => exact .seals hphase hholder
        | answer p => exact .answers hphase hholder
      · exact .quiet
    · exact .quiet
  | write i =>
    dsimp only [step]
    split
    · next cell next hphase =>
      split
      · next hholder =>
        refine .writes hphase hholder rfl rfl rfl rfl rfl rfl (fun loop hrole => ?_) fun hfits => ?_
        · split
          · exact hrole
          · rfl
        · split
          · exact hfits.2
          · trivial
      · exact .quiet
    · next cell hphase =>
      split
      · next hholder =>
        exact .writes hphase hholder rfl rfl rfl rfl rfl rfl (fun _ => id) fun _ => trivial
      · exact .quiet
    · exact .quiet
  | unlock i =>
    dsimp only [step]
    split
    · next next hphase => exact .dropsWriter hphase rfl rfl rfl rfl rfl rfl (fun _ => id) id
    · next next hphase =>
      cases next with
      | spawn streamId =>
        exact @Move.dropsState P s i _ .reading _ [streamId] hphase rfl nofun (fun _ => id)
          fun _ => trivial
      | chunks streamId rest =>
        cases rest with
        | nil => exact move_dropping hphase rfl nofun (fun _ => id) fun _ => trivial
        | cons chunk rest =>
          refine move_dropping hphase rfl (fun _ => rfl) (fun _ => id) fun hfits => ?_
          exact ⟨⟨hfits chunk List.mem_cons_self, .inr (.inl rfl)⟩,
            fun found hmem => hfits found (List.mem_cons_of_mem _ hmem)⟩
      | done => exact move_dropping hphase rfl nofun (fun _ => id) fun _ => trivial
    · next sent hphase =>
      cases sent with
      | true => exact .dropsWriter hphase rfl rfl rfl rfl rfl rfl (fun _ => id) fun _ => trivial
      | false =>
        exact .dropsWriter hphase rfl rfl rfl rfl rfl rfl (fun _ _ => rfl) fun _ => trivial
    · exact .quiet
  | breaks => exact .broke

/-! ## The mutexes and the phases agree -/

section At

variable {q : Phase → Bool} {i j : Nat} {phase phase' : Phase}

theorem at_iff (h : s.tasks[i]? = some phase) : s.At q i ↔ q phase = true := by
  constructor
  · rintro ⟨phase', hphase', hq⟩
    cases h.symm.trans hphase'
    exact hq
  · intro hq
    exact ⟨phase, h, hq⟩

theorem at_set (h : s.tasks[i]? = some phase) (hset : s'.tasks = s.tasks.set i phase') :
    s'.At q i ↔ q phase' = true := by
  refine at_iff ?_
  rw [hset, List.getElem?_set_self (List.getElem?_eq_some_iff.mp h).1]

theorem at_set_ne (hset : s'.tasks = s.tasks.set i phase') (hne : j ≠ i) :
    s'.At q j ↔ s.At q j := by
  unfold At
  rw [hset, List.getElem?_set_ne hne.symm]

/-- A task moved, and `q` tells the same of it. -/
theorem at_set_same (h : s.tasks[i]? = some phase) (hset : s'.tasks = s.tasks.set i phase')
    (hq : q phase' = q phase) (j : Nat) : s'.At q j ↔ s.At q j := by
  by_cases hj : j = i
  · subst hj
    rw [at_set h hset, at_iff h, hq]
  · exact at_set_ne hset hj

/-- A task moved, and `q` tells of it now. -/
theorem at_set_new (h : s.tasks[i]? = some phase) (hset : s'.tasks = s.tasks.set i phase')
    (hq : q phase' = true) (j : Nat) : s'.At q j ↔ s.At q j ∨ j = i := by
  by_cases hj : j = i
  · subst hj
    exact iff_of_true ((at_set h hset).mpr hq) (.inr rfl)
  · rw [at_set_ne hset hj]
    exact (or_iff_left hj).symm

/-- A task moved, and `q` no longer tells of it. -/
theorem at_set_gone (h : s.tasks[i]? = some phase) (hset : s'.tasks = s.tasks.set i phase')
    (hq : q phase' = false) (j : Nat) : s'.At q j ↔ s.At q j ∧ j ≠ i := by
  by_cases hj : j = i
  · subst hj
    rw [at_set h hset, hq]
    exact iff_of_false Bool.false_ne_true fun hboth => hboth.2 rfl
  · rw [at_set_ne hset hj]
    exact (and_iff_left hj).symm

/-- Tasks that `q` does not tell of are spawned. -/
theorem at_append {t : ExitTasks} {spawned : List StreamId}
    (htasks : s'.tasks = t.tasks ++ spawned.map Phase.selecting)
    (hq : ∀ streamId, q (.selecting streamId) = false) (j : Nat) : s'.At q j ↔ t.At q j := by
  unfold At
  rw [htasks]
  constructor
  · rintro ⟨phase, hphase, hholds⟩
    rw [List.getElem?_append] at hphase
    split at hphase
    · exact ⟨phase, hphase, hholds⟩
    · obtain ⟨streamId, -, rfl⟩ := List.mem_map.mp (List.mem_of_getElem? hphase)
      rw [hq] at hholds
      cases hholds
  · rintro ⟨phase, hphase, hholds⟩
    exact ⟨phase, (List.getElem?_append_left (List.getElem?_eq_some_iff.mp hphase).1).trans hphase,
      hholds⟩

end At

/-- **Who is in line and who holds a mutex can be read off the phases**, and loop and stream
tasks keep to their phases. -/
structure Locked (s : ExitTasks) : Prop where
  state : s.sharedState.Tracks (s.At Phase.asksState) (s.At Phase.holdsState)
  writer : s.writer.Tracks (s.At Phase.asksWriter) (s.At Phase.holdsWriter)
  roles : ∀ (i : Nat) (phase : Phase),
    s.tasks[i]? = some phase → phase.of (decide (i = 0)) = true

/-- A phase of the loop alone is at task 0. -/
theorem Locked.eq_zero (h : s.Locked) {i : Nat} {phase : Phase} (hphase : s.tasks[i]? = some phase)
    (hloop : phase.of false = false) : i = 0 := by
  by_contra hi
  have hrole := h.roles i phase hphase
  rw [decide_eq_false hi, hloop] at hrole
  cases hrole

/-- A task goes on in its role. -/
theorem Locked.roles_set (h : s.Locked) {i : Nat} {phase phase' : Phase}
    (hphase : s.tasks[i]? = some phase) (hset : s'.tasks = s.tasks.set i phase')
    (hrole : phase'.of (decide (i = 0)) = true) (j : Nat) (found : Phase)
    (hfound : s'.tasks[j]? = some found) : found.of (decide (j = 0)) = true := by
  rw [hset] at hfound
  by_cases hj : j = i
  · subst hj
    rw [List.getElem?_set_self (List.getElem?_eq_some_iff.mp hphase).1] at hfound
    cases hfound
    exact hrole
  · rw [List.getElem?_set_ne (Ne.symm hj)] at hfound
    exact h.roles j found hfound

/-- **A move keeps mutexes and phases in agreement.** -/
theorem Move.locked (hmove : s.Move P e s') (h : s.Locked) : s'.Locked := by
  cases hmove with
  | quiet => exact h
  | broke => exact ⟨h.state, h.writer, h.roles⟩
  | @reads msg phase' hphase haway' hrole hfits =>
    obtain ⟨hs', hhs', hw', hhw', -⟩ := Phase.away_locks haway'
    refine ⟨h.state.keep (at_set_same hphase rfl hs') fun j hj => .inl ?_,
      h.writer.keep (at_set_same hphase rfl hw') fun j hj => .inl ?_,
      h.roles_set hphase rfl hrole⟩
    · exact (at_set_same hphase rfl hhs' j).mp hj
    · exact (at_set_same hphase rfl hhw' j).mp hj
  | @selects e i streamId phase' he hphase haway' hrole hfits =>
    obtain ⟨hs', hhs', hw', hhw', -⟩ := Phase.away_locks haway'
    -- the loop has no `select!`
    have hi : decide (i = 0) = false := by simpa [Phase.of] using h.roles i _ hphase
    refine ⟨h.state.keep (at_set_same hphase rfl hs') fun j hj => .inl ?_,
      h.writer.keep (at_set_same hphase rfl hw') fun j hj => .inl ?_,
      h.roles_set hphase rfl (hi ▸ hrole)⟩
    · exact (at_set_same hphase rfl hhs' j).mp hj
    · exact (at_set_same hphase rfl hhw' j).mp hj
  | @asksState i job hphase =>
    have hset : ({ s with sharedState := s.sharedState.ask i }.goTo i (.waiting job)).tasks =
        s.tasks.set i (.waiting job) := rfl
    have hrole := h.roles i _ hphase
    have hasked : ¬s.At Phase.asksState i := fun hi => (nomatch (at_iff hphase).mp hi)
    refine ⟨h.state.ask hasked (at_set_new hphase hset rfl) fun j hj => ?_,
      h.writer.keep (at_set_same hphase hset rfl) fun j hj => .inl ?_,
      h.roles_set hphase hset hrole⟩
    · exact (at_set_same hphase hset rfl j).mp hj
    · exact (at_set_same hphase hset rfl j).mp hj
  | @asksWriter i phase phase' hphase hasks hasks' hholds hstate hheld hunwritten hbusy hcell
      hresponse hrole hfits =>
    have hasked : ¬s.At Phase.asksWriter i := by
      rw [at_iff hphase, hasks]
      exact Bool.false_ne_true
    refine ⟨h.state.keep (at_set_same hphase rfl hstate) fun j hj => .inl ?_,
      h.writer.ask hasked (at_set_new hphase rfl hasks') fun j hj => ?_,
      h.roles_set hphase rfl (hrole _ (h.roles i _ hphase))⟩
    · exact (at_set_same hphase rfl hheld j).mp hj
    · exact ((at_set_gone hphase rfl hholds j).mp hj).1
  | @opens i connect msg phase' streams hphase hholder haway' hrole hfits =>
    obtain ⟨hs', hhs', hw', hhw', -⟩ := Phase.away_locks haway'
    have hi : decide (i = 0) = true := h.roles i _ hphase
    refine ⟨h.state.release hholder (at_set_gone hphase rfl hs') fun j hj => ?_,
      h.writer.keep (at_set_same hphase rfl hw') fun j hj => .inl ?_,
      h.roles_set hphase rfl (hi ▸ hrole)⟩
    · exact (at_set_gone hphase rfl hhs' j).mp hj
    · exact (at_set_same hphase rfl hhw' j).mp hj
  | @seals i connect p next hphase hholder =>
    have hrole := h.roles i _ hphase
    have hset : ((s.sealCell P p).1.goTo i (.sealed (s.sealCell P p).2 next)).tasks =
        s.tasks.set i (.sealed (s.sealCell P p).2 next) := rfl
    refine ⟨h.state.keep (at_set_same hphase hset rfl) fun j hj => ?_,
      h.writer.keep (at_set_same hphase hset rfl) fun j hj => .inl ?_,
      h.roles_set hphase hset hrole⟩
    · rcases (at_set_new hphase hset rfl j).mp hj with hold | rfl
      · exact .inl hold
      · exact .inr hholder
    · exact (at_set_same hphase hset rfl j).mp hj
  | @answers i connect p hphase hholder =>
    have hrole := h.roles i _ hphase
    have hset : ({ (s.sealCell P p).1 with sharedState := s.sharedState.release }.goTo i
        (.response (s.sealCell P p).2)).tasks = s.tasks.set i (.response (s.sealCell P p).2) := rfl
    refine ⟨h.state.release hholder (at_set_gone hphase hset rfl) fun j hj => ?_,
      h.writer.keep (at_set_same hphase hset rfl) fun j hj => .inl ?_,
      h.roles_set hphase hset hrole⟩
    · exact (at_set_gone hphase hset rfl j).mp hj
    · exact (at_set_same hphase hset rfl j).mp hj
  | @writes i phase phase' cell hphase hholder hcell hnone hasks hasks' hstate hheld hrole hfits =>
    have hset := tasks_put s cell i phase'
    have hlocks : ((s.put cell).1.goTo i phase').sharedState = s.sharedState ∧
        ((s.put cell).1.goTo i phase').writer = s.writer := by
      unfold put
      split <;> exact ⟨rfl, rfl⟩
    refine ⟨?_, ?_, h.roles_set hphase hset (hrole _ (h.roles i _ hphase))⟩
    · rw [hlocks.1]
      refine h.state.keep (at_set_same hphase hset hstate) fun j hj => .inl ?_
      exact (at_set_same hphase hset hheld j).mp hj
    · rw [hlocks.2]
      refine h.writer.keep (at_set_same hphase hset (hasks'.trans hasks.symm)) fun j hj => ?_
      by_cases hj' : j = i
      · subst hj'
        exact .inr hholder
      · exact .inl ((at_set_ne hset hj').mp hj)
  | @dropsWriter i phase phase' hphase hholds hasks' hstate hheld hnone hbusy hrole hfits =>
    have hholder : s.writer.holder = some i := h.writer.holds i ((at_iff hphase).mpr hholds)
    have hholds' : phase'.holdsWriter = false := by
      refine Bool.eq_false_iff.mpr fun hholds' => ?_
      have hboth := Phase.asksWriter_of_holdsWriter hholds'
      rw [hasks'] at hboth
      cases hboth
    refine ⟨h.state.keep (at_set_same hphase rfl hstate) fun j hj => .inl ?_,
      h.writer.release hholder (at_set_gone hphase rfl hasks') fun j hj => ?_,
      h.roles_set hphase rfl (hrole _ (h.roles i _ hphase))⟩
    · exact (at_set_same hphase rfl hheld j).mp hj
    · exact (at_set_gone hphase rfl hholds' j).mp hj
  | @dropsState i next phase' streams spawned hphase haway' hbusy hrole hfits =>
    obtain ⟨hs', hhs', hw', hhw', -⟩ := Phase.away_locks haway'
    have hholder : s.sharedState.holder = some i := h.state.holds i ((at_iff hphase).mpr rfl)
    -- first the task lets go, then another is spawned
    have hspawn := fun (q : Phase → Bool) (hq : ∀ streamId, q (.selecting streamId) = false) =>
      @at_append { s with
        sharedState := s.sharedState.release
        streams
        tasks := s.tasks.set i phase' ++ spawned.map Phase.selecting } q (s.goTo i phase') spawned
        rfl hq
    refine ⟨h.state.release hholder (fun j => ?_) fun j hj => ?_,
      h.writer.keep (fun j => ?_) fun j hj => .inl ?_, fun j found hfound => ?_⟩
    · exact (hspawn _ (fun _ => rfl) j).trans (at_set_gone hphase rfl hs' j)
    · exact (at_set_gone hphase rfl hhs' j).mp ((hspawn _ (fun _ => rfl) j).mp hj)
    · exact (hspawn _ (fun _ => rfl) j).trans (at_set_same hphase rfl hw' j)
    · exact (at_set_same hphase rfl hhw' j).mp ((hspawn _ (fun _ => rfl) j).mp hj)
    · rw [List.getElem?_append] at hfound
      split at hfound
      · have hnext := hrole _ (h.roles i _ hphase)
        exact @Locked.roles_set s (s.goTo i phase') h i _ _ hphase rfl hnext j found hfound
      · next hlen =>
        obtain ⟨streamId, -, rfl⟩ := List.mem_map.mp (List.mem_of_getElem? hfound)
        have hpos : 0 < s.tasks.length := Nat.zero_lt_of_lt (List.getElem?_eq_some_iff.mp hphase).1
        rw [List.length_set] at hlen
        have hj : decide (j = 0) = false := decide_eq_false (by omega)
        rw [hj]
        rfl

/-- Only the write of a cell that fits changes the wire. -/
theorem Move.wire (hmove : s.Move P e s') :
    s'.wire = s.wire ∨ ∃ i phase cell, e = .write i ∧ s.tasks[i]? = some phase ∧
      phase.toWrite = true ∧ s'.wire = s.wire ++ [cell] := by
  cases hmove with
  | @writes i phase phase' cell hphase hholder hcell hnone hasks hasks' hstate hheld hrole hfits =>
    by_cases hput : cell.data.length ≤ MAX_PAYLOAD_SIZE ∧ s.broken = false
    · refine .inr ⟨i, phase, cell, rfl, hphase, ?_, ?_⟩
      · rw [Phase.toWrite, hcell]
        exact decide_eq_true hput.1
      · rw [put, if_pos hput]
        rfl
    · rw [put, if_neg hput]
      exact .inl rfl
  | _ => exact .inl rfl

theorem Locked.step (h : s.Locked) (P : Primitives) (e : ExitEvent) : (s.step P e).Locked :=
  (step_move s e).locked h

theorem locked_start (circuitId : CircuitId) (crypto : ExitCryptoState)
    (streamIds : List StreamId) : (start circuitId crypto streamIds).Locked := by
  have htasks : ∀ (i : Nat) (phase : Phase),
      (start circuitId crypto streamIds).tasks[i]? = some phase →
        phase.away = true ∧ phase.of (decide (i = 0)) = true := by
    intro i phase hphase
    cases i with
    | zero =>
      cases hphase
      exact ⟨rfl, rfl⟩
    | succ i =>
      obtain ⟨streamId, -, rfl⟩ := List.mem_map.mp (List.mem_of_getElem? hphase)
      exact ⟨rfl, rfl⟩
  have hat : ∀ q : Phase → Bool, (∀ phase : Phase, phase.away = true → q phase = false) →
      ∀ i, ¬(start circuitId crypto streamIds).At q i := by
    rintro q hq i ⟨phase, hphase, hholds⟩
    rw [hq phase (htasks i phase hphase).1] at hholds
    cases hholds
  refine ⟨.free (hat _ fun phase h => ?_) (hat _ fun phase h => ?_),
    .free (hat _ fun phase h => ?_) (hat _ fun phase h => ?_), fun i phase hphase => ?_⟩
  · exact (Phase.away_locks h).1
  · exact (Phase.away_locks h).2.1
  · exact (Phase.away_locks h).2.2.1
  · exact (Phase.away_locks h).2.2.2.1
  · exact (htasks i phase hphase).2

end ExitTasks

end MiniTor
