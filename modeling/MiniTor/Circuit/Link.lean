import MiniTor.Circuit.ExitTasks

/-!
# The link between a middle relay and the exit

One circuit over one connection: a middle relay's connection loop and next-hop reader,
the exit's tasks, and a bounded buffer in each direction. The middle relay's loop holds
the `circuit_registry` mutex while `handle_relay` writes to the next hop; its reader
takes the mutex once for every cell it has read.

- `Link.step`: what a task of either relay does next; a write waits for room.
- `handleRelay_eq`: what the loop does before and at its write is `handle_relay`.
- `Link.Sound`: what holds in every state (`Link.Sound.step`).
-/

namespace MiniTor

open Theory

/-- How many cells fit into the buffers of a connection. -/
structure Capacity where
  forward : Nat
  backward : Nat
  forward_pos : 0 < forward
  backward_pos : 0 < backward

/-- The middle relay's tasks for the circuit. -/
inductive MiddleTask
  | loop
  | reader
  deriving DecidableEq

/-- Where the loop of `handle_connection` is. -/
inductive LoopPhase
  | reading
  /-- About to lock `circuit_registry`. -/
  | starting (msg : Message)
  | waiting (msg : Message)
  /-- In `handle_relay`, at the write to the next hop. -/
  | forwarding (cell : Message)
  /-- `handle_relay` has returned; the registry is still locked. -/
  | forwarded (ok : Bool)
  | ended

/-- Where the task of `spawn_nexthop_reader` is. -/
inductive ReaderPhase
  | reading
  | starting (msg : Message)
  | waiting (msg : Message)
  /-- The registry is free again; the response is to be written to the previous hop. -/
  | responding (response : Message)
  | ended

/-- In line for the registry or holding it. -/
def LoopPhase.asks : LoopPhase → Bool
  | .waiting _ | .forwarding _ | .forwarded _ => true
  | _ => false

/-- Past the await of `circuit_registry.lock()`. -/
def LoopPhase.holds : LoopPhase → Bool
  | .forwarding _ | .forwarded _ => true
  | _ => false

/-- At the write of a cell that fits. -/
def LoopPhase.atWrite : LoopPhase → Bool
  | .forwarding cell => decide (cell.data.length ≤ MAX_PAYLOAD_SIZE)
  | _ => false

/-- In line for the registry. -/
def ReaderPhase.asks : ReaderPhase → Bool
  | .waiting _ => true
  | _ => false

/-- Has read a cell and not been to the registry with it. -/
def ReaderPhase.inHand : ReaderPhase → Bool
  | .starting _ | .waiting _ => true
  | _ => false

/-- What `handle_relay` does up to its write: the handler after, and the cell for the next hop
if there is one; `none` if it fails. -/
def HopHandler.startRelay (P : Primitives) (h : HopHandler) (msg : Message) :
    Option (HopHandler × Option Message) :=
  h.context.cipherPair.map fun cipher =>
    (h.advanceForward cipher msg.data.length, h.nextHop.map fun _ => msg.peel P cipher)

/-- `handle_relay` is that, then the write. -/
theorem HopHandler.handleRelay_eq (P : Primitives) (role : HopRole) (env : Env) (h : HopHandler)
    (msg : Message) :
    h.handleRelay P role env msg =
      match h.startRelay P msg with
      | none => .fail h [] (.text role.noCipherForRelay)
      | some (h, none) => .ok h [] none
      | some (h, some cell) =>
        match cell.writeToStream env.nextHop with
        | .error e => .fail h [] (.tor e)
        | .ok bytes => .ok h [.toNextHop bytes] none := by
  unfold handleRelay startRelay
  cases hcipher : h.context.cipherPair with
  | none => rfl
  | some cipher =>
    cases hhop : h.nextHop with
    | none =>
      have hnext : (h.withCipher (cipher.applyForward P msg.data).1).nextHop = none := hhop
      dsimp only [Option.map_some]
      rw [hnext]
      rfl
    | some hop =>
      have hnext : (h.withCipher (cipher.applyForward P msg.data).1).nextHop = some hop := hhop
      dsimp only [Option.map_some]
      rw [hnext]
      rfl

structure Link where
  middle : HopHandler
  loop : LoopPhase
  reader : ReaderPhase
  registry : Mutex MiddleTask
  /-- The cells on their way to the exit. -/
  forward : List Message
  exit : ExitTasks
  /-- How many of the cells on the exit's wire the reader has read. -/
  taken : Nat

/-- What can happen next. -/
inductive LinkEvent
  /-- The loop reads a cell from its previous hop. -/
  | upstream (msg : Message)
  /-- A task of the middle relay locks the registry: it gets in line. -/
  | lock (t : MiddleTask)
  /-- The loop, first in line, enters `handle_relay`. -/
  | relay
  /-- Its write to the next hop returns. -/
  | forward
  /-- The loop drops the registry's guard. -/
  | unlock
  /-- The reader reads a cell from the next hop. -/
  | backward
  /-- The reader, first in line, runs `handle_backward_message` and drops the guard. -/
  | wrap
  /-- Its write to the previous hop returns. -/
  | deliver
  /-- The exit's loop reads a cell. -/
  | exitRead
  /-- Anything else at the exit. -/
  | exit (e : ExitEvent)

namespace Link

variable (P : Primitives) (A : AddrSyntax) (c : Capacity) (s : Link)

/-- The cells on their way to the middle relay. -/
def backwardCells : List Message := s.exit.wire.drop s.taken

def forwardFull : Bool := decide (c.forward ≤ s.forward.length)

def backwardFull : Bool := decide (c.backward ≤ s.backwardCells.length)

/-- The exit's task `i` has a cell to write, and there is no room for it. -/
def lacksRoom (i : Nat) : Bool :=
  match s.exit.tasks[i]? with
  | some phase => phase.toWrite && s.backwardFull c
  | none => false

/-- An established circuit whose `streamIds` are open, with nothing on its way. -/
def start (middle : HopHandler) (circuitId : CircuitId) (crypto : ExitCryptoState)
    (streamIds : List StreamId) : Link where
  middle := middle
  loop := .reading
  reader := .reading
  registry := .free
  forward := []
  exit := .start circuitId crypto streamIds
  taken := 0

/-- The part of the exit's steps that the buffers decide: the loop reads what is in the forward
buffer (`exitRead`), and a write waits for room in the backward one. -/
def exitStep (s : Link) : ExitEvent → Link
  | .read _ | .breaks => s
  | .write i => if s.lacksRoom c i then s else { s with exit := s.exit.step P (.write i) }
  | e => { s with exit := s.exit.step P e }

def step (s : Link) : LinkEvent → Link
  | .upstream msg =>
    match s.loop with
    | .reading => if msg.command.relayed then { s with loop := .starting msg } else s
    | _ => s
  | .lock .loop =>
    match s.loop with
    | .starting msg => { s with loop := .waiting msg, registry := s.registry.ask .loop }
    | _ => s
  | .lock .reader =>
    match s.reader with
    | .starting msg => { s with reader := .waiting msg, registry := s.registry.ask .reader }
    | _ => s
  | .relay =>
    match s.loop with
    | .waiting msg =>
      if s.registry.holder = some .loop then
        match s.middle.startRelay P msg with
        | none => { s with loop := .forwarded false }
        | some (middle, none) => { s with middle, loop := .forwarded true }
        | some (middle, some cell) => { s with middle, loop := .forwarding cell }
      else s
    | _ => s
  | .forward =>
    match s.loop with
    | .forwarding cell =>
      if cell.data.length > MAX_PAYLOAD_SIZE then { s with loop := .forwarded false }
      else if s.forwardFull c then s
      else { s with forward := s.forward ++ [cell], loop := .forwarded true }
    | _ => s
  | .unlock =>
    match s.loop with
    | .forwarded ok =>
      { s with loop := if ok then .reading else .ended, registry := s.registry.release }
    | _ => s
  | .backward =>
    match s.reader, s.backwardCells with
    | .reading, msg :: _ => { s with reader := .starting msg, taken := s.taken + 1 }
    | _, _ => s
  | .wrap =>
    match s.reader with
    | .waiting msg =>
      if s.registry.holder = some .reader then
        let o := s.middle.handleBackwardRelay P (middleRole A) msg
        { s with
          middle := o.handler
          registry := s.registry.release
          reader :=
            match o.result with
            | .ok (some response) => .responding response
            | .ok none => .reading
            | .error _ => .ended }
      else s
    | _ => s
  | .deliver =>
    match s.reader with
    | .responding response =>
      { s with reader := if response.data.length ≤ MAX_PAYLOAD_SIZE then .reading else .ended }
    | _ => s
  | .exitRead =>
    match s.forward, s.exit.tasks[(0 : Nat)]? with
    | msg :: rest, some .reading =>
      { s with forward := rest, exit := s.exit.step P (.read msg) }
    | _, _ => s
  | .exit e => s.exitStep P c e

/-! ## Blocked tasks -/

/-- The loop waits for the registry, or for room in the forward buffer. -/
def loopBlocked : Bool :=
  match s.loop with
  | .waiting _ => decide (s.registry.holder ≠ some .loop)
  | phase => phase.atWrite && s.forwardFull c

/-- The reader waits for a cell, or for the registry. -/
def readerBlocked : Bool :=
  match s.reader with
  | .reading => s.backwardCells.isEmpty
  | .waiting _ => decide (s.registry.holder ≠ some .reader)
  | _ => false

/-- A task of the exit waits for a cell, for a mutex, or for room in the backward buffer. -/
def exitBlocked (i : Nat) : Bool :=
  match s.exit.tasks[i]? with
  | some .reading => s.forward.isEmpty
  | some (.waiting _) => decide (s.exit.sharedState.holder ≠ some i)
  | some (.queued _ _) | some (.responding _) =>
    decide (s.exit.writer.holder ≠ some i) || s.lacksRoom c i
  | _ => false

/-- The exit's task is over. -/
def exitEnded (i : Nat) : Bool :=
  match s.exit.tasks[i]? with
  | some .ended => true
  | _ => false

/-- **All tasks are blocked**: both of the middle relay, the exit's loop, and its stream tasks;
at least one stream task is, and those that are not are over. -/
structure Deadlocked : Prop where
  loop : s.loopBlocked c = true
  reader : s.readerBlocked = true
  exitLoop : s.exitBlocked c 0 = true
  stream : ∃ i < s.exit.tasks.length, i ≠ 0 ∧ s.exitBlocked c i = true
  streams : ∀ i < s.exit.tasks.length, s.exitBlocked c i = true ∨ s.exitEnded i = true

/-! ## What holds in every state -/

/-- The task is in line for the registry or holds it. -/
def asks : MiddleTask → Prop
  | .loop => s.loop.asks = true
  | .reader => s.reader.asks = true

/-- The task holds the registry; the reader does so only within one step. -/
def holds : MiddleTask → Prop
  | .loop => s.loop.holds = true
  | .reader => False

structure Sound : Prop where
  exit : s.exit.Locked
  registry : s.registry.Tracks s.asks s.holds
  forward : s.forward.length ≤ c.forward
  taken : s.taken ≤ s.exit.wire.length
  backward : s.exit.wire.length - s.taken ≤ c.backward

variable {P A c s} {s' : Link}

theorem length_backwardCells : s.backwardCells.length = s.exit.wire.length - s.taken :=
  List.length_drop

/-- The registry's mutex, task by task. -/
theorem tracks_of (hnodup : s.registry.queue.Nodup)
    (hloop : MiddleTask.loop ∈ s.registry.queue ↔ s.loop.asks = true)
    (hreader : MiddleTask.reader ∈ s.registry.queue ↔ s.reader.asks = true)
    (hholds : s.loop.holds = true → s.registry.holder = some .loop) :
    s.registry.Tracks s.asks s.holds where
  nodup := hnodup
  mem t := by
    cases t with
    | loop => exact hloop
    | reader => exact hreader
  holds t ht := by
    cases t with
    | loop => exact hholds ht
    | reader => exact ht.elim

/-- The exit's step, as the buffers allow it. -/
theorem exitStep_cases (s : Link) (e : ExitEvent) :
    s.exitStep P c e = s ∨
      (s.exitStep P c e = { s with exit := s.exit.step P e } ∧ (∀ msg, e ≠ .read msg) ∧
        ∀ i, e = .write i → s.lacksRoom c i = false) := by
  cases e with
  | read msg => exact .inl rfl
  | breaks => exact .inl rfl
  | write i =>
    unfold exitStep
    dsimp only
    split
    · exact .inl rfl
    · next hroom =>
      refine .inr ⟨rfl, nofun, fun j hj => ?_⟩
      cases hj
      exact Bool.eq_false_iff.mpr hroom
  | _ => exact .inr ⟨rfl, nofun, nofun⟩

/-- A step of the exit keeps within the backward buffer. -/
theorem Sound.exitStep (h : s.Sound c) (e : ExitEvent) : (s.exitStep P c e).Sound c := by
  rcases exitStep_cases (P := P) (c := c) s e with hsame | ⟨hstep, -, hroom⟩
  · rw [hsame]
    exact h
  · rw [hstep]
    obtain ⟨htaken, hbackward⟩ := And.intro h.taken h.backward
    rcases (ExitTasks.step_move (P := P) s.exit e).wire with
      hwire | ⟨i, phase, cell, rfl, hphase, hfits, hwire⟩
    · refine ⟨h.exit.step P e, h.registry, h.forward, ?_, ?_⟩
      · exact hwire ▸ h.taken
      · exact hwire ▸ h.backward
    · have hnotFull : s.backwardFull c = false := by
        have hlacks := hroom i rfl
        rw [lacksRoom, hphase] at hlacks
        exact (Bool.and_eq_false_iff.mp hlacks).resolve_left (by rw [hfits]; exact Bool.noConfusion)
      have hlen := of_decide_eq_false hnotFull
      rw [length_backwardCells] at hlen
      have hwire' : (s.exit.step P (.write i)).wire.length = s.exit.wire.length + 1 := by
        rw [hwire, List.length_append]
        rfl
      refine ⟨h.exit.step P (.write i), h.registry, h.forward, ?_, ?_⟩
      · show s.taken ≤ (s.exit.step P (.write i)).wire.length
        omega
      · show (s.exit.step P (.write i)).wire.length - s.taken ≤ c.backward
        omega

/-- A step of the middle relay. -/
theorem Sound.middle (h : s.Sound c) {middle : HopHandler} {loop : LoopPhase}
    {reader : ReaderPhase} {registry : Mutex MiddleTask}
    (htracks : registry.Tracks ({ s with loop, reader } : Link).asks
      ({ s with loop, reader } : Link).holds) :
    ({ s with middle, loop, reader, registry } : Link).Sound c :=
  ⟨h.exit, htracks, h.forward, h.taken, h.backward⟩

/-- The loop goes on and keeps its place in the line. -/
theorem Sound.loopGoes (h : s.Sound c) {middle : HopHandler} {loop : LoopPhase}
    (hasks : loop.asks = s.loop.asks)
    (hholds : loop.holds = true → s.registry.holder = some .loop) :
    ({ s with middle, loop } : Link).Sound c := by
  refine h.middle (tracks_of (s := { s with loop }) h.registry.nodup ?_ (h.registry.mem .reader)
    hholds)
  show _ ↔ loop.asks = true
  rw [hasks]
  exact h.registry.mem .loop

/-- The reader goes on and keeps its place in the line. -/
theorem Sound.readerGoes (h : s.Sound c) {reader : ReaderPhase}
    (hasks : reader.asks = s.reader.asks) : ({ s with reader } : Link).Sound c := by
  refine h.middle (tracks_of (s := { s with reader }) h.registry.nodup (h.registry.mem .loop) ?_
    (h.registry.holds .loop))
  show _ ↔ reader.asks = true
  rw [hasks]
  exact h.registry.mem .reader

/-- The loop gets in line for the registry. -/
theorem Sound.loopAsks (h : s.Sound c) {loop : LoopPhase} (haway : s.loop.asks = false)
    (hasks : loop.asks = true) (hholds : loop.holds = false) :
    ({ s with loop, registry := s.registry.ask .loop } : Link).Sound c := by
  have hasked : ¬s.asks .loop := Bool.eq_false_iff.mp haway
  refine h.middle (h.registry.ask hasked (fun t => ?_) fun t ht => ?_)
  · cases t with
    | loop => exact iff_of_true hasks (.inr rfl)
    | reader => exact (or_iff_left nofun).symm
  · cases t with
    | loop => exact absurd ht (Bool.eq_false_iff.mp hholds)
    | reader => exact ht

/-- The reader gets in line for the registry. -/
theorem Sound.readerAsks (h : s.Sound c) {reader : ReaderPhase} (haway : s.reader.asks = false)
    (hasks : reader.asks = true) :
    ({ s with reader, registry := s.registry.ask .reader } : Link).Sound c := by
  have hasked : ¬s.asks .reader := Bool.eq_false_iff.mp haway
  refine h.middle (h.registry.ask hasked (fun t => ?_) fun t ht => ?_)
  · cases t with
    | loop => exact (or_iff_left nofun).symm
    | reader => exact iff_of_true hasks (.inr rfl)
  · exact ht

/-- The loop drops the registry's guard. -/
theorem Sound.loopLeaves (h : s.Sound c) {loop : LoopPhase} (hheld : s.loop.holds = true)
    (hasks : loop.asks = false) (hholds : loop.holds = false) :
    ({ s with loop, registry := s.registry.release } : Link).Sound c := by
  have hholder : s.registry.holder = some .loop := h.registry.holds .loop hheld
  refine h.middle (h.registry.release hholder (fun t => ?_) fun t ht => ?_)
  · cases t with
    | loop => exact iff_of_false (Bool.eq_false_iff.mp hasks) fun hboth => hboth.2 rfl
    | reader => exact (and_iff_left nofun).symm
  · cases t with
    | loop => exact absurd ht (Bool.eq_false_iff.mp hholds)
    | reader => exact ht.elim

/-- The reader, first in line, is done with the registry. -/
theorem Sound.readerLeaves (h : s.Sound c) {middle : HopHandler} {reader : ReaderPhase}
    (hholder : s.registry.holder = some .reader) (hasks : reader.asks = false) :
    ({ s with middle, reader, registry := s.registry.release } : Link).Sound c := by
  refine h.middle (h.registry.release hholder (fun t => ?_) fun t ht => ?_)
  · cases t with
    | loop => exact (and_iff_left nofun).symm
    | reader => exact iff_of_false (Bool.eq_false_iff.mp hasks) fun hboth => hboth.2 rfl
  · cases t with
    | loop => exact ⟨ht, nofun⟩
    | reader => exact ht.elim

/-- The loop's write to its next hop returns: the cell is there if there was room for it. -/
theorem Sound.forward_step (h : s.Sound c) : (s.step P A c .forward).Sound c := by
  dsimp only [Link.step]
  split
  · next cell hloop =>
    have hholder : s.registry.holder = some .loop :=
      h.registry.holds .loop (show s.loop.holds = true by rw [hloop]; rfl)
    have hsent : ∀ ok, ({ s with loop := .forwarded ok } : Link).Sound c := fun ok =>
      h.loopGoes (by rw [hloop]; rfl) fun _ => hholder
    split
    · exact hsent false
    · split
      · exact h
      · next hfull =>
        have hroom : s.forward.length < c.forward := by
          simpa [forwardFull] using hfull
        obtain ⟨hexit, hregistry, -, htaken, hbackward⟩ := hsent true
        refine ⟨hexit, hregistry, ?_, htaken, hbackward⟩
        rw [List.length_append]
        exact hroom
  · exact h

/-- The reader reads a cell off the exit's wire. -/
theorem Sound.backward_step (h : s.Sound c) : (s.step P A c .backward).Sound c := by
  dsimp only [Link.step]
  split
  · next msg rest hreader hcells =>
    have hlen : s.exit.wire.length - s.taken = rest.length + 1 := by
      rw [← length_backwardCells, hcells]
      rfl
    obtain ⟨hexit, hregistry, hforward, htaken, hbackward⟩ :=
      @Sound.readerGoes c s h (.starting msg) (by rw [hreader]; rfl)
    refine ⟨hexit, hregistry, hforward, ?_, ?_⟩
    · show s.taken + 1 ≤ s.exit.wire.length
      omega
    · show s.exit.wire.length - (s.taken + 1) ≤ c.backward
      have hle := h.backward
      omega
  · exact h

/-- The exit's loop reads a cell; that writes none. -/
theorem Sound.exitRead_step (h : s.Sound c) : (s.step P A c .exitRead).Sound c := by
  dsimp only [Link.step]
  split
  · next msg rest hforward hphase =>
    have hwire : (s.exit.step P (.read msg)).wire = s.exit.wire := by
      rcases (ExitTasks.step_move (P := P) s.exit (.read msg)).wire with
        hwire | ⟨i, phase, cell, he, -⟩
      · exact hwire
      · cases he
    refine ⟨h.exit.step P (.read msg), h.registry, ?_, hwire ▸ h.taken, hwire ▸ h.backward⟩
    have hle := h.forward
    rw [hforward] at hle
    exact Nat.le_of_succ_le hle
  · exact h

/-- **Every step keeps what holds of a link.** -/
theorem Sound.step (h : s.Sound c) (e : LinkEvent) : (s.step P A c e).Sound c := by
  cases e with
  | upstream msg =>
    dsimp only [Link.step]
    split
    · next hloop =>
      split
      · exact h.loopGoes (by rw [hloop]; rfl) nofun
      · exact h
    · exact h
  | lock t =>
    cases t with
    | loop =>
      dsimp only [Link.step]
      split
      · next msg hloop => exact h.loopAsks (by rw [hloop]; rfl) rfl rfl
      · exact h
    | reader =>
      dsimp only [Link.step]
      split
      · next msg hreader => exact h.readerAsks (by rw [hreader]; rfl) rfl
      · exact h
  | relay =>
    dsimp only [Link.step]
    split
    · next msg hloop =>
      split
      · next hholder =>
        have hasks : ∀ loop : LoopPhase, loop.asks = true → loop.asks = s.loop.asks := by
          intro loop hasks
          rw [hasks, hloop]
          rfl
        split
        · exact h.loopGoes (hasks _ rfl) fun _ => hholder
        · exact h.loopGoes (hasks _ rfl) fun _ => hholder
        · exact h.loopGoes (hasks _ rfl) fun _ => hholder
      · exact h
    · exact h
  | forward => exact h.forward_step
  | unlock =>
    dsimp only [Link.step]
    split
    · next ok hloop =>
      have hheld : s.loop.holds = true := by
        rw [hloop]
        rfl
      cases ok with
      | true => exact h.loopLeaves hheld rfl rfl
      | false => exact h.loopLeaves hheld rfl rfl
    · exact h
  | backward => exact h.backward_step
  | wrap =>
    dsimp only [Link.step]
    split
    · split
      · next hholder =>
        refine h.readerLeaves hholder ?_
        -- wherever the result takes it, the reader is not in line any more
        split
        all_goals rfl
      · exact h
    · exact h
  | deliver =>
    dsimp only [Link.step]
    split
    · next response hreader =>
      split
      · exact h.readerGoes (by rw [hreader]; rfl)
      · exact h.readerGoes (by rw [hreader]; rfl)
    · exact h
  | exitRead => exact h.exitRead_step
  | exit e => exact h.exitStep e

theorem sound_start (middle : HopHandler) (circuitId : CircuitId) (crypto : ExitCryptoState)
    (streamIds : List StreamId) : (start middle circuitId crypto streamIds).Sound c where
  exit := ExitTasks.locked_start circuitId crypto streamIds
  registry := .free (fun t => by cases t <;> exact Bool.false_ne_true)
    fun t => by cases t <;> exact nofun
  forward := Nat.zero_le _
  taken := Nat.le_refl _
  backward := Nat.zero_le _

end Link

end MiniTor
