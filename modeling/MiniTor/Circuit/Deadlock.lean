import Mathlib
import MiniTor.Circuit.Link
import MiniTor.Common.Addr
import MiniTor.Theory.Sha256

/-!
# Deadlock on a link

A circular wait runs through two mutexes and two full buffers: the middle relay's loop
holds the registry and waits for room towards the exit, the exit's loop waits for
`shared_state`, which a stream task holds while it waits for room towards the middle
relay, whose reader has a cell in hand and waits for the registry.

- `Link.Shut` is that circle, without the waits that are still to begin;
  `Deadlocked.shut`: every deadlock has it.
- `Link.shuts` are the steps that close it; `not_shut_step`: no other step does.
- `Shut.step`: once closed it stays closed.
- `never_deadlocked`: so a run none of whose steps close it never deadlocks.
- `upload_and_download_deadlock`: with one cell of room each way, a download that fills
  the backward buffer and an upload that fills the forward one.
-/

namespace MiniTor

open Theory

namespace ExitTasks

variable {P : Primitives} {s s' : ExitTasks} {e : ExitEvent} {i j : Nat}

theorem toWrite_of_unwritten {phase phase' : Phase} (h : phase'.unwritten? = phase.unwritten?) :
    phase'.toWrite = phase.toWrite := by
  unfold Phase.toWrite
  rw [h]

theorem toWrite_of_none {phase : Phase} (h : phase.unwritten? = none) : phase.toWrite = false := by
  unfold Phase.toWrite
  rw [h]
  rfl

theorem busy_of_written {phase : Phase} (hasks : phase.asksWriter = true)
    (hnone : phase.unwritten? = none) : phase.busy = false := by
  cases phase <;> first | rfl | (cases hasks; done) | cases hnone

/-- A new cell to write is one that a task has just sealed. -/
theorem Move.toWrite (hmove : s.Move P e s') (h : s'.At Phase.toWrite j) :
    s.At Phase.toWrite j ∨ ∃ i connect job, e = .enter i connect ∧
      s.tasks[i]? = some (.waiting job) ∧ ∀ msg, job ≠ .openCell msg := by
  cases hmove with
  | quiet => exact .inl h
  | broke => exact .inl h
  | reads hphase haway' hrole hfits =>
    have hnone := toWrite_of_none (Phase.away_locks haway').2.2.2.2
    exact .inl ((at_set_gone hphase rfl hnone j).mp h).1
  | selects he hphase haway' hrole hfits =>
    have hnone := toWrite_of_none (Phase.away_locks haway').2.2.2.2
    exact .inl ((at_set_gone hphase rfl hnone j).mp h).1
  | @asksState i job hphase =>
    have hnone : (Phase.waiting job).toWrite = false := rfl
    exact .inl ((at_set_gone hphase rfl hnone j).mp h).1
  | asksWriter hphase hasks hasks' hholds hstate hheld hunwritten hbusy hcell hresponse hrole hfits =>
    exact .inl ((at_set_same hphase rfl (toWrite_of_unwritten hunwritten) j).mp h)
  | opens hphase hholder haway' hrole hfits =>
    have hnone := toWrite_of_none (Phase.away_locks haway').2.2.2.2
    exact .inl ((at_set_gone hphase rfl hnone j).mp h).1
  | seals hphase hholder => exact .inr ⟨_, _, _, rfl, hphase, nofun⟩
  | answers hphase hholder => exact .inr ⟨_, _, _, rfl, hphase, nofun⟩
  | @writes i phase phase' cell hphase hholder hcell hnone hasks hasks' hstate hheld hrole hfits =>
    have hset := tasks_put s cell i phase'
    exact .inl ((at_set_gone hphase hset (toWrite_of_none hnone) j).mp h).1
  | dropsWriter hphase hholds hasks' hstate hheld hnone hbusy hrole hfits =>
    exact .inl ((at_set_gone hphase rfl (toWrite_of_none hnone) j).mp h).1
  | @dropsState i next phase' streams spawned hphase haway' hbusy hrole hfits =>
    have hnone := toWrite_of_none (Phase.away_locks haway').2.2.2.2
    have hset := (@at_append _ Phase.toWrite (s.goTo i phase') spawned rfl (fun _ => rfl) j).mp h
    exact .inl ((at_set_gone hphase rfl hnone j).mp hset).1

/-- Only a read gives the loop something to do. -/
theorem Move.busy (hmove : s.Move P e s') (hlocked : s.Locked) (hread : ∀ msg, e ≠ .read msg)
    (h : s'.At Phase.busy 0) : s.At Phase.busy 0 := by
  have hkept : ∀ {i : Nat} {phase phase' : Phase}, s.tasks[i]? = some phase →
      s'.tasks = s.tasks.set i phase' → (phase'.busy = true → i = 0 → phase.busy = true) →
      s.At Phase.busy 0 := by
    intro i phase phase' hphase hset hbusy
    by_cases hi : 0 = i
    · subst hi
      exact (at_iff hphase).mpr (hbusy ((at_set hphase hset).mp h) rfl)
    · exact (at_set_ne hset hi).mp h
  cases hmove with
  | quiet => exact h
  | broke => exact h
  | reads hphase haway' hrole hfits => exact absurd rfl (hread _)
  | @selects e i streamId phase' he hphase haway' hrole hfits =>
    refine hkept hphase rfl fun _ hi => ?_
    subst hi
    have hloop := hlocked.roles 0 _ hphase
    cases hloop
  | asksState hphase => exact hkept hphase rfl fun _ _ => rfl
  | asksWriter hphase hasks hasks' hholds hstate hheld hunwritten hbusy hcell hresponse hrole hfits =>
    exact hkept hphase rfl fun hphase' _ => hbusy ▸ hphase'
  | opens hphase hholder haway' hrole hfits => exact hkept hphase rfl fun _ _ => rfl
  | seals hphase hholder => exact hkept hphase rfl fun _ _ => rfl
  | answers hphase hholder => exact hkept hphase rfl fun _ _ => rfl
  | @writes i phase phase' cell hphase hholder hcell hnone hasks hasks' hstate hheld hrole hfits =>
    have hset := tasks_put s cell i phase'
    refine hkept hphase hset fun _ _ => ?_
    cases phase <;> first | rfl | cases hcell
  | dropsWriter hphase hholds hasks' hstate hheld hnone hbusy hrole hfits =>
    refine hkept hphase rfl fun hphase' _ => ?_
    rw [hbusy] at hphase'
    cases hphase'
  | @dropsState i next phase' streams spawned hphase haway' hbusy hrole hfits =>
    have hset := (@at_append _ Phase.busy (s.goTo i phase') spawned rfl (fun _ => rfl) 0).mp h
    by_cases hi : 0 = i
    · subst hi
      have hnext := hbusy ((at_set hphase rfl).mp hset)
      have hloop : next.of true = true := hlocked.roles 0 _ hphase
      rw [hnext] at hloop
      cases hloop
    · exact (at_set_ne rfl hi).mp hset

/-- What is left to write after a write: a stream task has written, and the loop has a
response. -/
theorem Move.written (hmove : s.Move P (.write i) s') (hlocked : s.Locked) :
    s' = s ∨ (s'.At Phase.busy 0 → i ≠ 0) ∧
      ∀ j, s'.At Phase.toWrite j → i ≠ 0 → s.At (fun phase => phase.response?.isSome) 0 := by
  cases hmove with
  | quiet => exact .inl rfl
  | selects he => rcases he with he | ⟨input, he⟩ <;> cases he
  | @writes _ phase phase' cell hphase hholder hcell hnone hasks hasks' hstate hheld hrole hfits =>
    have hset := tasks_put s cell i phase'
    refine .inr ⟨?_, fun j hj hi => ?_⟩
    · rintro hbusy rfl
      have hidle : phase'.busy = true := (at_set hphase hset).mp hbusy
      rw [busy_of_written hasks' hnone] at hidle
      cases hidle
    · obtain ⟨hj, hne⟩ := (at_set_gone hphase hset (toWrite_of_none hnone) j).mp hj
      obtain ⟨found, hfound, hwrite⟩ := hj
      -- the writer of a stream's cell holds `shared_state`, so nobody else does
      have hholds : s.At Phase.holdsState i := by
        refine ⟨phase, hphase, ?_⟩
        cases phase with
        | queued cell next => rfl
        | responding cell => exact absurd (hlocked.eq_zero hphase rfl) hi
        | sealed cell next => cases hasks
        | response cell => cases hasks
        | _ => cases hcell
      have halone : found.holdsState = false := by
        refine Bool.eq_false_iff.mpr fun hboth => hne ?_
        exact hlocked.state.unique ⟨found, hfound, hboth⟩ hholds
      have hresponse : found.response?.isSome = true := by
        cases found <;> first | rfl | (cases halone; done) | cases hwrite
      have hzero : j = 0 := by
        refine hlocked.eq_zero hfound ?_
        cases found <;> first | rfl | cases hresponse
      subst hzero
      exact ⟨found, hfound, hresponse⟩

/-- A cell stays to be written until its task writes. -/
theorem Move.keepsToWrite (hmove : s.Move P e s') (h : s.At Phase.toWrite j)
    (hwrite : e ≠ .write j) : s'.At Phase.toWrite j := by
  have hkept : ∀ {i : Nat} {phase phase' : Phase}, s.tasks[i]? = some phase →
      s'.tasks = s.tasks.set i phase' → (j = i → phase'.toWrite = phase.toWrite) →
      s'.At Phase.toWrite j := by
    intro i phase phase' hphase hset hsame
    by_cases hj : j = i
    · exact (at_set_same hphase hset (hsame hj) j).mpr h
    · exact (at_set_ne hset hj).mpr h
  have hnone : ∀ {i : Nat} {phase : Phase}, s.tasks[i]? = some phase →
      phase.unwritten? = none → j ≠ i := by
    rintro i phase hphase hunwritten rfl
    have hwrites := (at_iff hphase).mp h
    rw [toWrite_of_none hunwritten] at hwrites
    cases hwrites
  cases hmove with
  | quiet => exact h
  | broke => exact h
  | reads hphase => exact hkept hphase rfl fun hj => absurd hj (hnone hphase rfl)
  | selects he hphase => exact hkept hphase rfl fun hj => absurd hj (hnone hphase rfl)
  | asksState hphase => exact hkept hphase rfl fun hj => absurd hj (hnone hphase rfl)
  | asksWriter hphase hasks hasks' hholds hstate hheld hunwritten =>
    exact hkept hphase rfl fun _ => toWrite_of_unwritten hunwritten
  | opens hphase => exact hkept hphase rfl fun hj => absurd hj (hnone hphase rfl)
  | seals hphase => exact hkept hphase rfl fun hj => absurd hj (hnone hphase rfl)
  | answers hphase => exact hkept hphase rfl fun hj => absurd hj (hnone hphase rfl)
  | @writes i phase phase' cell hphase =>
    have hset := tasks_put s cell i phase'
    exact hkept hphase hset fun hj => absurd (by rw [hj]) hwrite
  | @dropsWriter i phase phase' hphase hholds =>
    refine hkept hphase rfl fun hj => absurd hj (hnone hphase ?_)
    cases phase <;> first | rfl | cases hholds
  | @dropsState i next phase' streams spawned hphase haway' =>
    refine (@at_append _ Phase.toWrite (s.goTo i phase') spawned rfl (fun _ => rfl) j).mpr ?_
    exact (at_set_ne rfl (hnone hphase rfl)).mpr h

/-- While some task has a cell to write, the loop stays busy until it writes. -/
theorem Move.keepsBusy (hmove : s.Move P e s') (hlocked : s.Locked) (h : s.At Phase.busy 0)
    (htoWrite : s.At Phase.toWrite j)
    (hwrite : ∀ phase cell, s.tasks[(0 : Nat)]? = some phase → phase.unwritten? = some cell →
      e ≠ .write 0) : s'.At Phase.busy 0 := by
  have hkept : ∀ {i : Nat} {phase phase' : Phase}, s.tasks[i]? = some phase →
      s'.tasks = s.tasks.set i phase' → (i = 0 → phase'.busy = true) → s'.At Phase.busy 0 := by
    intro i phase phase' hphase hset hbusy
    by_cases hi : 0 = i
    · subst hi
      exact (at_set hphase hset).mpr (hbusy rfl)
    · exact (at_set_ne hset hi).mpr h
  have hidle : ∀ {i : Nat} {phase : Phase}, s.tasks[i]? = some phase → phase.busy = false →
      i ≠ 0 := by
    rintro i phase hphase hbusy rfl
    have hbusy' := (at_iff hphase).mp h
    rw [hbusy] at hbusy'
    cases hbusy'
  cases hmove with
  | quiet => exact h
  | broke => exact h
  | reads hphase => exact absurd rfl (hidle hphase rfl)
  | selects he hphase => exact hkept hphase rfl fun hi => absurd hi (hidle hphase rfl)
  | asksState hphase => exact hkept hphase rfl fun _ => rfl
  | asksWriter hphase hasks hasks' hholds hstate hheld hunwritten hbusy =>
    refine hkept hphase rfl fun hi => ?_
    subst hi
    exact hbusy.trans ((at_iff hphase).mp h)
  | @opens i connect msg phase' streams hphase hholder =>
    refine hkept hphase rfl fun hi => ?_
    subst hi
    -- whoever has a cell to write is a stream task, and holds `shared_state`
    obtain ⟨found, hfound, hwrites⟩ := htoWrite
    have hj : j ≠ 0 := by
      rintro rfl
      cases hphase.symm.trans hfound
      cases hwrites
    have hholds : found.holdsState = true := by
      cases found with
      | sealed cell next => rfl
      | queued cell next => rfl
      | response cell => exact absurd (hlocked.eq_zero hfound rfl) hj
      | responding cell => exact absurd (hlocked.eq_zero hfound rfl) hj
      | _ => cases hwrites
    have hboth := hlocked.state.holds j ⟨found, hfound, hholds⟩
    exact absurd (Option.some.inj (hboth.symm.trans hholder)) hj
  | seals hphase => exact hkept hphase rfl fun _ => rfl
  | answers hphase => exact hkept hphase rfl fun _ => rfl
  | @writes i phase phase' cell hphase hholder hcell =>
    have hset := tasks_put s cell i phase'
    refine hkept hphase hset fun hi => ?_
    subst hi
    exact absurd rfl (hwrite phase cell hphase hcell)
  | @dropsWriter i phase phase' hphase hholds =>
    refine hkept hphase rfl fun hi => absurd hi (hidle hphase ?_)
    cases phase <;> first | rfl | cases hholds
  | @dropsState i next phase' streams spawned hphase =>
    refine (@at_append _ Phase.busy (s.goTo i phase') spawned rfl (fun _ => rfl) 0).mpr ?_
    exact (at_set_ne rfl (hidle hphase rfl).symm).mpr h

end ExitTasks

namespace Link

variable (c : Capacity) (s : Link)

/-- Some task of the exit has a cell to write. -/
def exitToWrite : Bool := s.exit.tasks.any Phase.toWrite

/-- The exit's loop has read a cell and neither served it nor written what comes of it. -/
def exitInHand : Bool := s.exit.tasks.head?.any Phase.busy

/-- The middle relay cannot go on before the exit's loop reads. -/
def middleStuck : Bool := s.loop.atWrite && s.forwardFull c && s.reader.inHand

/-- The circle is closed. -/
structure Shut : Prop where
  middle : s.middleStuck c = true
  backward : s.backwardFull c = true
  toWrite : s.exitToWrite = true
  inHand : s.exitInHand = true

/-- The exit's loop has sealed a response that is still to be written. -/
def exitResponds : Bool := s.exit.tasks.head?.any fun phase => phase.response?.isSome

/-- Task `i` of the exit is about to seal a cell. -/
def aboutToSeal (i : Nat) : Bool :=
  match s.exit.tasks[i]? with
  | some (.waiting (.send _ _)) | some (.waiting (.answer _)) => true
  | _ => false

/-- The step closes the circle: the loop starts on a cell while there is no room for it, and the
exit is waiting for room itself; or a task of the exit seals a cell while there is no room for
it, or takes up the last room while the exit's loop has a response to write, and the middle
relay is stuck. -/
def shuts : LinkEvent → Bool
  | .relay =>
    s.forwardFull c && s.reader.inHand && s.backwardFull c && s.exitToWrite && s.exitInHand
  | .exit (.enter i _) =>
    s.middleStuck c && s.backwardFull c && s.exitInHand && s.aboutToSeal i
  | .exit (.write i) =>
    s.middleStuck c && decide (c.backward ≤ s.backwardCells.length + 1) && decide (i ≠ 0) &&
      s.exitResponds
  | _ => false

variable {c s} {P : Primitives} {A : AddrSyntax}

theorem exitToWrite_iff : s.exitToWrite = true ↔ ∃ i, s.exit.At Phase.toWrite i := by
  unfold exitToWrite
  rw [List.any_eq_true]
  constructor
  · rintro ⟨phase, hmem, hphase⟩
    obtain ⟨i, hi⟩ := List.mem_iff_getElem?.mp hmem
    exact ⟨i, phase, hi, hphase⟩
  · rintro ⟨i, phase, hi, hphase⟩
    exact ⟨phase, List.mem_of_getElem? hi, hphase⟩

theorem exitInHand_iff : s.exitInHand = true ↔ s.exit.At Phase.busy 0 := by
  unfold exitInHand ExitTasks.At
  rw [List.head?_eq_getElem?, Option.any_eq_true]

/-! ## A deadlock is a closed circle -/

/-- Every task of the exit is blocked or over. -/
def ExitStuck (c : Capacity) (s : Link) : Prop :=
  ∀ i < s.exit.tasks.length, s.exitBlocked c i = true ∨ s.exitEnded i = true

section ExitStuck

variable {i : Nat} {phase : Phase}

theorem ExitStuck.at (h : s.ExitStuck c) (hphase : s.exit.tasks[i]? = some phase) :
    s.exitBlocked c i = true ∨ s.exitEnded i = true :=
  h i (List.getElem?_eq_some_iff.mp hphase).1

/-- With a task in line for the writer, the one that holds it lacks room. -/
theorem ExitStuck.writer (h : s.ExitStuck c) (hlocked : s.exit.Locked)
    (hi : s.exit.At Phase.asksWriter i) : ∃ j, s.lacksRoom c j = true := by
  obtain ⟨j, hmem, hholder⟩ := Mutex.exists_holder ((hlocked.writer.mem i).mpr hi)
  obtain ⟨phase, hphase, hasks⟩ := (hlocked.writer.mem j).mp hmem
  have hstuck := h.at hphase
  refine ⟨j, ?_⟩
  rw [exitBlocked, exitEnded, hphase] at hstuck
  cases phase with
  | queued cell next => simpa [hholder] using hstuck
  | responding cell => simpa [hholder] using hstuck
  | written next => simp at hstuck
  | responded sent => simp at hstuck
  | _ => cases hasks

/-- With a task in line for `shared_state`, the one that holds it has sealed a cell and waits
for the writer. -/
theorem ExitStuck.state (h : s.ExitStuck c) (hlocked : s.exit.Locked)
    (hi : s.exit.At Phase.asksState i) : ∃ j, s.lacksRoom c j = true := by
  obtain ⟨j, hmem, hholder⟩ := Mutex.exists_holder ((hlocked.state.mem i).mpr hi)
  obtain ⟨phase, hphase, hasks⟩ := (hlocked.state.mem j).mp hmem
  have hstuck := h.at hphase
  rw [exitBlocked, exitEnded, hphase] at hstuck
  cases phase with
  | waiting job => simp [hholder] at hstuck
  | queued cell next => exact h.writer hlocked ⟨_, hphase, rfl⟩
  | sealed cell next => simp at hstuck
  | written next => simp at hstuck
  | dropping next => simp at hstuck
  | _ => cases hasks

/-- A blocked stream task waits, in the end, for room. -/
theorem ExitStuck.stream (h : s.ExitStuck c) (hlocked : s.exit.Locked) (hi : i ≠ 0)
    (hblocked : s.exitBlocked c i = true) : ∃ j, s.lacksRoom c j = true := by
  rw [exitBlocked] at hblocked
  cases hphase : s.exit.tasks[i]? with
  | none =>
    rw [hphase] at hblocked
    cases hblocked
  | some phase =>
    rw [hphase] at hblocked
    cases phase with
    | reading => exact absurd (hlocked.eq_zero hphase rfl) hi
    | waiting job => exact h.state hlocked ⟨_, hphase, rfl⟩
    | queued cell next => exact h.writer hlocked ⟨_, hphase, rfl⟩
    | responding cell => exact h.writer hlocked ⟨_, hphase, rfl⟩
    | _ => cases hblocked

end ExitStuck

/-- **Every deadlock is a closed circle.** -/
theorem Deadlocked.shut (h : s.Deadlocked c) (hsound : s.Sound c) : s.Shut c := by
  obtain ⟨i, -, hi, hblocked⟩ := h.stream
  obtain ⟨j, hroom⟩ := ExitStuck.stream h.streams hsound.exit hi hblocked
  -- an exit's task lacks room, so the backward buffer is full
  have htoWrite : s.exit.At Phase.toWrite j ∧ s.backwardFull c = true := by
    rw [lacksRoom] at hroom
    split at hroom
    · next phase hphase =>
      obtain ⟨htoWrite, hfull⟩ := Bool.and_eq_true_iff.mp hroom
      exact ⟨⟨phase, hphase, htoWrite⟩, hfull⟩
    · cases hroom
  obtain ⟨htoWrite, hfull⟩ := htoWrite
  -- so the reader waits for the registry
  have hreader : ∃ msg, s.reader = .waiting msg ∧ s.registry.holder ≠ some .reader := by
    have hreader := h.reader
    rw [readerBlocked] at hreader
    split at hreader
    · have hnil : s.backwardCells = [] := List.isEmpty_iff.mp hreader
      have hlen := of_decide_eq_true hfull
      rw [hnil] at hlen
      exact absurd (c.backward_pos.trans_le hlen) (Nat.lt_irrefl 0)
    · next msg hphase => exact ⟨msg, hphase, of_decide_eq_true hreader⟩
    · cases hreader
  obtain ⟨msg, hphase, hnot⟩ := hreader
  -- so the loop holds it, and waits for room
  have hasks : s.asks .reader := by
    show s.reader.asks = true
    rw [hphase]
    rfl
  obtain ⟨t, hmem, hholder⟩ := Mutex.exists_holder ((hsound.registry.mem .reader).mpr hasks)
  have hloop : s.registry.holder = some .loop := by
    cases t with
    | loop => exact hholder
    | reader => exact absurd hholder hnot
  have hstuck : (s.loop.atWrite && s.forwardFull c) = true := by
    have hblocked := h.loop
    rw [loopBlocked] at hblocked
    split at hblocked
    · exact absurd hloop (of_decide_eq_true hblocked)
    · exact hblocked
  have hinHand : s.exit.At Phase.busy 0 := by
    have hblocked := h.exitLoop
    rw [exitBlocked] at hblocked
    split at hblocked
    · -- the forward buffer is full, so there is a cell for the loop to read
      have hnil : s.forward = [] := List.isEmpty_iff.mp hblocked
      have hlen := of_decide_eq_true (Bool.and_eq_true_iff.mp hstuck).2
      rw [hnil] at hlen
      exact absurd (c.forward_pos.trans_le hlen) (Nat.lt_irrefl 0)
    · next job hphase => exact ⟨_, hphase, rfl⟩
    · next cell next hphase => exact ⟨_, hphase, rfl⟩
    · next cell hphase => exact ⟨_, hphase, rfl⟩
    · cases hblocked
  refine ⟨?_, hfull, exitToWrite_iff.mpr ⟨j, htoWrite⟩, exitInHand_iff.mpr hinHand⟩
  rw [middleStuck, hstuck, hphase]
  rfl

/-! ## Closing the circle -/

theorem exitResponds_iff :
    s.exitResponds = true ↔ s.exit.At (fun phase => phase.response?.isSome) 0 := by
  unfold exitResponds ExitTasks.At
  rw [List.head?_eq_getElem?, Option.any_eq_true]

/-- A step of the exit closes the circle only as `shuts` says. -/
theorem shut_exitStep (hsound : s.Sound c) {e : ExitEvent} (hshut : ¬s.Shut c)
    (hquiet : s.shuts c (.exit e) = false) : ¬(s.exitStep P c e).Shut c := by
  intro hshut'
  rcases exitStep_cases (P := P) (c := c) s e with hsame | ⟨hstep, hread, hroom⟩
  · exact hshut (hsame ▸ hshut')
  · rw [hstep] at hshut'
    have hmove := ExitTasks.step_move (P := P) s.exit e
    have hinHand : s.exitInHand = true :=
      exitInHand_iff.mpr (hmove.busy hsound.exit hread (exitInHand_iff.mp hshut'.inHand))
    obtain ⟨j, hj⟩ := exitToWrite_iff.mp hshut'.toWrite
    rcases hmove.wire with hwire | ⟨i, phase, cell, rfl, hphase, hfits, hwire⟩
    · have hfull : s.backwardFull c = true := by
        have hfull' := hshut'.backward
        unfold backwardFull backwardCells at hfull' ⊢
        rw [← hwire]
        exact hfull'
      rcases hmove.toWrite hj with hold | ⟨i, connect, job, rfl, hphase, hseals⟩
      · exact hshut ⟨hshut'.middle, hfull, exitToWrite_iff.mpr ⟨j, hold⟩, hinHand⟩
      · have hseal : s.aboutToSeal i = true := by
          rw [aboutToSeal, hphase]
          cases job with
          | openCell msg => exact absurd rfl (hseals msg)
          | send p next => rfl
          | answer p => rfl
        have hmiddle : s.middleStuck c = true := hshut'.middle
        rw [shuts, hmiddle, hfull, hinHand, hseal] at hquiet
        cases hquiet
    · rcases hmove.written hsound.exit with hsame | ⟨hzero, hresponds⟩
      · -- a write that changes nothing writes nothing
        rw [hsame] at hwire
        simp at hwire
      · have hi : i ≠ 0 := hzero (exitInHand_iff.mp hshut'.inHand)
        have hmiddle : s.middleStuck c = true := hshut'.middle
        have hresponse : s.exitResponds = true := exitResponds_iff.mpr (hresponds j hj hi)
        have hlast : c.backward ≤ s.backwardCells.length + 1 := by
          have hfull' := of_decide_eq_true hshut'.backward
          rw [length_backwardCells] at hfull' ⊢
          have hwire' : (s.exit.step P (.write i)).wire.length = s.exit.wire.length + 1 := by
            rw [hwire, List.length_append]
            rfl
          have hlen : c.backward ≤ (s.exit.step P (.write i)).wire.length - s.taken := hfull'
          omega
        rw [shuts, hmiddle, hresponse, decide_eq_true hlast, decide_eq_true hi] at hquiet
        cases hquiet

/-- **A step closes the circle only as `shuts` says.** -/
theorem not_shut_step (hsound : s.Sound c) {e : LinkEvent} (hshut : ¬s.Shut c)
    (hquiet : s.shuts c e = false) : ¬(s.step P A c e).Shut c := by
  -- a loop that is not at its write does not keep the circle closed
  have hatWrite : ∀ t : Link, t.loop.atWrite = false → ¬t.Shut c := by
    intro t ht hshut'
    have hmiddle := hshut'.middle
    rw [middleStuck, ht] at hmiddle
    cases hmiddle
  have hnotInHand : ∀ t : Link, t.reader.inHand = false → ¬t.Shut c := by
    intro t ht hshut'
    have hmiddle := hshut'.middle
    rw [middleStuck, ht, Bool.and_false] at hmiddle
    cases hmiddle
  cases e with
  | upstream msg =>
    dsimp only [Link.step]
    split
    · split
      · exact hatWrite _ rfl
      · exact hshut
    · exact hshut
  | lock t =>
    cases t with
    | loop =>
      dsimp only [Link.step]
      split
      · exact hatWrite _ rfl
      · exact hshut
    | reader =>
      dsimp only [Link.step]
      split
      · next msg hreader =>
        rintro ⟨hmiddle, hbackward, htoWrite, hinHand⟩
        refine hshut ⟨?_, hbackward, htoWrite, hinHand⟩
        rw [middleStuck, hreader]
        exact hmiddle
      · exact hshut
  | relay =>
    dsimp only [Link.step]
    split
    · split
      · split
        · exact hatWrite _ rfl
        · exact hatWrite _ rfl
        · next middle cell hstart =>
          rintro ⟨hmiddle, hbackward, htoWrite, hinHand⟩
          obtain ⟨hboth, hreader⟩ := Bool.and_eq_true_iff.mp hmiddle
          have hfull : s.forwardFull c = true := (Bool.and_eq_true_iff.mp hboth).2
          have hreader' : s.reader.inHand = true := hreader
          have hbackward' : s.backwardFull c = true := hbackward
          have htoWrite' : s.exitToWrite = true := htoWrite
          have hinHand' : s.exitInHand = true := hinHand
          rw [shuts, hfull, hreader', hbackward', htoWrite', hinHand'] at hquiet
          cases hquiet
      · exact hshut
    · exact hshut
  | forward =>
    dsimp only [Link.step]
    split
    · split
      · exact hatWrite _ rfl
      · split
        · exact hshut
        · exact hatWrite _ rfl
    · exact hshut
  | unlock =>
    dsimp only [Link.step]
    split
    · next ok hloop =>
      cases ok with
      | true => exact hatWrite _ rfl
      | false => exact hatWrite _ rfl
    · exact hshut
  | backward =>
    dsimp only [Link.step]
    split
    · next msg rest hreader hcells =>
      -- the reader has made room
      rintro ⟨-, hbackward, -, -⟩
      have hlen : s.exit.wire.length - s.taken = rest.length + 1 := by
        rw [← length_backwardCells, hcells]
        rfl
      have hle := hsound.backward
      have hfull := of_decide_eq_true hbackward
      rw [length_backwardCells] at hfull
      have hfull' : c.backward ≤ s.exit.wire.length - (s.taken + 1) := hfull
      omega
    · exact hshut
  | wrap =>
    dsimp only [Link.step]
    split
    · split
      · refine hnotInHand _ ?_
        show ReaderPhase.inHand _ = false
        split
        all_goals rfl
      · exact hshut
    · exact hshut
  | deliver =>
    dsimp only [Link.step]
    split
    · split
      · exact hnotInHand _ rfl
      · exact hnotInHand _ rfl
    · exact hshut
  | exitRead =>
    dsimp only [Link.step]
    split
    · next msg rest hforward hphase =>
      -- the exit's loop has made room
      rintro ⟨hmiddle, -, -, -⟩
      have hfull : c.forward ≤ rest.length :=
        of_decide_eq_true (Bool.and_eq_true_iff.mp (Bool.and_eq_true_iff.mp hmiddle).1).2
      have hle := hsound.forward
      rw [hforward, List.length_cons] at hle
      omega
    · exact hshut
  | exit e => exact shut_exitStep hsound hshut hquiet

/-! ## Nothing opens it again -/

theorem ne_reading_of_inHand (h : s.exitInHand = true) :
    s.exit.tasks[(0 : Nat)]? ≠ some .reading := by
  intro hphase
  have hbusy := (ExitTasks.at_iff hphase).mp (exitInHand_iff.mp h)
  cases hbusy

/-- No step of the exit opens the circle. -/
theorem Shut.exitStep (h : s.Shut c) (hsound : s.Sound c)
    (hfits : ∀ phase cell, s.exit.tasks[(0 : Nat)]? = some phase → phase.unwritten? = some cell →
      cell.data.length ≤ MAX_PAYLOAD_SIZE) (e : ExitEvent) : (s.exitStep P c e).Shut c := by
  rcases exitStep_cases (P := P) (c := c) s e with hsame | ⟨hstep, -, hroom⟩
  · rw [hsame]
    exact h
  · rw [hstep]
    have hmove := ExitTasks.step_move (P := P) s.exit e
    obtain ⟨j, hj⟩ := exitToWrite_iff.mp h.toWrite
    have hbusy := exitInHand_iff.mp h.inHand
    -- whoever has a cell that fits has no room for it
    have hwaits : ∀ i, s.exit.At Phase.toWrite i → e ≠ .write i := by
      rintro i ⟨phase, hphase, hwrites⟩ he
      have hlacks := hroom i he
      rw [lacksRoom, hphase] at hlacks
      dsimp only at hlacks
      rw [hwrites, h.backward] at hlacks
      cases hlacks
    have hloop : ∀ phase cell, s.exit.tasks[(0 : Nat)]? = some phase →
        phase.unwritten? = some cell → e ≠ .write 0 := by
      intro phase cell hphase hunwritten
      refine hwaits 0 ⟨phase, hphase, ?_⟩
      rw [Phase.toWrite, hunwritten]
      exact decide_eq_true (hfits phase cell hphase hunwritten)
    refine ⟨h.middle, ?_, exitToWrite_iff.mpr ⟨j, hmove.keepsToWrite hj (hwaits j hj)⟩,
      exitInHand_iff.mpr ?_⟩
    · have hfull := of_decide_eq_true h.backward
      rw [length_backwardCells] at hfull
      refine decide_eq_true ?_
      rw [length_backwardCells]
      have hlen : s.exit.wire.length ≤ (s.exit.step P e).wire.length := by
        rcases hmove.wire with hwire | ⟨i, phase, cell, -, -, -, hwire⟩
        · rw [hwire]
        · rw [hwire, List.length_append]
          exact Nat.le_add_right _ _
      exact hfull.trans (Nat.sub_le_sub_right hlen s.taken)
    · exact hmove.keepsBusy hsound.exit hbusy hj hloop

/-- **Once the circle is closed no step opens it**, as long as the exit's loop has no response
that is too long to be written. -/
theorem Shut.step (h : s.Shut c) (hsound : s.Sound c)
    (hfits : ∀ phase cell, s.exit.tasks[(0 : Nat)]? = some phase → phase.unwritten? = some cell →
      cell.data.length ≤ MAX_PAYLOAD_SIZE) (e : LinkEvent) : (s.step P A c e).Shut c := by
  obtain ⟨hboth, hinHand⟩ := Bool.and_eq_true_iff.mp h.middle
  obtain ⟨hatWrite, hfull⟩ := Bool.and_eq_true_iff.mp hboth
  obtain ⟨cell, hloop, hcell⟩ : ∃ cell, s.loop = .forwarding cell ∧
      cell.data.length ≤ MAX_PAYLOAD_SIZE := by
    unfold LoopPhase.atWrite at hatWrite
    split at hatWrite
    · next cell hloop => exact ⟨cell, hloop, of_decide_eq_true hatWrite⟩
    · cases hatWrite
  have hholder : s.registry.holder = some .loop := by
    refine hsound.registry.holds .loop ?_
    show s.loop.holds = true
    rw [hloop]
    rfl
  cases e with
  | upstream msg =>
    dsimp only [Link.step]
    rw [hloop]
    exact h
  | lock t =>
    cases t with
    | loop =>
      dsimp only [Link.step]
      rw [hloop]
      exact h
    | reader =>
      dsimp only [Link.step]
      split
      · refine ⟨?_, h.backward, h.toWrite, h.inHand⟩
        exact Bool.and_eq_true_iff.mpr ⟨hboth, rfl⟩
      · exact h
  | relay =>
    dsimp only [Link.step]
    rw [hloop]
    exact h
  | forward =>
    dsimp only [Link.step]
    rw [hloop]
    dsimp only
    rw [if_neg (Nat.not_lt.mpr hcell), if_pos hfull]
    exact h
  | unlock =>
    dsimp only [Link.step]
    rw [hloop]
    exact h
  | backward =>
    dsimp only [Link.step]
    split
    · next msg rest hreader hcells =>
      rw [hreader] at hinHand
      cases hinHand
    · exact h
  | wrap =>
    dsimp only [Link.step]
    split
    · rw [if_neg (by rw [hholder]; exact nofun)]
      exact h
    · exact h
  | deliver =>
    dsimp only [Link.step]
    split
    · next response hreader =>
      rw [hreader] at hinHand
      cases hinHand
    · exact h
  | exitRead =>
    dsimp only [Link.step]
    split
    · next msg rest hforward hphase => exact absurd hphase (ne_reading_of_inHand h.inHand)
    · exact h
  | exit e => exact h.exitStep hsound hfits e

/-- The step does not close the circle. -/
def Keeps (c : Capacity) (s : Link) (e : LinkEvent) : Prop := s.shuts c e = false

instance (s : Link) (e : LinkEvent) : Decidable (s.Keeps c e) := inferInstanceAs (Decidable (_ = _))

/-- **Relaying in both directions never deadlocks** in a run none of whose steps closes the
circle. -/
theorem never_deadlocked {middle : HopHandler} {circuitId : CircuitId} {crypto : ExitCryptoState}
    {streamIds : List StreamId} {events : List LinkEvent}
    (hkeeps : EveryStep (step P A c) (Keeps c) (start middle circuitId crypto streamIds) events) :
    EveryState (step P A c) (fun s => ¬s.Deadlocked c) (start middle circuitId crypto streamIds)
      events := by
  have hstart : (start middle circuitId crypto streamIds).Sound c ∧
      ¬(start middle circuitId crypto streamIds).Shut c := by
    refine ⟨sound_start middle circuitId crypto streamIds, fun hshut => ?_⟩
    cases hshut.middle
  have hstep : ∀ (s : Link) (e : LinkEvent), s.Sound c ∧ ¬s.Shut c → s.Keeps c e →
      (s.step P A c e).Sound c ∧ ¬(s.step P A c e).Shut c := by
    rintro s e ⟨hsound, hshut⟩ hkeeps
    exact ⟨hsound.step e, not_shut_step hsound hshut hkeeps⟩
  have hgives : ∀ s : Link, s.Sound c ∧ ¬s.Shut c → ¬s.Deadlocked c := by
    rintro s ⟨hsound, hshut⟩ hdeadlocked
    exact hshut (hdeadlocked.shut hsound)
  exact hkeeps.everyState hstep hgives hstart

/-! ### One cell of room each way -/

/-- Room for one cell in each direction. -/
def oneCell : Capacity := ⟨1, 1, Nat.one_pos, Nat.one_pos⟩

/-- A middle relay extended to the exit, and an exit with stream 1 open. -/
def sampleLink : Link :=
  let key : SessionKey := ⟨List.Vector.replicate 16 5, List.Vector.replicate 16 6⟩
  let context := (CircuitContext.new 1).activate key
  start
    { context, keypair := KeyPair.fromSecretBytes .sample (sampleSecret 1),
      nextHop := some (NextHop.new (.v4 (List.Vector.replicate 4 127) 9001) "") }
    1 ⟨CipherPair.new key, RunningDigest.new, RunningDigest.new⟩ [1]

/-- The middle relay's loop takes a cell from its previous hop as far as the write. -/
def upload : List LinkEvent := [.upstream (Message.ofData 1 1 [1]), .lock .loop, .relay]

/-- The stream's task reads from its destination, seals a cell and asks for the writer. -/
def download : List LinkEvent :=
  [.exit (.destination 1 (.ok [7])), .exit (.lock 1), .exit (.enter 1 fun _ => .ok ()),
    .exit (.lock 1)]

/-- It writes the cell and lets go of both mutexes. -/
def downloaded : List LinkEvent := [.exit (.write 1), .exit (.unlock 1), .exit (.unlock 1)]

/-- A cell each way. -/
def oneEach : List LinkEvent :=
  upload ++ [.forward, .unlock, .exitRead] ++ download ++ downloaded ++
    [.backward, .lock .reader, .wrap, .deliver]

/-- Both buffers are full and both relays have one more cell to write when the middle relay's
reader reads a cell. Before it locks the registry the exit fills the buffer again, its loop reads
a cell, and the middle relay's loop fills the other one again. -/
def uploadAndDownload : List LinkEvent :=
  download ++ downloaded ++ download ++ upload ++ [.forward, .unlock] ++ upload ++
    [.backward] ++ downloaded ++ download ++ [.exitRead, .exit (.lock 0)] ++ [.forward, .unlock] ++
    upload ++ [.lock .reader]

theorem oneEach_never_deadlocked :
    EveryState (step .sample .ipv4 oneCell) (fun s => ¬s.Deadlocked oneCell) sampleLink oneEach := by
  have hkeeps : EveryStep (step .sample .ipv4 oneCell) (Keeps oneCell) sampleLink oneEach := by
    decide +kernel
  exact never_deadlocked hkeeps

theorem uploadAndDownload_end :
    let s := run (step .sample .ipv4 oneCell) sampleLink uploadAndDownload
    s.loopBlocked oneCell = true ∧ s.readerBlocked = true ∧ s.exitBlocked oneCell 0 = true ∧
      s.exitBlocked oneCell 1 = true ∧ s.exit.tasks.length = 2 := by
  decide +kernel

/-- **All four tasks are blocked** in the end. -/
theorem upload_and_download_deadlock :
    ¬EveryState (step .sample .ipv4 oneCell) (fun s => ¬s.Deadlocked oneCell) sampleLink
      uploadAndDownload := by
  intro h
  obtain ⟨hloop, hreader, hexitLoop, hstream, hlength⟩ := uploadAndDownload_end
  refine h.last ⟨hloop, hreader, hexitLoop, ⟨1, by rw [hlength]; decide, by decide, hstream⟩,
    fun i hi => .inl ?_⟩
  rw [hlength] at hi
  interval_cases i
  · exact hexitLoop
  · exact hstream

end Link

end MiniTor
