import MiniTor.Client.Steps
import MiniTor.Theory.Budget

/-!
# The rebuild budget of a slot

`replace_circuit` may fail `max_rebuild_attempts` times in a row for one slot before
the slot is given up. But it takes the failed circuit out of the pool before it
builds, and only what is in the pool is found by the monitor, so a slot whose first
attempt fails is not tried again.

- `ClientState.Budgeted`: a slot with failed attempts behind it is abandoned, exactly
  after so many failures in a row, or will be tried again.
- `search_finds`, `replacing_attempts`: what the monitor's next pass tries again.
- `Tallied`: the failure counts and the abandoned slots are what the attempts say.
- `every_state_budgeted_iff`: runs that are budgeted throughout.
- `failed_slot_forgotten`: one failed attempt out of two is enough.
-/

namespace MiniTor.Client

open Theory

namespace ClientState

variable {P : Primitives} {s : ClientState}

/-- The circuit filed under the id is Closed: the monitor's next pass replaces it. -/
def retries (s : ClientState) (circuitId : CircuitId) : Bool :=
  (s.store.pool.circuits.lookup circuitId).any fun a =>
    (s.store.heap[a]?).any fun live => live.circuit.state = .closed

/-- **The budget is used up before a slot is given up.** -/
structure Budgeted (s : ClientState) : Prop where
  /-- After a failed attempt a slot is tried again, unless it was abandoned. -/
  retried : ∀ circuitId, 0 < failuresInARow s.attempts circuitId →
    s.store.pool.isAbandoned circuitId = false → s.retries circuitId = true
  /-- A slot is abandoned once so many attempts in a row have failed. -/
  abandoned : ∀ circuitId, s.store.pool.isAbandoned circuitId = true ↔
    Exhausted s.store.pool.maxRebuildAttempts s.attempts circuitId

variable (P) in
/-- No attempt on a slot that is not abandoned fails, unless it is the last of its budget. -/
def WithinBudget (s : ClientState) (e : ClientEvent) : Prop :=
  match s.act P e with
  | .replaces failedId _ (.error _) =>
    s.store.pool.isAbandoned failedId = true ∨ s.store.pool.maxRebuildAttempts ≤
      (s.store.pool.rebuildFailureCounts.lookup failedId).getD 0 + 1
  | _ => True

/-! ## What the next pass of the monitor tries -/

/-- The ids of the closed ones. -/
def closedIds (s : ClientState) (todo : List (CircuitId × Arc)) : List CircuitId :=
  (todo.filter fun e => (s.store.heap[e.2]?).any fun live => live.circuit.state = .closed).map
    Prod.fst

/-- The search for Closed circuits, alone. -/
theorem run_collecting {todo : List (CircuitId × Arc)}
    (hfiled : ∀ e ∈ todo, (s.store.heap[e.2]?).isSome) (failedIds : List CircuitId) :
    run (step P) { s with holder := some (.collecting todo failedIds) }
        (List.replicate todo.length (.look 0)) =
      { s with holder := some (.collecting [] (failedIds ++ s.closedIds todo)) } := by
  induction todo generalizing failedIds with
  | nil =>
    show { s with holder := some (.collecting [] failedIds) } = _
    rw [closedIds, List.filter_nil, List.map_nil, List.append_nil]
  | cons next todo ih =>
    obtain ⟨circuitId, a⟩ := next
    obtain ⟨live, hlive⟩ := Option.isSome_iff_exists.mp (hfiled _ List.mem_cons_self)
    have hlook : step P { s with holder := some (.collecting ((circuitId, a) :: todo) failedIds) }
        (.look 0) = { s with holder := some (.collecting todo
          (failedIds ++ if live.circuit.state = .closed then [circuitId] else [])) } := by
      rw [step_look_held rfl, lookAt, List.getElem?_cons_zero]
      dsimp only
      rw [hlive]
      by_cases hclosed : live.circuit.state = .closed
      · rw [if_pos hclosed]
        dsimp only
        rw [if_pos hclosed]
        rfl
      · rw [if_neg hclosed, List.append_nil]
        dsimp only
        rw [if_neg hclosed]
        rfl
    rw [List.length_cons, List.replicate_succ, run_cons, hlook,
      ih (fun e he => hfiled e (List.mem_cons_of_mem _ he)), List.append_assoc]
    congr 3
    unfold closedIds
    rw [List.filter_cons]
    dsimp only
    rw [hlive, Option.any_some]
    by_cases hclosed : live.circuit.state = .closed
    · rw [if_pos hclosed, if_pos (by simpa using hclosed)]
      rfl
    · rw [if_neg hclosed, if_neg (by simpa using hclosed)]
      rfl

/-- **The search finds what is to be retried**, when nobody interferes. -/
theorem search_finds (hsound : s.store.Sound) (hholder : s.holder = none)
    (hmonitor : s.monitor = .removing []) (now : Nat) (built : Except Error OnionKeys) :
    ∃ failedIds,
      run (step P) s (.monitor now built ::
          (List.replicate s.store.pool.iterCircuits.length (.look 0) ++ [.release now built])) =
        { s with monitor := .replacing failedIds } ∧
      ∀ circuitId, circuitId ∈ failedIds ↔ s.retries circuitId = true := by
  refine ⟨s.closedIds s.store.pool.iterCircuits, ?_, fun circuitId => ?_⟩
  · have hstart : s.step P (.monitor now built) =
        { s with
          monitor := .searching
          holder := some (.collecting s.store.pool.iterCircuits []) } := by
      rw [step_monitor_free hholder, monitorTurn, hmonitor]
    -- a circuit of the pool is on the heap, so no look skips an entry
    have hlives : ∀ e ∈ s.store.pool.iterCircuits, (s.store.heap[e.2]?).isSome := by
      intro e he
      obtain ⟨entry, hentry, rfl⟩ := List.mem_map.mp he
      obtain ⟨live, hlive, -⟩ := hsound.filed entry.1 entry.2 (AList.lookup_eq_some.mpr hentry)
      exact Option.isSome_iff_exists.mpr ⟨live, hlive⟩
    rw [run_cons, hstart, run_append]
    have hlooks := @run_collecting P { s with monitor := .searching } _ hlives []
    rw [hlooks]
    show ({ s with holder := none, monitor := .replacing ([] ++ _) } : ClientState) = _
    rw [List.nil_append, ← hholder]
    rfl
  · unfold closedIds retries
    constructor
    · intro h
      obtain ⟨⟨id, a⟩, hmem, rfl⟩ := List.mem_map.mp h
      obtain ⟨hin, hclosed⟩ := List.mem_filter.mp hmem
      obtain ⟨⟨id', a'⟩, hentry, heq⟩ := List.mem_map.mp hin
      cases heq
      rw [AList.lookup_eq_some.mpr hentry]
      exact hclosed
    · intro h
      cases hlookup : s.store.pool.circuits.lookup circuitId with
      | none =>
        rw [hlookup] at h
        cases h
      | some a =>
        rw [hlookup] at h
        have hclosed : (s.store.heap[a]?).any (fun live => live.circuit.state = .closed) = true := h
        exact List.mem_map.mpr ⟨(circuitId, a), List.mem_filter.mpr
          ⟨List.mem_map.mpr ⟨⟨circuitId, a⟩, AList.lookup_eq_some.mp hlookup, rfl⟩, hclosed⟩, rfl⟩

/-- What was found is tried, if it is not abandoned. -/
theorem replacing_attempts {failedId : CircuitId} {failedIds : List CircuitId}
    (hholder : s.holder = none) (hmonitor : s.monitor = .replacing (failedId :: failedIds))
    (habandoned : s.store.pool.isAbandoned failedId = false) (now : Nat)
    (built : Except Error OnionKeys) :
    (run (step P) s [.monitor now built, .monitor now built]).attempts =
      s.attempts ++ [(failedId, built.toBool)] := by
  have hgoes : ¬s.store.pool.isAbandoned failedId = true := by
    rw [habandoned]
    exact Bool.false_ne_true
  have hcheck : s.step P (.monitor now built) =
      { s with monitor := .waiting failedId failedIds } := by
    rw [step_monitor_free hholder, monitorTurn, hmonitor]
    exact if_neg hgoes
  have hwaiting : ({ s with monitor := .waiting failedId failedIds } : ClientState).holder = none :=
    hholder
  rw [run_cons, hcheck, run_cons, run_nil, step_monitor_free hwaiting]
  show (replaceCircuit { s with monitor := .waiting failedId failedIds } failedId now
    built).attempts = _
  rw [replaceCircuit_eq]

/-! ## The ledger -/

/-- The retry state of the pool. -/
def ledger (s : ClientState) : (AList fun _ : CircuitId => Nat) × Finset CircuitId × Nat :=
  (s.store.pool.rebuildFailureCounts, s.store.pool.abandonedSlots, s.store.pool.maxRebuildAttempts)

/-- Nothing but a `replace_circuit` touches the retry state. -/
theorem Step.ledger {act : Act} {s' : ClientState} (hstep : s.Step P act s')
    (hact : ∀ failedId now built, act ≠ .replaces failedId now built) :
    s'.ledger = s.ledger ∧ s'.attempts = s.attempts := by
  -- building adds to the circuits of the pool only, whether it succeeds or not
  have hbuild : ∀ now built, ((s.store.buildCircuit now built).1.pool.rebuildFailureCounts,
      (s.store.buildCircuit now built).1.pool.abandonedSlots,
      (s.store.buildCircuit now built).1.pool.maxRebuildAttempts) = s.ledger := by
    intro now built
    cases built <;> rfl
  unfold ClientState.ledger
  cases hstep with
  | quiet hstore hbeside => exact ⟨hstore ▸ rfl, hbeside.attempts⟩
  | touched hf hstore hbeside => exact ⟨hstore ▸ rfl, hbeside.attempts⟩
  | ended hlive hreader hstore hbeside => exact ⟨hstore ▸ rfl, hbeside.attempts⟩
  | registered hlive hselected hstore hbeside => exact ⟨hstore ▸ rfl, hbeside.attempts⟩
  | unregistered hstore hbeside => exact ⟨hstore ▸ rfl, hbeside.attempts⟩
  | left hlive hreader hleaves hstore hbeside => exact ⟨hstore ▸ rfl, hbeside.attempts⟩
  | expired hlookup hlive hready hstore hattempts hremoved howed hconnections =>
    refine ⟨?_, hattempts⟩
    rw [hstore]
    simp only [Store.expireOne, hlookup, hlive, if_pos hready]
    rfl
  | rebuilt hstore hattempts hremoved howed hconnections => exact ⟨hstore ▸ hbuild _ _, hattempts⟩
  | demanded hstore hattempts hremoved howed hselected => exact ⟨hstore ▸ hbuild _ _, hattempts⟩
  | picked hin hstore hattempts hremoved howed hselected => exact ⟨hstore ▸ rfl, hattempts⟩
  | cleaned hstore hattempts hremoved howed hconnections => exact ⟨hstore ▸ rfl, hattempts⟩
  | replaced hstore hattempts hremoved howed hselected => exact absurd rfl (hact _ _ _)

/-- A step is a `replace_circuit`, which is logged, or leaves the retry state alone. -/
theorem step_ledger (s : ClientState) (e : ClientEvent) :
    (∃ failedId now built, s.act P e = .replaces failedId now built ∧
        (s.step P e).store = (s.store.replaceCircuit failedId now built).1 ∧
        (s.step P e).attempts = s.attempts ++ [(failedId, built.toBool)]) ∨
      (s.step P e).ledger = s.ledger ∧ (s.step P e).attempts = s.attempts := by
  have hstep := step_act (P := P) s e
  generalize s.act P e = act at hstep
  by_cases hact : ∃ failedId now built, act = .replaces failedId now built
  · obtain ⟨failedId, now, built, rfl⟩ := hact
    cases hstep with
    | replaced hstore hattempts hremoved howed hselected =>
      exact .inl ⟨failedId, now, built, rfl, hstore, hattempts⟩
  · exact .inr (hstep.ledger fun failedId now built h => hact ⟨failedId, now, built, h⟩)

/-- Counts and abandoned slots are what the attempts say. -/
structure Tallied (s : ClientState) : Prop where
  counts : ∀ circuitId, (s.store.pool.rebuildFailureCounts.lookup circuitId).getD 0 =
    failuresInARow s.attempts circuitId
  abandoned : ∀ circuitId, circuitId ∈ s.store.pool.abandonedSlots ↔
    Exhausted s.store.pool.maxRebuildAttempts s.attempts circuitId
  positive : 0 < s.store.pool.maxRebuildAttempts

/-- What a failed `replace_circuit` abandons. -/
theorem abandonedSlots_failed (s : Store) (failedId : CircuitId) (now : Nat) (error : Error) :
    (s.replaceCircuit failedId now (.error error)).1.pool.abandonedSlots =
      if s.pool.maxRebuildAttempts ≤ (s.pool.rebuildFailureCounts.lookup failedId).getD 0 + 1 then
        insert failedId s.pool.abandonedSlots
      else s.pool.abandonedSlots := rfl

/-- A successful `replace_circuit` clears the slot's count. -/
theorem Tallied.succeeded (h : s.Tallied) {s' : ClientState} {failedId : CircuitId} {now : Nat}
    {onionKeys : OnionKeys}
    (hstore : s'.store = (s.store.replaceCircuit failedId now (.ok onionKeys)).1)
    (hattempts : s'.attempts = s.attempts ++ [(failedId, true)]) : s'.Tallied := by
  have hcounts : s'.store.pool.rebuildFailureCounts =
      s.store.pool.rebuildFailureCounts.erase failedId := by
    rw [hstore]
    rfl
  have habandoned : s'.store.pool.abandonedSlots = s.store.pool.abandonedSlots := by
    rw [hstore]
    rfl
  have hmax : s'.store.pool.maxRebuildAttempts = s.store.pool.maxRebuildAttempts := by
    rw [hstore]
    rfl
  refine ⟨fun id => ?_, fun id => ?_, hmax ▸ h.positive⟩
  · rw [hcounts, hattempts]
    by_cases hid : id = failedId
    · subst hid
      rw [AList.lookup_erase, failuresInARow_succeeded]
      rfl
    · rw [AList.lookup_erase_ne hid, failuresInARow_other (Ne.symm hid)]
      exact h.counts id
  · rw [habandoned, hmax, hattempts, exhausted_concat, h.abandoned id]
    -- a success starts the count over and abandons nothing, nor takes anything back
    refine (or_iff_left_of_imp fun hnow => ?_).symm
    by_cases hid : failedId = id
    · subst hid
      rw [failuresInARow_succeeded] at hnow
      exact absurd h.positive (by omega)
    · rw [failuresInARow_other hid] at hnow
      exact exhausted_of_le h.positive (Nat.le_of_eq hnow.symm)

/-- A failed one counts, and abandons the slot when its budget is used up. -/
theorem Tallied.failed (h : s.Tallied) {s' : ClientState} {failedId : CircuitId} {now : Nat}
    {error : Error} (hstore : s'.store = (s.store.replaceCircuit failedId now (.error error)).1)
    (hattempts : s'.attempts = s.attempts ++ [(failedId, false)]) : s'.Tallied := by
  have hcounts : s'.store.pool.rebuildFailureCounts = s.store.pool.rebuildFailureCounts.insert
      failedId (failuresInARow s.attempts failedId + 1) := by
    rw [hstore, ← h.counts failedId]
    rfl
  have habandoned : s'.store.pool.abandonedSlots =
      if s.store.pool.maxRebuildAttempts ≤ failuresInARow s.attempts failedId + 1 then
        insert failedId s.store.pool.abandonedSlots
      else s.store.pool.abandonedSlots := by
    rw [hstore, ← h.counts failedId]
    exact abandonedSlots_failed ..
  have hmax : s'.store.pool.maxRebuildAttempts = s.store.pool.maxRebuildAttempts := by
    rw [hstore]
    rfl
  refine ⟨fun id => ?_, fun id => ?_, hmax ▸ h.positive⟩
  · rw [hcounts, hattempts]
    by_cases hid : id = failedId
    · subst hid
      rw [AList.lookup_insert, failuresInARow_failed]
      rfl
    · rw [AList.lookup_insert_ne hid, failuresInARow_other (Ne.symm hid)]
      exact h.counts id
  · rw [habandoned, hmax, hattempts, exhausted_concat]
    by_cases hid : failedId = id
    · subst hid
      rw [failuresInARow_failed]
      split
      · rename_i hle
        -- the budget is used up now, or it was before and the slot was tried again
        refine iff_of_true (Finset.mem_insert_self ..) ?_
        rcases Nat.lt_or_ge (failuresInARow s.attempts failedId)
          s.store.pool.maxRebuildAttempts with hlt | hge
        · exact .inr (by omega)
        · exact .inl (exhausted_of_le h.positive hge)
      · rw [h.abandoned failedId]
        exact (or_iff_left_of_imp fun hnow => by omega).symm
    · have hsame : id ∈ (if s.store.pool.maxRebuildAttempts ≤
          failuresInARow s.attempts failedId + 1 then insert failedId s.store.pool.abandonedSlots
          else s.store.pool.abandonedSlots) ↔ id ∈ s.store.pool.abandonedSlots := by
        split
        · exact Finset.mem_insert.trans (or_iff_right (Ne.symm hid))
        · exact Iff.rfl
      rw [hsame, h.abandoned id, failuresInARow_other hid]
      exact (or_iff_left_of_imp fun hnow =>
        exhausted_of_le h.positive (Nat.le_of_eq hnow.symm)).symm

theorem Tallied.step (h : s.Tallied) (e : ClientEvent) : (s.step P e).Tallied := by
  rcases @step_ledger P s e with ⟨failedId, now, built, -, hstore, hattempts⟩ |
    ⟨hledger, hattempts⟩
  · cases built with
    | ok onionKeys => exact h.succeeded hstore hattempts
    | error error => exact h.failed hstore hattempts
  · obtain ⟨hcounts, hrest⟩ := Prod.ext_iff.mp hledger
    obtain ⟨habandoned, hmax⟩ := Prod.ext_iff.mp hrest
    dsimp only [ledger] at hcounts habandoned hmax
    refine ⟨fun id => ?_, fun id => ?_, hmax ▸ h.positive⟩
    · rw [hcounts, hattempts]
      exact h.counts id
    · rw [habandoned, hmax, hattempts]
      exact h.abandoned id

/-! ## Runs -/

/-- The client after startup has made no attempts. -/
theorem tallied_start {poolSize m : Nat} (hm : 0 < m)
    {builds : Nat → Nat × Except Error OnionKeys} {store : Store}
    (hstart : (Store.new poolSize m).initializePool builds = .ok store) :
    (start store).Tallied := by
  obtain ⟨hcounts, habandoned, hmax⟩ :
      store.pool.rebuildFailureCounts = ∅ ∧ store.pool.abandonedSlots = ∅ ∧
        store.pool.maxRebuildAttempts = m :=
    Store.initializePool_keeps (fun _ s => s.pool.rebuildFailureCounts = ∅ ∧
      s.pool.abandonedSlots = ∅ ∧ s.pool.maxRebuildAttempts = m)
      (fun _ _ _ _ h => h) hstart ⟨rfl, rfl, rfl⟩
  refine ⟨fun id => ?_, fun id => ?_, hmax ▸ hm⟩
  · show (store.pool.rebuildFailureCounts.lookup id).getD 0 = 0
    rw [hcounts]
    rfl
  · show id ∈ store.pool.abandonedSlots ↔ Exhausted store.pool.maxRebuildAttempts [] id
    rw [habandoned, hmax]
    refine iff_of_false (Finset.notMem_empty id) ?_
    rintro ⟨n, hn⟩
    rw [List.take_nil] at hn
    exact absurd hm (Nat.not_lt.mpr (Nat.le_of_eq hn.symm))

/-- A slot with failed attempts behind it has been abandoned. -/
def Settled (s : ClientState) : Prop :=
  ∀ circuitId, 0 < failuresInARow s.attempts circuitId →
    s.store.pool.isAbandoned circuitId = true

theorem Settled.step (h : s.Settled) {e : ClientEvent} (hwithin : s.WithinBudget P e) :
    (s.step P e).Settled := by
  intro id hid
  rcases @step_ledger P s e with ⟨failedId, now, built, hact, hstore, hattempts⟩ |
    ⟨hledger, hattempts⟩
  · rw [hattempts] at hid
    unfold CircuitPool.isAbandoned
    rw [hstore]
    cases built with
    | ok onionKeys =>
      have hne : failedId ≠ id := by
        rintro rfl
        rw [show (Except.ok onionKeys : Except Error OnionKeys).toBool = true from rfl,
          failuresInARow_succeeded] at hid
        exact Nat.lt_irrefl 0 hid
      rw [failuresInARow_other hne] at hid
      exact h id hid
    | error error =>
      rw [decide_eq_true_iff, abandonedSlots_failed]
      -- within the budget a failure is the last one, or one of a slot already abandoned
      have hgoes : s.store.pool.isAbandoned failedId = true ∨ s.store.pool.maxRebuildAttempts ≤
          (s.store.pool.rebuildFailureCounts.lookup failedId).getD 0 + 1 := by
        unfold WithinBudget at hwithin
        rw [hact] at hwithin
        exact hwithin
      have hold : ∀ i, i ∈ s.store.pool.abandonedSlots →
          i ∈ if s.store.pool.maxRebuildAttempts ≤
            (s.store.pool.rebuildFailureCounts.lookup failedId).getD 0 + 1 then
            insert failedId s.store.pool.abandonedSlots else s.store.pool.abandonedSlots := by
        intro i hi
        split
        · exact Finset.mem_insert_of_mem hi
        · exact hi
      by_cases hne : failedId = id
      · subst hne
        rcases hgoes with habandoned | hlast
        · exact hold _ (of_decide_eq_true habandoned)
        · rw [if_pos hlast]
          exact Finset.mem_insert_self ..
      · rw [failuresInARow_other hne] at hid
        exact hold _ (of_decide_eq_true (h id hid))
  · have habandoned : (s.step P e).store.pool.abandonedSlots = s.store.pool.abandonedSlots :=
      congrArg (fun l => l.2.1) hledger
    rw [hattempts] at hid
    unfold CircuitPool.isAbandoned
    rw [habandoned]
    exact h id hid

theorem budgeted_of_settled (htallied : s.Tallied) (h : s.Settled) : s.Budgeted where
  retried id hid hkept := by
    rw [h id hid] at hkept
    cases hkept
  abandoned id := decide_eq_true_iff.trans (htallied.abandoned id)

/-- **An attempt that fails within the budget breaks it**: the slot is neither abandoned nor
in the pool. -/
theorem withinBudget_of_budgeted {e : ClientEvent} (h : (s.step P e).Budgeted) :
    s.WithinBudget P e := by
  unfold WithinBudget
  split
  · rename_i failedId now error hact
    have hstep := step_act (P := P) s e
    rw [hact] at hstep
    generalize s.step P e = s' at hstep h
    cases hstep with | replaced hstore hattempts hremoved howed hselected => _
    by_contra hcon
    rw [not_or, Bool.not_eq_true] at hcon
    obtain ⟨hkept, hlow⟩ := hcon
    have hfailed : 0 < failuresInARow s'.attempts failedId := by
      rw [hattempts]
      show 0 < failuresInARow (s.attempts ++ [(failedId, false)]) failedId
      rw [failuresInARow_failed]
      exact Nat.succ_pos _
    have hnot : s'.store.pool.isAbandoned failedId = false := by
      rw [hstore, ← hkept]
      unfold CircuitPool.isAbandoned
      rw [abandonedSlots_failed, if_neg hlow]
    have hretries := h.retried failedId hfailed hnot
    unfold retries at hretries
    rw [hstore] at hretries
    -- `replace_circuit` removes the failed circuit before it builds, so no later search finds it
    have hgone : ((s.store.replaceCircuit failedId now (.error error)).1.pool.circuits).lookup
        failedId = none := AList.lookup_erase ..
    rw [hgone] at hretries
    cases hretries
  · trivial

/-- **When slots get their whole budget**: in every state of a run exactly if no attempt on a
slot fails before the last of its budget. -/
theorem every_state_budgeted_iff {poolSize m : Nat} (hm : 1 ≤ m)
    {builds : Nat → Nat × Except Error OnionKeys} {store : Store}
    (hstart : (Store.new poolSize m).initializePool builds = .ok store)
    (events : List ClientEvent) :
    EveryState (step P) Budgeted (start store) events ↔
      EveryStep (step P) (WithinBudget P) (start store) events := by
  refine @everyState_iff _ _ (step P) (WithinBudget P) (fun s => s.Tallied ∧ s.Settled)
    Budgeted ?_ ?_ ?_ _ _ ?_
  · rintro s e ⟨htallied, hsettled⟩ hwithin
    exact ⟨htallied.step e, hsettled.step hwithin⟩
  · rintro s ⟨htallied, hsettled⟩
    exact budgeted_of_settled htallied hsettled
  · intro s e _ h
    exact withinBudget_of_budgeted h
  · exact ⟨tallied_start hm hstart, fun id hid => absurd hid (Nat.lt_irrefl 0)⟩

/-- The only circuit of the pool ends, and its replacement fails once. -/
def failOnce : List ClientEvent :=
  [.read 0 none, .readerEnd 0] ++ samplePass ++
    [.monitor 0 sampleBuilt, .monitor 0 (.error (.text "no path"))]

theorem sample_every_state_budgeted_iff :
    EveryState (step .sample) Budgeted (start (sampleStore 1 2)) failOnce ↔
      EveryStep (step .sample) (WithinBudget .sample) (start (sampleStore 1 2)) failOnce :=
  have hstart : (Store.new 1 2).initializePool (fun _ => (0, sampleBuilt)) =
      .ok (sampleStore 1 2) := rfl
  every_state_budgeted_iff (show 1 ≤ 2 by decide) hstart failOnce

theorem failOnce_end :
    let s := run (step .sample) (start (sampleStore 1 2)) failOnce
    0 < failuresInARow s.attempts 1 ∧ s.store.pool.isAbandoned 1 = false ∧
      s.retries 1 = false := by
  decide +kernel

/-- **A slot with a budget of two is forgotten after one failure.** -/
theorem failed_slot_forgotten :
    ¬EveryState (step .sample) Budgeted (start (sampleStore 1 2)) failOnce := by
  intro h
  have hlast : (run (step .sample) (start (sampleStore 1 2)) failOnce).Budgeted := h.last
  obtain ⟨hfailed, hkept, hgone⟩ := failOnce_end
  rw [hlast.retried 1 hfailed hkept] at hgone
  cases hgone

end ClientState

end MiniTor.Client
