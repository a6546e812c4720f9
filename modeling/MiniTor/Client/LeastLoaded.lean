import MiniTor.Client.Steps

/-!
# Which circuit a connection gets

`select_circuit` goes through the pool in any order and locks one circuit after the other,
while readers, streams and expiry go on changing them. `WatchedClient` is the client together
with what the connection in `select_circuit` has seen so far.

- `WatchedClient.Sound`: what was seen and what is still to be looked at make up the pool, and
  the best so far is the best of what was seen.
- `selection_exact`: in every run, a selection looks at each circuit of the pool once; the
  connection gets one it saw Ready with as few streams as any it saw Ready, and a new one is
  built only if it saw none.
-/

namespace MiniTor.Client

open Theory

/-- A circuit as `select_circuit` saw it while it held its mutex. -/
structure Seen where
  circuitId : CircuitId
  a : Arc
  state : CircuitState
  streams : Nat
  deriving DecidableEq

/-- The client, and what the connection in `select_circuit` has seen. -/
structure WatchedClient where
  client : ClientState
  seen : List Seen

/-- What the connection in `select_circuit` sees when it looks at the circuit at an index. -/
def ClientState.looked (s : ClientState) (index : Nat) : Option Seen :=
  match s.holder with
  | some (.selecting _ todo _) =>
    todo[index]?.bind fun e => s.store.heap[e.2]?.map fun live =>
      ⟨e.1, e.2, live.circuit.state, live.circuit.activeStreamCount⟩
  | _ => none

/-- None was seen Ready, or the best was seen Ready and none had fewer streams. -/
def BestOf (seen : List Seen) : Option (CircuitId × Nat) → Prop
  | none => ∀ x ∈ seen, x.state ≠ .ready
  | some (circuitId, streams) =>
    (∃ x ∈ seen, x.circuitId = circuitId ∧ x.state = .ready ∧ x.streams = streams) ∧
      ∀ x ∈ seen, x.state = .ready → streams ≤ x.streams

/-- It was seen Ready, with as few streams as any that was. -/
def LeastLoaded (seen : List Seen) (a : Arc) : Prop :=
  ∃ x ∈ seen, x.a = a ∧ x.state = .ready ∧ ∀ y ∈ seen, y.state = .ready → x.streams ≤ y.streams

namespace WatchedClient

variable (P : Primitives)

def start (store : Store) : WatchedClient := { client := ClientState.start store, seen := [] }

def step (w : WatchedClient) (e : ClientEvent) : WatchedClient where
  client := w.client.step P e
  seen :=
    match e with
    | .select _ => if w.client.holder.isSome then w.seen else []
    | .look index => w.seen ++ (w.client.looked index).toList
    | _ => w.seen

/-- Each circuit of the pool was looked at, once. -/
def LookedAtAll (w : WatchedClient) : Prop :=
  (w.seen.map fun x => (x.circuitId, x.a)).Perm w.client.store.pool.iterCircuits

/-- What the end of `select_circuit` does to its connection. -/
def Selects (w : WatchedClient) (e : ClientEvent) : Prop :=
  ∀ now built conn best, e = .release now built →
    w.client.holder = some (.selecting conn [] best) →
    w.LookedAtAll ∧
      ((∃ a, LeastLoaded w.seen a ∧
          w.client.step P e = ({ w.client with holder := none }).setConnection conn (.selected a)) ∨
        (∀ x ∈ w.seen, x.state ≠ .ready) ∧
          (w.client.step P e).store = (w.client.store.buildCircuit now built).1)

/-- What was seen and what is to be looked at are the pool, and the best is the best seen. -/
def Sound (w : WatchedClient) : Prop :=
  ∀ conn todo best, w.client.holder = some (.selecting conn todo best) →
    ((w.seen.map fun x => (x.circuitId, x.a)) ++ todo).Perm w.client.store.pool.iterCircuits ∧
      BestOf w.seen best

end WatchedClient

variable {P : Primitives}

/-! ## One more circuit -/

/-- `compete` keeps the best of what was seen. -/
theorem BestOf.compete {seen : List Seen} {best : Option (CircuitId × Nat)}
    (h : BestOf seen best) (c : Circuit) (circuitId : CircuitId) (a : Arc) :
    BestOf (seen ++ [⟨circuitId, a, c.state, c.activeStreamCount⟩]) (c.compete circuitId best) := by
  unfold Circuit.compete
  by_cases hready : c.state = .ready
  · rw [if_pos hready]
    cases best with
    | none =>
      refine ⟨⟨_, List.mem_append_right _ List.mem_cons_self, rfl, hready, rfl⟩, ?_⟩
      intro x hx hstate
      rcases List.mem_append.mp hx with hold | hnew
      · exact absurd hstate (h x hold)
      · obtain rfl := List.mem_singleton.mp hnew
        exact Nat.le_refl _
    | some b =>
      obtain ⟨⟨x, hx, hid, hstate, hstreams⟩, hleast⟩ := h
      dsimp only
      split
      · -- it has fewer streams than the best so far
        rename_i hless
        refine ⟨⟨_, List.mem_append_right _ List.mem_cons_self, rfl, hready, rfl⟩, ?_⟩
        intro y hy hready'
        rcases List.mem_append.mp hy with hold | hnew
        · exact Nat.le_trans (Nat.le_of_lt hless) (hleast y hold hready')
        · obtain rfl := List.mem_singleton.mp hnew
          exact Nat.le_refl _
      · rename_i hmore
        refine ⟨⟨x, List.mem_append_left _ hx, hid, hstate, hstreams⟩, ?_⟩
        intro y hy hready'
        rcases List.mem_append.mp hy with hold | hnew
        · exact hleast y hold hready'
        · obtain rfl := List.mem_singleton.mp hnew
          exact Nat.le_of_not_lt hmore
  · rw [if_neg hready]
    cases best with
    | none =>
      intro x hx
      rcases List.mem_append.mp hx with hold | hnew
      · exact h x hold
      · obtain rfl := List.mem_singleton.mp hnew
        exact hready
    | some b =>
      obtain ⟨⟨x, hx, hbest⟩, hleast⟩ := h
      refine ⟨⟨x, List.mem_append_left _ hx, hbest⟩, ?_⟩
      intro y hy hready'
      rcases List.mem_append.mp hy with hold | hnew
      · exact hleast y hold hready'
      · obtain rfl := List.mem_singleton.mp hnew
        exact absurd hready' hready

/-! ## The pool while it is held -/

/-- The events that move a selection. -/
def ClientEvent.selection : ClientEvent → Bool
  | .select _ | .look _ | .release _ _ => true
  | _ => false

namespace ClientState

variable {s : ClientState} {conn : Nat} {todo : List (CircuitId × Arc)}
  {best : Option (CircuitId × Nat)}

theorem keeps_streamStep (c : Nat) (a : Arc) (t : StreamTask) (connected : Bool)
    (input : StreamInput) :
    (s.streamStep P c a t connected input).holder = s.holder ∧
      (s.streamStep P c a t connected input).store.pool = s.store.pool := by
  cases input with
  | send writer =>
    unfold streamStep
    dsimp only
    split <;> exact ⟨rfl, rfl⟩
  | receive =>
    unfold streamStep
    dsimp only
    split <;> exact ⟨rfl, rfl⟩
  | unregister =>
    unfold streamStep
    dsimp only
    split <;> exact ⟨rfl, rfl⟩
  | _ => exact ⟨rfl, rfl⟩

/-- The monitor does not select. -/
theorem monitorTurn_not_selecting (hfree : s.holder = none) (now : Nat)
    (built : Except Error OnionKeys) :
    (s.monitorTurn now built).holder ≠ some (.selecting conn todo best) := by
  have hnone : s.holder ≠ some (.selecting conn todo best) := by
    rw [hfree]
    exact Option.some_ne_none _ |>.symm
  unfold monitorTurn
  split
  · exact fun h => by cases h
  · exact hnone
  · exact hnone
  · exact fun h => by cases h
  · exact hnone
  · exact fun h => by cases h
  · split
    · exact hnone
    · exact hnone
  · exact hnone
  · exact hnone

/-- While a connection selects, the others leave it the mutex and the pool. -/
theorem selecting_step {e : ClientEvent} (hother : e.selection = false)
    (h : (s.step P e).holder = some (.selecting conn todo best)) :
    s.holder = some (.selecting conn todo best) ∧ (s.step P e).store.pool = s.store.pool := by
  -- most events leave holder and pool alone, whoever holds the mutex
  have hkeeps : ∀ s' : ClientState, s'.holder = some (.selecting conn todo best) →
      (s'.holder = s.holder ∧ s'.store.pool = s.store.pool) →
      s.holder = some (.selecting conn todo best) ∧ s'.store.pool = s.store.pool :=
    fun s' h hsame => ⟨hsame.1 ▸ h, hsame.2⟩
  cases e with
  | select _ => cases hother
  | look _ => cases hother
  | release _ _ => cases hother
  | monitor now built =>
    cases hholder : s.holder with
    | none =>
      have hstep : s.step P (.monitor now built) = s.monitorTurn now built := by
        rw [step, hholder]
        rfl
      rw [hstep] at h
      exact absurd h (monitorTurn_not_selecting hholder now built)
    | some task =>
      have hstep : s.step P (.monitor now built) = s := by
        rw [step, hholder]
        rfl
      rw [hstep] at h ⊢
      exact ⟨hholder ▸ h, rfl⟩
  | accept => exact ⟨h, rfl⟩
  | register c destination =>
    refine hkeeps _ h ?_
    unfold step
    dsimp only
    split
    · unfold ClientState.register
      split <;> exact ⟨rfl, rfl⟩
    · exact ⟨rfl, rfl⟩
  | stream c input =>
    refine hkeeps _ h ?_
    unfold step
    dsimp only
    split
    · exact keeps_streamStep ..
    · exact ⟨rfl, rfl⟩
  | checkClosed c =>
    refine hkeeps _ h ?_
    unfold step
    dsimp only
    split
    · split <;> exact ⟨rfl, rfl⟩
    · exact ⟨rfl, rfl⟩
  | replaceFailed c now built =>
    cases hholder : s.holder with
    | none =>
      -- a replacement takes the mutex only when it is free, and gives it back
      have hnone : (s.step P (.replaceFailed c now built)).holder = none := by
        unfold step
        rw [hholder]
        dsimp only
        split
        · rename_i failedId _ _
          rw [replaceCircuit_eq failedId now built]
          exact hholder
        · exact hholder
      rw [hnone] at h
      cases h
    | some task =>
      have hstep : s.step P (.replaceFailed c now built) = s := by
        unfold step
        rw [hholder]
      rw [hstep] at h ⊢
      exact ⟨hholder ▸ h, rfl⟩
  | read a input =>
    refine hkeeps _ h ?_
    show (s.read P a input).holder = _ ∧ (s.read P a input).store.pool = _
    unfold ClientState.read
    split
    · exact ⟨rfl, rfl⟩
    · split <;> exact ⟨rfl, rfl⟩
  | readerEnd a =>
    refine hkeeps _ h ?_
    show (s.readerEnd a).holder = _ ∧ (s.readerEnd a).store.pool = _
    unfold ClientState.readerEnd
    split
    · exact ⟨rfl, rfl⟩
    · split <;> exact ⟨rfl, rfl⟩
  | keepalive a writer data => exact ⟨h, rfl⟩

/-- A look of another holder is none of a selection. -/
theorem lookAt_not_selecting {task : PoolTask} (hholder : s.holder = some task)
    (hother : ∀ conn todo best, task ≠ .selecting conn todo best) (index : Nat) :
    (s.lookAt index task).holder ≠ some (.selecting conn todo best) := by
  have hsame : s.holder ≠ some (.selecting conn todo best) := by
    rw [hholder]
    exact fun h => hother conn todo best (Option.some.inj h)
  cases task with
  | selecting c t b => exact absurd rfl (hother c t b)
  | expiring todo' agedOut =>
    unfold lookAt
    dsimp only
    split
    · exact hsame
    · exact fun h => by cases h
  | sweeping todo' dirtyIds =>
    unfold lookAt
    dsimp only
    split
    · exact hsame
    · split
      · exact hsame
      · split <;> exact fun h => by cases h
  | counting circuitId a todo' dirtyIds =>
    unfold lookAt
    dsimp only
    split
    · exact hsame
    · exact fun h => by cases h
  | collecting todo' failedIds =>
    unfold lookAt
    dsimp only
    split
    · exact hsame
    · split
      · exact hsame
      · exact fun h => by cases h

/-- A selection that is over holds the mutex no longer. -/
theorem released_selecting {task : PoolTask} (hholder : s.holder = some task) {now : Nat}
    {built : Except Error OnionKeys}
    (h : (s.released now built task).holder = some (.selecting conn todo best)) :
    s.released now built task = s := by
  unfold released at h ⊢
  split at h
  · -- the end of a selection
    exfalso
    unfold selected at h
    dsimp only at h
    split at h
    · split at h
      · cases h
      · cases h
    · split at h
      · cases h
      · cases h
  · cases h
  · cases h
  · cases h
  · rfl

/-- A look of the connection that selects. -/
theorem step_looked (hholder : s.holder = some (.selecting conn todo best)) (index : Nat) :
    (s.looked index = none ∧ s.step P (.look index) = s) ∨
      ∃ (circuitId : CircuitId) (a : Arc) (live : LiveCircuit),
        todo[index]? = some (circuitId, a) ∧
        s.looked index = some ⟨circuitId, a, live.circuit.state, live.circuit.activeStreamCount⟩ ∧
        s.step P (.look index) =
          { s with
            holder := some (.selecting conn (todo.eraseIdx index)
              (live.circuit.compete circuitId best)) } := by
  rw [step_look_held hholder, lookAt, looked, hholder]
  dsimp only
  cases hindex : todo[index]? with
  | none => exact .inl ⟨rfl, rfl⟩
  | some e =>
    obtain ⟨circuitId, a⟩ := e
    dsimp only
    rw [Option.bind_some]
    cases hlive : s.store.heap[a]? with
    | none => exact .inl ⟨rfl, rfl⟩
    | some live => exact .inr ⟨circuitId, a, live, rfl, rfl, rfl⟩

end ClientState

/-! ## A selection -/

namespace WatchedClient

variable {w : WatchedClient}

theorem sound_start (store : Store) : (start store).Sound := fun _ _ _ h => by cases h

/-- A selection begins with the whole pool to look at. -/
theorem Sound.select (h : w.Sound) (c : Nat) : (w.step P (.select c)).Sound := by
  intro conn todo best hholder
  cases hbefore : w.client.holder with
  | some task =>
    have hsame : w.step P (.select c) = w := by
      unfold step ClientState.step
      rw [hbefore]
      rfl
    rw [hsame] at hholder ⊢
    exact h conn todo best hholder
  | none =>
    have hseen : (w.step P (.select c)).seen = [] := by
      unfold step
      rw [hbefore]
      rfl
    have hclient : (w.step P (.select c)).client = w.client.step P (.select c) := rfl
    rw [hclient] at hholder
    rw [hseen, hclient]
    unfold ClientState.step at hholder ⊢
    rw [hbefore] at hholder ⊢
    dsimp only at hholder ⊢
    split at hholder
    · cases hholder
      exact ⟨List.Perm.refl _, fun x hx => absurd hx List.not_mem_nil⟩
    · rw [hbefore] at hholder
      cases hholder

/-- One more circuit was looked at. -/
theorem Sound.look (h : w.Sound) (index : Nat) : (w.step P (.look index)).Sound := by
  intro conn todo best hholder
  have hclient : (w.step P (.look index)).client = w.client.step P (.look index) := rfl
  have hseen : (w.step P (.look index)).seen = w.seen ++ (w.client.looked index).toList := rfl
  rw [hclient] at hholder
  rw [hclient, hseen]
  cases hbefore : w.client.holder with
  | none =>
    rw [ClientState.step_look_free hbefore, hbefore] at hholder
    cases hholder
  | some task =>
    cases task with
    | selecting conn' todo' best' =>
      obtain ⟨hperm, hbest⟩ := h conn' todo' best' hbefore
      rcases ClientState.step_looked (P := P) hbefore index with
        ⟨hlooked, hstep⟩ | ⟨circuitId, a, live, hindex, hlooked, hstep⟩
      · rw [hstep, hbefore] at hholder
        cases hholder
        rw [hstep, hlooked, Option.toList_none, List.append_nil]
        exact ⟨hperm, hbest⟩
      · rw [hstep] at hholder
        cases hholder
        rw [hstep, hlooked]
        refine ⟨?_, hbest.compete live.circuit circuitId a⟩
        -- the entry moves from the circuits to look at to those seen
        have hmoved : ((circuitId, a) :: todo'.eraseIdx index).Perm todo' :=
          List.getElem?_eq_some_iff.mp hindex |>.elim fun hlt hget =>
            hget ▸ List.getElem_cons_eraseIdx_perm hlt
        rw [Option.toList_some, List.map_append, List.append_assoc]
        exact (hmoved.append_left _).trans hperm
    | _ =>
      rw [ClientState.step_look_held hbefore] at hholder
      exact absurd hholder (ClientState.lookAt_not_selecting hbefore (fun _ _ _ h => by cases h) index)

/-- The end of a selection is no selection any more. -/
theorem Sound.release (h : w.Sound) (now : Nat) (built : Except Error OnionKeys) :
    (w.step P (.release now built)).Sound := by
  intro conn todo best hholder
  have hclient : (w.step P (.release now built)).client = w.client.step P (.release now built) := rfl
  have hseen : (w.step P (.release now built)).seen = w.seen := rfl
  rw [hclient] at hholder
  rw [hclient, hseen]
  cases hbefore : w.client.holder with
  | none =>
    rw [ClientState.step_release_free hbefore, hbefore] at hholder
    cases hholder
  | some task =>
    rw [ClientState.step_release_held hbefore] at hholder ⊢
    have hsame := ClientState.released_selecting hbefore hholder
    rw [hsame] at hholder ⊢
    exact h conn todo best hholder

theorem Sound.step (h : w.Sound) (e : ClientEvent) : (w.step P e).Sound := by
  cases hselection : e.selection with
  | true =>
    cases e with
    | select c => exact h.select c
    | look index => exact h.look index
    | release now built => exact h.release now built
    | _ => cases hselection
  | false =>
    intro conn todo best hholder
    obtain ⟨hbefore, hpool⟩ := ClientState.selecting_step (P := P) hselection hholder
    have hseen : (w.step P e).seen = w.seen := by
      cases e with
      | select _ => cases hselection
      | look _ => cases hselection
      | _ => rfl
    have hclient : (w.step P e).client = w.client.step P e := rfl
    rw [hseen, hclient, hpool]
    exact h conn todo best hbefore

/-- The end of a selection, from what was seen. -/
theorem Sound.selects (h : w.Sound) (e : ClientEvent) : w.Selects P e := by
  rintro now built conn best rfl hholder
  obtain ⟨hperm, hbest⟩ := h conn [] best hholder
  rw [List.append_nil] at hperm
  refine ⟨hperm, ?_⟩
  have hstep : w.client.step P (.release now built) = w.client.selected conn best now built :=
    ClientState.step_release_held hholder now built
  rw [hstep]
  cases best with
  | none =>
    refine .inr ⟨hbest, ?_⟩
    unfold ClientState.selected
    dsimp only
    split
    · rename_i store a hbuilt
      exact congrArg Prod.fst hbuilt.symm
    · rename_i store error hbuilt
      exact congrArg Prod.fst hbuilt.symm
  | some b =>
    obtain ⟨circuitId, streams⟩ := b
    obtain ⟨⟨x, hx, rfl, hready, rfl⟩, hleast⟩ := hbest
    -- the pool was held throughout, so the circuit seen is still in it
    have hin : (x.circuitId, x.a) ∈ w.client.store.pool.iterCircuits :=
      hperm.mem_iff.mp (List.mem_map.mpr ⟨x, hx, rfl⟩)
    have hlookup : w.client.store.pool.circuits.lookup x.circuitId = some x.a := by
      obtain ⟨entry, hentry, heq⟩ := List.mem_map.mp hin
      obtain ⟨hid, ha⟩ := Prod.mk.inj heq
      rw [← hid, ← ha]
      exact AList.lookup_eq_some.mpr hentry
    refine .inl ⟨x.a, ⟨x, hx, rfl, hready, hleast⟩, ?_⟩
    unfold ClientState.selected
    dsimp only
    rw [hlookup]

/-- At the end of every selection of a run the connection gets a circuit it saw Ready, with as
few streams as any it saw Ready of a pool it looked all through; a new circuit is built only
if none was Ready when it was looked at. -/
theorem selection_exact (P : Primitives) (store : Store) (es : List ClientEvent) :
    EveryStep (step P) (Selects P) (start store) es :=
  EveryStep.of_invariant (fun _ e hs _ => hs.step e) (fun _ e hs _ => hs.selects e)
    (sound_start store)
    (@EveryStep.of_forall _ _ (step P) (fun _ => True) (start store) es fun _ _ => trivial)

end WatchedClient

end MiniTor.Client
