import MiniTor.Client.Orphans

/-!
# Streams on usable circuits

A SOCKS connection gets its circuit under the pool's mutex and registers its stream
later, under the circuit's. In between the circuit may age out, leave the pool or end;
and a reader that ends without a DESTROY sets Closed in one critical section and clears
the streams in another.

- `ClientState.Steady`: none of this happens to a circuit that was selected and is not
  registered on yet, and no circuit with streams ends without a DESTROY.
- `streams_on_usable`: then every stream is registered on a ready circuit of the pool,
  no Dirty circuit gains one, and no Closed circuit has one.
- `stream_on_dirty_circuit`: a circuit ages out between the two critical sections.
-/

namespace MiniTor.Client

open Theory

namespace Store

variable {s t : Store}

theorem Alike.streamsOf (h : s.Alike t) (a : Arc) : t.streamsOf a = s.streamsOf a := by
  unfold Store.streamsOf
  rw [h.heap]

/-- A circuit filed under another id stays in the pool. -/
theorem inPool_remove_of_ne {a : Arc} {circuitId : CircuitId} (h : s.inPool a = true)
    (hne : s.pool.circuits.lookup circuitId ≠ some a) : (s.remove circuitId).inPool a = true := by
  obtain ⟨id, hid⟩ := inPool_iff.mp h
  have hid' : id ≠ circuitId := by
    rintro rfl
    exact hne hid
  exact inPool_iff.mpr ⟨id, (lookup_remove_ne hid').trans hid⟩

theorem inPool_add_of_ne {a : Arc} {onionKeys : OnionKeys} (h : s.inPool a = true)
    (hne : s.pool.circuits.lookup s.pool.nextCircuitId ≠ some a) :
    (s.add onionKeys).inPool a = true := by
  obtain ⟨id, hid⟩ := inPool_iff.mp h
  have hid' : id ≠ s.pool.nextCircuitId := by
    rintro rfl
    exact hne hid
  exact inPool_iff.mpr ⟨id, (lookup_add_ne onionKeys hid').trans hid⟩

/-- A ready circuit of the pool. -/
def Usable (s : Store) (a : Arc) : Prop := s.stateOf a = some .ready ∧ s.inPool a = true

namespace Usable

variable {a : Arc}

theorem alike (h : s.Usable a) (halike : s.Alike t) : t.Usable a := by
  unfold Usable
  rw [halike.stateOf, halike.inPool]
  exact h

theorem update_ne (h : s.Usable a) {b : Arc} (f : LiveCircuit → LiveCircuit) (hne : b ≠ a) :
    (s.update b f).Usable a :=
  ⟨(stateOf_update_ne f hne).trans h.1, h.2⟩

theorem update_same (h : s.Usable a) {b : Arc} {f : LiveCircuit → LiveCircuit}
    (hf : ∀ live, s.heap[b]? = some live → (f live).circuit.state = live.circuit.state) :
    (s.update b f).Usable a :=
  ⟨(stateOf_update_same hf a).trans h.1, h.2⟩

theorem remove (h : s.Usable a) {circuitId : CircuitId}
    (hne : s.pool.circuits.lookup circuitId ≠ some a) : (s.remove circuitId).Usable a :=
  ⟨h.1, inPool_remove_of_ne h.2 hne⟩

theorem add (h : s.Usable a) {onionKeys : OnionKeys}
    (hne : s.pool.circuits.lookup s.pool.nextCircuitId ≠ some a) : (s.add onionKeys).Usable a :=
  ⟨(stateOf_add_of_lt onionKeys (lt_of_stateOf h.1)).trans h.1, inPool_add_of_ne h.2 hne⟩

end Usable

theorem usable_add_self (s : Store) (onionKeys : OnionKeys) :
    (s.add onionKeys).Usable s.heap.length :=
  ⟨stateOf_add_self s onionKeys, inPool_add_self s onionKeys⟩

/-- No Closed circuit has a stream. -/
def Cleared (s : Store) : Prop :=
  ∀ (a : Arc) (live : LiveCircuit), s.heap[a]? = some live → live.circuit.state = .closed →
    live.circuit.activeStreamCount = 0

namespace Cleared

theorem alike (h : s.Cleared) (halike : s.Alike t) : t.Cleared := by
  intro a live hlive
  rw [halike.heap] at hlive
  exact h a live hlive

theorem update (h : s.Cleared) {b : Arc} {f : LiveCircuit → LiveCircuit}
    (hf : ∀ live, s.heap[b]? = some live → (f live).circuit.state = .closed →
      (f live).circuit.activeStreamCount = 0) : (s.update b f).Cleared := by
  intro a live hlive hclosed
  obtain ⟨old, hold, ⟨rfl, rfl⟩ | ⟨-, rfl⟩⟩ := of_getElem?_update hlive
  · exact hf old hold hclosed
  · exact h a live hold hclosed

theorem add (h : s.Cleared) (onionKeys : OnionKeys) : (s.add onionKeys).Cleared := by
  intro a live hlive hclosed
  rcases of_getElem?_add hlive with hold | ⟨-, rfl⟩
  · exact h a live hold hclosed
  · cases hclosed

theorem buildCircuit (h : s.Cleared) (now : Nat) (built : Except Error OnionKeys) :
    (s.buildCircuit now built).1.Cleared := by
  cases built with
  | error error => exact h.alike (alike_build_failed s now error)
  | ok onionKeys => exact (h.add onionKeys).alike (alike_built s now onionKeys)

end Cleared

end Store

/-- A DESTROY clears the streams at once. -/
theorem Circuit.readerTurn_destroy {P : Primitives} (c : Circuit) {m : Message}
    (h : m.command = .destroy) : (c.readerTurn P (some m)).circuit.streamSenders = ∅ := by
  unfold readerTurn
  dsimp only
  rw [if_pos h]

namespace ClientState

variable (P : Primitives)

/-- A connection has selected the circuit and has not registered its stream yet. -/
def awaited (s : ClientState) (a : Arc) : Bool :=
  s.connections.any fun
    | .selected b => a == b
    | _ => false

/-- The circuits an act takes out of the pool; a build does so by reusing an id. -/
def takesOut (s : ClientState) : Act → List Arc
  | .cleansUp dirtyId => (s.store.pool.circuits.lookup dirtyId).toList
  | .rebuilds _ (.ok _) => (s.store.pool.circuits.lookup s.store.pool.nextCircuitId).toList
  | .demands _ (.ok _) => (s.store.pool.circuits.lookup s.store.pool.nextCircuitId).toList
  | .replaces failedId _ (.error _) => (s.store.pool.circuits.lookup failedId).toList
  | .replaces failedId _ (.ok _) => (s.store.pool.circuits.lookup failedId).toList ++
    ((s.store.remove failedId).pool.circuits.lookup s.store.pool.nextCircuitId).toList
  | _ => []

/-- The message ends a circuit and is a DESTROY. -/
def isDestroy : Option Message → Bool
  | some m => decide (m.command = .destroy)
  | none => false

/-- The event does something to a circuit while a connection is about to register on it, or ends
a circuit with streams without a DESTROY; or `select_circuit` returns a circuit that has stopped
being ready since it looked at it. -/
def disturbs (s : ClientState) (e : ClientEvent) : Bool :=
  (s.takesOut (s.act P e)).any s.awaited ||
  match s.act P e with
  | .expires _ a => s.awaited a
  | .leaves a input => s.awaited a || (decide (s.store.streamsOf a ≠ 0) && !isDestroy input)
  | .picks a => decide (s.store.stateOf a ≠ some .ready)
  | _ => false

def Steady (s : ClientState) (e : ClientEvent) : Prop := s.disturbs P e = false

instance (s : ClientState) (e : ClientEvent) : Decidable (s.Steady P e) :=
  inferInstanceAs (Decidable (_ = _))

/-- **A stream is registered only on a ready circuit of the pool**, and a Dirty circuit gains
none. -/
structure OnUsable (s : ClientState) (e : ClientEvent) : Prop where
  registered : ∀ a, s.act P e = .registers a → s.store.Usable a
  dirty : ∀ a, s.store.stateOf a = some .dirty →
    (s.step P e).store.streamsOf a ≤ s.store.streamsOf a

variable {P} {s : ClientState}

theorem awaited_iff {a : Arc} : s.awaited a = true ↔ .selected a ∈ s.connections := by
  unfold awaited
  rw [List.any_eq_true]
  constructor
  · rintro ⟨phase, hmem, h⟩
    cases phase with
    | selected b => exact beq_iff_eq.mp h ▸ hmem
    | _ => cases h
  · intro h
    exact ⟨_, h, beq_self_eq_true a⟩

theorem not_awaited_takesOut {act : Act} (h : (s.takesOut act).any s.awaited = false) {a : Arc}
    (hselected : .selected a ∈ s.connections) : a ∉ s.takesOut act := by
  intro hmem
  have hany := List.any_eq_true.mpr ⟨a, hmem, awaited_iff.mpr hselected⟩
  rw [h] at hany
  cases hany

/-- What a connection has selected is usable, and no Closed circuit has a stream. -/
structure Ready (s : ClientState) : Prop where
  sound : s.store.Sound
  selected : ∀ a, .selected a ∈ s.connections → s.store.Usable a
  cleared : s.store.Cleared

/-- What is usable and stays in the pool stays usable, unless it ages out or ends. -/
theorem Step.usable {act : Act} {s' : ClientState} (hstep : s.Step P act s')
    (hsound : s.store.Sound) {a : Arc} (h : s.store.Usable a) (hout : a ∉ s.takesOut act)
    (hexpires : ∀ circuitId, act ≠ .expires circuitId a)
    (hleaves : ∀ input, act ≠ .leaves a input) : s'.store.Usable a := by
  cases hstep with
  | quiet hstore hbeside => exact hstore ▸ h
  | touched hf hstore hbeside =>
    exact hstore ▸ h.update_same fun live hlive => (hf live hlive).state
  | @ended _ b live hlive hreader hstore hbeside =>
    rw [hstore]
    refine h.update_ne _ ?_
    rintro rfl
    have hclosed := hsound.closed_of_leaving hlive hreader
    have hready := h.1
    rw [Store.stateOf_of_getElem? hlive, hclosed] at hready
    cases hready
  | registered hlive hselected hstore hbeside =>
    rw [hstore]
    refine h.update_same fun old hold => ?_
    cases hlive.symm.trans hold
    rfl
  | unregistered hstore hbeside =>
    rw [hstore]
    exact h.update_same fun _ _ => rfl
  | @left _ b input live hlive hreader hleaves' hstore hbeside =>
    rw [hstore]
    refine h.update_ne _ ?_
    rintro rfl
    exact hleaves input rfl
  | @expired _ circuitId b live hlookup hlive hready hstore hattempts hremoved howed hconnections =>
    rw [hstore]
    refine Store.Usable.alike (h.update_ne _ ?_) (Store.alike_expired hlookup hlive hready)
    rintro rfl
    exact hexpires circuitId rfl
  | @rebuilt _ now built hstore hattempts hremoved howed hconnections =>
    rw [hstore]
    cases built with
    | error error => exact h.alike (Store.alike_build_failed s.store now error)
    | ok onionKeys =>
      refine Store.Usable.alike (h.add fun hlookup => hout ?_)
        (Store.alike_built s.store now onionKeys)
      exact Option.mem_toList.mpr hlookup
  | @demanded _ now built hstore hattempts hremoved howed hselected =>
    rw [hstore]
    cases built with
    | error error => exact h.alike (Store.alike_build_failed s.store now error)
    | ok onionKeys =>
      refine Store.Usable.alike (h.add fun hlookup => hout ?_)
        (Store.alike_built s.store now onionKeys)
      exact Option.mem_toList.mpr hlookup
  | picked hin hstore hattempts hremoved howed hselected => exact hstore ▸ h
  | cleaned hstore hattempts hremoved howed hconnections =>
    rw [hstore]
    exact h.remove fun hlookup => hout (Option.mem_toList.mpr hlookup)
  | @replaced _ failedId now built hstore hattempts hremoved howed hselected =>
    rw [hstore]
    cases built with
    | error error =>
      refine Store.Usable.alike (h.remove fun hlookup => hout ?_)
        (Store.alike_replace_failed s.store failedId now error)
      exact Option.mem_toList.mpr hlookup
    | ok onionKeys =>
      refine Store.Usable.alike ((h.remove fun hlookup => hout ?_).add fun hlookup => hout ?_)
        (Store.alike_replaced s.store failedId now onionKeys)
      · exact List.mem_append_left _ (Option.mem_toList.mpr hlookup)
      · exact List.mem_append_right _ (Option.mem_toList.mpr hlookup)

/-- Closed circuits stay without streams, if streams are registered on ready ones and circuits
with streams end by a DESTROY. -/
theorem Step.cleared {act : Act} {s' : ClientState} (hstep : s.Step P act s')
    (h : s.store.Cleared) (hregisters : ∀ a, act = .registers a → s.store.stateOf a = some .ready)
    (hleaves : ∀ a input, act = .leaves a input →
      s.store.streamsOf a = 0 ∨ isDestroy input = true) : s'.store.Cleared := by
  cases hstep with
  | quiet hstore hbeside => exact hstore ▸ h
  | @touched _ a f hf hstore hbeside =>
    rw [hstore]
    refine h.update fun live hlive hclosed => ?_
    rw [(hf live hlive).streams]
    exact h a live hlive ((hf live hlive).state.symm.trans hclosed)
  | ended hlive hreader hstore hbeside => exact hstore ▸ h.update fun _ _ _ => rfl
  | @registered _ a live conn hlive hselected hstore hbeside =>
    rw [hstore]
    refine h.update fun old hold hclosed => ?_
    -- a stream is registered on a ready circuit only, so not on a closed one
    have hready := hregisters a rfl
    rw [Store.stateOf_of_getElem? hlive] at hready
    have hclosed' : live.circuit.state = .closed := hclosed
    rw [hclosed'] at hready
    cases hready
  | @unregistered _ a streamId hstore hbeside =>
    rw [hstore]
    refine h.update fun live hlive hclosed => ?_
    have hnone := h a live hlive hclosed
    have hle : (live.circuit.streamSenders.erase streamId).entries.length ≤
        live.circuit.streamSenders.entries.length :=
      (List.kerase_sublist _ _).length_le
    exact Nat.le_zero.mp (hle.trans (Nat.le_of_eq hnone))
  | @left _ a input live hlive hreader hturn hstore hbeside =>
    rw [hstore]
    refine h.update fun old hold _ => ?_
    show (live.circuit.readerTurn P input).circuit.streamSenders.entries.length = 0
    rcases hleaves a input rfl with hnone | hdestroy
    · rw [Store.streamsOf_of_getElem? hlive] at hnone
      rcases @Circuit.readerTurn_cases P live.circuit input with ⟨-, -, hsame⟩ | ⟨-, -, hsame | hempty⟩
      · rw [hsame]
        exact hnone
      · rw [hsame]
        exact hnone
      · rw [hempty]
        rfl
    · cases input with
      | none => cases hdestroy
      | some m =>
        rw [Circuit.readerTurn_destroy live.circuit (of_decide_eq_true hdestroy)]
        rfl
  | expired hlookup hlive hready hstore hattempts hremoved howed hconnections =>
    rw [hstore]
    refine Store.Cleared.alike (h.update fun _ _ hclosed => ?_)
      (Store.alike_expired hlookup hlive hready)
    cases hclosed
  | rebuilt hstore hattempts hremoved howed hconnections => exact hstore ▸ h.buildCircuit _ _
  | demanded hstore hattempts hremoved howed hselected => exact hstore ▸ h.buildCircuit _ _
  | picked hin hstore hattempts hremoved howed hselected => exact hstore ▸ h
  | cleaned hstore hattempts hremoved howed hconnections => exact hstore ▸ h
  | @replaced _ failedId now built hstore hattempts hremoved howed hselected =>
    rw [hstore]
    have hremove : (s.store.remove failedId).Cleared := h
    cases built with
    | error error => exact hremove.alike (Store.alike_replace_failed s.store failedId now error)
    | ok onionKeys =>
      exact (hremove.add onionKeys).alike (Store.alike_replaced s.store failedId now onionKeys)

/-- Only a registration adds a stream. -/
theorem Step.streams_le {act : Act} {s' : ClientState} (hstep : s.Step P act s') {a : Arc}
    (ha : a < s.store.heap.length) (hact : act ≠ .registers a) :
    s'.store.streamsOf a ≤ s.store.streamsOf a := by
  -- a change of one circuit, which may be another one
  have hupdate : ∀ (b : Arc) (f : LiveCircuit → LiveCircuit),
      (∀ live, b = a → s.store.heap[b]? = some live →
        (f live).circuit.activeStreamCount ≤ live.circuit.activeStreamCount) →
      (s.store.update b f).streamsOf a ≤ s.store.streamsOf a := by
    intro b f hf
    have hlive := List.getElem?_eq_getElem ha
    rw [Store.streamsOf_of_getElem? hlive]
    by_cases hb : b = a
    · subst hb
      rw [Store.streamsOf_of_getElem? (Store.getElem?_update_self f hlive)]
      exact hf _ rfl hlive
    · rw [Store.streamsOf_of_getElem? ((Store.getElem?_update_ne f hb).trans hlive)]
  have hbuild : ∀ now built,
      (s.store.buildCircuit now built).1.streamsOf a ≤ s.store.streamsOf a := by
    intro now built
    cases built with
    | error error => exact Nat.le_of_eq ((Store.alike_build_failed s.store now error).streamsOf a)
    | ok onionKeys =>
      rw [(Store.alike_built s.store now onionKeys).streamsOf]
      unfold Store.streamsOf
      rw [Store.getElem?_add_of_lt onionKeys ha]
  cases hstep with
  | quiet hstore hbeside => exact hstore ▸ Nat.le_refl _
  | touched hf hstore hbeside =>
    exact hstore ▸ hupdate _ _ fun live _ hlive => Nat.le_of_eq (hf live hlive).streams
  | ended hlive hreader hstore hbeside => exact hstore ▸ hupdate _ _ fun _ _ _ => Nat.zero_le _
  | registered hlive hselected hstore hbeside =>
    refine hstore ▸ hupdate _ _ fun _ hb _ => ?_
    exact absurd (congrArg Act.registers hb) hact
  | unregistered hstore hbeside =>
    exact hstore ▸ hupdate _ _ fun _ _ _ => (List.kerase_sublist _ _).length_le
  | @left _ b input live hlive hreader hleaves hstore hbeside =>
    refine hstore ▸ hupdate _ _ fun old _ hold => ?_
    cases hlive.symm.trans hold
    show (live.circuit.readerTurn P input).circuit.streamSenders.entries.length ≤ _
    rcases @Circuit.readerTurn_cases P live.circuit input with ⟨-, -, hsame⟩ | ⟨-, -, hsame | hempty⟩
    · exact Nat.le_of_eq (congrArg (fun m => m.entries.length) hsame)
    · exact Nat.le_of_eq (congrArg (fun m => m.entries.length) hsame)
    · rw [hempty]
      exact Nat.zero_le _
  | expired hlookup hlive hready hstore hattempts hremoved howed hconnections =>
    rw [hstore, (Store.alike_expired hlookup hlive hready).streamsOf]
    exact hupdate _ _ fun _ _ _ => Nat.le_refl _
  | rebuilt hstore hattempts hremoved howed hconnections => exact hstore ▸ hbuild _ _
  | demanded hstore hattempts hremoved howed hselected => exact hstore ▸ hbuild _ _
  | picked hin hstore hattempts hremoved howed hselected => exact hstore ▸ Nat.le_refl _
  | cleaned hstore hattempts hremoved howed hconnections => exact hstore ▸ Nat.le_refl _
  | @replaced _ failedId now built hstore hattempts hremoved howed hselected =>
    rw [hstore]
    cases built with
    | error error => exact hbuild now (.error error)
    | ok onionKeys =>
      rw [(Store.alike_replaced s.store failedId now onionKeys).streamsOf]
      unfold Store.streamsOf
      rw [Store.getElem?_add_of_lt (s := s.store.remove failedId) onionKeys ha]
      exact Nat.le_refl _

/-- The circuits selected in the next state. -/
theorem Step.selected {act : Act} {s' : ClientState} (hstep : s.Step P act s') {a : Arc}
    (h : .selected a ∈ s'.connections) :
    .selected a ∈ s.connections ∨ act = .picks a ∧ s.store.inPool a = true ∧
        s'.store = s.store ∨ s'.store.Usable a := by
  cases hstep with
  | quiet hstore hbeside => exact .inl (hbeside.selected a h)
  | touched hf hstore hbeside => exact .inl (hbeside.selected a h)
  | ended hlive hreader hstore hbeside => exact .inl (hbeside.selected a h)
  | registered hlive hselected hstore hbeside => exact .inl (hbeside.selected a h)
  | unregistered hstore hbeside => exact .inl (hbeside.selected a h)
  | left hlive hreader hleaves hstore hbeside => exact .inl (hbeside.selected a h)
  | expired hlookup hlive hready hstore hattempts hremoved howed hconnections =>
    exact .inl (hconnections ▸ h)
  | rebuilt hstore hattempts hremoved howed hconnections => exact .inl (hconnections ▸ h)
  | @demanded _ now built hstore hattempts hremoved howed hselected =>
    rcases hselected a h with hold | hnew
    · exact .inl hold
    · cases built with
      | error error => cases hnew
      | ok onionKeys =>
        cases hnew
        rw [hstore]
        exact .inr (.inr ((Store.usable_add_self s.store onionKeys).alike
          (Store.alike_built s.store now onionKeys)))
  | picked hin hstore hattempts hremoved howed hselected =>
    rcases hselected a h with hold | rfl
    · exact .inl hold
    · exact .inr (.inl ⟨rfl, hin, hstore⟩)
  | cleaned hstore hattempts hremoved howed hconnections => exact .inl (hconnections ▸ h)
  | replaced hstore hattempts hremoved howed hselected => exact .inl (hselected a h)

/-! ## Runs -/

/-- **A stream is registered on a usable circuit**, as long as what was selected is usable. -/
theorem Ready.onUsable (h : s.Ready) (e : ClientEvent) : s.OnUsable P e := by
  have hstep := step_act (P := P) s e
  have hregistered : ∀ a, s.act P e = .registers a → s.store.Usable a := by
    intro a hact
    rw [hact] at hstep
    generalize s.step P e = s' at hstep
    cases hstep with | registered hlive hselected hstore hbeside => _
    exact h.selected a hselected
  refine ⟨hregistered, fun a hdirty => ?_⟩
  refine hstep.streams_le (Store.lt_of_stateOf hdirty) fun hact => ?_
  cases hdirty.symm.trans (hregistered a hact).1

/-- **A steady step keeps what was selected usable.** -/
theorem Ready.step (h : s.Ready) {e : ClientEvent} (hsteady : s.Steady P e) :
    (s.step P e).Ready := by
  have husable : ∀ a, s.act P e = .registers a → s.store.Usable a := (h.onUsable e).registered
  have hstep := step_act (P := P) s e
  unfold Steady disturbs at hsteady
  -- the three invariants of the next state, each from what a step can do
  generalize s.act P e = act at hstep hsteady husable
  generalize s.step P e = s' at hstep
  obtain ⟨hout, hquiet⟩ := Bool.or_eq_false_iff.mp hsteady
  refine ⟨hstep.sound h.sound, fun a ha => ?_,
    hstep.cleared h.cleared (fun a hact => (husable a hact).1) fun a input hact => ?_⟩
  · rcases hstep.selected ha with hold | ⟨rfl, hin, hstore⟩ | hnew
    · refine hstep.usable h.sound (h.selected a hold) (not_awaited_takesOut hout hold) ?_ ?_
      · rintro circuitId rfl
        dsimp only at hquiet
        rw [awaited_iff.mpr hold] at hquiet
        cases hquiet
      · rintro input rfl
        dsimp only at hquiet
        rw [awaited_iff.mpr hold] at hquiet
        cases hquiet
    -- selected just now: it was ready when it was looked at, and still is
    · rw [hstore]
      exact ⟨not_not.mp (of_decide_eq_false hquiet), hin⟩
    · exact hnew
  · subst hact
    obtain ⟨-, hends⟩ := Bool.or_eq_false_iff.mp hquiet
    rcases Bool.and_eq_false_iff.mp hends with hnone | hdestroy
    · exact .inl (not_not.mp (of_decide_eq_false hnone))
    · exact .inr (by simpa using hdestroy)

theorem ready_start {poolSize m : Nat} {builds : Nat → Nat × Except Error OnionKeys}
    {store : Store} (hstart : (Store.new poolSize m).initializePool builds = .ok store) :
    (start store).Ready where
  sound := Store.sound_initializePool hstart
  selected _ ha := nomatch ha
  cleared a live hlive _ := ((started hstart).fresh a live hlive).2.2

/-- **Streams are only opened on usable circuits** in a run whose steps are all steady: every
stream is registered on a ready circuit of the pool, no Dirty circuit gains one, and no Closed
circuit ever has one. -/
theorem streams_on_usable {poolSize m : Nat} {builds : Nat → Nat × Except Error OnionKeys}
    {store : Store} (hstart : (Store.new poolSize m).initializePool builds = .ok store)
    {events : List ClientEvent}
    (hsteady : EveryStep (step P) (Steady P) (start store) events) :
    EveryStep (step P) (OnUsable P) (start store) events ∧
      EveryState (step P) (fun s => s.store.Cleared) (start store) events := by
  have hready := ready_start hstart
  constructor
  · exact hsteady.of_invariant (fun _ _ h hstep => h.step hstep) (fun _ e h _ => h.onUsable e) hready
  · exact hsteady.everyState (fun _ _ h hstep => h.step hstep) (fun _ h => h.cleared) hready

/-- A connection selects the only circuit and registers its stream. -/
def openStream : List ClientEvent :=
  [.accept, .select 0, .look 0, .release 0 sampleBuilt, .register 0 "example.com:80"]

/-- The circuit ages out in between. -/
def ageOutSelected : List ClientEvent :=
  let now := 600 * 1000000000
  [.accept, .select 0, .look 0, .release 0 sampleBuilt, .monitor now sampleBuilt, .look 0]

theorem openStream_usable :
    EveryStep (step .sample) (OnUsable .sample) (start (sampleStore 1 3)) openStream ∧
      EveryState (step .sample) (fun s => s.store.Cleared) (start (sampleStore 1 3))
        openStream := by
  have hstart : (Store.new 1 3).initializePool (fun _ => (0, sampleBuilt)) =
      .ok (sampleStore 1 3) := rfl
  have hsteady : EveryStep (step .sample) (Steady .sample) (start (sampleStore 1 3))
      openStream := by
    decide +kernel
  exact streams_on_usable hstart hsteady

theorem ageOutSelected_end :
    let s := run (step .sample) (start (sampleStore 1 3)) ageOutSelected
    s.store.stateOf 0 = some .dirty ∧ s.store.streamsOf 0 = 0 ∧
      (s.step .sample (.register 0 "example.com:80")).store.streamsOf 0 = 1 := by
  decide +kernel

/-- **A circuit that has aged out gains a stream.** -/
theorem stream_on_dirty_circuit :
    ¬(EveryStep (step .sample) (OnUsable .sample) (start (sampleStore 1 3))
        (ageOutSelected ++ [.register 0 "example.com:80"]) ∧
      EveryState (step .sample) (fun s => s.store.Cleared) (start (sampleStore 1 3))
        (ageOutSelected ++ [.register 0 "example.com:80"])) := by
  rintro ⟨h, -⟩
  have hlast : (run (step .sample) (start (sampleStore 1 3)) ageOutSelected).OnUsable .sample
      (.register 0 "example.com:80") := h.last
  obtain ⟨hdirty, hbefore, hafter⟩ := ageOutSelected_end
  have hle := hlast.dirty 0 hdirty
  rw [hbefore, hafter] at hle
  cases hle

end ClientState

end MiniTor.Client
