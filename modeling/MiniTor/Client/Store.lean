import MiniTor.Client.Pool

/-!
# What is done to a circuit and to the store

The operations of `LiveCircuit` and `Store`, as seen by what matters for the pool: the
state of a circuit, its streams and its reader, and which circuits are in the pool.

- `LiveCircuit.Touched`: what an operation does that neither opens nor closes anything.
- `Store.Sound`: an `Arc` in the pool is a circuit with the id it is filed under, and a
  circuit is Closed exactly if its reader has left its loop.
- `Store.Change`: what a critical section does to the store. Each keeps it sound.
-/

namespace MiniTor.Client

/-! ## One circuit -/

/-- State, reader and number of streams are as before, and no DESTROY was sent. -/
structure LiveCircuit.Touched (live live' : LiveCircuit) : Prop where
  circuitId : live'.circuit.circuitId = live.circuit.circuitId
  state : live'.circuit.state = live.circuit.state
  streams : live'.circuit.activeStreamCount = live.circuit.activeStreamCount
  reader : live'.reader = live.reader
  sent : .destroy ∈ live'.sent → .destroy ∈ live.sent

namespace LiveCircuit.Touched

variable {P : Primitives} {live live' live'' : LiveCircuit}

theorem refl (live : LiveCircuit) : live.Touched live := ⟨rfl, rfl, rfl, rfl, id⟩

theorem trans (h : live.Touched live') (h' : live'.Touched live'') : live.Touched live'' :=
  ⟨h'.circuitId.trans h.circuitId, h'.state.trans h.state, h'.streams.trans h.streams,
    h'.reader.trans h.reader, fun hsent => h.sent (h'.sent hsent)⟩

/-- Sending touches keys and digests only. -/
theorem sendMessage_same (c : Circuit) (writer : Message.Writer) (streamId : StreamId)
    (command : MessageCommand) (data : Bytes) :
    (c.sendMessage P writer streamId command data).1.circuitId = c.circuitId ∧
      (c.sendMessage P writer streamId command data).1.state = c.state ∧
      (c.sendMessage P writer streamId command data).1.streamSenders = c.streamSenders := by
  unfold Circuit.sendMessage
  dsimp only
  split <;> exact ⟨rfl, rfl, rfl⟩

theorem send (live : LiveCircuit) (writer : Message.Writer) (streamId : StreamId)
    {command : MessageCommand} (data : Bytes) (hcommand : command ≠ .destroy) :
    live.Touched (live.send P writer streamId command data).1 := by
  obtain ⟨hid, hstate, hsenders⟩ :=
    @sendMessage_same P live.circuit writer streamId command data
  unfold LiveCircuit.send
  rcases hsend : live.circuit.sendMessage P writer streamId command data with ⟨c, result⟩
  rw [hsend] at hid hstate hsenders
  cases result with
  | error e => exact ⟨hid, hstate, congrArg (fun m => m.entries.length) hsenders, rfl, id⟩
  | ok cell =>
    refine ⟨hid, hstate, congrArg (fun m => m.entries.length) hsenders, rfl, fun hsent => ?_⟩
    rcases List.mem_append.mp hsent with hold | hnew
    · exact hold
    · exact absurd (List.mem_singleton.mp hnew).symm hcommand

theorem dropReceiver (live : LiveCircuit) (conn : Nat) (streamId : StreamId) :
    live.Touched (live.dropReceiver conn streamId) :=
  ⟨rfl, rfl, List.length_map _, rfl, id⟩

theorem keepalive (live : LiveCircuit) (writer : Message.Writer) (data : Bytes) :
    live.Touched (live.keepalive writer data) := by
  unfold LiveCircuit.keepalive
  split
  · split
    · refine ⟨rfl, rfl, rfl, rfl, fun hsent => ?_⟩
      rcases List.mem_append.mp hsent with hold | hnew
      · exact hold
      · cases List.mem_singleton.mp hnew
    · exact .refl live
  · exact .refl live

/-- A turn after which the reader goes on. -/
theorem read (hreader : live.reader = .reading) (input : Option Message)
    (h : (live.circuit.readerTurn P input).reading = true) :
    live.Touched (live.read P input).1 := by
  have hid := @Circuit.circuitId_readerTurn P live.circuit input
  rcases @Circuit.readerTurn_cases P live.circuit input with
    ⟨-, hstate, hsenders⟩ | ⟨hstops, -⟩
  · refine ⟨hid, hstate, congrArg (fun m => m.entries.length) hsenders, ?_, id⟩
    show (if (live.circuit.readerTurn P input).reading = true then _ else _) = _
    rw [if_pos h, hreader]
  · rw [h] at hstops
    cases hstops

end LiveCircuit.Touched

/-- A stream's task sends BEGIN, DATA and END. -/
theorem StreamTask.nextSend_ne_destroy {t : StreamTask} {command : MessageCommand} {data : Bytes}
    (h : t.nextSend = some (command, data)) : command ≠ .destroy := by
  have hsends := StreamTask.sends_of_nextSend h
  generalize t.afterSend true = t' at hsends
  cases hsends with
  | begin hphase => exact nofun
  | data hphase => exact nofun
  | «end» hphase => exact nofun

/-- A circuit is Closed exactly if its reader has left its loop. -/
def LiveCircuit.Told (live : LiveCircuit) : Prop :=
  live.circuit.state = .closed ↔ live.reader ≠ .reading

/-- The same circuit later: it is not ready anew, and its reader still tells of its end. -/
structure LiveCircuit.Later (live live' : LiveCircuit) : Prop where
  circuitId : live'.circuit.circuitId = live.circuit.circuitId
  ready : live'.circuit.state = .ready → live.circuit.state = .ready
  told : live.Told → live'.Told

theorem LiveCircuit.Touched.later {live live' : LiveCircuit} (h : live.Touched live') :
    live.Later live' := by
  refine ⟨h.circuitId, fun hready => h.state ▸ hready, fun htold => ?_⟩
  unfold LiveCircuit.Told
  rw [h.state, h.reader]
  exact htold

theorem LiveCircuit.Later.readerEnd (live : LiveCircuit) : live.Later live.readerEnd :=
  ⟨rfl, nofun, fun _ => iff_of_true rfl nofun⟩

theorem LiveCircuit.Later.expire {live : LiveCircuit} (hready : live.circuit.state = .ready) :
    live.Later live.expire := by
  refine ⟨rfl, nofun, fun htold => iff_of_false nofun fun hne => ?_⟩
  -- a circuit that was ready has not been told of an end
  rw [htold.mpr hne] at hready
  cases hready

/-- A reader leaving its loop tells so. -/
theorem LiveCircuit.told_read {P : Primitives} {live : LiveCircuit} {input : Option Message}
    (h : (live.circuit.readerTurn P input).reading = false) :
    (live.read P input).1.circuit.state = .closed ∧ (live.read P input).1.reader = .leaving := by
  rcases @Circuit.readerTurn_cases P live.circuit input with ⟨hgoes, -⟩ | ⟨-, hstate, -⟩
  · rw [h] at hgoes
    cases hgoes
  · refine ⟨hstate, ?_⟩
    show (if (live.circuit.readerTurn P input).reading = true then _ else _) = _
    rw [h]
    rfl

theorem LiveCircuit.Later.read {P : Primitives} {live : LiveCircuit} {input : Option Message}
    (h : (live.circuit.readerTurn P input).reading = false) :
    live.Later (live.read P input).1 := by
  obtain ⟨hclosed, hleaving⟩ := told_read h
  refine ⟨Circuit.circuitId_readerTurn .., fun hready => ?_, fun _ => iff_of_true hclosed ?_⟩
  · rw [hclosed] at hready
    cases hready
  · rw [hleaving]
    exact nofun

/-! ## The store -/

namespace Store

variable {s t : Store}

def stateOf (s : Store) (a : Arc) : Option CircuitState :=
  (s.heap[a]?).map fun live => live.circuit.state

/-- The pool holds the circuit. -/
def inPool (s : Store) (a : Arc) : Bool := decide (a ∈ s.pool.circuits.values)

theorem inPool_iff {a : Arc} :
    s.inPool a = true ↔ ∃ circuitId, s.pool.circuits.lookup circuitId = some a := by
  unfold inPool
  rw [decide_eq_true_iff, AList.mem_values]
  exact exists_congr fun _ => AList.lookup_eq_some.symm

/-- A new circuit, in the pool. -/
def add (s : Store) (onionKeys : OnionKeys) : Store where
  pool := { s.pool with
    circuits := s.pool.circuits.insert s.pool.nextCircuitId s.heap.length }
  heap := s.heap ++ [LiveCircuit.new s.pool.nextCircuitId onionKeys]

/-- The same circuits, and the same of them in the pool. -/
structure Alike (s t : Store) : Prop where
  heap : t.heap = s.heap
  circuits : t.pool.circuits = s.pool.circuits
  poolSize : t.pool.poolSize = s.pool.poolSize

/-! ### The operations, in terms of `update`, `remove` and `add` -/

theorem alike_build_failed (s : Store) (now : Nat) (error : Error) :
    s.Alike (s.buildCircuit now (.error error)).1 := ⟨rfl, rfl, rfl⟩

theorem alike_built (s : Store) (now : Nat) (onionKeys : OnionKeys) :
    (s.add onionKeys).Alike (s.buildCircuit now (.ok onionKeys)).1 := ⟨rfl, rfl, rfl⟩

theorem alike_replace_failed (s : Store) (failedId : CircuitId) (now : Nat) (error : Error) :
    (s.remove failedId).Alike (s.replaceCircuit failedId now (.error error)).1 := ⟨rfl, rfl, rfl⟩

theorem alike_replaced (s : Store) (failedId : CircuitId) (now : Nat) (onionKeys : OnionKeys) :
    ((s.remove failedId).add onionKeys).Alike
      (s.replaceCircuit failedId now (.ok onionKeys)).1 := ⟨rfl, rfl, rfl⟩

theorem alike_expired {circuitId : CircuitId} {a : Arc} {live : LiveCircuit}
    (hlookup : s.pool.circuits.lookup circuitId = some a) (hlive : s.heap[a]? = some live)
    (hready : live.circuit.state = .ready) :
    (s.update a LiveCircuit.expire).Alike (s.expireOne circuitId).1 := by
  simp only [expireOne, hlookup, hlive, if_pos hready]
  exact ⟨rfl, rfl, rfl⟩

theorem Alike.symm (h : s.Alike t) : t.Alike s :=
  ⟨h.heap.symm, h.circuits.symm, h.poolSize.symm⟩

theorem Alike.stateOf (h : s.Alike t) (a : Arc) : t.stateOf a = s.stateOf a := by
  unfold Store.stateOf
  rw [h.heap]

theorem Alike.inPool (h : s.Alike t) (a : Arc) : t.inPool a = s.inPool a := by
  unfold Store.inPool
  rw [h.circuits]

/-! ### One circuit changed -/

/-- What is at a place after one circuit was changed. -/
theorem getElem?_update (s : Store) (a b : Arc) (f : LiveCircuit → LiveCircuit) :
    (s.update a f).heap[b]? = if a = b then s.heap[b]?.map f else s.heap[b]? := by
  show (s.heap.modify a f)[b]? = _
  rw [List.getElem?_modify]
  split
  · rfl
  · exact Option.map_id'

theorem getElem?_update_self {a : Arc} {live : LiveCircuit} (f : LiveCircuit → LiveCircuit)
    (h : s.heap[a]? = some live) : (s.update a f).heap[a]? = some (f live) := by
  rw [getElem?_update, if_pos rfl, h]
  rfl

theorem getElem?_update_ne {a b : Arc} (f : LiveCircuit → LiveCircuit) (h : a ≠ b) :
    (s.update a f).heap[b]? = s.heap[b]? := by
  rw [getElem?_update, if_neg h]

/-- Where a changed circuit comes from. -/
theorem of_getElem?_update {a b : Arc} {f : LiveCircuit → LiveCircuit} {live : LiveCircuit}
    (h : (s.update a f).heap[b]? = some live) :
    ∃ old, s.heap[b]? = some old ∧ (a = b ∧ live = f old ∨ a ≠ b ∧ live = old) := by
  by_cases hab : a = b
  · subst hab
    rw [getElem?_update, if_pos rfl] at h
    obtain ⟨old, hold, rfl⟩ := Option.map_eq_some_iff.mp h
    exact ⟨old, hold, .inl ⟨rfl, rfl⟩⟩
  · rw [getElem?_update_ne f hab] at h
    exact ⟨live, h, .inr ⟨hab, rfl⟩⟩

theorem update_update (s : Store) (a : Arc) (f g : LiveCircuit → LiveCircuit) :
    (s.update a f).update a g = s.update a fun live => g (f live) :=
  congrArg (Store.mk s.pool) (List.modify_modify_eq ..)

theorem update_id (s : Store) (a : Arc) : (s.update a fun live => live) = s :=
  congrArg (Store.mk s.pool) (List.modify_id ..)

theorem stateOf_update_self {a : Arc} {live : LiveCircuit} (f : LiveCircuit → LiveCircuit)
    (h : s.heap[a]? = some live) : (s.update a f).stateOf a = some (f live).circuit.state := by
  unfold stateOf
  rw [getElem?_update_self f h]
  rfl

theorem stateOf_update_ne {a b : Arc} (f : LiveCircuit → LiveCircuit) (h : a ≠ b) :
    (s.update a f).stateOf b = s.stateOf b := by
  unfold stateOf
  rw [getElem?_update_ne f h]

/-- A change that keeps the state keeps all states. -/
theorem stateOf_update_same {a : Arc} {f : LiveCircuit → LiveCircuit}
    (hf : ∀ live, s.heap[a]? = some live → (f live).circuit.state = live.circuit.state) (b : Arc) :
    (s.update a f).stateOf b = s.stateOf b := by
  by_cases hab : a = b
  · subst hab
    unfold stateOf
    rw [getElem?_update, if_pos rfl]
    cases hlive : s.heap[a]? with
    | none => rfl
    | some live => exact congrArg some (hf live hlive)
  · exact stateOf_update_ne f hab

theorem stateOf_of_getElem? {a : Arc} {live : LiveCircuit} (h : s.heap[a]? = some live) :
    s.stateOf a = some live.circuit.state := congrArg _ h

/-! ### One circuit more, or one less in the pool -/

theorem getElem?_add_self (s : Store) (onionKeys : OnionKeys) :
    (s.add onionKeys).heap[s.heap.length]? =
      some (LiveCircuit.new s.pool.nextCircuitId onionKeys) := List.getElem?_concat_length

theorem getElem?_add_of_lt {a : Arc} (onionKeys : OnionKeys) (h : a < s.heap.length) :
    (s.add onionKeys).heap[a]? = s.heap[a]? := List.getElem?_append_left h

theorem lt_of_getElem? {a : Arc} {live : LiveCircuit} (h : s.heap[a]? = some live) :
    a < s.heap.length := (List.getElem?_eq_some_iff.mp h).choose

theorem lt_of_stateOf {a : Arc} {state : CircuitState} (h : s.stateOf a = some state) :
    a < s.heap.length := by
  obtain ⟨live, hlive, -⟩ := Option.map_eq_some_iff.mp h
  exact lt_of_getElem? hlive

theorem stateOf_add_of_lt {a : Arc} (onionKeys : OnionKeys) (h : a < s.heap.length) :
    (s.add onionKeys).stateOf a = s.stateOf a := by
  unfold stateOf
  rw [getElem?_add_of_lt onionKeys h]

theorem stateOf_add_self (s : Store) (onionKeys : OnionKeys) :
    (s.add onionKeys).stateOf s.heap.length = some .ready := by
  unfold stateOf
  rw [getElem?_add_self]
  rfl

/-- A circuit of the store with one more was there, or is the new one. -/
theorem of_getElem?_add {a : Arc} {onionKeys : OnionKeys} {live : LiveCircuit}
    (h : (s.add onionKeys).heap[a]? = some live) :
    s.heap[a]? = some live ∨
      a = s.heap.length ∧ live = LiveCircuit.new s.pool.nextCircuitId onionKeys := by
  rcases Nat.lt_trichotomy a s.heap.length with hlt | rfl | hgt
  -- below the end, at it, or beyond it, where there is nothing
  · rw [getElem?_add_of_lt onionKeys hlt] at h
    exact .inl h
  · rw [getElem?_add_self] at h
    cases h
    exact .inr ⟨rfl, rfl⟩
  · have hlen : a < (s.add onionKeys).heap.length := lt_of_getElem? h
    rw [show (s.add onionKeys).heap.length = s.heap.length + 1 from List.length_append] at hlen
    exact absurd hgt (Nat.not_lt.mpr (Nat.le_of_lt_succ hlen))

theorem lookup_add_self (s : Store) (onionKeys : OnionKeys) :
    (s.add onionKeys).pool.circuits.lookup s.pool.nextCircuitId = some s.heap.length :=
  AList.lookup_insert ..

theorem lookup_add_ne {circuitId : CircuitId} (onionKeys : OnionKeys)
    (h : circuitId ≠ s.pool.nextCircuitId) :
    (s.add onionKeys).pool.circuits.lookup circuitId = s.pool.circuits.lookup circuitId :=
  AList.lookup_insert_ne h

theorem lookup_remove_self (s : Store) (circuitId : CircuitId) :
    (s.remove circuitId).pool.circuits.lookup circuitId = none := AList.lookup_erase ..

theorem lookup_remove_ne {id circuitId : CircuitId} (h : id ≠ circuitId) :
    (s.remove circuitId).pool.circuits.lookup id = s.pool.circuits.lookup id :=
  AList.lookup_erase_ne h

/-- What is in the pool after a removal was there before, under another id. -/
theorem inPool_remove {a : Arc} {circuitId : CircuitId}
    (h : (s.remove circuitId).inPool a = true) :
    ∃ id, id ≠ circuitId ∧ s.pool.circuits.lookup id = some a := by
  obtain ⟨id, hid⟩ := inPool_iff.mp h
  have hne : id ≠ circuitId := by
    rintro rfl
    rw [lookup_remove_self] at hid
    cases hid
  exact ⟨id, hne, (lookup_remove_ne hne).symm.trans hid⟩

/-- What is in the pool after a build was there before, or is the new circuit. -/
theorem inPool_add {a : Arc} {onionKeys : OnionKeys} (h : (s.add onionKeys).inPool a = true) :
    a = s.heap.length ∨ s.inPool a = true := by
  obtain ⟨id, hid⟩ := inPool_iff.mp h
  by_cases hne : id = s.pool.nextCircuitId
  · rw [hne, lookup_add_self] at hid
    cases hid
    exact .inl rfl
  · rw [lookup_add_ne onionKeys hne] at hid
    exact .inr (inPool_iff.mpr ⟨id, hid⟩)

theorem inPool_add_self (s : Store) (onionKeys : OnionKeys) :
    (s.add onionKeys).inPool s.heap.length = true :=
  inPool_iff.mpr ⟨_, lookup_add_self s onionKeys⟩

/-! ### Sound stores -/

/-- The pool files its circuits under their own ids, and readers tell of their end. -/
structure Sound (s : Store) : Prop where
  filed : ∀ circuitId a, s.pool.circuits.lookup circuitId = some a →
    ∃ live, s.heap[a]? = some live ∧ live.circuit.circuitId = circuitId
  told : ∀ (a : Arc) (live : LiveCircuit), s.heap[a]? = some live → live.Told

namespace Sound

theorem new (poolSize maxRebuildAttempts : Nat) : (Store.new poolSize maxRebuildAttempts).Sound :=
  ⟨fun _ _ h => (nomatch h), fun _ _ h => (nomatch h)⟩

theorem alike (h : s.Sound) (halike : s.Alike t) : t.Sound := by
  obtain ⟨hheap, hcircuits, -⟩ := halike
  constructor
  · intro id a hlookup
    rw [hheap]
    rw [hcircuits] at hlookup
    exact h.filed id a hlookup
  · intro a live hlive
    rw [hheap] at hlive
    exact h.told a live hlive

/-- A change of a circuit that keeps its id and what the reader tells. -/
theorem update (h : s.Sound) {a : Arc} {f : LiveCircuit → LiveCircuit}
    (hf : ∀ live, s.heap[a]? = some live → live.Told →
      (f live).circuit.circuitId = live.circuit.circuitId ∧ (f live).Told) :
    (s.update a f).Sound := by
  constructor
  · intro circuitId b hlookup
    obtain ⟨live, hlive, hid⟩ := h.filed circuitId b hlookup
    by_cases hab : a = b
    · subst hab
      exact ⟨f live, getElem?_update_self f hlive,
        (hf live hlive (h.told a live hlive)).1.trans hid⟩
    · exact ⟨live, (getElem?_update_ne f hab).trans hlive, hid⟩
  · intro b live hlive
    obtain ⟨old, hold, ⟨rfl, rfl⟩ | ⟨-, rfl⟩⟩ := of_getElem?_update hlive
    · exact (hf old hold (h.told a old hold)).2
    · exact h.told b live hold

theorem remove (h : s.Sound) (circuitId : CircuitId) : (s.remove circuitId).Sound := by
  refine ⟨fun id a hlookup => ?_, h.told⟩
  by_cases hid : id = circuitId
  · rw [hid, lookup_remove_self] at hlookup
    cases hlookup
  · exact h.filed id a ((lookup_remove_ne hid).symm.trans hlookup)

theorem add (h : s.Sound) (onionKeys : OnionKeys) : (s.add onionKeys).Sound := by
  constructor
  · intro id a hlookup
    by_cases hid : id = s.pool.nextCircuitId
    · rw [hid, lookup_add_self] at hlookup
      cases hlookup
      exact ⟨_, getElem?_add_self s onionKeys, hid.symm⟩
    · rw [lookup_add_ne onionKeys hid] at hlookup
      obtain ⟨live, hlive, hid'⟩ := h.filed id a hlookup
      exact ⟨live, (getElem?_add_of_lt onionKeys (lt_of_getElem? hlive)).trans hlive, hid'⟩
  · intro a live hlive
    rcases of_getElem?_add hlive with hold | ⟨-, rfl⟩
    · exact h.told a live hold
    · exact iff_of_false (fun hclosed => nomatch hclosed) fun hne => hne rfl

theorem buildCircuit (h : s.Sound) (now : Nat) (built : Except Error OnionKeys) :
    (s.buildCircuit now built).1.Sound := by
  cases built with
  | error error => exact h.alike (alike_build_failed s now error)
  | ok onionKeys => exact (h.add onionKeys).alike (alike_built s now onionKeys)

theorem replaceCircuit (h : s.Sound) (failedId : CircuitId) (now : Nat)
    (built : Except Error OnionKeys) : (s.replaceCircuit failedId now built).1.Sound := by
  cases built with
  | error error => exact (h.remove failedId).alike (alike_replace_failed s failedId now error)
  | ok onionKeys =>
    exact ((h.remove failedId).add onionKeys).alike (alike_replaced s failedId now onionKeys)

theorem expireOne (h : s.Sound) {circuitId : CircuitId} {a : Arc} {live : LiveCircuit}
    (hlookup : s.pool.circuits.lookup circuitId = some a) (hlive : s.heap[a]? = some live)
    (hready : live.circuit.state = .ready) : (s.expireOne circuitId).1.Sound := by
  refine Sound.alike ?_ (alike_expired hlookup hlive hready)
  refine h.update fun live' hlive' htold => ?_
  cases hlive.symm.trans hlive'
  exact ⟨rfl, (LiveCircuit.Later.expire hready).told htold⟩

/-- A circuit whose reader has left its loop is Closed, and the end of the reader keeps it so. -/
theorem closed_of_leaving (h : s.Sound) {a : Arc} {live : LiveCircuit}
    (hlive : s.heap[a]? = some live) (hreader : live.reader = .leaving) :
    live.circuit.state = .closed := by
  refine (h.told a live hlive).mpr ?_
  rw [hreader]
  exact nofun

theorem state_readerEnd (h : s.Sound) {a : Arc} {live : LiveCircuit}
    (hlive : s.heap[a]? = some live) (hreader : live.reader = .leaving) :
    ∀ live', s.heap[a]? = some live' →
      live'.readerEnd.circuit.state = live'.circuit.state := by
  intro live' hlive'
  cases hlive.symm.trans hlive'
  exact (h.closed_of_leaving hlive hreader).symm

/-- A circuit is in the pool under one id. -/
theorem lookup_inj (h : s.Sound) {id circuitId : CircuitId} {a : Arc}
    (hid : s.pool.circuits.lookup id = some a)
    (hlookup : s.pool.circuits.lookup circuitId = some a) : id = circuitId := by
  obtain ⟨live, hlive, hcircuitId⟩ := h.filed circuitId a hlookup
  -- the circuit itself has one id, and the pool files it under that one
  obtain ⟨live', hlive', hid'⟩ := h.filed id a hid
  cases hlive.symm.trans hlive'
  exact hid'.symm.trans hcircuitId

/-- A circuit that was taken out of the pool is not in it under another id. -/
theorem not_inPool_remove (h : s.Sound) {circuitId : CircuitId} {a : Arc}
    (hlookup : s.pool.circuits.lookup circuitId = some a) :
    (s.remove circuitId).inPool a = false := by
  rw [← Bool.not_eq_true]
  intro hin
  obtain ⟨id, hne, hid⟩ := inPool_remove hin
  exact hne (h.lookup_inj hid hlookup)

end Sound

/-- What one critical section does to the store. -/
inductive Change (s : Store) : Store → Prop
  | same : s.Change s
  | locked {a : Arc} {f : LiveCircuit → LiveCircuit}
      (hf : ∀ live, s.heap[a]? = some live → live.Later (f live)) : s.Change (s.update a f)
  | aged {circuitId : CircuitId} {a : Arc} {live : LiveCircuit}
      (hlookup : s.pool.circuits.lookup circuitId = some a) (hlive : s.heap[a]? = some live)
      (hready : live.circuit.state = .ready) : s.Change (s.expireOne circuitId).1
  | built (now : Nat) (built : Except Error OnionKeys) : s.Change (s.buildCircuit now built).1
  | taken (circuitId : CircuitId) : s.Change (s.remove circuitId)
  | replaced (failedId : CircuitId) (now : Nat) (built : Except Error OnionKeys) :
      s.Change (s.replaceCircuit failedId now built).1
  | maxAge (age : Nat) : s.Change { s with pool := s.pool.setMaxCircuitAge age }

/-- It keeps the store sound. -/
theorem Change.sound (hchange : s.Change t) (h : s.Sound) : t.Sound := by
  cases hchange with
  | same => exact h
  | locked hf => exact h.update fun live hlive htold => ⟨(hf live hlive).circuitId,
      (hf live hlive).told htold⟩
  | aged hlookup hlive hready => exact h.expireOne hlookup hlive hready
  | built now built => exact h.buildCircuit now built
  | taken circuitId => exact h.remove circuitId
  | replaced failedId now built => exact h.replaceCircuit failedId now built
  | maxAge age => exact h.alike ⟨rfl, rfl, rfl⟩

/-- The size of the pool is fixed. -/
theorem Change.poolSize (hchange : s.Change t) : t.pool.poolSize = s.pool.poolSize := by
  cases hchange with
  | same | locked _ | taken _ | maxAge _ => rfl
  | aged hlookup hlive hready => exact (alike_expired hlookup hlive hready).poolSize
  | built now built => cases built <;> rfl
  | replaced failedId now built => cases built <;> rfl

/-- Circuits do not go away. -/
theorem Change.length_le (hchange : s.Change t) : s.heap.length ≤ t.heap.length := by
  have hbuild : ∀ (now : Nat) (built : Except Error OnionKeys),
      s.heap.length ≤ (s.buildCircuit now built).1.heap.length := by
    intro now built
    cases built with
    | error error => exact Nat.le_refl _
    | ok onionKeys =>
      show _ ≤ (s.heap ++ [_]).length
      rw [List.length_append]
      exact Nat.le_add_right ..
  cases hchange with
  | same | taken _ | maxAge _ => exact Nat.le_refl _
  | locked _ => exact Nat.le_of_eq (List.length_modify ..).symm
  | aged hlookup hlive hready =>
    rw [(alike_expired hlookup hlive hready).heap]
    exact Nat.le_of_eq (List.length_modify ..).symm
  | built now built => exact hbuild now built
  | replaced failedId now built =>
    have h := hbuild now built
    cases built <;> exact h

/-- Startup leaves what every single build leaves. -/
theorem initializePool_keeps (inv : Nat → Store → Prop)
    (hbuild : ∀ i s now onionKeys, inv i s →
      inv (i + 1) (s.buildCircuit now (.ok onionKeys)).1)
    {builds : Nat → Nat × Except Error OnionKeys} {s₀ : Store}
    (h : s.initializePool builds = .ok s₀) (h0 : inv 0 s) : inv s.pool.poolSize s₀ := by
  have hloop : ∀ n i s, inv i s → initializeFrom builds i n s = .ok s₀ → inv (i + n) s₀ := by
    intro n
    induction n with
    | zero =>
      intro i s hs h
      cases h
      exact hs
    | succ n ih =>
      intro i s hs h
      unfold initializeFrom at h
      cases hend : (builds i).2 with
      | error e =>
        rw [hend] at h
        cases h
      | ok onionKeys =>
        rw [hend] at h
        have hrest := ih (i + 1) _ (hbuild i s (builds i).1 onionKeys hs) h
        rwa [Nat.add_right_comm] at hrest
  have hall := hloop s.pool.poolSize 0 s h0 h
  rwa [Nat.zero_add] at hall

/-- The store is sound after startup. -/
theorem sound_initializePool {poolSize m : Nat} {builds : Nat → Nat × Except Error OnionKeys}
    {store : Store} (h : (Store.new poolSize m).initializePool builds = .ok store) :
    store.Sound :=
  initializePool_keeps (fun _ s => s.Sound) (fun _ _ now onionKeys hs => hs.buildCircuit now
    (.ok onionKeys)) h (.new poolSize m)

end Store

end MiniTor.Client
