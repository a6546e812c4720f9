import MiniTor.Circuit.Authentic
import MiniTor.Circuit.Directory
import MiniTor.Client.Steps

/-!
# Whose circuits the client uses (`tor-client/src/core/circuit.rs`, `build_circuit`)

`build_circuit` takes a path from the directory and builds over it. Connections, the
monitor and startup all build, and a circuit lives on after the pool has dropped it;
the tasks that use it move its ciphers and digests, and never its keys.

- `LiveCircuit.SameKeys`: what every use of a circuit keeps.
- `ClientState.heap_step`: a circuit was there before, with the same keys, or was built now.
- `every_circuit_vouched`: so whatever the client's tasks do, the keys of every circuit were
  accepted from relays of a path of the directory.
-/

namespace MiniTor

open Theory

/-- The keys of a hop's two ciphers. -/
def CipherPair.keys (c : CipherPair) : SessionKey := ⟨c.forward.key, c.backward.key⟩

namespace Client

/-- How `build_circuit` came by these keys: over a path it took from a directory in which
`relays` have registered themselves. -/
def BuiltFrom (P : Primitives) (A : AddrSyntax) (relays : NodeDescriptor → Prop) (hopCount : Nat)
    (circuitId : CircuitId) (onionKeys : OnionKeys) : Prop :=
  ∃ (allowSameIp overflowChecks : Bool) (r : NodeRegistry) (rng : Rng) (path : List NodeDescriptor),
    ServedRegistry A (fun protoDesc => ∃ d, relays d ∧ d.toProto A = protoDesc) allowSameIp r ∧
    DirectoryClient.getRandomPath A overflowChecks r hopCount rng = .ok path ∧
    ∃ (σ : Type) (T : Transport σ) (ephemerals : Nat → ByteArr 32) (circuit : Circuit) (stream : σ),
      build P A T circuitId path ephemerals = .ok (circuit, stream) ∧ circuit.onionKeys = onionKeys

/-- The keys are those of the path: as many hops as asked for, entry first and exit last, every
one of them a relay that registered itself; the cells are under these keys and no others; and
each was accepted from its relay, under a tag no one else's run computes short of a collision. -/
structure Vouched (P : Primitives) (A : AddrSyntax) (relays : NodeDescriptor → Prop)
    (hopCount : Nat) (circuitId : CircuitId) (onionKeys : OnionKeys) (path : List NodeDescriptor)
    (ephemerals : Nat → ByteArr 32) : Prop where
  length : path.length = hopCount
  roles : ∃ middles, path.map NodeDescriptor.nodeType =
    .entry :: List.replicate (middles + 1) .middle ++ [.exit]
  relays : ∀ d ∈ path, relays d
  keys : onionKeys.sessionKeys.length = path.length
  layers : onionKeys.ciphers.map CipherPair.keys = onionKeys.sessionKeys
  accepted : ∀ k node key, path[k]? = some node → onionKeys.sessionKeys[k]? = some key →
    ∃ ciphers handshake serverEphPub auth, ciphers.length = k ∧
      Accepted P A circuitId node (ephemerals k) ciphers handshake key serverEphPub auth ∧
      ∀ run : ServerRun, (run.result P).2.1 = auth →
        run.Serves P node (P.x25519Public (ephemerals k)) serverEphPub key ∨
          run.Forges P node (ephemerals k) serverEphPub

variable {P : Primitives} {A : AddrSyntax}

/-! ## A new circuit -/

@[simp] theorem keys_advanceForwardAll (ciphers : List CipherPair) (n : Nat) :
    (advanceForwardAll ciphers n).map CipherPair.keys = ciphers.map CipherPair.keys := by
  rw [advanceForwardAll, List.map_map]
  rfl

@[simp] theorem keys_advanceBackwardAll (ciphers : List CipherPair) (n : Nat) :
    (advanceBackwardAll ciphers n).map CipherPair.keys = ciphers.map CipherPair.keys := by
  rw [advanceBackwardAll, List.map_map]
  rfl

/-- The ciphers of hops that joined are those of their keys. -/
theorem keys_foldl_joinHop (hops : List (Handshake × SessionKey)) (ciphers : List CipherPair) :
    (hops.foldl joinHop ciphers).map CipherPair.keys =
      ciphers.map CipherPair.keys ++ hops.map Prod.snd := by
  induction hops generalizing ciphers with
  | nil => exact (List.append_nil _).symm
  | cons hop hops ih =>
    rw [List.foldl_cons, ih, joinHop, List.map_append, keys_advanceBackwardAll,
      keys_advanceForwardAll, List.append_assoc]
    rfl

/-- **What `build_circuit` comes by is vouched for.** -/
theorem BuiltFrom.vouched {relays : NodeDescriptor → Prop} (hprint : ∀ d, relays d → d.Printable A)
    {hopCount : Nat} {circuitId : CircuitId} {onionKeys : OnionKeys}
    (h : BuiltFrom P A relays hopCount circuitId onionKeys) :
    ∃ path ephemerals, Vouched P A relays hopCount circuitId onionKeys path ephemerals := by
  obtain ⟨allowSameIp, overflowChecks, r, rng, path, hr, hpath, σ, T, ephemerals, circuit, stream,
    hbuild, rfl⟩ := h
  obtain ⟨hrelays, count, hchosen⟩ := hr.chosen hprint hpath
  obtain ⟨-, -, middles, -, hroles⟩ := NodeRegistry.getRandomPath_layout hr.reachable hchosen
  obtain ⟨-, -, -, start, hops, -, -, htelescoped, rfl⟩ := telescoped_of_build hbuild
  exact
    ⟨path, ephemerals,
      { length := (DirectoryClient.getRandomPath_inv hpath).1
        roles := ⟨middles, hroles⟩
        relays := hrelays
        keys := (List.length_map _).trans htelescoped.accepted.1
        layers := keys_foldl_joinHop hops []
        accepted := fun k node key hnode hkey => by
          obtain ⟨ciphers, handshake, serverEphPub, auth, -, hlength, haccepted⟩ :=
            htelescoped.authenticated hnode hkey
          exact ⟨ciphers, handshake, serverEphPub, auth, hlength, haccepted⟩ }⟩

/-! ## A circuit in use -/

/-- The circuit is the same, under the same keys. -/
structure LiveCircuit.SameKeys (live live' : LiveCircuit) : Prop where
  circuitId : live'.circuit.circuitId = live.circuit.circuitId
  sessionKeys : live'.circuit.onionKeys.sessionKeys = live.circuit.onionKeys.sessionKeys
  layers : live'.circuit.onionKeys.ciphers.map CipherPair.keys =
    live.circuit.onionKeys.ciphers.map CipherPair.keys

theorem Vouched.sameKeys {relays : NodeDescriptor → Prop} {hopCount : Nat}
    {live live' : LiveCircuit} {path : List NodeDescriptor} {ephemerals : Nat → ByteArr 32}
    (h : Vouched P A relays hopCount live.circuit.circuitId live.circuit.onionKeys path ephemerals)
    (hsame : live.SameKeys live') :
    Vouched P A relays hopCount live'.circuit.circuitId live'.circuit.onionKeys path
      ephemerals where
  length := h.length
  roles := h.roles
  relays := h.relays
  keys := by
    rw [hsame.sessionKeys]
    exact h.keys
  layers := by
    rw [hsame.layers, hsame.sessionKeys]
    exact h.layers
  accepted := by
    rw [hsame.sessionKeys, hsame.circuitId]
    exact h.accepted

namespace LiveCircuit.SameKeys

variable (live : LiveCircuit)

theorem refl : live.SameKeys live := ⟨rfl, rfl, rfl⟩

theorem trans {a b c : LiveCircuit} (hab : a.SameKeys b) (hbc : b.SameKeys c) : a.SameKeys c :=
  ⟨hbc.circuitId.trans hab.circuitId, hbc.sessionKeys.trans hab.sessionKeys,
    hbc.layers.trans hab.layers⟩

/-- Sending moves the forward ciphers. -/
theorem send (writer : Message.Writer) (streamId : StreamId) (command : MessageCommand)
    (data : Bytes) : live.SameKeys (live.send P writer streamId command data).1 := by
  have hcircuit : ∀ c result, live.circuit.sendMessage P writer streamId command data = (c, result) →
      live.SameKeys { live with circuit := c } := by
    intro c result hsend
    have hkeys : (wrapForward P live.circuit.onionKeys.ciphers data).1.map CipherPair.keys =
        live.circuit.onionKeys.ciphers.map CipherPair.keys := by
      rw [wrapForward_fst, keys_advanceForwardAll]
    unfold Circuit.sendMessage at hsend
    dsimp only at hsend
    split at hsend
    · cases hsend
      exact ⟨rfl, rfl, hkeys⟩
    · cases hsend
      exact ⟨rfl, rfl, hkeys⟩
  unfold LiveCircuit.send
  rcases hsend : live.circuit.sendMessage P writer streamId command data with ⟨c, result⟩
  obtain ⟨hid, hsession, hlayers⟩ := hcircuit c result hsend
  cases result with
  | ok cell => exact ⟨hid, hsession, hlayers⟩
  | error e => exact ⟨hid, hsession, hlayers⟩

/-- Reading moves the backward ciphers. -/
theorem read (input : Option Message) : live.SameKeys (live.read P input).1 := by
  have hkeys : ∀ data : Bytes,
      (unwrapBackward P live.circuit.onionKeys.ciphers data).1.map CipherPair.keys =
        live.circuit.onionKeys.ciphers.map CipherPair.keys := by
    intro data
    rw [unwrapBackward_fst, keys_advanceBackwardAll]
  have hturn : live.SameKeys { live with circuit := (live.circuit.readerTurn P input).circuit } := by
    cases input with
    | none => exact ⟨rfl, rfl, rfl⟩
    | some msg =>
      by_cases hdestroy : msg.command = .destroy
      · unfold Circuit.readerTurn
        dsimp only
        rw [if_pos hdestroy]
        exact ⟨rfl, rfl, rfl⟩
      · unfold Circuit.readerTurn
        dsimp only
        rw [if_neg hdestroy]
        split
        · exact ⟨rfl, rfl, hkeys _⟩
        · split
          · exact ⟨rfl, rfl, hkeys _⟩
          · exact ⟨rfl, rfl, hkeys _⟩
  exact ⟨hturn.circuitId, hturn.sessionKeys, hturn.layers⟩

theorem keepalive (writer : Message.Writer) (data : Bytes) :
    live.SameKeys (live.keepalive writer data) := by
  unfold LiveCircuit.keepalive
  split
  · split
    · exact ⟨rfl, rfl, rfl⟩
    · exact .refl live
  · exact .refl live

end LiveCircuit.SameKeys

/-! ## All circuits -/

/-- The outcome of the build an event may do. -/
def ClientEvent.build : ClientEvent → Option (Except Error OnionKeys)
  | .monitor _ built => some built
  | .release _ built => some built
  | .replaceFailed _ _ built => some built
  | _ => none

/-- Every circuit of `t` was one of `s` and has the same keys, or is new with these. -/
def Store.Grows (s t : Store) (onionKeys : OnionKeys → Prop) : Prop :=
  ∀ (a : Arc) (live' : LiveCircuit), t.heap[a]? = some live' →
    (∃ live, s.heap[a]? = some live ∧ live.SameKeys live') ∨
      ∃ k, onionKeys k ∧ live' = LiveCircuit.new s.pool.nextCircuitId k

namespace Store.Grows

variable {s t u : Store} {onionKeys : OnionKeys → Prop}

/-- The heap is as before. -/
theorem same (hheap : t.heap = s.heap) : s.Grows t onionKeys := by
  intro a live' hlive
  rw [hheap] at hlive
  exact .inl ⟨live', hlive, .refl live'⟩

/-- One circuit was used. -/
theorem update {a : Arc} {f : LiveCircuit → LiveCircuit}
    (hf : ∀ live, s.heap[a]? = some live → live.SameKeys (f live)) :
    s.Grows (s.update a f) onionKeys := by
  intro b live' hlive
  obtain ⟨old, hold, ⟨rfl, rfl⟩ | ⟨-, rfl⟩⟩ := Store.of_getElem?_update hlive
  · exact .inl ⟨old, hold, hf old hold⟩
  · exact .inl ⟨live', hold, .refl live'⟩

/-- `build_circuit` may have added one. -/
theorem buildCircuit {now : Nat} {built : Except Error OnionKeys}
    (hbuilt : ∀ k, built = .ok k → onionKeys k) (hheap : t.heap = s.heap)
    (hnext : t.pool.nextCircuitId = s.pool.nextCircuitId) :
    s.Grows (t.buildCircuit now built).1 onionKeys := by
  cases built with
  | error e => exact same hheap
  | ok k =>
    intro a live' hlive
    have hadd : (t.add k).heap[a]? = some live' := by
      rw [← (Store.alike_built t now k).heap]
      exact hlive
    rcases Store.of_getElem?_add hadd with hold | ⟨-, rfl⟩
    · rw [hheap] at hold
      exact .inl ⟨live', hold, .refl live'⟩
    · rw [hnext]
      exact .inr ⟨k, hbuilt k rfl, rfl⟩

theorem replaceCircuit {failedId : CircuitId} {now : Nat} {built : Except Error OnionKeys}
    (hbuilt : ∀ k, built = .ok k → onionKeys k) :
    s.Grows (s.replaceCircuit failedId now built).1 onionKeys := by
  have hbuild : s.Grows ((s.remove failedId).buildCircuit now built).1 onionKeys :=
    buildCircuit hbuilt rfl rfl
  unfold Store.replaceCircuit
  cases built with
  | error e => exact same rfl
  | ok k => exact fun a live' hlive => hbuild a live' hlive

theorem expireOne (circuitId : CircuitId) : s.Grows (s.expireOne circuitId).1 onionKeys := by
  unfold Store.expireOne
  split
  · exact same rfl
  · split
    · exact same rfl
    · split
      · rename_i a _ _ _ _ _
        have hexpire : s.Grows (s.update a LiveCircuit.expire) onionKeys :=
          update fun live _ => ⟨rfl, rfl, rfl⟩
        exact fun a live' hlive => hexpire a live' hlive
      · exact same rfl

end Store.Grows

namespace ClientState

variable {s : ClientState}

/-- A task that goes on uses its circuit as `f` does. -/
theorem goOn_grows {onionKeys : OnionKeys → Prop} {a : Arc} {f : LiveCircuit → LiveCircuit}
    (hf : ∀ live, s.store.heap[a]? = some live → live.SameKeys (f live)) (conn : Nat)
    (t : StreamTask) (connected : Bool) :
    s.store.Grows ({ s with store := s.store.update a f }.goOn conn a t connected).store
      onionKeys := by
  show s.store.Grows ((s.store.update a f).update a _) onionKeys
  rw [Store.update_update]
  refine .update fun live hlive => (hf live hlive).trans ?_
  split
  · exact ⟨rfl, rfl, rfl⟩
  · exact .refl _

/-- What a stream's task does to its circuit. -/
theorem streamStep_grows {onionKeys : OnionKeys → Prop} (s : ClientState) (conn : Nat) (a : Arc)
    (t : StreamTask) (connected : Bool) (input : StreamInput) :
    s.store.Grows (s.streamStep P conn a t connected input).store onionKeys := by
  have hgoOn : ∀ t', s.store.Grows (s.goOn conn a t' connected).store onionKeys := by
    intro t'
    have hsame := @goOn_grows s onionKeys a (fun live => live) (fun live _ => .refl live) conn t'
      connected
    rw [Store.update_id] at hsame
    exact hsame
  cases input with
  | send writer =>
    unfold streamStep
    dsimp only
    split
    · rename_i live command data hlive hnext
      refine goOn_grows (fun live' hlive' => ?_) conn _ _
      cases hlive.symm.trans hlive'
      exact .send live writer t.streamId command data
    · exact .same rfl
  | receive =>
    unfold streamStep
    dsimp only
    split
    · exact .same rfl
    · exact hgoOn _
  | receiveUnwritten => exact hgoOn _
  | reply sent => exact hgoOn _
  | giveUp => exact hgoOn _
  | socksRead data => exact hgoOn _
  | unregister =>
    unfold streamStep
    dsimp only
    split
    · exact .update fun live _ => ⟨rfl, rfl, rfl⟩
    · exact .same rfl

/-- **A circuit was there before, under the same keys, or was built in this event.** -/
theorem heap_step (s : ClientState) (e : ClientEvent) :
    s.store.Grows (s.step P e).store fun k => e.build = some (.ok k) := by
  have hbuilt : ∀ {built : Except Error OnionKeys}, e.build = some built →
      ∀ k, built = .ok k → e.build = some (.ok k) := by
    rintro built hbuild k rfl
    exact hbuild
  cases e with
  | monitor now built =>
    cases hholder : s.holder with
    | some task =>
      rw [step_monitor_held hholder]
      exact .same rfl
    | none =>
      rw [step_monitor_free hholder]
      unfold monitorTurn
      split
      · exact .same rfl
      · exact .same rfl
      · exact .buildCircuit (hbuilt rfl) rfl rfl
      · exact .same rfl
      · exact .same rfl
      · exact .same rfl
      · split <;> exact .same rfl
      · exact .same rfl
      · rw [replaceCircuit_eq]
        exact .replaceCircuit (hbuilt rfl)
  | look index =>
    cases hholder : s.holder with
    | none =>
      rw [step_look_free hholder]
      exact .same rfl
    | some task =>
      rw [step_look_held hholder]
      unfold lookAt
      split
      · split
        · exact .same rfl
        · split <;> exact .same rfl
      · split
        · exact .same rfl
        · exact .expireOne _
      · split
        · exact .same rfl
        · split
          · exact .same rfl
          · split <;> exact .same rfl
      · split <;> exact .same rfl
      · split
        · exact .same rfl
        · split <;> exact .same rfl
  | release now built =>
    cases hholder : s.holder with
    | none =>
      rw [step_release_free hholder]
      exact .same rfl
    | some task =>
      rw [step_release_held hholder]
      unfold released
      split
      · unfold selected
        dsimp only
        split
        · split <;> exact .same rfl
        · have hbuild : s.store.Grows (s.store.buildCircuit now built).1
              fun k => (ClientEvent.release now built).build = some (.ok k) :=
            .buildCircuit (hbuilt rfl) rfl rfl
          cases built with
          | error e => exact hbuild
          | ok k => exact hbuild
      · exact .same rfl
      · exact .same rfl
      · exact .same rfl
      · exact .same rfl
  | accept => exact .same rfl
  | select conn =>
    unfold step
    dsimp only
    split <;> exact .same rfl
  | register conn destination =>
    unfold step
    dsimp only
    split
    · unfold register
      split
      · exact .same rfl
      · rename_i live hlive
        refine .update fun live' hlive' => ?_
        cases hlive.symm.trans hlive'
        exact ⟨rfl, rfl, rfl⟩
    · exact .same rfl
  | stream conn input =>
    show s.store.Grows (step P s (.stream conn input)).store _
    unfold step
    dsimp only
    split
    · exact s.streamStep_grows conn _ _ _ input
    · exact .same rfl
  | checkClosed conn =>
    unfold step
    dsimp only
    split
    · split <;> exact .same rfl
    · exact .same rfl
  | replaceFailed conn now built =>
    unfold step
    dsimp only
    split
    · rw [replaceCircuit_eq]
      exact .replaceCircuit (hbuilt rfl)
    · exact .same rfl
  | read a input =>
    show s.store.Grows (s.read P a input).store _
    unfold read
    split
    · exact .same rfl
    · rename_i live hlive
      split
      · refine .update fun live' hlive' => ?_
        cases hlive.symm.trans hlive'
        exact .read live input
      · exact .same rfl
  | readerEnd a =>
    show s.store.Grows (s.readerEnd a).store _
    unfold readerEnd
    split
    · exact .same rfl
    · split
      · exact .update fun live _ => ⟨rfl, rfl, rfl⟩
      · exact .same rfl
  | keepalive a writer data => exact .update fun live _ => .keepalive live writer data

end ClientState

/-! ## Every run -/

/-- Every circuit ever built is vouched for. -/
def Store.AllVouched (P : Primitives) (A : AddrSyntax) (relays : NodeDescriptor → Prop)
    (hopCount : Nat) (s : Store) : Prop :=
  ∀ live ∈ s.heap, ∃ path ephemerals, Vouched P A relays hopCount live.circuit.circuitId
    live.circuit.onionKeys path ephemerals

variable {relays : NodeDescriptor → Prop} {hopCount : Nat}

/-- Growing keeps all circuits vouched for, if the new ones are. -/
theorem Store.AllVouched.grows {s t : Store} {onionKeys : OnionKeys → Prop}
    (h : s.AllVouched P A relays hopCount) (hgrows : s.Grows t onionKeys)
    (hprint : ∀ d, relays d → d.Printable A)
    (hnew : ∀ k, onionKeys k → BuiltFrom P A relays hopCount s.pool.nextCircuitId k) :
    t.AllVouched P A relays hopCount := by
  intro live' hlive'
  obtain ⟨a, ha⟩ := List.mem_iff_getElem?.mp hlive'
  rcases hgrows a live' ha with ⟨live, hlive, hsame⟩ | ⟨k, hk, rfl⟩
  · obtain ⟨path, ephemerals, hvouched⟩ := h live (List.mem_of_getElem? hlive)
    exact ⟨path, ephemerals, hvouched.sameKeys hsame⟩
  · exact (hnew k hk).vouched hprint

/-- Startup gives circuit `i + 1` the keys of its `i`-th build. -/
theorem Store.allVouched_initializeFrom (hprint : ∀ d, relays d → d.Printable A)
    {builds : Nat → Nat × Except Error OnionKeys}
    (hbuilds : ∀ i onionKeys, (builds i).2 = .ok onionKeys →
      BuiltFrom P A relays hopCount (UInt32.ofNat (i + 1)) onionKeys) {store : Store} (n : Nat) :
    ∀ (i : Nat) (s : Store), s.AllVouched P A relays hopCount →
      s.pool.nextCircuitId = UInt32.ofNat (i + 1) → initializeFrom builds i n s = .ok store →
      store.AllVouched P A relays hopCount := by
  induction n with
  | zero =>
    intro i s hs hnext h
    cases h
    exact hs
  | succ n ih =>
    intro i s hs hnext h
    unfold initializeFrom at h
    cases hend : (builds i).2 with
    | error e =>
      rw [hend] at h
      cases h
    | ok onionKeys =>
      rw [hend] at h
      refine ih (i + 1) (s.buildCircuit (builds i).1 (.ok onionKeys)).1 ?_ ?_ h
      · have hgrows : s.Grows (s.buildCircuit (builds i).1 (.ok onionKeys)).1
            fun k => k = onionKeys :=
          .buildCircuit (fun k hk => (Except.ok.inj hk).symm) rfl rfl
        refine hs.grows hgrows hprint ?_
        rintro k rfl
        rw [hnext]
        exact hbuilds i k hend
      · show s.pool.nextCircuitId + 1 = _
        rw [hnext, UInt32.ofNat_add (i + 1) 1]
        rfl

/-- **Every circuit is of relays of the directory, under keys they vouched for.** When every
build of the client takes its path from a directory in which relays registered themselves,
then whatever the monitor, the readers and the connections do, each circuit ever built, in the
pool or not, goes over as many relays as asked for, and each of its keys was accepted from its
relay. -/
theorem every_circuit_vouched (hprint : ∀ d, relays d → d.Printable A) {poolSize m : Nat}
    {builds : Nat → Nat × Except Error OnionKeys} {store : Store}
    (hstart : (Store.new poolSize m).initializePool builds = .ok store)
    (hbuilds : ∀ i onionKeys, (builds i).2 = .ok onionKeys →
      BuiltFrom P A relays hopCount (UInt32.ofNat (i + 1)) onionKeys) {es : List ClientEvent}
    (hes : EveryStep (ClientState.step P)
      (fun s e => ∀ onionKeys, e.build = some (.ok onionKeys) →
        BuiltFrom P A relays hopCount s.store.pool.nextCircuitId onionKeys)
      (ClientState.start store) es) :
    ∀ live ∈ (run (ClientState.step P) (ClientState.start store) es).store.heap,
      ∃ path ephemerals, Vouched P A relays hopCount live.circuit.circuitId
        live.circuit.onionKeys path ephemerals := by
  have hstore : store.AllVouched P A relays hopCount :=
    Store.allVouched_initializeFrom hprint hbuilds poolSize 0 (Store.new poolSize m)
      (fun live hlive => absurd hlive List.not_mem_nil) rfl hstart
  exact @EveryStep.invariant _ _ (ClientState.step P) _
    (fun s => s.store.AllVouched P A relays hopCount)
    (fun s e hs hbuild => hs.grows (ClientState.heap_step s e) hprint hbuild) _ _ hstore hes

/-- The build over the sample directory. -/
theorem sampleDirectory_builtFrom (circuitId : CircuitId) : ∃ onionKeys,
    BuiltFrom .sample .ipv4 (Operated .sample .ipv4 directoryHosts) 3 circuitId onionKeys := by
  obtain ⟨-, hself, honest⟩ := sampleDirectory_served.honestPath sampleDirectory_path
  obtain ⟨keys, net, -, -, hbuild, -⟩ := @HonestPath.build_split .sample .ipv4 circuitId
    (sampleDirectoryPath.map directoryHosts) honest sample_x25519_comm (fun _ => 0)
    fun _ => sampleSecret 200
  rw [hself] at hbuild
  exact ⟨_, true, true, sampleDirectory, _, _, sampleDirectory_served, sampleDirectory_path, _, _,
    _, _, _, hbuild, rfl⟩

/-- The circuit's reader comes to the end of its input, a connection finds no circuit Ready and
has one built, and the monitor starts a pass over both. -/
def sampleRebuild (onionKeys : OnionKeys) : List ClientEvent :=
  [.read 0 none, .readerEnd 0, .accept, .select 0, .look 0, .release 0 (.ok onionKeys),
    .monitor 0 (.error .utf8)]

/-- A circuit of startup and one built later, both vouched for. -/
theorem sampleDirectory_vouched : ∃ (onionKeys onionKeys' : OnionKeys) (store : Store),
    (Store.new 1 3).initializePool (fun i => (0, if i = 0 then .ok onionKeys else .error .utf8)) =
      .ok store ∧
    (run (ClientState.step .sample) (.start store) (sampleRebuild onionKeys')).store.heap.map
      (fun live => live.circuit.circuitId) = [1, 2] ∧
    ∀ live ∈ (run (ClientState.step .sample) (.start store) (sampleRebuild onionKeys')).store.heap,
      ∃ path ephemerals, Vouched .sample .ipv4 (Operated .sample .ipv4 directoryHosts) 3
        live.circuit.circuitId live.circuit.onionKeys path ephemerals := by
  obtain ⟨onionKeys, hbuilt⟩ := sampleDirectory_builtFrom 1
  obtain ⟨onionKeys', hbuilt'⟩ := sampleDirectory_builtFrom 2
  have hbuilds : ∀ i k, (if i = 0 then .ok onionKeys else .error .utf8 : Except Error OnionKeys) =
      .ok k → BuiltFrom .sample .ipv4 (Operated .sample .ipv4 directoryHosts) 3
        (UInt32.ofNat (i + 1)) k := by
    intro i k hk
    by_cases hi : i = 0
    · subst hi
      cases hk
      exact hbuilt
    · rw [if_neg hi] at hk
      cases hk
  refine ⟨onionKeys, onionKeys', ((Store.new 1 3).buildCircuit 0 (.ok onionKeys)).1, rfl, rfl, ?_⟩
  refine @every_circuit_vouched .sample .ipv4 _ 3 (fun d hd => hd.printable) 1 3
    (fun i => (0, if i = 0 then .ok onionKeys else .error .utf8)) _ rfl hbuilds _ ?_
  -- only the selection builds
  refine ⟨(fun _ h => by cases h), (fun _ h => by cases h), (fun _ h => by cases h),
    (fun _ h => by cases h), (fun _ h => by cases h), ?_, (fun _ h => by cases h), trivial⟩
  intro k hk
  obtain rfl : onionKeys' = k := Except.ok.inj (Option.some.inj hk)
  exact hbuilt'

end Client

end MiniTor
