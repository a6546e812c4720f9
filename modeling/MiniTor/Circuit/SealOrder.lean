import MiniTor.Circuit.ExitTasks
import MiniTor.Circuit.System

/-!
# Seal order and wire order at the exit

A backward cell is under the right tag and keystream only at one place of the stream of
cells, so the exit's tasks must write in the order in which they seal. Tasks that hold
`shared_state` over the write do; the loop lets go of it with a sealed response in its
hands.

- `ExitTasks.InOrder`: what has been written and what tasks hold is what was sealed, in
  that order; `Move.inOrder`: what each move does to it.
- `Circuit.readAll_sealAll`: a client in step with the exit reads sealed cells in order.
- `every_state_ordered`: so they stay in order in a run in which no stream task writes
  while the loop has a response to write, and no error text is too long for its END.
- `stream_overtakes_response`: a stream task writes in between.
-/

namespace MiniTor

open Theory

/-! ## Lists with one entry that counts -/

section FilterMap

variable {α β : Type*} {f : α → Option β}

theorem filterMap_set_same {l : List α} {i : Nat} {a b : α} (h : l[i]? = some a)
    (hf : f b = f a) : (l.set i b).filterMap f = l.filterMap f := by
  induction l generalizing i with
  | nil => cases h
  | cons c l ih =>
    cases i with
    | zero =>
      cases h
      rw [List.set_cons_zero, List.filterMap_cons, List.filterMap_cons, hf]
    | succ i =>
      rw [List.set_cons_succ, List.filterMap_cons, List.filterMap_cons, ih h]

/-- Where no other entry counts, one entry is all there is. -/
theorem filterMap_set_alone {l : List α} {i : Nat} (hi : i < l.length)
    (hothers : ∀ j c, j ≠ i → l[j]? = some c → f c = none) (b : α) :
    (l.set i b).filterMap f = (f b).toList := by
  induction l generalizing i with
  | nil => cases hi
  | cons c l ih =>
    cases i with
    | zero =>
      have hrest : l.filterMap f = [] := by
        refine List.filterMap_eq_nil_iff.mpr fun d hd => ?_
        obtain ⟨j, hj⟩ := List.mem_iff_getElem?.mp hd
        exact hothers (j + 1) d (Nat.succ_ne_zero j) hj
      rw [List.set_cons_zero, List.filterMap_cons, hrest]
      cases f b with
      | none => rfl
      | some d => rfl
    | succ i =>
      have hc : f c = none := hothers 0 c (Nat.succ_ne_zero i).symm rfl
      rw [List.set_cons_succ, List.filterMap_cons, hc]
      exact ih (Nat.lt_of_succ_lt_succ hi) fun j d hj =>
        hothers (j + 1) d (fun h => hj (Nat.succ_inj.mp h))

theorem filterMap_alone {l : List α} {i : Nat} {a : α} (h : l[i]? = some a)
    (hothers : ∀ j c, j ≠ i → l[j]? = some c → f c = none) :
    l.filterMap f = (f a).toList := by
  have hlen := (List.getElem?_eq_some_iff.mp h).1
  have hset := filterMap_set_alone hlen hothers a
  rwa [filterMap_set_same h rfl] at hset

end FilterMap

namespace ExitTasks

variable {P : Primitives} {s s' : ExitTasks} {e : ExitEvent}

/-! ## What is sealed fits -/

/-- What the tasks have sealed or are to seal fits a cell. -/
def Fitting (s : ExitTasks) : Prop :=
  ∀ (i : Nat) (phase : Phase), s.tasks[i]? = some phase → phase.Fits

theorem Fitting.set (h : s.Fitting) {i : Nat} {phase' : Phase}
    (hset : s'.tasks = s.tasks.set i phase') (hfits : phase'.Fits) : s'.Fitting := by
  intro j phase hphase
  rw [hset] at hphase
  by_cases hj : i = j
  · subst hj
    have hlen : i < s.tasks.length := by
      have hlen := (List.getElem?_eq_some_iff.mp hphase).1
      rwa [List.length_set] at hlen
    rw [List.getElem?_set_self hlen] at hphase
    cases hphase
    exact hfits
  · rw [List.getElem?_set_ne hj] at hphase
    exact h j phase hphase

theorem Move.fitting (hmove : s.Move P e s') (h : s.Fitting) (hfits : e.Fits) : s'.Fitting := by
  cases hmove with
  | quiet => exact h
  | broke => exact h
  | reads hphase haway' hrole hfits' => exact h.set rfl hfits'
  | selects he hphase haway' hrole hfits' => exact h.set rfl (hfits' hfits)
  | @asksState i job hphase =>
    have hjob : (Phase.starting job).Fits := h i _ hphase
    have hset : ({ s with sharedState := s.sharedState.ask i }.goTo i (.waiting job)).tasks =
        s.tasks.set i (.waiting job) := rfl
    exact h.set hset hjob
  | asksWriter hphase hasks hasks' hholds hstate hheld hunwritten hbusy hcell hresponse hrole
      hfits' => exact h.set rfl (hfits' (h _ _ hphase))
  | opens hphase hholder haway' hrole hfits' => exact h.set rfl (hfits' hfits)
  | @seals i connect p next hphase hholder =>
    obtain ⟨hp, hnext⟩ : p.Sealable ∧ next.Fits := h _ _ hphase
    refine h.set rfl ⟨?_, hnext⟩
    exact (ExitCryptoState.length_seal ..).trans_le hp.fits
  | @answers i connect p hphase hholder =>
    have hp : p.Sealable := h _ _ hphase
    refine h.set rfl ?_
    exact (ExitCryptoState.length_seal ..).trans_le hp.fits
  | writes hphase hholder hcell hnone hasks hasks' hstate hheld hrole hfits' =>
    exact h.set (tasks_put ..) (hfits' (h _ _ hphase))
  | dropsWriter hphase hholds hasks' hstate hheld hnone hbusy hrole hfits' =>
    exact h.set rfl (hfits' (h _ _ hphase))
  | @dropsState i next phase' streams spawned hphase haway' hbusy hrole hfits' =>
    intro j phase hj
    have hset : (s.goTo i phase').Fitting := h.set rfl (hfits' (h i _ hphase))
    rw [List.getElem?_append] at hj
    split at hj
    · exact hset j phase hj
    · obtain ⟨streamId, -, rfl⟩ := List.mem_map.mp (List.mem_of_getElem? hj)
      trivial

/-! ## The order of the cells -/

/-- The response the loop has sealed and not written. -/
def loopResponse (s : ExitTasks) : Option Message :=
  s.tasks[(0 : Nat)]?.bind Phase.response?

/-- The cells that are sealed and not written: the loop's response, then the cell of whoever
holds `shared_state`. -/
def unwritten (s : ExitTasks) : List Message :=
  s.loopResponse.toList ++ s.tasks.filterMap Phase.held?

/-- **The wire follows the seals.** -/
structure InOrder (s : ExitTasks) : Prop where
  wire : s.wire <+: s.seals
  rest : s.broken = false → s.seals = s.wire ++ s.unwritten

/-- A stream task writes while the loop has a response to write. -/
def overtakes (s : ExitTasks) : ExitEvent → Bool
  | .write i => decide (i ≠ 0) && s.loopResponse.isSome
  | _ => false

/-- No stream task writes while the loop has a response to write, and error texts fit. -/
def Orderly (s : ExitTasks) (e : ExitEvent) : Prop := e.Fits ∧ s.overtakes e = false

section Unwritten

variable {i : Nat} {phase phase' : Phase}

theorem loopResponse_set (hphase : s.tasks[i]? = some phase)
    (hset : s'.tasks = s.tasks.set i phase') (hsame : phase'.response? = phase.response?) :
    s'.loopResponse = s.loopResponse := by
  unfold loopResponse
  rw [hset]
  by_cases hi : i = 0
  · subst hi
    rw [List.getElem?_set_self (List.getElem?_eq_some_iff.mp hphase).1, hphase]
    exact hsame
  · rw [List.getElem?_set_ne hi]

/-- A task that keeps what it has sealed. -/
theorem unwritten_set (hphase : s.tasks[i]? = some phase)
    (hset : s'.tasks = s.tasks.set i phase') (hresponse : phase'.response? = phase.response?)
    (hheld : phase'.held? = phase.held?) : s'.unwritten = s.unwritten := by
  rw [unwritten, unwritten, loopResponse_set hphase hset hresponse, hset,
    filterMap_set_same hphase hheld]

theorem none_of_unwritten (h : phase.unwritten? = none) :
    phase.response? = none ∧ phase.held? = none := by
  cases phase <;> first | exact ⟨rfl, rfl⟩ | cases h

/-- Nobody else holds a sealed cell when task `i` holds `shared_state`. -/
theorem Locked.held_alone (hlocked : s.Locked) (hholder : s.sharedState.holder = some i) (j : Nat)
    (found : Phase) (hne : j ≠ i) (hfound : s.tasks[j]? = some found) : found.held? = none := by
  cases hheld : found.held? with
  | none => rfl
  | some cell =>
    have hholds : found.holdsState = true := by
      cases found <;> first | rfl | cases hheld
    have hboth := hlocked.state.holds j ⟨found, hfound, hholds⟩
    exact absurd (Option.some.inj (hboth.symm.trans hholder)) hne

end Unwritten

/-- A task that writes takes its cell from the head of what is unwritten, if the loop has no
response while a stream task writes. -/
theorem unwritten_writes {i : Nat} {phase phase' : Phase} {cell : Message}
    (hphase : s.tasks[i]? = some phase) (hset : s'.tasks = s.tasks.set i phase')
    (hcell : phase.unwritten? = some cell) (hnone : phase'.unwritten? = none)
    (hasks : phase.asksWriter = true) (hlocked : s.Locked)
    (horderly : i ≠ 0 → s.loopResponse = none) : s.unwritten = cell :: s'.unwritten := by
  obtain ⟨hresponse', hheld'⟩ := none_of_unwritten hnone
  have hlen := (List.getElem?_eq_some_iff.mp hphase).1
  cases phase with
  | queued found next =>
    cases hcell
    have hholder : s.sharedState.holder = some i :=
      hlocked.state.holds i ((at_iff hphase).mpr rfl)
    have halone := hlocked.held_alone hholder
    have hbefore : s.loopResponse = none := by
      by_cases hi : i = 0
      · subst hi
        rw [loopResponse, hphase]
        rfl
      · exact horderly hi
    rw [unwritten, unwritten, loopResponse_set hphase hset hresponse', hbefore, hset,
      filterMap_set_alone hlen halone, filterMap_alone hphase halone, hheld']
    rfl
  | responding found =>
    cases hcell
    -- only the loop has responses
    have hi : i = 0 := hlocked.eq_zero hphase rfl
    subst hi
    have hbefore : s.loopResponse = some cell := by
      rw [loopResponse, hphase]
      rfl
    have hafter : s'.loopResponse = none := by
      rw [loopResponse, hset, List.getElem?_set_self hlen]
      exact hresponse'
    rw [unwritten, unwritten, hbefore, hafter, hset, filterMap_set_same hphase hheld']
    rfl
  | sealed found next => cases hasks
  | response found => cases hasks
  | _ => cases hcell

/-- Stream tasks that are spawned have sealed nothing. -/
theorem unwritten_append {t : ExitTasks} {spawned : List StreamId}
    (htasks : s'.tasks = t.tasks ++ spawned.map Phase.selecting) (ht : t.tasks ≠ []) :
    s'.unwritten = t.unwritten := by
  have hnone : (spawned.map Phase.selecting).filterMap Phase.held? = [] := by
    rw [List.filterMap_map]
    exact List.filterMap_eq_nil_iff.mpr fun _ _ => rfl
  rw [unwritten, unwritten, loopResponse, loopResponse, htasks, List.filterMap_append, hnone,
    List.append_nil, List.getElem?_append_left (List.length_pos_iff.mpr ht)]

/-- What no move of the tasks touches. -/
theorem InOrder.congr (h : s.InOrder) (hwire : s'.wire = s.wire) (hseals : s'.seals = s.seals)
    (hbroken : s'.broken = s.broken) (hunwritten : s'.unwritten = s.unwritten) : s'.InOrder := by
  constructor
  · rw [hwire, hseals]
    exact h.wire
  · rw [hwire, hseals, hbroken, hunwritten]
    exact h.rest

/-- One more cell is sealed, behind those that wait. -/
theorem InOrder.seal (h : s.InOrder) {cell : Message} (hwire : s'.wire = s.wire)
    (hseals : s'.seals = s.seals ++ [cell]) (hbroken : s'.broken = s.broken)
    (hunwritten : s'.unwritten = s.unwritten ++ [cell]) : s'.InOrder := by
  constructor
  · rw [hwire, hseals]
    exact h.wire.trans (List.prefix_append _ _)
  · intro hworks
    rw [hseals, hwire, hunwritten, h.rest (hbroken ▸ hworks), List.append_assoc]

/-- **Orderly moves keep the order.** -/
theorem Move.inOrder (hmove : s.Move P e s') (hlocked : s.Locked) (hfitting : s.Fitting)
    (horderly : s.Orderly e) (h : s.InOrder) : s'.InOrder := by
  cases hmove with
  | quiet => exact h
  | broke => exact ⟨h.wire, nofun⟩
  | reads hphase haway' hrole hfits =>
    obtain ⟨hresponse, hheld⟩ := none_of_unwritten (Phase.away_locks haway').2.2.2.2
    exact h.congr rfl rfl rfl (unwritten_set hphase rfl hresponse hheld)
  | selects he hphase haway' hrole hfits =>
    obtain ⟨hresponse, hheld⟩ := none_of_unwritten (Phase.away_locks haway').2.2.2.2
    exact h.congr rfl rfl rfl (unwritten_set hphase rfl hresponse hheld)
  | @asksState i job hphase =>
    have hset : ({ s with sharedState := s.sharedState.ask i }.goTo i (.waiting job)).tasks =
        s.tasks.set i (.waiting job) := rfl
    exact h.congr rfl rfl rfl (unwritten_set hphase hset rfl rfl)
  | asksWriter hphase hasks hasks' hholds hstate hheld hunwritten hbusy hcell hresponse hrole
      hfits => exact h.congr rfl rfl rfl (unwritten_set hphase rfl hresponse hcell)
  | opens hphase hholder haway' hrole hfits =>
    obtain ⟨hresponse, hheld⟩ := none_of_unwritten (Phase.away_locks haway').2.2.2.2
    exact h.congr rfl rfl rfl (unwritten_set hphase rfl hresponse hheld)
  | @seals i connect p next hphase hholder =>
    have hset : ((s.sealCell P p).1.goTo i (.sealed (s.sealCell P p).2 next)).tasks =
        s.tasks.set i (.sealed (s.sealCell P p).2 next) := rfl
    have halone := hlocked.held_alone hholder
    refine h.seal rfl rfl rfl ?_
    rw [unwritten, unwritten, loopResponse_set hphase hset rfl, hset,
      filterMap_set_alone (List.getElem?_eq_some_iff.mp hphase).1 halone,
      filterMap_alone hphase halone]
    show _ ++ [_] = (_ ++ []) ++ [_]
    rw [List.append_nil]
    rfl
  | @answers i connect p hphase hholder =>
    have hset : ({ (s.sealCell P p).1 with sharedState := s.sharedState.release }.goTo i
        (.response (s.sealCell P p).2)).tasks = s.tasks.set i (.response (s.sealCell P p).2) := rfl
    have halone := hlocked.held_alone hholder
    -- only the loop answers
    have hi : i = 0 := hlocked.eq_zero hphase rfl
    subst hi
    have hbefore : s.loopResponse = none := by
      rw [loopResponse, hphase]
      rfl
    refine h.seal rfl rfl rfl ?_
    rw [unwritten, unwritten, hbefore, hset,
      filterMap_set_alone (List.getElem?_eq_some_iff.mp hphase).1 halone,
      filterMap_alone hphase halone, loopResponse, hset,
      List.getElem?_set_self (List.getElem?_eq_some_iff.mp hphase).1]
    rfl
  | @writes i phase phase' cell hphase hholder hcell hnone hasks hasks' hstate hheld hrole hfits =>
    obtain ⟨hresponse', hheld'⟩ := none_of_unwritten hnone
    have hset := tasks_put s cell i phase'
    have hlen : cell.data.length ≤ MAX_PAYLOAD_SIZE := by
      have hphaseFits := hfitting i phase hphase
      cases phase with
      | queued found next =>
        cases hcell
        exact hphaseFits.1
      | responding found =>
        cases hcell
        exact hphaseFits
      | sealed found next => cases hasks
      | response found => cases hasks
      | _ => cases hcell
    by_cases hworks : s.broken = false
    · -- the cell is the first of those that wait
      have hfirst : s.unwritten = cell :: ((s.put cell).1.goTo i phase').unwritten := by
        refine unwritten_writes hphase hset hcell hnone hasks hlocked fun hi => ?_
        have hkeeps := horderly.2
        rw [overtakes, decide_eq_true hi, Bool.true_and] at hkeeps
        exact Option.isSome_eq_false_iff.mp hkeeps |> Option.isNone_iff_eq_none.mp
      have hput : s.put cell = ({ s with wire := s.wire ++ [cell] }, true) :=
        if_pos ⟨hlen, hworks⟩
      have hrest := h.rest hworks
      rw [hfirst, hput] at hrest
      have hsplit : s.seals = (s.wire ++ [cell]) ++
          (ExitTasks.goTo { s with wire := s.wire ++ [cell] } i phase').unwritten := by
        rw [hrest, List.append_assoc]
        rfl
      rw [hput]
      exact ⟨⟨_, hsplit.symm⟩, fun _ => hsplit⟩
    · have hput : s.put cell = (s, false) := if_neg fun hboth => hworks hboth.2
      rw [hput]
      exact ⟨h.wire, fun hworks' => absurd hworks' hworks⟩
  | @dropsWriter i phase phase' hphase hholds hasks' hstate hheld hnone hbusy hrole hfits =>
    obtain ⟨hresponse', hheld'⟩ := none_of_unwritten hnone
    have hdone : phase.unwritten? = none := by
      cases phase <;> first | rfl | cases hholds
    obtain ⟨hresponse, hheld⟩ := none_of_unwritten hdone
    exact h.congr rfl rfl rfl (unwritten_set hphase rfl (hresponse'.trans hresponse.symm)
      (hheld'.trans hheld.symm))
  | @dropsState i next phase' streams spawned hphase haway' hbusy hrole hfits =>
    obtain ⟨hresponse, hheld⟩ := none_of_unwritten (Phase.away_locks haway').2.2.2.2
    have hset : (s.goTo i phase').unwritten = s.unwritten :=
      unwritten_set hphase rfl hresponse hheld
    have hpos : 0 < (s.tasks.set i phase').length := by
      rw [List.length_set]
      exact Nat.zero_lt_of_lt (List.getElem?_eq_some_iff.mp hphase).1
    exact h.congr rfl rfl rfl
      ((unwritten_append rfl (List.length_pos_iff.mp hpos)).trans hset)

end ExitTasks

/-! ## The client reads what was sealed in order -/

section Reads

variable (P : Primitives)

/-- Seal one plaintext after the other. -/
def ExitCryptoState.sealAll (circuitId : CircuitId) :
    ExitCryptoState → List Plain → ExitCryptoState × List Message
  | s, [] => (s, [])
  | s, p :: ps =>
    let (s, cell) := s.sealPlain P circuitId p
    let (s, cells) := ExitCryptoState.sealAll circuitId s ps
    (s, cell :: cells)

/-- What the relays between exit and client make of backward cells, the exit's neighbour
first. -/
def relayBackward : List CipherPair → List Message → List Message
  | _, [] => []
  | relays, m :: ms =>
    let (relays, data) := Client.unwrapBackward P relays m.data
    { m with data } :: relayBackward relays ms

/-- The reader takes cell after cell; their plaintexts, unless it refuses one. -/
def Client.Circuit.readAll : Client.Circuit → List Message → Option (List Plain)
  | _, [] => some []
  | c, m :: ms =>
    let outcome := c.readerStep P (some m)
    match outcome.accepted with
    | some accepted => (Client.Circuit.readAll outcome.circuit ms).map (accepted.plain :: ·)
    | none => none

/-- The client holds the backward ciphers of the exit and of the relays in between, and the
exit's digest. -/
structure Client.Circuit.InStep (c : Client.Circuit) (relays : List CipherPair)
    (crypto : ExitCryptoState) : Prop where
  ciphers : c.onionKeys.ciphers.map CipherPair.backward =
    ((crypto.cipher :: relays).map CipherPair.backward).reverse
  digest : c.onionKeys.backwardDigest = crypto.backwardDigest

variable {P} {circuitId : CircuitId}

namespace Client.Circuit.InStep

variable {c : Client.Circuit} {relays : List CipherPair} {crypto : ExitCryptoState}

/-- The next cell, as the client gets it. -/
theorem decrypted (h : c.InStep relays crypto) (p : Plain) :
    let cell := (crypto.sealPlain P circuitId p).2
    c.decrypted P { cell with data := (Client.unwrapBackward P relays cell.data).2 } = p.data := by
  have hlayers : (Client.backwardLayers P c.onionKeys.ciphers).Perm
      (Client.backwardLayers P (crypto.cipher :: relays)) := by
    have hmap : ∀ ciphers : List CipherPair, Client.backwardLayers P ciphers =
        (ciphers.map CipherPair.backward).map (Aes128Ctr.layer P) := by
      intro ciphers
      rw [List.map_map]
      rfl
    rw [hmap, hmap, h.ciphers]
    exact (List.reverse_perm _).map _
  show (applyLayers _ (Client.unwrapBackward P relays _).2).2 = _
  rw [Client.unwrapBackward_snd]
  -- the exit's layer and those of the relays, in one list
  exact applyLayers_cancel_perm hlayers p.data

theorem opened (h : c.InStep relays crypto) (p : Plain) :
    (c.opened p.streamId p.command p.data).InStep
      (Client.unwrapBackward P relays (crypto.sealPlain P circuitId p).2.data).1
      (crypto.sealPlain P circuitId p).1 := by
  have hlen : (crypto.sealPlain P circuitId p).2.data.length = p.data.length :=
    ExitCryptoState.length_seal ..
  have hadvance : ∀ ciphers : List CipherPair,
      (Client.advanceBackwardAll ciphers p.data.length).map CipherPair.backward =
        (ciphers.map CipherPair.backward).map (Aes128Ctr.advance · p.data.length) := by
    intro ciphers
    rw [Client.advanceBackwardAll, List.map_map, List.map_map]
    rfl
  constructor
  · show (Client.advanceBackwardAll c.onionKeys.ciphers p.data.length).map CipherPair.backward = _
    rw [hadvance, h.ciphers, Client.unwrapBackward_fst, hlen, List.map_cons, List.map_cons,
      hadvance, List.map_reverse]
    rfl
  · show (⟨c.onionKeys.backwardDigest.state ++ _⟩ : RunningDigest) = ⟨_ ++ _⟩
    rw [h.digest]

/-- **The client accepts the next cell.** -/
theorem readerStep (h : c.InStep relays crypto) {p : Plain} (hp : p.Sealable) :
    let cell := (crypto.sealPlain P circuitId p).2
    let m := { cell with data := (Client.unwrapBackward P relays cell.data).2 }
    (c.readerStep P (some m)).circuit = c.opened p.streamId p.command p.data ∧
      ((c.readerStep P (some m)).accepted).map Message.plain = some p := by
  intro cell m
  have hdecrypted : c.decrypted P m = p.data := h.decrypted p
  have hcommand : m.command ≠ .destroy := by
    show p.command ≠ .destroy
    rcases hp.command with hc | hc | hc
    all_goals rw [hc]; decide
  have hdigest : m.digest = tagOf P (c.onionKeys.backwardDigest.state ++
      cellTranscript m.streamId m.command.toU8 (c.decrypted P m)) := by
    rw [hdecrypted, h.digest]
    rfl
  rw [Client.Circuit.readerStep_accept hcommand hdigest, hdecrypted]
  exact ⟨rfl, rfl⟩

end Client.Circuit.InStep

theorem Client.Circuit.readAll_cons {c : Client.Circuit} {m accepted : Message}
    {ms : List Message} (h : (c.readerStep P (some m)).accepted = some accepted) :
    c.readAll P (m :: ms) =
      (Client.Circuit.readAll P (c.readerStep P (some m)).circuit ms).map (accepted.plain :: ·) := by
  rw [Client.Circuit.readAll, h]

/-- **A client in step reads sealed cells in order**, and refuses none. -/
theorem Client.Circuit.readAll_sealAll {c : Client.Circuit} {relays : List CipherPair}
    {crypto : ExitCryptoState} (h : c.InStep relays crypto) {ps : List Plain}
    (hps : ∀ p ∈ ps, p.Sealable) :
    c.readAll P (relayBackward P relays (crypto.sealAll P circuitId ps).2) = some ps := by
  induction ps generalizing c relays crypto with
  | nil => rfl
  | cons p ps ih =>
    obtain ⟨hcircuit, haccepted⟩ := @InStep.readerStep P circuitId c relays crypto h p
      (hps p List.mem_cons_self)
    have hrest := ih (@InStep.opened P circuitId c relays crypto h p)
      fun q hq => hps q (List.mem_cons_of_mem _ hq)
    obtain ⟨accepted, haccept, hplain⟩ := Option.map_eq_some_iff.mp haccepted
    refine (readAll_cons haccept).trans ?_
    rw [hcircuit, hplain]
    exact congrArg (Option.map (p :: ·)) hrest

/-! ## Sealing one more -/

/-- Two states that seal alike. -/
structure ExitCryptoState.SealsLike (s t : ExitCryptoState) : Prop where
  cipher : s.cipher.backward = t.cipher.backward
  digest : s.backwardDigest = t.backwardDigest

theorem ExitCryptoState.SealsLike.seal {s t : ExitCryptoState} (h : s.SealsLike t) (p : Plain) :
    (s.sealPlain P circuitId p).2 = (t.sealPlain P circuitId p).2 ∧
      (s.sealPlain P circuitId p).1.SealsLike (t.sealPlain P circuitId p).1 := by
  obtain ⟨hcipher, hdigest⟩ := h
  refine ⟨?_, ?_, ?_⟩
  · rw [sealPlain, sealPlain, seal_snd, seal_snd, hcipher, hdigest]
  · rw [sealPlain, sealPlain, seal_fst, seal_fst]
    dsimp only
    rw [hcipher]
  · rw [sealPlain, sealPlain, seal_fst, seal_fst]
    dsimp only
    rw [hdigest]

theorem ExitCryptoState.sealAll_cons (s : ExitCryptoState) (p : Plain) (ps : List Plain) :
    s.sealAll P circuitId (p :: ps) =
      (((s.sealPlain P circuitId p).1.sealAll P circuitId ps).1,
        (s.sealPlain P circuitId p).2 :: ((s.sealPlain P circuitId p).1.sealAll P circuitId ps).2) :=
  rfl

theorem ExitCryptoState.sealAll_concat (s : ExitCryptoState) (ps : List Plain) (p : Plain) :
    s.sealAll P circuitId (ps ++ [p]) =
      (((s.sealAll P circuitId ps).1.sealPlain P circuitId p).1,
        (s.sealAll P circuitId ps).2 ++
          [((s.sealAll P circuitId ps).1.sealPlain P circuitId p).2]) := by
  induction ps generalizing s with
  | nil => rfl
  | cons q ps ih =>
    rw [List.cons_append, sealAll_cons, ih]
    rfl

/-- The first cells are those of the first plaintexts. -/
theorem ExitCryptoState.sealAll_take (s : ExitCryptoState) (ps : List Plain) (n : Nat) :
    (s.sealAll P circuitId (ps.take n)).2 = (s.sealAll P circuitId ps).2.take n := by
  induction ps generalizing s n with
  | nil =>
    rw [List.take_nil]
    exact List.take_nil.symm
  | cons q ps ih =>
    cases n with
    | zero => rfl
    | succ n => exact congrArg (List.cons _) (ih (s.sealPlain P circuitId q).1 n)

end Reads

namespace ExitTasks

variable {P : Primitives} {s s' : ExitTasks} {e : ExitEvent} {circuitId : CircuitId}
  {crypto : ExitCryptoState}

/-- The seals are those of the plaintexts, from the crypto state the run started in. -/
structure SealedFrom (P : Primitives) (circuitId : CircuitId) (crypto : ExitCryptoState)
    (s : ExitTasks) : Prop where
  circuit : s.circuitId = circuitId
  seals : s.seals = (crypto.sealAll P circuitId s.plains).2
  crypto : s.crypto.SealsLike (crypto.sealAll P circuitId s.plains).1
  plains : ∀ p ∈ s.plains, p.Sealable

theorem SealedFrom.seal (h : s.SealedFrom P circuitId crypto) {p : Plain} (hp : p.Sealable) :
    (s.sealCell P p).1.SealedFrom P circuitId crypto := by
  obtain ⟨hcircuit, hseals, hcrypto, hplains⟩ := h
  subst hcircuit
  obtain ⟨hcell, hafter⟩ := @ExitCryptoState.SealsLike.seal P s.circuitId _ _ hcrypto p
  refine ⟨rfl, ?_, ?_, fun q hq => ?_⟩
  · show s.seals ++ [(s.crypto.sealPlain P s.circuitId p).2] = _
    rw [hcell, hseals]
    show _ = (crypto.sealAll P s.circuitId (s.plains ++ [p])).2
    rw [ExitCryptoState.sealAll_concat]
  · show (s.crypto.sealPlain P s.circuitId p).1.SealsLike
      (crypto.sealAll P s.circuitId (s.plains ++ [p])).1
    rw [ExitCryptoState.sealAll_concat]
    exact hafter
  · rcases List.mem_append.mp hq with hq | hq
    · exact hplains q hq
    · rw [List.mem_singleton.mp hq]
      exact hp

theorem Move.sealedFrom (hmove : s.Move P e s') (hfitting : s.Fitting)
    (h : s.SealedFrom P circuitId crypto) : s'.SealedFrom P circuitId crypto := by
  cases hmove with
  | @opens i connect msg phase' streams hphase hholder haway' hrole hfits =>
    -- opening a cell moves the forward half only
    exact ⟨h.circuit, h.seals, ⟨h.crypto.cipher, h.crypto.digest⟩, h.plains⟩
  | @seals i connect p next hphase hholder =>
    have hp : p.Sealable ∧ next.Fits := hfitting i _ hphase
    obtain ⟨hcircuit, hseals, hcrypto, hplains⟩ := h.seal (P := P) hp.1
    exact ⟨hcircuit, hseals, hcrypto, hplains⟩
  | @answers i connect p hphase hholder =>
    have hp : p.Sealable := hfitting i _ hphase
    obtain ⟨hcircuit, hseals, hcrypto, hplains⟩ := h.seal (P := P) hp
    exact ⟨hcircuit, hseals, hcrypto, hplains⟩
  | @writes i phase phase' cell hphase =>
    unfold put
    split
    · exact ⟨h.circuit, h.seals, h.crypto, h.plains⟩
    · exact ⟨h.circuit, h.seals, h.crypto, h.plains⟩
  | _ => exact ⟨h.circuit, h.seals, h.crypto, h.plains⟩

/-! ## Runs -/

/-- **The wire is what was sealed, in that order, and clients read it**: all of it, once nobody
holds a sealed cell, and while the connection works. -/
structure Ordered (P : Primitives) (crypto : ExitCryptoState) (s : ExitTasks) : Prop where
  wire : s.wire <+: s.seals
  drained : s.broken = false → s.unwritten = [] → s.wire = s.seals
  client : ∀ (c : Client.Circuit) (relays : List CipherPair), c.InStep relays crypto →
    c.readAll P (relayBackward P relays s.wire) = some (s.plains.take s.wire.length)

theorem Ordered.of (horder : s.InOrder) (h : s.SealedFrom P circuitId crypto) :
    s.Ordered P crypto := by
  refine ⟨horder.wire, fun hworks hnone => ?_, fun c relays hstep => ?_⟩
  · rw [horder.rest hworks, hnone, List.append_nil]
  · have htake : s.wire = (crypto.sealAll P circuitId (s.plains.take s.wire.length)).2 := by
      rw [ExitCryptoState.sealAll_take, ← h.seals]
      exact List.prefix_iff_eq_take.mp horder.wire
    have hread := @Client.Circuit.readAll_sealAll P circuitId c relays crypto hstep
      (s.plains.take s.wire.length) fun p hp => h.plains p (List.mem_of_mem_take hp)
    rwa [← htake] at hread

/-- What a run of orderly steps keeps. -/
structure Kept (P : Primitives) (circuitId : CircuitId) (crypto : ExitCryptoState)
    (s : ExitTasks) : Prop where
  locked : s.Locked
  fitting : s.Fitting
  inOrder : s.InOrder
  sealedFrom : s.SealedFrom P circuitId crypto

theorem Kept.step (h : s.Kept P circuitId crypto) (horderly : s.Orderly e) :
    (s.step P e).Kept P circuitId crypto := by
  have hmove := step_move (P := P) s e
  exact ⟨hmove.locked h.locked, hmove.fitting h.fitting horderly.1,
    hmove.inOrder h.locked h.fitting horderly h.inOrder, hmove.sealedFrom h.fitting h.sealedFrom⟩

theorem kept_start (circuitId : CircuitId) (crypto : ExitCryptoState)
    (streamIds : List StreamId) :
    (start circuitId crypto streamIds).Kept P circuitId crypto where
  locked := locked_start circuitId crypto streamIds
  fitting i phase hphase := by
    cases i with
    | zero =>
      cases hphase
      trivial
    | succ i =>
      obtain ⟨streamId, -, rfl⟩ := List.mem_map.mp (List.mem_of_getElem? hphase)
      trivial
  inOrder := by
    refine ⟨List.prefix_rfl, fun _ => ?_⟩
    have hnone : (streamIds.map Phase.selecting).filterMap Phase.held? = [] := by
      rw [List.filterMap_map]
      exact List.filterMap_eq_nil_iff.mpr fun _ _ => rfl
    show [] = [] ++ ([] ++ (Phase.reading :: streamIds.map Phase.selecting).filterMap Phase.held?)
    rw [List.filterMap_cons, hnone]
    rfl
  sealedFrom := ⟨rfl, rfl, ⟨rfl, rfl⟩, fun _ hp => nomatch hp⟩

/-- **Seal order is wire order** in every run in which no stream task writes while the loop has
a response to write, and no error text is too long for its END: for any number of streams and
any interleaving of the tasks. -/
theorem every_state_ordered {streamIds : List StreamId} {events : List ExitEvent}
    (h : EveryStep (step P) Orderly (start circuitId crypto streamIds) events) :
    EveryState (step P) (Ordered P crypto) (start circuitId crypto streamIds) events := by
  have hstep : ∀ (s : ExitTasks) (e : ExitEvent), s.Kept P circuitId crypto → s.Orderly e →
      (s.step P e).Kept P circuitId crypto := fun _ _ hkept horderly => hkept.step horderly
  have hgives : ∀ s : ExitTasks, s.Kept P circuitId crypto → s.Ordered P crypto :=
    fun _ hkept => .of hkept.inOrder hkept.sealedFrom
  exact h.everyState hstep hgives (kept_start circuitId crypto streamIds)

/-! ### An END for an unknown stream -/

/-- The exit's keys, with nothing sent yet. -/
def sampleCrypto : ExitCryptoState :=
  ⟨CipherPair.new ⟨List.Vector.replicate 16 5, List.Vector.replicate 16 6⟩, RunningDigest.new,
    RunningDigest.new⟩

/-- The client closes stream 2. -/
def sampleClose : Message :=
  { Message.new 1 2 .end [] with digest := (RunningDigest.new.update .sample 2 MessageCommand.end.toU8 []).2 }

/-- The loop reads it and seals the END it answers with. -/
def sealsResponse : List ExitEvent :=
  [.read sampleClose, .lock 0, .enter 0 fun _ => .ok (), .lock 0, .enter 0 fun _ => .ok ()]

/-- It writes the END. -/
def writesResponse : List ExitEvent := [.lock 0, .write 0, .unlock 0]

/-- The task of stream 1 seals and writes a cell of its destination's. -/
def writesData : List ExitEvent :=
  [.destination 1 (.ok [7]), .lock 1, .enter 1 fun _ => .ok (), .lock 1, .write 1]

theorem responseThenData_ordered :
    EveryState (step .sample) (Ordered .sample sampleCrypto) (start 1 sampleCrypto [1])
      (sealsResponse ++ writesResponse ++ writesData) := by
  have hkeeps : EveryStep (step .sample) (fun s e => s.overtakes e = false)
      (start 1 sampleCrypto [1]) (sealsResponse ++ writesResponse ++ writesData) := by
    decide +kernel
  have hfits : ∀ e ∈ sealsResponse ++ writesResponse ++ writesData, e.Fits := by
    simp [sealsResponse, writesResponse, writesData, ExitEvent.Fits]
  exact every_state_ordered (hkeeps.and_forall hfits)

theorem overtaken_end :
    let s := run (step .sample) (start 1 sampleCrypto [1]) (sealsResponse ++ writesData)
    s.wire.map Message.command = [.data] ∧ s.seals.map Message.command = [.end, .data] := by
  decide +kernel

/-- **A stream task's cell is on the wire before a response sealed earlier.** -/
theorem stream_overtakes_response :
    ¬EveryState (step .sample) (Ordered .sample sampleCrypto) (start 1 sampleCrypto [1])
      (sealsResponse ++ writesData) := by
  intro h
  obtain ⟨hwire, hseals⟩ := overtaken_end
  have horder := h.last.wire.map Message.command
  rw [hwire, hseals] at horder
  revert horder
  decide

end ExitTasks

end MiniTor
