import MiniTor.Circuit.Sync

/-!
# What a circuit in use does for its streams

`Session` is a circuit seen from its streams: the client's tasks and channels,
what was sealed and accepted at either end, and the exit's stream table. Keys,
ciphers, relays and cells in flight are gone. `Change` says what an event can do
to it.

- `Core.step_change`: while client and exit are in step, every event keeps them
  so and changes the session as `Change` says.
- `Core.run_session`: so an invariant of `Change` holds over whole runs.
-/

namespace MiniTor

open Theory Client

/-- A circuit in use, as its streams see it. -/
structure Session where
  tasks : List StreamTask
  senders : AList fun _ : StreamId => StreamSender
  nextStreamId : StreamId
  sent : List Plain
  opened : List Plain
  exitLog : List Effect
  streams : AList fun _ : StreamId => ExitStream

/-- What the streams see, under the exit handler `h`. -/
def System.session (s : System) (h : ExitCircuitHandler) : Session where
  tasks := s.tasks
  senders := s.client.streamSenders
  nextStreamId := s.client.nextStreamId
  sent := s.sent
  opened := s.opened
  exitLog := s.exitLog
  streams := h.streams

/-- Senders were removed or lost their receiver, and nothing else. -/
def Kept (senders senders' : AList fun _ : StreamId => StreamSender) : Prop :=
  ∀ streamId sender', senders'.lookup streamId = some sender' →
    ∃ sender, senders.lookup streamId = some sender ∧ sender'.channel = sender.channel ∧
      (sender'.receiverAlive = true → sender.receiverAlive = true)

theorem Kept.refl (senders : AList fun _ : StreamId => StreamSender) : Kept senders senders :=
  fun _ sender h => ⟨sender, h, rfl, id⟩

theorem Kept.trans {a b c : AList fun _ : StreamId => StreamSender} (hab : Kept a b)
    (hbc : Kept b c) : Kept a c := by
  intro streamId z hz
  obtain ⟨y, hy, hchannel, halive⟩ := hbc streamId z hz
  obtain ⟨x, hx, hchannel', halive'⟩ := hab streamId y hy
  exact ⟨x, hx, hchannel.trans hchannel', fun h => halive' (halive h)⟩

theorem Kept.erase (senders : AList fun _ : StreamId => StreamSender) (streamId : StreamId) :
    Kept senders (senders.erase streamId) := by
  intro sid sender h
  by_cases hsid : sid = streamId
  · subst hsid
    rw [AList.lookup_erase] at h
    cases h
  · rw [AList.lookup_erase_ne hsid] at h
    exact ⟨sender, h, rfl, id⟩

/-- What an event can do to a session. -/
inductive Session.Change (v : Session) : Event → Session → Prop
  | quiet (e : Event) : Change v e v
  | opened {destination : String} (nextStreamId : StreamId)
      (hallowed : (Event.openStream destination).Allowed) :
      Change v (.openStream destination)
        { v with
          tasks := v.tasks ++ [StreamTask.new v.nextStreamId destination v.opened.length]
          senders := v.senders.insert v.nextStreamId ⟨v.tasks.length, true⟩
          nextStreamId }
  | sent {e : Event} {i : Nat} {t t' : StreamTask} {command : MessageCommand} {data : Bytes}
      (htask : v.tasks[i]? = some t) (hsends : t.Sends command data t') :
      Change v e
        { v with
          tasks := v.tasks.modify i fun _ => t'
          sent := v.sent ++ [⟨t.streamId, command, data⟩] }
  | moved {e : Event} {i : Nat} {f : StreamTask → StreamTask}
      {senders : AList fun _ : StreamId => StreamSender}
      (hf : ∀ t ∈ v.tasks[i]?, t.Goes (f t)) (hkept : Kept v.senders senders) :
      Change v e { v with tasks := v.tasks.modify i f, senders }
  | read {e : Event} (m : Message) :
      Change v e
        { v with
          tasks := deliverTo v.tasks (delivery v.senders m)
          opened := v.opened ++ [m.plain] }
  | served {e : Event} {P : Primitives} {circuitId : CircuitId} {h h' : ExitCircuitHandler}
      {state : ExitCryptoState} {padding : Nat → UInt8} {connect : String → Except IoError Unit}
      {p : Plain} {done : List Effect}
      (hserves : h.Serves P state circuitId padding connect p h' done)
      (hstreams : h.streams = v.streams) :
      Change v e { v with exitLog := v.exitLog ++ done, streams := h'.streams }
  | sealed {e : Event} (p : Plain) (cell : Bytes) :
      Change v e
        { v with exitLog := v.exitLog ++ [.seal p.streamId p.command p.data, .toPrevHop cell] }
  | streamEnded {e : Event} (streamId : StreamId) :
      Change v e
        { v with streams := v.streams.modify streamId fun x => { x with receiverAlive := false } }

/-! ## Every task's cells fit -/

/-- The tasks are such that every cell they send fits. -/
def Session.TasksOk (v : Session) : Prop := ∀ t ∈ v.tasks, t.Ok

namespace Client.StreamTask.Ok

variable {t : StreamTask}

theorem new {destination : String} (h : (Event.openStream destination).Allowed)
    (streamId : StreamId) (since : Nat) : (StreamTask.new streamId destination since).Ok :=
  ⟨h.1, h.2, fun _ hchunk => nomatch hchunk⟩

theorem deliver (h : t.Ok) (m : Message) : (t.deliver m).Ok :=
  ⟨h.destination, h.length, h.pending⟩

/-- What a task sends can be sealed. -/
theorem sendable (h : t.Ok) {t' : StreamTask} {command : MessageCommand} {data : Bytes}
    (hsends : t.Sends command data t') : Plain.Sendable ⟨t.streamId, command, data⟩ := by
  cases hsends with
  | begin hphase =>
    obtain ⟨hfits, hutf8, -⟩ := h.beginPayload
    exact ⟨hfits, .inl rfl, fun _ => by rw [hutf8]; rfl⟩
  | @data chunk chunks hphase =>
    have hchunk : data ∈ t.pending := by
      rw [StreamTask.pending, hphase]
      exact List.mem_cons_self
    exact ⟨h.pending data hchunk, .inr (.inl rfl), fun hc => by cases hc⟩
  | «end» hphase => exact ⟨Nat.zero_le _, .inr (.inr rfl), fun hc => by cases hc⟩

end Client.StreamTask.Ok

/-- Only the element at the index counts. -/
theorem modify_const {α : Type} {l : List α} {i : Nat} {f : α → α} {a : α} (h : l[i]? = some a) :
    l.modify i f = l.modify i fun _ => f a := by
  apply List.ext_getElem?
  intro j
  by_cases hij : i = j
  · subst hij
    rw [List.getElem?_modify_eq, List.getElem?_modify_eq, h]
    rfl
  · rw [List.getElem?_modify_ne _ _ hij, List.getElem?_modify_ne _ _ hij]

/-- Where an element is after one was modified. -/
theorem getElem?_modify_some {α : Type} {l : List α} {i j : Nat} {f : α → α} {a : α}
    (h : l[j]? = some a) :
    ∃ b, (l.modify i f)[j]? = some b ∧ (b = a ∨ i = j ∧ b = f a) := by
  by_cases hij : i = j
  · subst hij
    rw [List.getElem?_modify_eq, h]
    exact ⟨f a, rfl, .inr ⟨rfl, rfl⟩⟩
  · rw [List.getElem?_modify_ne _ _ hij]
    exact ⟨a, h, .inl rfl⟩

/-- Where an element of a modified list comes from. -/
theorem getElem?_of_modify {α : Type} {l : List α} {i j : Nat} {f : α → α} {b : α}
    (h : (l.modify i f)[j]? = some b) :
    ∃ a, l[j]? = some a ∧ (i = j ∧ b = f a ∨ i ≠ j ∧ b = a) := by
  by_cases hij : i = j
  · subst hij
    rw [List.getElem?_modify_eq] at h
    obtain ⟨a, ha, rfl⟩ := Option.map_eq_some_iff.mp h
    exact ⟨a, ha, .inl ⟨rfl, rfl⟩⟩
  · rw [List.getElem?_modify_ne _ _ hij] at h
    exact ⟨b, h, .inr ⟨hij, rfl⟩⟩

namespace Session.Change

variable {v v' : Session} {e : Event}

theorem tasksOk (hchange : v.Change e v') (hok : v.TasksOk) : v'.TasksOk := by
  have hmodify : ∀ (i : Nat) (f : StreamTask → StreamTask),
      (∀ t, v.tasks[i]? = some t → t.Ok → (f t).Ok) → ∀ t ∈ v.tasks.modify i f, t.Ok := by
    intro i f hf t ht
    obtain ⟨j, hj⟩ := List.mem_iff_getElem?.mp ht
    obtain ⟨u, hu, ⟨rfl, rfl⟩ | ⟨-, rfl⟩⟩ := getElem?_of_modify hj
    · exact hf u hu (hok u (List.mem_of_getElem? hu))
    · exact hok t (List.mem_of_getElem? hu)
  cases hchange with
  | quiet => exact hok
  | opened nextStreamId hallowed =>
    intro t ht
    rcases List.mem_append.mp ht with hold | hnew
    · exact hok t hold
    · rw [List.mem_singleton.mp hnew]
      exact .new hallowed _ _
  | sent htask hsends =>
    exact hmodify _ _ fun u hu ht => by
      cases htask.symm.trans hu
      exact ht.sends hsends
  | moved hf hkept => exact hmodify _ _ fun t htask ht => ht.goes (hf t htask)
  | read m =>
    show ∀ t ∈ deliverTo v.tasks (delivery v.senders m), t.Ok
    cases delivery v.senders m with
    | none => exact hok
    | some d => exact hmodify _ _ fun t _ ht => ht.deliver _
  | served hserves hstreams => exact hok
  | sealed p cell => exact hok
  | streamEnded streamId => exact hok

end Session.Change

/-! ## Every event is a change -/

namespace System

variable {P : Primitives} {A : AddrSyntax} {circuitId : CircuitId} {s : System}
  {h : ExitCircuitHandler} {state : ExitCryptoState}

/-- A task that is updated keeps the senders, or drops its own receiver. -/
theorem session_updateTask (s : System) (h : ExitCircuitHandler) (i : Nat)
    (f : StreamTask → StreamTask) : ∃ senders, Kept s.client.streamSenders senders ∧
      (s.updateTask i f).session h =
        { s.session h with tasks := s.tasks.modify i f, senders } := by
  rw [System.updateTask]
  dsimp only
  cases (s.tasks.modify i f)[i]? with
  | none => exact ⟨_, .refl _, rfl⟩
  | some t =>
    dsimp only
    by_cases hclosed : t.phase = .closed
    · rw [if_pos hclosed]
      refine ⟨_, ?_, rfl⟩
      intro streamId sender' hlookup
      rw [dropReceiver, AList.lookup_modify] at hlookup
      by_cases hsid : streamId = t.streamId
      · rw [if_pos hsid] at hlookup
        obtain ⟨sender, hsender, rfl⟩ := Option.map_eq_some_iff.mp hlookup
        by_cases hchannel : sender.channel = i
        · rw [if_pos hchannel]
          exact ⟨sender, hsender, rfl, fun halive => by cases halive⟩
        · rw [if_neg hchannel]
          exact ⟨sender, hsender, rfl, id⟩
      · rw [if_neg hsid] at hlookup
        exact ⟨sender', hlookup, rfl, id⟩
    · rw [if_neg hclosed]
      exact ⟨_, .refl _, rfl⟩

/-- A task that goes on without sending. -/
theorem updateTask_change (s : System) (h : ExitCircuitHandler) {e : Event} {i : Nat}
    {f : StreamTask → StreamTask} (hf : ∀ t ∈ s.tasks[i]?, t.Goes (f t)) :
    (s.session h).Change e ((s.updateTask i f).session h) := by
  obtain ⟨senders, hkept, hsession⟩ := s.session_updateTask h i f
  rw [hsession]
  exact .moved hf hkept

namespace Core

/-- **A task sends its next cell.** -/
theorem sendNext (hs : s.Core P circuitId h state) (hok : (s.session h).TasksOk) {e : Event}
    (i : Nat) : (s.sendNext P i).Core P circuitId h state ∧
      (s.session h).Change e ((s.sendNext P i).session h) := by
  rw [System.sendNext]
  cases htask : s.tasks[i]? with
  | none => exact ⟨hs, .quiet e⟩
  | some t =>
    dsimp only
    cases hnext : t.nextSend with
    | none => exact ⟨hs, .quiet e⟩
    | some cell =>
      obtain ⟨command, data⟩ := cell
      have hsends := StreamTask.sends_of_nextSend hnext
      have htaskOk : t.Ok := hok t (List.mem_of_getElem? htask)
      obtain ⟨s', hsend, hcore, hsent, htasks, hopened, hlog, hsenders, hids⟩ :=
        hs.send (htaskOk.sendable hsends)
      dsimp only at hsend ⊢
      rw [hsend]
      dsimp only
      refine ⟨hcore.updateTask i _, ?_⟩
      -- the task runs on, so its receiver stays
      have hupdate : s'.updateTask i (fun t => t.afterSend true) =
          { s' with tasks := s.tasks.modify i fun _ => t.afterSend true } := by
        have hmodify : (s.tasks.modify i fun t => t.afterSend true) =
            s.tasks.modify i fun _ => t.afterSend true := modify_const htask
        have hnew : (s.tasks.modify i fun _ => t.afterSend true)[i]? =
            some (t.afterSend true) := by
          rw [List.getElem?_modify_eq, htask]
          rfl
        rw [System.updateTask, htasks, hmodify]
        dsimp only
        rw [hnew]
        exact if_neg hsends.phase_ne_closed
      have hsession : (s'.updateTask i fun t => t.afterSend true).session h =
          { s.session h with
            tasks := s.tasks.modify i fun _ => t.afterSend true
            sent := s.sent ++ [⟨t.streamId, command, data⟩] } := by
        rw [hupdate, System.session, System.session]
        simp only [hsenders, hids, hsent, hopened, hlog]
      rw [hsession]
      exact .sent htask hsends

/-- A stream is unregistered. -/
theorem unregister (hs : s.Core P circuitId h state) {e : Event} (i : Nat) :
    (s.unregister i).Core P circuitId h state ∧
      (s.session h).Change e ((s.unregister i).session h) := by
  rw [System.unregister]
  cases htask : s.tasks[i]? with
  | none => exact ⟨hs, .quiet e⟩
  | some t =>
    dsimp only
    by_cases hphase : t.phase = .unregistering
    · rw [if_pos hphase]
      have hcore : ({ s with client := s.client.unregisterStream t.streamId } : System).Core P
          circuitId h state :=
        ⟨hs.hops, hs.exit, hs.circuit, hs.reading, hs.clientIn, hs.begins, hs.forward, hs.backward⟩
      refine ⟨hcore.updateTask i _, ?_⟩
      obtain ⟨senders, hkept, hsession⟩ := session_updateTask
        { s with client := s.client.unregisterStream t.streamId } h i
        fun t => { t with phase := .closed }
      rw [hsession]
      refine .moved (v := s.session h) ?_ ((Kept.erase s.client.streamSenders t.streamId).trans hkept)
      intro u hu
      have hsame : t = u := Option.some.inj (htask.symm.trans hu)
      subst hsame
      exact t.closed_goes hphase
    · rw [if_neg hphase]
      exact ⟨hs, .quiet e⟩

/-- A keepalive is none of the streams' business. -/
theorem session_keepalive (s : System) (h : ExitCircuitHandler) (data : Bytes) :
    (s.keepalive data).session h = s.session h := by
  rw [System.keepalive]
  by_cases hready : s.client.state = .ready
  · rw [if_pos hready]
    cases s.client.sendPadding (.working s.padding) data with
    | ok cell => rfl
    | error e => rfl
  · rw [if_neg hready]

/-- What a turn of the exit changes. -/
theorem session_afterExit (s : System) (h h' : ExitCircuitHandler) (a : Acted) :
    (s.afterExit a).session h' =
      { s.session h with exitLog := (s.afterExit a).exitLog, streams := h'.streams } := rfl

/-- **Every event is a change**, and leaves client and exit in step. -/
theorem step_change (hs : s.Core P circuitId h state) (hok : (s.session h).TasksOk) {e : Event}
    (he : e.Allowed) : ∃ h' state', (s.step P A circuitId e).Core P circuitId h' state' ∧
      (s.session h).Change e ((s.step P A circuitId e).session h') := by
  cases e with
  | openStream destination =>
    refine ⟨h, state, ?_, .opened _ he⟩
    exact ⟨hs.hops, hs.exit, hs.circuit, hs.reading, hs.clientIn, hs.begins, hs.forward,
      hs.backward⟩
  | send i => exact ⟨h, state, hs.sendNext hok i⟩
  | receive i => exact ⟨h, state, hs.updateTask i _, s.updateTask_change h fun t _ => t.receive_goes _⟩
  | receiveUnwritten i =>
    exact ⟨h, state, hs.updateTask i _, s.updateTask_change h fun t _ => t.receiveUnwritten_goes⟩
  | reply i sent => exact ⟨h, state, hs.updateTask i _, s.updateTask_change h fun t _ => t.reply_goes _⟩
  | giveUp i => exact ⟨h, state, hs.updateTask i _, s.updateTask_change h fun t _ => t.giveUp_goes⟩
  | socksRead i data =>
    exact ⟨h, state, hs.updateTask i _, s.updateTask_change h fun t _ => t.socksRead_goes _⟩
  | unregister i => exact ⟨h, state, hs.unregister i⟩
  | keepalive data =>
    refine ⟨h, state, hs.keepalive he, ?_⟩
    show (s.session h).Change _ ((s.keepalive data).session h)
    rw [session_keepalive]
    exact .quiet _
  | clientRead =>
    obtain ⟨hcore, hread⟩ := hs.clientRead
    refine ⟨h, state, hcore, ?_⟩
    show (s.session h).Change _ ((s.clientRead P).session h)
    rcases hread with hsame | ⟨m, hread⟩
    · rw [hsame]
      exact .quiet _
    · rw [hread]
      exact .read m
  | hopServe i => exact ⟨h, state, hs.hopServe i, .quiet _⟩
  | hopRead i => exact ⟨h, state, hs.hopRead i, .quiet _⟩
  | exitServe connect =>
    obtain ⟨h', state', hcore, hserve⟩ := hs.exitServe (A := A) he
    refine ⟨h', state', hcore, ?_⟩
    show (s.session h).Change _ ((s.afterExit (s.exit.serve P A connect)).session h')
    rw [session_afterExit s h]
    rcases hserve with ⟨rfl, hlog⟩ | ⟨opened, p, done, hserves, hlog⟩
    · rw [hlog]
      exact .quiet _
    · rw [hlog]
      exact .served hserves rfl
  | exitStream p =>
    obtain ⟨h', state', hcore, hstreams, cell, hlog⟩ := hs.exitStream he
    refine ⟨h', state', hcore, ?_⟩
    show (s.session h).Change _ ((s.afterExit (s.exit.streamSend P circuitId p)).session h')
    rw [session_afterExit s h, hlog, hstreams]
    exact .sealed p cell
  | exitStreamEnded streamId =>
    exact ⟨h.streamEnded streamId, state, hs.exitStreamEnded streamId, .streamEnded streamId⟩

/-- **An invariant of the changes holds over whole runs.** `allowed` is what else is assumed
of every step. -/
theorem run_session {allowed : Session → Event → Prop} {inv : Session → Prop}
    (hinv : ∀ v e v', inv v → v.TasksOk → allowed v e → v.Change e v' →
      acceptsOf v'.exitLog <+: v'.sent → inv v')
    (hs : s.Core P circuitId h state) (hok : (s.session h).TasksOk) (h0 : inv (s.session h))
    {es : List Event}
    (hrun : EveryStep (System.step P A circuitId)
      (fun s e => e.Allowed ∧ ∀ h, allowed (s.session h) e) s es) :
    ∃ h' state', (run (System.step P A circuitId) s es).Core P circuitId h' state' ∧
      inv ((run (System.step P A circuitId) s es).session h') := by
  have hlast := @EveryStep.invariant _ _ (System.step P A circuitId) _
    (fun s => ∃ h state, s.Core P circuitId h state ∧ (s.session h).TasksOk ∧ inv (s.session h))
    ?_ s es ⟨h, state, hs, hok, h0⟩ hrun
  · obtain ⟨h', state', hcore, -, hinv'⟩ := hlast
    exact ⟨h', state', hcore, hinv'⟩
  · rintro s e ⟨h, state, hs, hok, h0⟩ ⟨he, hallowed⟩
    obtain ⟨h', state', hcore, hchange⟩ := hs.step_change (A := A) hok he
    exact ⟨h', state', hcore, hchange.tasksOk hok,
      hinv _ e _ h0 hok (hallowed h) hchange hcore.forward.received_prefix⟩

end Core

end System

end MiniTor
