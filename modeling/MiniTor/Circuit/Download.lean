import MiniTor.Circuit.Forward

/-!
# What the SOCKS client is given

The backward direction up to the application: a stream's task takes the cells out of its
channel one by one, waits for CONNECTED first, writes the payload of each DATA cell to the
SOCKS client, and stops at END, or when a payload cannot be written.

- `StreamTask.Consumed`: what a task has written, in terms of the cells it has taken.
- `StreamTask.Moves`: what can become of a task in one event (`System.tasks_step`); every
  move keeps `Consumed`.
- `Session.Given`: what every task was ever given, also once its stream is gone.
- `socks_download`: so the SOCKS client is written what the exit sealed for its stream, from
  CONNECTED on and up to END, and all of it as long as the client can be written to.
-/

namespace MiniTor

open Theory Client

/-- What a stream's cells hold for its SOCKS client: those after the first, up to END. -/
def bodyOf (cells : List Plain) : List Plain :=
  cells.tail.takeWhile fun p => p.command ≠ .end

theorem bodyOf_mono {cells cells' : List Plain} (h : cells <+: cells') :
    bodyOf cells <+: bodyOf cells' := by
  obtain ⟨rest, rfl⟩ := h
  cases cells with
  | nil => exact List.nil_prefix
  | cons p cells =>
    show cells.takeWhile _ <+: (cells ++ rest).takeWhile _
    rw [List.takeWhile_append]
    split
    · exact (List.takeWhile_prefix _).trans (List.prefix_append _ _)
    · exact List.prefix_rfl

/-- One more cell, when there was no END yet. -/
theorem bodyOf_concat {first p : Plain} {rest : List Plain} (hrest : ∀ q ∈ rest, q.command ≠ .end) :
    bodyOf (first :: rest ++ [p]) = rest ++ if p.command = .end then [] else [p] := by
  show (rest ++ [p]).takeWhile _ = _
  rw [List.takeWhile_append_of_pos fun q hq => decide_eq_true (hrest q hq)]
  by_cases hend : p.command = .end
  · simp [hend]
  · simp [hend]

/-! ## One task -/

namespace Client.StreamTask

/-- CONNECTED has not come. -/
def Before (t : StreamTask) : Prop := t.phase = .opening ∨ t.phase = .waiting

/-- CONNECTED has come, and the stream has not ended. -/
def Open (t : StreamTask) : Prop := t.phase = .replying ∨ ∃ chunks, t.phase = .relaying chunks

/-- The task has taken these cells out of its channel and written what they hold, but for the
payloads lost. -/
structure Consumed (t : StreamTask) (consumed : List Message) (lost : List Bytes) : Prop where
  delivered : t.delivered = consumed ++ t.channel
  written : t.written ++ lost = dataOf (bodyOf (consumed.map Message.plain))
  before : t.Before → consumed = []
  running : t.Open → lost = [] ∧ ∃ first rest, consumed = first :: rest ∧
    first.command = .connected ∧ ∀ m ∈ rest, m.command ≠ .end
  connected : t.written ≠ [] → ∃ m ∈ consumed.head?, m.command = .connected

/-- What can become of the `i`-th task in an event. -/
inductive Moves (i : Nat) (t : StreamTask) : Event → StreamTask → Prop
  | afterSend (sent : Bool) : Moves i t (.send i) (t.afterSend sent)
  | receive (registered : Bool) : Moves i t (.receive i) (t.receive registered)
  | receiveUnwritten : Moves i t (.receiveUnwritten i) t.receiveUnwritten
  | reply (sent : Bool) : Moves i t (.reply i sent) (t.reply sent)
  | giveUp : Moves i t (.giveUp i) t.giveUp
  | socksRead (data : Bytes) : Moves i t (.socksRead i data) (t.socksRead data)
  | unregistered (hphase : t.phase = .unregistering) :
      Moves i t (.unregister i) { t with phase := .closed }
  | deliver (m : Message) : Moves i t .clientRead (t.deliver m)

theorem consumed_new (streamId : StreamId) (destination : String) (since : Nat) :
    (StreamTask.new streamId destination since).Consumed [] [] where
  delivered := rfl
  written := rfl
  before _ := rfl
  running hopen := by
    rcases hopen with h | ⟨chunks, h⟩ <;> cases h
  connected hwritten := absurd rfl hwritten

variable {t t' : StreamTask} {consumed : List Message} {lost : List Bytes}

/-- A move that takes nothing out of the channel and does not reopen the stream. -/
theorem Consumed.of_phase (h : t.Consumed consumed lost)
    (hsame : (t'.delivered, t'.channel, t'.written) = (t.delivered, t.channel, t.written))
    (hbefore : t'.Before → t.Before) (hopen : t'.Open → t.Open) : t'.Consumed consumed lost := by
  obtain ⟨hdelivered, hchannel, hwritten⟩ : t'.delivered = t.delivered ∧ t'.channel = t.channel ∧
      t'.written = t.written := by
    simpa only [Prod.mk.injEq] using hsame
  refine ⟨?_, ?_, fun hb => h.before (hbefore hb), fun ho => h.running (hopen ho), fun hw => ?_⟩
  · rw [hdelivered, hchannel]
    exact h.delivered
  · rw [hwritten]
    exact h.written
  · rw [hwritten] at hw
    exact h.connected hw

theorem Consumed.afterSend (h : t.Consumed consumed lost) (sent : Bool) :
    (t.afterSend sent).Consumed consumed lost := by
  obtain ⟨streamId, destination, phase, channel, read, written, delivered, since⟩ := t
  cases phase with
  | opening =>
    refine h.of_phase rfl (fun _ => .inl rfl) fun hopen => ?_
    cases sent <;> simp [StreamTask.afterSend, Open] at hopen
  | relaying chunks =>
    cases chunks with
    | nil => exact h
    | cons chunk chunks =>
      refine h.of_phase rfl (fun hbefore => ?_) fun _ => .inr ⟨_, rfl⟩
      cases sent <;> simp [StreamTask.afterSend, Before] at hbefore
  | closing =>
    refine h.of_phase rfl (fun hbefore => ?_) fun hopen => ?_
    · simp [StreamTask.afterSend, Before] at hbefore
    · simp [StreamTask.afterSend, Open] at hopen
  | waiting => exact h
  | replying => exact h
  | unregistering => exact h
  | closed => exact h

theorem Consumed.reply (h : t.Consumed consumed lost) (sent : Bool) :
    (t.reply sent).Consumed consumed lost := by
  obtain ⟨streamId, destination, phase, channel, read, written, delivered, since⟩ := t
  cases phase with
  | replying =>
    refine h.of_phase rfl (fun hbefore => ?_) fun _ => .inl rfl
    cases sent <;> simp [StreamTask.reply, Before] at hbefore
  | opening => exact h
  | waiting => exact h
  | relaying chunks => exact h
  | closing => exact h
  | unregistering => exact h
  | closed => exact h

/-- Giving up closes the stream, or nothing happens. -/
theorem Consumed.closing (h : t.Consumed consumed lost) :
    Consumed { t with phase := .closing } consumed lost :=
  h.of_phase rfl (fun hbefore => by rcases hbefore with h | h <;> cases h)
    fun hopen => by rcases hopen with h | ⟨chunks, h⟩ <;> cases h

theorem Consumed.giveUp (h : t.Consumed consumed lost) : t.giveUp.Consumed consumed lost := by
  obtain ⟨streamId, destination, phase, channel, read, written, delivered, since⟩ := t
  cases phase with
  | waiting => exact h.closing
  | relaying chunks =>
    cases chunks with
    | nil => exact h.closing
    | cons chunk chunks => exact h
  | opening => exact h
  | replying => exact h
  | closing => exact h
  | unregistering => exact h
  | closed => exact h

theorem Consumed.socksRead (h : t.Consumed consumed lost) (data : Bytes) :
    (t.socksRead data).Consumed consumed lost := by
  obtain ⟨streamId, destination, phase, channel, read, written, delivered, since⟩ := t
  cases phase with
  | relaying pending =>
    cases pending with
    | cons chunk pending => exact h
    | nil =>
      by_cases hnil : data = []
      · simp only [StreamTask.socksRead, if_pos hnil]
        exact h.closing
      · simp only [StreamTask.socksRead, if_neg hnil]
        refine h.of_phase rfl (fun hbefore => ?_) fun _ => .inr ⟨[], rfl⟩
        simp [Before] at hbefore
  | opening => exact h
  | waiting => exact h
  | replying => exact h
  | closing => exact h
  | unregistering => exact h
  | closed => exact h

theorem Consumed.deliver (h : t.Consumed consumed lost) (m : Message) :
    (t.deliver m).Consumed consumed lost where
  delivered := by
    show t.delivered ++ [m] = consumed ++ (t.channel ++ [m])
    rw [h.delivered, List.append_assoc]
  written := h.written
  before := h.before
  running := h.running
  connected := h.connected

/-- A cell taken while the stream is open, and written or lost. -/
theorem Consumed.take {m : Message} {rest : List Message} (h : t.Consumed consumed lost)
    (phase : StreamPhase) (hopen : t.Open) (hchannel : t.channel = m :: rest)
    {written' lost' : List Bytes}
    (htaken : written' ++ lost' = t.written ++ if m.command = .data then [m.data] else [])
    (hphase : ∀ chunks, phase = .relaying chunks → lost' = [] ∧ m.command ≠ .end)
    (hclosed : phase = .closing ∨ ∃ chunks, phase = .relaying chunks) :
    Consumed { t with channel := rest, phase, written := written' } (consumed ++ [m]) lost' := by
  obtain ⟨rfl, first, taken, rfl, hfirst, hrest⟩ := h.running hopen
  have hplain : ∀ p ∈ taken.map Message.plain, p.command ≠ .end := by
    intro p hp
    obtain ⟨m', hm', rfl⟩ := List.mem_map.mp hp
    exact hrest m' hm'
  have hbody : bodyOf ((first :: taken ++ [m]).map Message.plain) =
      taken.map Message.plain ++ if m.command = .end then [] else [m.plain] := by
    rw [List.map_append, List.map_cons]
    exact bodyOf_concat hplain
  have hold : bodyOf ((first :: taken).map Message.plain) = taken.map Message.plain :=
    List.takeWhile_eq_self_iff.mpr fun p hp => decide_eq_true (hplain p hp)
  have hdata : dataOf (if m.command = .end then [] else [m.plain]) =
      if m.command = .data then [m.data] else [] := by
    by_cases hend : m.command = .end
    · rw [if_pos hend, hend]
      rfl
    · rw [if_neg hend]
      by_cases hd : m.command = .data
      · rw [if_pos hd]
        exact dataOf_data (p := m.plain) hd
      · rw [if_neg hd]
        exact dataOf_other (p := m.plain) hd
  have hwritten : t.written = dataOf (taken.map Message.plain) := by
    rw [← hold, ← h.written, List.append_nil]
  refine ⟨?_, ?_, ?_, ?_, fun _ => ⟨first, rfl, hfirst⟩⟩
  · show t.delivered = (first :: taken) ++ [m] ++ rest
    rw [h.delivered, hchannel, List.append_assoc]
    rfl
  · show written' ++ lost' = _
    rw [hbody, dataOf_append, hdata, htaken, hwritten]
  · rintro (hb | hb)
    · rcases hclosed with rfl | ⟨chunks, rfl⟩ <;> cases hb
    · rcases hclosed with rfl | ⟨chunks, rfl⟩ <;> cases hb
  · rintro (ho | ⟨chunks, ho⟩)
    · rcases hclosed with rfl | ⟨chunks, rfl⟩ <;> cases ho
    · obtain ⟨hnone, hnotEnd⟩ := hphase chunks ho
      refine ⟨hnone, first, taken ++ [m], rfl, hfirst, fun m' hm' => ?_⟩
      rcases List.mem_append.mp hm' with hm' | hm'
      · exact hrest m' hm'
      · rw [List.mem_singleton.mp hm']
        exact hnotEnd

theorem Consumed.receive (h : t.Consumed consumed lost) (registered : Bool) :
    ∃ consumed', (t.receive registered).Consumed consumed' lost := by
  obtain ⟨streamId, destination, phase, channel, read, written, delivered, since⟩ := t
  cases phase with
  | waiting =>
    cases channel with
    | nil =>
      cases registered with
      | true => exact ⟨consumed, h⟩
      | false => exact ⟨consumed, h.closing⟩
    | cons m rest =>
      -- the first cell: CONNECTED, or the stream is given up
      obtain rfl := h.before (.inr rfl)
      obtain ⟨hwritten, hlost⟩ : written = [] ∧ lost = [] := List.append_eq_nil_iff.mp h.written
      subst hwritten hlost
      refine ⟨[m], ⟨h.delivered, rfl, ?_, ?_, fun hne => absurd rfl hne⟩⟩
      · rintro (hb | hb)
        · by_cases hconnected : m.command = .connected <;>
            simp [StreamTask.receive, hconnected] at hb
        · by_cases hconnected : m.command = .connected <;>
            simp [StreamTask.receive, hconnected] at hb
      · intro hopen
        refine ⟨rfl, m, [], rfl, ?_, fun _ hm => absurd hm List.not_mem_nil⟩
        by_contra hconnected
        simp [StreamTask.receive, hconnected, Open] at hopen
  | relaying chunks =>
    cases chunks with
    | cons chunk chunks => exact ⟨consumed, h⟩
    | nil =>
      cases channel with
      | nil =>
        cases registered with
        | true => exact ⟨consumed, h⟩
        | false => exact ⟨consumed, h.closing⟩
      | cons m rest =>
        have hopen : (StreamTask.mk streamId destination (.relaying []) (m :: rest) read written
          delivered since).Open := .inr ⟨[], rfl⟩
        obtain rfl := (h.running hopen).1
        by_cases hdata : m.command = .data
        · simp only [StreamTask.receive, if_pos hdata]
          exact ⟨_, h.take (.relaying []) hopen rfl (by rw [if_pos hdata, List.append_nil])
            (fun _ _ => ⟨rfl, by rw [hdata]; decide⟩) (.inr ⟨[], rfl⟩)⟩
        · by_cases hend : m.command = .end
          · simp only [StreamTask.receive, if_neg hdata, if_pos hend]
            exact ⟨_, h.take .closing hopen rfl (by rw [if_neg hdata])
              (fun _ hphase => by cases hphase) (.inl rfl)⟩
          · simp only [StreamTask.receive, if_neg hdata, if_neg hend]
            exact ⟨_, h.take (.relaying []) hopen rfl (by rw [if_neg hdata])
              (fun _ _ => ⟨rfl, hend⟩) (.inr ⟨[], rfl⟩)⟩
  | opening => exact ⟨consumed, h⟩
  | replying => exact ⟨consumed, h⟩
  | closing => exact ⟨consumed, h⟩
  | unregistering => exact ⟨consumed, h⟩
  | closed => exact ⟨consumed, h⟩

/-- What cannot be written is lost, and the stream is closed. -/
theorem Consumed.receiveUnwritten (h : t.Consumed consumed lost) :
    ∃ consumed' lost', t.receiveUnwritten.Consumed consumed' lost' := by
  unfold StreamTask.receiveUnwritten
  split
  · rename_i m rest hphase hchannel
    have hopen : t.Open := .inr ⟨[], hphase⟩
    by_cases hdata : m.command = .data
    · rw [if_pos hdata]
      exact ⟨_, [m.data], h.take .closing hopen hchannel (by rw [if_pos hdata])
        (fun _ hclosing => by cases hclosing) (.inl rfl)⟩
    · rw [if_neg hdata]
      exact ⟨consumed, lost, h⟩
  · exact ⟨consumed, lost, h⟩

/-- **Every move accounts for what is written**, and only a write that fails loses anything. -/
theorem Consumed.moves (h : t.Consumed consumed lost) {i : Nat} {e : Event}
    (hmoves : t.Moves i e t') :
    ∃ consumed' lost', t'.Consumed consumed' lost' ∧ (lost' = lost ∨ e = .receiveUnwritten i) := by
  cases hmoves with
  | afterSend sent => exact ⟨consumed, lost, h.afterSend sent, .inl rfl⟩
  | receive registered =>
    obtain ⟨consumed', hconsumed⟩ := h.receive registered
    exact ⟨consumed', lost, hconsumed, .inl rfl⟩
  | receiveUnwritten =>
    obtain ⟨consumed', lost', hconsumed⟩ := h.receiveUnwritten
    exact ⟨consumed', lost', hconsumed, .inr rfl⟩
  | reply sent => exact ⟨consumed, lost, h.reply sent, .inl rfl⟩
  | giveUp => exact ⟨consumed, lost, h.giveUp, .inl rfl⟩
  | socksRead data => exact ⟨consumed, lost, h.socksRead data, .inl rfl⟩
  | unregistered hphase =>
    refine ⟨consumed, lost, h.of_phase rfl (fun hb => ?_) fun ho => ?_, .inl rfl⟩
    · rcases hb with hb | hb <;> cases hb
    · rcases ho with ho | ⟨chunks, ho⟩ <;> cases ho
  | deliver m => exact ⟨consumed, lost, h.deliver m, .inl rfl⟩

end Client.StreamTask

/-! ## All tasks -/

namespace System

variable {P : Primitives} {A : AddrSyntax} {circuitId : CircuitId}

@[simp] theorem tasks_updateTask (s : System) (i : Nat) (f : StreamTask → StreamTask) :
    (s.updateTask i f).tasks = s.tasks.modify i f := by
  rw [updateTask]
  dsimp only
  cases (s.tasks.modify i f)[i]? with
  | none => rfl
  | some t =>
    dsimp only
    by_cases hclosed : t.phase = .closed
    · rw [if_pos hclosed]
      rfl
    · rw [if_neg hclosed]

theorem tasks_sendMessage (s : System) (streamId : StreamId) (command : MessageCommand)
    (data : Bytes) : (s.sendMessage P streamId command data).1.tasks = s.tasks := by
  rw [sendMessage]
  cases s.client.sendMessage P (.working s.padding) streamId command data with
  | mk client result =>
    cases result with
    | ok cell => rfl
    | error e => rfl

/-- **A task moves, or is new**: nothing else becomes of it in an event. -/
theorem task_step (s : System) (e : Event) {i : Nat} {t' : StreamTask}
    (ht' : (s.step P A circuitId e).tasks[i]? = some t') :
    s.tasks[i]? = some t' ∨ (∃ t, s.tasks[i]? = some t ∧ t.Moves i e t') ∨
      i = s.tasks.length ∧ ∃ destination, e = .openStream destination ∧
        t' = StreamTask.new s.client.nextStreamId destination s.opened.length := by
  have hmove : ∀ {tasks : List StreamTask} {j : Nat} {f : StreamTask → StreamTask},
      tasks = s.tasks → (∀ t, s.tasks[j]? = some t → t.Moves j e (f t)) →
      (tasks.modify j f)[i]? = some t' →
      s.tasks[i]? = some t' ∨ (∃ t, s.tasks[i]? = some t ∧ t.Moves i e t') ∨
        i = s.tasks.length ∧ ∃ destination, e = .openStream destination ∧
          t' = StreamTask.new s.client.nextStreamId destination s.opened.length := by
    rintro tasks j f rfl hf hmodify
    obtain ⟨t, ht, ⟨rfl, rfl⟩ | ⟨-, rfl⟩⟩ := getElem?_of_modify hmodify
    · exact .inr (.inl ⟨t, ht, hf t ht⟩)
    · exact .inl ht
  have hupdate : ∀ {j : Nat} {f : StreamTask → StreamTask},
      (∀ t, s.tasks[j]? = some t → t.Moves j e (f t)) → (s.updateTask j f).tasks[i]? = some t' →
      s.tasks[i]? = some t' ∨ (∃ t, s.tasks[i]? = some t ∧ t.Moves i e t') ∨
        i = s.tasks.length ∧ ∃ destination, e = .openStream destination ∧
          t' = StreamTask.new s.client.nextStreamId destination s.opened.length := by
    intro j f hf hupdated
    rw [tasks_updateTask] at hupdated
    exact hmove rfl hf hupdated
  cases e with
  | openStream destination =>
    have happend : (s.tasks ++ [StreamTask.new s.client.nextStreamId destination
        s.opened.length])[i]? = some t' := ht'
    rcases lt_trichotomy i s.tasks.length with hlt | rfl | hgt
    · rw [List.getElem?_append_left hlt] at happend
      exact .inl happend
    · rw [List.getElem?_concat_length] at happend
      exact .inr (.inr ⟨rfl, destination, rfl, (Option.some.inj happend).symm⟩)
    · rw [List.getElem?_eq_none (by rw [List.length_append, List.length_singleton]; omega)]
        at happend
      cases happend
  | send j =>
    have hstep : (s.step P A circuitId (.send j)) = s.sendNext P j := rfl
    rw [hstep, sendNext] at ht'
    cases htask : s.tasks[j]? with
    | none =>
      rw [htask] at ht'
      exact .inl ht'
    | some t =>
      rw [htask] at ht'
      dsimp only at ht'
      cases hnext : t.nextSend with
      | none =>
        rw [hnext] at ht'
        exact .inl ht'
      | some cell =>
        rw [hnext] at ht'
        dsimp only at ht'
        rw [tasks_updateTask] at ht'
        exact hmove (tasks_sendMessage s _ _ _) (fun u _ => .afterSend _) ht'
  | receive j => exact hupdate (fun t _ => .receive _) ht'
  | receiveUnwritten j => exact hupdate (fun t _ => .receiveUnwritten) ht'
  | reply j sent => exact hupdate (fun t _ => .reply _) ht'
  | giveUp j => exact hupdate (fun t _ => .giveUp) ht'
  | socksRead j data => exact hupdate (fun t _ => .socksRead _) ht'
  | unregister j =>
    have hstep : (s.step P A circuitId (.unregister j)) = s.unregister j := rfl
    rw [hstep, unregister] at ht'
    cases htask : s.tasks[j]? with
    | none =>
      rw [htask] at ht'
      exact .inl ht'
    | some t =>
      rw [htask] at ht'
      dsimp only at ht'
      by_cases hphase : t.phase = .unregistering
      · rw [if_pos hphase, tasks_updateTask] at ht'
        refine hmove rfl (fun u hu => ?_) ht'
        cases htask.symm.trans hu
        exact .unregistered hphase
      · rw [if_neg hphase] at ht'
        exact .inl ht'
  | keepalive data =>
    have hstep : (s.step P A circuitId (.keepalive data)) = s.keepalive data := rfl
    rw [hstep, keepalive] at ht'
    left
    split at ht'
    · split at ht'
      · exact ht'
      · exact ht'
    · exact ht'
  | clientRead =>
    have hstep : (s.step P A circuitId .clientRead) = s.clientRead P := rfl
    rw [hstep, clientRead] at ht'
    split at ht'
    · dsimp only at ht'
      unfold deliverTo at ht'
      split at ht'
      · exact hmove rfl (fun t _ => .deliver _) ht'
      · exact .inl ht'
    · exact .inl ht'
  | hopServe j => exact .inl ht'
  | hopRead j => exact .inl ht'
  | exitServe connect => exact .inl ht'
  | exitStream p => exact .inl ht'
  | exitStreamEnded streamId => exact .inl ht'

/-- What every task has written is accounted for, in every state of every run; where none of
its writes failed nothing is lost. -/
theorem consumed_run {s : System} (h : s.tasks = []) (es : List Event) {i : Nat} {t : StreamTask}
    (ht : (run (System.step P A circuitId) s es).tasks[i]? = some t) :
    ∃ consumed lost, t.Consumed consumed lost ∧ (.receiveUnwritten i ∉ es → lost = []) := by
  induction es using List.reverseRecOn generalizing t with
  | nil =>
    rw [run_nil, h] at ht
    cases ht
  | append_singleton es e ih =>
    rw [run_append, run_cons, run_nil] at ht
    rcases task_step _ e ht with hold | ⟨u, hu, hmoves⟩ | ⟨-, destination, -, rfl⟩
    · obtain ⟨consumed, lost, hconsumed, hlost⟩ := ih hold
      exact ⟨consumed, lost, hconsumed, fun hnot =>
        hlost fun hmem => hnot (List.mem_append_left _ hmem)⟩
    · obtain ⟨consumed, lost, hconsumed, hlost⟩ := ih hu
      obtain ⟨consumed', lost', hconsumed', hsame⟩ := hconsumed.moves hmoves
      refine ⟨consumed', lost', hconsumed', fun hnot => ?_⟩
      rcases hsame with rfl | rfl
      · exact hlost fun hmem => hnot (List.mem_append_left _ hmem)
      · exact absurd (List.mem_append_right _ (List.mem_singleton.mpr rfl)) hnot
    · exact ⟨[], [], StreamTask.consumed_new .., fun _ => rfl⟩

end System

/-! ## What a task was given -/

/-- Every task was given the first of its stream's cells that were accepted since it was
registered, whether or not it still is. -/
def Session.Given (v : Session) : Prop :=
  ∀ t ∈ v.tasks, t.since ≤ v.opened.length ∧
    t.delivered.map Message.plain <+: cellsOf t.streamId (v.opened.drop t.since)

theorem Session.Change.given {v v' : Session} {e : Event} (hchange : v.Change e v')
    (hdelivering : v.Delivering) (h : v.Given) : v'.Given := by
  cases hchange with
  | quiet => exact h
  | @opened destination nextStreamId hallowed =>
    intro t ht
    rcases List.mem_append.mp ht with hold | hnew
    · exact h t hold
    · rw [List.mem_singleton.mp hnew]
      exact ⟨Nat.le_refl _, List.nil_prefix⟩
  | @sent e i t t' command data htask hsends =>
    intro u' hu'
    obtain ⟨j, hj⟩ := List.mem_iff_getElem?.mp hu'
    obtain ⟨u, hu, ⟨rfl, rfl⟩ | ⟨-, rfl⟩⟩ := getElem?_of_modify hj
    · cases htask.symm.trans hu
      obtain ⟨hstream, -, hsince, -, hdelivered⟩ := hsends.same
      rw [hstream, hsince, hdelivered]
      exact h t (List.mem_of_getElem? htask)
    · exact h u' (List.mem_of_getElem? hu)
  | @moved e i f senders hf hkept =>
    intro u' hu'
    obtain ⟨j, hj⟩ := List.mem_iff_getElem?.mp hu'
    obtain ⟨u, hu, ⟨rfl, rfl⟩ | ⟨-, rfl⟩⟩ := getElem?_of_modify hj
    · have hgoes := hf u hu
      rw [hgoes.streamId, hgoes.since, hgoes.delivered]
      exact h u (List.mem_of_getElem? hu)
    · exact h u' (List.mem_of_getElem? hu)
  | read m =>
    have hmore : ∀ t ∈ v.tasks, t.since ≤ (v.opened ++ [m.plain]).length ∧
        t.delivered.map Message.plain <+:
          cellsOf t.streamId ((v.opened ++ [m.plain]).drop t.since) := by
      intro t ht
      obtain ⟨hsince, hprefix⟩ := h t ht
      refine ⟨hsince.trans (List.length_append ▸ Nat.le_add_right _ _), ?_⟩
      rw [List.drop_append_of_le_length hsince, cellsOf_append]
      exact hprefix.trans (List.prefix_append _ _)
    intro u' hu'
    dsimp only at hu' ⊢
    cases hdelivery : delivery v.senders m with
    | none =>
      rw [hdelivery] at hu'
      exact hmore u' hu'
    | some d =>
      rw [hdelivery] at hu'
      obtain ⟨j, hj⟩ := List.mem_iff_getElem?.mp hu'
      obtain ⟨u, hu, ⟨rfl, rfl⟩ | ⟨-, rfl⟩⟩ := getElem?_of_modify hj
      · -- the task the cell is put into was given all of its stream's cells
        obtain ⟨sender, hsender, halive, rfl⟩ : ∃ sender,
            v.senders.lookup m.streamId = some sender ∧ sender.receiverAlive = true ∧
              d = (sender.channel, m) := by
          rw [delivery] at hdelivery
          cases hlookup : v.senders.lookup m.streamId with
          | none =>
            rw [hlookup] at hdelivery
            cases hdelivery
          | some sender =>
            rw [hlookup] at hdelivery
            dsimp only at hdelivery
            cases halive : sender.receiverAlive with
            | false =>
              rw [halive] at hdelivery
              cases hdelivery
            | true =>
              rw [halive] at hdelivery
              exact ⟨sender, rfl, halive, (Option.some.inj hdelivery).symm⟩
        obtain ⟨t, ht, hreceives⟩ := hdelivering m.streamId sender hsender
        cases hu.symm.trans ht
        have hdelivered := hreceives.deliver halive
        rw [← hdelivered.stream] at hdelivered
        exact ⟨hdelivered.since, hdelivered.upTo⟩
      · exact hmore u' (List.mem_of_getElem? hu)
  | served hserves hstreams => exact h
  | sealed p cell => exact h
  | streamEnded streamId => exact h

/-! ## The SOCKS client -/

variable {P : Primitives} {A : AddrSyntax} {circuitId : CircuitId}

/-- The cells of a task's stream that the exit has sealed since the task registered. -/
def sealedFor (s : System) (t : StreamTask) : List Plain :=
  cellsOf t.streamId ((sealsOf s.exitLog).drop t.since)

/-- **What the SOCKS client is given.** In every run of a built circuit, whatever the relays,
the other streams and the sends in between do: each stream's SOCKS client has been written, in
order, the first payloads of the DATA cells the exit sealed for the stream, nothing of them
unless CONNECTED came first and nothing behind an END; and once nothing is on its way, a
stream that is registered and has emptied its channel has written all of them, if it is still
in its loop or no write to its SOCKS client failed. -/
theorem socks_download
    (hcomm : ∀ x y, P.x25519 x (P.x25519Public y) = P.x25519 y (P.x25519Public x))
    {hosts : List Host} (hpath : HonestPath P A hosts) {padding : Nat → UInt8}
    {ephemerals : Nat → ByteArr 32} {s : System}
    (hs : System.BuiltOver P A circuitId hosts padding ephemerals s) {es : List Event}
    (hes : EveryStep (System.step P A circuitId) (fun _ e => e.Allowed) s es) :
    let s' := run (System.step P A circuitId) s es
    ∀ t ∈ s'.tasks,
      t.written <+: dataOf (bodyOf (sealedFor s' t)) ∧
      (t.written ≠ [] → ∃ p ∈ (sealedFor s' t).head?, p.command = .connected) ∧
      ∀ sender, s'.client.streamSenders.lookup t.streamId = some sender →
        s'.tasks[sender.channel]? = some t → sender.receiverAlive = true →
        s'.BackwardDrained → t.channel = [] → (t.Open ∨ .receiveUnwritten sender.channel ∉ es) →
          t.written = dataOf (bodyOf (sealedFor s' t)) := by
  obtain ⟨h, state, hcore, hsession⟩ := hs.core hpath hcomm
  have hempty : (s.session h).TasksOk ∧ (s.session h).Delivering ∧ (s.session h).Given := by
    rw [hsession]
    exact ⟨fun _ ht => absurd ht List.not_mem_nil, fun _ _ hlookup => (by cases hlookup),
      fun _ ht => absurd ht List.not_mem_nil⟩
  have htasks : s.tasks = [] := congrArg Session.tasks hsession
  obtain ⟨h', state', hcore', hdelivering, hgiven⟩ := @System.Core.run_session P A circuitId s h
    state (fun _ _ => True) (fun v => v.Delivering ∧ v.Given)
    (fun v e v' hv _ _ hchange _ =>
      ⟨hchange.delivering hv.1, hchange.given hv.1 hv.2⟩)
    hcore hempty.1 hempty.2 es (hes.mono fun s e he => ⟨he, fun _ => trivial⟩)
  intro s' t ht
  obtain ⟨i, hi⟩ := List.mem_iff_getElem?.mp ht
  obtain ⟨consumed, lost, hconsumed, -⟩ := System.consumed_run htasks es hi
  obtain ⟨hsince, hgivenTo⟩ := hgiven t ht
  -- taken ⊑ delivered ⊑ accepted ⊑ sealed
  have hopened : s'.opened <+: sealsOf s'.exitLog := hcore'.backward.received_prefix
  have hsealed : cellsOf t.streamId (s'.opened.drop t.since) <+: sealedFor s' t :=
    (hopened.drop t.since).filter _
  have htaken : consumed.map Message.plain <+: t.delivered.map Message.plain := by
    rw [hconsumed.delivered, List.map_append]
    exact List.prefix_append _ _
  have hall : consumed.map Message.plain <+: sealedFor s' t :=
    htaken.trans (hgivenTo.trans hsealed)
  refine ⟨?_, fun hwritten => ?_, fun sender hlookup htask halive hdrained hchannel hwrites => ?_⟩
  · refine List.IsPrefix.trans ⟨lost, hconsumed.written⟩ ?_
    exact (bodyOf_mono hall).filterMap _
  · obtain ⟨m, hm, hconnected⟩ := hconsumed.connected hwritten
    obtain ⟨rest, hrest⟩ := hall
    refine ⟨m.plain, ?_, hconnected⟩
    cases consumed with
    | nil => cases hm
    | cons first taken =>
      cases hm
      rw [← hrest]
      rfl
  · obtain ⟨t', ht', hreceives⟩ := hdelivering t.streamId sender hlookup
    cases htask.symm.trans ht'
    obtain ⟨consumed, lost, hconsumed, hlost⟩ := System.consumed_run htasks es htask
    have hnone : lost = [] := hwrites.elim (fun hopen => (hconsumed.running hopen).1) hlost
    have hconsumedAll : consumed = t.delivered := by
      rw [hconsumed.delivered, hchannel, List.append_nil]
    have hreceived := hreceives.all halive
    have haccepted : s'.opened = sealsOf s'.exitLog := hcore'.opened_eq hdrained
    have hgivenAll : consumed.map Message.plain = sealedFor s' t := by
      rw [hconsumedAll, hreceived, sealedFor, ← haccepted]
      rfl
    rw [← hgivenAll, ← hconsumed.written, hnone, List.append_nil]

theorem sample_socks_download :
    ∃ s, System.BuiltOver .sample .ipv4 1 samplePath (fun _ => 0) (fun _ => sampleSecret 200) s ∧
      let s' := run (System.step .sample .ipv4 1) s sampleEvents
      ∀ t ∈ s'.tasks,
        t.written <+: dataOf (bodyOf (sealedFor s' t)) ∧
        (t.written ≠ [] → ∃ p ∈ (sealedFor s' t).head?, p.command = .connected) ∧
        ∀ sender, s'.client.streamSenders.lookup t.streamId = some sender →
          s'.tasks[sender.channel]? = some t → sender.receiverAlive = true →
          s'.BackwardDrained → t.channel = [] → t.written = dataOf (bodyOf (sealedFor s' t)) := by
  obtain ⟨s, hs⟩ := samplePath_honestPath.built sample_x25519_comm (fun _ => 0)
    fun _ => sampleSecret 200
  refine ⟨s, hs, fun t ht => ?_⟩
  obtain ⟨hwritten, hconnected, hall⟩ := socks_download sample_x25519_comm samplePath_honestPath hs
    ((sampleEvents_allowed hs.tasks_eq).mono fun _ _ he => he.1) t ht
  refine ⟨hwritten, hconnected, fun sender hlookup htask halive hdrained hchannel =>
    hall sender hlookup htask halive hdrained hchannel (.inr ?_)⟩
  -- no write of the run fails
  simp [sampleEvents, sampleStream, sampleForward, sampleBackward]

end MiniTor
