import MiniTor.Circuit.Download

/-!
# The streams an exit keeps (`relay-node/src/circuit/exit.rs`, `tor-client/src/core/stream.rs`)

BEGIN puts a stream into the exit's table, and only END takes it out: one whose destination
has closed stays, though its connection is gone. The client sends END in `cleanup_stream`, which every
end of `handle_stream` goes through but one: a SOCKS reply that cannot be sent
returns at once.

- `System.abandoned`: the tasks that returned so.
- `Session.Holding`: the table holds the streams the exit connected and took no END of.
- `System.Ended`: the tasks that sent END are those that ended, but for the abandoned.
- `exit_connections_exact`: so with nothing on its way the exit keeps the streams that still
  run, and the abandoned ones.
-/

namespace MiniTor

open Theory Client

variable {P : Primitives} {A : AddrSyntax} {circuitId : CircuitId}

/-- The task whose SOCKS reply cannot be sent: it ends without cleanup. -/
def System.abandons (s : System) : Event → List Nat
  | .reply i false =>
    match s.tasks[i]? with
    | some t => if t.phase = .replying then [i] else []
    | none => []
  | _ => []

variable (P A circuitId) in
/-- The tasks abandoned in a run. -/
def System.abandoned (s : System) (es : List Event) : List Nat :=
  outputs (System.step P A circuitId) System.abandons s es

/-- The task is in `handle_stream` and has not sent END. -/
def Client.StreamTask.Unfinished (t : StreamTask) : Prop :=
  t.phase ≠ .unregistering ∧ t.phase ≠ .closed

/-- The streams an exit connected. -/
def opensOf (log : List Effect) : List StreamId :=
  log.filterMap fun e =>
    match e with
    | .openStream streamId => some streamId
    | _ => none

theorem opensOf_append (log log' : List Effect) :
    opensOf (log ++ log') = opensOf log ++ opensOf log' := List.filterMap_append

/-- One of the cells is END. -/
def HasEnd (cells : List Plain) : Prop := ∃ p ∈ cells, p.command = .end

theorem hasEnd_append {cells cells' : List Plain} :
    HasEnd (cells ++ cells') ↔ HasEnd cells ∨ HasEnd cells' := by
  simp only [HasEnd, List.mem_append, or_and_right, exists_or]

theorem hasEnd_singleton {p : Plain} : HasEnd [p] ↔ p.command = .end := by
  simp only [HasEnd, List.mem_singleton, exists_eq_left]

theorem not_hasEnd_nil : ¬HasEnd [] := fun ⟨_, hp, _⟩ => absurd hp List.not_mem_nil

/-! ## The exit's table -/

/-- The exit has a connection for exactly the streams it connected and took no END of. -/
structure Session.Holding (v : Session) : Prop where
  exact : ∀ streamId, (v.streams.lookup streamId).isSome ↔
    streamId ∈ opensOf v.exitLog ∧ ¬HasEnd (cellsOf streamId (acceptsOf v.exitLog))
  begun : ∀ streamId ∈ opensOf v.exitLog, cellsOf streamId (acceptsOf v.exitLog) ≠ []

namespace ExitCircuitHandler.Serves

variable {h h' : ExitCircuitHandler} {state : ExitCryptoState} {padding : Nat → UInt8}
  {connect : String → Except IoError Unit} {p : Plain} {done : List Effect}

/-- What serving a cell does to the table: BEGIN may connect, END takes out, and nothing else
matters. -/
theorem table (hserves : h.Serves P state circuitId padding connect p h' done) :
    (p.command = .begin ∧ opensOf done = [p.streamId] ∧
        ∃ x, h'.streams = h.streams.insert p.streamId x) ∨
      (p.command ≠ .end ∧ opensOf done = [] ∧ h'.streams = h.streams) ∨
      (p.command = .end ∧ opensOf done = [] ∧ h'.streams = h.streams.erase p.streamId) := by
  cases hserves with
  | connected hcommand htext hconnect => exact .inl ⟨hcommand, rfl, _, rfl⟩
  | refused hcommand htext hconnect hreason =>
    exact .inr (.inl ⟨by rw [hcommand]; decide, rfl, rfl⟩)
  | queued hcommand hlookup halive =>
    exact .inr (.inl ⟨by rw [hcommand]; decide, rfl, rfl⟩)
  | answered hcommand hreason hdead =>
    exact .inr (.inl ⟨by rw [hcommand]; decide, rfl, rfl⟩)
  | ended hcommand => exact .inr (.inr ⟨hcommand, rfl, rfl⟩)

end ExitCircuitHandler.Serves

namespace Session

variable {v v' : Session} {e : Event}

/-- **Every change keeps the table exact**, when the exit accepts what was sent. -/
theorem Change.holding (hchange : v.Change e v') (hscripts : v'.Scripts)
    (haccepts : acceptsOf v'.exitLog <+: v'.sent) (h : v.Holding) : v'.Holding := by
  cases hchange with
  | quiet => exact h
  | opened nextStreamId hallowed => exact ⟨h.exact, h.begun⟩
  | sent htask hsends => exact ⟨h.exact, h.begun⟩
  | moved hf hkept => exact ⟨h.exact, h.begun⟩
  | read m => exact ⟨h.exact, h.begun⟩
  | @served e P circuitId x x' state padding connect p done hserves hstreams =>
    obtain ⟨haccepted, -, -⟩ := hserves.answers
    have hlog : acceptsOf (v.exitLog ++ done) = acceptsOf v.exitLog ++ [p] := by
      rw [acceptsOf_append, haccepted]
    have hfront : acceptsOf v.exitLog ++ [p] <+: v.sent := by
      rw [← hlog]
      exact haccepts
    obtain ⟨-, hlater⟩ := hscripts.next hfront
    have htable := hserves.table
    rw [hstreams] at htable
    refine ⟨fun streamId => ?_, fun streamId hopen => ?_⟩
    · have hexact := h.exact streamId
      show (x'.streams.lookup streamId).isSome ↔ streamId ∈ opensOf (v.exitLog ++ done) ∧
        ¬HasEnd (cellsOf streamId (acceptsOf (v.exitLog ++ done)))
      rw [hlog, cellsOf_append, opensOf_append, List.mem_append, hasEnd_append]
      by_cases hp : p.streamId = streamId
      · subst hp
        rw [cellsOf_self, hasEnd_singleton]
        rcases htable with ⟨hcommand, hopens, y, hstreams'⟩ | ⟨hcommand, hopens, hstreams'⟩ |
          ⟨hcommand, hopens, hstreams'⟩
        · -- the stream's first cell, so there was no END of it
          have hnone : cellsOf p.streamId (acceptsOf v.exitLog) = [] := by
            by_contra hsome
            exact hlater hsome hcommand
          rw [hstreams', AList.lookup_insert, hopens, hnone, hcommand]
          exact iff_of_true rfl ⟨.inr List.mem_cons_self,
            fun hend => hend.elim not_hasEnd_nil fun hbegin => by cases hbegin⟩
        · rw [hstreams', hopens, hexact]
          simp only [List.not_mem_nil, or_false, hcommand]
        · rw [hstreams', AList.lookup_erase]
          exact iff_of_false (fun hsome => by cases hsome) fun ⟨_, hno⟩ => hno (.inr hcommand)
      · rw [cellsOf_other hp]
        have hlookup : x'.streams.lookup streamId = v.streams.lookup streamId := by
          rcases htable with ⟨-, -, y, hstreams'⟩ | ⟨-, -, hstreams'⟩ | ⟨-, -, hstreams'⟩
          · rw [hstreams', AList.lookup_insert_ne (Ne.symm hp)]
          · rw [hstreams']
          · rw [hstreams', AList.lookup_erase_ne (Ne.symm hp)]
        have hopens : streamId ∉ opensOf done := by
          rcases htable with ⟨-, hopens, -⟩ | ⟨-, hopens, -⟩ | ⟨-, hopens, -⟩
          · rw [hopens, List.mem_singleton]
            exact fun heq => hp heq.symm
          · rw [hopens]
            exact List.not_mem_nil
          · rw [hopens]
            exact List.not_mem_nil
        rw [hlookup, hexact]
        simp only [hopens, or_false, not_hasEnd_nil]
    · show cellsOf streamId (acceptsOf (v.exitLog ++ done)) ≠ []
      rw [hlog, cellsOf_append]
      have hopen' : streamId ∈ opensOf (v.exitLog ++ done) := hopen
      rw [opensOf_append, List.mem_append] at hopen'
      rcases hopen' with hold | hnew
      · exact List.append_ne_nil_of_left_ne_nil (h.begun streamId hold) _
      · -- it is the stream of the cell served
        rcases htable with ⟨-, hopens, -⟩ | ⟨-, hopens, -⟩ | ⟨-, hopens, -⟩
        · rw [hopens, List.mem_singleton] at hnew
          rw [hnew, cellsOf_self]
          exact List.append_ne_nil_of_right_ne_nil _ (List.cons_ne_nil _ _)
        · rw [hopens] at hnew
          exact absurd hnew List.not_mem_nil
        · rw [hopens] at hnew
          exact absurd hnew List.not_mem_nil
  | sealed p cell =>
    have haccepted : acceptsOf (v.exitLog ++ [.seal p.streamId p.command p.data, .toPrevHop cell]) =
        acceptsOf v.exitLog := by
      rw [acceptsOf_append]
      exact List.append_nil _
    have hopens : opensOf (v.exitLog ++ [.seal p.streamId p.command p.data, .toPrevHop cell]) =
        opensOf v.exitLog := by
      rw [opensOf_append]
      exact List.append_nil _
    refine ⟨fun streamId => ?_, fun streamId => ?_⟩
    · show (v.streams.lookup streamId).isSome ↔ streamId ∈ opensOf _ ∧
        ¬HasEnd (cellsOf streamId (acceptsOf _))
      rw [haccepted, hopens]
      exact h.exact streamId
    · show streamId ∈ opensOf _ → cellsOf streamId (acceptsOf _) ≠ []
      rw [haccepted, hopens]
      exact h.begun streamId
  | streamEnded ended =>
    refine ⟨fun streamId => ?_, h.begun⟩
    show ((v.streams.modify ended _).lookup streamId).isSome ↔ _
    rw [AList.lookup_modify, ← h.exact streamId]
    by_cases hended : streamId = ended
    · rw [if_pos hended, Option.isSome_map]
    · rw [if_neg hended]

end Session

/-- Tasks are never forgotten. -/
theorem Session.Change.length_tasks {v v' : Session} {e : Event} (hchange : v.Change e v') :
    v.tasks.length ≤ v'.tasks.length := by
  cases hchange with
  | quiet => exact le_refl _
  | opened nextStreamId hallowed => exact (List.sublist_append_left _ _).length_le
  | sent htask hsends => exact (List.length_modify _ _ _).ge
  | moved hf hkept => exact (List.length_modify _ _ _).ge
  | read m =>
    show v.tasks.length ≤ (deliverTo v.tasks (delivery v.senders m)).length
    unfold deliverTo
    split
    · exact (List.length_modify _ _ _).ge
    · exact le_refl _
  | served hserves hstreams => exact le_refl _
  | sealed p cell => exact le_refl _
  | streamEnded streamId => exact le_refl _

/-! ## The tasks that have sent END -/

namespace Client.StreamTask

variable {t t' : StreamTask} {i : Nat} {e : Event}

/-- A task sends END when it is done, and not before. -/
theorem Sends.unfinished {command : MessageCommand} {data : Bytes}
    (hsends : t.Sends command data t') :
    t.Unfinished ∧ (¬t'.Unfinished ↔ command = .end) := by
  cases hsends with
  | begin hphase =>
    exact ⟨⟨by rw [hphase]; decide, by rw [hphase]; decide⟩,
      iff_of_false (not_not_intro ⟨(fun h => by cases h), fun h => by cases h⟩) (by decide)⟩
  | data hphase =>
    exact ⟨⟨(fun h => by cases hphase.symm.trans h), fun h => by cases hphase.symm.trans h⟩,
      iff_of_false (not_not_intro ⟨(fun h => by cases h), fun h => by cases h⟩) (by decide)⟩
  | «end» hphase =>
    exact ⟨⟨by rw [hphase]; decide, by rw [hphase]; decide⟩,
      iff_of_true (fun h => h.1 rfl) rfl⟩

theorem Moves.streamId (hmoves : t.Moves i e t') : t'.streamId = t.streamId := by
  cases hmoves with
  | afterSend sent =>
    unfold StreamTask.afterSend
    split <;> rfl
  | receive registered => exact (t.receive_goes registered).streamId
  | receiveUnwritten => exact t.receiveUnwritten_goes.streamId
  | reply sent => exact (t.reply_goes sent).streamId
  | giveUp => exact t.giveUp_goes.streamId
  | socksRead data => exact (t.socksRead_goes data).streamId
  | unregistered hphase => rfl
  | deliver m => rfl

/-- Between its sends a task is not done before it sends END, unless it is abandoned. -/
theorem Moves.unfinished (hmoves : t.Moves i e t') (hsend : e ≠ .send i)
    (hreply : e = .reply i false → t.phase ≠ .replying) :
    (t'.Unfinished ↔ t.Unfinished) ∧ (t.phase = .closed → t'.phase = .closed) := by
  obtain ⟨streamId, destination, phase, channel, read, written, delivered, since⟩ := t
  cases hmoves with
  | afterSend sent => exact absurd rfl hsend
  | receive registered =>
    cases phase with
    | waiting =>
      cases channel with
      | nil => cases registered <;> simp [StreamTask.receive, Unfinished]
      | cons m rest =>
        by_cases hconnected : m.command = .connected <;>
          simp [StreamTask.receive, Unfinished, hconnected]
    | relaying chunks =>
      cases chunks with
      | cons chunk chunks => exact ⟨Iff.rfl, id⟩
      | nil =>
        cases channel with
        | nil => cases registered <;> simp [StreamTask.receive, Unfinished]
        | cons m rest =>
          by_cases hdata : m.command = .data
          · simp [StreamTask.receive, Unfinished, hdata]
          · by_cases hend : m.command = .end <;>
              simp [StreamTask.receive, Unfinished, hdata, hend]
    | opening => exact ⟨Iff.rfl, id⟩
    | replying => exact ⟨Iff.rfl, id⟩
    | closing => exact ⟨Iff.rfl, id⟩
    | unregistering => exact ⟨Iff.rfl, id⟩
    | closed => exact ⟨Iff.rfl, id⟩
  | receiveUnwritten =>
    cases phase with
    | relaying chunks =>
      cases chunks with
      | cons chunk chunks => exact ⟨Iff.rfl, id⟩
      | nil =>
        cases channel with
        | nil => exact ⟨Iff.rfl, id⟩
        | cons m rest =>
          by_cases hdata : m.command = .data <;>
            simp [StreamTask.receiveUnwritten, Unfinished, hdata]
    | opening => exact ⟨Iff.rfl, id⟩
    | waiting => exact ⟨Iff.rfl, id⟩
    | replying => exact ⟨Iff.rfl, id⟩
    | closing => exact ⟨Iff.rfl, id⟩
    | unregistering => exact ⟨Iff.rfl, id⟩
    | closed => exact ⟨Iff.rfl, id⟩
  | reply sent =>
    by_cases hphase : phase = .replying
    · subst hphase
      cases sent with
      | true => simp [StreamTask.reply, Unfinished]
      | false => exact absurd rfl (hreply rfl)
    · cases phase <;> first | exact absurd rfl hphase | exact ⟨Iff.rfl, id⟩
  | giveUp =>
    cases phase with
    | waiting => simp [StreamTask.giveUp, Unfinished]
    | relaying chunks =>
      cases chunks with
      | nil => simp [StreamTask.giveUp, Unfinished]
      | cons chunk chunks => exact ⟨Iff.rfl, id⟩
    | opening => exact ⟨Iff.rfl, id⟩
    | replying => exact ⟨Iff.rfl, id⟩
    | closing => exact ⟨Iff.rfl, id⟩
    | unregistering => exact ⟨Iff.rfl, id⟩
    | closed => exact ⟨Iff.rfl, id⟩
  | socksRead data =>
    cases phase with
    | relaying chunks =>
      cases chunks with
      | nil => by_cases hdata : data = [] <;> simp [StreamTask.socksRead, Unfinished, hdata]
      | cons chunk chunks => exact ⟨Iff.rfl, id⟩
    | opening => exact ⟨Iff.rfl, id⟩
    | waiting => exact ⟨Iff.rfl, id⟩
    | replying => exact ⟨Iff.rfl, id⟩
    | closing => exact ⟨Iff.rfl, id⟩
    | unregistering => exact ⟨Iff.rfl, id⟩
    | closed => exact ⟨Iff.rfl, id⟩
  | unregistered hphase =>
    exact ⟨iff_of_false (fun h => h.2 rfl) fun h => h.1 hphase, fun _ => rfl⟩
  | deliver m => exact ⟨Iff.rfl, id⟩

end Client.StreamTask

namespace System

variable {s : System} {h : ExitCircuitHandler} {state : ExitCryptoState} {e : Event}

theorem abandons_of_mem {i : Nat} (hi : i ∈ s.abandons e) :
    e = .reply i false ∧ ∃ t, s.tasks[i]? = some t ∧ t.phase = .replying := by
  unfold abandons at hi
  split at hi
  · split at hi
    · rename_i j t htask
      by_cases hphase : t.phase = .replying
      · rw [if_pos hphase, List.mem_singleton] at hi
        subst hi
        exact ⟨rfl, t, htask, hphase⟩
      · rw [if_neg hphase] at hi
        exact absurd hi List.not_mem_nil
    · exact absurd hi List.not_mem_nil
  · exact absurd hi List.not_mem_nil

@[simp] theorem sent_updateTask (s : System) (i : Nat) (f : StreamTask → StreamTask) :
    (s.updateTask i f).sent = s.sent := by
  rw [updateTask]
  dsimp only
  cases (s.tasks.modify i f)[i]? with
  | none => rfl
  | some t =>
    dsimp only
    by_cases hclosed : t.phase = .closed
    · rw [if_pos hclosed]
      rfl
    · rw [if_neg hclosed]

/-- Only a send seals a cell of a stream. -/
theorem sent_step (hsend : ∀ i, e ≠ .send i) : (s.step P A circuitId e).sent = s.sent := by
  cases e with
  | send i => exact absurd rfl (hsend i)
  | openStream destination => rfl
  | receive i => exact s.sent_updateTask i _
  | receiveUnwritten i => exact s.sent_updateTask i _
  | reply i sent => exact s.sent_updateTask i _
  | giveUp i => exact s.sent_updateTask i _
  | socksRead i data => exact s.sent_updateTask i _
  | unregister i =>
    show (s.unregister i).sent = s.sent
    rw [unregister]
    cases s.tasks[i]? with
    | none => rfl
    | some t =>
      dsimp only
      by_cases hphase : t.phase = .unregistering
      · rw [if_pos hphase, sent_updateTask]
      · rw [if_neg hphase]
  | keepalive data =>
    show (s.keepalive data).sent = s.sent
    rw [keepalive]
    split
    · split <;> rfl
    · rfl
  | clientRead =>
    show (s.clientRead P).sent = s.sent
    rw [clientRead]
    split <;> rfl
  | hopServe i => rfl
  | hopRead i => rfl
  | exitServe connect => rfl
  | exitStream p => rfl
  | exitStreamEnded streamId => rfl

/-- While client and exit are in step, a cell that is due is sent. -/
theorem Core.sendNext_eq (hs : s.Core P circuitId h state) (hok : (s.session h).TasksOk) {i : Nat}
    {t : StreamTask} (htask : s.tasks[i]? = some t) {command : MessageCommand} {data : Bytes}
    (hnext : t.nextSend = some (command, data)) :
    (s.sendNext P i).sent = s.sent ++ [⟨t.streamId, command, data⟩] ∧
      (s.sendNext P i).tasks = s.tasks.modify i fun t => t.afterSend true := by
  have htaskOk : t.Ok := hok t (List.mem_of_getElem? htask)
  obtain ⟨s', hsend, -, hsent, htasks, -, -, -, -⟩ :=
    hs.send (htaskOk.sendable (StreamTask.sends_of_nextSend hnext))
  rw [System.sendNext, htask]
  dsimp only
  rw [hnext]
  dsimp only at hsend ⊢
  rw [hsend]
  exact ⟨(s'.sent_updateTask i _).trans hsent, (s'.tasks_updateTask i _).trans (by rw [htasks])⟩

/-- **The tasks that have sent END** are those that are done, but for the abandoned. -/
structure Ended (s : System) (abandoned : List Nat) : Prop where
  exact : ∀ (i : Nat) (t : StreamTask), s.tasks[i]? = some t →
    (HasEnd (cellsOf t.streamId s.sent) ↔ ¬t.Unfinished ∧ i ∉ abandoned)
  closed : ∀ i ∈ abandoned, ∃ t, s.tasks[i]? = some t ∧ t.phase = .closed

namespace Ended

variable {past : List Nat}

/-- A send ends its stream if it is END, and no other. -/
theorem send (hs : s.Core P circuitId h state) (hok : (s.session h).TasksOk)
    (hscripts : (s.session h).Scripts) (hended : s.Ended past) (j : Nat) :
    (s.sendNext P j).Ended past := by
  cases htask : s.tasks[j]? with
  | none =>
    rw [sendNext, htask]
    exact hended
  | some u =>
    cases hnext : u.nextSend with
    | none =>
      rw [sendNext, htask]
      dsimp only
      rw [hnext]
      exact hended
    | some cell =>
      obtain ⟨command, data⟩ := cell
      obtain ⟨hsent, htasks⟩ := hs.sendNext_eq hok htask hnext
      obtain ⟨hrunning, hdone⟩ := (StreamTask.sends_of_nextSend hnext).unfinished
      have hkept : j ∉ past := by
        intro hpast
        obtain ⟨u', hu', hclosed⟩ := hended.closed j hpast
        cases htask.symm.trans hu'
        exact hrunning.2 hclosed
      refine ⟨fun i t ht => ?_, fun i hi => ?_⟩
      · rw [htasks] at ht
        rw [hsent, cellsOf_append, hasEnd_append]
        obtain ⟨t₀, ht₀, ⟨rfl, rfl⟩ | ⟨hne, rfl⟩⟩ := getElem?_of_modify ht
        · obtain rfl : u = t₀ := Option.some.inj (htask.symm.trans ht₀)
          have hbefore : ¬HasEnd (cellsOf u.streamId s.sent) := fun hend =>
            ((hended.exact j u ht₀).mp hend).1 hrunning
          have hsame : (u.afterSend true).streamId = u.streamId :=
            (StreamTask.sends_of_nextSend hnext).same.1
          have hself : cellsOf u.streamId [⟨u.streamId, command, data⟩] =
              [⟨u.streamId, command, data⟩] := cellsOf_self ⟨u.streamId, command, data⟩
          rw [hsame, hself, hasEnd_singleton, or_iff_right hbefore, and_iff_left hkept]
          exact hdone.symm
        · have hother : cellsOf t.streamId [⟨u.streamId, command, data⟩] = [] :=
            cellsOf_other fun hsame => hne (hscripts.distinct j i u t htask ht₀ hsame)
          rw [hother, or_iff_left not_hasEnd_nil]
          exact hended.exact i t ht₀
      · obtain ⟨t, ht, hclosed⟩ := hended.closed i hi
        have hne : j ≠ i := fun heq => hkept (heq ▸ hi)
        refine ⟨t, ?_, hclosed⟩
        rw [htasks, List.getElem?_modify_ne _ _ hne]
        exact ht

/-- **Every event keeps the account of who sent END.** -/
theorem step (hs : s.Core P circuitId h state) (hok : (s.session h).TasksOk)
    (hscripts : (s.session h).Scripts) (hallowed : e.Allowed)
    (hfresh : e.Unwrapped s.tasks s.client.nextStreamId) (hended : s.Ended past) :
    (s.step P A circuitId e).Ended (past ++ s.abandons e) := by
  by_cases hsend : ∃ j, e = .send j
  · obtain ⟨j, rfl⟩ := hsend
    rw [show s.abandons (.send j) = [] from rfl, List.append_nil]
    exact hended.send hs hok hscripts j
  have hother : ∀ j, e ≠ .send j := fun j hj => hsend ⟨j, hj⟩
  -- a task abandoned now is closed, and was connected
  have habandoned : ∀ i ∈ s.abandons e, ∃ u, s.tasks[i]? = some u ∧ u.Unfinished ∧
      (s.step P A circuitId e).tasks[i]? = some { u with phase := .closed } := by
    intro i hi
    obtain ⟨rfl, u, hu, hphase⟩ := abandons_of_mem hi
    refine ⟨u, hu, ⟨by rw [hphase]; decide, by rw [hphase]; decide⟩, ?_⟩
    show (s.updateTask i fun t => t.reply false).tasks[i]? = _
    rw [tasks_updateTask, List.getElem?_modify_eq, hu]
    show some (u.reply false) = _
    rw [StreamTask.reply, hphase]
    rfl
  refine ⟨fun i t ht => ?_, fun i hi => ?_⟩
  · rw [sent_step hother]
    by_cases hi : i ∈ s.abandons e
    · obtain ⟨u, hu, hunfinished, hstep⟩ := habandoned i hi
      cases ht.symm.trans hstep
      refine iff_of_false (fun hend => ((hended.exact i u hu).mp hend).1 hunfinished) fun hdone => ?_
      exact hdone.2 (List.mem_append_right _ hi)
    · rw [List.mem_append, or_iff_left hi]
      rcases task_step s e ht with hold | ⟨u, hu, hmoves⟩ | ⟨rfl, destination, rfl, rfl⟩
      · exact hended.exact i t hold
      · have hreply : e = .reply i false → u.phase ≠ .replying := by
          rintro rfl hphase
          refine hi ?_
          rw [abandons, hu]
          dsimp only
          rw [if_pos hphase]
          exact List.mem_cons_self
        rw [hmoves.streamId, (hmoves.unfinished (hother i) hreply).1]
        exact hended.exact i u hu
      · -- nothing was sent yet for a new stream
        refine iff_of_false ?_ fun hdone => hdone.1 ⟨(fun h => by cases h), fun h => by cases h⟩
        rintro ⟨p, hp, -⟩
        obtain ⟨hsent, hstream⟩ := List.mem_filter.mp hp
        obtain ⟨j, u, hu, howner⟩ := hscripts.owned p hsent
        exact hfresh u (List.mem_of_getElem? hu) (howner.trans (of_decide_eq_true hstream))
  · rcases List.mem_append.mp hi with hpast | hnow
    · obtain ⟨u, hu, hclosed⟩ := hended.closed i hpast
      obtain ⟨h', state', -, hchange⟩ := hs.step_change (A := A) hok hallowed
      have hlt : i < (s.step P A circuitId e).tasks.length :=
        (List.getElem?_eq_some_iff.mp hu).1.trans_le hchange.length_tasks
      have ht := List.getElem?_eq_getElem hlt
      refine ⟨_, ht, ?_⟩
      rcases task_step s e ht with hold | ⟨u', hu', hmoves⟩ | ⟨hnew, -⟩
      · cases hu.symm.trans hold
        exact hclosed
      · cases hu.symm.trans hu'
        refine (hmoves.unfinished (hother i) fun _ hphase => ?_).2 hclosed
        cases hclosed.symm.trans hphase
      · exact absurd hnew (List.getElem?_eq_some_iff.mp hu).1.ne
    · obtain ⟨u, -, -, hstep⟩ := habandoned i hnow
      exact ⟨_, hstep, rfl⟩

end Ended

end System

/-! ## Whole runs -/

/-- **The exit keeps the streams that still run, and those whose SOCKS reply could not be
sent.** In every run of a built circuit whose stream ids have not wrapped around, the exit has
entries for streams of the client only; and with nothing on its way it has one for a stream it
connected exactly if the stream's task has not sent END: because it still runs, or because it
was abandoned, and then for as long as the circuit is there. -/
theorem exit_connections_exact
    (hcomm : ∀ x y, P.x25519 x (P.x25519Public y) = P.x25519 y (P.x25519Public x))
    {hosts : List Host} (hpath : HonestPath P A hosts) {padding : Nat → UInt8}
    {ephemerals : Nat → ByteArr 32} {s : System}
    (hs : System.BuiltOver P A circuitId hosts padding ephemerals s) {es : List Event}
    (hes : EveryStep (System.step P A circuitId)
      (fun s e => e.Allowed ∧ e.Unwrapped s.tasks s.client.nextStreamId) s es) :
    let s' := run (System.step P A circuitId) s es
    (∀ streamId, (s'.exitStream? circuitId streamId).isSome →
      ∃ t ∈ s'.tasks, t.streamId = streamId) ∧
    (s'.ForwardDrained → ∀ i t, s'.tasks[i]? = some t →
      ((s'.exitStream? circuitId t.streamId).isSome ↔
        t.streamId ∈ opensOf s'.exitLog ∧
          (t.Unfinished ∨ i ∈ s.abandoned P A circuitId es))) := by
  obtain ⟨h, state, hcore, hsession⟩ := hs.core hpath hcomm
  have htasks : s.tasks = [] := congrArg Session.tasks hsession
  have hstart : (s.session h).TasksOk ∧ (s.session h).Scripts ∧ (s.session h).Holding := by
    rw [hsession]
    refine ⟨fun _ ht => absurd ht List.not_mem_nil, ⟨fun _ _ _ _ ht => (by cases ht),
      fun _ _ ht => (by cases ht), fun _ hp => absurd hp List.not_mem_nil⟩, fun streamId => ?_,
      fun _ hopen => absurd hopen List.not_mem_nil⟩
    exact iff_of_false (fun hsome => by cases hsome) fun hopen => absurd hopen.1 List.not_mem_nil
  have hnone : s.Ended [] :=
    ⟨fun _ _ ht => (by rw [htasks] at ht; cases ht), fun _ hi => absurd hi List.not_mem_nil⟩
  obtain ⟨h', state', hcore', hok, hscripts, hholding, hended⟩ :=
    @EveryStep.outputs_invariant _ _ (System.step P A circuitId) _ _ System.abandons
      (fun s past => ∃ h state, s.Core P circuitId h state ∧ (s.session h).TasksOk ∧
        (s.session h).Scripts ∧ (s.session h).Holding ∧ s.Ended past)
      (by
        rintro s past e ⟨h, state, hcore, hok, hscripts, hholding, hended⟩ ⟨hallowed, hfresh⟩
        obtain ⟨h', state', hcore', hchange⟩ := hcore.step_change (A := A) hok hallowed
        have hscripts' := hchange.scripts hfresh hscripts
        exact ⟨h', state', hcore', hchange.tasksOk hok, hscripts',
          hchange.holding hscripts' hcore'.forward.received_prefix hholding,
          hended.step hcore hok hscripts hallowed hfresh⟩)
      s es [] ⟨h, state, hcore, hstart.1, hstart.2.1, hstart.2.2, hnone⟩ hes
  rw [List.nil_append] at hended
  have hstreams : ∀ streamId, (run (System.step P A circuitId) s es).exitStream? circuitId streamId =
      h'.streams.lookup streamId := by
    intro streamId
    rw [System.exitStream?, hcore'.exit.lookup]
  refine ⟨fun streamId hsome => ?_, fun hdrained i t ht => ?_⟩
  · rw [hstreams] at hsome
    obtain ⟨hopen, -⟩ := (hholding.exact streamId).mp hsome
    obtain ⟨p, hp⟩ := List.exists_mem_of_ne_nil _ (hholding.begun streamId hopen)
    obtain ⟨haccepted, hstream⟩ := List.mem_filter.mp hp
    obtain ⟨i, t, ht, howner⟩ :=
      hscripts.owned p (hcore'.forward.received_prefix.subset haccepted)
    exact ⟨t, List.mem_of_getElem? ht, howner.trans (of_decide_eq_true hstream)⟩
  · have hexact := hholding.exact t.streamId
    have haccepts : acceptsOf ((run (System.step P A circuitId) s es).session h').exitLog =
        (run (System.step P A circuitId) s es).sent := hcore'.accepts_eq hdrained
    rw [haccepts, hended.exact i t ht, not_and_or, not_not, not_not] at hexact
    rw [hstreams]
    exact hexact

theorem sample_exit_connections :
    ∃ s, System.BuiltOver .sample .ipv4 1 samplePath (fun _ => 0) (fun _ => sampleSecret 200) s ∧
      let s' := run (System.step .sample .ipv4 1) s sampleEvents
      (∀ streamId, (s'.exitStream? 1 streamId).isSome → ∃ t ∈ s'.tasks, t.streamId = streamId) ∧
      (s'.ForwardDrained → ∀ i t, s'.tasks[i]? = some t →
        ((s'.exitStream? 1 t.streamId).isSome ↔
          t.streamId ∈ opensOf s'.exitLog ∧
            (t.Unfinished ∨ i ∈ s.abandoned .sample .ipv4 1 sampleEvents))) := by
  obtain ⟨s, hs⟩ := samplePath_honestPath.built sample_x25519_comm (fun _ => 0)
    fun _ => sampleSecret 200
  exact ⟨s, hs, exit_connections_exact sample_x25519_comm samplePath_honestPath hs
    (sampleEvents_allowed hs.tasks_eq)⟩

end MiniTor
