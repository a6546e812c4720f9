import MiniTor.Circuit.Backward

/-!
# Forward delivery

What a stream's task sends is a script: BEGIN with its destination, then what it
reads, chunk by chunk, then END. The exit accepts the cells of all streams in the
order they were sealed, and so takes each stream's script in order.

- `Script`: what a task has sent so far, and what of its reads is still to be
  sent. `Session.Scripts` is an invariant as long as stream ids are new.
- `StreamServed`: what the exit did for a stream, in terms of the cells it accepted.
  `Session.Serving` is an invariant when the cells it accepts come from scripts.
- `forward_delivery`: so in every run of a built circuit the exit connects each
  stream to its own destination and queues for it what its client read.
-/

namespace MiniTor

open Theory Client

/-- The payloads of the DATA cells. -/
def dataOf (cells : List Plain) : List Bytes :=
  cells.filterMap fun p => if p.command = .data then some p.data else none

@[simp] theorem dataOf_append (cells cells' : List Plain) :
    dataOf (cells ++ cells') = dataOf cells ++ dataOf cells' := List.filterMap_append

theorem dataOf_data {p : Plain} (h : p.command = .data) : dataOf [p] = [p.data] := by
  simp [dataOf, h]

theorem dataOf_other {p : Plain} (h : p.command ≠ .data) : dataOf [p] = [] := by
  simp [dataOf, h]

/-! ## Scripts -/

/-- The cells a task has sent: BEGIN first and once, then its reads up to what is pending. -/
inductive Script (t : StreamTask) : List Plain → Prop
  | opening (hphase : t.phase = .opening) (hread : t.read.flatten = []) : Script t []
  | begun {rest : List Plain} (hphase : t.phase ≠ .opening)
      (hrest : ∀ p ∈ rest, p.command ≠ .begin)
      (hread : (dataOf rest).flatten ++ t.pending.flatten = t.read.flatten) :
      Script t (⟨t.streamId, .begin, t.beginPayload⟩ :: rest)

namespace Script

variable {t t' : StreamTask} {cells : List Plain}

theorem new (streamId : StreamId) (destination : String) (since : Nat) :
    Script (StreamTask.new streamId destination since) [] := .opening rfl rfl

/-- The first cell of a script is BEGIN. -/
theorem first {p : Plain} (h : Script t (p :: cells)) :
    p = ⟨t.streamId, .begin, t.beginPayload⟩ := by
  cases h with
  | begun hphase hrest hread => rfl

/-- The other cells of a script are not. -/
theorem later {p : Plain} (h : Script t (p :: cells)) : ∀ q ∈ cells, q.command ≠ .begin := by
  cases h with
  | begun hphase hrest hread => exact hrest

/-- Between two sends the task reads, and nothing of what it reads is lost. -/
theorem goes (h : Script t cells) (hgoes : t.Goes t') : Script t' cells := by
  obtain ⟨data, hread', hpending'⟩ := hgoes.read
  have hflatten : t'.read.flatten = t.read.flatten ++ data.flatten := by
    rw [hread', List.flatten_append]
  cases h with
  | opening hphase hread =>
    have hphase' := hgoes.opening.mpr hphase
    have hnone : data.flatten = [] := by
      have hempty : t.pending = [] ∧ t'.pending = [] := by
        rw [StreamTask.pending, StreamTask.pending, hphase, hphase']
        exact ⟨rfl, rfl⟩
      rw [hempty.1, hempty.2] at hpending'
      exact hpending'.symm
    refine .opening hphase' ?_
    rw [hflatten, hread, hnone]
    rfl
  | @begun rest hphase hrest hread =>
    have hpayload : t'.beginPayload = t.beginPayload := by
      rw [StreamTask.beginPayload, hgoes.destination]
      rfl
    rw [← hgoes.streamId, ← hpayload]
    refine .begun (fun hopening => hphase (hgoes.opening.mp hopening)) hrest ?_
    rw [hpending', hflatten, ← hread, List.append_assoc]

/-- Receiving is none of the script's business. -/
theorem deliver (h : Script t cells) (m : Message) : Script (t.deliver m) cells := by
  cases h with
  | opening hphase hread => exact .opening hphase hread
  | begun hphase hrest hread => exact .begun (t := t.deliver m) hphase hrest hread

/-- **A cell that is sent continues the script.** -/
theorem sends {command : MessageCommand} {data : Bytes} (h : Script t cells)
    (hsends : t.Sends command data t') : Script t' (cells ++ [⟨t.streamId, command, data⟩]) := by
  cases h with
  | opening hphase hread =>
    cases hsends with
    | begin _ =>
      refine .begun (t := { t with phase := .waiting }) (fun h => by cases h)
        (fun _ hp => absurd hp List.not_mem_nil) ?_
      exact hread.symm
    | data hrelaying => cases hphase.symm.trans hrelaying
    | «end» hclosing => cases hphase.symm.trans hclosing
  | @begun rest hphase hrest hread =>
    cases hsends with
    | begin hopening => exact absurd hopening hphase
    | @data _ chunks hrelaying =>
      refine .begun (t := { t with phase := .relaying chunks }) (fun h => by cases h) ?_ ?_
      · intro p hp
        rcases List.mem_append.mp hp with hp | hp
        · exact hrest p hp
        · rw [List.mem_singleton.mp hp]
          exact fun h => by cases h
      · have hpending : t.pending = data :: chunks := by
          rw [StreamTask.pending, hrelaying]
        rw [hpending, List.flatten_cons] at hread
        rw [List.append_eq, dataOf_append, dataOf_data rfl, List.flatten_append, List.flatten_singleton,
          List.append_assoc]
        exact hread
    | «end» hclosing =>
      refine .begun (t := { t with phase := .unregistering }) (fun h => by cases h) ?_ ?_
      · intro p hp
        rcases List.mem_append.mp hp with hp | hp
        · exact hrest p hp
        · rw [List.mem_singleton.mp hp]
          exact fun h => by cases h
      · have hpending : t.pending = [] := by
          rw [StreamTask.pending, hclosing]
        have hend : dataOf [⟨t.streamId, .end, []⟩] = [] := rfl
        rw [hpending] at hread
        rw [List.append_eq, dataOf_append, hend, List.append_nil]
        exact hread

end Script

/-- Every task has its own stream id and has sent its script, and nobody else has sent
anything. -/
structure Session.Scripts (v : Session) : Prop where
  distinct : ∀ (i j : Nat) (t u : StreamTask), v.tasks[i]? = some t → v.tasks[j]? = some u → t.streamId = u.streamId →
    i = j
  scripts : ∀ (i : Nat) (t : StreamTask), v.tasks[i]? = some t → Script t (cellsOf t.streamId v.sent)
  owned : ∀ p ∈ v.sent, ∃ (i : Nat) (t : StreamTask), v.tasks[i]? = some t ∧
    t.streamId = p.streamId

namespace Session.Change

variable {v v' : Session} {e : Event}

/-- Tasks that are modified keep their scripts, when the one modified does. -/
theorem scripts_modify {w : Session} (h : v.Scripts) {i : Nat} {f : StreamTask → StreamTask}
    (htasks : w.tasks = v.tasks.modify i f) {new : List Plain} (hsent : w.sent = v.sent ++ new)
    (hstream : ∀ t, v.tasks[i]? = some t → (f t).streamId = t.streamId)
    (hown : ∀ p ∈ new, ∃ t, v.tasks[i]? = some t ∧ t.streamId = p.streamId)
    (hscript : ∀ t, v.tasks[i]? = some t → Script t (cellsOf t.streamId v.sent) →
      Script (f t) (cellsOf t.streamId v.sent ++ cellsOf t.streamId new)) : w.Scripts := by
  have hfrom : ∀ (j : Nat) (u : StreamTask), w.tasks[j]? = some u →
      ∃ t, v.tasks[j]? = some t ∧ u.streamId = t.streamId := by
    intro j u hu
    rw [htasks] at hu
    obtain ⟨t, ht, ⟨rfl, rfl⟩ | ⟨-, rfl⟩⟩ := getElem?_of_modify hu
    · exact ⟨t, ht, hstream t ht⟩
    · exact ⟨u, ht, rfl⟩
  refine ⟨?_, ?_, ?_⟩
  · intro j k t u ht hu hsame
    obtain ⟨t₀, ht₀, hst⟩ := hfrom j t ht
    obtain ⟨u₀, hu₀, hsu⟩ := hfrom k u hu
    exact h.distinct j k t₀ u₀ ht₀ hu₀ (hst.symm.trans (hsame.trans hsu))
  · intro j u hu
    rw [htasks] at hu
    rw [hsent, cellsOf_append]
    obtain ⟨t, ht, ⟨rfl, rfl⟩ | ⟨hij, rfl⟩⟩ := getElem?_of_modify hu
    · rw [hstream t ht]
      exact hscript t ht (h.scripts i t ht)
    · -- the new cells are those of the other task
      have hnone : cellsOf u.streamId new = [] := by
        refine List.filter_eq_nil_iff.mpr fun p hp hsame => ?_
        obtain ⟨t, htask, hstream⟩ := hown p hp
        exact hij (h.distinct i j t u htask ht (hstream.trans (of_decide_eq_true hsame)))
      rw [hnone, List.append_nil]
      exact h.scripts j u ht
  · intro p hp
    rw [hsent] at hp
    -- whoever sent it keeps its stream id, whether it moved or not
    have howner : ∃ (j : Nat) (t : StreamTask), v.tasks[j]? = some t ∧ t.streamId = p.streamId := by
      rcases List.mem_append.mp hp with hp | hp
      · exact h.owned p hp
      · obtain ⟨t, ht, hst⟩ := hown p hp
        exact ⟨i, t, ht, hst⟩
    obtain ⟨j, t, ht, hst⟩ := howner
    obtain ⟨u, hu, hcase⟩ := getElem?_modify_some (i := i) (f := f) ht
    rw [← htasks] at hu
    refine ⟨j, u, hu, ?_⟩
    rcases hcase with rfl | ⟨rfl, rfl⟩
    · exact hst
    · exact (hstream t ht).trans hst

/-- **Every change keeps the scripts**, as long as stream ids are new. -/
theorem scripts (hchange : v.Change e v') (hfresh : e.Unwrapped v.tasks v.nextStreamId) (h : v.Scripts) :
    v'.Scripts := by
  cases hchange with
  | quiet => exact h
  | @opened destination nextStreamId hallowed =>
    have hnew : ∀ t ∈ v.tasks, t.streamId ≠ v.nextStreamId := hfresh
    -- a task is an old one or the one just opened
    have hold : ∀ (i : Nat) (t : StreamTask), (v.tasks ++ [StreamTask.new v.nextStreamId destination
        v.opened.length])[i]? = some t → v.tasks[i]? = some t ∨ i = v.tasks.length ∧
          t = StreamTask.new v.nextStreamId destination v.opened.length := by
      intro i t ht
      rw [List.getElem?_append] at ht
      by_cases hi : i < v.tasks.length
      · rw [if_pos hi] at ht
        exact .inl ht
      · rw [if_neg hi] at ht
        rw [List.getElem?_singleton] at ht
        by_cases hzero : i - v.tasks.length = 0
        · rw [if_pos hzero] at ht
          cases ht
          exact .inr ⟨by omega, rfl⟩
        · rw [if_neg hzero] at ht
          cases ht
    refine ⟨?_, ?_, ?_⟩
    · intro i j t u ht hu hsame
      rcases hold i t ht with ht | ⟨hi, rfl⟩
      · rcases hold j u hu with hu | ⟨hj, rfl⟩
        · exact h.distinct i j t u ht hu hsame
        · exact absurd hsame (hnew t (List.mem_of_getElem? ht))
      · rcases hold j u hu with hu | ⟨hj, rfl⟩
        · exact absurd hsame.symm (hnew u (List.mem_of_getElem? hu))
        · rw [hi, hj]
    · intro i t ht
      rcases hold i t ht with ht | ⟨-, rfl⟩
      · exact h.scripts i t ht
      · -- nothing was sent under a new id
        have hnone : cellsOf v.nextStreamId v.sent = [] := by
          refine List.filter_eq_nil_iff.mpr fun p hp hsame => ?_
          obtain ⟨j, u, hu, hstream⟩ := h.owned p hp
          exact hnew u (List.mem_of_getElem? hu) (hstream.trans (of_decide_eq_true hsame))
        show Script _ (cellsOf v.nextStreamId v.sent)
        rw [hnone]
        exact .new ..
    · intro p hp
      obtain ⟨i, t, ht, hstream⟩ := h.owned p hp
      exact ⟨i, t, (List.getElem?_append_left (List.getElem?_eq_some_iff.mp ht).1).trans ht,
        hstream⟩
  | @sent e i t t' command data htask hsends =>
    refine scripts_modify h rfl rfl ?_ ?_ ?_
    · intro u hu
      cases htask.symm.trans hu
      exact hsends.same.1
    · intro p hp
      rw [List.mem_singleton.mp hp]
      exact ⟨t, htask, rfl⟩
    · intro u hu hscript
      cases htask.symm.trans hu
      have hself : cellsOf t.streamId [⟨t.streamId, command, data⟩] =
          [⟨t.streamId, command, data⟩] := cellsOf_self ⟨t.streamId, command, data⟩
      rw [hself]
      exact hscript.sends hsends
  | @moved e i f senders hf hkept =>
    refine scripts_modify h rfl (List.append_nil _).symm (fun t ht => (hf t ht).streamId)
      (fun p hp => absurd hp List.not_mem_nil) fun t ht hscript => ?_
    rw [cellsOf_nil, List.append_nil]
    exact hscript.goes (hf t ht)
  | read m =>
    show Session.Scripts { v with tasks := deliverTo v.tasks (delivery v.senders m), opened := _ }
    cases delivery v.senders m with
    | none => exact ⟨h.distinct, h.scripts, h.owned⟩
    | some d =>
      refine scripts_modify h rfl (List.append_nil _).symm (fun _ _ => rfl)
        (fun p hp => absurd hp List.not_mem_nil) fun t ht hscript => ?_
      rw [cellsOf_nil, List.append_nil]
      exact hscript.deliver d.2
  | served hserves hstreams => exact ⟨h.distinct, h.scripts, h.owned⟩
  | sealed p cell => exact ⟨h.distinct, h.scripts, h.owned⟩
  | streamEnded streamId => exact ⟨h.distinct, h.scripts, h.owned⟩

end Session.Change

/-! ## What the exit does for a stream -/

/-- The destinations the exit connected a stream to. -/
def connectsOf (streamId : StreamId) (log : List Effect) : List String :=
  log.filterMap fun e =>
    match e with
    | .connect id destination => if id = streamId then some destination else none
    | _ => none

/-- What the exit queued for the destination of a stream. -/
def queuedOf (streamId : StreamId) (log : List Effect) : List Bytes :=
  log.filterMap fun e =>
    match e with
    | .toDestination id data => if id = streamId then some data else none
    | _ => none

theorem connectsOf_append (streamId : StreamId) (log log' : List Effect) :
    connectsOf streamId (log ++ log') = connectsOf streamId log ++ connectsOf streamId log' :=
  List.filterMap_append

theorem queuedOf_append (streamId : StreamId) (log log' : List Effect) :
    queuedOf streamId (log ++ log') = queuedOf streamId log ++ queuedOf streamId log' :=
  List.filterMap_append

/-- What the exit did for a stream of which it accepted these cells: it connected where BEGIN
says and queued what followed, all of it while the connection is up. -/
inductive StreamServed : List Plain → List String → List Bytes → Option ExitStream → Prop
  | nothing : StreamServed [] [] [] none
  | begun {first : Plain} {rest : List Plain} {text : String} {queued : List Bytes}
      {stream : Option ExitStream} (htext : fromUtf8 first.data = some text)
      (hqueued : queued <+: dataOf rest)
      (halive : ∀ x ∈ stream, x.receiverAlive = true → queued = dataOf rest) :
      StreamServed (first :: rest) [trimEndNul text] queued stream

/-- The exit serves every stream, known or not. -/
def Session.Serving (v : Session) : Prop :=
  ∀ streamId, StreamServed (cellsOf streamId (acceptsOf v.exitLog)) (connectsOf streamId v.exitLog)
    (queuedOf streamId v.exitLog) (v.streams.lookup streamId)

namespace ExitCircuitHandler.Serves

variable {P : Primitives} {circuitId : CircuitId} {h h' : ExitCircuitHandler}
  {state : ExitCryptoState} {padding : Nat → UInt8} {connect : String → Except IoError Unit}
  {p : Plain} {done : List Effect}

/-- An answer connects nothing. -/
theorem connectsOf_answer (streamId : StreamId) (q : Plain) :
    connectsOf streamId (answer P state circuitId padding q) = [] := rfl

/-- Serving a cell does nothing for other streams. -/
theorem other (hserves : h.Serves P state circuitId padding connect p h' done)
    {streamId : StreamId} (hne : p.streamId ≠ streamId) :
    connectsOf streamId done = [] ∧ queuedOf streamId done = [] ∧
      h'.streams.lookup streamId = h.streams.lookup streamId := by
  have hconnects : ∀ destination, connectsOf streamId [.accept p.streamId p.command p.data,
      .connect p.streamId destination] = [] := by
    intro destination
    simp [connectsOf, hne]
  cases hserves with
  | @connected text hcommand htext hconnect =>
    refine ⟨?_, rfl, AList.lookup_insert_ne hne.symm⟩
    rw [connectsOf_append, connectsOf_append, hconnects, connectsOf_answer]
    rfl
  | @refused text e hcommand htext hconnect hreason =>
    refine ⟨?_, rfl, rfl⟩
    rw [connectsOf_append, hconnects, connectsOf_answer]
    rfl
  | queued hcommand hlookup halive => exact ⟨rfl, by simp [queuedOf, hne], rfl⟩
  | answered hcommand hreason hdead => exact ⟨rfl, rfl, rfl⟩
  | ended hcommand => exact ⟨rfl, rfl, AList.lookup_erase_ne hne.symm⟩

/-- **A cell of a script, served**: BEGIN connects, DATA is queued while the connection is
up, and nothing else is done. -/
theorem served (hserves : h.Serves P state circuitId padding connect p h' done)
    {accepted : List Plain} {connects : List String} {queued : List Bytes}
    (hserved : StreamServed accepted connects queued (h.streams.lookup p.streamId))
    (hfirst : accepted = [] → p.command = .begin) (hlater : accepted ≠ [] → p.command ≠ .begin) :
    StreamServed (accepted ++ [p]) (connects ++ connectsOf p.streamId done)
      (queued ++ queuedOf p.streamId done) (h'.streams.lookup p.streamId) := by
  obtain ⟨stream, hstream⟩ : ∃ stream, stream = h.streams.lookup p.streamId := ⟨_, rfl⟩
  rw [← hstream] at hserved
  cases hserved with
  | nothing =>
    -- the stream's first cell, a BEGIN
    have hbegin := hfirst rfl
    have hconnects : ∀ destination, connectsOf p.streamId [.accept p.streamId p.command p.data,
        .connect p.streamId destination] = [destination] := by
      intro destination
      simp [connectsOf]
    cases hserves with
    | @connected text hcommand htext hconnect =>
      rw [connectsOf_append, connectsOf_append, hconnects, connectsOf_answer]
      exact .begun htext List.prefix_rfl fun _ _ _ => rfl
    | @refused text e hcommand htext hconnect hreason =>
      rw [connectsOf_append, hconnects, connectsOf_answer]
      exact .begun htext List.prefix_rfl fun _ _ _ => rfl
    | queued hcommand hlookup halive => cases hbegin.symm.trans hcommand
    | answered hcommand hreason hdead => cases hbegin.symm.trans hcommand
    | ended hcommand => cases hbegin.symm.trans hcommand
  | @begun first rest text queued stream htext hqueued halive =>
    have hnotBegin := hlater (List.cons_ne_nil _ _)
    cases hserves with
    | connected hcommand _ _ => exact absurd hcommand hnotBegin
    | refused hcommand _ _ _ => exact absurd hcommand hnotBegin
    -- the connection is up, so all the DATA so far is queued and this one follows
    | @queued stream hcommand hlookup halive' =>
      have hsame := halive stream (hstream.trans hlookup) halive'
      have hdata : queuedOf p.streamId [.accept p.streamId p.command p.data,
          .toDestination p.streamId p.data] = [p.data] := by
        simp [queuedOf]
      have hall : queued ++ [p.data] = dataOf (rest ++ [p]) := by
        rw [hsame, dataOf_append, dataOf_data hcommand]
      rw [hdata]
      refine .begun htext ?_ fun _ _ _ => hall
      rw [hall]
      exact List.prefix_rfl
    | answered hcommand hreason hdead =>
      refine .begun htext ?_ fun x hx hup => ?_
      · show queued ++ [] <+: _
        rw [List.append_nil, List.append_eq, dataOf_append]
        exact hqueued.trans (List.prefix_append _ _)
      · rw [hdead x hx] at hup
        cases hup
    | ended hcommand =>
      have hend : dataOf [p] = [] := dataOf_other (by rw [hcommand]; decide)
      refine .begun htext ?_ fun x hx _ => ?_
      · show queued ++ [] <+: _
        rw [List.append_nil, List.append_eq, dataOf_append, hend, List.append_nil]
        exact hqueued
      · have hgone : (h.streams.erase p.streamId).lookup p.streamId = none :=
          AList.lookup_erase ..
        exact absurd (hgone.symm.trans hx) (fun h => nomatch h)

end ExitCircuitHandler.Serves

/-- A cell the exit accepts continues its stream's script. -/
theorem Session.Scripts.next {v : Session} (h : v.Scripts) {accepted : List Plain} {p : Plain}
    (hfront : accepted ++ [p] <+: v.sent) :
    (cellsOf p.streamId accepted = [] → p.command = .begin) ∧
      (cellsOf p.streamId accepted ≠ [] → p.command ≠ .begin) := by
  have hp : p ∈ v.sent := hfront.subset (List.mem_append_right _ List.mem_cons_self)
  obtain ⟨i, t, htask, hstream⟩ := h.owned p hp
  have hscript := h.scripts i t htask
  rw [hstream] at hscript
  obtain ⟨later, hlater⟩ := hfront
  have hcells : cellsOf p.streamId v.sent =
      cellsOf p.streamId accepted ++ p :: cellsOf p.streamId later := by
    rw [← hlater, cellsOf_append, cellsOf_append, cellsOf_self, List.append_assoc]
    rfl
  rw [hcells] at hscript
  cases haccepted : cellsOf p.streamId accepted with
  | nil =>
    rw [haccepted] at hscript
    refine ⟨fun _ => ?_, fun h => absurd rfl h⟩
    rw [hscript.first]
  | cons first rest =>
    rw [haccepted] at hscript
    exact ⟨fun hnil => absurd hnil (List.cons_ne_nil _ _),
      fun _ => hscript.later p (List.mem_append_right _ List.mem_cons_self)⟩

namespace Session.Change

variable {v v' : Session} {e : Event}

/-- **Every change keeps the exit serving**, when the exit accepts what was sent. -/
theorem serving (hchange : v.Change e v') (hscripts : v'.Scripts)
    (haccepts : acceptsOf v'.exitLog <+: v'.sent) (h : v.Serving) : v'.Serving := by
  cases hchange with
  | quiet => exact h
  | opened nextStreamId hallowed => exact h
  | sent htask hsends => exact h
  | moved hf hkept => exact h
  | read m => exact h
  | @served e P circuitId x x' state padding connect p done hserves hstreams =>
    intro streamId
    have hserved := h streamId
    obtain ⟨haccepted, -, -⟩ := hserves.answers
    have hlog : acceptsOf (v.exitLog ++ done) = acceptsOf v.exitLog ++ [p] := by
      rw [acceptsOf_append, haccepted]
    show StreamServed (cellsOf streamId (acceptsOf (v.exitLog ++ done)))
      (connectsOf streamId (v.exitLog ++ done)) (queuedOf streamId (v.exitLog ++ done))
      (x'.streams.lookup streamId)
    rw [hlog, cellsOf_append, connectsOf_append, queuedOf_append]
    rw [← hstreams] at hserved
    -- the exit's streams do not interfere: a cell serves its own and leaves the others
    by_cases hp : p.streamId = streamId
    · subst hp
      have hfront : acceptsOf v.exitLog ++ [p] <+: v.sent := by
        rw [← hlog]
        exact haccepts
      obtain ⟨hfirst, hlater⟩ := hscripts.next hfront
      rw [cellsOf_self]
      exact hserves.served hserved hfirst hlater
    · obtain ⟨hconnects, hqueued, hlookup⟩ := hserves.other hp
      rw [cellsOf_other hp, hconnects, hqueued, hlookup, List.append_nil, List.append_nil,
        List.append_nil]
      exact hserved
  | sealed p cell =>
    intro streamId
    -- sealing a cell of its own, the exit accepts, connects and queues nothing
    have haccepted : acceptsOf [.seal p.streamId p.command p.data, .toPrevHop cell] = [] := rfl
    have hconnects : connectsOf streamId
        [.seal p.streamId p.command p.data, .toPrevHop cell] = [] := rfl
    have hqueued : queuedOf streamId
        [.seal p.streamId p.command p.data, .toPrevHop cell] = [] := rfl
    show StreamServed (cellsOf streamId (acceptsOf (v.exitLog ++ _))) (connectsOf streamId (_ ++ _))
      (queuedOf streamId (_ ++ _)) _
    rw [acceptsOf_append, connectsOf_append, queuedOf_append, haccepted, hconnects, hqueued,
      List.append_nil, List.append_nil, List.append_nil]
    exact h streamId
  | streamEnded ended =>
    intro streamId
    have hserved := h streamId
    show StreamServed _ _ _ ((v.streams.modify ended _).lookup streamId)
    rw [AList.lookup_modify]
    by_cases hended : streamId = ended
    · rw [if_pos hended]
      revert hserved
      generalize cellsOf streamId (acceptsOf v.exitLog) = accepted
      generalize connectsOf streamId v.exitLog = connects
      generalize queuedOf streamId v.exitLog = queued
      generalize v.streams.lookup streamId = stream
      rintro (_ | ⟨htext, hqueued, halive⟩)
      · exact .nothing
      · refine .begun htext hqueued fun x hx hup => ?_
        obtain ⟨y, -, rfl⟩ := Option.map_eq_some_iff.mp hx
        cases hup
    · rw [if_neg hended]
      exact hserved

end Session.Change

/-! ## Whole runs -/

/-- Nothing is on its way forward to the exit. -/
def System.ForwardDrained (s : System) : Prop := (∀ n ∈ s.hops, n.fwdIn = []) ∧ s.exit.fwdIn = []

/-- The exit's connection of a stream, up or not. -/
def System.exitStream? (circuitId : CircuitId) (s : System) (streamId : StreamId) :
    Option ExitStream :=
  match s.exit.host.relay.registry.getCircuit circuitId with
  | some (.exit h) => h.streams.lookup streamId
  | _ => none

/-- **What the exit did for a script** it has accepted so far and `rest` of which is on its
way. -/
theorem Script.delivered {t : StreamTask} {accepted rest : List Plain} {connects : List String}
    {queued : List Bytes} {stream : Option ExitStream} (hok : t.Ok)
    (hscript : Script t (accepted ++ rest))
    (hserved : StreamServed accepted connects queued stream) :
    (connects = [] ∨ connects = [t.destination]) ∧ queued.flatten <+: t.read.flatten ∧
      ∀ x ∈ stream, x.receiverAlive = true → connects = [t.destination] ∧
        queued.flatten ++ (dataOf rest).flatten ++ t.pending.flatten = t.read.flatten := by
  cases hserved with
  | nothing => exact ⟨.inl rfl, List.nil_prefix, fun x hx => nomatch hx⟩
  | @begun first later text queued stream htext hqueued halive =>
    obtain ⟨-, hutf8, htrim⟩ := hok.beginPayload
    have hfirst : first = ⟨t.streamId, .begin, t.beginPayload⟩ := hscript.first
    have hdestination : trimEndNul text = t.destination := by
      rw [hfirst] at htext
      cases hutf8.symm.trans htext
      exact htrim
    have hread : (dataOf later).flatten ++ (dataOf rest).flatten ++ t.pending.flatten =
        t.read.flatten := by
      cases hscript with
      | begun hphase hrest hread =>
        rw [List.append_eq, dataOf_append, List.flatten_append] at hread
        exact hread
    rw [hdestination]
    refine ⟨.inr rfl, ?_, fun x hx hup => ⟨rfl, ?_⟩⟩
    · obtain ⟨more, hmore⟩ := hqueued
      rw [← hread, ← hmore, List.flatten_append, List.append_assoc, List.append_assoc]
      exact List.prefix_append _ _
    · rw [halive x hx hup]
      exact hread

variable {P : Primitives} {A : AddrSyntax} {circuitId : CircuitId}

/-- With nothing on its way, the exit has accepted what the client sealed. -/
theorem System.Core.accepts_eq {s : System} {h : ExitCircuitHandler} {state : ExitCryptoState}
    (hs : s.Core P circuitId h state) (hdrained : s.ForwardDrained) :
    acceptsOf s.exitLog = s.sent := by
  obtain ⟨hhops, hexit⟩ := hdrained
  refine hs.forward.received_eq fun x hx => ?_
  rcases List.mem_append.mp hx with hx | hx
  · obtain ⟨n, hn, rfl⟩ := List.mem_map.mp hx
    show messagesIn n.fwdIn = []
    rw [hhops n hn]
    rfl
  · rw [List.mem_singleton.mp hx]
    show messagesIn s.exit.fwdIn = []
    rw [hexit]
    rfl

end MiniTor
