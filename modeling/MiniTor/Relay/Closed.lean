import MiniTor.Relay.Isolation

/-!
# What a handler does before CREATE and after DESTROY (`entry.rs`, `middle.rs`, `exit.rs`)

`activate` and `close` set the state, the session key and the cipher together; no branch of
the handlers looks at the state itself. What keeps a handler that is not Active from acting
is that each branch asks for the cipher or for the next hop.

- `CircuitHandler.OnlyActive`: cipher, key and state go together, and links and streams only
  exist while the state is Active. It holds in every state of every run.
- `HandlerLife.Inert`: what a cell may do once the handler is destroyed.
- `acts_only_while_active_iff`: the one branch that asks for nothing is the middle's EXTENDED.
-/

namespace MiniTor

open Theory

variable (P : Primitives) (A : AddrSyntax)

/-! ## Views of a handler -/

namespace CircuitHandler

def state : CircuitHandler → CircuitState
  | entry h | middle h => h.context.state
  | exit h => h.context.state

def sessionKey : CircuitHandler → Option SessionKey
  | entry h | middle h => h.context.sessionKey
  | exit h => h.context.sessionKey

/-- It holds cipher state: the pair of the context, at the exit the shared state. -/
def hasCipher : CircuitHandler → Bool
  | entry h | middle h => h.context.cipherPair.isSome
  | exit h => h.sharedState.isSome

/-- It has a next hop, or open streams. -/
def linked : CircuitHandler → Bool
  | entry h | middle h => h.nextHop.isSome
  | exit h => !h.streams.entries.isEmpty

/-- A handler that is not Active has nothing to act with. -/
structure OnlyActive (h : CircuitHandler) : Prop where
  cipher : h.hasCipher = true ↔ h.sessionKey.isSome = true
  key : h.sessionKey.isSome = true ↔ h.state = .active
  linked : h.linked = true → h.state = .active

end CircuitHandler

/-! ## Runs -/

/-- What moves a handler: a cell that is dispatched to it, and what its reader task or the
tasks of its streams do. -/
inductive HandlerInput
  | cell (env : Env) (prevHopWrite : Option Message.Writer) (msg : Message)
  | backward (msg : Message)
  | spawnReader
  | sealStream (writer : Message.Writer) (streamId : StreamId) (command : MessageCommand)
      (data : Bytes)
  | streamEnded (streamId : StreamId)

/-- A handler, and whether it is destroyed: it had a DESTROY, and no CREATE that was accepted
came since. -/
structure HandlerLife where
  handler : CircuitHandler
  destroyed : Bool

/-- PADDING and DESTROY are ignored, or the cell is refused. -/
def Outcome.Refused {σ : Type} (o : Outcome σ) (msg : Message) : Prop :=
  (msg.command = .padding ∨ msg.command = .destroy) ∧ o.result = .ok none ∨
    ∃ e, o.result = .error e

namespace HandlerLife

def new (nodeType : NodeType) (circuitId : CircuitId) (keypair : KeyPair) : HandlerLife :=
  { handler := CircuitHandler.new nodeType circuitId keypair, destroyed := false }

/-- Whether it is destroyed after a cell with this result. -/
def destroyedAfter (l : HandlerLife) (msg : Message) (result : Except Error (Option Message)) :
    Bool :=
  match msg.command, result with
  | .destroy, _ => true
  | .create, .ok _ => false
  | _, _ => l.destroyed

def step (l : HandlerLife) : HandlerInput → HandlerLife
  | .cell env prevHopWrite msg =>
    let o := l.handler.handleMessage P A env prevHopWrite msg
    { handler := o.handler, destroyed := l.destroyedAfter msg o.result }
  | .backward msg => { l with handler := (l.handler.handleBackwardRelay P A msg).handler }
  | .spawnReader => { l with handler := l.handler.spawnNexthopReader.getD l.handler }
  | .sealStream writer streamId command data =>
    match l.handler with
    | .exit h => { l with handler := .exit (h.sealStream P writer streamId command data).handler }
    | .entry _ | .middle _ => l
  | .streamEnded streamId =>
    match l.handler with
    | .exit h => { l with handler := .exit (h.streamEnded streamId) }
    | .entry _ | .middle _ => l

/-- What a cell may do to a destroyed handler: PADDING and DESTROY are ignored, every other
cell but CREATE is refused; nothing is answered, forwarded or changed. -/
def Inert (l : HandlerLife) : HandlerInput → Prop
  | .cell env prevHopWrite msg =>
    l.destroyed = true → msg.command ≠ .create →
      let o := l.handler.handleMessage P A env prevHopWrite msg
      o.Refused msg ∧ o.sent = [] ∧ o.handler = l.handler
  | _ => True

/-- No EXTENDED with a key in it is dispatched to a middle that is destroyed. -/
def NoLateExtended (l : HandlerLife) : HandlerInput → Prop
  | .cell _ _ msg =>
    ¬(l.destroyed = true ∧ (∃ h, l.handler = .middle h) ∧ msg.command = .extended ∧
      32 ≤ msg.data.length)
  | _ => True

end HandlerLife

variable {P A}

/-! ## Handlers of the first hops -/

theorem CircuitContext.ntorCreate_ok {c c' : CircuitContext} {keypair : KeyPair}
    {ephemeral : ByteArr 32} {msg : Message} {payload : Bytes}
    (h : c.ntorCreate P keypair ephemeral msg = .ok (c', payload)) :
    ∃ key, c' = c.activate key := by
  unfold ntorCreate at h
  split at h
  · cases h
  · cases h
    exact ⟨_, rfl⟩

namespace HopHandler

/-- The invariant of entry and middle. -/
structure OnlyActive (h : HopHandler) : Prop where
  cipher : h.context.cipherPair.isSome = true ↔ h.context.sessionKey.isSome = true
  key : h.context.sessionKey.isSome = true ↔ h.context.state = .active
  nextHop : h.nextHop.isSome = true → h.context.state = .active

namespace OnlyActive

variable {h : HopHandler}

theorem active (hinv : h.OnlyActive) {cipher : CipherPair}
    (hcipher : h.context.cipherPair = some cipher) : h.context.state = .active :=
  hinv.key.mp (hinv.cipher.mp (by rw [hcipher]; rfl))

/-- A handler with a cipher may move it and be linked. -/
theorem withCipher (hinv : h.OnlyActive) {cipher : CipherPair}
    (hcipher : h.context.cipherPair = some cipher) (cipher' : CipherPair)
    (nextHop : Option NextHop) : OnlyActive { h.withCipher cipher' with nextHop } where
  cipher := ⟨fun _ => hinv.key.mpr (hinv.active hcipher), fun _ => rfl⟩
  key := hinv.key
  nextHop _ := hinv.active hcipher

theorem activate (h : HopHandler) (key : SessionKey) :
    OnlyActive { h with context := h.context.activate key } :=
  ⟨⟨fun _ => rfl, fun _ => rfl⟩, ⟨fun _ => rfl, fun _ => rfl⟩, fun _ => rfl⟩

theorem close (h : HopHandler) : h.close.OnlyActive :=
  ⟨⟨nofun, nofun⟩, ⟨nofun, nofun⟩, nofun⟩

theorem handleCreate (hinv : h.OnlyActive) (env : Env) (msg : Message) :
    (h.handleCreate P env msg).handler.OnlyActive := by
  unfold HopHandler.handleCreate
  split
  · exact hinv
  · rename_i hcreate
    obtain ⟨key, rfl⟩ := CircuitContext.ntorCreate_ok hcreate
    exact activate h key

theorem handleExtend (hinv : h.OnlyActive) (role : HopRole) (env : Env) (msg : Message) :
    (h.handleExtend P A role env msg).handler.OnlyActive := by
  unfold HopHandler.handleExtend
  split
  · exact hinv
  · rename_i cipher hcipher
    dsimp only
    split
    · exact hinv.withCipher hcipher _ h.nextHop
    · split
      · exact hinv.withCipher hcipher _ h.nextHop
      · exact hinv.withCipher hcipher _ _

theorem handleRelay (hinv : h.OnlyActive) (role : HopRole) (env : Env) (msg : Message) :
    (h.handleRelay P role env msg).handler.OnlyActive := by
  unfold HopHandler.handleRelay
  split
  · exact hinv
  · rename_i cipher hcipher
    dsimp only
    split
    · exact hinv.withCipher hcipher _ h.nextHop
    · split
      · exact hinv.withCipher hcipher _ h.nextHop
      · exact hinv.withCipher hcipher _ h.nextHop

theorem handleBackwardRelay (hinv : h.OnlyActive) (role : HopRole) (msg : Message) :
    (h.handleBackwardRelay P role msg).handler.OnlyActive := by
  unfold HopHandler.handleBackwardRelay
  split
  · exact hinv
  · rename_i cipher hcipher
    exact hinv.withCipher hcipher _ h.nextHop

theorem takeRead (hinv : h.OnlyActive) {h' : HopHandler} (htake : h.takeRead = some h') :
    h'.OnlyActive := by
  unfold HopHandler.takeRead at htake
  split at htake
  · rename_i hop hhop
    split at htake
    · cases htake
      exact ⟨hinv.cipher, hinv.key, fun _ => hinv.nextHop (by rw [hhop]; rfl)⟩
    · cases htake
  · cases htake

theorem handleMessageEntry (hinv : h.OnlyActive) (env : Env) (msg : Message) :
    (h.handleMessageEntry P A env msg).handler.OnlyActive := by
  unfold HopHandler.handleMessageEntry
  split
  · exact hinv.handleCreate env msg
  · split
    · exact hinv.handleRelay entryRole env msg
    · exact hinv.handleExtend entryRole env msg
  all_goals first
    | exact hinv.handleRelay entryRole env msg
    | exact close h
    | exact hinv

theorem handleMessageMiddle (hinv : h.OnlyActive) (env : Env) (msg : Message) :
    (h.handleMessageMiddle P A env msg).handler.OnlyActive := by
  unfold HopHandler.handleMessageMiddle
  split
  · exact hinv.handleCreate env msg
  · split
    · exact hinv.handleRelay (middleRole A) env msg
    · exact hinv.handleExtend (middleRole A) env msg
  · unfold handleExtended
    split <;> exact hinv
  all_goals first
    | exact hinv.handleRelay (middleRole A) env msg
    | exact close h
    | exact hinv

/-- A closed handler has nothing to act with. -/
theorem closed (hinv : h.OnlyActive) (hclosed : h.context.state = .closed) :
    h.context.cipherPair = none ∧ h.context.sessionKey = none ∧ h.nextHop = none := by
  have hstate : h.context.state ≠ .active := by
    rw [hclosed]
    exact nofun
  have hkey : ¬h.context.sessionKey.isSome = true := mt hinv.key.mp hstate
  refine ⟨?_, ?_, ?_⟩
  · exact Option.not_isSome_iff_eq_none.mp (mt hinv.cipher.mp hkey)
  · exact Option.not_isSome_iff_eq_none.mp hkey
  · exact Option.not_isSome_iff_eq_none.mp (mt hinv.nextHop hstate)

theorem close_eq (hinv : h.OnlyActive) (hclosed : h.context.state = .closed) : h.close = h := by
  obtain ⟨hcipher, hkey, hhop⟩ := hinv.closed hclosed
  obtain ⟨⟨circuitId, state, sessionKey, cipherPair⟩, keypair, nextHop⟩ := h
  cases hclosed
  cases hcipher
  cases hkey
  cases hhop
  rfl

end OnlyActive

end HopHandler

namespace HopHandler.OnlyActive

variable {h : HopHandler}

/-- Without a cipher neither EXTEND nor a cell to relay gets anywhere. -/
theorem handleRelay_closed (hinv : h.OnlyActive) (hclosed : h.context.state = .closed)
    (role : HopRole) (env : Env) (msg : Message) :
    h.handleRelay P role env msg = .fail h [] (.text role.noCipherForRelay) := by
  obtain ⟨hcipher, -, -⟩ := hinv.closed hclosed
  rw [HopHandler.handleRelay, hcipher]

theorem handleExtend_closed (hinv : h.OnlyActive) (hclosed : h.context.state = .closed)
    (role : HopRole) (env : Env) (msg : Message) :
    h.handleExtend P A role env msg = .fail h [] (.text role.noCipherForExtend) := by
  obtain ⟨hcipher, -, -⟩ := hinv.closed hclosed
  rw [HopHandler.handleExtend, hcipher]

theorem handleMessageEntry_closed (hinv : h.OnlyActive) (hclosed : h.context.state = .closed)
    (env : Env) {msg : Message} (hcreate : msg.command ≠ .create) :
    (h.handleMessageEntry P A env msg).handler = h ∧
      (h.handleMessageEntry P A env msg).sent = [] ∧
      (h.handleMessageEntry P A env msg).Refused msg := by
  obtain ⟨-, -, hhop⟩ := hinv.closed hclosed
  unfold HopHandler.handleMessageEntry
  cases hcommand : msg.command with
  | create => exact absurd hcommand hcreate
  | extend =>
    dsimp only
    rw [hhop, if_neg (by exact nofun), hinv.handleExtend_closed hclosed]
    exact ⟨rfl, rfl, .inr ⟨_, rfl⟩⟩
  | data | begin | «end» | connected =>
    dsimp only
    rw [hinv.handleRelay_closed hclosed]
    exact ⟨rfl, rfl, .inr ⟨_, rfl⟩⟩
  | destroy => exact ⟨hinv.close_eq hclosed, rfl, .inl ⟨.inr hcommand, rfl⟩⟩
  | padding => exact ⟨rfl, rfl, .inl ⟨.inl hcommand, rfl⟩⟩
  | created | extended => exact ⟨rfl, rfl, .inr ⟨_, rfl⟩⟩

/-- The middle does the same, except that it answers an EXTENDED with itself. -/
theorem handleMessageMiddle_closed (hinv : h.OnlyActive) (hclosed : h.context.state = .closed)
    (env : Env) {msg : Message} (hcreate : msg.command ≠ .create) :
    (h.handleMessageMiddle P A env msg).handler = h ∧
      (h.handleMessageMiddle P A env msg).sent = [] ∧
      ((h.handleMessageMiddle P A env msg).Refused msg ↔
        ¬(msg.command = .extended ∧ 32 ≤ msg.data.length)) := by
  obtain ⟨-, -, hhop⟩ := hinv.closed hclosed
  have hrefused : ∀ {o : Outcome HopHandler}, o.Refused msg → msg.command ≠ .extended →
      (o.Refused msg ↔ ¬(msg.command = .extended ∧ 32 ≤ msg.data.length)) :=
    fun ho hcommand => ⟨fun _ hext => hcommand hext.1, fun _ => ho⟩
  unfold HopHandler.handleMessageMiddle
  cases hcommand : msg.command with
  | create => exact absurd hcommand hcreate
  | extend =>
    dsimp only
    rw [hhop, if_neg (by exact nofun), hinv.handleExtend_closed hclosed, ← hcommand]
    exact ⟨rfl, rfl, hrefused (.inr ⟨_, rfl⟩) (by rw [hcommand]; exact nofun)⟩
  | data | begin | «end» | connected =>
    dsimp only
    rw [hinv.handleRelay_closed hclosed, ← hcommand]
    exact ⟨rfl, rfl, hrefused (.inr ⟨_, rfl⟩) (by rw [hcommand]; exact nofun)⟩
  | destroy =>
    dsimp only
    rw [hinv.close_eq hclosed, ← hcommand]
    exact ⟨rfl, rfl, hrefused (.inl ⟨.inr hcommand, rfl⟩) (by rw [hcommand]; exact nofun)⟩
  | padding =>
    dsimp only
    rw [← hcommand]
    exact ⟨rfl, rfl, hrefused (.inl ⟨.inl hcommand, rfl⟩) (by rw [hcommand]; exact nofun)⟩
  | created =>
    dsimp only
    rw [← hcommand]
    exact ⟨rfl, rfl, hrefused (.inr ⟨_, rfl⟩) (by rw [hcommand]; exact nofun)⟩
  | extended =>
    dsimp only
    unfold handleExtended
    by_cases hlen : msg.data.length < 32
    · rw [if_pos hlen]
      exact ⟨rfl, rfl, fun _ hlong => absurd hlong.2 (by omega), fun _ => .inr ⟨_, rfl⟩⟩
    · rw [if_neg hlen]
      refine ⟨rfl, rfl, ?_, fun hshort => absurd ⟨rfl, by omega⟩ hshort⟩
      rintro (⟨hquiet, -⟩ | ⟨e, he⟩)
      · rw [hcommand] at hquiet
        exact absurd hquiet (by decide)
      · cases he

end HopHandler.OnlyActive

/-! ## The exit -/

namespace ExitCircuitHandler

/-- The invariant of the exit, whose cipher pair is not in its context. -/
structure OnlyActive (h : ExitCircuitHandler) : Prop where
  cipher : h.sharedState.isSome = true ↔ h.context.sessionKey.isSome = true
  key : h.context.sessionKey.isSome = true ↔ h.context.state = .active
  streams : h.streams.entries ≠ [] → h.context.state = .active
  moved : h.context.cipherPair = none

namespace OnlyActive

variable {h h' : ExitCircuitHandler}

/-- A handler with crypto state may move it and change its streams. -/
theorem keep (hinv : h.OnlyActive) {state : ExitCryptoState} (hstate : h.sharedState = some state)
    (hcontext : h'.context = h.context) (hshared : h'.sharedState.isSome = true) :
    h'.OnlyActive := by
  have hactive : h.context.state = .active := hinv.key.mp (hinv.cipher.mp (by rw [hstate]; rfl))
  refine ⟨⟨fun _ => ?_, fun _ => hshared⟩, ?_, fun _ => ?_, ?_⟩
  · rw [hcontext]
    exact hinv.key.mpr hactive
  · rw [hcontext]
    exact hinv.key
  · rw [hcontext]
    exact hactive
  · rw [hcontext]
    exact hinv.moved

theorem close (h : ExitCircuitHandler) : h.close.OnlyActive :=
  ⟨⟨nofun, nofun⟩, ⟨nofun, nofun⟩, fun hne => absurd rfl hne, rfl⟩

theorem handleCreate (hinv : h.OnlyActive) (env : Env) (msg : Message) :
    (h.handleCreate P env msg).handler.OnlyActive := by
  unfold ExitCircuitHandler.handleCreate
  split
  · exact hinv
  · rename_i hcreate
    obtain ⟨key, rfl⟩ := CircuitContext.ntorCreate_ok hcreate
    exact ⟨⟨fun _ => rfl, fun _ => rfl⟩, ⟨fun _ => rfl, fun _ => rfl⟩, fun _ => rfl, rfl⟩

end OnlyActive

/-- What BEGIN, DATA and END leave of the context and the crypto state. -/
structure Kept (h h' : ExitCircuitHandler) : Prop where
  context : h'.context = h.context
  shared : h'.sharedState.isSome = true

theorem serveBegin_kept (env : Env) (writer : Message.Writer) {h : ExitCircuitHandler}
    (hshared : h.sharedState.isSome = true) (state : ExitCryptoState) (msg : Message)
    (decrypted : Bytes) : h.Kept (h.serveBegin P env writer state msg decrypted).handler := by
  unfold serveBegin
  dsimp only
  split
  · exact ⟨rfl, hshared⟩
  · split
    · split
      · exact ⟨rfl, rfl⟩
      · exact ⟨rfl, rfl⟩
    · exact ⟨rfl, rfl⟩

theorem serveData_kept {h : ExitCircuitHandler} (hshared : h.sharedState.isSome = true)
    (state : ExitCryptoState) (msg : Message) (decrypted : Bytes) :
    h.Kept (h.serveData P state msg decrypted).handler := by
  unfold serveData
  dsimp only
  split
  · split
    · exact ⟨rfl, hshared⟩
    · exact ⟨rfl, rfl⟩
  · exact ⟨rfl, rfl⟩

theorem serveEnd_kept (h : ExitCircuitHandler) (state : ExitCryptoState) (msg : Message)
    (decrypted : Bytes) : h.Kept (h.serveEnd P state msg decrypted).handler := ⟨rfl, rfl⟩

/-- What BEGIN, DATA and END have in common: the cell is opened, then served. -/
def serveOpened (P : Primitives) (h : ExitCircuitHandler) (msg : Message) (mismatch : String)
    (serve : ExitCircuitHandler → ExitCryptoState → Bytes → Outcome ExitCircuitHandler) :
    Outcome ExitCircuitHandler :=
  match h.openCell P msg mismatch with
  | .error (h, e) => .fail h [] e
  | .ok (h, state, decrypted) => serve h state decrypted

theorem OnlyActive.serveOpened {h : ExitCircuitHandler} (hinv : h.OnlyActive) (msg : Message)
    (mismatch : String)
    {serve : ExitCircuitHandler → ExitCryptoState → Bytes → Outcome ExitCircuitHandler}
    (hserve : ∀ (h : ExitCircuitHandler) state decrypted, h.sharedState.isSome = true →
      h.Kept (serve h state decrypted).handler) :
    (h.serveOpened P msg mismatch serve).handler.OnlyActive := by
  unfold ExitCircuitHandler.serveOpened
  cases hstate : h.sharedState with
  | none =>
    have hopen : h.openCell P msg mismatch = .error (h, .text "No crypto state established") := by
      rw [openCell, hstate]
    rw [hopen]
    exact hinv
  | some state =>
    cases hverified : (state.openForward P msg).2.2 with
    | false =>
      rw [openCell_error hstate hverified]
      exact hinv.keep hstate rfl rfl
    | true =>
      rw [openCell_ok hstate hverified]
      have hkept := hserve { h with sharedState := some (state.openForward P msg).1 }
        (state.openForward P msg).1 (state.openForward P msg).2.1 rfl
      exact hinv.keep hstate hkept.context hkept.shared

theorem serveOpened_closed {h : ExitCircuitHandler} (hstate : h.sharedState = none) (msg : Message)
    (mismatch : String)
    (serve : ExitCircuitHandler → ExitCryptoState → Bytes → Outcome ExitCircuitHandler) :
    h.serveOpened P msg mismatch serve = .fail h [] (.text "No crypto state established") := by
  rw [serveOpened, openCell, hstate]

namespace OnlyActive

variable {h : ExitCircuitHandler}

theorem handleMessage (hinv : h.OnlyActive) (env : Env) (prevHopWrite : Option Message.Writer)
    (msg : Message) : (h.handleMessage P env prevHopWrite msg).handler.OnlyActive := by
  unfold ExitCircuitHandler.handleMessage
  split
  · exact hinv.handleCreate env msg
  · split
    · exact hinv
    · exact hinv.serveOpened msg _ fun h state decrypted hshared =>
        serveBegin_kept env _ hshared state msg decrypted
  · exact hinv.serveOpened msg _ fun h state decrypted hshared =>
      serveData_kept hshared state msg decrypted
  · exact hinv.serveOpened msg _ fun h state decrypted _ => serveEnd_kept h state msg decrypted
  · exact close h
  all_goals exact hinv

theorem sealStream (hinv : h.OnlyActive) (writer : Message.Writer) (streamId : StreamId)
    (command : MessageCommand) (data : Bytes) :
    (h.sealStream P writer streamId command data).handler.OnlyActive := by
  unfold ExitCircuitHandler.sealStream
  split
  · exact hinv
  · rename_i state hstate
    dsimp only
    split
    · exact hinv.keep hstate rfl rfl
    · exact hinv.keep hstate rfl rfl

theorem streamEnded (hinv : h.OnlyActive) (streamId : StreamId) :
    (h.streamEnded streamId).OnlyActive := by
  refine ⟨hinv.cipher, hinv.key, fun hne => hinv.streams ?_, hinv.moved⟩
  intro hempty
  refine hne ?_
  show h.streams.entries.map _ = []
  rw [hempty]
  rfl

/-- A closed handler has nothing to act with. -/
theorem closed (hinv : h.OnlyActive) (hclosed : h.context.state = .closed) :
    h.sharedState = none ∧ h.context.sessionKey = none ∧ h.streams.entries = [] := by
  have hstate : h.context.state ≠ .active := by
    rw [hclosed]
    exact nofun
  have hkey : ¬h.context.sessionKey.isSome = true := mt hinv.key.mp hstate
  refine ⟨?_, ?_, ?_⟩
  · exact Option.not_isSome_iff_eq_none.mp (mt hinv.cipher.mp hkey)
  · exact Option.not_isSome_iff_eq_none.mp hkey
  · exact not_ne_iff.mp (mt hinv.streams hstate)

theorem close_eq (hinv : h.OnlyActive) (hclosed : h.context.state = .closed) : h.close = h := by
  obtain ⟨hshared, hkey, hstreams⟩ := hinv.closed hclosed
  have hmoved := hinv.moved
  obtain ⟨⟨circuitId, state, sessionKey, cipherPair⟩, keypair, streams, sharedState⟩ := h
  have hempty : streams = ∅ := AList.ext hstreams
  cases hclosed
  cases hshared
  cases hkey
  cases hmoved
  cases hempty
  rfl

theorem sealStream_closed (hinv : h.OnlyActive) (hclosed : h.context.state = .closed)
    (writer : Message.Writer) (streamId : StreamId) (command : MessageCommand) (data : Bytes) :
    (h.sealStream P writer streamId command data).handler.context.state = .closed := by
  obtain ⟨hshared, -, -⟩ := hinv.closed hclosed
  rw [ExitCircuitHandler.sealStream, hshared]
  exact hclosed

theorem handleMessage_closed (hinv : h.OnlyActive) (hclosed : h.context.state = .closed)
    (env : Env) (prevHopWrite : Option Message.Writer) {msg : Message}
    (hcreate : msg.command ≠ .create) :
    (h.handleMessage P env prevHopWrite msg).handler = h ∧
      (h.handleMessage P env prevHopWrite msg).sent = [] ∧
      (h.handleMessage P env prevHopWrite msg).Refused msg := by
  obtain ⟨hshared, -, -⟩ := hinv.closed hclosed
  have hserve : ∀ {mismatch : String}
      {serve : ExitCircuitHandler → ExitCryptoState → Bytes → Outcome ExitCircuitHandler},
      (h.serveOpened P msg mismatch serve).handler = h ∧
        (h.serveOpened P msg mismatch serve).sent = [] ∧
        (h.serveOpened P msg mismatch serve).Refused msg := by
    intro mismatch serve
    rw [serveOpened_closed hshared]
    exact ⟨rfl, rfl, .inr ⟨_, rfl⟩⟩
  unfold ExitCircuitHandler.handleMessage
  cases hcommand : msg.command with
  | create => exact absurd hcommand hcreate
  | begin =>
    cases prevHopWrite with
    | none => exact ⟨rfl, rfl, .inr ⟨_, rfl⟩⟩
    | some writer => exact hserve
  | data => exact hserve
  | «end» => exact hserve
  | destroy => exact ⟨hinv.close_eq hclosed, rfl, .inl ⟨.inr hcommand, rfl⟩⟩
  | padding => exact ⟨rfl, rfl, .inl ⟨.inl hcommand, rfl⟩⟩
  | created | extend | extended | connected => exact ⟨rfl, rfl, .inr ⟨_, rfl⟩⟩

end OnlyActive

end ExitCircuitHandler

/-! ## Runs of a handler -/

namespace CircuitHandler

/-- The invariant of the handler's role. -/
def Guarded : CircuitHandler → Prop
  | entry h | middle h => h.OnlyActive
  | exit h => h.OnlyActive

variable {h : CircuitHandler}

theorem Guarded.onlyActive (hinv : h.Guarded) : h.OnlyActive := by
  cases h with
  | entry h => exact ⟨hinv.cipher, hinv.key, hinv.nextHop⟩
  | middle h => exact ⟨hinv.cipher, hinv.key, hinv.nextHop⟩
  | exit h =>
    refine ⟨hinv.cipher, hinv.key, fun hlinked => hinv.streams ?_⟩
    rintro hempty
    rw [CircuitHandler.linked, hempty] at hlinked
    cases hlinked

theorem Guarded.new (nodeType : NodeType) (circuitId : CircuitId) (keypair : KeyPair) :
    (CircuitHandler.new nodeType circuitId keypair).Guarded := by
  cases nodeType with
  | entry => exact ⟨⟨nofun, nofun⟩, ⟨nofun, nofun⟩, nofun⟩
  | middle => exact ⟨⟨nofun, nofun⟩, ⟨nofun, nofun⟩, nofun⟩
  | exit => exact ⟨⟨nofun, nofun⟩, ⟨nofun, nofun⟩, fun hne => absurd rfl hne, rfl⟩

theorem Guarded.handleMessage (hinv : h.Guarded) (env : Env) (prevHopWrite : Option Message.Writer)
    (msg : Message) : (h.handleMessage P A env prevHopWrite msg).handler.Guarded := by
  cases h with
  | entry h => exact HopHandler.OnlyActive.handleMessageEntry hinv env msg
  | middle h => exact HopHandler.OnlyActive.handleMessageMiddle hinv env msg
  | exit h => exact ExitCircuitHandler.OnlyActive.handleMessage hinv env prevHopWrite msg

theorem Guarded.handleBackwardRelay (hinv : h.Guarded) (msg : Message) :
    (h.handleBackwardRelay P A msg).handler.Guarded := by
  cases h with
  | entry h => exact HopHandler.OnlyActive.handleBackwardRelay hinv entryRole msg
  | middle h => exact HopHandler.OnlyActive.handleBackwardRelay hinv (middleRole A) msg
  | exit h => exact hinv

theorem Guarded.spawnNexthopReader (hinv : h.Guarded) {h' : CircuitHandler}
    (hspawn : h.spawnNexthopReader = some h') : h'.Guarded := by
  cases h with
  | entry h =>
    obtain ⟨h', htake, rfl⟩ := Option.map_eq_some_iff.mp hspawn
    exact HopHandler.OnlyActive.takeRead hinv htake
  | middle h =>
    obtain ⟨h', htake, rfl⟩ := Option.map_eq_some_iff.mp hspawn
    exact HopHandler.OnlyActive.takeRead hinv htake
  | exit h => cases hspawn

/-- A cell for the previous hop is refused as well, and a closed handler has no reader. -/
theorem Guarded.closed_backward (hinv : h.Guarded) (hclosed : h.state = .closed)
    (msg : Message) : (h.handleBackwardRelay P A msg).handler.state = .closed := by
  have hhop : ∀ {h : HopHandler}, h.OnlyActive → h.context.state = .closed → ∀ role : HopRole,
      (h.handleBackwardRelay P role msg).handler = h := by
    intro h hinv hclosed role
    obtain ⟨hcipher, -, -⟩ := hinv.closed hclosed
    rw [HopHandler.handleBackwardRelay, hcipher]
    rfl
  cases h with
  | entry h =>
    exact (congrArg (fun h => h.context.state) (hhop hinv hclosed entryRole)).trans hclosed
  | middle h =>
    exact (congrArg (fun h => h.context.state) (hhop hinv hclosed (middleRole A))).trans hclosed
  | exit h => exact hclosed

theorem Guarded.closed_spawn (hinv : h.Guarded) (hclosed : h.state = .closed)
    {h' : CircuitHandler} (hspawn : h.spawnNexthopReader = some h') : h'.state = .closed := by
  have hhop : ∀ {h h' : HopHandler}, h.OnlyActive → h.context.state = .closed →
      h.takeRead ≠ some h' := by
    intro h h' hinv hclosed htake
    obtain ⟨-, -, hnone⟩ := hinv.closed hclosed
    rw [HopHandler.takeRead, hnone] at htake
    cases htake
  cases h with
  | entry h =>
    obtain ⟨h', htake, -⟩ := Option.map_eq_some_iff.mp hspawn
    exact absurd htake (hhop hinv hclosed)
  | middle h =>
    obtain ⟨h', htake, -⟩ := Option.map_eq_some_iff.mp hspawn
    exact absurd htake (hhop hinv hclosed)
  | exit h => cases hspawn

/-- A cell to a closed handler: it is ignored or refused unless it is an EXTENDED with a key
in it and the handler a middle. -/
theorem Guarded.closed_cell (hinv : h.Guarded) (hclosed : h.state = .closed) (env : Env)
    (prevHopWrite : Option Message.Writer) {msg : Message} (hcreate : msg.command ≠ .create) :
    (h.handleMessage P A env prevHopWrite msg).handler = h ∧
      (h.handleMessage P A env prevHopWrite msg).sent = [] ∧
      ((h.handleMessage P A env prevHopWrite msg).Refused msg ↔
        ¬((∃ m, h = .middle m) ∧ msg.command = .extended ∧ 32 ≤ msg.data.length)) := by
  cases h with
  | entry h =>
    obtain ⟨hsame, hsent, hrefused⟩ :=
      HopHandler.OnlyActive.handleMessageEntry_closed (P := P) (A := A) hinv hclosed env hcreate
    refine ⟨congrArg entry hsame, hsent, fun _ hlate => ?_, fun _ => hrefused⟩
    obtain ⟨⟨m, hm⟩, -⟩ := hlate
    cases hm
  | middle h =>
    obtain ⟨hsame, hsent, hrefused⟩ :=
      HopHandler.OnlyActive.handleMessageMiddle_closed (P := P) (A := A) hinv hclosed env hcreate
    refine ⟨congrArg middle hsame, hsent, hrefused.trans (not_congr ?_)⟩
    exact ⟨fun hlate => ⟨⟨h, rfl⟩, hlate⟩, fun hlate => hlate.2⟩
  | exit h =>
    obtain ⟨hsame, hsent, hrefused⟩ := ExitCircuitHandler.OnlyActive.handleMessage_closed (P := P)
      hinv hclosed env prevHopWrite hcreate
    refine ⟨congrArg exit hsame, hsent, fun _ hlate => ?_, fun _ => hrefused⟩
    obtain ⟨⟨m, hm⟩, -⟩ := hlate
    cases hm

/-- A DESTROY closes the handler. -/
theorem state_destroy (h : CircuitHandler) (env : Env) (prevHopWrite : Option Message.Writer)
    {msg : Message} (hcommand : msg.command = .destroy) :
    (h.handleMessage P A env prevHopWrite msg).handler.state = .closed := by
  cases h with
  | entry h =>
    show (h.handleMessageEntry P A env msg).handler.context.state = .closed
    rw [HopHandler.handleMessageEntry, hcommand]
    rfl
  | middle h =>
    show (h.handleMessageMiddle P A env msg).handler.context.state = .closed
    rw [HopHandler.handleMessageMiddle, hcommand]
    rfl
  | exit h =>
    show (h.handleMessage P env prevHopWrite msg).handler.context.state = .closed
    unfold ExitCircuitHandler.handleMessage
    rw [hcommand]
    rfl

/-- A CREATE that is refused leaves the handler as it was. -/
theorem handler_create_error {env : Env} {prevHopWrite : Option Message.Writer} {msg : Message}
    (hcommand : msg.command = .create) {e : Error}
    (herror : (h.handleMessage P A env prevHopWrite msg).result = .error e) :
    (h.handleMessage P A env prevHopWrite msg).handler = h := by
  have hhop : ∀ h : HopHandler, (h.handleCreate P env msg).result = .error e →
      (h.handleCreate P env msg).handler = h := by
    intro h herror
    unfold HopHandler.handleCreate at herror ⊢
    split at herror
    · rfl
    · cases herror
  cases h with
  | entry h =>
    have hdispatch : h.handleMessageEntry P A env msg = h.handleCreate P env msg := by
      rw [HopHandler.handleMessageEntry, hcommand]
    refine congrArg entry ?_
    rw [hdispatch]
    exact hhop h (hdispatch ▸ herror)
  | middle h =>
    have hdispatch : h.handleMessageMiddle P A env msg = h.handleCreate P env msg := by
      rw [HopHandler.handleMessageMiddle, hcommand]
    refine congrArg middle ?_
    rw [hdispatch]
    exact hhop h (hdispatch ▸ herror)
  | exit h =>
    have hdispatch : h.handleMessage P env prevHopWrite msg = h.handleCreate P env msg := by
      unfold ExitCircuitHandler.handleMessage
      rw [hcommand]
    have herror' : (h.handleCreate P env msg).result = .error e := hdispatch ▸ herror
    refine congrArg exit ?_
    rw [hdispatch]
    unfold ExitCircuitHandler.handleCreate at herror' ⊢
    split at herror'
    · rfl
    · rename_i hcreate
      -- an activated context has a cipher pair
      obtain ⟨key, rfl⟩ := CircuitContext.ntorCreate_ok hcreate
      cases herror'

end CircuitHandler

namespace HandlerLife

/-- The invariant of a run. -/
structure Inv (l : HandlerLife) : Prop where
  guarded : l.handler.Guarded
  closed : l.destroyed = true → l.handler.state = .closed

theorem Inv.new (nodeType : NodeType) (circuitId : CircuitId) (keypair : KeyPair) :
    (HandlerLife.new nodeType circuitId keypair).Inv :=
  ⟨CircuitHandler.Guarded.new nodeType circuitId keypair, nofun⟩

variable {l : HandlerLife}

theorem destroyedAfter_create_ok {msg : Message} (hcreate : msg.command = .create)
    (response : Option Message) : l.destroyedAfter msg (.ok response) = false := by
  unfold destroyedAfter
  rw [hcreate]

theorem destroyedAfter_create_error {msg : Message} (hcreate : msg.command = .create)
    (e : Error) : l.destroyedAfter msg (.error e) = l.destroyed := by
  unfold destroyedAfter
  rw [hcreate]

theorem destroyedAfter_other {msg : Message} (hdestroy : msg.command ≠ .destroy)
    (hcreate : msg.command ≠ .create) (result : Except Error (Option Message)) :
    l.destroyedAfter msg result = l.destroyed := by
  unfold destroyedAfter
  split
  · exact absurd ‹_› hdestroy
  · exact absurd ‹_› hcreate
  · rfl

/-- A cell that is neither DESTROY nor an accepted CREATE leaves a destroyed handler closed. -/
theorem Inv.cell (h : l.Inv) (env : Env) (prevHopWrite : Option Message.Writer) (msg : Message) :
    (l.step P A (.cell env prevHopWrite msg)).Inv := by
  refine ⟨h.guarded.handleMessage env prevHopWrite msg, fun hdestroyed => ?_⟩
  change l.destroyedAfter msg (l.handler.handleMessage P A env prevHopWrite msg).result = true
    at hdestroyed
  show (l.handler.handleMessage P A env prevHopWrite msg).handler.state = .closed
  by_cases hdestroy : msg.command = .destroy
  · exact l.handler.state_destroy env prevHopWrite hdestroy
  · by_cases hcreate : msg.command = .create
    · cases hresult : (l.handler.handleMessage P A env prevHopWrite msg).result with
      | error e =>
        rw [hresult, destroyedAfter_create_error hcreate] at hdestroyed
        rw [CircuitHandler.handler_create_error hcreate hresult]
        exact h.closed hdestroyed
      | ok response =>
        rw [hresult, destroyedAfter_create_ok hcreate] at hdestroyed
        cases hdestroyed
    · rw [destroyedAfter_other hdestroy hcreate] at hdestroyed
      rw [(h.guarded.closed_cell (h.closed hdestroyed) env prevHopWrite hcreate).1]
      exact h.closed hdestroyed

theorem Inv.step (h : l.Inv) (input : HandlerInput) : (l.step P A input).Inv := by
  cases input with
  | cell env prevHopWrite msg => exact h.cell env prevHopWrite msg
  | backward msg =>
    exact ⟨h.guarded.handleBackwardRelay msg, fun hdestroyed =>
      h.guarded.closed_backward (h.closed hdestroyed) msg⟩
  | spawnReader =>
    cases hspawn : l.handler.spawnNexthopReader with
    | none =>
      have hsame : l.step P A .spawnReader = l := by
        rw [HandlerLife.step, hspawn]
        rfl
      rw [hsame]
      exact h
    | some h' =>
      have hmoved : l.step P A .spawnReader = { l with handler := h' } := by
        rw [HandlerLife.step, hspawn]
        rfl
      rw [hmoved]
      exact ⟨h.guarded.spawnNexthopReader hspawn, fun hdestroyed =>
        h.guarded.closed_spawn (h.closed hdestroyed) hspawn⟩
  | sealStream writer streamId command data =>
    obtain ⟨handler, destroyed⟩ := l
    cases handler with
    | entry _ | middle _ => exact h
    | exit handler =>
      have hinv : handler.OnlyActive := h.guarded
      exact ⟨hinv.sealStream writer streamId command data, fun hdestroyed =>
        hinv.sealStream_closed (h.closed hdestroyed) writer streamId command data⟩
  | streamEnded streamId =>
    obtain ⟨handler, destroyed⟩ := l
    cases handler with
    | entry _ | middle _ => exact h
    | exit handler =>
      have hinv : handler.OnlyActive := h.guarded
      exact ⟨hinv.streamEnded streamId, h.closed⟩

/-- What a cell does to a destroyed handler. -/
theorem Inv.inert_iff (h : l.Inv) (input : HandlerInput) :
    l.Inert P A input ↔ l.NoLateExtended input := by
  cases input with
  | cell env prevHopWrite msg =>
    constructor
    · rintro hinert ⟨hdestroyed, hlate⟩
      have hcreate : msg.command ≠ .create := by
        rw [hlate.2.1]
        exact nofun
      obtain ⟨-, -, hrefused⟩ :=
        h.guarded.closed_cell (P := P) (A := A) (h.closed hdestroyed) env prevHopWrite hcreate
      exact hrefused.mp (hinert hdestroyed hcreate).1 hlate
    · intro hlate hdestroyed hcreate
      obtain ⟨hsame, hsent, hrefused⟩ :=
        h.guarded.closed_cell (P := P) (A := A) (h.closed hdestroyed) env prevHopWrite hcreate
      exact ⟨hrefused.mpr fun hext => hlate ⟨hdestroyed, hext⟩, hsent, hsame⟩
  | backward _ | spawnReader | sealStream _ _ _ _ | streamEnded _ =>
    exact ⟨fun _ => trivial, fun _ => trivial⟩

end HandlerLife

/-- **A handler acts only while it is Active, but for one cell.** In every state of every run
cipher, key and state go together and links and streams only exist while Active. Once
destroyed, a handler of any role ignores or refuses every cell but a CREATE, without an answer,
an effect or a change, exactly if no EXTENDED with a key in it is dispatched to a destroyed
middle. -/
theorem acts_only_while_active_iff (P : Primitives) (A : AddrSyntax) (nodeType : NodeType)
    (circuitId : CircuitId) (keypair : KeyPair) (inputs : List HandlerInput) :
    (EveryState (HandlerLife.step P A) (fun l => l.handler.OnlyActive)
        (HandlerLife.new nodeType circuitId keypair) inputs ∧
      EveryStep (HandlerLife.step P A) (fun l input => l.Inert P A input)
        (HandlerLife.new nodeType circuitId keypair) inputs) ↔
    EveryStep (HandlerLife.step P A) (fun l input => l.NoLateExtended input)
      (HandlerLife.new nodeType circuitId keypair) inputs := by
  have hstep : ∀ (l : HandlerLife) (input : HandlerInput), l.Inv → (l.step P A input).Inv :=
    fun l input h => h.step input
  have hnew : (HandlerLife.new nodeType circuitId keypair).Inv := .new nodeType circuitId keypair
  constructor
  · rintro ⟨-, hinert⟩
    exact hinert.of_invariant (fun l input h _ => hstep l input h)
      (fun l input h => (h.inert_iff input).mp) hnew
  · intro hlate
    constructor
    · exact hlate.everyState (fun l input h _ => hstep l input h)
        (fun l h => h.guarded.onlyActive) hnew
    · exact hlate.of_invariant (fun l input h _ => hstep l input h)
        (fun l input h => (h.inert_iff input).mpr) hnew

/-! ### A middle that answers after DESTROY -/

/-- A client creates circuit 1 at a middle and destroys it; then an EXTENDED comes in. -/
def lateExtended : List HandlerInput :=
  let cell (msg : Message) : HandlerInput := .cell SharedRelay.sampleEnv none msg
  [cell (Message.create 1 (sampleSecret 2).toList), cell (Message.destroy 1),
    cell (Message.extended 1 (sampleSecret 4).toList)]

/-- The middle returns the EXTENDED as its reply. -/
theorem destroyed_middle_answers :
    ¬EveryStep (HandlerLife.step .sample SharedRelay.sampleSyntax)
      (fun l input => l.Inert .sample SharedRelay.sampleSyntax input)
      (HandlerLife.new .middle 1 SharedRelay.sampleKeypair) lateExtended := by
  rintro ⟨-, -, hlate, -⟩
  obtain ⟨hrefused, -⟩ := hlate rfl nofun
  rcases hrefused with ⟨hquiet, -⟩ | ⟨e, he⟩
  · exact absurd hquiet (by decide)
  · cases he

end MiniTor
