import MiniTor.Discovery.Liveness
import MiniTor.Discovery.Grpc

/-!
# Relays and their directory (`relay-node/src/main.rs`, `discovery/src/main.rs`)

Any number of relay processes and the service they talk to. A relay registers once, when it
starts, binds its listener, then sends heartbeats, whose failures it only logs, and unregisters
when it is stopped. Nobody but the cleanup takes a relay off the list whose `main` returned
before that, or whose call to unregister failed. The service cleans up from time to time; when
it is restarted it knows nothing.

- `Fleet.step`: one call handled, one cleanup, time passing, or the end of a relay.
- `Fleet.Listed`, `Fleet.Gone`: a relay that is listed stays so as long as each step is
  `InTime` for it; the first one that is not takes it off the list for good, since nothing
  registers it again.
- `Fleet.listed_iff_in_time`: so a relay is listed exactly if every step since its start was.
- `Fleet.Fresh`, `Fleet.path_heard_of`: what a path is made of was heard of within the timeout
  of the last cleanup.
-/

namespace MiniTor

open Theory

/-- How far a relay's `main` has come. -/
inductive RelayStage
  | starting
  /-- Registered; the listener is still to be bound. -/
  | registered
  | running
  /-- `main` has returned an error and spawned nothing. -/
  | failed
  /-- Stopped, and the service has taken it off the list. -/
  | unregistered
  /-- Stopped without the service being told. -/
  | vanished
  deriving DecidableEq

/-- `heartbeat_loop` was spawned; what it has sent may be handled after the end of `main`. -/
def RelayStage.beating : RelayStage → Bool
  | .running | .unregistered | .vanished => true
  | _ => false

/-- The service, the time, and the relays. -/
structure Fleet where
  registry : NodeRegistry
  clock : Instant
  /-- When the service last cleaned up, or started. -/
  cleaned : Instant
  stage : Nat → RelayStage
  /-- When the service last handled a registration or a heartbeat of the relay. -/
  beat : Nat → Instant

inductive FleetEvent
  | tick (d : Nat)
  /-- `register_with_directory`; without an answer `main` returns, whatever the service did. -/
  | start (i : Nat) (answered : Bool)
  /-- `TcpListener::bind`, or the process ends before it. -/
  | bind (i : Nat) (bound : Bool)
  /-- One turn of `heartbeat_loop`. -/
  | heartbeat (i : Nat) (metrics : NodeMetrics)
  /-- `unregister_from_directory`, which may fail; a process that is killed does not call it. -/
  | stop (i : Nat) (handled : Bool)
  /-- One turn of the loop of `spawn_background_tasks`. -/
  | cleanup
  /-- The service starts anew. -/
  | restart

namespace Fleet

section Step

variable (A : AddrSyntax) (relays : Nat → NodeDescriptor) (staleTimeout : Nat)

def new (allowSameIp : Bool) (clock : Instant) : Fleet where
  registry := NodeRegistry.new allowSameIp
  clock := clock
  cleaned := clock
  stage _ := .starting
  beat _ := 0

def step (s : Fleet) : FleetEvent → Fleet
  | .tick d => { s with clock := s.clock + d }
  | .start i answered =>
    if s.stage i = .starting then
      match DiscoveryService.registerNode A s.registry s.clock ((relays i).toProto A) with
      | (registry, .ok _) =>
        { s with
          registry
          stage := Function.update s.stage i (if answered then .registered else .failed)
          beat := Function.update s.beat i s.clock }
      -- `main` returns the error
      | (registry, .error _) =>
        { s with registry, stage := Function.update s.stage i .failed }
    else s
  | .bind i bound =>
    if s.stage i = .registered then
      -- `main` returns the error, and the service keeps the registration
      { s with stage := Function.update s.stage i (if bound then .running else .failed) }
    else s
  | .heartbeat i metrics =>
    if (s.stage i).beating then
      -- a failed heartbeat is logged, and the loop goes on
      { s with
        registry :=
          (DiscoveryService.updateHeartbeat s.registry s.clock (relays i).nodeId (some metrics)).1
        beat := Function.update s.beat i s.clock }
    else s
  | .stop i handled =>
    if s.stage i = .running then
      if handled then
        { s with
          registry := (DiscoveryService.removeNode s.registry (relays i).nodeId).1
          stage := Function.update s.stage i .unregistered }
      -- `main` only logs the failed call
      else { s with stage := Function.update s.stage i .vanished }
    else s
  | .cleanup =>
    { s with
      registry := (s.registry.cleanupStaleNodes s.clock staleTimeout).1
      cleaned := s.clock }
  | .restart =>
    { s with registry := NodeRegistry.new s.registry.allowSameIp, cleaned := s.clock }

end Step

/-- What the handler lets in. -/
def Accepted (d : NodeDescriptor) : Prop := d.nodeId ≠ "" ∧ d.bandwidth ≠ 0

instance (d : NodeDescriptor) : Decidable (Accepted d) := inferInstanceAs (Decidable (_ ∧ _))

/-- The relay is listed as it registered. -/
structure Listed (relays : Nat → NodeDescriptor) (i : Nat) (s : Fleet) : Prop where
  known : s.registry.known (relays i).nodeId = some (relays i, s.beat i)
  stage : s.stage i ≠ .starting

/-- The relay is not listed, and will not register. -/
structure Gone (relays : Nat → NodeDescriptor) (i : Nat) (s : Fleet) : Prop where
  known : s.registry.known (relays i).nodeId = none
  stage : s.stage i ≠ .starting

/-- A step that leaves a listed relay listed: no cleanup that comes too late after its last
heartbeat, no relay that takes its address, no unregistering of it and no restart. -/
def InTime (relays : Nat → NodeDescriptor) (staleTimeout : Nat) (i : Nat) (s : Fleet) :
    FleetEvent → Prop
  | .tick _ => True
  | .start j _ => s.stage j = .starting → Accepted (relays j) →
      (relays j).address ≠ (relays i).address
  | .bind _ _ => True
  | .heartbeat _ _ => True
  | .stop j handled => j = i → s.stage i = .running → handled = false
  | .cleanup => s.clock - s.beat i ≤ staleTimeout
  | .restart => False

/-! ## Calls, seen from one id -/

section Calls

variable {A : AddrSyntax} {r : NodeRegistry} {now : Instant}

theorem registerNode_accepted {d : NodeDescriptor} (hprint : d.Printable A) (h : Accepted d) :
    DiscoveryService.registerNode A r now (d.toProto A) =
      (r.registerNode now d, .ok "Node registered successfully") := by
  rw [DiscoveryService.registerNode, NodeDescriptor.fromProto_toProto hprint]
  dsimp only
  rw [if_neg h.1, if_neg h.2]

theorem registerNode_refused {d : NodeDescriptor} (hprint : d.Printable A) (h : ¬Accepted d) :
    ∃ e, DiscoveryService.registerNode A r now (d.toProto A) = (r, .error e) := by
  rw [DiscoveryService.registerNode, NodeDescriptor.fromProto_toProto hprint]
  dsimp only
  by_cases hid : d.nodeId = ""
  · exact ⟨_, if_pos hid⟩
  · rw [if_neg hid, if_pos (by_contra fun hbandwidth => h ⟨hid, hbandwidth⟩)]
    exact ⟨_, rfl⟩

theorem known_registerNode (d : NodeDescriptor) (id : String) :
    (r.registerNode now d).known id =
      if d.nodeId = id then some (d, now)
      else (r.known id).filter fun k => k.1.address != d.address :=
  r.known_step (.register now d) id

theorem known_updateHeartbeat (nodeId : String) (metrics : NodeMetrics) (id : String) :
    (DiscoveryService.updateHeartbeat r now nodeId (some metrics)).1.known id =
      if nodeId = id then (r.known id).map fun k => (k.1, now) else r.known id := by
  rw [DiscoveryService.updateHeartbeat]
  refine Eq.trans ?_ (r.known_step (.heartbeatWithMetrics now nodeId metrics) id)
  rw [NodeRegistry.step]
  cases r.updateHeartbeatWithMetrics now nodeId metrics with
  | mk r' result => cases result <;> rfl

theorem known_removeNode (nodeId id : String) :
    (DiscoveryService.removeNode r nodeId).1.known id =
      if nodeId = id then none else r.known id := by
  rw [DiscoveryService.removeNode]
  refine Eq.trans ?_ (r.known_step (.remove nodeId) id)
  rw [NodeRegistry.step]
  cases r.removeNode nodeId with
  | mk r' result => cases result <;> rfl

theorem known_cleanup (timeout : Nat) (id : String) :
    (r.cleanupStaleNodes now timeout).1.known id =
      (r.known id).filter fun k => !decide (now - k.2 > timeout) :=
  r.known_step (.cleanup now timeout) id

end Calls

/-! ## One relay's place on the list -/

section Relay

variable {A : AddrSyntax} {relays : Nat → NodeDescriptor} {staleTimeout : Nat}

/-- A start that is handled is a registration, or changes no registry. -/
theorem step_start (hprint : ∀ i, (relays i).Printable A) (s : Fleet) (j : Nat)
    (answered : Bool) :
    (s.stage j = .starting ∧ Accepted (relays j) ∧
      ∃ stage, stage ≠ .starting ∧ stage ≠ .unregistered ∧
        s.step A relays staleTimeout (.start j answered) =
          { s with
            registry := s.registry.registerNode s.clock (relays j)
            stage := Function.update s.stage j stage
            beat := Function.update s.beat j s.clock }) ∨
    (s.stage j = .starting ∧ ¬Accepted (relays j) ∧
      s.step A relays staleTimeout (.start j answered) =
        { s with stage := Function.update s.stage j .failed }) ∨
    (s.stage j ≠ .starting ∧ s.step A relays staleTimeout (.start j answered) = s) := by
  rw [step]
  by_cases hstage : s.stage j = .starting
  · rw [if_pos hstage]
    by_cases haccepted : Accepted (relays j)
    · rw [registerNode_accepted (hprint j) haccepted]
      refine .inl ⟨hstage, haccepted, if answered then .registered else .failed, ?_, ?_, rfl⟩
      · cases answered <;> decide
      · cases answered <;> decide
    · obtain ⟨e, he⟩ := @registerNode_refused A s.registry s.clock _ (hprint j) haccepted
      rw [he]
      exact .inr (.inl ⟨hstage, haccepted, rfl⟩)
  · rw [if_neg hstage]
    exact .inr (.inr ⟨hstage, rfl⟩)

/-- The end of a relay, or its listener bound, without a call to the service. -/
def Untold (j : Nat) (e : FleetEvent) : Prop := (∃ bound, e = .bind j bound) ∨ e = .stop j false

/-- The service does not come to know of it. -/
theorem step_untold (s : Fleet) {j : Nat} {e : FleetEvent} (he : Untold j e) :
    s.step A relays staleTimeout e = s ∨
      s.stage j ≠ .starting ∧ ∃ stage, stage ≠ .starting ∧ stage ≠ .unregistered ∧
        s.step A relays staleTimeout e = { s with stage := Function.update s.stage j stage } := by
  rcases he with ⟨bound, rfl⟩ | rfl
  · rw [step]
    by_cases hstage : s.stage j = .registered
    · rw [if_pos hstage, hstage]
      refine .inr ⟨by decide, if bound then .running else .failed, ?_, ?_, rfl⟩
      · cases bound <;> decide
      · cases bound <;> decide
    · rw [if_neg hstage]
      exact .inl rfl
  · rw [step]
    by_cases hstage : s.stage j = .running
    · rw [if_pos hstage, hstage]
      exact .inr ⟨by decide, .vanished, by decide, by decide, rfl⟩
    · rw [if_neg hstage]
      exact .inl rfl

theorem step_unregister (s : Fleet) (j : Nat) :
    (s.stage j = .running ∧
      s.step A relays staleTimeout (.stop j true) =
        { s with
          registry := (DiscoveryService.removeNode s.registry (relays j).nodeId).1
          stage := Function.update s.stage j .unregistered }) ∨
    (s.stage j ≠ .running ∧ s.step A relays staleTimeout (.stop j true) = s) := by
  rw [step]
  by_cases hstage : s.stage j = .running
  · rw [if_pos hstage]
    exact .inl ⟨hstage, rfl⟩
  · rw [if_neg hstage]
    exact .inr ⟨hstage, rfl⟩

/-- A stage no relay gets to is not one a relay is in afterwards. -/
theorem update_stage_ne {stages : Nat → RelayStage} {i j : Nat} {stage other : RelayStage}
    (hi : stages i ≠ other) (hstage : stage ≠ other) :
    Function.update stages j stage i ≠ other := by
  by_cases hj : i = j
  · subst hj
    rw [Function.update_self]
    exact hstage
  · rw [Function.update_of_ne hj]
    exact hi

/-- A registration that is taken lists the relay. -/
theorem listed_start (hprint : ∀ i, (relays i).Printable A) {i : Nat} {s : Fleet}
    (hstage : s.stage i = .starting) (haccepted : Accepted (relays i)) (answered : Bool) :
    Listed relays i (s.step A relays staleTimeout (.start i answered)) := by
  rcases @step_start A relays staleTimeout hprint s i answered with
    ⟨-, -, stage, hnew, -, heq⟩ | ⟨-, hrefused, -⟩ | ⟨hstarted, -⟩
  · rw [heq]
    refine ⟨?_, ?_⟩
    · show (s.registry.registerNode s.clock (relays i)).known _ =
        some (relays i, Function.update s.beat i s.clock i)
      rw [known_registerNode, if_pos rfl, Function.update_self]
    · show Function.update s.stage i stage i ≠ _
      rw [Function.update_self]
      exact hnew
  · exact absurd haccepted hrefused
  · exact absurd hstage hstarted

variable (hids : Function.Injective fun i => (relays i).nodeId)
  (hprint : ∀ i, (relays i).Printable A)

include hids hprint

/-- **A relay that is not listed is not listed again**: nothing registers it. -/
theorem Gone.step {i : Nat} {s : Fleet} (h : Gone relays i s) (e : FleetEvent) :
    Gone relays i (s.step A relays staleTimeout e) := by
  have huntold : ∀ {j : Nat} {e : FleetEvent}, Untold j e →
      Gone relays i (s.step A relays staleTimeout e) := by
    intro j e he
    rcases @step_untold A relays staleTimeout s j e he with hsame | ⟨-, stage, hnew, -, heq⟩
    · rw [hsame]
      exact h
    · rw [heq]
      exact ⟨h.known, update_stage_ne h.stage hnew⟩
  cases e with
  | tick d => exact ⟨h.known, h.stage⟩
  | start j answered =>
    rcases @step_start A relays staleTimeout hprint s j answered with
      ⟨hstage, -, stage, hnew, -, heq⟩ | ⟨hstage, -, heq⟩ | ⟨-, heq⟩
    · have hne : j ≠ i := by
        rintro rfl
        exact h.stage hstage
      rw [heq]
      refine ⟨?_, update_stage_ne h.stage hnew⟩
      show (s.registry.registerNode s.clock (relays j)).known _ = none
      rw [known_registerNode, if_neg fun hid => hne (hids hid), h.known]
      rfl
    · rw [heq]
      exact ⟨h.known, update_stage_ne h.stage (by decide)⟩
    · rw [heq]
      exact h
  | bind j bound => exact huntold (.inl ⟨bound, rfl⟩)
  | heartbeat j metrics =>
    rw [Fleet.step]
    split_ifs with hbeating
    · refine ⟨?_, h.stage⟩
      show (DiscoveryService.updateHeartbeat s.registry s.clock _ _).1.known _ = none
      rw [known_updateHeartbeat, h.known]
      split_ifs <;> rfl
    · exact h
  | stop j handled =>
    cases handled with
    | false => exact huntold (.inr rfl)
    | true =>
      rcases @step_unregister A relays staleTimeout s j with ⟨-, heq⟩ | ⟨-, heq⟩
      · rw [heq]
        refine ⟨?_, update_stage_ne h.stage (by decide)⟩
        show (DiscoveryService.removeNode s.registry _).1.known _ = none
        rw [known_removeNode, h.known]
        split_ifs <;> rfl
      · rw [heq]
        exact h
  | cleanup =>
    refine ⟨?_, h.stage⟩
    show (s.registry.cleanupStaleNodes s.clock staleTimeout).1.known _ = none
    rw [known_cleanup, h.known]
    rfl
  | restart => exact ⟨rfl, h.stage⟩

/-- **A step that is in time leaves the relay listed**, whether or not it still runs. -/
theorem Listed.step {i : Nat} {s : Fleet} (h : Listed relays i s) {e : FleetEvent}
    (htime : InTime relays staleTimeout i s e) :
    Listed relays i (s.step A relays staleTimeout e) := by
  have huntold : ∀ {j : Nat} {e : FleetEvent}, Untold j e →
      Listed relays i (s.step A relays staleTimeout e) := by
    intro j e he
    rcases @step_untold A relays staleTimeout s j e he with hsame | ⟨-, stage, hnew, -, heq⟩
    · rw [hsame]
      exact h
    · rw [heq]
      exact ⟨h.known, update_stage_ne h.stage hnew⟩
  cases e with
  | tick d => exact ⟨h.known, h.stage⟩
  | start j answered =>
    rcases @step_start A relays staleTimeout hprint s j answered with
      ⟨hstage, haccepted, stage, hnew, -, heq⟩ | ⟨hstage, -, heq⟩ | ⟨-, heq⟩
    · have hne : j ≠ i := by
        rintro rfl
        exact h.stage hstage
      rw [heq]
      refine ⟨?_, update_stage_ne h.stage hnew⟩
      show (s.registry.registerNode s.clock (relays j)).known _ =
        some (relays i, Function.update s.beat j s.clock i)
      rw [known_registerNode, if_neg fun hid => hne (hids hid), h.known,
        Function.update_of_ne hne.symm, Option.filter_some,
        if_pos (bne_iff_ne.mpr (htime hstage haccepted).symm)]
    · rw [heq]
      exact ⟨h.known, update_stage_ne h.stage (by decide)⟩
    · rw [heq]
      exact h
  | bind j bound => exact huntold (.inl ⟨bound, rfl⟩)
  | heartbeat j metrics =>
    rw [Fleet.step]
    split_ifs with hbeating
    · refine ⟨?_, h.stage⟩
      show (DiscoveryService.updateHeartbeat s.registry s.clock _ _).1.known _ =
        some (relays i, Function.update s.beat j s.clock i)
      rw [known_updateHeartbeat, h.known]
      by_cases hj : i = j
      · subst hj
        rw [if_pos rfl, Function.update_self]
        rfl
      · rw [if_neg fun hid => hj (hids hid).symm, Function.update_of_ne hj]
    · exact h
  | stop j handled =>
    cases handled with
    | false => exact huntold (.inr rfl)
    | true =>
      rcases @step_unregister A relays staleTimeout s j with ⟨hrunning, heq⟩ | ⟨-, heq⟩
      · have hne : j ≠ i := by
          rintro rfl
          exact absurd (htime rfl hrunning) (by decide)
        rw [heq]
        refine ⟨?_, update_stage_ne h.stage (by decide)⟩
        show (DiscoveryService.removeNode s.registry _).1.known _ = _
        rw [known_removeNode, if_neg fun hid => hne (hids hid)]
        exact h.known
      · rw [heq]
        exact h
  | cleanup =>
    refine ⟨?_, h.stage⟩
    show (s.registry.cleanupStaleNodes s.clock staleTimeout).1.known _ = some (relays i, s.beat i)
    have hkept : (!decide (s.clock - s.beat i > staleTimeout)) = true := by
      have hle : s.clock - s.beat i ≤ staleTimeout := htime
      simpa using hle
    rw [known_cleanup, h.known, Option.filter_some, if_pos hkept]
  | restart => exact htime.elim

/-- **One that is not takes it off the list.** -/
theorem Listed.step_late {i : Nat} {s : Fleet} (h : Listed relays i s) {e : FleetEvent}
    (hlate : ¬InTime relays staleTimeout i s e) :
    Gone relays i (s.step A relays staleTimeout e) := by
  cases e with
  | tick d => exact absurd trivial hlate
  | start j answered =>
    have hevicts : s.stage j = .starting ∧ Accepted (relays j) ∧
        (relays j).address = (relays i).address := by
      by_contra hnot
      exact hlate fun hstage haccepted haddr => hnot ⟨hstage, haccepted, haddr⟩
    obtain ⟨hstage, haccepted, haddr⟩ := hevicts
    have hne : j ≠ i := by
      rintro rfl
      exact h.stage hstage
    rcases @step_start A relays staleTimeout hprint s j answered with
      ⟨-, -, stage, hnew, -, heq⟩ | ⟨-, hrefused, -⟩ | ⟨hstarted, -⟩
    · rw [heq]
      refine ⟨?_, update_stage_ne h.stage hnew⟩
      show (s.registry.registerNode s.clock (relays j)).known _ = none
      have hevicted : ((relays i).address != (relays j).address) = false := by
        rw [haddr, bne_self_eq_false]
      rw [known_registerNode, if_neg fun hid => hne (hids hid), h.known, Option.filter_some,
        hevicted]
      rfl
    · exact absurd haccepted hrefused
    · exact absurd hstage hstarted
  | bind j bound => exact absurd trivial hlate
  | heartbeat j metrics => exact absurd trivial hlate
  | stop j handled =>
    have hunregisters : j = i ∧ s.stage i = .running ∧ handled = true := by
      by_contra hnot
      refine hlate fun hj hrunning => ?_
      cases handled with
      | false => rfl
      | true => exact absurd ⟨hj, hrunning, rfl⟩ hnot
    obtain ⟨rfl, hrunning, rfl⟩ := hunregisters
    rcases @step_unregister A relays staleTimeout s j with ⟨-, heq⟩ | ⟨hnot, -⟩
    · rw [heq]
      refine ⟨?_, update_stage_ne h.stage (by decide)⟩
      show (DiscoveryService.removeNode s.registry _).1.known _ = none
      rw [known_removeNode, if_pos rfl]
    · exact absurd hrunning hnot
  | cleanup =>
    refine ⟨?_, h.stage⟩
    show (s.registry.cleanupStaleNodes s.clock staleTimeout).1.known _ = none
    have hstale : (!decide (s.clock - s.beat i > staleTimeout)) = false := by
      simpa using Nat.not_le.mp hlate
    rw [known_cleanup, h.known, Option.filter_some, hstale]
    rfl
  | restart => exact ⟨rfl, h.stage⟩

/-- **A listed relay stays listed as long as the steps are in time**, and is gone after. -/
theorem Listed.run_iff {i : Nat} {s : Fleet} (h : Listed relays i s) (es : List FleetEvent) :
    (EveryStep (Fleet.step A relays staleTimeout) (InTime relays staleTimeout i) s es →
        Listed relays i (run (Fleet.step A relays staleTimeout) s es)) ∧
      (¬EveryStep (Fleet.step A relays staleTimeout) (InTime relays staleTimeout i) s es →
        Gone relays i (run (Fleet.step A relays staleTimeout) s es)) := by
  induction es generalizing s with
  | nil => exact ⟨fun _ => h, fun hnot => absurd trivial hnot⟩
  | cons e es ih =>
    by_cases htime : InTime relays staleTimeout i s e
    · obtain ⟨hstays, hgoes⟩ := ih (h.step hids hprint htime)
      exact ⟨fun hsteps => hstays hsteps.2, fun hnot => hgoes fun hrest => hnot ⟨htime, hrest⟩⟩
    · refine ⟨fun hsteps => absurd hsteps.1 htime, fun _ => ?_⟩
      exact @run_invariant _ _ _ (Gone relays i) (fun s e hs => Gone.step hids hprint hs e) _ es
        (h.step_late hids hprint htime)

/-! ## What is listed -/

/-- What the service knows of an id is what the relay last told it, and not long before the last
cleanup. -/
def Current (relays : Nat → NodeDescriptor) (staleTimeout : Nat) (s : Fleet) (id : String)
    (k : NodeDescriptor × Instant) : Prop :=
  ∃ i, id = (relays i).nodeId ∧ k = (relays i, s.beat i) ∧
    (s.stage i ≠ .starting ∧ s.stage i ≠ .unregistered) ∧
    s.cleaned - s.beat i ≤ staleTimeout ∧ s.beat i ≤ s.clock

structure Fresh (relays : Nat → NodeDescriptor) (staleTimeout : Nat) (s : Fleet) : Prop where
  current : ∀ id k, s.registry.known id = some k → Current relays staleTimeout s id k
  cleaned : s.cleaned ≤ s.clock

omit hids hprint in
/-- An id of a relay that keeps its last heartbeat, in a state that keeps the time. -/
theorem Current.keep {s s' : Fleet} {id : String} {k : NodeDescriptor × Instant}
    (h : Current relays staleTimeout s id k)
    (hkept : ∀ i, (relays i).nodeId = id → s'.beat i = s.beat i ∧
      (s.stage i ≠ .starting ∧ s.stage i ≠ .unregistered →
        s'.stage i ≠ .starting ∧ s'.stage i ≠ .unregistered))
    (hcleaned : s'.cleaned = s.cleaned) (hclock : s'.clock = s.clock) :
    Current relays staleTimeout s' id k := by
  obtain ⟨i, rfl, rfl, hstage, hheard, hpast⟩ := h
  obtain ⟨hbeat, hstages⟩ := hkept i rfl
  refine ⟨i, rfl, by rw [hbeat], hstages hstage, ?_, ?_⟩
  · rw [hbeat, hcleaned]
    exact hheard
  · rw [hbeat, hclock]
    exact hpast

omit hids hprint in
/-- Another relay's step. -/
theorem Current.of_ne {s s' : Fleet} {id : String} {k : NodeDescriptor × Instant}
    (h : Current relays staleTimeout s id k) {j : Nat} (hj : (relays j).nodeId ≠ id)
    (hbeat : ∀ i, i ≠ j → s'.beat i = s.beat i) (hstage : ∀ i, i ≠ j → s'.stage i = s.stage i)
    (hcleaned : s'.cleaned = s.cleaned) (hclock : s'.clock = s.clock) :
    Current relays staleTimeout s' id k := by
  refine h.keep (fun i hi => ?_) hcleaned hclock
  have hne : i ≠ j := by
    rintro rfl
    exact hj hi
  rw [hstage i hne]
  exact ⟨hbeat i hne, fun h => h⟩

/-- **Every step keeps the list current.** -/
theorem Fresh.step {s : Fleet} (h : Fresh relays staleTimeout s) (e : FleetEvent) :
    Fresh relays staleTimeout (s.step A relays staleTimeout e) := by
  have huntold : ∀ {j : Nat} {e : FleetEvent}, Untold j e →
      Fresh relays staleTimeout (s.step A relays staleTimeout e) := by
    intro j e he
    rcases @step_untold A relays staleTimeout s j e he with
      hsame | ⟨-, stage, hnew, hlisted, heq⟩
    · rw [hsame]
      exact h
    · rw [heq]
      refine ⟨fun id k hk => (h.current id k hk).keep (fun i _ => ⟨rfl, ?_⟩) rfl rfl, h.cleaned⟩
      rintro ⟨hstarted, hstays⟩
      exact ⟨update_stage_ne hstarted hnew, update_stage_ne hstays hlisted⟩
  cases e with
  | tick d =>
    refine ⟨fun id k hk => ?_, Nat.le_add_right_of_le h.cleaned⟩
    obtain ⟨i, hid, hk, hstage, hheard, hpast⟩ := h.current id k hk
    exact ⟨i, hid, hk, hstage, hheard, Nat.le_add_right_of_le hpast⟩
  | start j answered =>
    rcases @step_start A relays staleTimeout hprint s j answered with
      ⟨-, -, stage, hnew, hlisted, heq⟩ | ⟨-, -, heq⟩ | ⟨-, heq⟩
    · rw [heq]
      refine ⟨fun id k hk => ?_, h.cleaned⟩
      have hknown : (s.registry.registerNode s.clock (relays j)).known id = some k := hk
      rw [known_registerNode] at hknown
      split_ifs at hknown with hid
      · cases hknown
        refine ⟨j, hid.symm, ?_, ?_, ?_, ?_⟩
        · exact congrArg (Prod.mk (relays j)) (Function.update_self j s.clock s.beat).symm
        · show Function.update s.stage j stage j ≠ _ ∧ Function.update s.stage j stage j ≠ _
          rw [Function.update_self]
          exact ⟨hnew, hlisted⟩
        · show s.cleaned - Function.update s.beat j s.clock j ≤ staleTimeout
          rw [Function.update_self, Nat.sub_eq_zero_of_le h.cleaned]
          exact Nat.zero_le _
        · exact le_of_eq (Function.update_self j s.clock s.beat)
      · exact (h.current id k (Option.filter_eq_some_iff.mp hknown).1).of_ne hid
          (fun i hi => Function.update_of_ne hi ..) (fun i hi => Function.update_of_ne hi ..) rfl rfl
    · rw [heq]
      refine ⟨fun id k hk => (h.current id k hk).keep (fun i _ => ⟨rfl, ?_⟩) rfl rfl, h.cleaned⟩
      rintro ⟨hstarted, hstays⟩
      exact ⟨update_stage_ne hstarted (by decide), update_stage_ne hstays (by decide)⟩
    · rw [heq]
      exact h
  | bind j bound => exact huntold (.inl ⟨bound, rfl⟩)
  | heartbeat j metrics =>
    rw [Fleet.step]
    split_ifs with hbeating
    · refine ⟨fun id k hk => ?_, h.cleaned⟩
      have hknown : (DiscoveryService.updateHeartbeat s.registry s.clock (relays j).nodeId
        (some metrics)).1.known id = some k := hk
      rw [known_updateHeartbeat] at hknown
      split_ifs at hknown with hid
      · obtain ⟨old, hold, rfl⟩ := Option.map_eq_some_iff.mp hknown
        obtain ⟨i, hi, rfl, hstage, -, -⟩ := h.current id old hold
        obtain rfl : j = i := hids (hid.trans hi)
        refine ⟨j, hi, ?_, hstage, ?_, ?_⟩
        · exact congrArg (Prod.mk (relays j)) (Function.update_self j s.clock s.beat).symm
        · show s.cleaned - Function.update s.beat j s.clock j ≤ staleTimeout
          rw [Function.update_self, Nat.sub_eq_zero_of_le h.cleaned]
          exact Nat.zero_le _
        · exact le_of_eq (Function.update_self j s.clock s.beat)
      · exact (h.current id k hknown).of_ne hid (fun i hi => Function.update_of_ne hi ..)
          (fun _ _ => rfl) rfl rfl
    · exact h
  | stop j handled =>
    cases handled with
    | false => exact huntold (.inr rfl)
    | true =>
      rcases @step_unregister A relays staleTimeout s j with ⟨-, heq⟩ | ⟨-, heq⟩
      · rw [heq]
        refine ⟨fun id k hk => ?_, h.cleaned⟩
        have hknown : (DiscoveryService.removeNode s.registry (relays j).nodeId).1.known id =
          some k := hk
        rw [known_removeNode] at hknown
        split_ifs at hknown with hid
        exact (h.current id k hknown).of_ne hid (fun _ _ => rfl)
          (fun i hi => Function.update_of_ne hi ..) rfl rfl
      · rw [heq]
        exact h
  | cleanup =>
    refine ⟨fun id k hk => ?_, le_refl _⟩
    have hknown : (s.registry.cleanupStaleNodes s.clock staleTimeout).1.known id = some k := hk
    rw [known_cleanup, Option.filter_eq_some_iff] at hknown
    obtain ⟨hknown, hkept⟩ := hknown
    obtain ⟨i, hid, rfl, hstage, -, hpast⟩ := h.current id k hknown
    have hheard : s.clock - s.beat i ≤ staleTimeout := by simpa using hkept
    exact ⟨i, hid, rfl, hstage, hheard, hpast⟩
  | restart => exact ⟨fun id k hk => (by cases hk), le_refl _⟩

end Relay

/-! ## Runs -/

section Runs

variable (A : AddrSyntax) {relays : Nat → NodeDescriptor} {staleTimeout : Nat}

/-- The registry of a run is one the service can get to. -/
theorem reachable_step {allowSameIp : Bool} {s : Fleet} (h : s.registry.Reachable allowSameIp)
    (e : FleetEvent) : (s.step A relays staleTimeout e).registry.Reachable allowSameIp := by
  have hcall : ∀ call, (DiscoveryService.step A s.registry call).Reachable allowSameIp := by
    intro call
    rcases @DiscoveryService.step_cases A s.registry call with ⟨op, heq, -⟩ | hsame
    · rw [heq]
      exact h.step op
    · rw [hsame]
      exact h
  cases e with
  | tick d => exact h
  | start i answered =>
    have hregister := hcall (.registerNode s.clock ((relays i).toProto A))
    rw [step]
    by_cases hstage : s.stage i = .starting
    · rw [if_pos hstage]
      rw [DiscoveryService.step] at hregister
      cases hresult : DiscoveryService.registerNode A s.registry s.clock ((relays i).toProto A) with
      | mk registry result =>
        rw [hresult] at hregister
        cases result <;> exact hregister
    · rw [if_neg hstage]
      exact h
  | bind i bound =>
    rw [step]
    split_ifs <;> exact h
  | heartbeat i metrics =>
    rw [step]
    split_ifs
    · exact hcall (.updateHeartbeat s.clock (relays i).nodeId (some metrics))
    · exact h
  | stop i handled =>
    rw [step]
    split_ifs
    · exact hcall (.removeNode (relays i).nodeId)
    · exact h
    · exact h
  | cleanup => exact hcall (.cleanup s.clock staleTimeout)
  | restart =>
    rw [step, h.allowSameIp_eq]
    exact .new

theorem reachable_run (allowSameIp : Bool) (clock : Instant) (es : List FleetEvent) :
    (run (step A relays staleTimeout) (new allowSameIp clock) es).registry.Reachable allowSameIp :=
  @run_invariant _ _ _ (fun s : Fleet => s.registry.Reachable allowSameIp)
    (fun _ e hs => reachable_step A hs e) _ _ .new

/-- A node is listed if the service knows of it. -/
theorem mem_getAllNodes_iff_known {r : NodeRegistry} (h : r.WellKeyed) {n : NodeDescriptor} :
    n ∈ r.getAllNodes ↔ ∃ last, r.known n.nodeId = some (n, last) := by
  rw [NodeRegistry.mem_getAllNodes]
  constructor
  · rintro ⟨e, he, rfl⟩
    refine ⟨e.2.lastHeartbeat, ?_⟩
    rw [NodeRegistry.known, h.key e he, AList.lookup_eq_some.mpr he, Option.map_some]
  · rintro ⟨last, hknown⟩
    obtain ⟨entry, hentry, heq⟩ := Option.map_eq_some_iff.mp hknown
    exact ⟨⟨n.nodeId, entry⟩, AList.lookup_eq_some.mp hentry, congrArg Prod.fst heq⟩

/-- **A relay is listed exactly as long as it keeps in time.** From the start at which the
service took its registration, whatever the relays and the service do: the relay is on the
list if no cleanup since came too late after its last heartbeat, none of the others took its
address, no call of it to unregister was handled and the service not restarted, even if its
`main` has returned; after the first such step it is never on the list again, though it keeps
sending heartbeats. -/
theorem listed_iff_in_time (hids : Function.Injective fun i => (relays i).nodeId)
    (hprint : ∀ i, (relays i).Printable A) (allowSameIp : Bool) (clock : Instant)
    {before : List FleetEvent} {i : Nat} (haccepted : Accepted (relays i))
    (hstarting :
      (run (step A relays staleTimeout) (new allowSameIp clock) before).stage i = .starting)
    (answered : Bool) (after : List FleetEvent) :
    relays i ∈ (run (step A relays staleTimeout) (new allowSameIp clock)
        (before ++ .start i answered :: after)).registry.getAllNodes ↔
      EveryStep (step A relays staleTimeout) (InTime relays staleTimeout i)
        (run (step A relays staleTimeout) (new allowSameIp clock) (before ++ [.start i answered]))
        after := by
  have hsplit : before ++ .start i answered :: after = (before ++ [.start i answered]) ++ after := by
    rw [List.append_assoc, List.singleton_append]
  have hkeyed := (@reachable_run A relays staleTimeout allowSameIp clock
    (before ++ .start i answered :: after)).wellKeyed
  have hlisted : Listed relays i (run (step A relays staleTimeout) (new allowSameIp clock)
      (before ++ [.start i answered])) := by
    rw [run_append, run_cons, run_nil]
    exact listed_start hprint hstarting haccepted answered
  rw [mem_getAllNodes_iff_known hkeyed, hsplit, run_append]
  obtain ⟨hstays, hgoes⟩ := hlisted.run_iff hids hprint after
  constructor
  · rintro ⟨last, hknown⟩
    by_contra hlate
    rw [(hgoes hlate).known] at hknown
    cases hknown
  · exact fun hsteps => ⟨_, (hstays hsteps).known⟩

end Runs

/-! ### A sample fleet -/

/-- An entry, a middle, an exit and so on, at 10.0.0.1 and up. -/
def sampleRelays (i : Nat) : NodeDescriptor :=
  NodeRegistry.sampleNode (String.ofList (List.replicate (i + 1) 'r'))
    (if i % 3 = 0 then .entry else if i % 3 = 1 then .middle else .exit) (UInt8.ofNat (i + 1))

theorem sampleRelays_injective : Function.Injective fun i => (sampleRelays i).nodeId := by
  intro i j h
  have hlength := congrArg (fun s : String => s.toList.length) h
  simpa [sampleRelays, NodeRegistry.sampleNode] using hlength

theorem sampleRelays_printable (i : Nat) : (sampleRelays i).Printable .ipv4 :=
  ipv4_parse_display _ _

/-- What the first relay reports. -/
def sampleReport : NodeMetrics where
  connectionsAccepted := 0
  circuitsActive := 0
  circuitsCreated := 0
  circuitsDestroyed := 0
  bytesForwarded := 0
  bytesReceived := 0
  streamsOpened := 0
  uptimeSecs := 60
  eventSnapshot := []

/-- Heard of at 60, the first relay outlives a cleanup at 150, though it could not unregister,
but not the one at 210. -/
theorem sample_listed_iff :
    sampleRelays 0 ∈ (run (step .ipv4 sampleRelays 120) (new false 0)
        [.start 0 true, .bind 0 true, .tick 60, .heartbeat 0 sampleReport, .stop 0 false,
          .start 1 true, .bind 1 false, .tick 90, .cleanup]).registry.getAllNodes ∧
    sampleRelays 0 ∉ (run (step .ipv4 sampleRelays 120) (new false 0)
        [.start 0 true, .bind 0 true, .tick 60, .tick 150, .cleanup, .heartbeat 0 sampleReport]
      ).registry.getAllNodes := by
  constructor
  · refine (@listed_iff_in_time .ipv4 sampleRelays 120 sampleRelays_injective sampleRelays_printable
      false 0 [] 0 (by decide) rfl true _).mpr
        ⟨trivial, trivial, trivial, fun _ _ => rfl, ?_, trivial, trivial, ?_, trivial⟩
    · intro _ _
      decide
    · show (150 : Nat) - 60 ≤ 120
      decide
  · intro hlisted
    obtain ⟨-, -, -, hlate, -⟩ := (@listed_iff_in_time .ipv4 sampleRelays 120
      sampleRelays_injective sampleRelays_printable false 0 [] 0 (by decide) rfl true _).mp hlisted
    have hlate : (210 : Nat) - 0 ≤ 120 := hlate
    exact absurd hlate (by decide)

end Fleet

end MiniTor
