import MiniTor.Client.Ageing

/-!
# The two maps of the pool (`tor-client/src/core/circuit.rs`)

Builds, replacements, expiry and the monitor's cleanup each change one or both of
`circuits` and `circuit_ages`.

- `Store.AgesFiled`: the property wanted of the two.
- `Store.Filing`: what an event does to them.
- `ages_filed_iff`: they keep step exactly as long as no id that has an age is taken out.
-/

namespace MiniTor.Client

open Theory

namespace Store

/-- Every age is that of a circuit in the pool, and no other is reported. -/
structure AgesFiled (s : Store) : Prop where
  filed : ∀ circuitId ∈ s.pool.circuitAges, circuitId ∈ s.pool.circuits
  reported : ∀ circuitId now age, s.pool.circuitAge circuitId now = some age →
    ∃ a, s.pool.circuits.lookup circuitId = some a

/-- What becomes of the two maps when these ids are taken out of the pool; for each, whether
a new circuit was filed after it. -/
inductive Filing (s : Store) : List (CircuitId × Bool) → Store → Prop
  | kept {t : Store} (hcircuits : t.pool.circuits = s.pool.circuits)
      (hages : ∀ circuitId ∈ t.pool.circuitAges, circuitId ∈ s.pool.circuitAges) : Filing s [] t
  | built {t : Store} {a : Arc} {now : Nat}
      (hcircuits : t.pool.circuits = s.pool.circuits.insert s.pool.nextCircuitId a)
      (hages : t.pool.circuitAges = s.pool.circuitAges.insert s.pool.nextCircuitId now) :
      Filing s [] t
  | taken {t : Store} {circuitId : CircuitId}
      (hcircuits : t.pool.circuits = s.pool.circuits.erase circuitId)
      (hages : t.pool.circuitAges = s.pool.circuitAges) : Filing s [(circuitId, false)] t
  | replaced {t : Store} {circuitId : CircuitId} {a : Arc} {now : Nat}
      (hcircuits : t.pool.circuits =
        (s.pool.circuits.erase circuitId).insert s.pool.nextCircuitId a)
      (hages : t.pool.circuitAges = s.pool.circuitAges.insert s.pool.nextCircuitId now) :
      Filing s [(circuitId, true)] t

variable {s t : Store}

theorem AgesFiled.of_filed (h : ∀ circuitId ∈ s.pool.circuitAges, circuitId ∈ s.pool.circuits) :
    s.AgesFiled := by
  refine ⟨h, fun circuitId now age hage => ?_⟩
  obtain ⟨created, hcreated, -⟩ := Option.map_eq_some_iff.mp hage
  have hmem : circuitId ∈ s.pool.circuitAges :=
    AList.lookup_isSome.mp (Option.isSome_of_mem hcreated)
  exact Option.isSome_iff_exists.mp (AList.lookup_isSome.mpr (h circuitId hmem))

theorem filing_buildCircuit (s : Store) (now : Nat) (built : Except Error OnionKeys) :
    s.Filing [] (s.buildCircuit now built).1 := by
  cases built with
  | error error => exact .kept rfl fun _ => id
  | ok onionKeys => exact .built rfl rfl

theorem filing_replaceCircuit (s : Store) (failedId : CircuitId) (now : Nat)
    (built : Except Error OnionKeys) :
    s.Filing [(failedId, built.toBool)] (s.replaceCircuit failedId now built).1 := by
  cases built with
  | error error => exact .taken rfl rfl
  | ok onionKeys => exact .replaced rfl rfl

/-- Expiry only drops ages. -/
theorem filed_expireOne (s : Store) (circuitId : CircuitId) :
    (s.expireOne circuitId).1.pool.circuits = s.pool.circuits ∧
      ∀ id ∈ (s.expireOne circuitId).1.pool.circuitAges, id ∈ s.pool.circuitAges := by
  cases hready : s.readyIn circuitId with
  | false =>
    rw [expireOne_idle hready]
    exact ⟨rfl, fun _ => id⟩
  | true =>
    obtain ⟨a, live, hlookup, hlive, hstate⟩ := readyIn_iff.mp hready
    rw [expireOne_ready hlookup hlive hstate]
    exact ⟨rfl, fun id hid => (AList.mem_erase.mp hid).2⟩

theorem filed_expireAgedCircuits (s : Store) (toExpire : List CircuitId) :
    (s.expireAgedCircuits toExpire).1.pool.circuits = s.pool.circuits ∧
      ∀ id ∈ (s.expireAgedCircuits toExpire).1.pool.circuitAges, id ∈ s.pool.circuitAges := by
  induction toExpire generalizing s with
  | nil => exact ⟨rfl, fun _ => id⟩
  | cons circuitId toExpire ih =>
    obtain ⟨hcircuits, hages⟩ := s.filed_expireOne circuitId
    obtain ⟨hcircuits', hages'⟩ := ih (s.expireOne circuitId).1
    exact ⟨hcircuits'.trans hcircuits, fun id hid => hages id (hages' id hid)⟩

/-- Ages without a circuit come from an id that is taken out of the pool with its age left in
place, unless the new circuit has the same id. -/
theorem Filing.agesFiled_iff {out : List (CircuitId × Bool)} (hfiling : s.Filing out t)
    (h : s.AgesFiled) : t.AgesFiled ↔ ∀ x ∈ out, x.1 ∈ s.pool.circuitAges →
      x.2 = true ∧ s.pool.nextCircuitId = x.1 := by
  cases hfiling with
  | kept hcircuits hages =>
    refine iff_of_true (.of_filed fun id hid => ?_) fun x hx => absurd hx List.not_mem_nil
    rw [hcircuits]
    exact h.filed id (hages id hid)
  | built hcircuits hages =>
    refine iff_of_true (.of_filed fun id hid => ?_) fun x hx => absurd hx List.not_mem_nil
    rw [hages] at hid
    rw [hcircuits]
    exact (AList.mem_insert _).mpr (((AList.mem_insert _).mp hid).imp_right (h.filed id))
  | @taken _ circuitId hcircuits hages =>
    rw [List.forall_mem_singleton]
    constructor
    · intro ht hage
      have hin := ht.filed circuitId (hages ▸ hage)
      rw [hcircuits] at hin
      exact absurd rfl (AList.mem_erase.mp hin).1
    · intro hkeeps
      refine .of_filed fun id hid => ?_
      rw [hages] at hid
      rw [hcircuits]
      refine AList.mem_erase.mpr ⟨?_, h.filed id hid⟩
      rintro rfl
      exact absurd (hkeeps hid).1 Bool.false_ne_true
  | @replaced _ circuitId a now hcircuits hages =>
    rw [List.forall_mem_singleton]
    constructor
    · intro ht hage
      have hin := ht.filed circuitId (hages ▸ (AList.mem_insert _).mpr (.inr hage))
      rw [hcircuits] at hin
      rcases (AList.mem_insert _).mp hin with hnext | herased
      · exact ⟨rfl, hnext.symm⟩
      · exact absurd rfl (AList.mem_erase.mp herased).1
    · intro hkeeps
      refine .of_filed fun id hid => ?_
      rw [hages] at hid
      rw [hcircuits]
      refine (AList.mem_insert _).mpr (((AList.mem_insert _).mp hid).elim .inl fun hold => ?_)
      by_cases hid' : id = circuitId
      · subst hid'
        exact .inl (hkeeps hold).2.symm
      · exact .inr (AList.mem_erase.mpr ⟨hid', h.filed id hold⟩)

end Store

namespace ClientState

variable (P : Primitives)

/-- The ids that an event takes out of the pool, and whether a new circuit is filed after it. -/
def takenOut (s : ClientState) : PoolEvent → List (CircuitId × Bool)
  | .task e =>
    match s.act P e with
    | .cleansUp dirtyId => [(dirtyId, false)]
    | .replaces failedId _ built => [(failedId, built.toBool)]
    | _ => []
  | .call (.replaceCircuit failedId _ built) =>
    if s.holder.isSome then [] else [(failedId, built.toBool)]
  | .call _ => []

/-- No id that has an age is taken out of the pool, but for one under which the new circuit is
filed again. -/
def KeepsAges (s : ClientState) (e : PoolEvent) : Prop :=
  ∀ x ∈ s.takenOut P e, x.1 ∈ s.store.pool.circuitAges →
    x.2 = true ∧ s.store.pool.nextCircuitId = x.1

variable {P} {s : ClientState}

/-- What a step of the tasks does to the two maps. -/
theorem filing_step (s : ClientState) (e : ClientEvent) :
    s.store.Filing (s.takenOut P (.task e)) (s.step P e).store := by
  have hstep := step_act (P := P) s e
  unfold takenOut
  dsimp only
  generalize s.act P e = act at hstep
  generalize s.step P e = s' at hstep
  cases hstep with
  | quiet hstore hbeside => exact hstore ▸ .kept rfl fun _ => id
  | touched hf hstore hbeside => exact hstore ▸ .kept rfl fun _ => id
  | ended hlive hreader hstore hbeside => exact hstore ▸ .kept rfl fun _ => id
  | registered hlive hselected hstore hbeside => exact hstore ▸ .kept rfl fun _ => id
  | unregistered hstore hbeside => exact hstore ▸ .kept rfl fun _ => id
  | left hlive hreader hleaves hstore hbeside => exact hstore ▸ .kept rfl fun _ => id
  | @expired _ circuitId a live hlookup hlive hready hstore hattempts hremoved howed hconnections =>
    obtain ⟨hcircuits, hages⟩ := s.store.filed_expireOne circuitId
    exact hstore ▸ .kept hcircuits hages
  | rebuilt hstore hattempts hremoved howed hconnections =>
    exact hstore ▸ s.store.filing_buildCircuit _ _
  | demanded hstore hattempts hremoved howed hselected =>
    exact hstore ▸ s.store.filing_buildCircuit _ _
  | picked hin hstore hattempts hremoved howed hselected => exact hstore ▸ .kept rfl fun _ => id
  | cleaned hstore hattempts hremoved howed hconnections => exact hstore ▸ .taken rfl rfl
  | replaced hstore hattempts hremoved howed hselected =>
    exact hstore ▸ s.store.filing_replaceCircuit _ _ _

theorem filing_poolStep (s : ClientState) (e : PoolEvent) :
    s.store.Filing (s.takenOut P e) (s.poolStep P e).store := by
  cases e with
  | task e => exact s.filing_step e
  | call c =>
    by_cases hheld : s.holder.isSome = true
    · have hsame : s.poolStep P (.call c) = s := if_pos hheld
      have hnone : s.takenOut P (.call c) = [] := by
        cases c with
        | replaceCircuit failedId now built => exact if_pos hheld
        | _ => rfl
      rw [hsame, hnone]
      exact .kept rfl fun _ => id
    · have hcall : s.poolStep P (.call c) = s.call c := if_neg hheld
      rw [hcall]
      cases c with
      | setMaxCircuitAge age => exact .kept rfl fun _ => id
      | buildCircuit now built => exact s.store.filing_buildCircuit now built
      | replaceCircuit failedId now built =>
        have hout : s.takenOut P (.call (.replaceCircuit failedId now built)) =
            [(failedId, built.toBool)] := if_neg hheld
        rw [hout]
        exact s.store.filing_replaceCircuit failedId now built
      | expireAgedCircuits now order =>
        obtain ⟨hcircuits, hages⟩ := s.store.filed_expireAgedCircuits order
        show s.store.Filing [] (if order.Perm (s.store.pool.toExpire now) then
          { s with store := (s.store.expireAgedCircuits order).1 } else s).store
        split
        · exact .kept hcircuits hages
        · exact .kept rfl fun _ => id

/-- **The map of ages keeps step with the pool** exactly in the runs that take no id with an
age out of the pool. -/
theorem ages_filed_iff (P : Primitives) (poolSize maxRebuildAttempts : Nat)
    (events : List PoolEvent) :
    EveryState (poolStep P) (fun s => s.store.AgesFiled)
        (start (.new poolSize maxRebuildAttempts)) events ↔
      EveryStep (poolStep P) (KeepsAges P) (start (.new poolSize maxRebuildAttempts)) events := by
  have hstep : ∀ (s : ClientState) (e : PoolEvent), s.store.AgesFiled →
      ((s.poolStep P e).store.AgesFiled ↔ s.KeepsAges P e) :=
    fun s e h => (s.filing_poolStep e).agesFiled_iff h
  refine @everyState_iff _ _ (poolStep P) (KeepsAges P) (fun s => s.store.AgesFiled) _
    (fun s e h => (hstep s e h).mpr) (fun _ h => h) (fun s e h => (hstep s e h).mp) _ _ ?_
  exact .of_filed fun circuitId hmem => absurd hmem List.not_mem_nil

/-- The only circuit of a pool ends before it is old, and the monitor replaces it. -/
def replaceYoung : List PoolEvent :=
  let ended : List ClientEvent := [.read 0 none, .readerEnd 0] ++ samplePass ++
    [.monitor 0 sampleBuilt, .monitor 0 sampleBuilt]
  .call (.buildCircuit 0 sampleBuilt) :: ended.map .task

/-- **A replaced circuit leaves its age behind.** -/
theorem replaced_leaves_age : ¬EveryState (poolStep .sample) (fun s => s.store.AgesFiled)
    (start (.new 1 3)) replaceYoung := by
  intro h
  have hleft : let p := (run (poolStep .sample) (start (.new 1 3)) replaceYoung).store.pool
      1 ∈ p.circuitAges.keys ∧ 1 ∉ p.circuits.keys := by
    decide +kernel
  exact hleft.2 (h.last.filed 1 hleft.1)

end ClientState

end MiniTor.Client
