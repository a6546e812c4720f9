import Mathlib
import MiniTor.Client.Steps

/-!
# The age of circuits (`tor-client/src/core/circuit.rs`)

The pool notes when it built a circuit, in a map beside that of the circuits, and
`expire_aged_circuits` marks the ready ones that are too old as Dirty.

- `Store.expireAgedCircuits`: the call, in whatever order its map is gone through; the
  monitor's critical sections amount to it (`run_expiring`).
- `PoolEvent`: the client's tasks, and calls of the pool's methods from anywhere.
- `Store.Changes`: what one of them does to the store.
- `expiry_exact`: expiry returns and marks exactly the ready circuits that are too old,
  in every state of every run.
-/

namespace MiniTor.Client

open Theory

namespace CircuitPool

variable {p : CircuitPool} {circuitId : CircuitId} {now : Nat}

/-- Returns the age of a circuit, or `none` if the circuit ID is unknown. -/
def circuitAge (p : CircuitPool) (circuitId : CircuitId) (now : Nat) : Option Nat :=
  (p.circuitAges.lookup circuitId).map fun created => now - created

theorem mem_toExpire : circuitId ∈ p.toExpire now ↔
    ∃ age, p.circuitAge circuitId now = some age ∧ p.maxCircuitAge ≤ age := by
  unfold toExpire circuitAge
  rw [List.mem_map]
  constructor
  · rintro ⟨⟨id, created⟩, hentry, rfl⟩
    obtain ⟨hmem, hold⟩ := List.mem_filter.mp hentry
    refine ⟨now - created, ?_, of_decide_eq_true hold⟩
    rw [AList.lookup_eq_some.mpr hmem]
    rfl
  · rintro ⟨age, hage, hold⟩
    obtain ⟨created, hcreated, rfl⟩ := Option.map_eq_some_iff.mp hage
    exact ⟨⟨circuitId, created⟩, List.mem_filter.mpr
      ⟨AList.lookup_eq_some.mp hcreated, decide_eq_true hold⟩, rfl⟩

theorem nodup_toExpire (p : CircuitPool) (now : Nat) : (p.toExpire now).Nodup :=
  List.Nodup.sublist (List.filter_sublist.map Sigma.fst) p.circuitAges.nodupKeys

end CircuitPool

/-! ## The call -/

namespace Store

/-- The pool has a ready circuit under the id. -/
def readyIn (s : Store) (circuitId : CircuitId) : Bool :=
  (s.pool.circuits.lookup circuitId).any fun a => decide (s.stateOf a = some .ready)

/-- `expire_aged_circuits`, over the ids it found, in the order its map has them; and the ids
it returns. -/
def expireAgedCircuits (s : Store) : List CircuitId → Store × List CircuitId
  | [] => (s, [])
  | circuitId :: toExpire =>
    let (s, expired) := s.expireOne circuitId
    let (s, agedOut) := s.expireAgedCircuits toExpire
    (s, if expired then circuitId :: agedOut else agedOut)

variable {s t : Store} {circuitId : CircuitId} {a : Arc} {live : LiveCircuit}

theorem expireAgedCircuits_cons (s : Store) (circuitId : CircuitId)
    (toExpire : List CircuitId) : s.expireAgedCircuits (circuitId :: toExpire) =
      (((s.expireOne circuitId).1.expireAgedCircuits toExpire).1,
        if (s.expireOne circuitId).2 then
          circuitId :: ((s.expireOne circuitId).1.expireAgedCircuits toExpire).2
        else ((s.expireOne circuitId).1.expireAgedCircuits toExpire).2) := rfl

theorem readyIn_iff : s.readyIn circuitId = true ↔ ∃ a live,
    s.pool.circuits.lookup circuitId = some a ∧ s.heap[a]? = some live ∧
      live.circuit.state = .ready := by
  unfold readyIn stateOf
  rw [Option.any_eq_true]
  constructor
  · rintro ⟨a, hlookup, hready⟩
    obtain ⟨live, hlive, hstate⟩ := Option.map_eq_some_iff.mp (of_decide_eq_true hready)
    exact ⟨a, live, hlookup, hlive, hstate⟩
  · rintro ⟨a, live, hlookup, hlive, hready⟩
    refine ⟨a, hlookup, decide_eq_true ?_⟩
    rw [hlive]
    exact congrArg some hready

theorem expireOne_ready (hlookup : s.pool.circuits.lookup circuitId = some a)
    (hlive : s.heap[a]? = some live) (hready : live.circuit.state = .ready) :
    s.expireOne circuitId = (Store.update { s with pool :=
      { s.pool with circuitAges := s.pool.circuitAges.erase circuitId } } a LiveCircuit.expire,
      true) := by
  simp only [expireOne, hlookup, hlive, if_pos hready]

theorem expireOne_idle (h : s.readyIn circuitId = false) : s.expireOne circuitId = (s, false) := by
  unfold expireOne
  split
  · rfl
  · rename_i a hlookup
    split
    · rfl
    · rename_i live hlive
      refine if_neg fun hready => ?_
      rw [readyIn_iff.mpr ⟨a, live, hlookup, hlive, hready⟩] at h
      cases h

theorem readyIn_expireOne_ne (hsound : s.Sound)
    (hlookup : s.pool.circuits.lookup circuitId = some a) (hlive : s.heap[a]? = some live)
    (hready : live.circuit.state = .ready) {id : CircuitId} (hne : id ≠ circuitId) :
    (s.expireOne circuitId).1.readyIn id = s.readyIn id := by
  have halike := alike_expired hlookup hlive hready
  unfold readyIn
  rw [halike.circuits]
  show (s.pool.circuits.lookup id).any _ = _
  cases hb : s.pool.circuits.lookup id with
  | none => rfl
  | some b =>
    have hab : a ≠ b := by
      rintro rfl
      exact hne (hsound.lookup_inj hb hlookup)
    have hstate := (halike.stateOf b).trans (stateOf_update_ne LiveCircuit.expire hab)
    rw [Option.any_some, Option.any_some, hstate]

theorem Alike.readyIn (h : s.Alike t) (circuitId : CircuitId) :
    t.readyIn circuitId = s.readyIn circuitId := by
  unfold Store.readyIn
  rw [h.circuits]
  exact congrArg (fun p => Option.any p _) (funext fun a => by rw [h.stateOf])

/-- What is left after the ready circuits under these ids aged out. -/
structure Expired (s : Store) (agedOut : List CircuitId) (t : Store) : Prop where
  pool : t.pool = { s.pool with circuitAges := t.pool.circuitAges }
  ages : ∀ circuitId, t.pool.circuitAges.lookup circuitId =
    if circuitId ∈ agedOut then none else s.pool.circuitAges.lookup circuitId
  dirtied : ∀ circuitId ∈ agedOut, ∀ a live, s.pool.circuits.lookup circuitId = some a →
    s.heap[a]? = some live → t.heap[a]? = some live.expire
  others : ∀ a, (∀ circuitId ∈ agedOut, s.pool.circuits.lookup circuitId ≠ some a) →
    t.heap[a]? = s.heap[a]?

theorem Expired.refl (s : Store) : s.Expired [] s :=
  ⟨rfl, fun _ => rfl, fun _ h => absurd h List.not_mem_nil, fun _ _ => rfl⟩

theorem Expired.lookup {agedOut : List CircuitId} (h : s.Expired agedOut t)
    (circuitId : CircuitId) :
    t.pool.circuits.lookup circuitId = s.pool.circuits.lookup circuitId := by
  rw [h.pool]

/-- One circuit ages out first. -/
theorem Expired.cons (hsound : s.Sound) {agedOut : List CircuitId}
    (hlookup : s.pool.circuits.lookup circuitId = some a) (hlive : s.heap[a]? = some live)
    (hready : live.circuit.state = .ready) (hnew : circuitId ∉ agedOut)
    (h : (s.expireOne circuitId).1.Expired agedOut t) : s.Expired (circuitId :: agedOut) t := by
  have hone := congrArg Prod.fst (expireOne_ready hlookup hlive hready)
  rw [hone] at h
  refine ⟨h.pool, fun id => ?_, fun id hid b old hb hold => ?_, fun b hb => ?_⟩
  · rw [h.ages]
    by_cases hmem : id ∈ agedOut
    · rw [if_pos hmem, if_pos (List.mem_cons_of_mem _ hmem)]
    · rw [if_neg hmem]
      by_cases hid : id = circuitId
      · rw [if_pos (List.mem_cons.mpr (.inl hid)), hid]
        exact AList.lookup_erase ..
      · rw [if_neg fun hcons => (List.mem_cons.mp hcons).elim hid hmem]
        exact AList.lookup_erase_ne hid
  · rcases List.mem_cons.mp hid with rfl | hmem
    · -- the circuit itself: the later ids are others, and so are their circuits
      cases hlookup.symm.trans hb
      cases hlive.symm.trans hold
      rw [h.others a fun id' hid' hlookup' => hnew (hsound.lookup_inj hlookup' hlookup ▸ hid')]
      exact getElem?_update_self (s := s) LiveCircuit.expire hlive
    · refine h.dirtied id hmem b old hb ?_
      have hne : a ≠ b := by
        rintro rfl
        exact hnew (hsound.lookup_inj hb hlookup ▸ hmem)
      exact (getElem?_update_ne (s := s) LiveCircuit.expire hne).trans hold
  · rw [h.others b fun id hid => hb id (List.mem_cons_of_mem _ hid)]
    have hne : a ≠ b := fun hab => hb circuitId List.mem_cons_self (hab ▸ hlookup)
    exact getElem?_update_ne (s := s) LiveCircuit.expire hne

/-- What the call does: the ids it returns are those with a ready circuit, and these aged
out. -/
theorem expireAgedCircuits_spec (hsound : s.Sound) {toExpire : List CircuitId}
    (hnodup : toExpire.Nodup) :
    (s.expireAgedCircuits toExpire).2 = toExpire.filter s.readyIn ∧
      s.Expired (s.expireAgedCircuits toExpire).2 (s.expireAgedCircuits toExpire).1 := by
  induction toExpire generalizing s with
  | nil => exact ⟨rfl, .refl s⟩
  | cons circuitId toExpire ih =>
    obtain ⟨hnew, hnodup⟩ := List.nodup_cons.mp hnodup
    cases hready : s.readyIn circuitId with
    | false =>
      have hcons : s.expireAgedCircuits (circuitId :: toExpire) = s.expireAgedCircuits toExpire := by
        rw [expireAgedCircuits_cons, expireOne_idle hready]
        rfl
      rw [hcons, List.filter_cons_of_neg (by rw [hready]; exact Bool.false_ne_true)]
      exact ih hsound hnodup
    | true =>
      obtain ⟨a, live, hlookup, hlive, hstate⟩ := readyIn_iff.mp hready
      obtain ⟨hreturned, hexpired⟩ := ih (hsound.expireOne hlookup hlive hstate) hnodup
      have hexpires : (s.expireOne circuitId).2 = true :=
        congrArg Prod.snd (expireOne_ready hlookup hlive hstate)
      -- a circuit that aged out does not make another one ready
      have hsame : toExpire.filter (s.expireOne circuitId).1.readyIn =
          toExpire.filter s.readyIn := by
        refine List.filter_congr fun id hid => ?_
        have hne : id ≠ circuitId := by
          rintro rfl
          exact hnew hid
        exact readyIn_expireOne_ne hsound hlookup hlive hstate hne
      rw [expireAgedCircuits_cons, if_pos hexpires, List.filter_cons_of_pos hready]
      refine ⟨congrArg _ (hreturned.trans hsame), .cons hsound hlookup hlive hstate ?_ hexpired⟩
      rw [hreturned]
      exact fun hmem => hnew (List.mem_of_mem_filter hmem)

/-- What `expire_aged_circuits` is for. In this order of its map it returns, each once, the
ready circuits that are too old, marks these as Dirty and changes nothing else but ages; and
called again it finds none. -/
structure ExpiresExactly (s : Store) (now : Nat) (order : List CircuitId) : Prop where
  once : (s.expireAgedCircuits order).2.Nodup
  returned : ∀ circuitId, circuitId ∈ (s.expireAgedCircuits order).2 ↔
    s.readyIn circuitId = true ∧
      ∃ age, s.pool.circuitAge circuitId now = some age ∧ s.pool.maxCircuitAge ≤ age
  dirtied : ∀ circuitId ∈ (s.expireAgedCircuits order).2, ∃ a live,
    s.pool.circuits.lookup circuitId = some a ∧ s.heap[a]? = some live ∧
      (s.expireAgedCircuits order).1.heap[a]? =
        some { live with circuit := { live.circuit with state := .dirty } }
  others : ∀ a, (∀ circuitId ∈ (s.expireAgedCircuits order).2,
    s.pool.circuits.lookup circuitId ≠ some a) →
      (s.expireAgedCircuits order).1.heap[a]? = s.heap[a]?
  pool : (s.expireAgedCircuits order).1.pool =
    { s.pool with circuitAges := (s.expireAgedCircuits order).1.pool.circuitAges }
  again : ∀ order', order'.Perm ((s.expireAgedCircuits order).1.pool.toExpire now) →
    ((s.expireAgedCircuits order).1.expireAgedCircuits order').2 = []

/-- One step of the loop, as a change. -/
theorem change_expireOne (s : Store) (circuitId : CircuitId) :
    s.Change (s.expireOne circuitId).1 := by
  cases hready : s.readyIn circuitId with
  | false =>
    rw [expireOne_idle hready]
    exact .same
  | true =>
    obtain ⟨a, live, hlookup, hlive, hstate⟩ := readyIn_iff.mp hready
    exact .aged hlookup hlive hstate

/-- What one event does, which may be several changes. -/
def Changes : Store → Store → Prop := Relation.ReflTransGen Change

theorem changes_expireAgedCircuits (s : Store) (toExpire : List CircuitId) :
    s.Changes (s.expireAgedCircuits toExpire).1 := by
  induction toExpire generalizing s with
  | nil => exact .refl
  | cons circuitId toExpire ih => exact .head (change_expireOne s circuitId) (ih _)

theorem Changes.sound (hchanges : s.Changes t) (h : s.Sound) : t.Sound := by
  induction hchanges with
  | refl => exact h
  | tail hbefore hchange ih => exact hchange.sound ih

theorem returned_expireAgedCircuits (hsound : s.Sound) {now : Nat} {order : List CircuitId}
    (horder : order.Perm (s.pool.toExpire now)) :
    circuitId ∈ (s.expireAgedCircuits order).2 ↔ s.readyIn circuitId = true ∧
      ∃ age, s.pool.circuitAge circuitId now = some age ∧ s.pool.maxCircuitAge ≤ age := by
  have hnodup : order.Nodup := horder.nodup_iff.mpr (s.pool.nodup_toExpire now)
  rw [(expireAgedCircuits_spec hsound hnodup).1, List.mem_filter, horder.mem_iff,
    CircuitPool.mem_toExpire, and_comm]

/-- A circuit that did not age out is ready if it was. -/
theorem Expired.readyIn (hsound : s.Sound) {agedOut : List CircuitId} (h : s.Expired agedOut t)
    (hkept : circuitId ∉ agedOut) (hready : t.readyIn circuitId = true) :
    s.readyIn circuitId = true := by
  obtain ⟨a, live, hlookup, hlive, hstate⟩ := readyIn_iff.mp hready
  rw [h.lookup] at hlookup
  rw [h.others a fun id hid hlookup' => hkept (hsound.lookup_inj hlookup hlookup' ▸ hid)] at hlive
  exact readyIn_iff.mpr ⟨a, live, hlookup, hlive, hstate⟩

theorem expiresExactly (hsound : s.Sound) {now : Nat} {order : List CircuitId}
    (horder : order.Perm (s.pool.toExpire now)) : s.ExpiresExactly now order := by
  have hnodup : order.Nodup := horder.nodup_iff.mpr (s.pool.nodup_toExpire now)
  obtain ⟨hreturned, hexpired⟩ := expireAgedCircuits_spec hsound hnodup
  have hsound' := (changes_expireAgedCircuits s order).sound hsound
  refine ⟨?_, fun _ => returned_expireAgedCircuits hsound horder, fun circuitId hmem => ?_,
    hexpired.others, hexpired.pool, fun order' horder' => ?_⟩
  · rw [hreturned]
    exact hnodup.filter _
  · obtain ⟨hready, -⟩ := (returned_expireAgedCircuits hsound horder).mp hmem
    obtain ⟨a, live, hlookup, hlive, -⟩ := readyIn_iff.mp hready
    exact ⟨a, live, hlookup, hlive, hexpired.dirtied circuitId hmem a live hlookup hlive⟩
  · refine List.eq_nil_iff_forall_not_mem.mpr fun circuitId hmem => ?_
    obtain ⟨hready, age, hage, hold⟩ := (returned_expireAgedCircuits hsound' horder').mp hmem
    -- what aged out has no age any more, and what did not was not found too old
    by_cases hagedOut : circuitId ∈ (s.expireAgedCircuits order).2
    · rw [CircuitPool.circuitAge, hexpired.ages, if_pos hagedOut] at hage
      cases hage
    · rw [CircuitPool.circuitAge, hexpired.ages, if_neg hagedOut] at hage
      rw [hexpired.pool] at hold
      exact hagedOut ((returned_expireAgedCircuits hsound horder).mpr
        ⟨hexpired.readyIn hsound hagedOut hready, age, hage, hold⟩)

/-! ## What every change keeps -/

/-- Every ready circuit of the pool has an age. -/
def ReadyAged (s : Store) : Prop :=
  ∀ circuitId, s.readyIn circuitId = true →
    ∃ created, s.pool.circuitAges.lookup circuitId = some created

theorem ReadyAged.alike (h : s.ReadyAged) (halike : s.Alike t)
    (hages : t.pool.circuitAges = s.pool.circuitAges) : t.ReadyAged := by
  intro circuitId hready
  rw [hages]
  exact h circuitId (halike.readyIn circuitId ▸ hready)

theorem ReadyAged.expireOne (h : s.ReadyAged) (hlookup : s.pool.circuits.lookup circuitId = some a)
    (hlive : s.heap[a]? = some live) (hready : live.circuit.state = .ready) (hsound : s.Sound) :
    (s.expireOne circuitId).1.ReadyAged := by
  intro id hid
  by_cases hne : id = circuitId
  · -- the circuit that aged out is not ready
    subst hne
    have halike := alike_expired hlookup hlive hready
    unfold Store.readyIn at hid
    rw [halike.circuits, show (s.update a LiveCircuit.expire).pool.circuits.lookup id = some a
      from hlookup, Option.any_some, decide_eq_true_iff, halike.stateOf,
      stateOf_update_self LiveCircuit.expire hlive] at hid
    cases hid
  · rw [readyIn_expireOne_ne hsound hlookup hlive hready hne] at hid
    obtain ⟨created, hcreated⟩ := h id hid
    refine ⟨created, ?_⟩
    rw [expireOne_ready hlookup hlive hready]
    exact (AList.lookup_erase_ne hne).trans hcreated

theorem ReadyAged.remove (h : s.ReadyAged) (circuitId : CircuitId) :
    (s.remove circuitId).ReadyAged := by
  intro id hready
  obtain ⟨a, live, hlookup, hlive, hstate⟩ := readyIn_iff.mp hready
  refine h id (readyIn_iff.mpr ⟨a, live, ?_, hlive, hstate⟩)
  by_cases hid : id = circuitId
  · rw [hid, lookup_remove_self] at hlookup
    cases hlookup
  · exact (lookup_remove_ne hid).symm.trans hlookup

theorem ReadyAged.buildCircuit (h : s.ReadyAged) (hsound : s.Sound) (now : Nat)
    (built : Except Error OnionKeys) : (s.buildCircuit now built).1.ReadyAged := by
  cases built with
  | error error => exact h.alike (alike_build_failed s now error) rfl
  | ok onionKeys =>
    intro id hready
    by_cases hid : id = s.pool.nextCircuitId
    · exact ⟨now, hid ▸ AList.lookup_insert ..⟩
    · rw [(alike_built s now onionKeys).readyIn] at hready
      obtain ⟨a, live, hlookup, hlive, hstate⟩ := readyIn_iff.mp hready
      rw [lookup_add_ne onionKeys hid] at hlookup
      obtain ⟨old, hold, -⟩ := hsound.filed id a hlookup
      rw [getElem?_add_of_lt onionKeys (lt_of_getElem? hold)] at hlive
      obtain ⟨created, hcreated⟩ := h id (readyIn_iff.mpr ⟨a, live, hlookup, hlive, hstate⟩)
      exact ⟨created, (AList.lookup_insert_ne hid).trans hcreated⟩

theorem Change.readyAged (hchange : s.Change t) (hsound : s.Sound) (h : s.ReadyAged) :
    t.ReadyAged := by
  cases hchange with
  | same => exact h
  | locked hf =>
    intro circuitId hready
    obtain ⟨a, live, hlookup, hlive, hstate⟩ := readyIn_iff.mp hready
    refine h circuitId (readyIn_iff.mpr ?_)
    obtain ⟨old, hold, ⟨rfl, rfl⟩ | ⟨-, rfl⟩⟩ := of_getElem?_update hlive
    · exact ⟨_, old, hlookup, hold, (hf old hold).ready hstate⟩
    · exact ⟨a, live, hlookup, hold, hstate⟩
  | aged hlookup hlive hready => exact h.expireOne hlookup hlive hready hsound
  | built now built => exact h.buildCircuit hsound now built
  | taken circuitId => exact h.remove circuitId
  | replaced failedId now built =>
    have hbuilt := (h.remove failedId).buildCircuit (hsound.remove failedId) now built
    cases built <;> exact hbuilt
  | maxAge age => exact h

/-- A circuit that was built and is not ready. -/
def Retired (s : Store) (a : Arc) : Prop := ∃ state, s.stateOf a = some state ∧ state ≠ .ready

theorem Retired.alike (h : s.Retired a) (halike : s.Alike t) : t.Retired a := by
  unfold Retired
  rwa [halike.stateOf]

theorem Retired.add (h : s.Retired a) (onionKeys : OnionKeys) : (s.add onionKeys).Retired a := by
  obtain ⟨state, hstate, hne⟩ := h
  exact ⟨state, (stateOf_add_of_lt onionKeys (lt_of_stateOf hstate)).trans hstate, hne⟩

theorem Retired.buildCircuit (h : s.Retired a) (now : Nat) (built : Except Error OnionKeys) :
    (s.buildCircuit now built).1.Retired a := by
  cases built with
  | error error => exact h
  | ok onionKeys => exact h.add onionKeys

theorem Retired.update (h : s.Retired a) {b : Arc} {f : LiveCircuit → LiveCircuit}
    (hf : ∀ live, s.heap[b]? = some live → live.Later (f live)) : (s.update b f).Retired a := by
  obtain ⟨state, hstate, hne⟩ := h
  by_cases hba : b = a
  · subst hba
    obtain ⟨live, hlive, rfl⟩ := Option.map_eq_some_iff.mp hstate
    exact ⟨_, stateOf_update_self f hlive, mt (hf live hlive).ready hne⟩
  · exact ⟨state, (stateOf_update_ne f hba).trans hstate, hne⟩

theorem Change.retired (hchange : s.Change t) (h : s.Retired a) : t.Retired a := by
  cases hchange with
  | same => exact h
  | locked hf => exact h.update hf
  | aged hlookup hlive hready =>
    refine Retired.alike (h.update fun live' hlive' => ?_) (alike_expired hlookup hlive hready)
    cases hlive.symm.trans hlive'
    exact .expire hready
  | built now built => exact h.buildCircuit now built
  | taken circuitId => exact h
  | replaced failedId now built =>
    have hbuilt : ((s.remove failedId).buildCircuit now built).1.Retired a :=
      Retired.buildCircuit (s := s.remove failedId) h now built
    cases built <;> exact hbuilt
  | maxAge age => exact h

theorem Changes.readyAged (hchanges : s.Changes t) (hsound : s.Sound) (h : s.ReadyAged) :
    t.Sound ∧ t.ReadyAged := by
  induction hchanges with
  | refl => exact ⟨hsound, h⟩
  | tail hbefore hchange ih => exact ⟨hchange.sound ih.1, hchange.readyAged ih.1 ih.2⟩

theorem Changes.retired (hchanges : s.Changes t) (h : s.Retired a) : t.Retired a := by
  induction hchanges with
  | refl => exact h
  | tail hbefore hchange ih => exact hchange.retired ih

end Store

/-! ## Runs of a pool -/

/-- A call of one of the pool's methods. -/
inductive PoolCall
  | setMaxCircuitAge (age : Nat)
  | buildCircuit (now : Nat) (built : Except Error OnionKeys)
  | replaceCircuit (failedId : CircuitId) (now : Nat) (built : Except Error OnionKeys)
  /-- `order` is the order in which the map has the ids to expire. -/
  | expireAgedCircuits (now : Nat) (order : List CircuitId)

/-- What happens to a pool: the client's tasks go on, or a method is called from elsewhere. -/
inductive PoolEvent
  | task (e : ClientEvent)
  | call (c : PoolCall)

namespace ClientState

variable (P : Primitives)

def call (s : ClientState) : PoolCall → ClientState
  | .setMaxCircuitAge age =>
    { s with store := { s.store with pool := s.store.pool.setMaxCircuitAge age } }
  | .buildCircuit now built => { s with store := (s.store.buildCircuit now built).1 }
  | .replaceCircuit failedId now built => s.replaceCircuit failedId now built
  | .expireAgedCircuits now order =>
    if order.Perm (s.store.pool.toExpire now) then
      { s with store := (s.store.expireAgedCircuits order).1 }
    else s

/-- A method is called with the pool's mutex held. -/
def poolStep (s : ClientState) : PoolEvent → ClientState
  | .task e => s.step P e
  | .call c => if s.holder.isSome then s else s.call c

/-- What is wanted of a pool whose circuits age. -/
structure Rotates (s : ClientState) : Prop where
  aged : s.store.ReadyAged
  expires : ∀ now order, order.Perm (s.store.pool.toExpire now) →
    s.store.ExpiresExactly now order
  /-- Every ready circuit of the pool is marked once it is old enough. -/
  rotated : ∀ circuitId, s.store.readyIn circuitId = true → ∃ created, ∀ now order,
    created + s.store.pool.maxCircuitAge ≤ now → order.Perm (s.store.pool.toExpire now) →
      circuitId ∈ (s.store.expireAgedCircuits order).2
  /-- A Dirty or Closed circuit is not ready again, whatever happens later. -/
  retired : ∀ later a, s.store.stateOf a = some .dirty ∨ s.store.stateOf a = some .closed →
    (run (poolStep P) s later).store.stateOf a ≠ some .ready

variable {P} {s : ClientState}

theorem changes_call (s : ClientState) (c : PoolCall) : s.store.Changes (s.call c).store := by
  cases c with
  | setMaxCircuitAge age => exact .single (.maxAge age)
  | buildCircuit now built => exact .single (.built now built)
  | replaceCircuit failedId now built => exact .single (.replaced failedId now built)
  | expireAgedCircuits now order =>
    show s.store.Changes (if order.Perm (s.store.pool.toExpire now) then
      { s with store := (s.store.expireAgedCircuits order).1 } else s).store
    split
    · exact s.store.changes_expireAgedCircuits order
    · exact .refl

theorem changes_poolStep (s : ClientState) (e : PoolEvent) :
    s.store.Changes (s.poolStep P e).store := by
  cases e with
  | task e => exact .single (step_act s e).change
  | call c =>
    show s.store.Changes (if s.holder.isSome then s else s.call c).store
    split
    · exact .refl
    · exact s.changes_call c

theorem changes_run (s : ClientState) (events : List PoolEvent) :
    s.store.Changes (run (poolStep P) s events).store := by
  induction events generalizing s with
  | nil => exact .refl
  | cons e events ih => exact (s.changes_poolStep e).trans (ih _)

/-- Sound stores whose ready circuits all have an age rotate. -/
theorem rotates (hsound : s.store.Sound) (haged : s.store.ReadyAged) : s.Rotates P := by
  refine ⟨haged, fun now order => Store.expiresExactly hsound, fun circuitId hready => ?_,
    fun later a hstate => ?_⟩
  · obtain ⟨created, hcreated⟩ := haged circuitId hready
    refine ⟨created, fun now order hold horder => ?_⟩
    refine (Store.returned_expireAgedCircuits hsound horder).mpr ⟨hready, now - created, ?_, ?_⟩
    · rw [CircuitPool.circuitAge, hcreated]
      rfl
    · omega
  · have hretired : s.store.Retired a := by
      rcases hstate with hdirty | hclosed
      · exact ⟨.dirty, hdirty, nofun⟩
      · exact ⟨.closed, hclosed, nofun⟩
    obtain ⟨state, hlater, hne⟩ := (s.changes_run later).retired hretired
    rw [hlater]
    exact fun hready => hne (Option.some.inj hready)

/-- **Expiry is exact, and none escapes rotation.** From an empty pool on, in every state of
every run, the ready circuits of the pool have an age, and `expire_aged_circuits` returns and
marks exactly those that are too old. -/
theorem expiry_exact (P : Primitives) (poolSize maxRebuildAttempts : Nat)
    (events : List PoolEvent) :
    EveryState (poolStep P) (Rotates P) (start (.new poolSize maxRebuildAttempts)) events := by
  refine @everyState_of_invariant _ _ (poolStep P)
    (fun s => s.store.Sound ∧ s.store.ReadyAged) _ ?_ ?_ _ _
    ⟨.new poolSize maxRebuildAttempts, fun _ hready => nomatch hready⟩
  · rintro s e ⟨hsound, haged⟩
    exact (s.changes_poolStep e).readyAged hsound haged
  · rintro s ⟨hsound, haged⟩
    exact rotates hsound haged

/-! ### The calls the client makes -/

/-- Startup is a run of builds. -/
theorem run_initializePool {poolSize m : Nat} {builds : Nat → Nat × Except Error OnionKeys}
    {store : Store} (hstart : (Store.new poolSize m).initializePool builds = .ok store) :
    ∃ events, run (poolStep P) (start (.new poolSize m)) events = start store :=
  Store.initializePool_keeps
    (fun _ s => ∃ events, run (poolStep P) (start (.new poolSize m)) events = start s)
    (fun _ s now onionKeys ⟨events, hrun⟩ =>
      ⟨events ++ [.call (.buildCircuit now (.ok onionKeys))], by
        rw [run_append, hrun]
        rfl⟩) hstart ⟨[], rfl⟩

/-- The monitor's looks amount to the call, in the order it takes. -/
theorem run_expiring {order todo agedOut : List CircuitId}
    (hholder : s.holder = some (.expiring todo agedOut)) (horder : order.Perm todo) :
    ∃ indices : List Nat, run (step P) s (indices.map .look) =
      { s with
        store := (s.store.expireAgedCircuits order).1
        holder := some (.expiring [] (agedOut ++ (s.store.expireAgedCircuits order).2)) } := by
  induction order generalizing s todo agedOut with
  | nil =>
    cases horder.symm.eq_nil
    refine ⟨[], ?_⟩
    rw [Store.expireAgedCircuits, List.append_nil, ← hholder]
    rfl
  | cons circuitId order ih =>
    obtain ⟨index, hindex, hget⟩ := List.getElem_of_mem (horder.subset List.mem_cons_self)
    have hrest : order.Perm (todo.eraseIdx index) := by
      refine List.Perm.cons_inv (horder.trans ?_)
      exact hget ▸ (List.getElem_cons_eraseIdx_perm hindex).symm
    have hlook := look_expiring (P := P) hholder (hget ▸ List.getElem?_eq_getElem hindex)
    obtain ⟨indices, hrun⟩ := ih (s := s.step P (.look index))
      (congrArg ClientState.holder hlook) hrest
    refine ⟨index :: indices, ?_⟩
    have hagedOut : ∀ (expired : Bool) (rest : List CircuitId),
        (if expired then agedOut ++ [circuitId] else agedOut) ++ rest =
          agedOut ++ if expired then circuitId :: rest else rest := by
      rintro (_ | _) rest
      · rfl
      · exact List.append_assoc ..
    rw [List.map_cons, run_cons, hrun, hlook, Store.expireAgedCircuits_cons, hagedOut]

end ClientState

end MiniTor.Client
