import Mathlib
import MiniTor.Relay.Registry

/-!
# The books of a relay

What a relay's circuit registry should hold, in its own terms: circuits are created
over connections, destroyed, and die with their connection. `Books` sets the ids
registered and the counters against that history.

- `Books.Change` are the four things a step can do to the books, each with the
  condition under which the registry still holds exactly the live circuits.
- `Sound.change_iff`: that condition is exact.
- `Sound.length_liveCircuits`: then the registry is as large as the live circuits are
  many.
-/

namespace MiniTor

/-- An accepted connection. -/
abbrev ConnId := Nat

/-- What a relay has registered and counted, beside what it should have. -/
@[ext] structure Books where
  has : CircuitId → Bool
  circuitsCreated : UInt64
  circuitsDestroyed : UInt64
  created : List (ConnId × CircuitId)
  destroyed : List Nat
  holder : CircuitId → Option Nat
  closed : ConnId → Bool

namespace Books

/-- Circuit `n` has not been destroyed and its connection is still served. -/
def live (b : Books) (n : Nat) : Bool :=
  match b.created[n]? with
  | some (conn, _) => !b.closed conn && !b.destroyed.contains n
  | none => false

/-- The circuits the registry should hold. -/
def liveCircuits (b : Books) : List Nat := (List.range b.created.length).filter b.live

/-- The handler of circuit `n` is in the registry. -/
def Registered (b : Books) (n : Nat) : Prop :=
  ∃ circuitId, b.holder circuitId = some n ∧ b.has circuitId = true

/-- The connection has no live circuit. -/
def Idle (b : Books) (conn : ConnId) : Prop :=
  ∀ n circuitId, b.created[n]? = some (conn, circuitId) → b.live n = false

/-- A CREATE served on `conn`. -/
def create (b : Books) (conn : ConnId) (circuitId : CircuitId) : Books :=
  { b with
    has := Function.update b.has circuitId true
    circuitsCreated := b.circuitsCreated + 1
    created := b.created ++ [(conn, circuitId)]
    holder := Function.update b.holder circuitId (some b.created.length) }

/-- A DESTROY served. -/
def destroy (b : Books) (circuitId : CircuitId) : Books :=
  { b with
    circuitsDestroyed := b.circuitsDestroyed + 1
    destroyed := b.destroyed ++ (b.holder circuitId).toList }

/-- A connection ends. -/
def close (b : Books) (conn : ConnId) : Books :=
  { b with closed := Function.update b.closed conn true }

/-- What a step does to the books, and the condition under which they stay right. -/
inductive Change (b : Books) : Books → Prop → Prop
  | creates (conn : ConnId) (circuitId : CircuitId) (hserved : b.closed conn = false) :
      Change b (b.create conn circuitId) (b.has circuitId = false)
  | destroys (circuitId : CircuitId) (hhas : b.has circuitId = true) :
      Change b (b.destroy circuitId) False
  | ends (conn : ConnId) : Change b (b.close conn) (b.Idle conn)
  | keeps : Change b b True

/-- Registry and counters follow the history. -/
structure Tracks (b : Books) : Prop where
  held : ∀ circuitId, b.has circuitId = (b.holder circuitId).isSome
  place : ∀ circuitId n, b.holder circuitId = some n →
    ∃ conn, b.created[n]? = some (conn, circuitId)
  destroyed : b.circuitsDestroyed = b.destroyed.length.toUInt64

section Operations

variable {b : Books} {conn : ConnId} {circuitId other : CircuitId} {n : Nat}

@[simp] theorem holder_create_self :
    (b.create conn circuitId).holder circuitId = some b.created.length :=
  Function.update_self ..

theorem holder_create_ne (h : other ≠ circuitId) :
    (b.create conn circuitId).holder other = b.holder other := Function.update_of_ne h ..

@[simp] theorem has_create_self : (b.create conn circuitId).has circuitId = true :=
  Function.update_self ..

theorem has_create_ne (h : other ≠ circuitId) :
    (b.create conn circuitId).has other = b.has other := Function.update_of_ne h ..

/-- The new circuit is live. -/
theorem live_create_new (hserved : b.closed conn = false)
    (hfresh : b.created.length ∉ b.destroyed) :
    (b.create conn circuitId).live b.created.length = true := by
  have hmade : (b.create conn circuitId).created[b.created.length]? = some (conn, circuitId) :=
    List.getElem?_concat_length
  rw [live, hmade]
  show (!b.closed conn && !b.destroyed.contains b.created.length) = true
  simpa [hserved] using hfresh

/-- The others are as they were. -/
theorem live_create_old (hn : n ≠ b.created.length) :
    (b.create conn circuitId).live n = b.live n := by
  have hmade : (b.create conn circuitId).created[n]? = b.created[n]? := by
    show (b.created ++ [(conn, circuitId)])[n]? = b.created[n]?
    rcases Nat.lt_or_gt_of_ne hn with hlt | hgt
    · exact List.getElem?_append_left hlt
    · rw [List.getElem?_eq_none (by simp only [List.length_append, List.length_singleton]; omega),
        List.getElem?_eq_none (by omega)]
  rw [live, live, hmade]
  rfl

/-- A destroyed circuit is not live. -/
theorem live_destroy (hholder : b.holder circuitId = some n) :
    (b.destroy circuitId).live n = false := by
  have hgone : (b.destroy circuitId).destroyed.contains n = true := by
    show (b.destroyed ++ (b.holder circuitId).toList).contains n = true
    rw [hholder]
    simp
  rw [live, hgone]
  split
  · rw [Bool.not_true, Bool.and_false]
  · rfl

/-- The circuits of a closed connection are not live. -/
theorem live_close_of (hmade : b.created[n]? = some (conn, circuitId)) :
    (b.close conn).live n = false := by
  have hclosed : (b.close conn).closed conn = true := Function.update_self ..
  have hmade' : (b.close conn).created[n]? = some (conn, circuitId) := hmade
  rw [live, hmade']
  dsimp only
  rw [hclosed]
  rfl

/-- Closing an idle connection changes nothing. -/
theorem live_close_idle (hidle : b.Idle conn) : (b.close conn).live n = b.live n := by
  cases hmade : b.created[n]? with
  | none =>
    have hmade' : (b.close conn).created[n]? = none := hmade
    rw [live, live, hmade, hmade']
  | some made =>
    obtain ⟨maker, id⟩ := made
    by_cases hmaker : maker = conn
    · subst hmaker
      rw [hidle n id hmade, live_close_of hmade]
    · have hmade' : (b.close conn).created[n]? = some (maker, id) := hmade
      have hclosed : (b.close conn).closed maker = b.closed maker :=
        Function.update_of_ne hmaker ..
      rw [live, live, hmade, hmade']
      dsimp only
      rw [hclosed]
      rfl

end Operations

theorem Tracks.change {b b' : Books} {p : Prop} (h : b.Tracks) (hc : b.Change b' p) :
    b'.Tracks := by
  cases hc with
  | creates conn circuitId hserved =>
    refine ⟨fun id => ?_, fun id n hholder => ?_, h.destroyed⟩
    · by_cases hid : id = circuitId
      · subst hid
        rw [has_create_self, holder_create_self]
        rfl
      · rw [has_create_ne hid, holder_create_ne hid]
        exact h.held id
    · by_cases hid : id = circuitId
      · subst hid
        rw [holder_create_self] at hholder
        cases hholder
        exact ⟨conn, List.getElem?_concat_length⟩
      · rw [holder_create_ne hid] at hholder
        obtain ⟨maker, hmaker⟩ := h.place id n hholder
        obtain ⟨hn, -⟩ := List.getElem?_eq_some_iff.mp hmaker
        exact ⟨maker, (List.getElem?_append_left hn).trans hmaker⟩
  | destroys circuitId hhas =>
    refine ⟨h.held, h.place, ?_⟩
    obtain ⟨n, hn⟩ := Option.isSome_iff_exists.mp ((h.held circuitId).symm.trans hhas)
    show b.circuitsDestroyed + 1 = (b.destroyed ++ (b.holder circuitId).toList).length.toUInt64
    rw [hn, Option.toList_some, List.length_append, h.destroyed]
    exact (UInt64.ofNat_add _ _).symm
  | ends conn => exact ⟨h.held, h.place, h.destroyed⟩
  | keeps => exact h

/-- The history is what `Tracks` says, no circuit has been destroyed, and the registry holds
the live ones. -/
structure Sound (b : Books) : Prop where
  tracks : b.Tracks
  destroyed : b.destroyed = []
  registered : ∀ n, b.Registered n ↔ b.live n = true

/-- **The books stay right exactly under the condition of the change.** -/
theorem Sound.change_iff {b b' : Books} {p : Prop} (h : b.Sound) (hc : b.Change b' p) :
    (∀ n, b'.Registered n ↔ b'.live n = true) ↔ p := by
  cases hc with
  | creates conn circuitId hserved =>
    constructor
    · intro hright
      by_contra hhas
      have hhas : b.has circuitId = true := by simpa using hhas
      -- the circuit that held the id is still live, but no longer registered
      obtain ⟨m, hm⟩ := Option.isSome_iff_exists.mp ((h.tracks.held circuitId).symm.trans hhas)
      obtain ⟨maker, hmaker⟩ := h.tracks.place circuitId m hm
      obtain ⟨hlt, -⟩ := List.getElem?_eq_some_iff.mp hmaker
      have hlive : b.live m = true := (h.registered m).mp ⟨circuitId, hm, hhas⟩
      have hstill : (b.create conn circuitId).live m = true :=
        (live_create_old (Nat.ne_of_lt hlt)).trans hlive
      obtain ⟨id, hholder, -⟩ := (hright m).mpr hstill
      by_cases hid : id = circuitId
      · subst hid
        rw [holder_create_self] at hholder
        cases hholder
        exact Nat.lt_irrefl _ hlt
      · rw [holder_create_ne hid] at hholder
        obtain ⟨maker', hmaker'⟩ := h.tracks.place id m hholder
        rw [hmaker] at hmaker'
        cases hmaker'
        exact hid rfl
    · intro hfree n
      by_cases hn : n = b.created.length
      · subst hn
        have hfresh : b.created.length ∉ b.destroyed := by
          rw [h.destroyed]
          exact List.not_mem_nil
        exact iff_of_true ⟨circuitId, holder_create_self, has_create_self⟩
          (live_create_new hserved hfresh)
      · rw [live_create_old hn, ← h.registered n]
        constructor
        · rintro ⟨id, hholder, hhas⟩
          have hid : id ≠ circuitId := by
            rintro rfl
            rw [holder_create_self] at hholder
            cases hholder
            exact hn rfl
          rw [holder_create_ne hid] at hholder
          rw [has_create_ne hid] at hhas
          exact ⟨id, hholder, hhas⟩
        · rintro ⟨id, hholder, hhas⟩
          have hid : id ≠ circuitId := by
            rintro rfl
            rw [hfree] at hhas
            cases hhas
          exact ⟨id, (holder_create_ne hid).trans hholder, (has_create_ne hid).trans hhas⟩
  | destroys circuitId hhas =>
    refine iff_of_false (fun hright => ?_) not_false
    obtain ⟨n, hn⟩ := Option.isSome_iff_exists.mp ((h.tracks.held circuitId).symm.trans hhas)
    have hlive := (hright n).mp ⟨circuitId, hn, hhas⟩
    rw [live_destroy hn] at hlive
    cases hlive
  | ends conn =>
    constructor
    · intro hright n circuitId hmade
      by_contra hlive
      have hlive : b.live n = true := by simpa using hlive
      have hstill := (hright n).mp ((h.registered n).mpr hlive)
      rw [live_close_of hmade] at hstill
      cases hstill
    · intro hidle n
      rw [live_close_idle hidle]
      exact h.registered n
  | keeps => exact iff_of_true h.registered trivial

theorem Sound.change {b b' : Books} {p : Prop} (h : b.Sound) (hc : b.Change b' p) (hp : p) :
    b'.Sound := by
  refine ⟨h.tracks.change hc, ?_, (h.change_iff hc).mpr hp⟩
  cases hc with
  | creates conn circuitId hserved => exact h.destroyed
  | destroys circuitId hhas => exact hp.elim
  | ends conn => exact h.destroyed
  | keeps => exact h.destroyed

/-- The live circuits are as many as the ids registered. -/
theorem Sound.length_liveCircuits {b : Books} (h : b.Sound) {ids : List CircuitId}
    (hnodup : ids.Nodup) (hids : ∀ circuitId, b.has circuitId = true ↔ circuitId ∈ ids) :
    ids.length = b.liveCircuits.length := by
  have hholder : ∀ id ∈ ids, ∃ n, b.holder id = some n := fun id hid =>
    Option.isSome_iff_exists.mp ((h.tracks.held id).symm.trans ((hids id).mpr hid))
  have hmap : (ids.map fun id => (b.holder id).getD 0).Nodup := by
    refine List.Nodup.map_on ?_ hnodup
    intro id hid id' hid' heq
    obtain ⟨n, hn⟩ := hholder id hid
    obtain ⟨n', hn'⟩ := hholder id' hid'
    rw [hn, hn'] at heq
    obtain rfl : n = n' := heq
    obtain ⟨conn, hmade⟩ := h.tracks.place id n hn
    obtain ⟨conn', hmade'⟩ := h.tracks.place id' n hn'
    rw [hmade] at hmade'
    cases hmade'
    rfl
  have hlive : b.liveCircuits.Nodup := List.nodup_range.filter _
  have hperm : (ids.map fun id => (b.holder id).getD 0).Perm b.liveCircuits := by
    rw [List.perm_ext_iff_of_nodup hmap hlive]
    intro n
    rw [List.mem_map, liveCircuits, List.mem_filter, List.mem_range, ← h.registered n]
    constructor
    · rintro ⟨id, hid, rfl⟩
      obtain ⟨n, hn⟩ := hholder id hid
      obtain ⟨conn, hmade⟩ := h.tracks.place id n hn
      rw [hn, Option.getD_some]
      exact ⟨(List.getElem?_eq_some_iff.mp hmade).1, id, hn, (hids id).mpr hid⟩
    · rintro ⟨-, id, hn, hhas⟩
      exact ⟨id, (hids id).mp hhas, by rw [hn, Option.getD_some]⟩
  rw [← hperm.length_eq, List.length_map]

end Books

end MiniTor
