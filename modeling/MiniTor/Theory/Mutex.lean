import Mathlib

/-!
# FIFO mutexes

A mutex is the line of the tasks that asked for it and have not let go of it: the
first one holds it, and the next one gets it when the first lets go.

- `Mutex.Tracks m asked held`: the line is made of the tasks that `asked`, and every
  task that counts as holding the mutex is the first.
- `Tracks.keep`, `Tracks.ask`, `Tracks.release`: one lemma for each thing a task can do.
-/

namespace Theory

/-- The tasks in line, the holder first. -/
structure Mutex (τ : Type*) where
  queue : List τ
  deriving DecidableEq

namespace Mutex

variable {τ : Type*}

def free : Mutex τ := ⟨[]⟩

def ask (m : Mutex τ) (t : τ) : Mutex τ := ⟨m.queue ++ [t]⟩

def release (m : Mutex τ) : Mutex τ := ⟨m.queue.tail⟩

def holder (m : Mutex τ) : Option τ := m.queue.head?

/-- Whoever holds the mutex keeps it when another task asks. -/
theorem holder_ask {m : Mutex τ} {t u : τ} (h : m.holder = some u) :
    (m.ask t).holder = some u := by
  unfold holder ask at *
  rw [List.head?_append, h]
  rfl

/-- A mutex with tasks in line is held by one of them. -/
theorem exists_holder {m : Mutex τ} {t : τ} (h : t ∈ m.queue) :
    ∃ u ∈ m.queue, m.holder = some u := by
  obtain ⟨u, rest, hqueue⟩ := List.exists_cons_of_ne_nil (List.ne_nil_of_mem h)
  refine ⟨u, ?_, ?_⟩
  · rw [hqueue]
    exact List.mem_cons_self
  · rw [holder, hqueue]
    rfl

/-- The line and what the tasks think of it agree. -/
structure Tracks (m : Mutex τ) (asked held : τ → Prop) : Prop where
  nodup : m.queue.Nodup
  mem : ∀ t, t ∈ m.queue ↔ asked t
  holds : ∀ t, held t → m.holder = some t

namespace Tracks

variable {m : Mutex τ} {asked held asked' held' : τ → Prop}

theorem free (hasked : ∀ t, ¬asked t) (hheld : ∀ t, ¬held t) :
    (Mutex.free : Mutex τ).Tracks asked held where
  nodup := List.nodup_nil
  mem t := iff_of_false List.not_mem_nil (hasked t)
  holds t ht := (hheld t ht).elim

/-- Two tasks never hold the mutex at once. -/
theorem unique (h : m.Tracks asked held) {t u : τ} (ht : held t) (hu : held u) : t = u :=
  Option.some.inj ((h.holds t ht).symm.trans (h.holds u hu))

/-- No task moves in the line; one that has become the holder may come to know. -/
theorem keep (h : m.Tracks asked held) (hasked : ∀ t, asked' t ↔ asked t)
    (hheld : ∀ t, held' t → held t ∨ m.holder = some t) : m.Tracks asked' held' where
  nodup := h.nodup
  mem t := (h.mem t).trans (hasked t).symm
  holds t ht := (hheld t ht).elim (h.holds t) id

/-- A task joins the line. -/
theorem ask (h : m.Tracks asked held) {t : τ} (ht : ¬asked t)
    (hasked : ∀ u, asked' u ↔ asked u ∨ u = t) (hheld : ∀ u, held' u → held u) :
    (m.ask t).Tracks asked' held' where
  nodup := by
    refine List.nodup_append.mpr ⟨h.nodup, List.nodup_singleton t, fun u hu v hv huv => ?_⟩
    cases List.mem_singleton.mp hv
    cases huv
    exact ht ((h.mem _).mp hu)
  mem u := by
    rw [hasked, ← h.mem]
    unfold Mutex.ask
    rw [List.mem_append, List.mem_singleton]
  holds u hu := holder_ask (h.holds u (hheld u hu))

/-- The holder leaves the line. -/
theorem release (h : m.Tracks asked held) {t : τ} (ht : m.holder = some t)
    (hasked : ∀ u, asked' u ↔ asked u ∧ u ≠ t) (hheld : ∀ u, held' u → held u ∧ u ≠ t) :
    m.release.Tracks asked' held' := by
  have hqueue : m.queue = t :: m.queue.tail := (List.cons_head?_tail ht).symm
  have hnodup : (t :: m.queue.tail).Nodup := hqueue ▸ h.nodup
  obtain ⟨hnotMem, htail⟩ := List.nodup_cons.mp hnodup
  refine ⟨htail, fun u => ?_, fun u hu => ?_⟩
  · show u ∈ m.queue.tail ↔ _
    rw [hasked, ← h.mem]
    constructor
    · intro hu
      refine ⟨List.mem_of_mem_tail hu, ?_⟩
      rintro rfl
      exact hnotMem hu
    · rintro ⟨hu, hne⟩
      rw [hqueue] at hu
      exact (List.mem_cons.mp hu).resolve_left hne
  · -- who holds a mutex is the one who lets go of it
    obtain ⟨hold, hne⟩ := hheld u hu
    exact absurd (Option.some.inj ((h.holds u hold).symm.trans ht)) hne

end Tracks

end Mutex

end Theory
