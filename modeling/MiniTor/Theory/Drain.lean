import Mathlib

/-!
# Chains of readers whose input ends

A chain of readers, each fed by the one before it: a reader takes the items of its
queue, and once the queue is empty and the reader before it has stopped it finishes.
It may also stop at an item. Readers act in any order.

- `drain` is what a reader emits in all, given its whole input.
- `remaining` is what the chain still has to emit; `remaining_drainAt`: a reader
  acting takes from it just what leaves the chain.
- `work_drainAt_le`, `exists_work_lt`: acting costs work, and a chain in which a
  reader runs has a reader that can act; so a chain comes to rest.
- `remaining_rest`: then it has emitted everything.
-/

namespace Theory

/-- A reader: its state, the items on their way to it, and whether it still runs. -/
structure Draining (σ α : Type*) where
  state : σ
  queue : List α
  running : Bool

variable {σ α : Type*} (f : σ → α → σ × List α × Bool) (g : σ → List α)

/-- What a reader emits in all, if `as` is all it gets. -/
def drain : σ → List α → List α
  | s, [] => g s
  | s, a :: as => if (f s a).2.2 then (f s a).2.1 ++ drain (f s a).1 as else (f s a).2.1

@[simp] theorem drain_nil (s : σ) : drain f g s [] = g s := rfl

theorem drain_cons (s : σ) (a : α) (as : List α) :
    drain f g s (a :: as) =
      if (f s a).2.2 then (f s a).2.1 ++ drain f g (f s a).1 as else (f s a).2.1 := rfl

/-- One turn of a reader, `eof` telling that its input has ended. -/
def Draining.act (eof : Bool) (st : Draining σ α) : Draining σ α × List α :=
  match st.running, st.queue with
  | true, a :: q =>
    ({ state := (f st.state a).1, queue := q, running := (f st.state a).2.2 },
      (f st.state a).2.1)
  | true, [] => if eof then ({ st with running := false }, g st.state) else (st, [])
  | false, _ => (st, [])

/-- Items emitted into a chain; without a reader they leave it. -/
def pushHead (out : List α) : List (Draining σ α) → List (Draining σ α) × List α
  | [] => ([], out)
  | st :: rest => ({ st with queue := st.queue ++ out } :: rest, [])

/-- A turn of the reader at an index: the chain, and what leaves it. -/
def drainAt : Bool → Nat → List (Draining σ α) → List (Draining σ α) × List α
  | _, _, [] => ([], [])
  | eof, 0, st :: rest =>
    let (st, out) := st.act f g eof
    let (rest, out) := pushHead out rest
    (st :: rest, out)
  | _, i + 1, st :: rest =>
    let (rest, out) := drainAt (!st.running) i rest
    (st :: rest, out)

theorem drainAt_zero (eof : Bool) (st : Draining σ α) (rest : List (Draining σ α)) :
    drainAt f g eof 0 (st :: rest) =
      ((st.act f g eof).1 :: (pushHead (st.act f g eof).2 rest).1,
        (pushHead (st.act f g eof).2 rest).2) := rfl

theorem drainAt_succ (eof : Bool) (i : Nat) (st : Draining σ α) (rest : List (Draining σ α)) :
    drainAt f g eof (i + 1) (st :: rest) =
      (st :: (drainAt f g (!st.running) i rest).1, (drainAt f g (!st.running) i rest).2) := rfl

/-! ## What is still to come -/

/-- What a reader still emits if `inp` is all that still comes. -/
def Draining.rest (st : Draining σ α) (inp : List α) : List α :=
  if st.running then drain f g st.state (st.queue ++ inp) else []

/-- What the chain still emits if `inp` is all that still comes to its first reader. -/
def remaining : List (Draining σ α) → List α → List α
  | [], inp => inp
  | st :: rest, inp => remaining rest (st.rest f g inp)

theorem remaining_cons (st : Draining σ α) (rest : List (Draining σ α)) (inp : List α) :
    remaining f g (st :: rest) inp = remaining f g rest (st.rest f g inp) := rfl

variable {f g} {eof : Bool} {inp : List α}

/-- A turn takes what it emits from what was to come. -/
theorem Draining.rest_act (st : Draining σ α) (hinp : eof = true → inp = []) :
    st.rest f g inp = (st.act f g eof).2 ++ (st.act f g eof).1.rest f g inp := by
  obtain ⟨s, queue, running⟩ := st
  cases running with
  | false => rfl
  | true =>
    cases queue with
    | nil =>
      cases eof with
      | false => rfl
      | true =>
        rw [hinp rfl]
        exact (List.append_nil _).symm
    | cons a q =>
      show drain f g s (a :: (q ++ inp)) = (f s a).2.1 ++
        (if (f s a).2.2 then drain f g (f s a).1 (q ++ inp) else [])
      rw [drain_cons]
      cases (f s a).2.2 with
      | true => rfl
      | false => exact (List.append_nil _).symm

theorem remaining_pushHead (out : List α) (stages : List (Draining σ α)) :
    remaining f g stages (out ++ inp) =
      (pushHead out stages).2 ++ remaining f g (pushHead out stages).1 inp := by
  cases stages with
  | nil => rfl
  | cons st rest =>
    show remaining f g rest (st.rest f g (out ++ inp)) =
      remaining f g rest (Draining.rest f g { st with queue := st.queue ++ out } inp)
    rw [Draining.rest, Draining.rest, List.append_assoc]

/-- **A turn takes from what was to come just what leaves the chain.** -/
theorem remaining_drainAt (i : Nat) (stages : List (Draining σ α))
    (hinp : eof = true → inp = []) :
    remaining f g stages inp =
      (drainAt f g eof i stages).2 ++ remaining f g (drainAt f g eof i stages).1 inp := by
  induction stages generalizing i eof inp with
  | nil => cases i <;> rfl
  | cons st rest ih =>
    cases i with
    | zero =>
      show remaining f g rest (st.rest f g inp) = (pushHead (st.act f g eof).2 rest).2 ++
        remaining f g (pushHead (st.act f g eof).2 rest).1 ((st.act f g eof).1.rest f g inp)
      rw [st.rest_act hinp]
      exact remaining_pushHead _ _
    | succ i =>
      refine ih i fun hstopped => ?_
      rw [Draining.rest, if_neg]
      simpa using hstopped

/-- A chain at rest has nothing more to emit. -/
theorem remaining_rest {stages : List (Draining σ α)}
    (hrest : ∀ st ∈ stages, st.running = false) (hne : stages ≠ []) :
    remaining f g stages inp = [] := by
  induction stages generalizing inp with
  | nil => exact absurd rfl hne
  | cons st rest ih =>
    have hst : st.rest f g inp = [] := by
      rw [Draining.rest, hrest st List.mem_cons_self]
      rfl
    show remaining f g rest (st.rest f g inp) = []
    rw [hst]
    cases rest with
    | nil => rfl
    | cons next rest => exact ih (fun x hx => hrest x (List.mem_cons_of_mem st hx)) nofun

/-! ## Work -/

/-- What a reader has before it: its queue, and to finish. -/
def Draining.load (st : Draining σ α) : Nat := if st.running then st.queue.length + 1 else 0

/-- The work in a chain: an item counts once for every reader it still has to pass, and `w`
more behind the chain. -/
def work (w : Nat) : List (Draining σ α) → Nat
  | [] => 0
  | st :: rest => (rest.length + 1 + w) * st.load + work w rest

theorem Draining.load_push (st : Draining σ α) (out : List α) :
    Draining.load { st with queue := st.queue ++ out } ≤ st.load + out.length := by
  unfold load
  cases st.running with
  | false => exact Nat.zero_le _
  | true =>
    show (st.queue ++ out).length + 1 ≤ st.queue.length + 1 + out.length
    rw [List.length_append]
    omega

theorem length_pushHead (out : List α) (stages : List (Draining σ α)) :
    (pushHead out stages).1.length = stages.length := by
  cases stages <;> rfl

/-- Emitting an item into a chain costs as much as the chain is long. -/
theorem work_pushHead (w : Nat) (out : List α) (stages : List (Draining σ α)) :
    work w (pushHead out stages).1 + w * (pushHead out stages).2.length ≤
      work w stages + (stages.length + w) * out.length := by
  cases stages with
  | nil => simp [pushHead, work]
  | cons st rest =>
    have hload := Nat.mul_le_mul_left (rest.length + 1 + w) (st.load_push out)
    rw [Nat.mul_add] at hload
    show (rest.length + 1 + w) * Draining.load { st with queue := st.queue ++ out } + work w rest +
      w * 0 ≤ (rest.length + 1 + w) * st.load + work w rest + (rest.length + 1 + w) * out.length
    omega

theorem length_drainAt (i : Nat) (stages : List (Draining σ α)) :
    (drainAt f g eof i stages).1.length = stages.length := by
  induction stages generalizing i eof with
  | nil => cases i <;> rfl
  | cons st rest ih =>
    cases i with
    | zero => exact congrArg (· + 1) (length_pushHead _ rest)
    | succ i => exact congrArg (· + 1) (ih i)

/-- A reader that can act: it runs, and has an item or has lost its input. -/
def Draining.Able (eof : Bool) (st : Draining σ α) : Prop :=
  st.running = true ∧ (st.queue ≠ [] ∨ eof = true)

section Bounded

variable (hf : ∀ s a, (f s a).2.1.length ≤ 1) (hg : ∀ s, (g s).length ≤ 1)

include hf hg

/-- A turn of an able reader lightens its load by more than nothing and emits at most one
item; a turn of another does nothing. -/
theorem Draining.load_act (st : Draining σ α) :
    (st.Able eof → (st.act f g eof).1.load + 1 ≤ st.load ∧ (st.act f g eof).2.length ≤ 1) ∧
      (¬st.Able eof → st.act f g eof = (st, [])) := by
  obtain ⟨s, queue, running⟩ := st
  cases running with
  | false => exact ⟨fun h => absurd h.1 Bool.false_ne_true, fun _ => rfl⟩
  | true =>
    cases queue with
    | nil =>
      cases eof with
      | false =>
        refine ⟨fun h => ?_, fun _ => rfl⟩
        rcases h.2 with hne | hover
        · exact absurd rfl hne
        · exact absurd hover Bool.false_ne_true
      | true => exact ⟨fun _ => ⟨Nat.le_refl 1, hg s⟩, fun h => absurd ⟨rfl, .inr rfl⟩ h⟩
    | cons a q =>
      refine ⟨fun _ => ⟨?_, hf s a⟩, fun h => absurd ⟨rfl, .inl nofun⟩ h⟩
      show (if (f s a).2.2 then q.length + 1 else 0) + 1 ≤ q.length + 1 + 1
      split
      · exact Nat.le_refl _
      · omega

/-- A turn at the head of a chain. -/
theorem work_act (w : Nat) (st : Draining σ α) (rest : List (Draining σ α)) (hable : st.Able eof) :
    work w (drainAt f g eof 0 (st :: rest)).1 +
      w * (drainAt f g eof 0 (st :: rest)).2.length + 1 ≤ work w (st :: rest) := by
  obtain ⟨hload, hout⟩ := (st.load_act hf hg).1 hable
  have hpush := work_pushHead w (st.act f g eof).2 rest
  have hcost := Nat.mul_le_mul_left (rest.length + w) hout
  have hgain := Nat.mul_le_mul_left (rest.length + 1 + w) hload
  rw [Nat.mul_add] at hgain
  show ((pushHead (st.act f g eof).2 rest).1.length + 1 + w) * (st.act f g eof).1.load +
      work w (pushHead (st.act f g eof).2 rest).1 +
      w * (pushHead (st.act f g eof).2 rest).2.length + 1 ≤
    (rest.length + 1 + w) * st.load + work w rest
  rw [length_pushHead]
  omega

/-- **No turn adds work.** -/
theorem work_drainAt_le (w i : Nat) (stages : List (Draining σ α)) :
    work w (drainAt f g eof i stages).1 + w * (drainAt f g eof i stages).2.length ≤
      work w stages := by
  induction stages generalizing i eof with
  | nil => cases i <;> exact Nat.le_refl 0
  | cons st rest ih =>
    cases i with
    | zero =>
      by_cases hable : st.Able eof
      · exact Nat.le_of_succ_le (work_act hf hg w st rest hable)
      · have hsame : drainAt f g eof 0 (st :: rest) = (st :: rest, []) := by
          show ((st.act f g eof).1 :: (pushHead (st.act f g eof).2 rest).1,
            (pushHead (st.act f g eof).2 rest).2) = _
          rw [(st.load_act hf hg).2 hable]
          cases rest with
          | nil => rfl
          | cons next rest =>
            show (st :: { next with queue := next.queue ++ [] } :: rest, ([] : List α)) = _
            rw [List.append_nil]
        rw [hsame]
        exact Nat.le_refl _
    | succ i =>
      have hrest := @ih (!st.running) i
      have hlen := @length_drainAt _ _ f g (!st.running) i rest
      show ((drainAt f g (!st.running) i rest).1.length + 1 + w) * st.load +
          work w (drainAt f g (!st.running) i rest).1 +
          w * (drainAt f g (!st.running) i rest).2.length ≤
        (rest.length + 1 + w) * st.load + work w rest
      rw [hlen]
      omega

/-- **A chain whose input has ended is never stuck**: if a reader runs, some reader's turn
takes work off it. -/
theorem exists_work_lt (w : Nat) {stages : List (Draining σ α)}
    (hrunning : ∃ st ∈ stages, st.running = true) :
    ∃ i, work w (drainAt f g true i stages).1 + w * (drainAt f g true i stages).2.length + 1 ≤
      work w stages := by
  induction stages with
  | nil =>
    obtain ⟨st, hst, -⟩ := hrunning
    exact absurd hst List.not_mem_nil
  | cons st rest ih =>
    cases hst : st.running with
    | true => exact ⟨0, work_act hf hg w st rest ⟨hst, .inr rfl⟩⟩
    | false =>
      -- the first reader has stopped, so the input of the second has ended
      obtain ⟨x, hx, hxrunning⟩ := hrunning
      have hrest : ∃ st ∈ rest, st.running = true := by
        rcases List.mem_cons.mp hx with rfl | hmem
        · rw [hst] at hxrunning
          cases hxrunning
        · exact ⟨x, hmem, hxrunning⟩
      obtain ⟨i, hi⟩ := ih hrest
      refine ⟨i + 1, ?_⟩
      have hlen := @length_drainAt _ _ f g true i rest
      show ((drainAt f g (!st.running) i rest).1.length + 1 + w) * st.load +
          work w (drainAt f g (!st.running) i rest).1 +
          w * (drainAt f g (!st.running) i rest).2.length + 1 ≤
        (rest.length + 1 + w) * st.load + work w rest
      rw [hst, Bool.not_false, hlen]
      omega

end Bounded

end Theory
