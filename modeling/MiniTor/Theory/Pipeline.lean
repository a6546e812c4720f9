import Mathlib

/-!
# Pipelines of deterministic stages

A pipeline is a list of stages, each a state and a FIFO input queue; a stage
takes the head of its queue, updates its state and appends its outputs to the
queue of the next stage. Stages run at any speed, so a run interleaves their
moves arbitrarily.

`flush f stages inp` is the pipeline run to the end: every queue drained, `inp`
appended behind the first queue. It is the invariant of asynchronous runs:

- `Settles st st' out`: a move that changes the flush by nothing but the outputs
  already emitted. A stage taking the head of its queue is one (`Settles.move`),
  wherever it stands in the pipeline (`Settles.append_left`, `Settles.append`);
- putting an item into the first queue is flushing it behind the rest
  (`flush_push`, `flush_append`).

So what comes out of the pipeline is what the synchronous composition computes,
however the stages are scheduled.
-/

namespace Theory

variable {σ α : Type*} (f : σ → α → σ × List α)

/-- One stage fed a list of items: final state and all outputs. -/
def feed : σ → List α → σ × List α
  | s, [] => (s, [])
  | s, a :: as =>
    let (s', out) := f s a
    let (s'', rest) := feed s' as
    (s'', out ++ rest)

@[simp] theorem feed_nil (s : σ) : feed f s [] = (s, []) := rfl

theorem feed_cons (s : σ) (a : α) (as : List α) :
    feed f s (a :: as) =
      ((feed f (f s a).1 as).1, (f s a).2 ++ (feed f (f s a).1 as).2) := rfl

theorem feed_append (s : σ) (as bs : List α) :
    feed f s (as ++ bs) =
      ((feed f (feed f s as).1 bs).1, (feed f s as).2 ++ (feed f (feed f s as).1 bs).2) := by
  induction as generalizing s with
  | nil => rfl
  | cons a as ih => simp [feed_cons, ih, List.append_assoc]

/-- The pipeline run to the end with `inp` behind the first queue: the final
states and what the last stage emits. -/
def flush : List (σ × List α) → List α → List σ × List α
  | [], inp => ([], inp)
  | (s, q) :: rest, inp =>
    let (s', out) := feed f s (q ++ inp)
    let (ss, outs) := flush rest out
    (s' :: ss, outs)

@[simp] theorem flush_nil (inp : List α) : flush f [] inp = ([], inp) := rfl

theorem flush_cons (s : σ) (q : List α) (rest : List (σ × List α)) (inp : List α) :
    flush f ((s, q) :: rest) inp =
      ((feed f s (q ++ inp)).1 :: (flush f rest (feed f s (q ++ inp)).2).1,
        (flush f rest (feed f s (q ++ inp)).2).2) := rfl

/-- The stages after a flush, with nothing queued. -/
def idle (ss : List σ) : List (σ × List α) := ss.map fun s => (s, [])

/-- A pipeline with nothing queued stays as it is. -/
theorem flush_empty {stages : List (σ × List α)} (h : ∀ x ∈ stages, x.2 = []) :
    flush f stages [] = (stages.map Prod.fst, []) := by
  induction stages with
  | nil => rfl
  | cons x rest ih =>
    obtain ⟨s, q⟩ := x
    have hq : q = [] := h (s, q) List.mem_cons_self
    subst hq
    rw [flush_cons]
    simp only [List.append_nil, feed_nil, ih fun x hx => h x (List.mem_cons_of_mem _ hx),
      List.map_cons]

/-- Items in the first queue are flushed ahead of the input. -/
theorem flush_push (s : σ) (q as : List α) (rest : List (σ × List α)) (inp : List α) :
    flush f ((s, q ++ as) :: rest) inp = flush f ((s, q) :: rest) (as ++ inp) := by
  rw [flush_cons, flush_cons, List.append_assoc]

/-- Flushing two batches is flushing the first, then the second through the
drained pipeline. -/
theorem flush_append (stages : List (σ × List α)) (as bs : List α) :
    flush f stages (as ++ bs) =
      ((flush f (idle (flush f stages as).1) bs).1,
        (flush f stages as).2 ++ (flush f (idle (flush f stages as).1) bs).2) := by
  induction stages generalizing as bs with
  | nil => rfl
  | cons st rest ih =>
    obtain ⟨s, q⟩ := st
    have hq : q ++ (as ++ bs) = (q ++ as) ++ bs := (List.append_assoc ..).symm
    simp only [flush_cons, hq, feed_append, idle, List.map_cons, List.nil_append]
    rw [ih]
    rfl

/-- A pipeline and what follows it. -/
theorem flush_append_stages (st rest : List (σ × List α)) (inp : List α) :
    flush f (st ++ rest) inp =
      ((flush f st inp).1 ++ (flush f rest (flush f st inp).2).1,
        (flush f rest (flush f st inp).2).2) := by
  induction st generalizing inp with
  | nil => rfl
  | cons x st ih =>
    obtain ⟨s, q⟩ := x
    simp only [List.cons_append, flush_cons, ih]

/-- The pipeline moved from `st` to `st'` and emitted `out`: what the whole pipeline will have
emitted in the end stays the same. -/
def Settles (st st' : List (σ × List α)) (out : List α) : Prop :=
  ∀ inp, flush f st inp = ((flush f st' inp).1, out ++ (flush f st' inp).2)

namespace Settles

variable {f} {st st' : List (σ × List α)} {out : List α}

theorem refl (st : List (σ × List α)) : Settles f st st [] := fun _ => rfl

/-- A stage takes the head of its queue. -/
theorem move (s : σ) (a : α) (q : List α) :
    Settles f [(s, a :: q)] [((f s a).1, q)] (f s a).2 := by
  intro inp
  simp only [flush_cons, List.cons_append, feed_cons, flush_nil]

/-- Stages in front see nothing of it. -/
theorem cons (h : Settles f st st' out) (x : σ × List α) :
    Settles f (x :: st) (x :: st') out := by
  intro inp
  obtain ⟨s, q⟩ := x
  rw [flush_cons, flush_cons, h]

theorem append_left (h : Settles f st st' out) (pre : List (σ × List α)) :
    Settles f (pre ++ st) (pre ++ st') out := by
  induction pre with
  | nil => exact h
  | cons x pre ih => exact ih.cons x

/-- What is emitted goes to the queue of the stage behind. -/
theorem append (h : Settles f st st' out) (t : σ) (r : List α) (rest : List (σ × List α)) :
    Settles f (st ++ (t, r) :: rest) (st' ++ (t, r ++ out) :: rest) [] := by
  intro inp
  rw [flush_append_stages, flush_append_stages, h, flush_push]
  rfl

/-- With nothing put in: the outputs still to come lose what was emitted. -/
theorem flush_nil_eq (h : Settles f st st' out) {ss : List σ} {outs : List α}
    (hflush : flush f st [] = (ss, outs)) :
    (flush f st' []).1 = ss ∧ outs = out ++ (flush f st' []).2 := by
  have heq := h []
  rw [hflush] at heq
  obtain ⟨hss, houts⟩ := Prod.mk.inj heq
  exact ⟨hss.symm, houts⟩

end Settles

end Theory
