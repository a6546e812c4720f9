import Mathlib

/-!
# Runs of a step function

A system is a state and a step function over events; a run is a list of events.

- `EveryStep p s es`: `p` holds at every step of the run `es` from `s`.
- `EveryStep.of_invariant`: the induction every run argument below is an instance
  of. An invariant that holds at the start and is kept by the steps satisfying
  `p` holds at every step, and whatever it gives there does too.
- `EveryState p s es`: `p` holds in every state of the run.
- `everyState_iff`: where a step keeps `p` exactly if it satisfies a condition,
  every state satisfies `p` exactly if every step satisfies the condition.
- `balance_run`: an account that balances at every step balances over a run.
- `EveryStep.outputs_invariant`: the induction once more, for an invariant that speaks of what
  the run has put out.
- `EveryPast p es`: `p` holds of every event together with the events before it; what a run
  puts out is told from them as well (`outputs_eq`).
-/

namespace Theory

variable {σ ε : Type*} (step : σ → ε → σ)

/-- The state a run ends in. -/
def run (s : σ) (es : List ε) : σ := es.foldl step s

@[simp] theorem run_nil (s : σ) : run step s [] = s := rfl

@[simp] theorem run_cons (s : σ) (e : ε) (es : List ε) :
    run step s (e :: es) = run step (step s e) es := rfl

theorem run_append (s : σ) (es fs : List ε) :
    run step s (es ++ fs) = run step (run step s es) fs := List.foldl_append

/-- `p` holds at every step of the run. -/
def EveryStep (p : σ → ε → Prop) : σ → List ε → Prop
  | _, [] => True
  | s, e :: es => p s e ∧ EveryStep p (step s e) es

/-- A run of decidable steps can be checked. -/
def decidableEveryStep {p : σ → ε → Prop} [∀ s e, Decidable (p s e)] :
    (s : σ) → (es : List ε) → Decidable (EveryStep step p s es)
  | _, [] => .isTrue trivial
  | s, e :: es =>
    @instDecidableAnd (p s e) (EveryStep step p (step s e) es) inferInstance
      (decidableEveryStep (step s e) es)

instance {p : σ → ε → Prop} [∀ s e, Decidable (p s e)] (s : σ) (es : List ε) :
    Decidable (EveryStep step p s es) := decidableEveryStep step s es

variable {step} {p q : σ → ε → Prop} {inv : σ → Prop}

/-- Steps that satisfy `p` keep the invariant, so it holds where the run ends. -/
theorem EveryStep.invariant (hstep : ∀ s e, inv s → p s e → inv (step s e)) {s : σ}
    {es : List ε} (h0 : inv s) (h : EveryStep step p s es) : inv (run step s es) := by
  induction es generalizing s with
  | nil => exact h0
  | cons e es ih =>
    obtain ⟨hp, hrest⟩ := h
    exact ih (hstep s e h0 hp) hrest

/-- What the invariant gives at one step it gives at every step of the run. -/
theorem EveryStep.of_invariant (hstep : ∀ s e, inv s → p s e → inv (step s e))
    (hgives : ∀ s e, inv s → p s e → q s e) {s : σ} {es : List ε} (h0 : inv s)
    (h : EveryStep step p s es) : EveryStep step q s es := by
  induction es generalizing s with
  | nil => trivial
  | cons e es ih =>
    obtain ⟨hp, hrest⟩ := h
    exact ⟨hgives s e h0 hp, ih (hstep s e h0 hp) hrest⟩

/-- What each step gives for itself. -/
theorem EveryStep.mono (hgives : ∀ s e, p s e → q s e) {s : σ} {es : List ε}
    (h : EveryStep step p s es) : EveryStep step q s es :=
  @EveryStep.of_invariant _ _ step p q (fun _ => True) (fun _ _ _ _ => trivial)
    (fun s e _ => hgives s e) s es trivial h

/-- What every event satisfies holds at every step. -/
theorem EveryStep.of_forall {r : ε → Prop} {s : σ} {es : List ε} (hr : ∀ e ∈ es, r e) :
    EveryStep step (fun _ e => r e) s es := by
  induction es generalizing s with
  | nil => trivial
  | cons e es ih =>
    exact ⟨hr e List.mem_cons_self, ih fun d hd => hr d (List.mem_cons_of_mem _ hd)⟩

/-- What holds of every event holds at every step. -/
theorem EveryStep.and_forall {r : ε → Prop} {s : σ} {es : List ε} (h : EveryStep step p s es)
    (hr : ∀ e ∈ es, r e) : EveryStep step (fun s e => r e ∧ p s e) s es := by
  induction es generalizing s with
  | nil => trivial
  | cons e es ih =>
    obtain ⟨hp, hrest⟩ := h
    exact ⟨⟨hr e List.mem_cons_self, hp⟩, ih hrest fun d hd => hr d (List.mem_cons_of_mem _ hd)⟩

/-- What holds at every step holds at the last one. -/
theorem EveryStep.last {s : σ} {es : List ε} {e : ε} (h : EveryStep step p s (es ++ [e])) :
    p (run step s es) e := by
  induction es generalizing s with
  | nil => exact h.1
  | cons d es ih => exact ih h.2

variable (step) in
/-- `p` holds in every state of the run, the first and the last included. -/
def EveryState (p : σ → Prop) : σ → List ε → Prop
  | s, [] => p s
  | s, e :: es => p s ∧ EveryState p (step s e) es

variable {g : σ → Prop}

theorem EveryState.head {s : σ} {es : List ε} (h : EveryState step g s es) : g s := by
  cases es with
  | nil => exact h
  | cons e es => exact h.1

theorem EveryState.last {s : σ} {es : List ε} (h : EveryState step g s es) : g (run step s es) := by
  induction es generalizing s with
  | nil => exact h
  | cons e es ih => exact ih h.2

/-- An invariant kept by the steps satisfying `p` holds in every state of a run of them. -/
theorem EveryStep.everyState (hstep : ∀ s e, inv s → p s e → inv (step s e))
    (hgives : ∀ s, inv s → g s) {s : σ} {es : List ε} (h0 : inv s) (h : EveryStep step p s es) :
    EveryState step g s es := by
  induction es generalizing s with
  | nil => exact hgives s h0
  | cons e es ih =>
    obtain ⟨hp, hrest⟩ := h
    exact ⟨hgives s h0, ih (hstep s e h0 hp) hrest⟩

/-- An invariant kept by every step holds in every state of every run. -/
theorem everyState_of_invariant (hstep : ∀ s e, inv s → inv (step s e))
    (hgives : ∀ s, inv s → g s) {s : σ} {es : List ε} (h0 : inv s) : EveryState step g s es := by
  induction es generalizing s with
  | nil => exact hgives s h0
  | cons e es ih => exact ⟨hgives s h0, ih (hstep s e h0)⟩

/-- Steps that satisfy `p` are the ones after which `g` holds. -/
theorem everyState_iff (hstep : ∀ s e, inv s → p s e → inv (step s e))
    (hgives : ∀ s, inv s → g s) (hforced : ∀ s e, inv s → g (step s e) → p s e) {s : σ}
    {es : List ε} (h0 : inv s) : EveryState step g s es ↔ EveryStep step p s es := by
  refine ⟨fun h => ?_, EveryStep.everyState hstep hgives h0⟩
  induction es generalizing s with
  | nil => trivial
  | cons e es ih =>
    obtain ⟨-, hrest⟩ := h
    have hp : p s e := hforced s e h0 hrest.head
    exact ⟨hp, ih (hstep s e h0 hp) hrest⟩

/-! ## Accounts -/

variable (step) in
/-- What the steps of a run amount to together. -/
def total (amount : σ → ε → Nat) : σ → List ε → Nat
  | _, [] => 0
  | s, e :: es => amount s e + total amount (step s e) es

theorem total_add (f g : σ → ε → Nat) (s : σ) (es : List ε) :
    total step (fun s e => f s e + g s e) s es = total step f s es + total step g s es := by
  induction es generalizing s with
  | nil => rfl
  | cons e es ih =>
    have hrest := ih (step s e)
    rw [total, total, total]
    omega

/-- An account that balances at every step balances over a run. -/
theorem balance_run {value : σ → Nat} {lost gained : σ → ε → Nat}
    (hstep : ∀ s e, inv s → inv (step s e))
    (hbalance : ∀ s e, inv s → value (step s e) + lost s e = value s + gained s e) {s : σ}
    {es : List ε} (h0 : inv s) :
    value (run step s es) + total step lost s es = value s + total step gained s es := by
  induction es generalizing s with
  | nil => rfl
  | cons e es ih =>
    have hfirst := hbalance s e h0
    have hrest := ih (hstep s e h0)
    rw [run_cons, total, total]
    omega

/-- An invariant kept by every step holds where a run ends. -/
theorem run_invariant (hstep : ∀ s e, inv s → inv (step s e)) {s : σ} {es : List ε}
    (h0 : inv s) : inv (run step s es) :=
  (everyState_of_invariant hstep (fun _ h => h) h0).last

/-! ## Histories -/

/-- Each event with the events before it. -/
def withPast : List ε → List (List ε × ε)
  | [] => []
  | e :: es => ([], e) :: (withPast es).map fun x => (e :: x.1, x.2)

theorem withPast_concat (es : List ε) (e : ε) : withPast (es ++ [e]) = withPast es ++ [(es, e)] := by
  induction es with
  | nil => rfl
  | cons d es ih => rw [List.cons_append, withPast, withPast, ih, List.map_append]; rfl

/-- `p` holds of every event and the events before it. -/
def EveryPast (p : List ε → ε → Prop) (es : List ε) : Prop := ∀ x ∈ withPast es, p x.1 x.2

instance {p : List ε → ε → Prop} [∀ past e, Decidable (p past e)] (es : List ε) :
    Decidable (EveryPast p es) := inferInstanceAs (Decidable (∀ x ∈ withPast es, p x.1 x.2))

theorem everyPast_nil {p : List ε → ε → Prop} : EveryPast p [] :=
  fun _ h => absurd h List.not_mem_nil

theorem everyPast_concat {p : List ε → ε → Prop} {es : List ε} {e : ε} :
    EveryPast p (es ++ [e]) ↔ EveryPast p es ∧ p es e := by
  rw [EveryPast, withPast_concat, List.forall_mem_append, List.forall_mem_singleton]
  rfl

variable {ω : Type*}

variable (step) in
/-- What a run puts out. -/
def outputs (out : σ → ε → List ω) : σ → List ε → List ω
  | _, [] => []
  | s, e :: es => out s e ++ outputs out (step s e) es

/-- An invariant of the state and of what has been put out so far. -/
theorem EveryStep.outputs_invariant {out : σ → ε → List ω} {inv : σ → List ω → Prop}
    (hstep : ∀ s past e, inv s past → p s e → inv (step s e) (past ++ out s e)) {s : σ}
    {es : List ε} {past : List ω} (h0 : inv s past) (h : EveryStep step p s es) :
    inv (run step s es) (past ++ outputs step out s es) := by
  induction es generalizing s past with
  | nil =>
    rw [outputs, List.append_nil]
    exact h0
  | cons e es ih =>
    obtain ⟨hp, hrest⟩ := h
    rw [run_cons, outputs, ← List.append_assoc]
    exact ih (hstep s past e h0 hp) hrest

/-- Each event puts out what it does in the state the events before it led to. -/
theorem outputs_eq (out : σ → ε → List ω) (s : σ) (es : List ε) :
    outputs step out s es = (withPast es).flatMap fun x => out (run step s x.1) x.2 := by
  induction es generalizing s with
  | nil => rfl
  | cons e es ih =>
    rw [outputs, ih, withPast, List.flatMap_cons, List.flatMap_map]
    rfl

/-- What the steps amount to is what their outputs do. -/
theorem total_outputs (out : σ → ε → List ω) (f : ω → Nat) (s : σ) (es : List ε) :
    total step (fun s e => ((out s e).map f).sum) s es = ((outputs step out s es).map f).sum := by
  induction es generalizing s with
  | nil => rfl
  | cons e es ih => rw [total, outputs, ih, List.map_append, List.sum_append]

/-- Where steps do nothing but apply their outputs to a part of the state, a run applies what
it puts out. -/
theorem run_outputs {τ : Type*} (part : σ → τ) (out : σ → ε → List ω) (apply : τ → ω → τ)
    (hstep : ∀ s e, part (step s e) = (out s e).foldl apply (part s)) (s : σ) (es : List ε) :
    part (run step s es) = (outputs step out s es).foldl apply (part s) := by
  induction es generalizing s with
  | nil => rfl
  | cons e es ih => rw [run_cons, ih, hstep, outputs, List.foldl_append]

/-- Replacing one summand. -/
theorem sum_set_add {l : List Nat} {i a : Nat} (b : Nat) (h : l[i]? = some a) :
    (l.set i b).sum + a = l.sum + b := by
  induction l generalizing i with
  | nil => cases h
  | cons d l ih =>
    cases i with
    | zero =>
      obtain rfl : d = a := Option.some.inj h
      rw [List.set_cons_zero, List.sum_cons, List.sum_cons]
      omega
    | succ i =>
      have hrest := ih h
      rw [List.set_cons_succ, List.sum_cons, List.sum_cons]
      omega

end Theory
