import MiniTor.Theory.Run

/-!
# Two runs side by side

A system keeps something from an observer if two runs that differ in it only look the same:
after each step the states are related, and what is put out agrees as far as the observer
sees.

- `SameResult r`: two results are the same error, or values related by `r`.
- `EveryStep.related`, `EveryStep.outputs_related`: the induction over the two runs. If events
  alike lead from related states to related states, and put out the same to the observer, so
  do runs of such events.
-/

namespace Theory

/-- Both failed with the same error, or returned related values. -/
inductive SameResult {κ α β : Type*} (r : α → β → Prop) : Except κ α → Except κ β → Prop
  | error (e : κ) : SameResult r (.error e) (.error e)
  | ok {a : α} {b : β} (h : r a b) : SameResult r (.ok a) (.ok b)

theorem SameResult.refl {κ α : Type*} {r : α → α → Prop} (hr : ∀ a, r a a) (x : Except κ α) :
    SameResult r x x := by
  cases x with
  | error e => exact .error e
  | ok a => exact .ok (hr a)

/-- Related lists have related entries at every index. -/
theorem forall₂_getElem? {α β : Type*} {r : α → β → Prop} {l : List α} {l' : List β}
    (h : List.Forall₂ r l l') (i : Nat) : Option.Rel r l[i]? l'[i]? := by
  induction h generalizing i with
  | nil => exact .none
  | cons hfirst _ ih =>
    cases i with
    | zero => exact .some hfirst
    | succ i => exact ih i

variable {σ ε ω : Type*} {step : σ → ε → σ} {rel : σ → σ → Prop} {like : σ → ε × ε → Prop}
  {s t : σ} {es : List (ε × ε)}

/-- Events that are alike keep the two runs in related states. -/
theorem EveryStep.related
    (hstep : ∀ s t e, rel s t → like s e → rel (step s e.1) (step t e.2)) (h0 : rel s t)
    (h : EveryStep (fun s e => step s e.1) like s es) :
    rel (run step s (es.map Prod.fst)) (run step t (es.map Prod.snd)) := by
  induction es generalizing s t with
  | nil => exact h0
  | cons e es ih =>
    obtain ⟨hlike, hrest⟩ := h
    exact ih (hstep s t e h0 hlike) hrest

/-- And what is put out on the way is alike. -/
theorem EveryStep.outputs_related {out : σ → ε → List ω} {alike : ω → ω → Prop}
    (hstep : ∀ s t e, rel s t → like s e → rel (step s e.1) (step t e.2))
    (hout : ∀ s t e, rel s t → like s e → List.Forall₂ alike (out s e.1) (out t e.2))
    (h0 : rel s t) (h : EveryStep (fun s e => step s e.1) like s es) :
    List.Forall₂ alike (outputs step out s (es.map Prod.fst))
      (outputs step out t (es.map Prod.snd)) := by
  induction es generalizing s t with
  | nil => exact .nil
  | cons e es ih =>
    obtain ⟨hlike, hrest⟩ := h
    have houts := ih (hstep s t e h0 hlike) hrest
    exact List.rel_append (hout s t e h0 hlike) houts

end Theory
