import Mathlib

/-!
# Computations that may fail

The early returns of fallible code, over `Except`: `failIf` is a guard, `okOr`
turns an absent value into an error. `bind_eq_ok` peels a successful computation
apart step by step; a list or a vector of them succeeds if every one of them does.
-/

namespace Theory

variable {ε α β : Type}

/-- `if c { return Err(e) }`. -/
def failIf (c : Prop) [Decidable c] (e : ε) : Except ε Unit := if c then .error e else .ok ()

/-- `Option::ok_or`. -/
def okOr (o : Option α) (e : ε) : Except ε α :=
  match o with
  | some a => .ok a
  | none => .error e

theorem bind_eq_ok {x : Except ε α} {f : α → Except ε β} {b : β} :
    x >>= f = .ok b ↔ ∃ a, x = .ok a ∧ f a = .ok b := by
  constructor
  · intro h
    cases x with
    | error e => cases h
    | ok a => exact ⟨a, rfl, h⟩
  · rintro ⟨a, rfl, h⟩
    exact h

/-- A sequence fails at its first part or at its second. -/
theorem bind_eq_error {x : Except ε α} {f : α → Except ε β} {e : ε} :
    x >>= f = .error e ↔ x = .error e ∨ ∃ a, x = .ok a ∧ f a = .error e := by
  cases x with
  | error e' =>
    constructor
    · intro h
      cases h
      exact .inl rfl
    · rintro (h | ⟨a, h, -⟩)
      · cases h
        rfl
      · cases h
  | ok a =>
    constructor
    · exact fun h => .inr ⟨a, rfl, h⟩
    · rintro (h | ⟨a', h, hf⟩)
      · cases h
      · cases h
        exact hf

@[simp] theorem failIf_eq_error {c : Prop} [Decidable c] {e e' : ε} :
    failIf c e = .error e' ↔ c ∧ e = e' := by
  by_cases h : c
  · simp [failIf, h]
  · simp [failIf, h]

@[simp] theorem okOr_eq_error {o : Option α} {e e' : ε} :
    okOr o e = .error e' ↔ o = none ∧ e = e' := by
  cases o <;> simp [okOr]

@[simp] theorem failIf_eq_ok {c : Prop} [Decidable c] {e : ε} {u : Unit} :
    failIf c e = .ok u ↔ ¬c := by
  by_cases h : c
  · simp [failIf, h]
  · simp [failIf, h]

theorem failIf_neg {c : Prop} [Decidable c] {e : ε} (h : ¬c) : failIf c e = .ok () := if_neg h

theorem failIf_pos {c : Prop} [Decidable c] {e : ε} (h : c) : failIf c e = .error e := if_pos h

@[simp] theorem okOr_eq_ok {o : Option α} {e : ε} {a : α} : okOr o e = .ok a ↔ o = some a := by
  cases o <;> simp [okOr]

@[simp] theorem okOr_some (a : α) (e : ε) : okOr (some a) e = .ok a := rfl

@[simp] theorem ok_bind (a : α) (f : α → Except ε β) : (Except.ok a >>= f) = f a := rfl

@[simp] theorem error_bind (e : ε) (f : α → Except ε β) :
    ((Except.error e : Except ε α) >>= f) = .error e := rfl

/-! ## Lists and vectors of them -/

theorem mapM_map_ok {f : β → Except ε α} {g : α → β} (h : ∀ a, f (g a) = .ok a)
    (l : List α) : (l.map g).mapM f = .ok l := by
  induction l with
  | nil => rfl
  | cons a l ih =>
    rw [List.map_cons, List.mapM_cons, h, ih]
    rfl

/-- What each element is turned into turns back, so the list does. -/
theorem mapM_ok_map {f : β → Except ε α} {g : α → β} (h : ∀ b a, f b = .ok a → g a = b) :
    ∀ {l : List β} {l' : List α}, l.mapM f = .ok l' → l'.map g = l
  | [], l', hl => by
    cases hl
    rfl
  | b :: l, l', hl => by
    rw [List.mapM_cons] at hl
    obtain ⟨a, ha, htail⟩ := bind_eq_ok.mp hl
    obtain ⟨as, has, heq⟩ := bind_eq_ok.mp htail
    cases heq
    rw [List.map_cons, h b a ha, mapM_ok_map h has]

/-- A list is turned into another if each of its elements can be. -/
theorem mapM_ok_iff {f : β → Except ε α} (l : List β) :
    (∃ l', l.mapM f = .ok l') ↔ ∀ b ∈ l, ∃ a, f b = .ok a := by
  induction l with
  | nil => exact ⟨fun _ b hb => absurd hb List.not_mem_nil, fun _ => ⟨[], rfl⟩⟩
  | cons b l ih =>
    rw [List.forall_mem_cons, ← ih]
    constructor
    · rintro ⟨l', hl⟩
      rw [List.mapM_cons] at hl
      obtain ⟨a, ha, htail⟩ := bind_eq_ok.mp hl
      obtain ⟨as, has, -⟩ := bind_eq_ok.mp htail
      exact ⟨⟨a, ha⟩, as, has⟩
    · rintro ⟨⟨a, ha⟩, as, has⟩
      refine ⟨a :: as, ?_⟩
      rw [List.mapM_cons, ha, has]
      rfl

/-- A vector is filled if each of its places is. -/
theorem mOfFn_eq_ok {n : Nat} {f : Fin n → Except ε α} {v : List.Vector α n} :
    List.Vector.mOfFn f = .ok v ↔ ∀ i, f i = .ok (v.get i) := by
  induction n with
  | zero =>
    rw [v.eq_nil]
    exact ⟨fun _ i => i.elim0, fun _ => rfl⟩
  | succ n ih =>
    rw [List.Vector.mOfFn, bind_eq_ok, Fin.forall_fin_succ]
    constructor
    · rintro ⟨a, ha, htail⟩
      obtain ⟨v', hv, heq⟩ := bind_eq_ok.mp htail
      cases heq
      exact ⟨by rw [ha, List.Vector.get_cons_zero], fun i => by
        rw [ih.mp hv i, List.Vector.get_cons_succ]⟩
    · rintro ⟨hhead, htail⟩
      refine ⟨v.head, by rw [hhead, List.Vector.get_zero], bind_eq_ok.mpr ⟨v.tail, ?_, ?_⟩⟩
      · exact ih.mpr fun i => by rw [htail i, List.Vector.get_tail_succ]
      · exact congrArg Except.ok (List.Vector.cons_head_tail v)

end Theory
