import Mathlib

/-!
# Explicit collisions

Over an abstract hash "there is a collision" is always true, so a reduction
names the two inputs that collide: `Collides f a b`. `eq_or_collides` is the
step such reductions are made of; `eq_or_collides_nested` takes two of them.

`transcript` is what a running hash has absorbed: the encodings of the items so
far, one after the other, with nothing between them. `isPrefix_or_collides` is
what its tags are worth: items taken under tags of sent items of the same length
are those items, in order, or two transcripts with one tag are at hand. With the tags of two
sequences compared place by place no lengths are needed (`eq_or_collides_transcript`).
-/

namespace Theory

/-- `a` and `b` are different inputs with the same value under `f`. -/
def Collides {α β : Type*} (f : α → β) (a b : α) : Prop := a ≠ b ∧ f a = f b

instance {α β : Type*} [DecidableEq α] [DecidableEq β] (f : α → β) (a b : α) :
    Decidable (Collides f a b) := inferInstanceAs (Decidable (a ≠ b ∧ f a = f b))

/-- Equal values come from equal inputs or exhibit a collision. -/
theorem eq_or_collides {α β : Type*} {f : α → β} {a b : α} (h : f a = f b) :
    a = b ∨ Collides f a b := by
  by_cases hab : a = b
  · exact .inl hab
  · exact .inr ⟨hab, h⟩

/-- Two hashes, one over the digest of the other and some public part: equal tags pin both
inputs, or one of the two hashes collides. -/
theorem eq_or_collides_nested {σ α β γ τ : Type*} {mac : β → τ} {hash : σ → α}
    {frame : α → γ → β} (hinj : Function.Injective2 frame) {s s' : σ} {p q : γ}
    (h : mac (frame (hash s) p) = mac (frame (hash s') q)) :
    (s = s' ∧ p = q) ∨ Collides mac (frame (hash s) p) (frame (hash s') q) ∨
      Collides hash s s' := by
  rcases eq_or_collides h with hframes | hmac
  · obtain ⟨hdigests, rfl⟩ := hinj hframes
    rcases eq_or_collides hdigests with rfl | hhash
    · exact .inl ⟨rfl, rfl⟩
    · exact .inr (.inr hhash)
  · exact .inr (.inl hmac)

/-! ## Transcripts -/

section Transcript

variable {α β τ : Type*} (encode : α → List β)

/-- What was absorbed once these items were, from the state `d`. -/
def transcript (d : List β) (items : List α) : List β := items.foldl (fun d a => d ++ encode a) d

variable {encode}

theorem transcript_append (d : List β) (items items' : List α) :
    transcript encode d (items ++ items') = transcript encode (transcript encode d items) items' :=
  List.foldl_append

theorem transcript_concat (d : List β) (items : List α) (a : α) :
    transcript encode d (items ++ [a]) = transcript encode d items ++ encode a :=
  transcript_append ..

/-- Absorbing an item makes a transcript longer. -/
theorem length_lt_transcript (hne : ∀ a, encode a ≠ []) (d : List β) (a : α) (items : List α) :
    d.length < (transcript encode d (a :: items)).length := by
  induction items generalizing d a with
  | nil =>
    have hpos := List.length_pos_of_ne_nil (hne a)
    show d.length < (d ++ encode a).length
    rw [List.length_append]
    omega
  | cons b items ih =>
    have hlater := ih (d ++ encode a) b
    rw [List.length_append] at hlater
    show d.length < (transcript encode (d ++ encode a) (b :: items)).length
    omega

theorem length_transcript_take_lt (hne : ∀ a, encode a ≠ []) (d : List β) {items : List α}
    {i j : Nat} (hij : i < j) (hi : i < items.length) :
    (transcript encode d (items.take i)).length < (transcript encode d (items.take j)).length := by
  obtain ⟨a, rest, hrest⟩ : ∃ a rest, items.take j = items.take i ++ a :: rest := by
    obtain ⟨k, rfl⟩ := Nat.exists_eq_add_of_lt hij
    refine ⟨items[i], (items.drop (i + 1)).take k, ?_⟩
    rw [Nat.add_assoc, List.take_add, List.drop_eq_getElem_cons hi, List.take_succ_cons]
  rw [hrest, transcript_append]
  exact length_lt_transcript hne _ a rest

/-- A transcript tells how many items it has absorbed. -/
theorem take_index_eq (hne : ∀ a, encode a ≠ []) {d : List β} {items : List α} {i j : Nat}
    (hi : i ≤ items.length) (hj : j ≤ items.length)
    (h : transcript encode d (items.take i) = transcript encode d (items.take j)) : i = j := by
  rcases Nat.lt_trichotomy i j with hij | hij | hij
  · have := length_transcript_take_lt hne d hij (Nat.lt_of_lt_of_le hij hj)
    rw [h] at this
    exact absurd this (Nat.lt_irrefl _)
  · exact hij
  · have := length_transcript_take_lt hne d hij (Nat.lt_of_lt_of_le hij hi)
    rw [h] at this
    exact absurd this (Nat.lt_irrefl _)

/-- **What the tags of a running hash are worth.** Each item is taken under the tag that some
sent item of its length was given: then the items taken are the first ones sent, or two
different transcripts of them have one tag. -/
theorem isPrefix_or_collides (hinj : Function.Injective encode) (hne : ∀ a, encode a ≠ [])
    {tag : List β → τ} {d : List β} {taken sent : List α}
    (h : ∀ i (hi : i < taken.length), ∃ j, ∃ hj : j < sent.length,
      (encode taken[i]).length = (encode sent[j]).length ∧
        tag (transcript encode d (taken.take (i + 1))) =
          tag (transcript encode d (sent.take (j + 1)))) :
    taken <+: sent ∨ ∃ i j,
      Collides tag (transcript encode d (taken.take i)) (transcript encode d (sent.take j)) := by
  by_cases hcollides : ∃ i j,
      Collides tag (transcript encode d (taken.take i)) (transcript encode d (sent.take j))
  · exact .inr hcollides
  · left
    have hsame : ∀ n ≤ taken.length, taken.take n = sent.take n := by
      intro n hn
      induction n with
      | zero => rw [List.take_zero, List.take_zero]
      | succ i ih =>
        have hbefore := ih (Nat.le_of_lt hn)
        have hi : i ≤ sent.length := by
          have hlengths := congrArg List.length hbefore
          rw [List.length_take_of_le (Nat.le_of_lt hn), List.length_take] at hlengths
          omega
        obtain ⟨j, hj, hlength, htag⟩ := h i hn
        have htranscripts : transcript encode d (taken.take (i + 1)) =
            transcript encode d (sent.take (j + 1)) := by
          rcases eq_or_collides htag with heq | hcollision
          · exact heq
          · exact absurd ⟨_, _, hcollision⟩ hcollides
        rw [List.take_succ_eq_append_getElem hn, List.take_succ_eq_append_getElem hj,
          transcript_concat, transcript_concat] at htranscripts
        obtain ⟨hstates, hitems⟩ := List.append_inj' htranscripts hlength
        -- the last items have one length, so the transcripts part before them, and a
        -- transcript of the items sent tells how many they are
        rw [hbefore] at hstates
        obtain rfl : i = j := take_index_eq hne hi (Nat.le_of_lt hj) hstates
        rw [List.take_succ_eq_append_getElem hn, List.take_succ_eq_append_getElem hj, hbefore,
          hinj hitems]
    have hall := hsame taken.length (Nat.le_refl _)
    rw [List.take_length] at hall
    rw [hall]
    exact List.take_prefix ..

/-- Equal tags after every item bind the items: two sequences of one length are the same, or
their transcripts differ after some item and have one tag there. -/
theorem eq_or_collides_transcript (hinj : Function.Injective encode) {tag : List β → τ}
    {d : List β} {xs ys : List α} (hlen : xs.length = ys.length)
    (h : ∀ i < xs.length, tag (transcript encode d (xs.take (i + 1))) =
      tag (transcript encode d (ys.take (i + 1)))) :
    xs = ys ∨ ∃ i < xs.length,
      Collides tag (transcript encode d (xs.take (i + 1)))
        (transcript encode d (ys.take (i + 1))) := by
  by_cases hcollides : ∃ i < xs.length, Collides tag (transcript encode d (xs.take (i + 1)))
      (transcript encode d (ys.take (i + 1)))
  · exact .inr hcollides
  · left
    have hsame : ∀ i ≤ xs.length,
        transcript encode d (xs.take i) = transcript encode d (ys.take i) := by
      intro i hi
      cases i with
      | zero => rw [List.take_zero, List.take_zero]
      | succ i =>
        rcases eq_or_collides (h i hi) with heq | hcollision
        · exact heq
        · exact absurd ⟨i, hi, hcollision⟩ hcollides
    refine List.ext_getElem hlen fun i hi hi' => ?_
    -- the transcripts agree before and after the item, so its two encodings do
    have hafter := hsame (i + 1) hi
    rw [List.take_succ_eq_append_getElem hi, List.take_succ_eq_append_getElem hi',
      transcript_concat, transcript_concat, hsame i (Nat.le_of_lt hi)] at hafter
    exact hinj (List.append_cancel_left hafter)

end Transcript

end Theory
