import MiniTor.Theory.Onion

/-!
# Sealed channels over a pipeline of layers

A sender puts items into a pipeline of stream cipher layers, each under the
inverse of the pipeline's layers and with the tag of a running digest that has
absorbed every item so far; the receiver at the end keeps a mirror of that
digest. `InSync` is what holds at any moment: the items still on their way will
come out in the clear, they carry the tags the receiver expects, and together
with the ones received they are the ones sent.

- `InSync.send`: sealing one more item and putting it in.
- `InSync.settles`: the pipeline moves.
- `InSync.receive`: the next item to come out is the next one sent, and it
  carries the tag of the receiver's digest.
-/

namespace Theory

/-! ## Running tags -/

section Chained

variable {α δ τ : Type*} (absorb : δ → α → δ) (tag : δ → τ) (carried : α → τ)

/-- The items carry the tags of a running digest that they take from one state to another. -/
def Chained : δ → List α → δ → Prop
  | d, [], d' => d = d'
  | d, a :: as, d' => carried a = tag (absorb d a) ∧ Chained (absorb d a) as d'

variable {absorb tag carried}

theorem Chained.concat {d d' : δ} {as : List α} {a : α}
    (h : Chained absorb tag carried d as d') (ha : carried a = tag (absorb d' a)) :
    Chained absorb tag carried d (as ++ [a]) (absorb d' a) := by
  induction as generalizing d with
  | nil =>
    cases h
    exact ⟨ha, rfl⟩
  | cons b as ih => exact ⟨h.1, ih h.2⟩

end Chained

/-! ## The channel -/

/-- What a channel is made of: how its items carry payload and tag, how the digest runs, and
what of an item counts. -/
structure Channel (α δ τ π : Type*) where
  carrier : Carrier α
  absorb : δ → α → δ
  tag : δ → τ
  carried : α → τ
  view : α → π

namespace Channel

variable {α δ τ π : Type*} (C : Channel α δ τ π)

/-- Layers that undo the sender's, in whatever order. -/
def Opposed (source ls : List Keyed) : Prop := ∃ ks, (source ++ ls).Perm (ks ++ ks)

theorem Opposed.advance {source ls : List Keyed} (h : Opposed source ls) (n : Nat) :
    Opposed (source.map (Keyed.advance · n)) (ls.map (Keyed.advance · n)) := by
  obtain ⟨ks, hks⟩ := h
  refine ⟨ks.map (Keyed.advance · n), ?_⟩
  rw [← List.map_append, ← List.map_append]
  exact hks.map _

theorem Opposed.through {source ls : List Keyed} (h : Opposed source ls) (a : α) :
    C.carrier.through ls (C.carrier.through source a) = a := by
  obtain ⟨ks, hks⟩ := h
  rw [← Carrier.through_append, Carrier.through, applyLayers_perm hks, ← Carrier.through,
    Carrier.through_append, Carrier.through_cancel _ (List.Perm.refl ks)]

/-- Both ends of the channel agree: `source` are the sender's layers, `d` and `d'` the digests
of receiver and sender. -/
def InSync (st : List (List Keyed × List α)) (source : List Keyed) (d d' : δ)
    (received sent : List π) : Prop :=
  ∃ ss outs, flush C.carrier.stage st [] = (ss, outs) ∧ Opposed source ss.flatten ∧
    Chained C.absorb C.tag C.carried d outs d' ∧ received ++ outs.map C.view = sent

variable {C} {st st' : List (List Keyed × List α)} {source : List Keyed} {d d' : δ}
  {received sent : List π}

namespace InSync

/-- A channel starts with nothing on its way, under opposed layers and one digest. -/
theorem start (hempty : ∀ x ∈ st, x.2 = []) (hopposed : Opposed source (st.map Prod.fst).flatten)
    (d : δ) : C.InSync st source d d [] [] :=
  ⟨_, _, flush_empty C.carrier.stage hempty, hopposed, rfl, rfl⟩

theorem received_prefix (h : C.InSync st source d d' received sent) : received <+: sent := by
  obtain ⟨ss, outs, -, -, -, hsent⟩ := h
  exact ⟨_, hsent⟩

/-- With nothing on its way everything sent has been received. -/
theorem received_eq (h : C.InSync st source d d' received sent)
    (hempty : ∀ x ∈ st, x.2 = []) : received = sent := by
  obtain ⟨ss, outs, hflush, -, -, hsent⟩ := h
  rw [flush_empty C.carrier.stage hempty] at hflush
  obtain ⟨-, rfl⟩ := Prod.mk.inj hflush
  rw [← hsent, List.map_nil, List.append_nil]

/-- **Sealing an item and putting it in.** -/
theorem send (h : C.InSync st source d d' received sent) {a : α}
    (hpassed : C.carrier.dropped a = false) (htag : C.carried a = C.tag (C.absorb d' a))
    (hput : flush C.carrier.stage st' [] =
      flush C.carrier.stage st [C.carrier.through source a]) :
    C.InSync st' (source.map (Keyed.advance · (C.carrier.payload a).length)) d (C.absorb d' a)
      received (sent ++ [C.view a]) := by
  obtain ⟨ss, outs, hflush, hopposed, hchained, hsent⟩ := h
  have hout := C.carrier.flush_send hflush
    ((C.carrier.dropped_through source a).trans hpassed)
  rw [← hput, C.carrier.length_through, hopposed.through C a] at hout
  refine ⟨_, _, hout, ?_, hchained.concat htag, ?_⟩
  · rw [Carrier.advanceAll, ← List.map_flatten]
    exact hopposed.advance _
  · rw [← hsent, List.map_append, List.append_assoc]
    rfl

/-- What changes no flush changes nothing. -/
theorem congr (h : C.InSync st source d d' received sent)
    (hput : flush C.carrier.stage st' [] = flush C.carrier.stage st []) :
    C.InSync st' source d d' received sent := by
  obtain ⟨ss, outs, hflush, hrest⟩ := h
  exact ⟨ss, outs, hput.trans hflush, hrest⟩

/-- The pipeline moves, and nothing comes out. -/
theorem settles (h : C.InSync st source d d' received sent)
    (hst : Settles C.carrier.stage st st' []) : C.InSync st' source d d' received sent :=
  h.congr (hst []).symm

/-- **The next item comes out**: it carries the tag the receiver expects. -/
theorem receive (h : C.InSync st source d d' received sent) {a : α}
    (hst : Settles C.carrier.stage st st' [a]) :
    C.carried a = C.tag (C.absorb d a) ∧
      C.InSync st' source (C.absorb d a) d' (received ++ [C.view a]) sent := by
  obtain ⟨ss, outs, hflush, hopposed, hchained, hsent⟩ := h
  obtain ⟨hss, houts⟩ := hst.flush_nil_eq hflush
  subst houts
  refine ⟨hchained.1, ss, _, Prod.ext hss rfl, hopposed, hchained.2, ?_⟩
  rw [← hsent, List.append_assoc]
  rfl

end InSync

end Channel

end Theory
