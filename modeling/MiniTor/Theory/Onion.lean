import MiniTor.Theory.Keystream
import MiniTor.Theory.Pipeline

/-!
# Pipelines of stream cipher layers

Items with a payload travel through stages that each apply their own keystream
layers to it; a stage drops the items it is not meant to pass on. All stages see
the same items in the same order, so their layers advance together, and an item
put in under layers that are the inverse of the pipeline's comes out in the clear.

- `Carrier`: how an item carries its payload.
- `Carrier.stage`: the stage function, over the layers the stage holds.
- `flush_send`: an item put in behind everything else comes out last, under all
  the layers the pipeline will have reached by then.
- `through_cancel`: layers in the same state cancel, in whatever order.
-/

namespace Theory

/-- Items with a payload that layers are applied to, some of which are dropped. -/
structure Carrier (α : Type*) where
  payload : α → List UInt8
  withPayload : α → List UInt8 → α
  dropped : α → Bool
  payload_withPayload : ∀ a d, payload (withPayload a d) = d
  withPayload_withPayload : ∀ a d e, withPayload (withPayload a d) e = withPayload a e
  withPayload_payload : ∀ a, withPayload a (payload a) = a
  dropped_withPayload : ∀ a d, dropped (withPayload a d) = dropped a

namespace Carrier

variable {α : Type*} (C : Carrier α)

/-- The item with its payload run through the layers. -/
def through (ks : List Keyed) (a : α) : α := C.withPayload a (applyLayers ks (C.payload a)).2

@[simp] theorem payload_through (ks : List Keyed) (a : α) :
    C.payload (C.through ks a) = (applyLayers ks (C.payload a)).2 := C.payload_withPayload ..

@[simp] theorem length_through (ks : List Keyed) (a : α) :
    (C.payload (C.through ks a)).length = (C.payload a).length := by
  rw [payload_through, length_applyLayers]

@[simp] theorem dropped_through (ks : List Keyed) (a : α) :
    C.dropped (C.through ks a) = C.dropped a := C.dropped_withPayload ..

@[simp] theorem through_nil (a : α) : C.through [] a = a := C.withPayload_payload a

theorem through_append (ks ls : List Keyed) (a : α) :
    C.through (ks ++ ls) a = C.through ls (C.through ks a) := by
  rw [through, through, payload_through, applyLayers_append]
  exact (C.withPayload_withPayload ..).symm

/-- **Layers in the same state cancel**, in whatever order the second pass takes them. -/
theorem through_cancel {ks ls : List Keyed} (h : ls.Perm ks) (a : α) :
    C.through ls (C.through ks a) = a := by
  rw [through, payload_through, applyLayers_cancel_perm h, through, C.withPayload_withPayload,
    C.withPayload_payload]

/-- A stage holding the layers `ks`. -/
def stage (ks : List Keyed) (a : α) : List Keyed × List α :=
  if C.dropped a then (ks, []) else (ks.map (Keyed.advance · (C.payload a).length), [C.through ks a])

theorem stage_dropped {a : α} (h : C.dropped a = true) (ks : List Keyed) :
    C.stage ks a = (ks, []) := if_pos h

theorem stage_passed {a : α} (h : C.dropped a = false) (ks : List Keyed) :
    C.stage ks a = (ks.map (Keyed.advance · (C.payload a).length), [C.through ks a]) :=
  if_neg (by rw [h]; exact Bool.false_ne_true)

/-- All layers of the stages moved by `n`. -/
def advanceAll (ss : List (List Keyed)) (n : Nat) : List (List Keyed) :=
  ss.map fun ks => ks.map (Keyed.advance · n)

/-- An item through a pipeline with nothing queued meets the layers of all stages. -/
theorem flush_idle (ss : List (List Keyed)) {a : α} (h : C.dropped a = false) :
    flush C.stage (idle ss) [a] =
      (advanceAll ss (C.payload a).length, [C.through ss.flatten a]) := by
  induction ss generalizing a with
  | nil => simp [idle, advanceAll]
  | cons ks ss ih =>
    have hrest := ih ((C.dropped_through ks a).trans h)
    rw [C.length_through] at hrest
    show flush C.stage ((ks, []) :: idle ss) [a] = _
    rw [flush_cons]
    simp only [List.nil_append, feed_cons, feed_nil, C.stage_passed h, List.append_nil]
    rw [hrest, List.flatten_cons, through_append]
    rfl

/-- **An item put in comes out last**, under the layers the pipeline will have reached. -/
theorem flush_send {st : List (List Keyed × List α)} {ss : List (List Keyed)} {outs : List α}
    {a : α} (hflush : flush C.stage st [] = (ss, outs)) (h : C.dropped a = false) :
    flush C.stage st [a] =
      (advanceAll ss (C.payload a).length, outs ++ [C.through ss.flatten a]) := by
  have happend := flush_append C.stage st [] [a]
  rw [List.nil_append, hflush, C.flush_idle ss h] at happend
  exact happend

/-- An item that is dropped changes nothing. -/
theorem flush_dropped {ks : List Keyed} {q : List α} {rest : List (List Keyed × List α)} {a : α}
    (h : C.dropped a = true) :
    flush C.stage ((ks, q) :: rest) [a] = flush C.stage ((ks, q) :: rest) [] := by
  rw [flush_cons, flush_cons, feed_append, List.append_nil, feed_cons, feed_nil, C.stage_dropped h,
    List.append_nil, List.append_nil]

end Carrier

end Theory
