import MiniTor.Common.Crypto
import MiniTor.Theory.Collision

/-!
# What the tags of a running digest bind (`common/src/crypto.rs`)

A cell is absorbed as `stream_id`, `command` and `data`, without a length, so two sequences
of cells can be absorbed as one byte string. The tag after every cell tells them apart.

- `updateAll`, `verifyAll`: a sequence of cells at a sender and at a receiver.
- `tags_bind_cells`: sequences with the same tags are the same, or collide on the way.
- `verifyAll_bind_cells`: so a receiver accepts what was sent, or a collision is at hand.
-/

namespace MiniTor

open Theory

/-- The arguments of one `update`. -/
@[ext] structure DigestCell where
  streamId : UInt16
  command : UInt8
  data : Bytes
  deriving DecidableEq

/-- What it absorbs. -/
def DigestCell.encode (cell : DigestCell) : Bytes :=
  cellTranscript cell.streamId cell.command cell.data

theorem DigestCell.encode_injective : Function.Injective DigestCell.encode := by
  intro cell cell' h
  obtain ⟨hstream, hcommand, hdata⟩ := cellTranscript_injective h
  exact DigestCell.ext hstream hcommand hdata

namespace RunningDigest

variable (P : Primitives)

/-- Updates with one cell after the other, and the tags they return. -/
def updateAll (d : RunningDigest) : List DigestCell → RunningDigest × List (ByteArr 4)
  | [] => (d, [])
  | cell :: rest =>
    let (d, tag) := d.update P cell.streamId cell.command cell.data
    let (d, tags) := d.updateAll rest
    (d, tag :: tags)

/-- Verifications of one cell after the other, each against its tag. -/
def verifyAll (d : RunningDigest) : List (DigestCell × ByteArr 4) → Bool
  | [] => true
  | (cell, expected) :: rest =>
    let (d, verified) := d.verify P cell.streamId cell.command cell.data expected
    verified && d.verifyAll rest

variable {P}

/-- The state is the transcript of the cells. -/
theorem updateAll_state (d : RunningDigest) (cells : List DigestCell) :
    (d.updateAll P cells).1.state = transcript DigestCell.encode d.state cells := by
  induction cells generalizing d with
  | nil => rfl
  | cons cell rest ih => exact ih _

@[simp] theorem length_updateAll (d : RunningDigest) (cells : List DigestCell) :
    (d.updateAll P cells).2.length = cells.length := by
  induction cells generalizing d with
  | nil => rfl
  | cons cell rest ih => exact congrArg (· + 1) (ih _)

/-- Each tag is the one of the transcript up to its cell. -/
theorem updateAll_getElem? (d : RunningDigest) {cells : List DigestCell} {i : Nat}
    (hi : i < cells.length) :
    (d.updateAll P cells).2[i]? =
      some (tagOf P (transcript DigestCell.encode d.state (cells.take (i + 1)))) := by
  induction cells generalizing d i with
  | nil => exact absurd hi (Nat.not_lt_zero i)
  | cons cell rest ih =>
    cases i with
    | zero => rfl
    | succ i => exact ih _ (Nat.lt_of_succ_lt_succ hi)

/-- A receiver accepts the tags it would itself compute. -/
theorem verifyAll_iff (d : RunningDigest) {cells : List DigestCell} {tags : List (ByteArr 4)}
    (hlen : cells.length = tags.length) :
    d.verifyAll P (cells.zip tags) = true ↔ (d.updateAll P cells).2 = tags := by
  induction cells generalizing d tags with
  | nil =>
    rw [List.eq_nil_of_length_eq_zero hlen.symm]
    exact ⟨fun _ => rfl, fun _ => rfl⟩
  | cons cell rest ih =>
    cases tags with
    | nil => exact absurd hlen (Nat.succ_ne_zero _)
    | cons tag tags =>
      have ih := ih (d.update P cell.streamId cell.command cell.data).1 (Nat.succ.inj hlen)
      rw [List.zip_cons_cons, verifyAll, Bool.and_eq_true]
      show (_ == tag) = true ∧ _ ↔ _ :: _ = tag :: tags
      rw [List.cons_eq_cons, beq_iff_eq]
      exact and_congr_right fun _ => ih

/-- Equal tags come from equal cells or exhibit a collision. -/
theorem eq_or_collides_of_tags {cells cells' : List DigestCell}
    (htags : (new.updateAll P cells).2 = (new.updateAll P cells').2) :
    cells = cells' ∨ ∃ i < cells.length,
      Collides (tagOf P) (new.updateAll P (cells.take (i + 1))).1.state
        (new.updateAll P (cells'.take (i + 1))).1.state := by
  have hlen : cells.length = cells'.length := by
    rw [← length_updateAll new cells, htags, length_updateAll]
  simp only [updateAll_state]
  refine eq_or_collides_transcript DigestCell.encode_injective hlen fun i hi => ?_
  have hcell := updateAll_getElem? (P := P) new hi
  rw [htags, updateAll_getElem? new (hlen ▸ hi)] at hcell
  exact (Option.some.inj hcell).symm

/-- **The tags bind the cells**: fed to two fresh digests, two sequences of cells that get the
same tag at every position are the same, or after some cell the two absorbed byte strings
differ and their hashes share the first four bytes. -/
theorem tags_bind_cells {cells cells' : List DigestCell}
    (htags : (new.updateAll P cells).2 = (new.updateAll P cells').2) :
    cells = cells' ∨ ∃ i < cells.length,
      (new.updateAll P (cells.take (i + 1))).1.state ≠
          (new.updateAll P (cells'.take (i + 1))).1.state ∧
        (P.sha256 (new.updateAll P (cells.take (i + 1))).1.state).take 4 =
          (P.sha256 (new.updateAll P (cells'.take (i + 1))).1.state).take 4 :=
  eq_or_collides_of_tags htags

/-- Two cells that differ in one argument and have one tag: the hashes of what they absorb
share their first four bytes. -/
theorem tags_bind_cells_sample :
    ∃ i < 1,
      (new.updateAll .sample ([⟨1, 18, [0, 85, 211]⟩].take (i + 1))).1.state ≠
          (new.updateAll .sample ([⟨1, 18, [1, 15, 18]⟩].take (i + 1))).1.state ∧
        (Primitives.sample.sha256
            (new.updateAll .sample ([⟨1, 18, [0, 85, 211]⟩].take (i + 1))).1.state).take 4 =
          (Primitives.sample.sha256
            (new.updateAll .sample ([⟨1, 18, [1, 15, 18]⟩].take (i + 1))).1.state).take 4 := by
  have htags : (new.updateAll .sample [⟨1, 18, [0, 85, 211]⟩]).2 =
      (new.updateAll .sample [⟨1, 18, [1, 15, 18]⟩]).2 := by decide +kernel
  exact (tags_bind_cells htags).resolve_left (by decide)

/-- Moving bytes into the data of the cell before leaves what is absorbed in the end. -/
example :
    (new.updateAll .sample [⟨1, 18, []⟩, ⟨1, 18, [0, 1, 18]⟩]).1 =
      (new.updateAll .sample [⟨1, 18, [0, 1, 18]⟩, ⟨1, 18, []⟩]).1 := by rfl

/-- **A receiver binds what was sent**: if it accepts as many cells as were sent, each under
the tag of the cell sent in its place, they are the cells sent or show a collision. -/
theorem verifyAll_bind_cells {sent taken : List DigestCell} (hlen : taken.length = sent.length)
    (h : new.verifyAll P (taken.zip (new.updateAll P sent).2) = true) :
    taken = sent ∨ ∃ i < taken.length,
      Collides (tagOf P) (new.updateAll P (taken.take (i + 1))).1.state
        (new.updateAll P (sent.take (i + 1))).1.state := by
  refine eq_or_collides_of_tags ?_
  exact (verifyAll_iff new (by rw [length_updateAll, hlen])).mp h

end RunningDigest

end MiniTor
