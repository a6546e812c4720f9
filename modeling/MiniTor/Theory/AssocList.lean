import Mathlib

/-!
# Maps as association lists

The operations of a hash map that `AList` lacks, for maps of one value type:

- `AList.values`: all values, in iteration order;
- `AList.retain`: keep the entries a predicate accepts;
- `AList.modify`: update the value under a key, if there is one.

Iteration order is the order of the entries; a statement about a map whose
order is unspecified quantifies over permutations of them.
-/

namespace AList

variable {α β : Type*}

/-- The values, in iteration order. -/
def values (m : AList fun _ : α => β) : List β := m.entries.map Sigma.snd

theorem mem_values {m : AList fun _ : α => β} {b : β} :
    b ∈ m.values ↔ ∃ a, (⟨a, b⟩ : Sigma fun _ : α => β) ∈ m.entries := by
  constructor
  · intro h
    obtain ⟨e, he, rfl⟩ := List.mem_map.mp h
    exact ⟨e.1, he⟩
  · rintro ⟨a, ha⟩
    exact List.mem_map.mpr ⟨_, ha, rfl⟩

/-- Keep the entries `p` accepts. -/
def retain (m : AList fun _ : α => β) (p : α → β → Bool) : AList fun _ : α => β :=
  ⟨m.entries.filter fun e => p e.1 e.2, m.nodupKeys.sublist List.filter_sublist⟩

@[simp] theorem mem_entries_retain {m : AList fun _ : α => β} {p : α → β → Bool}
    {e : Sigma fun _ : α => β} :
    e ∈ (m.retain p).entries ↔ e ∈ m.entries ∧ p e.1 e.2 = true :=
  List.mem_filter

section DecidableEq

variable [DecidableEq α]

/-- The update of one entry. -/
def modifyEntry (a : α) (f : β → β) (e : Sigma fun _ : α => β) : Sigma fun _ : α => β :=
  if e.1 = a then ⟨e.1, f e.2⟩ else e

@[simp] theorem modifyEntry_fst (a : α) (f : β → β) (e : Sigma fun _ : α => β) :
    (modifyEntry a f e).1 = e.1 := by
  unfold modifyEntry
  split <;> rfl

/-- Update the value under `a`, if there is one. -/
def modify (m : AList fun _ : α => β) (a : α) (f : β → β) : AList fun _ : α => β where
  entries := m.entries.map (modifyEntry a f)
  nodupKeys := by
    have hkeys : (m.entries.map (modifyEntry a f)).map Sigma.fst = m.entries.map Sigma.fst := by
      rw [List.map_map]
      exact List.map_congr_left fun e _ => modifyEntry_fst a f e
    show ((m.entries.map (modifyEntry a f)).map Sigma.fst).Nodup
    rw [hkeys]
    exact m.nodupKeys

theorem mem_entries_modify {m : AList fun _ : α => β} {a : α} {f : β → β}
    {e : Sigma fun _ : α => β} :
    e ∈ (m.modify a f).entries ↔ ∃ d ∈ m.entries, modifyEntry a f d = e :=
  List.mem_map

/-- An entry is what `lookup` finds under its key. -/
theorem lookup_eq_some {m : AList fun _ : α => β} {a : α} {b : β} :
    m.lookup a = some b ↔ (⟨a, b⟩ : Sigma fun _ : α => β) ∈ m.entries :=
  mem_lookup_iff

/-- Filtering the entries filters what `lookup` finds. -/
theorem lookup_retain (m : AList fun _ : α => β) (p : α → β → Bool) (a : α) :
    (m.retain p).lookup a = (m.lookup a).filter (p a) := by
  apply Option.ext
  intro b
  rw [lookup_eq_some, mem_entries_retain, Option.filter_eq_some_iff, lookup_eq_some]

theorem lookup_modify (m : AList fun _ : α => β) (a b : α) (f : β → β) :
    (m.modify a f).lookup b = if b = a then (m.lookup b).map f else m.lookup b := by
  apply Option.ext
  intro v
  rw [lookup_eq_some, mem_entries_modify]
  constructor
  · rintro ⟨⟨k, d⟩, hd, he⟩
    have hk : k = b := (modifyEntry_fst a f ⟨k, d⟩).symm.trans (congrArg Sigma.fst he)
    subst hk
    rw [lookup_eq_some.mpr hd]
    unfold modifyEntry at he
    by_cases hka : k = a
    · rw [if_pos hka] at he
      cases he
      rw [if_pos hka]
      rfl
    · rw [if_neg hka] at he
      cases he
      rw [if_neg hka]
  · intro h
    by_cases hba : b = a
    · rw [if_pos hba] at h
      obtain ⟨d, hd, rfl⟩ := Option.map_eq_some_iff.mp h
      exact ⟨⟨b, d⟩, lookup_eq_some.mp hd, if_pos hba⟩
    · rw [if_neg hba] at h
      exact ⟨⟨b, v⟩, lookup_eq_some.mp h, if_neg hba⟩

theorem lookup_modify_self (m : AList fun _ : α => β) (a : α) (f : β → β) :
    (m.modify a f).lookup a = (m.lookup a).map f := by
  rw [lookup_modify, if_pos rfl]

theorem lookup_modify_ne {m : AList fun _ : α => β} {a b : α} {f : β → β} (h : b ≠ a) :
    (m.modify a f).lookup b = m.lookup b := by
  rw [lookup_modify, if_neg h]

theorem lookup_erase_eq_some {m : AList fun _ : α => β} {a k : α} {b : β} :
    (m.erase a).lookup k = some b ↔ k ≠ a ∧ m.lookup k = some b := by
  by_cases hk : k = a
  · rw [hk, lookup_erase]
    exact iff_of_false nofun fun h => h.1 rfl
  · rw [lookup_erase_ne hk, and_iff_right hk]

/-! ### Counting entries -/

/-- An entry that is erased counts no more. -/
theorem countP_erase (m : AList fun _ : α => β) (p : α → β → Bool) (a : α) :
    (m.erase a).entries.countP (fun e => p e.1 e.2) + ((m.lookup a).any (p a)).toNat =
      m.entries.countP fun e => p e.1 e.2 := by
  show (m.entries.kerase a).countP _ + _ = _
  cases hlookup : m.lookup a with
  | none =>
    have hnot : a ∉ m.entries.keys := lookup_eq_none.mp hlookup
    rw [List.kerase_of_notMem_keys hnot]
    rfl
  | some b =>
    have hmem : a ∈ m.entries.keys := lookup_isSome.mp (Option.isSome_of_mem hlookup)
    obtain ⟨d, before, after, -, hentries, hkerase⟩ := List.exists_of_kerase hmem
    have hd : m.lookup a = some d := by
      rw [lookup_eq_some, hentries]
      exact List.mem_append_right _ List.mem_cons_self
    cases hlookup.symm.trans hd
    rw [hkerase, hentries, List.countP_append, List.countP_append, List.countP_cons,
      Option.any_some]
    cases p a b with
    | false => rfl
    | true => exact Nat.add_assoc ..

/-- The new entry counts, and the one it replaces does not. -/
theorem countP_insert (m : AList fun _ : α => β) (p : α → β → Bool) (a : α) (b : β) :
    (m.insert a b).entries.countP (fun e => p e.1 e.2) =
      (m.erase a).entries.countP (fun e => p e.1 e.2) + (p a b).toNat := by
  show (⟨a, b⟩ :: m.entries.kerase a).countP _ = (m.entries.kerase a).countP _ + _
  rw [List.countP_cons]
  cases p a b <;> rfl

end DecidableEq

end AList
