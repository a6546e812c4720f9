import MiniTor.Client.Budget
import MiniTor.Common.Addr
import MiniTor.Theory.Word

/-!
# The monitor's backoff (`core/circuit.rs`, `core/config.rs`)

Before it replaces a Closed circuit the monitor waits for 5 * 2^failures seconds, 60 at
the most. The product is taken in `u64` and capped afterwards, and `--max-rebuild-attempts`
has no upper bound.

- `parseRebuildAttempts_accepts`: what the command line accepts as a budget.
- `CircuitPool.BackoffSafe`: the computation goes wrong in neither build profile.
- `backoffSafe_iff`: exactly up to 61 failures; so all counts below a budget are safe
  exactly up to a budget of 62 (`budget_safe_iff`).
- `unchecked_exact_iff`: where the result is off without overflow checks.
- `every_state_backoffsSafe_iff`: runs of the client.
- `crowd_overflows`: 62 connections on a circuit that ends.
-/

namespace MiniTor.Client

open Theory

/-! ## The budget -/

/-- `usize::from_str`. -/
def parseUsize (s : String) : Option Nat :=
  let digits :=
    match s.toList with
    | '+' :: cs => cs
    | cs => cs
  match readNumber none true (2 ^ 64 - 1) digits with
  | some (n, []) => some n
  | _ => none

def parseRebuildAttempts (s : String) : Except String Nat := do
  let n ← okOr (parseUsize s) ("'" ++ s ++ "' is not a valid integer")
  failIf (n < 1) ("max-rebuild-attempts must be >= 1, got " ++ toString n)
  return n

/-! ## The computation -/

/-- `Duration - Duration`, in nanoseconds; it panics below zero. -/
def subDuration (a b : Nat) : Option Nat := if b ≤ a then some (a - b) else none

/-- What the monitor sleeps beyond `check_interval`, if the backoff is longer. -/
def extraSleep (secs : BitVec 64) (checkInterval : Nat) : Option (Option Nat) := do
  let backoff := secs.toNat * 1000000000
  if checkInterval < backoff then
    let extra ← subDuration backoff checkInterval
    return some extra
  else return none

namespace CircuitPool

/-- The failures recorded for a slot. -/
def failures (p : CircuitPool) (failedId : CircuitId) : Nat :=
  (p.rebuildFailureCounts.lookup failedId).getD 0

def backoffSecs (overflowChecks : Bool) (p : CircuitPool) (failedId : CircuitId) :
    Option (BitVec 64) := do
  let shifted ← Word.shiftLeft overflowChecks (1 : BitVec 64) (p.failures failedId)
  let product ← Word.mul overflowChecks 5 shifted
  -- `.min(60)`
  return if product ≤ 60 then product else 60

/-- The seconds of the backoff, and what the monitor sleeps. -/
def backoff (overflowChecks : Bool) (p : CircuitPool) (failedId : CircuitId)
    (checkInterval : Nat) : Option (BitVec 64 × Option Nat) := do
  let secs ← p.backoffSecs overflowChecks failedId
  let extra ← extraSleep secs checkInterval
  return (secs, extra)

/-- **The arithmetic is safe**: in either build profile nothing panics, and the results are
those on numbers. -/
def BackoffSafe (p : CircuitPool) (failedId : CircuitId) (checkInterval : Nat) : Prop :=
  ∀ overflowChecks, ∃ secs extra,
    p.backoff overflowChecks failedId checkInterval = some (secs, extra) ∧
      secs.toNat = min (5 * 2 ^ p.failures failedId) 60 ∧
      extra.getD 0 = min (5 * 2 ^ p.failures failedId) 60 * 1000000000 - checkInterval

end CircuitPool

/-! ## What the command line accepts -/

theorem parseUsize_toDigits {n : Nat} (h : n < 2 ^ 64) :
    parseUsize (String.ofList (Nat.toDigits 10 n)) = some n := by
  have hread : readNumber none true (2 ^ 64 - 1) (Nat.toDigits 10 n ++ []) = some (n, []) :=
    readNumber_toDigits (by rintro c ⟨⟩) (by omega) (by rintro k ⟨⟩) (by rintro ⟨⟩)
  rw [List.append_nil] at hread
  -- a digit is no sign
  have hdigits : (match Nat.toDigits 10 n with
      | '+' :: cs => cs
      | cs => cs) = Nat.toDigits 10 n := by
    split
    · rename_i cs hplus
      have hdigit := Nat.isDigit_of_mem_toDigits (b := 10) (n := n) (by decide) (by decide)
        (hplus ▸ List.mem_cons_self)
      exact absurd hdigit (by decide)
    · rfl
  rw [parseUsize, String.toList_ofList]
  rw [hdigits, hread]

theorem parseUsize_lt {s : String} {n : Nat} (h : parseUsize s = some n) : n < 2 ^ 64 := by
  unfold parseUsize at h
  dsimp only at h
  generalize (match s.toList with
    | '+' :: cs => cs
    | cs => cs) = digits at h
  split at h
  · rename_i value hread
    cases h
    rw [readNumber] at hread
    split at hread
    · cases hread
    · rename_i haccept
      simp only [not_or, Nat.not_lt] at haccept
      rw [Option.some.injEq, Prod.mk.injEq] at hread
      omega
  · cases h

/-- **Any `usize` from 1 on is a budget**, and nothing else. -/
theorem parseRebuildAttempts_accepts {m : Nat} :
    (∃ s, parseRebuildAttempts s = .ok m) ↔ 1 ≤ m ∧ m < 2 ^ 64 := by
  constructor
  · rintro ⟨s, h⟩
    obtain ⟨n, hn, h⟩ := bind_eq_ok.mp h
    obtain ⟨_, hpos, h⟩ := bind_eq_ok.mp h
    cases h
    exact ⟨Nat.not_lt.mp (failIf_eq_ok.mp hpos), parseUsize_lt (okOr_eq_ok.mp hn)⟩
  · rintro ⟨hpos, hlt⟩
    refine ⟨String.ofList (Nat.toDigits 10 m), ?_⟩
    rw [parseRebuildAttempts, parseUsize_toDigits hlt, okOr_some, ok_bind, failIf_neg (by omega)]
    rfl

namespace CircuitPool

variable {p : CircuitPool} {failedId : CircuitId}

/-! ## Safe counts -/

/-- The subtraction is guarded: it never goes below zero. -/
theorem extraSleep_eq (secs : BitVec 64) (checkInterval : Nat) :
    ∃ extra, extraSleep secs checkInterval = some extra ∧
      extra.getD 0 = secs.toNat * 1000000000 - checkInterval := by
  unfold extraSleep
  dsimp only
  split
  · rename_i hlt
    rw [subDuration, if_pos (Nat.le_of_lt hlt)]
    exact ⟨_, rfl, rfl⟩
  · rename_i hle
    refine ⟨none, rfl, ?_⟩
    rw [Nat.sub_eq_zero_of_le (Nat.not_lt.mp hle)]
    rfl

theorem toNat_cap (product : BitVec 64) :
    (if product ≤ 60 then product else 60).toNat = min product.toNat 60 := by
  split
  · rename_i hle
    exact (Nat.min_eq_left (BitVec.le_def.mp hle)).symm
  · rename_i hgt
    exact (Nat.min_eq_right (Nat.le_of_not_le fun hle => hgt (BitVec.le_def.mpr hle))).symm

/-- Up to 61 failures neither the shift nor the product overflows. -/
theorem backoffSecs_of_lt (overflowChecks : Bool) (h : p.failures failedId < 62) :
    ∃ secs, p.backoffSecs overflowChecks failedId = some secs ∧
      secs.toNat = min (5 * 2 ^ p.failures failedId) 60 := by
  have hpow : 2 ^ p.failures failedId ≤ 2 ^ 61 :=
    Nat.pow_le_pow_right (by decide) (Nat.le_of_lt_succ h)
  have hshifted := Word.toNat_one_shiftLeft (w := 64) (n := p.failures failedId) (by omega)
  have hfits : (5 : BitVec 64).toNat * ((1 : BitVec 64) <<< p.failures failedId).toNat <
      2 ^ 64 := by
    rw [hshifted]
    show 5 * 2 ^ p.failures failedId < 2 ^ 64
    omega
  obtain ⟨hmul, hproduct⟩ := Word.mul_of_lt overflowChecks hfits
  rw [hshifted] at hproduct
  have hproduct : (5 * (1 : BitVec 64) <<< p.failures failedId).toNat =
      5 * 2 ^ p.failures failedId := hproduct
  rw [backoffSecs, Word.shiftLeft_one overflowChecks (by omega), Option.bind_eq_bind,
    Option.bind_some, hmul, Option.bind_some]
  refine ⟨_, rfl, ?_⟩
  rw [toNat_cap, hproduct]

/-- With overflow checks more failures stop the monitor. -/
theorem failures_of_backoffSecs (h : (p.backoffSecs true failedId).isSome = true) :
    p.failures failedId < 62 := by
  obtain ⟨secs, h⟩ := Option.isSome_iff_exists.mp h
  obtain ⟨shifted, hshift, h⟩ := Option.bind_eq_some_iff.mp h
  obtain ⟨product, hmul, -⟩ := Option.bind_eq_some_iff.mp h
  have hlt : p.failures failedId < 64 :=
    Word.shiftLeft_checked_isSome.mp (Option.isSome_of_eq_some hshift)
  rw [Word.shiftLeft_one true hlt] at hshift
  cases hshift
  have hfits := Word.mul_checked_isSome.mp (Option.isSome_of_eq_some hmul)
  rw [Word.toNat_one_shiftLeft hlt] at hfits
  have hfits : 5 * 2 ^ p.failures failedId < 2 ^ 64 := hfits
  by_contra hcon
  have hpow : 2 ^ 62 ≤ 2 ^ p.failures failedId :=
    Nat.pow_le_pow_right (by decide) (Nat.not_lt.mp hcon)
  omega

theorem BackoffSafe.failures_lt {checkInterval : Nat} (h : p.BackoffSafe failedId checkInterval) :
    p.failures failedId < 62 := by
  obtain ⟨secs, extra, hbackoff, -, -⟩ := h true
  obtain ⟨secs', hsecs, -⟩ := Option.bind_eq_some_iff.mp hbackoff
  exact failures_of_backoffSecs (Option.isSome_of_eq_some hsecs)

theorem BackoffSafe.of_lt (h : p.failures failedId < 62) (checkInterval : Nat) :
    p.BackoffSafe failedId checkInterval := by
  intro overflowChecks
  obtain ⟨secs, hsecs, hvalue⟩ := backoffSecs_of_lt overflowChecks h
  obtain ⟨extra, hextra, hsleep⟩ := extraSleep_eq secs checkInterval
  refine ⟨secs, extra, ?_, hvalue, ?_⟩
  · rw [backoff, hsecs, Option.bind_eq_bind, Option.bind_some, hextra]
    rfl
  · rw [hsleep, hvalue]

/-- **Exactly when the arithmetic is safe**: up to 61 recorded failures. -/
theorem backoffSafe_iff (p : CircuitPool) (failedId : CircuitId) (checkInterval : Nat) :
    p.BackoffSafe failedId checkInterval ↔ p.failures failedId < 62 :=
  ⟨fun h => h.failures_lt, fun h => .of_lt h checkInterval⟩

/-- **Budgets**: every count below a budget is safe exactly if the budget is at most 62. -/
theorem budget_safe_iff (m : Nat) :
    (∀ (p : CircuitPool) failedId checkInterval, p.maxRebuildAttempts = m →
      p.failures failedId < m → p.BackoffSafe failedId checkInterval) ↔ m ≤ 62 := by
  constructor
  · intro h
    by_contra hlarge
    -- a slot of this budget that has failed 62 times
    let p : CircuitPool := { new 1 m with rebuildFailureCounts := (∅ : AList _).insert 1 62 }
    have hfailures : p.failures 1 = 62 := rfl
    have hbelow : p.failures 1 < m := by omega
    have hsafe := (h p 1 0 rfl hbelow).failures_lt
    omega
  · intro hm p failedId checkInterval _ hbelow
    exact .of_lt (by omega) checkInterval

/-! ## Without overflow checks -/

/-- The seconds that the wrapped product comes to. -/
theorem backoffSecs_unchecked (p : CircuitPool) (failedId : CircuitId) :
    ∃ secs, p.backoffSecs false failedId = some secs ∧
      secs.toNat = min (5 * 2 ^ (p.failures failedId % 64) % 2 ^ 64) 60 := by
  have hlt : p.failures failedId % 64 < 64 := Nat.mod_lt _ (by decide)
  have hshifted := Word.toNat_one_shiftLeft hlt
  rw [backoffSecs, Word.shiftLeft_unchecked, Option.bind_eq_bind, Option.bind_some,
    Word.mul_unchecked, Option.bind_some]
  refine ⟨_, rfl, ?_⟩
  rw [toNat_cap, BitVec.toNat_mul, hshifted]
  rfl

/-- From four doublings on the wrapped product is over the cap. -/
theorem cap_wrapped : ∀ k : Fin 64,
    min (5 * 2 ^ k.val % 2 ^ 64) 60 = min (5 * 2 ^ k.val) 60 := by
  decide +kernel

/-- **Without overflow checks** the result is that on numbers, unless the shift wraps to one of
its first four amounts. -/
theorem unchecked_exact_iff (p : CircuitPool) (failedId : CircuitId) :
    (∃ secs, p.backoffSecs false failedId = some secs ∧
        secs.toNat = min (5 * 2 ^ p.failures failedId) 60) ↔
      p.failures failedId < 64 ∨ 4 ≤ p.failures failedId % 64 := by
  obtain ⟨secs, hsecs, hvalue⟩ := backoffSecs_unchecked p failedId
  have hlt : p.failures failedId % 64 < 64 := Nat.mod_lt _ (by decide)
  rw [cap_wrapped ⟨_, hlt⟩] at hvalue
  have hunique : (∃ secs, p.backoffSecs false failedId = some secs ∧
        secs.toNat = min (5 * 2 ^ p.failures failedId) 60) ↔
      min (5 * 2 ^ (p.failures failedId % 64)) 60 = min (5 * 2 ^ p.failures failedId) 60 := by
    rw [hsecs, ← hvalue]
    constructor
    · rintro ⟨_, hsame, h⟩
      cases hsame
      exact h
    · exact fun h => ⟨secs, rfl, h⟩
  rw [hunique]
  by_cases hsmall : p.failures failedId < 64
  · rw [Nat.mod_eq_of_lt hsmall]
    exact iff_of_true rfl (.inl hsmall)
  · have hcapped : min (5 * 2 ^ p.failures failedId) 60 = 60 := by
      have hpow : 2 ^ 4 ≤ 2 ^ p.failures failedId :=
        Nat.pow_le_pow_right (by decide) (by omega)
      omega
    rw [hcapped, or_iff_right hsmall]
    constructor
    · intro h
      by_contra hlow
      have hpow : 2 ^ (p.failures failedId % 64) ≤ 2 ^ 3 :=
        Nat.pow_le_pow_right (by decide) (by omega)
      omega
    · intro h
      have hpow : 2 ^ 4 ≤ 2 ^ (p.failures failedId % 64) :=
        Nat.pow_le_pow_right (by decide) h
      omega

end CircuitPool

/-! ## Runs of the client -/

namespace ClientState

variable {P : Primitives} {s : ClientState}

/-- Every count below the budget is safe. -/
def BackoffsSafe (s : ClientState) : Prop :=
  ∀ failedId checkInterval, s.store.pool.failures failedId < s.store.pool.maxRebuildAttempts →
    s.store.pool.BackoffSafe failedId checkInterval

variable (P) in
/-- No `replace_circuit` is the 62nd failure in a row of a slot, unless it uses the budget up. -/
def FewFailures (s : ClientState) (e : ClientEvent) : Prop :=
  match s.act P e with
  | .replaces failedId _ (.error _) =>
    s.store.pool.failures failedId + 1 < s.store.pool.maxRebuildAttempts →
      s.store.pool.failures failedId + 1 < 62
  | _ => True

/-- Every count below the budget is below 62. -/
def CountsLow (s : ClientState) : Prop :=
  ∀ failedId, s.store.pool.failures failedId < s.store.pool.maxRebuildAttempts →
    s.store.pool.failures failedId < 62

theorem backoffsSafe_iff : s.BackoffsSafe ↔ s.CountsLow := by
  constructor
  · intro h failedId hbelow
    exact (h failedId 0 hbelow).failures_lt
  · intro h failedId checkInterval hbelow
    exact .of_lt (h failedId hbelow) checkInterval

/-- The budget of a client does not change. -/
theorem maxRebuildAttempts_step (s : ClientState) (e : ClientEvent) :
    (s.step P e).store.pool.maxRebuildAttempts = s.store.pool.maxRebuildAttempts := by
  rcases @step_ledger P s e with ⟨failedId, now, built, -, hstore, -⟩ | ⟨hledger, -⟩
  · rw [hstore]
    cases built <;> rfl
  · exact congrArg (fun l => l.2.2) hledger

/-- A count is the failures in a row, and a step counts at most one attempt. -/
theorem countsLow_step (htallied : s.Tallied) (h : s.CountsLow) {e : ClientEvent}
    (hfew : s.FewFailures P e) : (s.step P e).CountsLow := by
  have hcounts : ∀ id, (s.step P e).store.pool.failures id =
      failuresInARow (s.step P e).attempts id := fun id => (htallied.step e).counts id
  intro id hbelow
  rw [maxRebuildAttempts_step] at hbelow
  rw [hcounts] at hbelow ⊢
  rcases @step_ledger P s e with ⟨failedId, now, built, hact, -, hattempts⟩ | ⟨-, hattempts⟩
  · rw [hattempts] at hbelow ⊢
    by_cases hid : failedId = id
    · subst hid
      cases built with
      | ok onionKeys =>
        have hzero : failuresInARow (s.attempts ++ [(failedId, true)]) failedId = 0 :=
          failuresInARow_succeeded
        show failuresInARow (s.attempts ++ [(failedId, true)]) failedId < 62
        omega
      | error error =>
        have hnext : failuresInARow (s.attempts ++ [(failedId, false)]) failedId =
            s.store.pool.failures failedId + 1 := by
          rw [failuresInARow_failed]
          exact congrArg (· + 1) (htallied.counts failedId).symm
        show failuresInARow (s.attempts ++ [(failedId, false)]) failedId < 62
        have hbelow : failuresInARow (s.attempts ++ [(failedId, false)]) failedId <
            s.store.pool.maxRebuildAttempts := hbelow
        rw [hnext] at hbelow ⊢
        unfold FewFailures at hfew
        rw [hact] at hfew
        exact hfew hbelow
    · rw [failuresInARow_other hid, ← htallied.counts id] at hbelow ⊢
      exact h id hbelow
  · rw [hattempts, ← htallied.counts id] at hbelow ⊢
    exact h id hbelow

/-- A 62nd failure below the budget leaves a count that is not safe. -/
theorem fewFailures_of_countsLow {e : ClientEvent} (h : (s.step P e).CountsLow) :
    s.FewFailures P e := by
  unfold FewFailures
  split
  · rename_i failedId now error hact
    intro hbelow
    have hstep := step_act (P := P) s e
    rw [hact] at hstep
    have hmax := maxRebuildAttempts_step (P := P) s e
    generalize s.step P e = s' at hstep h hmax
    cases hstep with | replaced hstore hattempts hremoved howed hselected => _
    have hnext : s'.store.pool.failures failedId = s.store.pool.failures failedId + 1 := by
      rw [hstore]
      show ((s.store.pool.rebuildFailureCounts.insert failedId _).lookup failedId).getD 0 = _
      rw [AList.lookup_insert]
      rfl
    have hlow := h failedId (by rw [hnext, hmax]; exact hbelow)
    rwa [hnext] at hlow
  · trivial

/-- **Runs whose recorded counts are safe** are those in which no slot fails 62 times in a row
with budget left. -/
theorem every_state_backoffsSafe_iff {poolSize m : Nat} (hm : 1 ≤ m)
    {builds : Nat → Nat × Except Error OnionKeys} {store : Store}
    (hstart : (Store.new poolSize m).initializePool builds = .ok store)
    (events : List ClientEvent) :
    EveryState (step P) BackoffsSafe (start store) events ↔
      EveryStep (step P) (FewFailures P) (start store) events := by
  have htallied : (start store).Tallied := tallied_start hm hstart
  refine @everyState_iff _ _ (step P) (FewFailures P) (fun s => s.Tallied ∧ s.CountsLow)
    BackoffsSafe ?_ ?_ ?_ _ _ ⟨htallied, fun failedId _ => ?_⟩
  · rintro s e ⟨htallied, hlow⟩ hfew
    exact ⟨htallied.step e, countsLow_step htallied hlow hfew⟩
  · rintro s ⟨-, hlow⟩
    exact backoffsSafe_iff.mpr hlow
  · intro s e _ h
    exact fewFailures_of_countsLow (backoffsSafe_iff.mp h)
  · have hnone : (start store).store.pool.failures failedId = 0 := htallied.counts failedId
    omega

/-! ### A circuit with 62 connections -/

/-- Connections that each register a stream on the circuit of a pool of one. -/
def crowd (n : Nat) : List ClientEvent :=
  (List.range n).flatMap fun conn =>
    [.accept, .select conn, .look 0, .release 0 sampleBuilt, .register conn ""]

/-- Each fails to send its BEGIN, sees the circuit Closed and fails to replace it. -/
def crowdFails (n : Nat) : List ClientEvent :=
  (List.range n).flatMap fun conn =>
    [.stream conn (.send ⟨some ⟨[]⟩, fun _ => 0⟩), .checkClosed conn,
      .replaceFailed conn 0 (.error (.text "no path"))]

/-- The circuit ends, and the connections fail between the monitor's search, which finds it
Closed, and its turn to be replaced. -/
def crowdedOut : List ClientEvent :=
  crowd 62 ++ [.read 0 none, .readerEnd 0] ++ samplePass ++ crowdFails 62 ++
    [.monitor 0 sampleBuilt]

/-- The monitor has found that the budget is not used up, and is at the backoff. -/
def atBackoff (s : ClientState) (failedId : CircuitId) : Bool :=
  match s.monitor with
  | .waiting id _ => id == failedId
  | _ => false

theorem crowdedOut_end :
    let s := run (step .sample) (start (sampleStore 1 64)) crowdedOut
    s.atBackoff 1 = true ∧ s.store.pool.failures 1 = 62 ∧
      s.store.pool.maxRebuildAttempts = 64 := by
  decide +kernel

/-- **With a budget of 64 the monitor comes to a backoff that overflows.** -/
theorem crowd_overflows :
    ¬∀ (arg : String) (m : Nat), parseRebuildAttempts arg = .ok m →
      ∀ builds store, (Store.new 1 m).initializePool builds = .ok store →
      ∀ events failedId, (run (step .sample) (start store) events).atBackoff failedId = true →
        (run (step .sample) (start store) events).store.pool.failures failedId < m →
        ∀ checkInterval, (run (step .sample) (start store) events).store.pool.BackoffSafe failedId
          checkInterval := by
  intro hclaim
  obtain ⟨hat, hfailures, -⟩ := crowdedOut_end
  have hsafe := hclaim "64" 64 (by decide) (fun _ => (0, sampleBuilt)) (sampleStore 1 64) rfl
    crowdedOut 1 hat (by rw [hfailures]; decide) 5000000000
  have hlow := hsafe.failures_lt
  rw [hfailures] at hlow
  exact absurd hlow (by decide)

end ClientState

end MiniTor.Client
