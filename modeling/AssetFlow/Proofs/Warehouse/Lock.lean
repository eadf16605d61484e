import AssetFlow.Warehouse.Lock
import Mathlib.Data.List.Nodup

/-!
# Calls that acquire keys

A call is what its attempts have made of it: it has acquired the key if and only if the last attempt
found the key free, and a bounded call is refused when as many attempts as the policy allows were
all in vain.

## Main definitions

- `LockCall.missed`: what becomes of a call whose attempt is in vain
- `LockCall.Accounts`: what a call is, given the answers to its attempts

## Main statements

- `LockCall.step_of_notMem`, `LockCall.step_of_mem`: all that an attempt does
- `LockCall.accounts_begin`, `LockCall.Accounts.acquire`, `LockCall.Accounts.missed`: the answers
  account for a call from its beginning on
- `LockTable.tryLock_eq`, `LockTable.lock_of_notMem`: what calls do while nobody else does anything
-/

namespace AssetFlow

namespace HeldKeys

variable {held : HeldKeys} {key k : String}

/-- A key that is held is not given away. -/
theorem acquire_of_mem (h : key ∈ held) : held.acquire key = (false, held) := by
  simp [acquire, h]

/-- A key that is free is given away and is held from then on. -/
theorem acquire_of_notMem (h : key ∉ held) : held.acquire key = (true, key :: held) := by
  simp [acquire, h]

@[simp]
theorem mem_release : k ∈ held.release key ↔ k ∈ held ∧ k ≠ key := by
  simp [release]

/-- No key is held twice after a release when none was before. -/
theorem nodup_release (h : held.Nodup) : (held.release key).Nodup :=
  h.filter _

end HeldKeys

namespace LockCall

variable {p : RetryPolicy} {patience : Patience} {key : String} {held : HeldKeys} {call : LockCall}
  {tries : List Bool} {n attempt : Nat}

/-! ### One attempt -/

/-- What becomes of a call whose attempt is in vain. -/
def missed (p : RetryPolicy) (patience : Patience) : LockCall → LockCall
  | .trying attempt => before p patience (attempt + 1)
  | .between => begin p patience
  | call => call

/-- An open call that finds its key free acquires it. -/
theorem step_of_notMem (hopen : call.isOver = false) (hkey : key ∉ held) :
    call.step p patience key held = (.acquired, key :: held) := by
  cases call with
  | trying _ | between => simp [step, HeldKeys.acquire_of_notMem hkey]
  | acquired | refused => cases hopen

/-- An open call that finds its key taken has missed once more. -/
theorem step_of_mem (hopen : call.isOver = false) (hkey : key ∈ held) :
    call.step p patience key held = (call.missed p patience, held) := by
  cases call with
  | trying _ | between => simp [step, missed, HeldKeys.acquire_of_mem hkey]
  | acquired | refused => cases hopen

/-- A call that is yet to attempt has not acquired its key. -/
theorem before_ne_acquired : before p patience attempt ≠ .acquired := by
  unfold before exhausted
  split <;> cases patience <;> simp

theorem ne_acquired_of_open (hopen : call.isOver = false) : call ≠ .acquired := by
  rintro rfl
  cases hopen

/-- A call does not acquire its key by missing it. -/
theorem missed_ne_acquired (hopen : call.isOver = false) : call.missed p patience ≠ .acquired := by
  cases call with
  | trying _ | between => exact before_ne_acquired
  | acquired | refused => cases hopen

/-! ### All attempts of a call -/

/-- What a call is, given the answers to its attempts, the latest first. -/
def Accounts (p : RetryPolicy) (patience : Patience) (tries : List Bool) : LockCall → Prop
  | .trying attempt => ∃ n, tries = List.replicate n false ∧ attempt < p.maxRetries ∧
      (patience = .bounded → n = attempt)
  | .between => patience = .endless ∧ ∃ n, tries = List.replicate n false
  | .acquired => ∃ n, tries = true :: List.replicate n false ∧
      (patience = .bounded → n < p.maxRetries)
  | .refused => patience = .bounded ∧ tries = List.replicate p.maxRetries false

/-- A call is in order before an attempt if as many attempts were in vain as its number says; the
number of an endless call starts anew with each round. -/
theorem accounts_before (hle : attempt ≤ p.maxRetries) (hn : patience = .bounded → n = attempt) :
    (before p patience attempt).Accounts p patience (List.replicate n false) := by
  unfold before
  split
  case isTrue hlt => exact ⟨n, rfl, hlt, hn⟩
  case isFalse hge =>
    cases patience with
    | bounded =>
      have hmax : n = p.maxRetries := (hn rfl).trans (by omega)
      exact ⟨rfl, by rw [hmax]⟩
    | endless => exact ⟨rfl, n, rfl⟩

/-- A call that begins accounts for no attempts. -/
theorem accounts_begin (p : RetryPolicy) (patience : Patience) :
    (begin p patience).Accounts p patience [] :=
  accounts_before (n := 0) (Nat.zero_le _) fun _ => rfl

/-- The attempts of a call that has not returned were all in vain. -/
theorem Accounts.exists_replicate (h : call.Accounts p patience tries)
    (hopen : call.isOver = false) : ∃ n, tries = List.replicate n false ∧
      (patience = .bounded → n < p.maxRetries) := by
  cases call with
  | trying attempt =>
    obtain ⟨n, htries, hlt, hn⟩ := h
    exact ⟨n, htries, fun hb => hn hb ▸ hlt⟩
  | between =>
    obtain ⟨rfl, n, htries⟩ := h
    exact ⟨n, htries, nofun⟩
  | acquired | refused => cases hopen

/-- The account of a call keeps up with an attempt that succeeds. -/
theorem Accounts.acquire (h : call.Accounts p patience tries) (hopen : call.isOver = false) :
    LockCall.acquired.Accounts p patience (true :: tries) := by
  obtain ⟨n, rfl, hn⟩ := h.exists_replicate hopen
  exact ⟨n, rfl, hn⟩

/-- The account of a call keeps up with an attempt that fails. -/
theorem Accounts.missed (h : call.Accounts p patience tries) (hopen : call.isOver = false) :
    (call.missed p patience).Accounts p patience (false :: tries) := by
  cases call with
  | trying attempt =>
    obtain ⟨n, rfl, hlt, hn⟩ := h
    exact accounts_before (n := n + 1) hlt fun hb => congrArg (· + 1) (hn hb)
  | between =>
    obtain ⟨rfl, n, rfl⟩ := h
    exact accounts_before (n := n + 1) (Nat.zero_le _) nofun
  | acquired | refused => cases hopen

/-- A bounded call makes no more attempts than the policy allows. -/
theorem Accounts.length_le (h : call.Accounts p .bounded tries) :
    tries.length ≤ p.maxRetries := by
  cases call with
  | trying _ | between =>
    obtain ⟨n, rfl, hn⟩ := h.exists_replicate rfl
    simpa using Nat.le_of_lt (hn rfl)
  | acquired =>
    obtain ⟨n, rfl, hn⟩ := h
    simpa using Nat.succ_le_of_lt (hn rfl)
  | refused =>
    obtain ⟨-, rfl⟩ := h
    simp

/-! ### A call while nobody else does anything -/

/-- A call that is over makes no attempts. -/
theorem advance_of_isOver {attempts : Nat} (hover : call.isOver = true) :
    advance p patience key attempts (call, held) = (call, held) := by
  cases attempts with
  | zero => rfl
  | succ _ =>
    cases call with
    | acquired | refused => rfl
    | trying _ | between => cases hover

/-- An open call makes its attempts one by one. -/
theorem advance_succ {attempts : Nat} (hopen : call.isOver = false) :
    advance p patience key (attempts + 1) (call, held) =
      advance p patience key attempts (call.step p patience key held) := by
  cases call with
  | trying _ | between => rfl
  | acquired | refused => cases hopen

/-- A key that is held is not acquired, however often that is attempted. -/
theorem advance_of_mem (p : RetryPolicy) (patience : Patience) (attempts : Nat) (hkey : key ∈ held)
    (hcall : call ≠ .acquired) :
    ∃ call', call' ≠ .acquired ∧ advance p patience key attempts (call, held) = (call', held) := by
  induction attempts generalizing call with
  | zero => exact ⟨call, hcall, rfl⟩
  | succ attempts ih =>
    by_cases hover : call.isOver = true
    · exact ⟨call, hcall, advance_of_isOver hover⟩
    · have hopen := Bool.eq_false_iff.mpr hover
      rw [advance_succ hopen, step_of_mem hopen hkey]
      exact ih (missed_ne_acquired hopen)

/-- An open call that finds its key free stops at once, with the key. -/
theorem advance_of_notMem {attempts : Nat} (hkey : key ∉ held) (hopen : call.isOver = false) :
    advance p patience key (attempts + 1) (call, held) = (.acquired, key :: held) := by
  rw [advance_succ hopen, step_of_notMem hopen hkey, advance_of_isOver rfl]

/-- A bounded call is over before its first attempt exactly if no attempts are allowed. -/
theorem isOver_begin_bounded : (begin p .bounded).isOver = true ↔ p.maxRetries = 0 := by
  unfold begin before exhausted
  split <;> simp [isOver] <;> omega

/-- An endless call always attempts. -/
theorem isOver_begin_endless : (begin p .endless).isOver = false := by
  unfold begin before exhausted
  split <;> rfl

end LockCall

namespace LockTable

variable {t : LockTable} {patience : Patience} {key : String}

/-- A call for a key that is held does not acquire it and changes nothing. -/
theorem call_of_mem (patience : Patience) (hkey : key ∈ t.held) :
    ∃ call, call ≠ .acquired ∧ t.call patience key = (call, t) := by
  have hbegin : LockCall.begin t.policy patience ≠ .acquired := LockCall.before_ne_acquired
  obtain ⟨call, hcall, heq⟩ :=
    LockCall.advance_of_mem t.policy patience (LockCall.round t.policy) hkey hbegin
  exact ⟨call, hcall, by rw [LockTable.call, heq]⟩

/-- A call for a free key acquires it unless no attempts are allowed. -/
theorem call_of_notMem (hkey : key ∉ t.held)
    (hopen : (LockCall.begin t.policy patience).isOver = false) :
    t.call patience key = (.acquired, { t with held := key :: t.held }) := by
  rw [call, LockCall.round, LockCall.advance_of_notMem hkey hopen]

/-- **Somebody who does not wait** gets a key if it is free and there is an attempt to make at all,
and changes nothing otherwise. -/
theorem tryLock_eq (t : LockTable) (key : String) :
    t.tryLock key = if key ∉ t.held ∧ 0 < t.policy.maxRetries
      then (true, { t with held := key :: t.held }) else (false, t) := by
  by_cases hkey : key ∈ t.held
  · obtain ⟨call, hcall, heq⟩ := call_of_mem .bounded hkey
    rw [if_neg (fun h => h.1 hkey), tryLock, heq]
    simp [hcall]
  by_cases hover : (LockCall.begin t.policy .bounded).isOver = true
  · have hzero := LockCall.isOver_begin_bounded.mp hover
    rw [if_neg (fun h => Nat.ne_of_gt h.2 hzero), tryLock, call, LockCall.advance_of_isOver hover]
    simp [LockCall.begin, LockCall.before, LockCall.exhausted, hzero]
  · have hpos : 0 < t.policy.maxRetries :=
      Nat.pos_of_ne_zero (mt LockCall.isOver_begin_bounded.mpr hover)
    rw [if_pos ⟨hkey, hpos⟩, tryLock, call_of_notMem hkey (Bool.eq_false_iff.mpr hover)]
    rfl

/-- Somebody who waits gets a free key at once, also if calls are not to try at all. -/
theorem lock_of_notMem (hkey : key ∉ t.held) :
    t.lock key = { t with held := key :: t.held } := by
  rw [lock, call_of_notMem hkey LockCall.isOver_begin_endless]

end LockTable

end AssetFlow
