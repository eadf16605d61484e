import AssetFlow.Proofs.Run.Task
import AssetFlow.Proofs.Warehouse.Lock
import AssetFlow.Run.Contention

/-!
# Keys exclude per key, and only per key

However the moves of any number of callers interleave, each held key is held by one live guard, so
that the blocks of callers of one key are never mixed. Callers of different keys do not notice each
other.

## Main definitions

- `Contention.Exclusive`: the held keys are those of the live guards, one guard for each
- `Caller.Recorded`: what a caller is agrees with what he has done
- `Caller.Later`: what becomes of a caller in the course of time
- `Contention.AgreesOn`: two states do not differ in what concerns a key
- `Contention.Apart`: nobody acts in between the actions of another caller of the same key

## Main statements

- `Contention.Step.eq_or`: all that a step can do
- `Contention.exclusive_of_run`, `Contention.recorded_of_run`: what holds throughout every run
- `Contention.AgreesOn.step`: a step is possible or not, and goes as it does, whatever other keys do
- `Contention.keys_exclusive`: all of it for callers of any number, policy and interleaving
-/

namespace AssetFlow

variable {p : RetryPolicy} {claims : List Claim} {hs : List Move} {m : Move} {i j : Nat}
  {k : String} {c d e : Caller} {a : Action} {free : Bool}

/-! ### What callers have done -/

/-- An attempt of a caller comes first among its attempts when it is the newest move. -/
theorem attemptsOf_attempted :
    attemptsOf i (.attempted i free :: hs) = free :: attemptsOf i hs := by
  simp [attemptsOf]

/-- A move of another caller is none of the attempts of this one. -/
theorem attemptsOf_of_ne (hne : m.caller ≠ i) : attemptsOf i (m :: hs) = attemptsOf i hs := by
  cases m <;> simp_all [attemptsOf, Move.caller]

/-- An act of a caller comes first among what it did when it is the newest move. -/
theorem doneBy_did : doneBy i (.did i a :: hs) = a :: doneBy i hs := by
  simp [doneBy]

/-- A move of another caller adds nothing to what this one did. -/
theorem doneBy_of_ne (hne : m.caller ≠ i) : doneBy i (m :: hs) = doneBy i hs := by
  cases m <;> simp_all [doneBy, Move.caller]

/-! ### Callers -/

namespace Caller

/-- A caller holds its key from the attempt that succeeds until it drops it. -/
theorem holds_iff : c.holds = true ↔ c.call = .acquired ∧ c.dropped = false := by
  simp [holds]

/-- A caller whose call has not acquired anything holds nothing. -/
theorem holds_eq_false (hcall : c.call ≠ .acquired) : c.holds = false :=
  Bool.eq_false_iff.mpr fun h => hcall (holds_iff.mp h).1

/-- What a caller is agrees with what he has done. -/
structure Recorded (p : RetryPolicy) (i : Nat) (hs : List Move) (c : Caller) : Prop where
  accounts : c.call.Accounts p c.claim.patience (attemptsOf i hs)
  done : (doneBy i hs).reverse ++ c.left = c.claim.block
  waits : c.call ≠ .acquired → ∀ m ∈ hs, m.caller = i → m = .attempted i false

/-- A caller that has not moved has an empty record. -/
theorem recorded_begin (p : RetryPolicy) (i : Nat) (claim : Claim) :
    (claim.begin p).Recorded p i [] where
  accounts := LockCall.accounts_begin p claim.patience
  done := rfl
  waits := nofun

/-- What others do does not matter. -/
theorem Recorded.of_ne (h : c.Recorded p i hs) (hne : m.caller ≠ i) :
    c.Recorded p i (m :: hs) where
  accounts := by
    rw [attemptsOf_of_ne hne]
    exact h.accounts
  done := by
    rw [doneBy_of_ne hne]
    exact h.done
  waits hcall := List.forall_mem_cons.mpr ⟨fun heq => absurd heq hne, h.waits hcall⟩

/-- The record of a caller keeps up with an attempt that finds the key free. -/
theorem Recorded.acquire (h : c.Recorded p i hs) (hopen : c.call.isOver = false) :
    Recorded p i (.attempted i true :: hs) { c with call := .acquired } where
  accounts := by
    rw [attemptsOf_attempted]
    exact h.accounts.acquire hopen
  done := h.done
  waits hcall := absurd rfl hcall

/-- The record of a caller keeps up with an attempt that finds the key taken. -/
theorem Recorded.miss (h : c.Recorded p i hs) (hopen : c.call.isOver = false) :
    Recorded p i (.attempted i false :: hs) { c with call := c.call.missed p c.claim.patience } where
  accounts := by
    rw [attemptsOf_attempted]
    exact h.accounts.missed hopen
  done := h.done
  waits _ := List.forall_mem_cons.mpr
    ⟨fun _ => rfl, h.waits (LockCall.ne_acquired_of_open hopen)⟩

/-- The record of a caller keeps up with an act under the key. -/
theorem Recorded.act {left : List Action} (h : c.Recorded p i hs) (hcall : c.call = .acquired)
    (hleft : c.left = a :: left) : Recorded p i (.did i a :: hs) { c with left } where
  accounts := h.accounts
  done := by
    rw [doneBy_did, List.reverse_cons, List.append_assoc, List.singleton_append, ← hleft]
    exact h.done
  waits hne := absurd hcall hne

/-- The record of a caller keeps up with the release of the key. -/
theorem Recorded.drop (h : c.Recorded p i hs) (hcall : c.call = .acquired) :
    Recorded p i (.dropped i :: hs) { c with dropped := true } where
  accounts := h.accounts
  done := h.done
  waits hne := absurd hcall hne

/-- What becomes of a caller in the course of time: a call that has returned stays as it is, and a
guard that was dropped stays dropped. -/
structure Later (c d : Caller) : Prop where
  claim_eq : d.claim = c.claim
  call_eq : c.call.isOver = true → d.call = c.call
  dropped_of : c.dropped = true → d.dropped = true

theorem Later.refl (c : Caller) : c.Later c :=
  ⟨rfl, fun _ => rfl, id⟩

/-- A later state of a later state is a later state. -/
theorem Later.trans (h : c.Later d) (h' : d.Later e) : c.Later e where
  claim_eq := h'.claim_eq.trans h.claim_eq
  call_eq hover := (h'.call_eq (h.call_eq hover ▸ hover)).trans (h.call_eq hover)
  dropped_of hdropped := h'.dropped_of (h.dropped_of hdropped)

/-- A guard that is live before and after is live in between. -/
theorem Later.holds_between (hcd : c.Later d) (hde : d.Later e) (hc : c.holds = true)
    (he : e.holds = true) : d.holds = true := by
  obtain ⟨hcall, -⟩ := holds_iff.mp hc
  obtain ⟨-, hkept⟩ := holds_iff.mp he
  refine holds_iff.mpr ⟨(hcd.call_eq (by rw [hcall]; rfl)).trans hcall, ?_⟩
  exact Bool.eq_false_iff.mpr fun hdropped => by simp [hde.dropped_of hdropped] at hkept

end Caller

namespace Contention

variable {x x' y z : Contention} {n : Move}

/-! ### One step -/

/-- What a list of callers holds after one of them was replaced. -/
theorem getElem?_set_iff {l : List Caller} (hc : l[i]? = some c) :
    (l.set i d)[j]? = some e ↔ j = i ∧ e = d ∨ j ≠ i ∧ l[j]? = some e := by
  obtain ⟨hlt, -⟩ := List.getElem?_eq_some_iff.mp hc
  rw [List.getElem?_set]
  by_cases hij : i = j
  · subst hij
    simp [hlt, eq_comm]
  · simp [hij, Ne.symm hij]

/-- A caller whose key nobody holds may take it. -/
theorem Step.acquire (hc : x.callers[i]? = some c) (hopen : c.call.isOver = false)
    (hkey : c.claim.key ∉ x.held) : Step p x (.attempted i true)
      ⟨c.claim.key :: x.held, x.callers.set i { c with call := .acquired }⟩ := by
  have hstep := Step.attempt (p := p) hc hopen
  rwa [HeldKeys.acquire_of_notMem hkey, Contention.attempt, LockCall.step_of_notMem hopen hkey]
    at hstep

/-- A caller whose key is held may try in vain. -/
theorem Step.miss (hc : x.callers[i]? = some c) (hopen : c.call.isOver = false)
    (hkey : c.claim.key ∈ x.held) : Step p x (.attempted i false)
      ⟨x.held, x.callers.set i { c with call := c.call.missed p c.claim.patience }⟩ := by
  have hstep := Step.attempt (p := p) hc hopen
  rwa [HeldKeys.acquire_of_mem hkey, Contention.attempt, LockCall.step_of_mem hopen hkey] at hstep

/-- **All that a step can do.** -/
theorem Step.eq_or (hstep : Step p x m y) : ∃ i c, x.callers[i]? = some c ∧
    ((c.call.isOver = false ∧ c.claim.key ∉ x.held ∧ m = .attempted i true ∧
        y = ⟨c.claim.key :: x.held, x.callers.set i { c with call := .acquired }⟩) ∨
      (c.call.isOver = false ∧ c.claim.key ∈ x.held ∧ m = .attempted i false ∧
        y = ⟨x.held, x.callers.set i { c with call := c.call.missed p c.claim.patience }⟩) ∨
      (∃ a left, c.holds = true ∧ c.left = a :: left ∧ m = .did i a ∧ y = x.act i c left) ∨
      (c.holds = true ∧ m = .dropped i ∧ y = x.drop i c)) := by
  cases hstep with
  | @attempt i c hc hopen =>
    refine ⟨i, c, hc, ?_⟩
    by_cases hkey : c.claim.key ∈ x.held
    · refine .inr (.inl ⟨hopen, hkey, ?_, ?_⟩)
      · rw [HeldKeys.acquire_of_mem hkey]
      · rw [Contention.attempt, LockCall.step_of_mem hopen hkey]
    · refine .inl ⟨hopen, hkey, ?_, ?_⟩
      · rw [HeldKeys.acquire_of_notMem hkey]
      · rw [Contention.attempt, LockCall.step_of_notMem hopen hkey]
  | @act i c a left hc hholds hleft =>
    exact ⟨i, c, hc, .inr (.inr (.inl ⟨a, left, hholds, hleft, rfl, rfl⟩))⟩
  | @drop i c hc hholds => exact ⟨i, c, hc, .inr (.inr (.inr ⟨hholds, rfl, rfl⟩))⟩

/-- Whoever makes a move is the only one who changes, and other keys stay as they are. -/
theorem Step.frame (hstep : Step p x m y) : ∃ c d, x.callers[m.caller]? = some c ∧
    y.callers = x.callers.set m.caller d ∧ c.Later d ∧
      ∀ k, k ≠ c.claim.key → (k ∈ x.held ↔ k ∈ y.held) := by
  obtain ⟨i, c, hc, ⟨hopen, -, rfl, rfl⟩ | ⟨hopen, -, rfl, rfl⟩ | ⟨a, left, -, -, rfl, rfl⟩ |
    ⟨-, rfl, rfl⟩⟩ := hstep.eq_or
  · exact ⟨c, _, hc, rfl, ⟨rfl, fun h => by simp [hopen] at h, id⟩, by simp_all⟩
  · exact ⟨c, _, hc, rfl, ⟨rfl, fun h => by simp [hopen] at h, id⟩, fun _ _ => Iff.rfl⟩
  · exact ⟨c, _, hc, rfl, ⟨rfl, fun _ => rfl, id⟩, fun _ _ => Iff.rfl⟩
  · exact ⟨c, _, hc, rfl, ⟨rfl, fun _ => rfl, fun _ => rfl⟩, by simp +contextual [Contention.drop]⟩

/-- Every caller is in a later state after a step, or in the same one. -/
theorem Step.later (hstep : Step p x m y) (hc : x.callers[i]? = some c) :
    ∃ d, y.callers[i]? = some d ∧ c.Later d := by
  obtain ⟨b, d, hb, heq, hlater, -⟩ := hstep.frame
  rw [heq]
  by_cases hi : i = m.caller
  · subst hi
    obtain rfl := Option.some.inj (hb.symm.trans hc)
    exact ⟨d, (getElem?_set_iff hb).mpr (.inl ⟨rfl, rfl⟩), hlater⟩
  · exact ⟨c, (getElem?_set_iff hb).mpr (.inr ⟨hi, hc⟩), .refl c⟩

/-! ### Whole runs -/

variable {x₀ : Contention}

/-- A run is split where its history is. -/
theorem Run.of_append {later before : List Move} (hr : Run p x₀ (later ++ before) x) :
    ∃ y, Run p x₀ before y ∧ Run p y later x := by
  induction later generalizing x with
  | nil => exact ⟨x, hr, .nil⟩
  | cons m later ih =>
    cases hr with
    | next hr hstep =>
      obtain ⟨y, hy, hr⟩ := ih hr
      exact ⟨y, hy, hr.next hstep⟩

/-- A run passes through a state before and a state after each move. -/
theorem Run.split {later before : List Move} (hr : Run p x₀ (later ++ m :: before) x) :
    ∃ y z, Run p x₀ before y ∧ Step p y m z ∧ Run p z later x := by
  obtain ⟨z, hz, hlater⟩ := hr.of_append
  cases hz with
  | @next _ y _ _ hy hstep => exact ⟨y, z, hy, hstep, hlater⟩

/-- Every caller is in a later state after a run, or in the same one. -/
theorem Run.later (hr : Run p x hs y) (hc : x.callers[i]? = some c) :
    ∃ d, y.callers[i]? = some d ∧ c.Later d := by
  induction hr with
  | nil => exact ⟨c, hc, .refl c⟩
  | next _ hstep ih =>
    obtain ⟨d, hd, hcd⟩ := ih
    obtain ⟨e, he, hde⟩ := hstep.later hd
    exact ⟨e, he, hcd.trans hde⟩

/-- A step may be put before a run, so that its move is the oldest. -/
theorem Run.head (hr : Run p y hs z) (hstep : Step p x m y) : Run p x (hs ++ [m]) z := by
  induction hr with
  | nil => exact .next .nil hstep
  | next _ hlast ih => exact ih.next hlast

/-- Whoever held a key before and has one later has held it in between. -/
theorem Run.holds_between {hs' : List Move} (hxy : Run p x hs y) (hyz : Run p y hs' z)
    (hc : x.callers[i]? = some c) (hholds : c.holds = true) (he : z.callers[i]? = some e)
    (hholds' : e.holds = true) : ∃ d, y.callers[i]? = some d ∧ d.holds = true := by
  obtain ⟨d, hd, hcd⟩ := hxy.later hc
  obtain ⟨e', he', hde⟩ := hyz.later hd
  obtain rfl := Option.some.inj (he.symm.trans he')
  exact ⟨d, hd, hcd.holds_between hde hholds hholds'⟩

/-- No run changes what the callers claim. -/
theorem claims_of_run (hr : Run p (begin p claims) hs x) :
    x.callers.map Caller.claim = claims := by
  induction hr with
  | nil => simp [begin, Claim.begin, Function.comp_def]
  | @next _ x y m _ hstep ih =>
    obtain ⟨c, d, hc, heq, hlater, -⟩ := hstep.frame
    refine Eq.trans (List.ext_getElem? fun i => ?_) ih
    rw [heq, List.map_set, hlater.claim_eq, List.getElem?_set]
    split
    case isFalse => rfl
    case isTrue h =>
      subst h
      obtain ⟨hlt, hget⟩ := List.getElem?_eq_some_iff.mp hc
      simp [hlt, hget]

/-- The caller at a place has the claim that was listed at that place. -/
theorem claim_of_getElem? {claim : Claim} (h : x.callers.map Caller.claim = claims)
    (hc : x.callers[i]? = some c) (hi : claims[i]? = some claim) : c.claim = claim := by
  rw [← h, List.getElem?_map, hc] at hi
  exact Option.some.inj hi

/-! ### Exclusion -/

/-- The held keys are those of the live guards, one guard for each. -/
structure Exclusive (x : Contention) : Prop where
  nodup : x.held.Nodup
  mem_held_iff : ∀ k, k ∈ x.held ↔
    ∃ (i : Nat) (c : Caller), x.callers[i]? = some c ∧ c.holds = true ∧ c.claim.key = k
  eq_of_holds : ∀ (i j : Nat) (c d : Caller), x.callers[i]? = some c → x.callers[j]? = some d →
    c.holds = true → d.holds = true → c.claim.key = d.claim.key → i = j
  acquired_of_dropped : ∀ (i : Nat) (c : Caller), x.callers[i]? = some c →
    c.dropped = true → c.call = .acquired

/-- Every caller starts as one of the claims. -/
theorem exists_claim_of_begin (hc : (begin p claims).callers[i]? = some c) :
    ∃ claim : Claim, claim.begin p = c := by
  rw [begin, List.getElem?_map, Option.map_eq_some_iff] at hc
  obtain ⟨claim, -, heq⟩ := hc
  exact ⟨claim, heq⟩

/-- Nobody holds a key at the start. -/
theorem exclusive_begin (p : RetryPolicy) (claims : List Claim) : (begin p claims).Exclusive := by
  have hnone {i : Nat} {c : Caller} (hc : (begin p claims).callers[i]? = some c) :
      ¬c.holds = true := by
    obtain ⟨claim, rfl⟩ := exists_claim_of_begin hc
    exact fun h => LockCall.before_ne_acquired (Caller.holds_iff.mp h).1
  constructor
  case nodup => exact .nil
  case mem_held_iff =>
    refine fun k => ⟨nofun, ?_⟩
    rintro ⟨i, c, hc, hholds, -⟩
    exact absurd hholds (hnone hc)
  case eq_of_holds => exact fun i j c d hc _ hholds => absurd hholds (hnone hc)
  case acquired_of_dropped =>
    intro i c hc hdropped
    obtain ⟨claim, rfl⟩ := exists_claim_of_begin hc
    cases hdropped

/-- A caller may begin to hold a key that is free, and may cease to hold one. -/
theorem Exclusive.set {held : HeldKeys} (hx : x.Exclusive) (hc : x.callers[i]? = some c)
    (hnodup : held.Nodup) (hclaim : d.claim = c.claim)
    (hheld : ∀ k, k ∈ held ↔
      k = c.claim.key ∧ d.holds = true ∨ k ∈ x.held ∧ ¬(k = c.claim.key ∧ c.holds = true))
    (hfree : d.holds = true → c.holds = true ∨ c.claim.key ∉ x.held)
    (hdropped : d.dropped = true → d.call = .acquired) :
    Exclusive ⟨held, x.callers.set i d⟩ := by
  -- the one who changes does not get hold of a key that somebody else holds
  have halone {j : Nat} {e : Caller} (hj : x.callers[j]? = some e) (hd : d.holds = true)
      (he : e.holds = true) (hkey : c.claim.key = e.claim.key) : i = j := by
    rcases hfree hd with hholds | hfree
    · exact hx.eq_of_holds i j c e hc hj hholds he hkey
    · exact absurd ((hx.mem_held_iff _).mpr ⟨j, e, hj, he, hkey.symm⟩) hfree
  constructor
  case nodup => exact hnodup
  case mem_held_iff =>
    intro k
    simp only [hheld, getElem?_set_iff hc]
    constructor
    · rintro (⟨rfl, hd⟩ | ⟨hk, hnot⟩)
      · exact ⟨i, d, .inl ⟨rfl, rfl⟩, hd, congrArg Claim.key hclaim⟩
      · obtain ⟨j, e, hj, he, rfl⟩ := (hx.mem_held_iff k).mp hk
        refine ⟨j, e, .inr ⟨?_, hj⟩, he, rfl⟩
        rintro rfl
        obtain rfl := Option.some.inj (hc.symm.trans hj)
        exact hnot ⟨rfl, he⟩
    · rintro ⟨j, e, ⟨rfl, rfl⟩ | ⟨hne, hj⟩, he, rfl⟩
      · exact .inl ⟨congrArg Claim.key hclaim, he⟩
      · refine .inr ⟨(hx.mem_held_iff _).mpr ⟨j, e, hj, he, rfl⟩, ?_⟩
        rintro ⟨hkey, hholds⟩
        exact hne (hx.eq_of_holds j i e c hj hc he hholds hkey)
  case eq_of_holds =>
    intro j j' e e' hset hset' he he' hkey
    rcases (getElem?_set_iff hc).mp hset with ⟨rfl, rfl⟩ | ⟨-, hj⟩ <;>
      rcases (getElem?_set_iff hc).mp hset' with ⟨rfl, rfl⟩ | ⟨-, hj'⟩
    · rfl
    · exact halone hj' he he' (hclaim ▸ hkey)
    · exact (halone hj he' he (hclaim ▸ hkey.symm)).symm
    · exact hx.eq_of_holds j j' e e' hj hj' he he' hkey
  case acquired_of_dropped =>
    intro j e hj
    rcases (getElem?_set_iff hc).mp hj with ⟨-, rfl⟩ | ⟨-, hj⟩
    · exact hdropped
    · exact hx.acquired_of_dropped j e hj

/-- If the one who changes holds the key or not as before, the held keys stay as they are. -/
theorem Exclusive.set_of_holds_eq (hx : x.Exclusive) (hc : x.callers[i]? = some c)
    (hclaim : d.claim = c.claim) (hholds : d.holds = c.holds)
    (hdropped : d.dropped = true → d.call = .acquired) :
    Exclusive ⟨x.held, x.callers.set i d⟩ := by
  refine hx.set hc hx.nodup hclaim (fun k => ?_) (fun hd => .inl (hholds ▸ hd)) hdropped
  have hmem : c.holds = true → c.claim.key ∈ x.held := fun h =>
    (hx.mem_held_iff _).mpr ⟨i, c, hc, h, rfl⟩
  rw [hholds]
  by_cases hk : k = c.claim.key ∧ c.holds = true
  · simp [hk, hmem hk.2]
  · simp [hk]

/-- **A step keeps the keys apart.** -/
theorem Exclusive.step (hx : x.Exclusive) (hstep : Step p x m y) : y.Exclusive := by
  obtain ⟨i, c, hc, hcases⟩ := hstep.eq_or
  have hdropped := hx.acquired_of_dropped i c hc
  -- a call that has not returned has no guard to drop
  have hlive (hopen : c.call.isOver = false) : c.dropped = false :=
    Bool.eq_false_iff.mpr fun h => LockCall.ne_acquired_of_open hopen (hdropped h)
  obtain ⟨hopen, hkey, rfl, rfl⟩ | ⟨hopen, hkey, rfl, rfl⟩ | ⟨a, left, hholds, hleft, rfl, rfl⟩ |
    ⟨hholds, rfl, rfl⟩ := hcases
  · have hd : ({ c with call := .acquired } : Caller).holds = true :=
      Caller.holds_iff.mpr ⟨rfl, hlive hopen⟩
    refine hx.set hc (List.nodup_cons.mpr ⟨hkey, hx.nodup⟩) rfl (fun k => ?_)
      (fun _ => .inr hkey) fun _ => rfl
    simp [hd, Caller.holds_eq_false (LockCall.ne_acquired_of_open hopen)]
  · have hc' : c.holds = false := Caller.holds_eq_false (LockCall.ne_acquired_of_open hopen)
    have hd : ({ c with call := c.call.missed p c.claim.patience } : Caller).holds = false :=
      Caller.holds_eq_false (LockCall.missed_ne_acquired hopen)
    refine hx.set_of_holds_eq hc rfl (hd.trans hc'.symm) fun h => ?_
    exact absurd ((hlive hopen).symm.trans h) (by simp)
  · exact hx.set_of_holds_eq hc rfl rfl hdropped
  · have hd : ({ c with dropped := true } : Caller).holds = false := by simp [Caller.holds]
    refine hx.set hc (HeldKeys.nodup_release hx.nodup) rfl (fun k => ?_) (fun _ => .inl hholds)
      fun _ => (Caller.holds_iff.mp hholds).1
    simp [hd, hholds]

/-- **Keys are kept apart** throughout every run. -/
theorem exclusive_of_run (hr : Run p (begin p claims) hs x) : x.Exclusive := by
  induction hr with
  | nil => exact exclusive_begin p claims
  | next _ hstep ih => exact ih.step hstep

/-! ### The record of a run -/

/-- A step extends the record of the caller that moves and leaves the others alone. -/
theorem recorded_step (h : ∀ (i : Nat) (c : Caller), x.callers[i]? = some c → c.Recorded p i hs)
    (hstep : Step p x m y) (hc : y.callers[i]? = some c) : c.Recorded p i (m :: hs) := by
  obtain ⟨j, b, hb, ⟨hopen, -, rfl, rfl⟩ | ⟨hopen, -, rfl, rfl⟩ |
    ⟨a, left, hholds, hleft, rfl, rfl⟩ | ⟨hholds, rfl, rfl⟩⟩ := hstep.eq_or
  all_goals
    rcases (getElem?_set_iff hb).mp hc with ⟨rfl, rfl⟩ | ⟨hne, hc⟩
    case inr => exact (h i c hc).of_ne hne.symm
  · exact (h i b hb).acquire hopen
  · exact (h i b hb).miss hopen
  · exact (h i b hb).act (Caller.holds_iff.mp hholds).1 hleft
  · exact (h i b hb).drop (Caller.holds_iff.mp hholds).1

/-- **What callers are agrees with what they have done** throughout every run. -/
theorem recorded_of_run (hr : Run p (begin p claims) hs x) :
    ∀ (i : Nat) (c : Caller), x.callers[i]? = some c → c.Recorded p i hs := by
  induction hr with
  | nil =>
    intro i c hc
    obtain ⟨claim, rfl⟩ := exists_claim_of_begin hc
    exact Caller.recorded_begin p i claim
  | next _ hstep ih => exact fun i c hc => recorded_step ih hstep hc

/-! ### Blocks -/

/-- Nobody acts in between the actions of another caller of the same key. -/
def Apart (claims : List Claim) (hs : List Move) : Prop :=
  ∀ (i j : Nat) (c d : Claim), claims[i]? = some c → claims[j]? = some d → i ≠ j → c.key = d.key →
    ∀ (later between before : List Move) (a b e : Action),
      hs = later ++ .did i a :: (between ++ .did i b :: before) → .did j e ∉ between

/-- Only a caller that holds its key acts under it. -/
theorem Step.holds_of_did (hstep : Step p x (.did i a) y) :
    ∃ c, x.callers[i]? = some c ∧ c.holds = true := by
  cases hstep with
  | act hc hholds _ => exact ⟨_, hc, hholds⟩

/-- **Blocks of one key are never mixed.** -/
theorem apart_of_run (hr : Run p (begin p claims) hs x) : Apart claims hs := by
  rintro i j ci cj hi hj hne hkey later between before a b e rfl hmem
  obtain ⟨between₂, between₁, rfl⟩ := List.append_of_mem hmem
  -- the three actions happen in the states `u`, `v` and `w`
  obtain ⟨w, _, hw, hstepw, -⟩ := hr.split
  rw [List.append_assoc, List.cons_append] at hw
  obtain ⟨v, _, hv, hstepv, hvw⟩ := hw.split
  obtain ⟨u, _, hu, hstepu, huv⟩ := hv.split
  obtain ⟨cu, hcu, hholdsu⟩ := hstepu.holds_of_did
  obtain ⟨cv', hcv', hholdsv'⟩ := hstepv.holds_of_did
  obtain ⟨cw, hcw, hholdsw⟩ := hstepw.holds_of_did
  obtain ⟨cv, hcv, hholdsv⟩ :=
    (huv.head hstepu).holds_between (hvw.head hstepv) hcu hholdsu hcw hholdsw
  have hclaims := claims_of_run hv
  have hkeyi : cv.claim = ci := claim_of_getElem? hclaims hcv hi
  have hkeyj : cv'.claim = cj := claim_of_getElem? hclaims hcv' hj
  exact hne ((exclusive_of_run hv).eq_of_holds i j cv cv' hcv hcv' hholdsv hholdsv'
    (by rw [hkeyi, hkeyj, hkey]))

/-! ### Independence of keys -/

/-- Two states do not differ in what concerns a key. -/
structure AgreesOn (k : String) (x y : Contention) : Prop where
  mem_held_iff : k ∈ x.held ↔ k ∈ y.held
  getElem?_iff : ∀ (i : Nat) (c : Caller), c.claim.key = k →
    (x.callers[i]? = some c ↔ y.callers[i]? = some c)

theorem AgreesOn.refl (k : String) (x : Contention) : x.AgreesOn k x :=
  ⟨Iff.rfl, fun _ _ _ => Iff.rfl⟩

theorem AgreesOn.symm (h : AgreesOn k x y) : AgreesOn k y x :=
  ⟨h.mem_held_iff.symm, fun i c hkey => (h.getElem?_iff i c hkey).symm⟩

theorem AgreesOn.trans (h : AgreesOn k x y) (h' : AgreesOn k y z) : AgreesOn k x z :=
  ⟨h.mem_held_iff.trans h'.mem_held_iff,
    fun i c hkey => (h.getElem?_iff i c hkey).trans (h'.getElem?_iff i c hkey)⟩

/-- A step of a caller of another key does not matter. -/
theorem Step.agreesOn (hstep : Step p x m y) (hc : x.callers[m.caller]? = some c)
    (hne : c.claim.key ≠ k) : AgreesOn k x y := by
  obtain ⟨b, d, hb, heq, hlater, hheld⟩ := hstep.frame
  obtain rfl := Option.some.inj (hb.symm.trans hc)
  refine ⟨hheld k hne.symm, fun i e he => ?_⟩
  rw [heq, getElem?_set_iff hb]
  constructor
  · refine fun hi => .inr ⟨?_, hi⟩
    rintro rfl
    obtain rfl := Option.some.inj (hb.symm.trans hi)
    exact hne he
  · rintro (⟨-, rfl⟩ | ⟨-, hi⟩)
    · exact absurd (hlater.claim_eq ▸ he) hne
    · exact hi

/-- States that agree on a key still agree when one caller of that key changes in both. -/
theorem AgreesOn.set {held held' : HeldKeys} (h : AgreesOn k x x')
    (hc : x.callers[i]? = some c) (hkey : c.claim.key = k) (hheld : k ∈ held ↔ k ∈ held') :
    AgreesOn k ⟨held, x.callers.set i d⟩ ⟨held', x'.callers.set i d⟩ := by
  have hc' := (h.getElem?_iff i c hkey).mp hc
  refine ⟨hheld, fun j e he => ?_⟩
  rw [getElem?_set_iff hc, getElem?_set_iff hc', h.getElem?_iff j e he]

/-- **A step depends on its key only**: where nothing differs that concerns the key, the same step
can be made and makes the same difference. -/
theorem AgreesOn.step (h : AgreesOn k x x') (hstep : Step p x m y)
    (hc : x.callers[m.caller]? = some c) (hkey : c.claim.key = k) :
    ∃ y', Step p x' m y' ∧ AgreesOn k y y' := by
  obtain ⟨i, b, hb, hcases⟩ := hstep.eq_or
  have hb' (heq : m.caller = i) : b = c ∧ x'.callers[i]? = some b := by
    subst heq
    obtain rfl := Option.some.inj (hb.symm.trans hc)
    exact ⟨rfl, (h.getElem?_iff _ _ hkey).mp hb⟩
  obtain ⟨hopen, hfree, rfl, rfl⟩ | ⟨hopen, hfree, rfl, rfl⟩ | ⟨a, left, hholds, hleft, rfl, rfl⟩ |
    ⟨hholds, rfl, rfl⟩ := hcases
  all_goals
    obtain ⟨rfl, hc'⟩ := hb' rfl
    subst hkey
  · have hfree' := mt h.mem_held_iff.mpr hfree
    exact ⟨_, .acquire hc' hopen hfree', h.set hb rfl (by simp)⟩
  · have hfree' := h.mem_held_iff.mp hfree
    exact ⟨_, .miss hc' hopen hfree', h.set hb rfl h.mem_held_iff⟩
  · exact ⟨_, .act hc' hholds hleft, h.set hb rfl h.mem_held_iff⟩
  · exact ⟨_, .drop hc' hholds, h.set hb rfl (by simp)⟩

/-- What a caller may do depends on the state of its own key alone. -/
theorem AgreesOn.yields (h : AgreesOn k x x') (hd : x.callers[n.caller]? = some d)
    (hkey : d.claim.key = k) (hyields : Yields p x n e) : Yields p x' n e := by
  obtain ⟨y, hstep, he⟩ := hyields
  obtain ⟨y', hstep', hagree⟩ := h.step hstep hd hkey
  obtain ⟨b, hb, hlater⟩ := hstep.later hd
  obtain rfl := Option.some.inj (hb.symm.trans he)
  exact ⟨y', hstep', (hagree.getElem?_iff _ _ (hlater.claim_eq ▸ hkey)).mp he⟩

/-- What a caller can do, and what comes of it, is not changed by a caller of another key. -/
theorem Step.yields_iff (hstep : Step p x m y) (hc : x.callers[m.caller]? = some c)
    (hd : x.callers[n.caller]? = some d) (hne : c.claim.key ≠ d.claim.key) :
    Yields p x n e ↔ Yields p y n e := by
  have hagree := hstep.agreesOn hc hne
  exact ⟨hagree.yields hd rfl,
    hagree.symm.yields ((hagree.getElem?_iff _ _ rfl).mp hd) rfl⟩

/-- Whether a move is made by a caller of a key. -/
def isMoveFor (claims : List Claim) (k : String) (m : Move) : Bool :=
  claims[m.caller]?.any (·.key == k)

/-- **A run looks the same to the callers of a key** if all the others do not move at all. -/
theorem Run.restrict (k : String) (hr : Run p (begin p claims) hs x) :
    ∃ y, Run p (begin p claims) (hs.filter (isMoveFor claims k)) y ∧ AgreesOn k x y := by
  induction hr with
  | nil => exact ⟨_, .nil, .refl k _⟩
  | @next _ x z m hr hstep ih =>
    obtain ⟨y, hy, hagree⟩ := ih
    obtain ⟨c, -, hc, -⟩ := hstep.frame
    have hmove : isMoveFor claims k m = (c.claim.key == k) := by
      rw [isMoveFor, ← claims_of_run hr, List.getElem?_map, hc]
      rfl
    by_cases hkey : c.claim.key = k
    · obtain ⟨y', hstep', hagree'⟩ := hagree.step hstep hc hkey
      rw [List.filter_cons_of_pos (by simp [hmove, hkey])]
      exact ⟨y', hy.next hstep', hagree'⟩
    · rw [List.filter_cons_of_neg (by simp [hmove, hkey])]
      exact ⟨y, hy, (hstep.agreesOn hc hkey).symm.trans hagree⟩

/-! ### Calls without contention -/

/-- The attempts that a call makes while nobody else does anything are moves of a lone caller. -/
theorem exists_run_advance (held : HeldKeys) (c : Caller) (attempts : Nat) :
    ∃ hs, hs.length ≤ attempts ∧
      let s := LockCall.advance p c.claim.patience c.claim.key attempts (c.call, held)
      Run p ⟨held, [c]⟩ hs ⟨s.2, [{ c with call := s.1 }]⟩ := by
  induction attempts generalizing held c with
  | zero => exact ⟨[], Nat.le_refl 0, .nil⟩
  | succ attempts ih =>
    by_cases hover : c.call.isOver = true
    · have hstays : LockCall.advance p c.claim.patience c.claim.key (attempts + 1) (c.call, held) =
          (c.call, held) := LockCall.advance_of_isOver hover
      rw [hstays]
      exact ⟨[], Nat.zero_le _, .nil⟩
    · have hopen := Bool.eq_false_iff.mpr hover
      rw [LockCall.advance_succ hopen]
      obtain ⟨hs, hlen, hr⟩ := ih (c.call.step p c.claim.patience c.claim.key held).2
        { c with call := (c.call.step p c.claim.patience c.claim.key held).1 }
      have hfirst : Step p ⟨held, [c]⟩ _ _ := Step.attempt (i := 0) rfl hopen
      exact ⟨_, by simpa using hlen, hr.head hfirst⟩

/-! ### Exclusion per key, and only per key -/

/-- What an attempt answers and does. -/
theorem Step.of_attempted (hstep : Step p x (.attempted i free) y) (hc : x.callers[i]? = some c) :
    (free = true ↔ c.claim.key ∉ x.held) ∧
      (free = true → y.callers[i]? = some { c with call := .acquired }) ∧
      (free = false → y.held = x.held ∧ ∀ j, j ≠ i → y.callers[j]? = x.callers[j]?) := by
  obtain ⟨j, b, hb, ⟨-, hkey, heq, rfl⟩ | ⟨-, hkey, heq, rfl⟩ | ⟨a, left, -, -, heq, -⟩ |
    ⟨-, heq, -⟩⟩ := hstep.eq_or
  · obtain ⟨rfl, rfl⟩ := Move.attempted.inj heq
    obtain rfl := Option.some.inj (hb.symm.trans hc)
    exact ⟨by simp [hkey], fun _ => (getElem?_set_iff hb).mpr (.inl ⟨rfl, rfl⟩), nofun⟩
  · obtain ⟨rfl, rfl⟩ := Move.attempted.inj heq
    obtain rfl := Option.some.inj (hb.symm.trans hc)
    exact ⟨by simp [hkey], nofun, fun _ => ⟨rfl, fun j hj => List.getElem?_set_ne hj.symm⟩⟩
  · cases heq
  · cases heq

/-- **Keys exclude per key, and only per key**, for every number of callers, every policy and every
interleaving. An attempt is in vain only if the key is held, and changes nothing then; a bounded
call makes as many attempts as the policy allows and is refused if all were in vain; an endless call
returns once a single attempt, its last one, has found the key free. -/
theorem keys_exclusive (hr : Run p (begin p claims) hs x) :
    x.callers.map Caller.claim = claims ∧ x.Exclusive ∧ Apart claims hs ∧
    (∀ (w : Workplace) (a : Asset) (kind : TaskKind) (r : SqlRequest),
      .sql r ∈ (w.claim a kind).block → r.database = (w.claim a kind).key) ∧
    (∀ (i : Nat) (c : Caller), x.callers[i]? = some c →
      (doneBy i hs).reverse ++ c.left = c.claim.block ∧
      (c.claim.patience = .bounded → (attemptsOf i hs).length ≤ p.maxRetries) ∧
      (c.call = .refused → c.claim.patience = .bounded ∧
        attemptsOf i hs = List.replicate p.maxRetries false) ∧
      (c.call = .acquired → ∃ n, attemptsOf i hs = true :: List.replicate n false) ∧
      (c.call ≠ .acquired → ∀ m ∈ hs, m.caller = i → m = .attempted i false)) ∧
    (∀ (y z : Contention) (i : Nat) (c : Caller) (free : Bool), y.callers[i]? = some c →
      Step p y (.attempted i free) z →
        (free = true ↔ c.claim.key ∉ y.held) ∧
        (free = true → z.callers[i]? = some { c with call := .acquired }) ∧
        (free = false → z.held = y.held ∧ ∀ j, j ≠ i → z.callers[j]? = y.callers[j]?)) ∧
    (∀ (y z : Contention) (m n : Move) (c d e : Caller), Step p y m z →
      y.callers[m.caller]? = some c → y.callers[n.caller]? = some d → c.claim.key ≠ d.claim.key →
        (Yields p y n e ↔ Yields p z n e)) := by
  refine ⟨claims_of_run hr, exclusive_of_run hr, apart_of_run hr,
    fun w a kind r hr => w.actsOn_carryOut a kind r hr, fun i c hc => ?_,
    fun y z i c free hc hstep => hstep.of_attempted hc,
    fun y z m n c d e hstep hc hd hne => hstep.yields_iff hc hd hne⟩
  have hrec := recorded_of_run hr i c hc
  have haccounts := hrec.accounts
  refine ⟨hrec.done, fun hbounded => ?_, fun hcall => ?_, fun hcall => ?_, hrec.waits⟩
  · rw [hbounded] at haccounts
    exact haccounts.length_le
  · rwa [hcall] at haccounts
  · rw [hcall] at haccounts
    obtain ⟨n, htries, -⟩ := haccounts
    exact ⟨n, htries⟩

/-! ### Callers of one shop -/

/-- A policy of calls that try once before they give up or start anew. -/
def shopPolicy : RetryPolicy :=
  { maxRetries := 1 }

/-- The work of a caller: it sends one statement to the database of the shop. -/
def shopWork (sql : String) : Action :=
  .sql { database := "shop.duckdb", sql }

/-- Two callers who wait for the database of a shop, and one who does not. -/
def shopClaims : List Claim :=
  [⟨"shop.duckdb", .endless, [shopWork "first"]⟩, ⟨"shop.duckdb", .endless, [shopWork "second"]⟩,
    ⟨"shop.duckdb", .bounded, []⟩]

/-- What they do, the latest first: the one who does not wait is refused, and the second one gets
the key by the attempt between two rounds. -/
def shopMoves : List Move :=
  [.did 1 (shopWork "second"), .attempted 1 true, .dropped 0, .attempted 2 false,
    .attempted 1 false, .did 0 (shopWork "first"), .attempted 0 true]

theorem shop_run : ∃ x, Run shopPolicy (begin shopPolicy shopClaims) shopMoves x ∧
    x.held = ["shop.duckdb"] := by
  have h₀ : Run shopPolicy (begin shopPolicy shopClaims) [] _ := .nil
  have h₁ := h₀.next (.acquire (i := 0) rfl rfl (by decide))
  have h₂ := h₁.next (.act (i := 0) rfl rfl rfl)
  have h₃ := h₂.next (.miss (i := 1) rfl rfl (by decide))
  have h₄ := h₃.next (.miss (i := 2) rfl rfl (by decide))
  have h₅ := h₄.next (.drop (i := 0) rfl rfl)
  have h₆ := h₅.next (.acquire (i := 1) rfl rfl (by decide))
  exact ⟨_, h₆.next (.act (i := 1) rfl rfl rfl), rfl⟩

theorem shop_held_by_second : ∃ x,
    Run shopPolicy (begin shopPolicy shopClaims) shopMoves x ∧ x.held = ["shop.duckdb"] ∧
      x.Exclusive ∧ Apart shopClaims shopMoves := by
  obtain ⟨x, hr, hheld⟩ := shop_run
  obtain ⟨-, hexclusive, hapart, -⟩ := keys_exclusive hr
  exact ⟨x, hr, hheld, hexclusive, hapart⟩

end Contention

end AssetFlow
