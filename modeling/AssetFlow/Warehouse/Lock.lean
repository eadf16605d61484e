import AssetFlow.Document.Binary64

/-!
# Exclusive access to databases

A database has one writer at a time. Access is exclusive per key, such as the path of a database,
and whoever finds a key held tries again after a while.

## Main definitions

- `RetryPolicy`: how often and how soon to try again.
- `HeldKeys`: the keys that are held, with the two indivisible changes `acquire` and `release`.
- `LockCall`: a call that tries to acquire a key, one attempt at a step.
- `LockTable`: held keys with the guards that release them.

## Design notes

A key has no owner: `HeldKeys.release` gives it back whoever holds it. That a key is released only
by its holder is what guards are for.
-/

namespace AssetFlow

open Document

/-- How often and how soon to try again; times are in nanoseconds. -/
structure RetryPolicy where
  /-- The attempts of a call that gives up. -/
  maxRetries : Nat := 200
  /-- The time before the second attempt. -/
  baseDelay : Nat := 10
  /-- The longest time between attempts, but for the jitter. -/
  maxDelay : Nat := 100000000
  /-- How much longer each time is than the one before. -/
  factor : Binary64 := .ofDecimal false 11 (-1)
  /-- How much of a time is up to chance, to either side. -/
  jitter : Binary64 := .ofDecimal false 2 (-1)
  deriving DecidableEq, Repr, Inhabited

namespace RetryPolicy

/-- A time in seconds: its whole seconds and the rest are converted on their own. -/
def seconds (nanoseconds : Nat) : Binary64 :=
  let billion := 1000000000
  (Binary64.ofInt (nanoseconds / billion)).add
    ((Binary64.ofInt (nanoseconds % billion)).div (.ofInt billion))

/-- A delay after it grew a number of times, or until it reached the limit. -/
def grown (limit factor : Binary64) : (times : Nat) → Binary64 → Binary64
  | 0, delay => delay
  | times + 1, delay =>
    let next := delay.mul factor
    if !delay.less limit || next == delay then delay else grown limit factor times next

/-- The factor that chance adds, where `chance` is a number from 0 to 1. -/
def spread (p : RetryPolicy) (chance : Binary64) : Binary64 :=
  let one := Binary64.ofInt 1
  one.add (p.jitter.mul ((chance.mul (.ofInt 2)).add one.neg))

/-- The time before attempt number `attempt + 2`. -/
def backoff (p : RetryPolicy) (attempt : Nat) (chance : Binary64) : Nat :=
  let limit := seconds p.maxDelay
  let delay := (grown limit p.factor attempt (seconds p.baseDelay)).least limit
  let zero := Binary64.zero false
  let delay := if zero.less p.jitter then delay.mul (p.spread chance) else delay
  (delay.scaledToInt 1000000000).toNat

end RetryPolicy

/-- The keys that are held, each once. -/
abbrev HeldKeys := List String

namespace HeldKeys

/-- Holds a key, unless it is held; also tells whether it was free. -/
def acquire (held : HeldKeys) (key : String) : Bool × HeldKeys :=
  if held.contains key then (false, held) else (true, key :: held)

/-- Gives a key back. -/
def release (held : HeldKeys) (key : String) : HeldKeys :=
  held.filter (· != key)

end HeldKeys

/-- What a call does that finds the key held at all its attempts. -/
inductive Patience
  /-- It fails. -/
  | bounded
  /-- It makes one more attempt and then starts anew. -/
  | endless
  deriving DecidableEq, Repr, Inhabited

/-- A call that tries to acquire a key. -/
inductive LockCall
  /-- The next attempt is the one with this number. -/
  | trying (attempt : Nat)
  /-- All attempts were in vain, and one more is made. -/
  | between
  | acquired
  | refused
  deriving DecidableEq, Repr, Inhabited

namespace LockCall

/-- Whether a call has returned. -/
def isOver : LockCall → Bool
  | .acquired | .refused => true
  | _ => false

/-- Where a call goes after its last attempt was in vain. -/
def exhausted : Patience → LockCall
  | .bounded => .refused
  | .endless => .between

/-- A call before the attempt with this number. -/
def before (p : RetryPolicy) (patience : Patience) (attempt : Nat) : LockCall :=
  if attempt < p.maxRetries then .trying attempt else exhausted patience

/-- A new call. -/
def begin (p : RetryPolicy) (patience : Patience) : LockCall :=
  before p patience 0

/-- Makes one attempt, if there is one to make. -/
def step (p : RetryPolicy) (patience : Patience) (key : String) (held : HeldKeys) :
    LockCall → LockCall × HeldKeys
  | .trying attempt => match held.acquire key with
    | (true, held) => (.acquired, held)
    | (false, held) => (before p patience (attempt + 1), held)
  | .between => match held.acquire key with
    | (true, held) => (.acquired, held)
    | (false, held) => (begin p patience, held)
  | call => (call, held)

/-- Makes a number of attempts while nobody else does anything. -/
def advance (p : RetryPolicy) (patience : Patience) (key : String) :
    (attempts : Nat) → LockCall × HeldKeys → LockCall × HeldKeys
  | 0, s => s
  | attempts + 1, (call, held) =>
    match call with
    | .acquired | .refused => (call, held)
    | call => advance p patience key attempts (step p patience key held call)

/-- The attempts of a call that ends, or those of one round. -/
def round (p : RetryPolicy) : Nat :=
  p.maxRetries + 1

end LockCall

/-- Held keys, and the guards that are in use by name. -/
structure LockTable where
  policy : RetryPolicy := {}
  held : HeldKeys := []
  /-- The key that each guard gives back when it is dropped. -/
  guards : List (String × String) := []
  deriving Repr

namespace LockTable

/-- Makes the attempts of a call while nobody else does anything. -/
def call (t : LockTable) (patience : Patience) (key : String) : LockCall × LockTable :=
  let (call, held) := LockCall.advance t.policy patience key (LockCall.round t.policy)
    (LockCall.begin t.policy patience, t.held)
  (call, { t with held })

/-- Tries to hold a key; tells whether it is held now by the caller. -/
def tryLock (t : LockTable) (key : String) : Bool × LockTable :=
  let (call, t) := t.call .bounded key
  (call == .acquired, t)

/-- Holds a key. -/
def lock (t : LockTable) (key : String) : LockTable :=
  (t.call .endless key).2

/-- Gives a key back, whoever holds it. -/
def unlock (t : LockTable) (key : String) : LockTable :=
  { t with held := t.held.release key }

/-- Whether a key is held. -/
def isLocked (t : LockTable) (key : String) : Bool :=
  t.held.contains key

/-- Drops a guard; also tells the key that is given back. -/
def drop (t : LockTable) (guard : String) : Option String × LockTable :=
  match t.guards.lookup guard with
  | none => (none, t)
  | some key =>
    (some key, { t.unlock key with guards := t.guards.filter (·.1 != guard) })

/-- Holds a key for as long as a guard is in use. A guard of the same name is dropped once the key
is held. -/
def guard (t : LockTable) (key name : String) : LockTable :=
  let t := ((t.lock key).drop name).2
  { t with guards := (name, key) :: t.guards }

end LockTable

end AssetFlow
