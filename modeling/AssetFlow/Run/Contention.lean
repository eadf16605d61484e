import AssetFlow.Run.Task
import AssetFlow.Warehouse.Lock

/-!
# Contention for keys

All ways in which callers can compete for keys. The attempts of a call, and giving a key back, are
indivisible; between them anyone may do anything, and who does something next is up to the world.

## Main definitions

- `Claim`: a key that is wanted, and what is done while it is held.
- `Contention`: the held keys and the callers.
- `Contention.Step`: what can happen next, and what comes of it.
- `Contention.Run`: what a row of moves comes to.
- `Workplace.claim`: the claim of a task.

## Design notes

A caller stands for one call and for what comes of it: the attempts, then, once the key is held,
the actions of the block, and the end of the guard. Somebody who takes several keys, one after
another or one while he holds another, is several callers. The guard may be dropped before the
block is done, as it is when a task fails or is given up.
-/

namespace AssetFlow

/-- A key that is wanted, and what is done while it is held. -/
structure Claim where
  key : String
  patience : Patience
  block : List Action
  deriving DecidableEq, Repr

/-- One call and what comes of it. -/
structure Caller where
  claim : Claim
  call : LockCall
  /-- The actions of the block that are not done yet. -/
  left : List Action
  /-- Whether the key was given back. -/
  dropped : Bool := false
  deriving DecidableEq, Repr

namespace Caller

/-- Whether a caller has a live guard. -/
def holds (c : Caller) : Bool :=
  c.call == .acquired && !c.dropped

end Caller

/-- A caller before the first attempt. -/
def Claim.begin (p : RetryPolicy) (c : Claim) : Caller :=
  { claim := c, call := .begin p c.patience, left := c.block }

/-- What a caller does; callers are given by their places. -/
inductive Move
  /-- An attempt to acquire the key, and whether it was free. -/
  | attempted (caller : Nat) (free : Bool)
  /-- The next action of the block. -/
  | did (caller : Nat) (action : Action)
  /-- The guard is dropped. -/
  | dropped (caller : Nat)
  deriving DecidableEq, Repr

namespace Move

/-- Who makes a move. -/
def caller : Move → Nat
  | attempted i _ | did i _ | dropped i => i

end Move

/-- The answers to the attempts of a caller; both rows have the latest first. -/
def attemptsOf (i : Nat) (hs : List Move) : List Bool :=
  hs.filterMap fun
    | .attempted j free => if j = i then some free else none
    | _ => none

/-- The actions of a caller; both rows have the latest first. -/
def doneBy (i : Nat) (hs : List Move) : List Action :=
  hs.filterMap fun
    | .did j a => if j = i then some a else none
    | _ => none

/-- The held keys and the callers. -/
structure Contention where
  held : HeldKeys := []
  callers : List Caller
  deriving DecidableEq, Repr

namespace Contention

/-- Nobody has made an attempt. -/
def begin (p : RetryPolicy) (claims : List Claim) : Contention :=
  { callers := claims.map (·.begin p) }

/-- A caller makes an attempt. -/
def attempt (p : RetryPolicy) (x : Contention) (i : Nat) (c : Caller) : Contention :=
  let (call, held) := c.call.step p c.claim.patience c.claim.key x.held
  { held, callers := x.callers.set i { c with call } }

/-- A caller does an action and has others left. -/
def act (x : Contention) (i : Nat) (c : Caller) (left : List Action) : Contention :=
  { x with callers := x.callers.set i { c with left } }

/-- A caller drops the guard, which gives the key back. -/
def drop (x : Contention) (i : Nat) (c : Caller) : Contention :=
  { held := x.held.release c.claim.key, callers := x.callers.set i { c with dropped := true } }

/-- What can happen next, and what comes of it. -/
inductive Step (p : RetryPolicy) : Contention → Move → Contention → Prop
  | attempt {x : Contention} {i : Nat} {c : Caller} :
    x.callers[i]? = some c → c.call.isOver = false →
      Step p x (.attempted i (x.held.acquire c.claim.key).1) (x.attempt p i c)
  | act {x : Contention} {i : Nat} {c : Caller} {a : Action} {left : List Action} :
    x.callers[i]? = some c → c.holds = true → c.left = a :: left →
      Step p x (.did i a) (x.act i c left)
  | drop {x : Contention} {i : Nat} {c : Caller} :
    x.callers[i]? = some c → c.holds = true → Step p x (.dropped i) (x.drop i c)

/-- What a row of moves, the latest first, comes to. -/
inductive Run (p : RetryPolicy) (x₀ : Contention) : List Move → Contention → Prop
  | nil : Run p x₀ [] x₀
  | next {hs : List Move} {x y : Contention} {m : Move} :
    Run p x₀ hs x → Step p x m y → Run p x₀ (m :: hs) y

/-- A caller can make a move, and what becomes of him by it. -/
def Yields (p : RetryPolicy) (x : Contention) (m : Move) (c : Caller) : Prop :=
  ∃ y, Step p x m y ∧ y.callers[m.caller]? = some c

end Contention

/-- The claim of a task: it waits for the database as long as it takes and does all of its work,
scripts included, while it holds it. -/
def Workplace.claim (w : Workplace) (a : Asset) (kind : TaskKind) : Claim where
  key := w.database
  patience := .endless
  block := (w.carryOut a kind).actions

end AssetFlow
