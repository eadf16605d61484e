/-!
# Work on the outside world

Statements sent to a database and scripts that are run, written down in their order, together with
how the work went. What a database answers is given by an `Engine`, so that work is a value.

## Main definitions

- `SqlRequest`, `ScriptRequest`, `Action`: what is done to the outside world.
- `Work`: the actions of a piece of work, and its result or fault.
-/

namespace AssetFlow

/-- A statement sent to a database. -/
structure SqlRequest where
  database : String
  sql : String
  parameters : List String := []
  deriving DecidableEq, Repr, Inhabited

/-- A script that is run: the program, its arguments, and what is added to its environment. -/
structure ScriptRequest where
  program : String
  arguments : List String
  environment : List (String × String)
  deriving DecidableEq, Repr, Inhabited

/-- Something done to the outside world. -/
inductive Action
  | sql (request : SqlRequest)
  | script (request : ScriptRequest)
  deriving DecidableEq, Repr

namespace Action

/-- The statement that is sent, if one is. -/
def sql? : Action → Option SqlRequest
  | sql r => some r
  | script _ => none

/-- The script that is run, if one is. -/
def script? : Action → Option ScriptRequest
  | sql _ => none
  | script r => some r

end Action

/-- A piece of work: what was done, and what came of it. -/
structure Work (ε α : Type) where
  actions : List Action
  result : Except ε α

namespace Work

variable {ε ε' α β : Type}

/-- Work without actions that succeeds. -/
def done (a : α) : Work ε α :=
  ⟨[], .ok a⟩

/-- Work without actions that fails. -/
def fail (e : ε) : Work ε α :=
  ⟨[], .error e⟩

/-- One piece of work after another; the second one is not begun if the first one fails. -/
def andThen (w : Work ε α) (f : α → Work ε β) : Work ε β :=
  match w.result with
  | .error e => ⟨w.actions, .error e⟩
  | .ok a => ⟨w.actions ++ (f a).actions, (f a).result⟩

instance : Monad (Work ε) where
  pure := done
  bind := andThen

/-- Work that says no more than what came of it. -/
def ofExcept (r : Except ε α) : Work ε α :=
  ⟨[], r⟩

/-- The same work with another account of its fault. -/
def mapError (f : ε → ε') (w : Work ε α) : Work ε' α :=
  ⟨w.actions, w.result.mapError f⟩

/-- The same work, whose fault does not matter. -/
def ignoringFault (w : Work ε Unit) : Work ε Unit :=
  ⟨w.actions, .ok ()⟩

end Work

end AssetFlow
