import AssetFlow.Template.Value

/-!
# The syntax of templates

## Main definitions

- `Expr`: expressions.
- `Target`: what a value is given to.
- `Stmt`: statements and the text between them.
-/

namespace AssetFlow.Template

mutual

/-- An expression. -/
inductive Expr
  | var (name : String)
  | const (d : Datum)
  | neg (e : Expr)
  | not (e : Expr)
  | binary (op : String) (a b : Expr)
  /-- The value of `e`, if the condition holds. -/
  | choice (condition e : Expr) (otherwise : List Expr)
  | field (e : Expr) (name : String)
  | item (e key : Expr)
  /-- A part of a row, from and to a place in steps. -/
  | slice (e start stop step : Expr)
  | call (e : Expr) (args : List Arg)
  | filter (name : String) (e : Expr) (args : List Arg)
  | test (name : String) (e : Expr) (args : List Arg)
  | list (items : List Expr)
  /-- A record; keys and values alternate. -/
  | record (entries : List Expr)

/-- An argument of a call. -/
inductive Arg
  | positional (e : Expr)
  | named (name : String) (e : Expr)
  /-- The items of a row, one by one. -/
  | spread (e : Expr)
  /-- The fields of a record, one by one. -/
  | spreadNamed (e : Expr)

end

instance : Inhabited Expr := ⟨.const .undefined⟩

/-- What a value is given to. -/
inductive Target
  | name (name : String)
  | field (e : Expr) (name : String)
  | row (targets : List Target)
  deriving Inhabited

/-- A filter with its arguments. -/
abbrev FilterUse := String × List Arg

/-- A parameter of a macro, with its value for when it is not given. -/
abbrev Parameter := String × Option Expr

/-- A statement, or text. -/
inductive Stmt
  | data (s : String)
  | emit (e : Expr)
  | forLoop (target : Target) (source : Expr) (filter : Option Expr) (body otherwise : List Stmt)
  | choice (condition : Expr) (body otherwise : List Stmt)
  | set (target : Target) (e : Expr)
  | setBlock (target : Target) (filters : List FilterUse) (body : List Stmt)
  | withBlock (bindings : List (Target × Expr)) (body : List Stmt)
  | filterBlock (filters : List FilterUse) (body : List Stmt)
  | escapeBlock (e : Expr) (body : List Stmt)
  | block (body : List Stmt)
  | extend (e : Expr)
  | includeFile (e : Expr) (ignoreMissing : Bool)
  | borrow (e : Expr)
  | define (name : String) (parameters : List Parameter) (body : List Stmt)
  | callBlock (call : Expr) (parameters : List Parameter) (body : List Stmt)
  | run (e : Expr)
  deriving Inhabited

end AssetFlow.Template
