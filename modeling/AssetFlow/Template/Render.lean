import AssetFlow.Template.Filter
import AssetFlow.Template.Parser

/-!
# Rendering templates

Statements are carried out in their order. Variables live in frames: a loop, a block and a call of
a macro have a frame of their own, and a variable is looked up from the innermost frame outwards.

## Main definitions

- `Scene`: what rendering has come to.
- `render`: the text of a template with some variables.
-/

namespace AssetFlow.Template

/-- A macro: its parameters and body, and how many frames can be seen from where it stands. -/
structure Macro where
  name : String
  parameters : List Parameter
  body : List Stmt
  frames : Nat
  deriving Inhabited

/-- What rendering has come to. -/
structure Scene where
  /-- The variables, innermost frame first. -/
  frames : List (List (String × Datum))
  /-- The variables of places that can be changed. -/
  spaces : List (List (Datum × Datum)) := []
  macros : List Macro := []
  /-- The text so far, latest part first. -/
  output : List String := []
  /-- Whether special characters of markup are escaped. -/
  escapes : Bool := false
  /-- The number of calls and loops around. -/
  calls : Nat := 0
  loops : Nat := 0

/-- A step of rendering. -/
abbrev Step := StateT Scene (Except TemplateError)

namespace Step

/-- The functions that templates can call. -/
def builtins : List String := ["range", "dict", "namespace", "debug"]

/-- The value of a variable in frames. -/
def findIn (name : String) : List (List (String × Datum)) → Option Datum
  | [] => none
  | f :: rest => (f.lookup name).or (findIn name rest)

/-- The value of a variable. -/
def lookup (name : String) : Step Datum := do
  match findIn name (← get).frames with
  | some d => return d
  | none => return if builtins.contains name then .builtin name else .undefined

/-- Gives a value to a variable of the innermost frame. -/
def assign (name : String) (d : Datum) : Step Unit :=
  modify fun s => { s with frames := match s.frames with
    | [] => [[(name, d)]]
    | f :: rest => ((name, d) :: f.filter (·.1 != name)) :: rest }

/-- Writes text. -/
def write (s : String) : Step Unit :=
  modify fun sc => { sc with output := s :: sc.output }

/-- Writes a value. -/
def emit (d : Datum) : Step Unit := do
  match (← get).escapes, d with
  | true, .text s false => write (Filter.escaped s)
  | _, d => write d.show

/-- The text that a step writes, which is not written. -/
def capture (step : Step Unit) : Step Datum := do
  let before := (← get).output
  modify fun s => { s with output := [] }
  step
  let s ← get
  set { s with output := before }
  return .text (String.join s.output.reverse) s.escapes

/-- Carries out a step in a frame of its own. -/
def framed (step : Step α) : Step α := do
  modify fun s => { s with frames := [] :: s.frames }
  let a ← step
  modify fun s => { s with frames := s.frames.drop 1 }
  return a

/-- The fields of a place that can be changed. -/
def spaceFields (id : Nat) : Step (List (Datum × Datum)) := do
  return ((← get).spaces[id]?).getD []

/-- The item of a value. -/
def item (d key : Datum) : Step Datum := do
  match d with
  | .space id => return (Datum.fieldOf? (← spaceFields id) key).getD .undefined
  | d => d.item key

/-- Makes a place that can be changed. -/
def makeSpace (fields : List (Datum × Datum)) : Step Datum := do
  let id := (← get).spaces.length
  modify fun s => { s with spaces := s.spaces ++ [fields] }
  return .space id

/-- The numbers from `start` in steps, as long as they come before `stop`. -/
def numbers (start stop step : Int) : Except TemplateError Datum :=
  if step == 0 then .error .invalidOperation
  else
    let distance := if step > 0 then stop - start else start - stop
    let count := if distance ≤ 0 then 0 else ((distance + step.natAbs - 1) / step.natAbs).toNat
    if count > 100000 then .error .invalidOperation
    else .ok (.list ((List.range count).map fun i => .int (start + step * Int.ofNat i)))

/-- The integer that an argument is. -/
def whole (d : Datum) : Except TemplateError Int :=
  match d.int? with
  | some n => .ok n
  | none => .error .invalidOperation

/-- Calls a function that templates can call. -/
def callBuiltin (name : String) (a : Args) : Step Datum := do
  let named := a.named.map fun (n, d) => (Datum.ofString n, d)
  match name with
  | "range" => do
    a.atMost 3 []
    let first ← whole (← a.need 0)
    match a.given? 1 "" with
    | none => numbers 0 first 1
    | some stop =>
      let step ← match a.given? 2 "" with
        | some d => whole d
        | none => pure 1
      numbers first (← whole stop) step
  | "dict" => do
    match a.positional with
    | [] => return Datum.ofFields named
    | [.record fs] => return Datum.ofFields (fs ++ named)
    | _ => throw .invalidOperation
  | "namespace" => do
    match a.positional with
    | [] => makeSpace named
    | [.record fs] => makeSpace (fs ++ named)
    | _ => throw .invalidOperation
  | _ => return .ofString ""

/-- Takes a value apart. -/
def unpack (count : Nat) (d : Datum) : Except TemplateError (List Datum) :=
  match d.items? with
  | some xs => if xs.length == count then .ok xs else .error .cannotUnpack
  | none => .error .cannotUnpack

/-- A loop around a step. -/
def looping (step : Step α) : Step α := do
  modify fun s => { s with loops := s.loops + 1 }
  let a ← framed step
  modify fun s => { s with loops := s.loops - 1 }
  return a

/-- How many calls may be within each other. -/
def mostCalls : Nat := 500

mutual

/-- The value of an expression. -/
def eval : (fuel : Nat) → Expr → Step Datum
  | 0, _ => throw .invalidOperation
  | fuel + 1, e =>
    match e with
    | .var name => lookup name
    | .const d => return d
    | .neg e => do Datum.negate (← eval fuel e)
    | .not e => do return .bool (!(← eval fuel e).isTrue)
    | .binary "and" a b => do
      let a ← eval fuel a
      if a.isTrue then eval fuel b else return a
    | .binary "or" a b => do
      let a ← eval fuel a
      if a.isTrue then return a else eval fuel b
    | .binary op a b => do Datum.operate op (← eval fuel a) (← eval fuel b)
    | .choice condition e otherwise => do
      if (← eval fuel condition).isTrue then eval fuel e
      else match otherwise with
        | o :: _ => eval fuel o
        | [] => return .undefined
    | .field e name => do item (← eval fuel e) (.ofString name)
    | .item e key => do item (← eval fuel e) (← eval fuel key)
    | .slice e start stop step => do
      Datum.slice (← eval fuel e) (← eval fuel start) (← eval fuel stop) (← eval fuel step)
    | .call (.field e name) args => do
      let d ← eval fuel e
      callMethod fuel d name (← evalArgs fuel args)
    | .call (.var name) args => do
      let f ← lookup name
      let a ← evalArgs fuel args
      if f == .undefined then throw .unknownFunction else callValue fuel f a
    | .call e args => do
      let f ← eval fuel e
      callValue fuel f (← evalArgs fuel args)
    | .filter name e args => do
      let d ← eval fuel e
      applyFilter name d (← evalArgs fuel args)
    | .test name e args => do
      let d ← eval fuel e
      return .bool (← applyTest name d (← evalArgs fuel args))
    | .list es => do return .list (← evalAll fuel es)
    | .record es => do
      let rec pairs : List Datum → List (Datum × Datum)
        | k :: v :: rest => (k, v) :: pairs rest
        | _ => []
      return Datum.ofFields (pairs (← evalAll fuel es))

/-- The values of expressions. -/
def evalAll : (fuel : Nat) → List Expr → Step (List Datum)
  | 0, _ => throw .invalidOperation
  | _ + 1, [] => return []
  | fuel + 1, e :: rest => do
    let d ← eval fuel e
    return d :: (← evalAll fuel rest)

/-- The values of arguments. -/
def evalArgs : (fuel : Nat) → List Arg → Step Args
  | 0, _ => throw .invalidOperation
  | _ + 1, [] => return {}
  | fuel + 1, a :: rest => do
    let first : Args ← match a with
      | .positional e => do pure { positional := [← eval fuel e] }
      | .named n e => do pure { named := [(n, ← eval fuel e)] }
      | .spread e => do pure { positional := ← Filter.items (← eval fuel e) }
      | .spreadNamed e => do
        match ← eval fuel e with
        | .record fs => pure { named := fs.map fun (k, v) => (k.show, v) }
        | _ => throw .invalidOperation
    let more ← evalArgs fuel rest
    return ⟨first.positional ++ more.positional, first.named ++ more.named⟩

/-- Calls a method of a value. -/
def callMethod : (fuel : Nat) → Datum → String → Args → Step Datum
  | 0, _, _, _ => throw .invalidOperation
  | fuel + 1, d, name, a =>
    match d with
    | .loop index .. => do
      if name == "cycle" then
        match a.positional with
        | [] => return .undefined
        | xs => return (xs[index % xs.length]?).getD .undefined
      else throw .unknownMethod
    | .record _ | .space _ => do
      match ← item d (.ofString name) with
      | .undefined => throw .unknownMethod
      | f => callValue fuel f a
    | _ => throw .unknownMethod

/-- Calls a value. -/
def callValue : (fuel : Nat) → Datum → Args → Step Datum
  | 0, _, _ => throw .invalidOperation
  | fuel + 1, f, a =>
    match f with
    | .builtin name => callBuiltin name a
    | .macroRef _ id => do
      let s ← get
      match s.macros[id]? with
      | none => throw .invalidOperation
      | some m =>
        if s.calls ≥ mostCalls then throw .invalidOperation
        let params := m.parameters.map (·.1)
        a.atMost params.length ("caller" :: params)
        set { s with
          frames := [] :: s.frames.drop (s.frames.length - m.frames)
          calls := s.calls + 1 }
        let text ← capture do
          bindParameters fuel a m.parameters a.positional
          match a.named.lookup "caller" with
          | some c => assign "caller" c
          | none => pure ()
          exec fuel m.body
        modify fun s' => { s' with frames := s.frames, calls := s.calls }
        return text
    | _ => throw .invalidOperation

/-- Gives arguments to the parameters of a macro. -/
def bindParameters : (fuel : Nat) → Args → List Parameter → List Datum → Step Unit
  | 0, _, _, _ => throw .invalidOperation
  | _ + 1, _, [], _ => return
  | fuel + 1, a, (name, default) :: rest, given => do
    let d ← match given, a.named.lookup name with
      | _ :: _, some _ => throw .tooManyArguments
      | d :: _, none => pure d
      | [], some d => pure d
      | [], none => match default with
        | some e => eval fuel e
        | none => pure .undefined
    assign name d
    bindParameters fuel a rest (given.drop 1)

/-- Gives a value to a target. -/
def bind : (fuel : Nat) → Target → Datum → Step Unit
  | 0, _, _ => throw .invalidOperation
  | fuel + 1, t, d =>
    match t with
    | .name n => assign n d
    | .field e n => do
      match ← eval fuel e with
      | .space id =>
        modify fun s => { s with spaces := s.spaces.modify id (Datum.insertField (.ofString n) d) }
      | _ => throw .invalidOperation
    | .row ts => do bindAll fuel ts (← unpack ts.length d)

/-- Gives values to targets. -/
def bindAll : (fuel : Nat) → List Target → List Datum → Step Unit
  | 0, _, _ => throw .invalidOperation
  | fuel + 1, t :: ts, d :: ds => do
    bind fuel t d
    bindAll fuel ts ds
  | _ + 1, _, _ => return

/-- The items that pass the filter of a loop. -/
def passing : (fuel : Nat) → Target → Expr → List Datum → Step (List Datum)
  | 0, _, _, _ => throw .invalidOperation
  | _ + 1, _, _, [] => return []
  | fuel + 1, t, condition, d :: rest => do
    bind fuel t d
    let ok := (← eval fuel condition).isTrue
    let more ← passing fuel t condition rest
    return if ok then d :: more else more

/-- The rounds of a loop. -/
def rounds : (fuel : Nat) → Target → List Stmt → (index length : Nat) → (before : Datum) →
    List Datum → Step Unit
  | 0, _, _, _, _, _, _ => throw .invalidOperation
  | _ + 1, _, _, _, _, _, [] => return
  | fuel + 1, t, body, index, length, before, d :: rest => do
    let depth := (← get).loops - 1
    assign "loop" (.loop index length depth before (rest.head?.getD .undefined))
    bind fuel t d
    exec fuel body
    rounds fuel t body (index + 1) length d rest

/-- The value of a chain of filters. -/
def applyAll : (fuel : Nat) → List FilterUse → Datum → Step Datum
  | 0, _, _ => throw .invalidOperation
  | _ + 1, [], d => return d
  | fuel + 1, (name, args) :: rest, d => do
    let d ← applyFilter name d (← evalArgs fuel args)
    applyAll fuel rest d

/-- Gives values to the targets of a `with` block. -/
def bindings : (fuel : Nat) → List (Target × Expr) → Step Unit
  | 0, _ => throw .invalidOperation
  | _ + 1, [] => return
  | fuel + 1, (t, e) :: rest => do
    bind fuel t (← eval fuel e)
    bindings fuel rest

/-- Carries out statements. -/
def exec : (fuel : Nat) → List Stmt → Step Unit
  | 0, _ => throw .invalidOperation
  | _ + 1, [] => return
  | fuel + 1, s :: rest => do
    execOne fuel s
    exec fuel rest

/-- Carries out a statement. -/
def execOne : (fuel : Nat) → Stmt → Step Unit
  | 0, _ => throw .invalidOperation
  | fuel + 1, s =>
    match s with
    | .data s => write s
    | .emit e => do emit (← eval fuel e)
    | .forLoop t source filter body otherwise => do
      let xs ← Filter.items (← eval fuel source)
      let xs ← match filter with
        | some condition => framed (passing fuel t condition xs)
        | none => pure xs
      if xs.isEmpty then exec fuel otherwise
      else looping (rounds fuel t body 0 xs.length .undefined xs)
    | .choice condition body otherwise => do
      if (← eval fuel condition).isTrue then exec fuel body else exec fuel otherwise
    | .set t e => do bind fuel t (← eval fuel e)
    | .setBlock t filters body => do
      let text ← capture (framed (exec fuel body))
      bind fuel t (← applyAll fuel filters text)
    | .withBlock bs body => framed do
      bindings fuel bs
      exec fuel body
    | .filterBlock filters body => do
      let text ← capture (framed (exec fuel body))
      emit (← applyAll fuel filters text)
    | .escapeBlock e body => do
      let before := (← get).escapes
      let escapes ← match ← eval fuel e with
        | .bool b => pure b
        | .text "html" _ => pure true
        | .text "none" _ => pure false
        | .none => pure false
        | _ => throw .invalidOperation
      modify fun s => { s with escapes }
      framed (exec fuel body)
      modify fun s => { s with escapes := before }
    | .block body => framed (exec fuel body)
    | .extend e | .borrow e => do
      let _ ← eval fuel e
      throw .templateNotFound
    | .includeFile e ignoreMissing => do
      let _ ← eval fuel e
      if ignoreMissing then return else throw .templateNotFound
    | .define name parameters body => do
      let s ← get
      set { s with macros := s.macros ++ [Macro.mk name parameters body s.frames.length] }
      assign name (.macroRef name s.macros.length)
    | .callBlock (.call f args) parameters body => do
      let s ← get
      set { s with macros := s.macros ++ [Macro.mk "caller" parameters body s.frames.length] }
      let caller := Arg.named "caller" (.const (.macroRef "caller" s.macros.length))
      emit (← eval fuel (.call f (args ++ [caller])))
    | .callBlock .. => throw .invalidOperation
    | .run e => do
      let _ ← eval fuel e
      return

end

end Step

/-- More steps than any template takes that comes to an end. -/
def renderFuel : Nat := Nat.pow 10 12

/-- The text of a template with some variables. -/
def render (globals : List (String × Datum)) (source : String) : Except TemplateError String := do
  let stmts ← parse source
  let ((), s) ← (Step.exec renderFuel stmts).run { frames := [globals] }
  return String.join s.output.reverse

end AssetFlow.Template
