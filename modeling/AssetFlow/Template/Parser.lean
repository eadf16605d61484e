import AssetFlow.Template.Syntax
import AssetFlow.Template.Token

/-!
# Parsing templates

Recursive descent over the tokens. Every step of the descent takes one unit of fuel, which bounds
the depth of nesting; the fuel is computed from the number of tokens.

## Main definitions

- `parse`: the statements of a template.
-/

namespace AssetFlow.Template

/-- A parser: it consumes tokens, or finds a fault. -/
abbrev Parse (α : Type) := List Token → Except TemplateError (α × List Token)

namespace Parse

/-- The parser that finds a fault. -/
def fault : Except TemplateError α :=
  .error .syntaxFault

/-- Consumes a sign. -/
def sign (s : String) : Parse Unit
  | .op t :: rest => if s == t then .ok ((), rest) else fault
  | _ => fault

/-- Consumes a word. -/
def word (s : String) : Parse Unit
  | .ident t :: rest => if s == t then .ok ((), rest) else fault
  | _ => fault

/-- Consumes a name. -/
def name : Parse String
  | .ident t :: rest => .ok (t, rest)
  | _ => fault

/-- Consumes the end of a statement. -/
def blockEnd : Parse Unit
  | .blockEnd :: rest => .ok ((), rest)
  | _ => fault

/-- Whether the next token is a sign. -/
def atSign (s : String) : List Token → Bool
  | .op t :: _ => s == t
  | _ => false

/-- Whether the next token is a word. -/
def atWord (s : String) : List Token → Bool
  | .ident t :: _ => s == t
  | _ => false

/-- The signs of binary operators, from the ones that bind least. -/
def levels : List (List String) :=
  [["or"], ["and"], [], ["+", "-"], ["~"], ["*", "/", "//", "%"], ["**"]]

/-- The level of comparisons, where also `not` binds. -/
def comparisonLevel : Nat := 2

/-- The signs of comparisons. -/
def comparisons : List String := ["==", "!=", "<", "<=", ">", ">="]

/-- The operator of a level that comes next. -/
def operatorAt? (level : Nat) : List Token → Option (String × List Token)
  | .op s :: rest => if (levels.getD level []).contains s then some (s, rest) else none
  | .ident s :: rest => if (levels.getD level []).contains s then some (s, rest) else none
  | _ => none

/-- The comparison that comes next, and whether it is negated. -/
def comparisonAt? : List Token → Option (String × Bool × List Token)
  | .op s :: rest => if comparisons.contains s then some (s, false, rest) else none
  | .ident "in" :: rest => some ("in", false, rest)
  | .ident "not" :: .ident "in" :: rest => some ("in", true, rest)
  | _ => none

/-- Whether the argument of a test may come next without brackets. -/
def startsTestArgument : List Token → Bool
  | .ident s :: _ => !(["and", "or", "else", "is", "if", "not", "in"].contains s)
  | .str _ :: _ | .int _ :: _ | .float _ :: _ => true
  | .op s :: _ => ["[", "\x7b", "+", "-"].contains s
  | _ => false

mutual

/-- An expression, with a condition behind it or without. -/
def expr : (fuel : Nat) → Parse Expr
  | 0, _ => fault
  | fuel + 1, ts => do
    let (e, ts) ← level fuel 0 ts
    choices fuel e ts

/-- The conditions behind an expression. -/
def choices : (fuel : Nat) → Expr → Parse Expr
  | 0, _, _ => fault
  | fuel + 1, e, ts =>
    if atWord "if" ts then do
      let (condition, ts) ← level fuel 0 (ts.drop 1)
      if atWord "else" ts then
        let (otherwise, ts) ← expr fuel (ts.drop 1)
        choices fuel (.choice condition e [otherwise]) ts
      else choices fuel (.choice condition e []) ts
    else .ok (e, ts)

/-- An expression whose operators bind at a level. -/
def level : (fuel : Nat) → Nat → Parse Expr
  | 0, _, _ => fault
  | fuel + 1, n, ts =>
    if n ≥ levels.length then unary fuel ts
    else if n == comparisonLevel then
      if atWord "not" ts then do
        let (e, ts) ← level fuel n (ts.drop 1)
        return (.not e, ts)
      else do
        let (a, ts) ← level fuel (n + 1) ts
        comparisonTail fuel a ts
    else do
      let (a, ts) ← level fuel (n + 1) ts
      levelTail fuel n a ts

/-- The operators of a level behind an operand. -/
def levelTail : (fuel : Nat) → Nat → Expr → Parse Expr
  | 0, _, _, _ => fault
  | fuel + 1, n, a, ts =>
    match operatorAt? n ts with
    | none => .ok (a, ts)
    | some (op, ts) => do
      let (b, ts) ← level fuel (n + 1) ts
      levelTail fuel n (.binary op a b) ts

/-- The comparisons behind an operand. -/
def comparisonTail : (fuel : Nat) → Expr → Parse Expr
  | 0, _, _ => fault
  | fuel + 1, a, ts =>
    match comparisonAt? ts with
    | none => if atWord "not" ts then fault else .ok (a, ts)
    | some (op, negated, ts) => do
      let (b, ts) ← level fuel (comparisonLevel + 1) ts
      let e := Expr.binary op a b
      comparisonTail fuel (if negated then .not e else e) ts

/-- An operand with its filters and tests. -/
def unary : (fuel : Nat) → Parse Expr
  | 0, _ => fault
  | fuel + 1, ts => do
    let (e, ts) ← signed fuel ts
    let (e, ts) ← parts fuel e ts
    uses fuel e ts

/-- A value with its signs. -/
def signed : (fuel : Nat) → Parse Expr
  | 0, _ => fault
  | fuel + 1, ts =>
    if atSign "-" ts then do
      let (e, ts) ← signed fuel (ts.drop 1)
      return (.neg e, ts)
    else primary fuel ts

/-- The fields, items and calls behind a value. -/
def parts : (fuel : Nat) → Expr → Parse Expr
  | 0, _, _ => fault
  | fuel + 1, e, ts =>
    if atSign "." ts then do
      let (n, ts) ← name (ts.drop 1)
      parts fuel (.field e n) ts
    else if atSign "[" ts then do
      let (e, ts) ← subscript fuel e (ts.drop 1)
      parts fuel e ts
    else if atSign "(" ts then do
      let (args, ts) ← arguments fuel (ts.drop 1)
      parts fuel (.call e args) ts
    else .ok (e, ts)

/-- An expression, unless a colon or the end of a subscript comes next. -/
def bound : (fuel : Nat) → Parse (Option Expr)
  | 0, _ => fault
  | fuel + 1, ts =>
    if atSign ":" ts || atSign "]" ts then .ok (none, ts)
    else do
      let (e, ts) ← expr fuel ts
      return (some e, ts)

/-- What stands in square brackets behind a value. -/
def subscript : (fuel : Nat) → Expr → Parse Expr
  | 0, _, _ => fault
  | fuel + 1, e, ts => do
    let (start, ts) ← if atSign "]" ts then fault else bound fuel ts
    if atSign ":" ts then
      let (stop, ts) ← bound fuel (ts.drop 1)
      let (step, ts) ← if atSign ":" ts then bound fuel (ts.drop 1) else pure (none, ts)
      let ((), ts) ← sign "]" ts
      let orNone (e : Option Expr) := e.getD (.const .none)
      return (.slice e (orNone start) (orNone stop) (orNone step), ts)
    else
      let ((), ts) ← sign "]" ts
      match start with
      | some key => return (.item e key, ts)
      | none => fault

/-- The filters and tests behind an operand. -/
def uses : (fuel : Nat) → Expr → Parse Expr
  | 0, _, _ => fault
  | fuel + 1, e, ts =>
    if atSign "|" ts then do
      let (n, ts) ← name (ts.drop 1)
      let (args, ts) ← if atSign "(" ts then arguments fuel (ts.drop 1) else pure ([], ts)
      uses fuel (.filter n e args) ts
    else if atWord "is" ts then do
      let negated := atWord "not" (ts.drop 1)
      let (n, ts) ← name (ts.drop (if negated then 2 else 1))
      let (args, ts) ← if atSign "(" ts then arguments fuel (ts.drop 1)
        else if startsTestArgument ts then do
          let (a, ts) ← signed fuel ts
          let (a, ts) ← parts fuel a ts
          pure ([Arg.positional a], ts)
        else pure ([], ts)
      let t := Expr.test n e args
      uses fuel (if negated then .not t else t) ts
    else .ok (e, ts)

/-- A value without signs. -/
def primary : (fuel : Nat) → Parse Expr
  | 0, _ => fault
  | fuel + 1, ts =>
    match ts with
    | .ident "true" :: rest | .ident "True" :: rest => .ok (.const (.bool true), rest)
    | .ident "false" :: rest | .ident "False" :: rest => .ok (.const (.bool false), rest)
    | .ident "none" :: rest | .ident "None" :: rest => .ok (.const .none, rest)
    | .ident n :: rest => .ok (.var n, rest)
    | .str s :: rest => .ok (.const (.ofString s), rest)
    | .int n :: rest => .ok (.const (.int n), rest)
    | .float x :: rest => .ok (.const (.float x), rest)
    | .op "(" :: rest => do
      if atSign ")" rest then return (.list [], rest.drop 1)
      let (e, ts) ← expr fuel rest
      if atSign "," ts then
        let (es, ts) ← listItems fuel ")" (ts.drop 1)
        return (.list (e :: es), ts)
      else
        let ((), ts) ← sign ")" ts
        return (e, ts)
    | .op "[" :: rest => do
      let (es, ts) ← listItems fuel "]" rest
      return (.list es, ts)
    | .op "\x7b" :: rest => do
      let (es, ts) ← recordEntries fuel rest
      return (.record es, ts)
    | _ => fault

/-- The items of a list up to a closing bracket. -/
def listItems : (fuel : Nat) → String → Parse (List Expr)
  | 0, _, _ => fault
  | fuel + 1, closing, ts =>
    if atSign closing ts then .ok ([], ts.drop 1)
    else do
      let (e, ts) ← expr fuel ts
      if atSign "," ts then
        let (es, ts) ← listItems fuel closing (ts.drop 1)
        return (e :: es, ts)
      else
        let ((), ts) ← sign closing ts
        return ([e], ts)

/-- The keys and values of a record up to its end. -/
def recordEntries : (fuel : Nat) → Parse (List Expr)
  | 0, _ => fault
  | fuel + 1, ts =>
    if atSign "\x7d" ts then .ok ([], ts.drop 1)
    else do
      let (k, ts) ← expr fuel ts
      let ((), ts) ← sign ":" ts
      let (v, ts) ← expr fuel ts
      if atSign "," ts then
        let (es, ts) ← recordEntries fuel (ts.drop 1)
        return (k :: v :: es, ts)
      else
        let ((), ts) ← sign "\x7d" ts
        return ([k, v], ts)

/-- The arguments of a call up to the closing bracket. -/
def arguments : (fuel : Nat) → Parse (List Arg)
  | 0, _ => fault
  | fuel + 1, ts =>
    if atSign ")" ts then .ok ([], ts.drop 1)
    else do
      let (a, ts) ← argument fuel ts
      if atSign "," ts then
        let (as, ts) ← arguments fuel (ts.drop 1)
        match a, as with
        | .named .., .positional _ :: _ => fault
        | _, _ => return (a :: as, ts)
      else
        let ((), ts) ← sign ")" ts
        return ([a], ts)

/-- An argument of a call. -/
def argument : (fuel : Nat) → Parse Arg
  | 0, _ => fault
  | fuel + 1, ts =>
    if atSign "*" ts then do
      let (e, ts) ← expr fuel (ts.drop 1)
      return (.spread e, ts)
    else if atSign "**" ts then do
      let (e, ts) ← expr fuel (ts.drop 1)
      return (.spreadNamed e, ts)
    else match ts with
      | .ident n :: .op "=" :: rest => do
        let (e, ts) ← level fuel 0 rest
        return (.named n e, ts)
      | ts => do
        let (e, ts) ← expr fuel ts
        return (.positional e, ts)

end

/-- The names that values cannot be given to. -/
def reserved : List String :=
  ["true", "True", "false", "False", "none", "None", "loop", "self"]

mutual

/-- What a value is given to; several targets in a row take a value apart. -/
def target : (fuel : Nat) → Parse Target
  | 0, _ => fault
  | fuel + 1, ts => do
    let (ts', isRow, rest) ← targetItems fuel ts
    match ts', isRow with
    | [t], false => return (t, rest)
    | ts', _ => return (.row ts', rest)

/-- Targets in a row, and whether there is a comma among them. -/
def targetItems : (fuel : Nat) → List Token →
    Except TemplateError (List Target × Bool × List Token)
  | 0, _ => fault
  | fuel + 1, ts => do
    let (t, ts) ← targetItem fuel ts
    if atSign "," ts then
      let ts := ts.drop 1
      if atSign ")" ts || atSign "=" ts || atWord "in" ts || ts.head? == some .blockEnd then
        return ([t], true, ts)
      let (more, _, ts) ← targetItems fuel ts
      return (t :: more, true, ts)
    else return ([t], false, ts)

/-- A target of a row. -/
def targetItem : (fuel : Nat) → Parse Target
  | 0, _ => fault
  | fuel + 1, ts =>
    if atSign "(" ts then do
      let (t, ts) ← target fuel (ts.drop 1)
      let ((), ts) ← sign ")" ts
      return (t, ts)
    else do
      let (n, ts) ← name ts
      if reserved.contains n then fault
      else targetFields fuel (.var n) (.name n) ts

/-- The fields behind a target. -/
def targetFields : (fuel : Nat) → Expr → Target → Parse Target
  | 0, _, _, _ => fault
  | fuel + 1, e, t, ts =>
    if atSign "." ts then do
      let (n, ts) ← name (ts.drop 1)
      targetFields fuel (.field e n) (.field e n) ts
    else .ok (t, ts)

end

/-- A chain of filters. -/
def filterChain : (fuel : Nat) → Parse (List FilterUse)
  | 0, _ => fault
  | fuel + 1, ts => do
    let (n, ts) ← name ts
    let (args, ts) ← if atSign "(" ts then arguments (ts.length * 20) (ts.drop 1) else pure ([], ts)
    if atSign "|" ts then
      let (more, ts) ← filterChain fuel (ts.drop 1)
      return ((n, args) :: more, ts)
    else return ([(n, args)], ts)

/-- The parameters of a macro up to the closing bracket. -/
def parameters : (fuel : Nat) → Parse (List Parameter)
  | 0, _ => fault
  | fuel + 1, ts =>
    if atSign ")" ts then .ok ([], ts.drop 1)
    else do
      let (n, ts) ← name ts
      let (default, ts) ← if atSign "=" ts then do
          let (e, ts) ← expr (ts.length * 20) (ts.drop 1)
          pure (some e, ts)
        else pure (none, ts)
      if atSign "," ts then
        let (more, ts) ← parameters fuel (ts.drop 1)
        return ((n, default) :: more, ts)
      else
        let ((), ts) ← sign ")" ts
        return ([(n, default)], ts)

/-- The bindings of a `with` block. -/
def bindings : (fuel : Nat) → Parse (List (Target × Expr))
  | 0, _ => fault
  | fuel + 1, ts =>
    if ts.head? == some .blockEnd then .ok ([], ts)
    else do
      let (t, ts) ← targetItem (ts.length * 20) ts
      let ((), ts) ← sign "=" ts
      let (e, ts) ← expr (ts.length * 20) ts
      if atSign "," ts then
        let (more, ts) ← bindings fuel (ts.drop 1)
        return ((t, e) :: more, ts)
      else return ([(t, e)], ts)

/-- An expression anywhere. -/
def anyExpr : Parse Expr := fun ts => expr (ts.length * 20 + 20) ts

/-- An expression without a condition behind it. -/
def plainExpr : Parse Expr := fun ts => level (ts.length * 20 + 20) 0 ts

mutual

/-- Statements and text up to one of the words that end them, or to the end of the template. -/
def stmts : (fuel : Nat) → List String → Parse (List Stmt)
  | 0, _, _ => fault
  | fuel + 1, ends, ts =>
    match ts with
    | [] => if ends.isEmpty then .ok ([], []) else fault
    | .data s :: rest => do
      let (more, ts) ← stmts fuel ends rest
      return (.data s :: more, ts)
    | .exprStart :: rest => do
      let (e, ts) ← anyExpr rest
      match ts with
      | .exprEnd :: ts =>
        let (more, ts) ← stmts fuel ends ts
        return (.emit e :: more, ts)
      | _ => fault
    | .blockStart :: .ident w :: rest =>
      if ends.contains w then .ok ([], .ident w :: rest)
      else do
        let (s, ts) ← stmt fuel w rest
        let ((), ts) ← blockEnd ts
        let (more, ts) ← stmts fuel ends ts
        return (s :: more, ts)
    | _ => fault

/-- The statements between the end of an opening statement and a closing word. -/
def body : (fuel : Nat) → String → Parse (List Stmt)
  | 0, _, _ => fault
  | fuel + 1, closing, ts => do
    let ((), ts) ← blockEnd ts
    let (b, ts) ← stmts fuel [closing] ts
    return (b, ts.drop 1)

/-- What follows the condition of an `if`. -/
def branches : (fuel : Nat) → Parse (List Stmt × List Stmt)
  | 0, _ => fault
  | fuel + 1, ts => do
    let ((), ts) ← blockEnd ts
    let (b, ts) ← stmts fuel ["endif", "else", "elif"] ts
    if atWord "else" ts then
      let (o, ts) ← body fuel "endif" (ts.drop 1)
      return ((b, o), ts)
    else if atWord "elif" ts then
      let (condition, ts) ← anyExpr (ts.drop 1)
      let ((b', o'), ts) ← branches fuel ts
      return ((b, [.choice condition b' o']), ts)
    else return ((b, []), ts.drop 1)

/-- A statement that begins with a word, up to its end. -/
def stmt : (fuel : Nat) → String → Parse Stmt
  | 0, _, _ => fault
  | fuel + 1, w, ts =>
    match w with
    | "if" => do
      let (condition, ts) ← anyExpr ts
      let ((b, o), ts) ← branches fuel ts
      return (.choice condition b o, ts)
    | "for" => do
      let (t, ts) ← target (ts.length * 20) ts
      let ((), ts) ← word "in" ts
      let (source, ts) ← plainExpr ts
      let (filter, ts) ← if atWord "if" ts then do
          let (e, ts) ← anyExpr (ts.drop 1)
          pure (some e, ts)
        else pure (none, ts)
      let ts := if atWord "recursive" ts then ts.drop 1 else ts
      let ((), ts) ← blockEnd ts
      let (b, ts) ← stmts fuel ["endfor", "else"] ts
      if atWord "else" ts then
        let (o, ts) ← body fuel "endfor" (ts.drop 1)
        return (.forLoop t source filter b o, ts)
      else return (.forLoop t source filter b [], ts.drop 1)
    | "set" => do
      let (t, ts) ← target (ts.length * 20) ts
      if atSign "=" ts then
        let (e, ts) ← anyExpr (ts.drop 1)
        return (.set t e, ts)
      else
        let (filters, ts) ← if atSign "|" ts then filterChain ts.length (ts.drop 1)
          else pure ([], ts)
        let (b, ts) ← body fuel "endset" ts
        return (.setBlock t filters b, ts)
    | "with" => do
      let (bs, ts) ← bindings (ts.length + 1) ts
      let (b, ts) ← body fuel "endwith" ts
      return (.withBlock bs b, ts)
    | "filter" => do
      let (filters, ts) ← filterChain (ts.length + 1) ts
      let (b, ts) ← body fuel "endfilter" ts
      return (.filterBlock filters b, ts)
    | "autoescape" => do
      let (e, ts) ← anyExpr ts
      let (b, ts) ← body fuel "endautoescape" ts
      return (.escapeBlock e b, ts)
    | "block" => do
      let (n, ts) ← name ts
      let (b, ts) ← body fuel "endblock" ts
      let ts := if atWord n ts then ts.drop 1 else ts
      return (.block b, ts)
    | "extends" => do
      let (e, ts) ← anyExpr ts
      return (.extend e, ts)
    | "include" => do
      let (e, ts) ← anyExpr ts
      if atWord "ignore" ts then
        let ((), ts) ← word "missing" (ts.drop 1)
        return (.includeFile e true, ts)
      else return (.includeFile e false, ts)
    | "import" => do
      let (e, ts) ← anyExpr ts
      let ((), ts) ← word "as" ts
      let (_, ts) ← target (ts.length * 20) ts
      return (.borrow e, ts)
    | "from" => do
      let (e, ts) ← anyExpr ts
      let ((), ts) ← word "import" ts
      return (.borrow e, ts.dropWhile (· != .blockEnd))
    | "macro" => do
      let (n, ts) ← name ts
      let ((), ts) ← sign "(" ts
      let (ps, ts) ← parameters (ts.length + 1) ts
      let (b, ts) ← body fuel "endmacro" ts
      return (.define n ps b, ts)
    | "call" => do
      let (ps, ts) ← if atSign "(" ts then parameters (ts.length + 1) (ts.drop 1) else pure ([], ts)
      let (e, ts) ← anyExpr ts
      let (b, ts) ← body fuel "endcall" ts
      match e with
      | .call .. => return (.callBlock e ps b, ts)
      | _ => fault
    | "do" => do
      let (e, ts) ← anyExpr ts
      match e with
      | .call .. => return (.run e, ts)
      | _ => fault
    | _ => fault

end

end Parse

/-- The statements of a template. -/
def parse (source : String) : Except TemplateError (List Stmt) := do
  let ts ← tokens source
  return (← Parse.stmts (2 * ts.length + 2) [] ts).1

end AssetFlow.Template
