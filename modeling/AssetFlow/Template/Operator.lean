import AssetFlow.Template.Value

/-!
# Operators of templates

## Main definitions

- `negate`, `operate`: the arithmetic operators and comparisons.
- `slice`: parts of rows.
-/

namespace AssetFlow.Template

open Document (Binary64)

namespace Datum

/-- An integer of 128 bits. -/
def ofInt (n : Int) : Except TemplateError Datum :=
  if -Int.pow 2 127 ≤ n && n < Int.pow 2 127 then .ok (.int n) else .error .invalidOperation

/-- The integer part of a number. -/
def truncated (x : Binary64) : Int :=
  match x with
  | .finite n s e =>
    let (num, den) := Binary64.scaled s e
    let magnitude := Int.ofNat (num / den)
    if n then -magnitude else magnitude
  | _ => 0

/-- What a division leaves, with the sign of the dividend. -/
def remainder (x y : Binary64) : Binary64 :=
  match x, y with
  | .finite n s e, .finite m t f =>
    if t == 0 then .undefined
    else
      let exponent := min e f
      let r := Int.tmod (Binary64.aligned (n, s, e) exponent) (Binary64.aligned (m, t, f) exponent)
      let (num, den) := Binary64.scaled r.natAbs exponent
      Binary64.ofRatio n num den
  | .finite .., .infinite _ => x
  | _, _ => .undefined

/-- The quotient as a whole number, such that what is left is not negative. -/
def wholeQuotient (x y : Binary64) : Binary64 :=
  let q := x.div y
  let whole := if q.isFinite then Binary64.ofInt (truncated q) else q
  let zero := Binary64.zero false
  if (remainder x y).less zero then
    whole.add (.ofInt (if zero.less y then -1 else 1))
  else whole

/-- A power with a whole exponent. -/
def wholePower (x : Binary64) (n : Int) : Binary64 :=
  match x with
  | .finite negative s e =>
    let k := n.natAbs
    if k > 5000 then .undefined
    else
      let (num, den) := Binary64.scaled s e
      let negative := negative && k % 2 == 1
      if n ≥ 0 then Binary64.ofRatio negative (num.pow k) (den.pow k)
      else if num == 0 then .infinite negative
      else Binary64.ofRatio negative (den.pow k) (num.pow k)
  | x => x

/-- The value with the other sign. -/
def negate : Datum → Except TemplateError Datum
  | .int n => ofInt (-n)
  | .float x => .ok (.float x.neg)
  | _ => .error .invalidOperation

/-- An operator on numbers. -/
def arithmetic (op : String) : Pair → Except TemplateError Datum
  | .ints a b => match op with
    | "+" => ofInt (a + b)
    | "-" => ofInt (a - b)
    | "*" => ofInt (a * b)
    | "/" => .ok (.float ((Binary64.ofInt a).div (.ofInt b)))
    | "//" => if b == 0 then .error .invalidOperation else ofInt (a / b)
    | "%" => if b == 0 then .error .invalidOperation else ofInt (a % b)
    | _ => if b < 0 || b > 127 && a.natAbs > 1 then .error .invalidOperation
      else ofInt (a.pow b.toNat)
  | .floats a b => match op with
    | "+" => .ok (.float (a.add b))
    | "-" => .ok (.float (a.add b.neg))
    | "*" => .ok (.float (a.mul b))
    | "/" => .ok (.float (a.div b))
    | "//" => .ok (.float (wholeQuotient a b))
    | "%" => .ok (.float (remainder a b))
    | _ => .ok (.float (wholePower a (truncated b)))

/-- Whether a value is in a container. -/
def holds (container d : Datum) : Except TemplateError Bool :=
  match container with
  | .undefined => .ok false
  | .text s _ => .ok (d.show.isEmpty || (s.splitOn d.show).length > 1)
  | .list items => .ok (items.any (same · d))
  | .record fields => .ok (fields.any fun (k, _) => same k d)
  | _ => .error .invalidOperation

/-- An operator on two values. -/
def operate (op : String) (a b : Datum) : Except TemplateError Datum :=
  match op with
  | "==" => .ok (.bool (same a b))
  | "!=" => .ok (.bool (!same a b))
  | "<" => .ok (.bool (order a b == .lt))
  | "<=" => .ok (.bool (order a b != .gt))
  | ">" => .ok (.bool (order a b == .gt))
  | ">=" => .ok (.bool (order a b != .lt))
  | "in" => (holds b a).map .bool
  | "~" => .ok (ofString (a.show ++ b.show))
  | op =>
    match op, a, b with
    | "+", .text s _, .text t _ => .ok (ofString (s ++ t))
    | "+", .list xs, .list ys => .ok (.list (xs ++ ys))
    | "*", .text s _, .int n | "*", .int n, .text s _ =>
      if n < 0 || n > 100000 then .error .invalidOperation
      else .ok (ofString (String.join (List.replicate n.toNat s)))
    | op, a, b => match pair? a b with
      | some p => arithmetic op p
      | Option.none => .error .invalidOperation

/-- A place in a row of some length, where a negative one counts from the end. -/
def clampPlace (n : Int) (length : Nat) : Nat :=
  if n < 0 then (n + length).toNat else min n.toNat length

/-- Every item of some steps. -/
def everyNth (step : Nat) (xs : List α) : List α :=
  (xs.zipIdx.filter fun (_, i) => i % step == 0).map (·.1)

/-- The part of a row. -/
def sliceList (xs : List α) (start stop : Option Int) (step : Int) : List α :=
  if step > 0 then
    let first := (start.map (clampPlace · xs.length)).getD 0
    let last := (stop.map (clampPlace · xs.length)).getD xs.length
    everyNth step.toNat ((xs.take last).drop first)
  else
    let length := xs.length
    let behind (n : Int) : Nat := min (clampPlace n length + 1) length
    let first := (start.map behind).getD length
    let last := (stop.map behind).getD 0
    everyNth step.natAbs ((xs.take first).drop last).reverse

/-- A bound of a part: an integer, or none. -/
def bound? : Datum → Except TemplateError (Option Int)
  | .none => .ok Option.none
  | d => match d.int? with
    | some n => .ok (some n)
    | Option.none => .error .invalidOperation

/-- The part of a value. -/
def slice (d start stop step : Datum) : Except TemplateError Datum := do
  let start ← bound? start
  let stop ← bound? stop
  let step := (← bound? step).getD 1
  if step == 0 then .error .invalidOperation
  match d with
  | .text s _ => return ofString (String.ofList (sliceList s.toList start stop step))
  | .list xs => return .list (sliceList xs start stop step)
  | .undefined | .none => return .list []
  | _ => .error .invalidOperation

end Datum

end AssetFlow.Template
