import AssetFlow.Document.Decimal
import AssetFlow.Text.Quote

/-!
# Values of templates

What the expressions of a template evaluate to, how such values are shown, and how they compare.

## Main definitions

- `Datum`: the values.
- `Datum.show`: a value as it appears in the text.
- `Datum.compare`: the order of all values.
- `TemplateError`: why a template cannot be rendered.
-/

namespace AssetFlow.Template

open Document (Binary64)

/-- Why a template cannot be rendered. -/
inductive TemplateError
  | syntaxFault
  | badEscape
  | undefinedValue
  | unknownFilter
  | unknownTest
  | unknownFunction
  | unknownMethod
  | invalidOperation
  | templateNotFound
  | missingArgument
  | tooManyArguments
  | cannotUnpack
  deriving DecidableEq, Repr, Inhabited

/-- The wording of an error. -/
def TemplateError.message : TemplateError → String
  | syntaxFault => "syntax error"
  | badEscape => "bad string escape"
  | undefinedValue => "undefined value"
  | unknownFilter => "unknown filter"
  | unknownTest => "unknown test"
  | unknownFunction => "unknown function"
  | unknownMethod => "unknown method"
  | invalidOperation => "invalid operation"
  | templateNotFound => "template not found"
  | missingArgument => "missing argument"
  | tooManyArguments => "too many arguments"
  | cannotUnpack => "cannot unpack"

/-- A value of a template. -/
inductive Datum
  | undefined
  | none
  | bool (b : Bool)
  | int (n : Int)
  | float (x : Binary64)
  /-- A text; a safe one is not escaped any more. -/
  | text (s : String) (safe : Bool)
  | list (items : List Datum)
  /-- A record, in the order of its keys. -/
  | record (fields : List (Datum × Datum))
  /-- A function that templates can call. -/
  | builtin (name : String)
  /-- A macro, by its number. -/
  | macroRef (name : String) (id : Nat)
  /-- A place for variables that can be changed, by its number. -/
  | space (id : Nat)
  /-- The state of a loop: the number of the round, the number of rounds, the depth, and the items
  before and after. -/
  | loop (index length depth : Nat) (before after : Datum)
  deriving BEq, Repr, Inhabited

namespace Datum

/-- A text that may need to be escaped. -/
def ofString (s : String) : Datum :=
  .text s false

/-- The name of a truth value. -/
def boolName (b : Bool) : String :=
  if b then "True" else "False"

/-- A floating point number with a point in it. -/
def floatName (x : Binary64) : String :=
  let s := x.spellPlain
  if x.isFinite && !s.contains '.' then s ++ ".0" else s

mutual

/-- A value as it appears within another one. -/
def inside : Datum → String
  | .undefined => "undefined"
  | .none => "None"
  | .bool b => boolName b
  | .int n => toString n
  | .float x => floatName x
  | .text s _ => Text.quoted s
  | .list items => "[" ++ ", ".intercalate (insideAll items) ++ "]"
  | .record fields => "\x7b" ++ ", ".intercalate (insideFields fields) ++ "\x7d"
  | .builtin name => name
  | .macroRef name _ => s!"<macro {name}>"
  | .space _ => "\x7b\x7d"
  | .loop index length _ _ _ => s!"<loop {index}/{length}>"
termination_by structural d => d

/-- Values as they appear within another one. -/
def insideAll : List Datum → List String
  | [] => []
  | d :: rest => inside d :: insideAll rest
termination_by structural ds => ds

/-- Fields as they appear in a record. -/
def insideFields : List (Datum × Datum) → List String
  | [] => []
  | f :: rest => insideField f :: insideFields rest
termination_by structural fs => fs

/-- A field as it appears in a record. -/
def insideField : Datum × Datum → String
  | (k, v) => inside k ++ ": " ++ inside v
termination_by structural f => f

end

/-- A value as it appears in the text. -/
def «show» : Datum → String
  | .undefined => ""
  | .text s _ => s
  | d => inside d

/-- Whether a value counts as true. -/
def isTrue : Datum → Bool
  | .undefined | .none => false
  | .bool b => b
  | .int n => n != 0
  | .float x => x != .zero false && x != .zero true
  | .text s _ => !s.isEmpty
  | .list items => !items.isEmpty
  | .record fields => !fields.isEmpty
  | _ => true

/-- The text that a value is. -/
def text? : Datum → Option String
  | .text s _ => some s
  | _ => Option.none

/-- The integer that a value counts as. -/
def int? : Datum → Option Int
  | .int n => some n
  | .bool b => some (if b then 1 else 0)
  | .float x =>
    let n := x.scaledToInt 1
    if x.isFinite && (Binary64.ofInt n == x || n == 0 && !isTrue (.float x)) then some n
    else Option.none
  | _ => Option.none

/-- The floating point number that a value counts as. -/
def float? : Datum → Option Binary64
  | .int n => some (.ofInt n)
  | .bool b => some (.ofInt (if b then 1 else 0))
  | .float x => some x
  | _ => Option.none

/-- Two values as numbers of one kind. -/
inductive Pair
  | ints (a b : Int)
  | floats (a b : Binary64)
  deriving Repr

/-- Two values as numbers of one kind, if they are numbers. -/
def pair? : Datum → Datum → Option Pair
  | .float x, d => d.float?.map (.floats x)
  | d, .float y => d.float?.map (.floats · y)
  | a, b => do return .ints (← a.int?) (← b.int?)

/-- The rank of a value among the kinds of values. -/
def rank : Datum → Nat
  | .undefined => 0
  | .none => 1
  | .bool _ => 2
  | .int _ | .float _ => 3
  | .text .. => 4
  | .list _ => 5
  | .record _ | .space _ => 6
  | _ => 7

/-- The order of numbers. -/
def comparePair : Pair → Ordering
  | .ints a b => Ord.compare a b
  | .floats a b => if a.less b then .lt else if b.less a then .gt else .eq

mutual

/-- The order of all values: by kind, but numbers of all kinds by their size. -/
def compare : (fuel : Nat) → Datum → Datum → Ordering
  | 0, _, _ => .eq
  | fuel + 1, a, b =>
    match a, b with
    | .text s _, .text t _ => Ord.compare s t
    | .list xs, .list ys => compareAll fuel xs ys
    | .record fs, .record gs =>
      compareAll fuel (fs.flatMap fun f => [f.1, f.2]) (gs.flatMap fun f => [f.1, f.2])
    | a, b =>
      match pair? a b with
      | some p => comparePair p
      | Option.none => Ord.compare a.rank b.rank

/-- The order of rows of values. -/
def compareAll : (fuel : Nat) → List Datum → List Datum → Ordering
  | 0, _, _ => .eq
  | _ + 1, [], [] => .eq
  | _ + 1, [], _ :: _ => .lt
  | _ + 1, _ :: _, [] => .gt
  | fuel + 1, a :: as, b :: bs => (compare fuel a b).then (compareAll fuel as bs)

end

/-- How deep values are compared. -/
def compareDepth : Nat := 100000

/-- The order of two values. -/
def order (a b : Datum) : Ordering :=
  compare compareDepth a b

/-- Whether two values are equal. -/
def same (a b : Datum) : Bool :=
  match a, b with
  | .float .undefined, _ | _, .float .undefined => false
  | a, b =>
    order a b == .eq && (a.rank == b.rank || (pair? a b).isSome) && (a.rank < 7 || a == b)

/-- Puts a field into the fields of a record, in place of one with the same key. -/
def insertField (key value : Datum) : List (Datum × Datum) → List (Datum × Datum)
  | [] => [(key, value)]
  | (k, v) :: rest => match order key k with
    | .lt => (key, value) :: (k, v) :: rest
    | .eq => (k, value) :: rest
    | .gt => (k, v) :: insertField key value rest

/-- The record of some fields, where the last of several with the same key counts. -/
def ofFields (fields : List (Datum × Datum)) : Datum :=
  .record (fields.foldl (fun fs (k, v) => insertField k v fs) [])

/-- The value of a field. -/
def fieldOf? (fields : List (Datum × Datum)) (key : Datum) : Option Datum :=
  (fields.find? fun (k, _) => same k key).map (·.2)

/-- The place that an index stands for; a negative one counts from the end. -/
def placeOf? (index : Int) (length : Nat) : Option Nat :=
  if index < 0 then
    if index.natAbs ≤ length then some (length - index.natAbs) else Option.none
  else some index.toNat

/-- The characters of a text as texts. -/
def charItems (s : String) : List Datum :=
  s.toList.map fun c => ofString (String.singleton c)

/-- The items that a loop over a value goes through. -/
def items? : Datum → Option (List Datum)
  | .undefined | .none => some []
  | .text s _ => some (charItems s)
  | .list items => some items
  | .record fields => some (fields.map (·.1))
  | _ => Option.none

/-- The number of items of a value. -/
def length? : Datum → Option Nat
  | .text s _ => some s.length
  | .list items => some items.length
  | .record fields => some fields.length
  | _ => Option.none

/-- What a loop knows of itself. -/
def loopField (index length depth : Nat) (before after : Datum) (name : String) : Datum :=
  match name with
  | "index" => .int (index + 1)
  | "index0" => .int index
  | "length" => .int length
  | "first" => .bool (index == 0)
  | "last" => .bool (index + 1 == length)
  | "revindex" => .int (length - index)
  | "revindex0" => .int (length - index - 1)
  | "depth" => .int (depth + 1)
  | "depth0" => .int depth
  | "previtem" => before
  | "nextitem" => after
  | _ => .undefined

/-- The item of a value with a key or index; spaces are looked up elsewhere. -/
def item (d key : Datum) : Except TemplateError Datum :=
  let at? (items : List Datum) : Datum :=
    ((key.int?.bind (placeOf? · items.length)).bind (items[·]?)).getD .undefined
  match d with
  | .undefined => .error .undefinedValue
  | .text s _ => .ok (at? (charItems s))
  | .list items => .ok (at? items)
  | .record fields => .ok ((fieldOf? fields key).getD .undefined)
  | .loop i n dep b a => .ok ((key.text?.map (loopField i n dep b a)).getD .undefined)
  | _ => .ok .undefined

end Datum

end AssetFlow.Template
