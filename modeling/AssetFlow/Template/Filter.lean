import AssetFlow.Template.Operator
import AssetFlow.Text.Blank
import AssetFlow.Text.Case
import AssetFlow.Text.Letter

/-!
# Filters and tests of templates

## Main definitions

- `Args`: the arguments of a call.
- `applyTest`: the tests.
- `applyFilter`: the filters.
-/

namespace AssetFlow.Template

open Document (Binary64)

/-- The arguments of a call: by place and by name. -/
structure Args where
  positional : List Datum := []
  named : List (String × Datum) := []
  deriving Repr, Inhabited

namespace Args

/-- Faults if there are more arguments than `most` by place, or one by another name than those. -/
def atMost (a : Args) (most : Nat) (names : List String) : Except TemplateError Unit :=
  if a.positional.length > most || a.named.any fun (n, _) => !names.contains n then
    .error .tooManyArguments
  else .ok ()

/-- An argument by place. -/
def need (a : Args) (i : Nat) : Except TemplateError Datum :=
  match a.positional[i]? with
  | some d => .ok d
  | none => .error .missingArgument

/-- An argument by place or by name, unless it is left out or none. -/
def given? (a : Args) (i : Nat) (name : String) : Option Datum :=
  match (a.positional[i]?).or (a.named.lookup name) with
  | some .none | some .undefined => none
  | d => d

/-- The arguments behind the first one by place. -/
def tail (a : Args) : Args :=
  { a with positional := a.positional.drop 1 }

end Args

/-! ### Tests -/

namespace Test

/-- Whether a text has no letter of another case. -/
def isLower (s : String) : Bool := s == Text.lower s

/-- Whether a text has no letter of another case. -/
def isUpper (s : String) : Bool := s == Text.upper s

/-- A test without arguments. -/
def simple? (name : String) (d : Datum) : Option Bool :=
  match name with
  | "undefined" => some (d == .undefined)
  | "defined" => some (d != .undefined)
  | "none" => some (d == .none)
  | "true" => some (d == .bool true)
  | "false" => some (d == .bool false)
  | "boolean" => some (match d with | .bool _ => true | _ => false)
  | "number" => some (match d with | .int _ | .float _ => true | _ => false)
  | "integer" | "int" => some (match d with | .int _ => true | _ => false)
  | "float" => some (match d with | .float _ => true | _ => false)
  | "string" => some d.text?.isSome
  | "sequence" => some (match d with | .list _ => true | _ => false)
  | "mapping" => some (match d with | .record _ | .space _ => true | _ => false)
  | "iterable" => some d.items?.isSome
  | "safe" | "escaped" => some (match d with | .text _ safe => safe | _ => false)
  | "odd" => some (d.int?.any (· % 2 == 1))
  | "even" => some (d.int?.any (· % 2 == 0))
  | "lower" => some (d.text?.any isLower)
  | "upper" => some (d.text?.any isUpper)
  | _ => none

/-- The operators that tests stand for. -/
def operator? (name : String) : Option String :=
  match name with
  | "eq" | "equalto" => some "=="
  | "ne" => some "!="
  | "lt" | "lessthan" => some "<"
  | "le" => some "<="
  | "gt" | "greaterthan" => some ">"
  | "ge" => some ">="
  | "in" => some "in"
  | _ => none

/-- The names of the tests that are neither simple nor operators. -/
def others : List String :=
  ["startingwith", "endingwith", "sameas", "divisibleby", "filter", "test"]

/-- Whether there is a test of a name. -/
def has (name : String) : Bool :=
  (simple? name .none).isSome || (operator? name).isSome || others.contains name

end Test

/-- The names of the filters. -/
def filterNames : List String :=
  ["upper", "lower", "title", "capitalize", "trim", "replace", "length", "count", "first", "last",
    "join", "default", "d", "abs", "int", "float", "round", "sum", "min", "max", "sort", "reverse",
    "list", "string", "bool", "items", "dictsort", "unique", "map", "select", "reject",
    "selectattr", "rejectattr", "batch", "indent", "split", "lines", "attr", "safe", "escape",
    "e", "pprint", "chain", "zip"]

/-- Whether a value passes a test. -/
def applyTest (name : String) (d : Datum) (a : Args) : Except TemplateError Bool := do
  match Test.simple? name d with
  | some b => a.atMost 0 []; return b
  | none =>
    if !Test.has name then .error .unknownTest
    let other ← a.need 0
    a.atMost 1 []
    match Test.operator? name with
    | some op => return (← Datum.operate op d other).isTrue
    | none => match name with
      | "startingwith" => return d.show.startsWith other.show
      | "endingwith" => return d.show.endsWith other.show
      | "divisibleby" => match d.int?, other.int? with
        | some n, some m => return m != 0 && n % m == 0
        | _, _ => return false
      | "filter" => return filterNames.contains other.show
      | "test" => return Test.has other.show
      | _ => return d == other

/-! ### Filters -/

namespace Filter

/-- The text with special characters of markup written as entities. -/
def escaped (s : String) : String :=
  String.join <| s.toList.map fun c => match c with
    | '<' => "&lt;"
    | '>' => "&gt;"
    | '&' => "&amp;"
    | '"' => "&quot;"
    | '\'' => "&#x27;"
    | '/' => "&#x2f;"
    | c => String.singleton c

/-- Whether a character ends a word of a title. -/
def endsWord (c : Char) : Bool :=
  Text.isBlank c || (c.toNat < 128 && 32 < c.toNat && !c.isAlphanum && c.toNat != 127)

/-- Every word with a capital at its start. -/
def titled (atStart : Bool) : List Char → List Char
  | [] => []
  | c :: rest =>
    if endsWord c then c :: titled true rest
    else (if atStart then Text.upperChar c else Text.lowerChar c) ++ titled false rest

/-- A capital at the start and small letters behind it. -/
def capitalized (s : String) : String :=
  match s.toList with
  | [] => ""
  | c :: rest => String.ofList (Text.upperChar c) ++ Text.lower (String.ofList rest)

/-- The whole number that a value stands for. -/
def toInt (d : Datum) : Except TemplateError Datum :=
  match d with
  | .undefined | .none => .ok (.int 0)
  | .bool b => .ok (.int (if b then 1 else 0))
  | .int n => .ok (.int n)
  | .float x => .ok (.int (Datum.truncated x))
  | .text s _ =>
    let (sign, digits) : Int × List Char := match s.toList with
      | '-' :: rest => (-1, rest)
      | '+' :: rest => (1, rest)
      | cs => (1, cs)
    match if digits.all Char.isDigit then Document.natIn? 10 digits else none with
    | some n => Datum.ofInt (sign * n)
    | none => match Document.decimal? s with
      | some x => .ok (.int (Datum.truncated x))
      | none => .error .invalidOperation
  | _ => .error .invalidOperation

/-- The floating point number that a value stands for. -/
def toFloat (d : Datum) : Except TemplateError Datum :=
  match d with
  | .undefined | .none => .ok (.float (.zero false))
  | .text s _ => match Document.decimal? s with
    | some x => .ok (.float x)
    | none => .error .invalidOperation
  | d => match d.float? with
    | some x => .ok (.float x)
    | none => .error .invalidOperation

/-- The nearest integer; a half goes away from zero. -/
def nearest (x : Binary64) : Binary64 :=
  match x with
  | .finite n s e =>
    let (num, den) := Binary64.scaled s e
    Binary64.ofRatio n ((2 * num + den) / (2 * den)) 1
  | x => x

/-- A number rounded to a number of places. -/
def round (x : Binary64) (places : Int) : Binary64 :=
  let scale := Datum.wholePower (.ofInt 10) places
  (nearest (scale.mul x)).div scale

/-- The items of a row, without those that occur before. -/
def distinct : List Datum → List Datum → List Datum
  | _, [] => []
  | seen, d :: rest =>
    if seen.any (Datum.same d) then distinct seen rest else d :: distinct (d :: seen) rest

/-- The items of a value, or a fault. -/
def items (d : Datum) : Except TemplateError (List Datum) :=
  match d.items? with
  | some xs => .ok xs
  | none => .error .invalidOperation

/-- A field of a value by a path of names with dots. -/
def fieldAt (d : Datum) (path : String) : Except TemplateError Datum :=
  (path.splitOn ".").foldlM (fun d n =>
    Datum.item d (match n.toNat? with | some i => .int i | none => .ofString n)) d

/-- Items in rows of a length; the last row may be filled up. -/
def batches (size : Nat) (fill : Option Datum) : (fuel : Nat) → List Datum → List Datum
  | 0, _ => []
  | fuel + 1, xs =>
    if xs.isEmpty then []
    else
      let row := xs.take size
      let row := match fill with
        | some d => row ++ List.replicate (size - row.length) d
        | none => row
      .list row :: batches size fill fuel (xs.drop size)

/-- The key by which a row is sorted: texts without regard to case. -/
def sortKey (respectsCase : Bool) (d : Datum) : Datum :=
  match d with
  | .text s safe => if respectsCase then d else .text (Text.lower s) safe
  | d => d

/-- A row in the order of a key. -/
def sorted (reverse : Bool) (key : Datum → Datum) (xs : List Datum) : List Datum :=
  xs.mergeSort fun a b =>
    let o := Datum.order (key a) (key b)
    if reverse then o != .lt else o != .gt

/-- The lines of a text. -/
def lines (s : String) : List String :=
  let ls := s.splitOn "\n"
  let ls := if ls.getLast? == some "" then ls.dropLast else ls
  ls.map fun l => if l.endsWith "\r" then String.ofList l.toList.dropLast else l

/-- The parts of a text between blanks. -/
def words (s : String) : List String :=
  let (word, rest) := s.toList.foldr (fun c (word, rest) =>
    if Text.isBlank c then ([], if word.isEmpty then rest else String.ofList word :: rest)
    else (c :: word, rest)) (([] : List Char), ([] : List String))
  if word.isEmpty then rest else String.ofList word :: rest

/-- Parts of a text, of which the last holds all that is left. -/
def splitTimes (s sep : String) (times : Option Int) : List String :=
  let parts := s.splitOn sep
  match times with
  | some n =>
    if 0 ≤ n && n.toNat + 1 < parts.length then
      parts.take n.toNat ++ [sep.intercalate (parts.drop n.toNat)]
    else parts
  | none => parts

/-- A text with its lines moved to the right, but for the first one and for blank ones. -/
def indented (s : String) (width : Nat) (first blank : Bool) : String :=
  let margin := String.ofList (List.replicate width ' ')
  "\n".intercalate <| ((lines s).zipIdx).map fun (l, i) =>
    if (i == 0 && !first) || (l.isEmpty && !blank) then l else margin ++ l

/-- The least or greatest item. -/
def extreme (wanted : Ordering) (xs : List Datum) : Datum :=
  match xs with
  | [] => .undefined
  | x :: rest => rest.foldl (fun best d => if Datum.order d best == wanted then d else best) x

/-- The texts of a row. -/
def texts (xs : List String) : Datum :=
  .list (xs.map Datum.ofString)

/-- A filter that looks at one value only. -/
def simple? (name : String) (d : Datum) : Option (Except TemplateError Datum) :=
  let text (f : String → String) := some (Except.ok (Datum.ofString (f d.show)))
  let list (f : List Datum → Datum) := some ((items d).map f)
  match name with
  | "upper" => text Text.upper
  | "lower" => text Text.lower
  | "title" => text fun s => String.ofList (titled true s.toList)
  | "capitalize" => text capitalized
  | "length" | "count" => some <| match d.length? with
    | some n => .ok (.int n)
    | none => .error .invalidOperation
  | "first" => list fun xs => xs.head?.getD .undefined
  | "last" => list fun xs => xs.getLast?.getD .undefined
  | "abs" => some <| match d with
    | .int n => Datum.ofInt n.natAbs
    | .float x => .ok (.float (if x.isNegative then x.neg else x))
    | _ => .error .invalidOperation
  | "int" => some (toInt d)
  | "float" => some (toFloat d)
  | "sum" => some do (← items d).foldlM (Datum.operate "+") (.int 0)
  | "min" => list (extreme .lt)
  | "max" => list (extreme .gt)
  | "reverse" => match d with
    | .text s _ => text fun _ => String.ofList s.toList.reverse
    | _ => list fun xs => .list xs.reverse
  | "list" => list .list
  | "string" => some (.ok (match d with | .text .. => d | d => .ofString d.show))
  | "bool" => some (.ok (.bool d.isTrue))
  | "items" => some <| match d with
    | .record fs => .ok (.list (fs.map fun (k, v) => .list [k, v]))
    | _ => .error .invalidOperation
  | "unique" => list fun xs => .list (distinct [] xs)
  | "lines" => some (.ok (texts (lines d.show)))
  | "safe" => some (.ok (.text d.show true))
  | "escape" | "e" => some (.ok (match d with
    | .text _ true => d
    | d => .text (escaped d.show) true))
  | "pprint" => some (.ok (.ofString d.inside))
  | _ => none

/-- A filter with arguments. -/
def withArgs? (name : String) (d : Datum) (a : Args) : Option (Except TemplateError Datum) :=
  match name with
  | "trim" => some do
    a.atMost 1 []
    match a.given? 0 "" with
    | none => return .ofString (Text.trim d.show)
    | some chars =>
      let isOut (c : Char) := chars.show.toList.contains c
      return .ofString (String.ofList
        ((d.show.toList.dropWhile isOut).reverse.dropWhile isOut).reverse)
  | "replace" => some do
    a.atMost 2 []
    return .ofString (d.show.replace (← a.need 0).show (← a.need 1).show)
  | "join" => some do
    a.atMost 1 []
    let sep := ((a.given? 0 "").map Datum.show).getD ""
    return .ofString (sep.intercalate ((← items d).map Datum.show))
  | "default" | "d" => some do
    a.atMost 2 ["boolean"]
    let other := (a.positional[0]?).getD (.ofString "")
    let alsoFalse := ((a.given? 1 "boolean").map Datum.isTrue).getD false
    return if d == .undefined || (alsoFalse && !d.isTrue) then other else d
  | "round" => some do
    a.atMost 1 ["precision"]
    let places := ((a.given? 0 "precision").bind Datum.int?).getD 0
    match d with
    | .int _ => return d
    | .float x => return .float (round x places)
    | _ => .error .invalidOperation
  | "sort" => some do
    a.atMost 0 ["reverse", "case_sensitive", "attribute"]
    let flag (n : String) := ((a.named.lookup n).map Datum.isTrue).getD false
    let key (x : Datum) : Datum := match a.named.lookup "attribute" with
      | some p => (fieldAt x p.show).toOption.getD .undefined
      | none => x
    return .list (sorted (flag "reverse") (sortKey (flag "case_sensitive") ∘ key) (← items d))
  | "dictsort" => some do
    a.atMost 0 ["by", "reverse", "case_sensitive"]
    let flag (n : String) := ((a.named.lookup n).map Datum.isTrue).getD false
    let place : Int := if (a.named.lookup "by").any (·.show == "value") then 1 else 0
    let key (x : Datum) : Datum :=
      sortKey (flag "case_sensitive") ((Datum.item x (.int place)).toOption.getD .undefined)
    match d with
    | .record fs => return .list (sorted (flag "reverse") key (fs.map fun (k, v) => .list [k, v]))
    | _ => .error .invalidOperation
  | "batch" => some do
    a.atMost 2 []
    match (← a.need 0).int? with
    | some n =>
      if n ≤ 0 then .error .invalidOperation
      let xs ← items d
      return .list (batches n.toNat (a.given? 1 "") xs.length xs)
    | none => .error .invalidOperation
  | "split" => some do
    a.atMost 2 []
    let times := (a.given? 1 "").bind Datum.int?
    return texts <| match a.given? 0 "" with
      | none => words d.show
      | some sep => splitTimes d.show sep.show times
  | "indent" => some do
    a.atMost 3 []
    let flag (i : Nat) := ((a.given? i "").map Datum.isTrue).getD false
    match (← a.need 0).int? with
    | some n => return .ofString (indented d.show n.toNat (flag 1) (flag 2))
    | none => .error .invalidOperation
  | "attr" => some do
    a.atMost 1 []
    d.item (← a.need 0)
  | "chain" => some do
    return .list ((← items d) ++ (← a.positional.mapM items).flatten)
  | "zip" => some do
    let rows ← (d :: a.positional).mapM items
    let shortest := (rows.map List.length).min?.getD 0
    return .list ((List.range shortest).map fun i => .list (rows.map fun r => (r[i]?).getD .none))
  | _ => none

/-- A filter that applies no other filter. -/
def basic (name : String) (d : Datum) (a : Args) : Except TemplateError Datum :=
  match withArgs? name d a with
  | some r => r
  | none => match simple? name d with
    | some r => do a.atMost 0 []; r
    | none => .error .unknownFilter

/-- The items that pass a test, or that do not. -/
def chosen (wanted : Bool) (look : Datum → Except TemplateError Datum) (a : Args)
    (xs : List Datum) : Except TemplateError Datum := do
  let passes (x : Datum) : Except TemplateError Bool := do
    let v ← look x
    match a.positional with
    | [] => return v.isTrue
    | test :: args => applyTest test.show v { positional := args }
  return .list (← xs.filterM fun x => do return (← passes x) == wanted)

end Filter

/-- The value of a filter. -/
def applyFilter (name : String) (d : Datum) (a : Args) : Except TemplateError Datum := do
  let choose (wanted byField : Bool) : Except TemplateError Datum := do
    let xs ← Filter.items d
    if byField then
      let path := (← a.need 0).show
      Filter.chosen wanted (Filter.fieldAt · path) a.tail xs
    else Filter.chosen wanted (.ok ·) a xs
  match name with
  | "select" => choose true false
  | "reject" => choose false false
  | "selectattr" => choose true true
  | "rejectattr" => choose false true
  | "map" =>
    let xs ← Filter.items d
    match a.named.lookup "attribute" with
    | some path =>
      return .list (← xs.mapM fun x => do
        let v ← Filter.fieldAt x path.show
        return if v == .undefined then (a.named.lookup "default").getD v else v)
    | none =>
      let inner ← a.need 0
      return .list (← xs.mapM fun x => Filter.basic inner.show x a.tail)
  | name => Filter.basic name d a

end AssetFlow.Template
