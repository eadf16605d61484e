import AssetFlow.Document.Decimal
import AssetFlow.Document.Value
import AssetFlow.Document.Yaml.Token

/-!
# The values of scalars

A plain scalar has the value that its spelling suggests; every other scalar is a text, unless its
tag says what it is.

## Main definitions

- `resolve`: the value of a plain scalar.
- `scalarNode`: the node of a scalar with its tag.
-/

namespace AssetFlow.Document.Yaml

/-- Whether a spelling consists of digits but starts with a zero that has no meaning. -/
def hasIdleZero (cs : List Char) : Bool :=
  let cs := match cs with
    | '-' :: rest | '+' :: rest => rest
    | cs => cs
  match cs with
  | '0' :: rest => !rest.isEmpty && rest.all Char.isDigit
  | _ => false

/-- The number that a spelling without a sign denotes. -/
def magnitude? (cs : List Char) : Option Nat :=
  match cs with
  | '0' :: 'x' :: rest => natIn? 16 rest
  | '0' :: 'o' :: rest => natIn? 8 rest
  | '0' :: 'b' :: rest => natIn? 2 rest
  | cs => if hasIdleZero cs then none else natIn? 10 cs

/-- The integer that a spelling denotes. -/
def integer? (cs : List Char) : Option Int :=
  match cs with
  | '+' :: rest => if hasIdleZero cs then none else (magnitude? rest).map Int.ofNat
  | '-' :: rest => (magnitude? rest).map fun n => -(Int.ofNat n)
  | cs => (magnitude? cs).map Int.ofNat

/-- The floating point number that a spelling denotes. -/
def float? (s : String) : Option Binary64 :=
  if [".inf", ".Inf", ".INF", "+.inf", "+.Inf", "+.INF"].contains s then some (.infinite false)
  else if ["-.inf", "-.Inf", "-.INF"].contains s then some (.infinite true)
  else if [".nan", ".NaN", ".NAN"].contains s then some .undefined
  else decimal? s

/-- The spellings of null. -/
def nulls : List String := ["null", "Null", "NULL", "~"]

/-- The truth value that a spelling denotes. -/
def bool? (s : String) : Option Bool :=
  if ["true", "True", "TRUE"].contains s then some true
  else if ["false", "False", "FALSE"].contains s then some false
  else none

/-- The value of an integer: one that does not fit 64 bits has none, and one that does not fit 128
bits is no integer. -/
def integerValue? (n : Int) : Option (Option Value) :=
  if -Int.pow 2 63 ≤ n && n < Int.pow 2 64 then some (some (.int n))
  else if -Int.pow 2 127 ≤ n && n < Int.pow 2 128 then some none
  else none

/-- The value of a plain scalar. -/
def resolve (s : String) : Option Value :=
  if s.isEmpty || nulls.contains s then some .null
  else match bool? s with
    | some b => some (.bool b)
    | none =>
      let cs := s.toList
      match (integer? cs).bind integerValue? with
      | some v => v
      | none =>
        match if hasIdleZero cs then none else float? s with
        | some x => some (.float x)
        | none => some (.text s)

/-- What all tags of the notation itself start with. -/
def coreLead : String := "tag:yaml.org,2002:"

/-- The name of a tag of the document's own, if it is one. -/
def ownTag? (tag : String) : Option String :=
  if tag == "!" then some tag
  else if tag.startsWith "!" then some (String.ofList (tag.toList.drop 1))
  else none

/-- The node of a scalar with its tag. -/
def scalarNode (tag : Option String) (text : String) (style : ScalarStyle) : Node :=
  let written := some text
  let untagged : Node :=
    .scalar (if style == .plain then resolve text else some (.text text)) written
  match tag with
  | none => untagged
  | some tag =>
    match ownTag? tag with
    | some name => .tagged name untagged
    | none =>
      let core (kind : String) := tag == coreLead ++ kind
      if core "null" then
        .scalar (if nulls.contains text || text.isEmpty then some .null else none) written
      else if core "bool" then .scalar ((bool? text).map .bool) written
      else if core "int" then
        .scalar ((integer? text.toList).bind fun n => (integerValue? n).join) written
      else if core "float" then .scalar ((float? text).map .float) written
      else .scalar (some (.text text)) written

end AssetFlow.Document.Yaml
