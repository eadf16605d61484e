import AssetFlow.Document.Value
import AssetFlow.Text.Quote

/-!
# Values as they are shown to developers

## Main definitions

- `numberText`: the spelling of a number.
- `Value.describe`: a value with the kinds of all its parts.
-/

namespace AssetFlow.Document

/-- The spelling of a floating point number in documents. -/
def floatText : Binary64 → String
  | .infinite true => "-.inf"
  | .infinite false => ".inf"
  | .undefined => ".nan"
  | x => x.spell

mutual

/-- A value with the kinds of all its parts. -/
def Value.describe : Value → String
  | .null => "Null"
  | .bool b => s!"Bool({b})"
  | .int n => s!"Number({n})"
  | .float x => "Number(" ++ floatText x ++ ")"
  | .text s => "String(" ++ Text.quoted s ++ ")"
  | .list items => "Sequence [" ++ ", ".intercalate (describeItems items) ++ "]"
  | .record fields => "Mapping \x7b" ++ ", ".intercalate (describeFields fields) ++ "\x7d"
  | .tagged tag content =>
    let shown := if tag == "!" then tag else "!" ++ tag
    "TaggedValue \x7b tag: " ++ shown ++ ", value: " ++ content.describe ++ " \x7d"
termination_by structural v => v

/-- Values with the kinds of all their parts. -/
def describeItems : List Value → List String
  | [] => []
  | v :: rest => v.describe :: describeItems rest
termination_by structural vs => vs

/-- Fields with the kinds of all their parts. -/
def describeFields : List (Value × Value) → List String
  | [] => []
  | f :: rest => describeField f :: describeFields rest
termination_by structural fs => fs

/-- A field; the kind of a key that is a scalar is not shown. -/
def describeField : Value × Value → String
  | (k, v) =>
    let key := match k with
      | .bool b => toString b
      | .int n => toString n
      | .float x => floatText x
      | .text s => Text.quoted s
      | _ => k.describe
    key ++ ": " ++ v.describe
termination_by structural f => f

end

end AssetFlow.Document
