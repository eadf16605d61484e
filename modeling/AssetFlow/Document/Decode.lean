import AssetFlow.Document.Value

/-!
# Reading documents into types

Readers take a node and answer nothing if it has not the shape they expect. An empty node of a
notation that knows such nodes counts as an empty list and as an empty record, but an explicit null
does not.

## Main definitions

- `Node.text?`, `Node.bool?`, `Node.int?`, `Node.list?`: scalars and lists.
- `Node.fields?`: the fields of a record with known keys.
- `Fields.required`, `Fields.withDefault`, `Fields.optional`: single fields.
-/

namespace AssetFlow.Document

namespace Node

/-- The text that a scalar can be read as. -/
def text? : Node → Option String
  | .scalar _ spelling => spelling
  | .tagged _ (.scalar _ spelling) => spelling
  | _ => none

/-- The truth value of a scalar. -/
def bool? : Node → Option Bool
  | .scalar (some (.bool b)) _ => some b
  | .tagged _ (.scalar (some (.bool b)) _) => some b
  | _ => none

/-- The integer that a scalar is. -/
def int? : Node → Option Int
  | .scalar (some (.int n)) _ => some n
  | .tagged _ (.scalar (some (.int n)) _) => some n
  | _ => none

/-- The integer of 64 bits with a sign that a scalar is. -/
def signed? (n : Node) : Option Int := do
  let i ← n.int?
  if -Int.pow 2 63 ≤ i && i < Int.pow 2 63 then some i else none

/-- The integer of 64 bits without a sign that a scalar is. -/
def unsigned? (n : Node) : Option Nat := do
  let i ← n.int?
  if 0 ≤ i && i < Int.pow 2 64 then some i.toNat else none

/-- Whether the node stands for the absence of a value. -/
def isNull : Node → Bool
  | .scalar (some .null) _ => true
  | _ => false

/-- Whether nothing is written where the node stands. -/
def isEmpty : Node → Bool
  | .scalar (some .null) (some "") => true
  | _ => false

/-- The items of a list. -/
def items? : Node → Option (List Node)
  | .list items => some items
  | .tagged _ (.list items) => some items
  | n => if n.isEmpty then some [] else none

/-- A list whose items `read` reads. -/
def list? (read : Node → Option α) (n : Node) : Option (List α) := do
  (← n.items?).mapM read

/-- The name of a choice without content. -/
def choice? : Node → Option String
  | .scalar _ spelling => spelling
  | .tagged tag content => if content.isNull then some tag else none
  | .record [(k, v)] => if v.isNull && k.text?.isSome then k.text? else none
  | _ => none

end Node

/-- The fields of a record by key. -/
abbrev Fields := List (String × Node)

namespace Node

/-- The fields of a node by key. -/
def entries? : Node → Option (List (Node × Node))
  | .record fields => some fields
  | .tagged _ (.record fields) => some fields
  | n => if n.isEmpty then some [] else none

/-- The fields of a record with the keys `known`, none of which may occur twice. Other keys are
ignored, unless the record is `closed`. -/
def fields? (known : List String) (closed : Bool) (n : Node) : Option Fields := do
  let fields ← (← n.entries?).mapM fun (k, v) => return ((← k.text?), v)
  let (expected, others) := fields.partition fun (k, _) => known.contains k
  if closed && !others.isEmpty then none
  else if known.all fun k => (expected.filter (·.1 == k)).length ≤ 1 then some expected
  else none

end Node

namespace Fields

/-- A field that must be there. -/
def required (fs : Fields) (key : String) (read : Node → Option α) : Option α := do
  read (← fs.lookup key)

/-- A field with a value for when it is not there. -/
def withDefault (fs : Fields) (key : String) (default : α) (read : Node → Option α) : Option α :=
  match fs.lookup key with
  | some n => read n
  | none => some default

/-- A field that may be left out or null. -/
def optional (fs : Fields) (key : String) (read : Node → Option α) : Option (Option α) :=
  match fs.lookup key with
  | some n => if n.isNull then some none else (read n).map some
  | none => some none

end Fields

end AssetFlow.Document
