import AssetFlow.Document.Binary64

/-!
# Values of structured documents

What a document says, whatever the notation it is written in: scalars, lists, and records whose
keys are values too. A `Node` is a value as it was found in a document, where a scalar may still be
read as the text it was spelled with.

## Main definitions

- `Value`: the values.
- `Node`: a value as found in a document.
- `Node.value?`: the value of a node, if no key occurs twice.
-/

namespace AssetFlow.Document

/-- A value of a document. -/
inductive Value
  | null
  | bool (b : Bool)
  /-- An integer of 64 bits, with or without a sign. -/
  | int (n : Int)
  | float (x : Binary64)
  | text (s : String)
  | list (items : List Value)
  | record (fields : List (Value × Value))
  | tagged (tag : String) (content : Value)
  deriving BEq, Repr, Inhabited

namespace Value

/-- A record whose keys are texts. -/
def fields (fs : List (String × Value)) : Value :=
  .record (fs.map fun (k, v) => (.text k, v))

/-- A list of texts. -/
def texts (xs : List String) : Value :=
  .list (xs.map .text)

/-- The value, or null. -/
def ofOption (v : Option Value) : Value :=
  v.getD .null

/-- The field of a record, or null. -/
def field (v : Value) (key : String) : Value :=
  match v with
  | .record fs => ofOption (fs.lookup (.text key))
  | _ => .null

end Value

/-- Whether no value occurs twice. -/
def distinct : List Value → Bool
  | [] => true
  | v :: rest => !rest.contains v && distinct rest

/-- A value as found in a document. -/
inductive Node
  /-- A scalar with the value it has, if any, and the text that it can be read as. -/
  | scalar (value : Option Value) (spelling : Option String)
  | list (items : List Node)
  | record (fields : List (Node × Node))
  | tagged (tag : String) (content : Node)
  deriving Repr, Inhabited

mutual

/-- The value of a node; a record must not have a key twice. -/
def Node.value? : Node → Option Value
  | .scalar v _ => v
  | .list items => (nodeValues? items).map .list
  | .record fields => do
    let fs ← fieldValues? fields
    if distinct (fs.map (·.1)) then some (.record fs) else none
  | .tagged tag content => content.value?.map (.tagged tag)
termination_by structural n => n

/-- The values of nodes. -/
def nodeValues? : List Node → Option (List Value)
  | [] => some []
  | n :: rest => do return (← n.value?) :: (← nodeValues? rest)
termination_by structural ns => ns

/-- The keys and values of fields. -/
def fieldValues? : List (Node × Node) → Option (List (Value × Value))
  | [] => some []
  | f :: rest => do return (← fieldValue? f) :: (← fieldValues? rest)
termination_by structural fs => fs

/-- The key and the value of a field. -/
def fieldValue? : Node × Node → Option (Value × Value)
  | (k, v) => do return ((← k.value?), (← v.value?))
termination_by structural f => f

end

mutual

/-- The node of a value: of the scalars only texts can be read as texts. -/
def Value.node : Value → Node
  | .text s => .scalar (some (.text s)) (some s)
  | .list items => .list (valueNodes items)
  | .record fields => .record (fieldNodes fields)
  | .tagged tag content => .tagged tag content.node
  | .null => .scalar (some .null) none
  | .bool b => .scalar (some (.bool b)) none
  | .int n => .scalar (some (.int n)) none
  | .float x => .scalar (some (.float x)) none
termination_by structural v => v

/-- The nodes of values. -/
def valueNodes : List Value → List Node
  | [] => []
  | v :: rest => v.node :: valueNodes rest
termination_by structural vs => vs

/-- The nodes of fields. -/
def fieldNodes : List (Value × Value) → List (Node × Node)
  | [] => []
  | f :: rest => fieldNode f :: fieldNodes rest
termination_by structural fs => fs

/-- The nodes of a field. -/
def fieldNode : Value × Value → Node × Node
  | (k, v) => (k.node, v.node)
termination_by structural f => f

end

end AssetFlow.Document
