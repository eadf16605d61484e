import AssetFlow.Document.Yaml.Scalar
import AssetFlow.Document.Yaml.Scanner

/-!
# From tokens to nodes

## Main definitions

- `Yaml.read`: the node that a text denotes, if it is one document of YAML.
-/

namespace AssetFlow.Document.Yaml

/-- What is left to read, and what names stand for. -/
structure Reading where
  tokens : List Token
  /-- The nodes with anchors, latest first. -/
  anchors : List (String × Node) := []
  /-- What the handles of tags stand for. -/
  handles : List (String × String) := []

/-- A step of reading, which may fail. -/
abbrev Read := StateT Reading Option

namespace Read

/-- The next token. -/
def peek : Read Token := do
  return ((← get).tokens.head?).getD .streamEnd

/-- Takes the next token. -/
def skip : Read Unit :=
  modify fun s => { s with tokens := s.tokens.tail }

/-- Takes the token `t` if it comes next. -/
def take (t : Token) : Read Bool := do
  if (← peek) == t then
    skip
    return true
  return false

/-- The node where nothing is written. -/
def empty : Node :=
  scalarNode none "" .plain

/-- What comes before the content of a node. -/
structure Properties where
  anchor : Option String := none
  tag : Option String := none

/-- The full text of a tag. -/
def fullTag (handle suffix : String) : Read String := do
  if handle.isEmpty then return suffix
  match (← get).handles.lookup handle with
  | some lead => return lead ++ suffix
  | none => failure

/-- Takes the anchor and the tag of a node, in either order, each at most once. -/
def properties : Nat → Properties → Read Properties
  | 0, p => return p
  | n + 1, p => do
    match (← peek) with
    | .anchor name =>
      if p.anchor.isSome then return p
      skip
      properties n { p with anchor := some name }
    | .tag handle suffix =>
      if p.tag.isSome then return p
      skip
      let tag ← fullTag handle suffix
      properties n { p with tag := some tag }
    | _ => return p

/-- Gives a node its name. -/
def define (anchor : Option String) (n : Node) : Read Node := do
  if let some name := anchor then
    modify fun s => { s with anchors := (name, n) :: s.anchors }
  return n

/-- A collection with its tag. -/
def withTag (tag : Option String) (n : Node) : Node :=
  match tag.bind ownTag? with
  | some name => .tagged name n
  | none => n

/-- Levels that a document may have. -/
def maxDepth : Nat := 128

mutual

/-- A node. Within a block mapping the entries of a sequence need not be indented. -/
def node : (fuel depth : Nat) → (block unindented : Bool) → Read Node
  | 0, _, _, _ => failure
  | fuel + 1, depth, block, unindented => do
    if let .reference name ← peek then
      skip
      match (← get).anchors.lookup name with
      | some n => return n
      | none => failure
    let p ← properties 2 {}
    let content (n : Node) : Read Node := define p.anchor (withTag p.tag n)
    let tag := if p.tag == some "!" then none else p.tag
    let nothing : Read Node := do
      if p.anchor.isNone && p.tag.isNone then failure
      define p.anchor (scalarNode tag "" .plain)
    let deeper : Read Nat := match depth with
      | 0 => failure
      | d + 1 => return d
    match (← peek) with
    | .scalar text style =>
      skip
      define p.anchor (scalarNode tag text style)
    | .blockEntry =>
      if unindented then content (.list (← unindentedItems fuel (← deeper))) else nothing
    | .flowSequenceStart =>
      skip
      content (.list (← flowItems fuel (← deeper) true))
    | .flowMappingStart =>
      skip
      content (.record (← flowFields fuel (← deeper) true))
    | .blockSequenceStart =>
      if !block then failure
      skip
      content (.list (← blockItems fuel (← deeper)))
    | .blockMappingStart =>
      if !block then failure
      skip
      content (.record (← blockFields fuel (← deeper)))
    | _ => nothing
termination_by structural fuel => fuel

/-- A node, or nothing before one of the tokens `ends`. -/
def nodeBefore : (fuel depth : Nat) → (ends : List Token) → (block unindented : Bool) → Read Node
  | 0, _, _, _, _ => failure
  | fuel + 1, depth, ends, block, unindented => do
    if ends.contains (← peek) then return empty
    node fuel depth block unindented
termination_by structural fuel => fuel

/-- The items of an indented block sequence, up to its end. -/
def blockItems : (fuel depth : Nat) → Read (List Node)
  | 0, _ => failure
  | fuel + 1, depth => do
    if ← take .blockEnd then return []
    if !(← take .blockEntry) then failure
    let n ← nodeBefore fuel depth [.blockEntry, .blockEnd] true false
    return n :: (← blockItems fuel depth)
termination_by structural fuel => fuel

/-- The items of a block sequence that is not indented. -/
def unindentedItems : (fuel depth : Nat) → Read (List Node)
  | 0, _ => failure
  | fuel + 1, depth => do
    if !(← take .blockEntry) then return []
    let n ← nodeBefore fuel depth [.blockEntry, .key, .value, .blockEnd] true false
    return n :: (← unindentedItems fuel depth)
termination_by structural fuel => fuel

/-- The fields of a block mapping, up to its end. -/
def blockFields : (fuel depth : Nat) → Read (List (Node × Node))
  | 0, _ => failure
  | fuel + 1, depth => do
    if ← take .blockEnd then return []
    let ends := [Token.key, .value, .blockEnd]
    if !(← take .key) then failure
    let k ← nodeBefore fuel depth ends true true
    let v ← if ← take .value then nodeBefore fuel depth ends true true else pure empty
    return (k, v) :: (← blockFields fuel depth)
termination_by structural fuel => fuel

/-- The items of a sequence in brackets, up to its end. -/
def flowItems : (fuel depth : Nat) → (first : Bool) → Read (List Node)
  | 0, _, _ => failure
  | fuel + 1, depth, first => do
    if ← take .flowSequenceEnd then return []
    if !first then
      if !(← take .flowEntry) then failure
    if ← take .key then
      let k ← nodeBefore fuel depth [.value, .flowEntry, .flowSequenceEnd] false false
      let v ← if ← take .value then
          nodeBefore fuel depth [.flowEntry, .flowSequenceEnd] false false
        else pure empty
      return .record [(k, v)] :: (← flowItems fuel depth false)
    if ← take .flowSequenceEnd then return []
    let n ← node fuel depth false false
    return n :: (← flowItems fuel depth false)
termination_by structural fuel => fuel

/-- The fields of a mapping in braces, up to its end. -/
def flowFields : (fuel depth : Nat) → (first : Bool) → Read (List (Node × Node))
  | 0, _, _ => failure
  | fuel + 1, depth, first => do
    if ← take .flowMappingEnd then return []
    if !first then
      if !(← take .flowEntry) then failure
    let ends := [Token.flowEntry, .flowMappingEnd]
    if ← take .key then
      let k ← nodeBefore fuel depth (.value :: ends) false false
      let v ← if ← take .value then nodeBefore fuel depth ends false false else pure empty
      return (k, v) :: (← flowFields fuel depth false)
    if ← take .flowMappingEnd then return []
    let k ← node fuel depth false false
    return (k, empty) :: (← flowFields fuel depth false)
termination_by structural fuel => fuel

end

/-- Takes the directives before a document. -/
def directives : Nat → (versioned : Bool) → Read Unit
  | 0, _ => failure
  | n + 1, versioned => do
    match (← peek) with
    | .version major minor =>
      if versioned || major != 1 || (minor != 1 && minor != 2) then failure
      skip
      directives n true
    | .tagDirective handle lead =>
      if ((← get).handles.lookup handle).isSome then failure
      skip
      modify fun s => { s with handles := s.handles ++ [(handle, lead)] }
      directives n versioned
    | _ => return

/-- Takes marks for the end of a document. -/
def documentEnds : Nat → Read Unit
  | 0 => return
  | n + 1 => do
    if ← take .documentEnd then documentEnds n

/-- The only document of a text; a text without a document counts as an empty node. -/
def document : Read Node := do
  let turns := (← get).tokens.length + 1
  let fuel := 4 * turns
  let start ← peek
  if start == .streamEnd then return empty
  if start == .documentEnd then failure
  let implicit := match start with
    | .version .. | .tagDirective .. | .documentStart => false
    | _ => true
  directives turns false
  modify fun s => { s with
    handles := s.handles ++ [("!", "!"), ("!!", coreLead)] }
  if !implicit then
    if !(← take .documentStart) then failure
  let atEnd := match (← peek) with
    | .version .. | .tagDirective .. | .documentStart | .documentEnd | .streamEnd => true
    | _ => false
  let n ← if atEnd then pure empty else node fuel maxDepth true false
  documentEnds turns
  if (← peek) == .streamEnd then return n else failure

end Read

/-- The node that a text denotes, if it is one document of YAML. -/
def read (text : String) : Option Node := do
  let tokens ← scan text
  let (n, _) ← Read.document.run { tokens }
  return n

end AssetFlow.Document.Yaml
