import AssetFlow.Files.Path

/-!
# Trees of files

A file system as a value: folders and files by their places. A place is the row of names that lead
to it from the root, which is a folder.

## Main definitions

- `Tree`: the folders and files.
- `Tree.read?`, `Tree.names`, `Tree.isFile`, `Tree.isFolder`: looking.
- `Tree.write`, `Tree.makeFolders`, `Tree.rename`, `Tree.remove`: changing.
-/

namespace AssetFlow

/-- Something in a tree of files. -/
inductive FileEntry
  | folder
  | file (bytes : ByteArray)

/-- Two entries are compared by their bytes. -/
def FileEntry.decEq : (a b : FileEntry) → Decidable (a = b)
  | .folder, .folder => isTrue rfl
  | .folder, .file _ => isFalse nofun
  | .file _, .folder => isFalse nofun
  | .file x, .file y =>
    match ByteArray.decEq x y with
    | isTrue h => isTrue (congrArg file h)
    | isFalse h => isFalse fun e => h (file.inj e)

instance : DecidableEq FileEntry := FileEntry.decEq

/-- A place in a tree of files. -/
abbrev Place := List String

/-- A tree of files: the entries by place, each place once. -/
structure Tree where
  entries : List (Place × FileEntry) := []
  deriving DecidableEq

namespace Tree

/-- The place that a component leads to from a place. -/
def follow (p : Place) : Path.Component → Place
  | .name s => p ++ [s]
  | .up => p.dropLast
  | .root | .here => p

/-- The place of a path; components that lead up are resolved. -/
def place (path : String) : Place :=
  (Path.components path).foldl follow []

/-- What is at a place. -/
def entryAt? (t : Tree) (p : Place) : Option FileEntry :=
  if p.isEmpty then some .folder else t.entries.lookup p

/-- What is at a path. -/
def entry? (t : Tree) (path : String) : Option FileEntry :=
  t.entryAt? (place path)

/-- Whether there is a file at a path. -/
def isFile (t : Tree) (path : String) : Bool :=
  match t.entry? path with
  | some (.file _) => true
  | _ => false

/-- Whether there is a folder at a path. -/
def isFolder (t : Tree) (path : String) : Bool :=
  t.entry? path == some .folder

/-- Whether there is anything at a path. -/
def has (t : Tree) (path : String) : Bool :=
  (t.entry? path).isSome

/-- The bytes of a file. -/
def bytes? (t : Tree) (path : String) : Option ByteArray :=
  match t.entry? path with
  | some (.file bytes) => some bytes
  | _ => none

/-- The text of a file, if it is text. -/
def read? (t : Tree) (path : String) : Option String := do
  String.fromUTF8? (← t.bytes? path)

/-- The names in a folder. -/
def names (t : Tree) (path : String) : List String :=
  let p := place path
  t.entries.filterMap fun (q, _) => if q.dropLast == p then q.getLast? else none

/-- Puts an entry at a place. -/
def put (t : Tree) (p : Place) (e : FileEntry) : Tree :=
  ⟨(p, e) :: t.entries.filter (·.1 != p)⟩

/-- Makes a folder at a place, unless there is a file. -/
def makeFolderAt (t : Tree) (p : Place) : Option Tree :=
  match t.entryAt? p with
  | some .folder => some t
  | some (.file _) => none
  | none => some (t.put p .folder)

/-- Makes a folder and the folders that lead to it, unless a file is in the way. -/
def makeFolders (t : Tree) (path : String) : Option Tree :=
  let p := place path
  (List.range p.length).foldlM (fun t i => t.makeFolderAt (p.take (i + 1))) t

/-- Writes a file in a folder that is there. -/
def write (t : Tree) (path : String) (bytes : ByteArray) : Option Tree :=
  let p := place path
  if t.entryAt? p == some .folder then none
  else if t.entryAt? p.dropLast == some .folder then some (t.put p (.file bytes))
  else none

/-- Moves a file to another path, in place of a file there. -/
def rename (t : Tree) (source target : String) : Option Tree :=
  match t.entry? source with
  | some (.file bytes) =>
    if t.isFolder target then none
    else some (Tree.put ⟨t.entries.filter (·.1 != place source)⟩ (place target) (.file bytes))
  | _ => none

/-- Removes what is at a path, with all that it holds. -/
def remove (t : Tree) (path : String) : Tree :=
  let p := place path
  ⟨t.entries.filter fun (q, _) => q.take p.length != p⟩

end Tree

end AssetFlow
