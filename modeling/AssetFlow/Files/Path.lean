/-!
# Paths of files

Paths are texts in which `/` separates the components. Repeated separators, the component `.`
other than at the start, and a separator at the end mean nothing.

## Main definitions

- `Path.join`, `Path.components`
- `Path.fileName?`, `Path.stem`, `Path.extension`, `Path.withExtension`
- `Path.before`: the order of paths, component by component.
-/

namespace AssetFlow.Path

/-- Whether the path starts at the root. -/
def isAbsolute (path : String) : Bool :=
  path.toList.head? == some '/'

/-- The path `inner` as seen from the path `base`. -/
def join (base inner : String) : String :=
  if isAbsolute inner then inner
  else if base.toList.getLast?.all (· == '/') then base ++ inner
  else base ++ "/" ++ inner

/-- A component of a path. -/
inductive Component
  | root | here | up
  | name (s : String)
  deriving DecidableEq, Repr, Inhabited

namespace Component

/-- The rank of a component among the kinds of components. -/
def rank : Component → Nat
  | root => 0
  | here => 1
  | up => 2
  | name _ => 3

/-- The order of components: by kind, and names by their characters. -/
def before (a b : Component) : Bool :=
  match a, b with
  | name s, name t => decide (s < t)
  | a, b => decide (a.rank < b.rank)

/-- The component as it is written. -/
def text : Component → String
  | root => ""
  | here => "."
  | up => ".."
  | name s => s

end Component

/-- The component that a part of a path stands for, if it does not mean nothing. -/
def component? (part : String) : Option Component :=
  if part == "" || part == "." then none
  else if part == ".." then some .up
  else some (.name part)

/-- The components of a path. -/
def components (path : String) : List Component :=
  let parts := (path.toList.splitOn '/').map String.ofList
  let start : List Component :=
    if isAbsolute path then [.root]
    else if parts.head? == some "." then [.here]
    else []
  start ++ parts.filterMap component?

/-- The lexicographic order of component lists. -/
def listBefore : List Component → List Component → Bool
  | [], _ :: _ => true
  | a :: as, b :: bs => if a == b then listBefore as bs else a.before b
  | _, [] => false

/-- The order of paths, component by component. -/
def before (p q : String) : Bool :=
  listBefore (components p) (components q)

/-- The name at the end of a path. -/
def fileName? (path : String) : Option String :=
  match (components path).getLast? with
  | some (.name s) => some s
  | _ => none

/-- A file name cut at its last dot, unless the dot starts it. -/
def cutName (name : String) : String × Option String :=
  let parts := name.toList.splitOn '.'
  if parts.length ≤ 1 then (name, none)
  else
    let stem := ['.'].intercalate parts.dropLast
    if stem.isEmpty then (name, none)
    else (String.ofList stem, parts.getLast?.map String.ofList)

/-- The name at the end of a path without its extension. -/
def stem (path : String) : String :=
  match fileName? path with
  | some name => (cutName name).1
  | none => ""

/-- The extension of a path, if it has one. -/
def extension? (path : String) : Option String := do
  (cutName (← fileName? path)).2

/-- The path without separators at its end. -/
def trimmed (path : String) : String :=
  String.ofList (path.toList.reverse.dropWhile (· == '/')).reverse

/-- The path with another extension. -/
def withExtension (path ext : String) : String :=
  match fileName? path with
  | none => path
  | some name =>
    let bare := trimmed path
    let directory := String.ofList (bare.toList.take (bare.length - name.length))
    let named := directory ++ (cutName name).1
    if ext.isEmpty then named else named ++ "." ++ ext

/-- The path without its last component. -/
def parent? (path : String) : Option String :=
  match fileName? path with
  | none => none
  | some name =>
    let bare := trimmed path
    let directory := String.ofList (bare.toList.take (bare.length - name.length))
    let cut := trimmed directory
    some (if cut.isEmpty && isAbsolute path then "/" else cut)

end AssetFlow.Path
