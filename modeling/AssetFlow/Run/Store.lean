import AssetFlow.Files.Tree
import AssetFlow.Run.State

/-!
# Where run states are kept

The states of the runs of a pipeline are files of one folder, named by when the run started, so
that the latest run is the one with the greatest file name.

## Main definitions

- `Store`: the folder.
- `Store.runPath`: the file of a run.
- `Store.latest?`, `Store.loadLatest`: the file and the state of the latest run.
- `RunState.saveSteps`: the changes of the file system that save a state.
-/

namespace AssetFlow

/-- The folder of the run states of a pipeline. -/
structure Store where
  folder : String
  deriving DecidableEq, Repr

namespace Store

/-- The folder of the run states of a pipeline in a folder. -/
def ofPipeline (root name : String) : Store :=
  ⟨Path.join (Path.join (Path.join root "logs") "runs") name⟩

/-- The file of a run. -/
def runPath (s : Store) (startedAt : Moment) : String :=
  Path.join s.folder (startedAt.fileStamp ++ ".json")

/-- The greatest of the names whose extension is that of states. -/
def latestName (names : List String) : Option String :=
  (names.filter fun n => Path.extension? n == some "json").foldl
    (fun best n => match best with
      | some b => if b < n then some n else some b
      | none => some n)
    none

/-- The file of the latest run. -/
def latest? (s : Store) (t : Tree) : Except CoreError (Option String) :=
  if !t.has s.folder then .ok none
  else if !t.isFolder s.folder then .error .fileFault
  else .ok ((latestName (t.names s.folder)).map (Path.join s.folder))

end Store

namespace RunState

/-- The state that a file holds. -/
def load (t : Tree) (path : String) : Except CoreError RunState :=
  match t.read? path with
  | none => .error (.fileFaultAt path)
  | some text =>
    match ofText? text with
    | some s => .ok s
    | none => .error .documentFault

/-- A change of the file system that saving a state makes. -/
inductive SaveStep
  | makeFolders (path : String)
  | write (path text : String)
  | rename (source target : String)
  deriving DecidableEq, Repr

/-- Makes one change. -/
def SaveStep.apply (t : Tree) : SaveStep → Option Tree
  | makeFolders path => t.makeFolders path
  | write path text => t.write path text.toUTF8
  | rename source target => t.rename source target

/-- The changes that save a state. The text is written beside the file first, so that the file
never holds a part of it. -/
def saveSteps (s : RunState) (path : String) : List SaveStep :=
  let beside := Path.withExtension path "json.tmp"
  (match Path.parent? path with
    | some folder => [SaveStep.makeFolders folder]
    | none => []) ++
  [.write beside s.text, .rename beside path]

/-- Saves a state. -/
def save (s : RunState) (t : Tree) (path : String) : Except CoreError Tree :=
  match (s.saveSteps path).foldlM SaveStep.apply t with
  | some t => .ok t
  | none => .error .fileFault

end RunState

/-- The state of the latest run. -/
def Store.loadLatest (s : Store) (t : Tree) : Except CoreError (Option RunState) := do
  match ← s.latest? t with
  | some path => return some (← RunState.load t path)
  | none => return none

end AssetFlow
