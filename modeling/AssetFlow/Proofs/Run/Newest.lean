import AssetFlow.Proofs.Calendar.Order
import AssetFlow.Proofs.Files.Folder
import AssetFlow.Proofs.Run.Store
import AssetFlow.Run.Runner

/-!
# The newest run is the one that is continued

The states of runs are files of one folder. Saving a state adds the file of its run to those that
are there and nothing else that counts as a state, as the text is written beside it under a name of
another kind. So after any history the files of states are those of the runs that were saved, and
the one with the greatest name is that of the latest run, in whichever order the folder names them.

## Main definitions

- `Store.SameStates`: two trees have the same files of states
- `Store.Holds`: the files of states are those of given runs
- `Store.Saved`: the trees that saving runs leads to

## Main statements

- `Store.latestName_eq_some`: the greatest name is found, in any order
- `Store.Holds.save`, `Store.Saved.holds`: one save, and all of them
- `Store.newest_run_is_continued`: the latest run is found
-/

namespace AssetFlow

variable {m : Moment} {t t' : Tree}

namespace Store

variable {store : Store} {starts : List Moment} {names : List String} {name : String}

/-! ### The greatest name -/

/-- Of two names the greater, or the one that there is. -/
def laterName (best : Option String) (name : String) : Option String :=
  match best with
  | some b => if b < name then some name else some b
  | none => some name

/-- The latest name is looked for among the names of state files. -/
theorem latestName_eq (names : List String) : latestName names =
    (names.filter fun n => Path.extension? n == some "json").foldl laterName none :=
  rfl

/-- The later of names, one after the other, is a greatest one. -/
theorem foldl_laterName (names : List String) (b : String) :
    ∃ r, names.foldl laterName (some b) = some r ∧ r ∈ b :: names ∧
      ∀ n ∈ b :: names, ¬ r < n := by
  induction names generalizing b with
  | nil =>
    refine ⟨b, rfl, List.mem_singleton_self b, fun n hn => ?_⟩
    obtain rfl := List.mem_singleton.mp hn
    exact String.lt_irrefl n
  | cons name names ih =>
    by_cases hlt : b < name
    · obtain ⟨r, hr, hmem, hgreatest⟩ := ih name
      refine ⟨r, ?_, List.mem_cons_of_mem b hmem, List.forall_mem_cons.mpr ⟨?_, hgreatest⟩⟩
      · rw [List.foldl_cons, laterName, if_pos hlt, hr]
      · exact fun hrb => hgreatest name (List.mem_cons_self ..) (String.lt_trans hrb hlt)
    · obtain ⟨r, hr, hmem, hgreatest⟩ := ih b
      obtain ⟨hrb, hrest⟩ := List.forall_mem_cons.mp hgreatest
      refine ⟨r, ?_, ?_, List.forall_mem_cons.mpr ⟨hrb, List.forall_mem_cons.mpr ⟨?_, hrest⟩⟩⟩
      · rw [List.foldl_cons, laterName, if_neg hlt, hr]
      · rcases List.mem_cons.mp hmem with rfl | hmem
        · exact List.mem_cons_self ..
        · exact List.mem_cons_of_mem b (List.mem_cons_of_mem name hmem)
      · have hname : name ≤ b := String.not_lt.mp hlt
        exact String.not_lt.mpr (String.le_trans hname (String.not_lt.mp hrb))

/-- **The greatest name of a state** is found, in whichever order the names are given. -/
theorem latestName_eq_some (hmem : name ∈ names) (hname : Path.extension? name = some "json")
    (hgreatest : ∀ n ∈ names, Path.extension? n = some "json" → ¬ name < n) :
    latestName names = some name := by
  have hkept : ∀ n, n ∈ names.filter (fun n => Path.extension? n == some "json") ↔
      n ∈ names ∧ Path.extension? n = some "json" := by
    simp
  have hin := (hkept name).mpr ⟨hmem, hname⟩
  rw [latestName_eq]
  cases hlist : names.filter fun n => Path.extension? n == some "json" with
  | nil =>
    rw [hlist] at hin
    cases hin
  | cons b rest =>
    obtain ⟨r, hr, hrmem, hrgreatest⟩ := foldl_laterName rest b
    rw [hlist] at hkept hin
    obtain ⟨hrnames, hrext⟩ := (hkept r).mp hrmem
    have hrname : r ≤ name := String.not_lt.mp (hgreatest r hrnames hrext)
    have hnamer : name ≤ r := String.not_lt.mp (hrgreatest name hin)
    rw [String.le_antisymm hnamer hrname]
    exact hr

/-! ### The file of a run -/

/-- The name of the file of a run. -/
def fileName (m : Moment) : String :=
  m.fileStamp ++ "." ++ "json"

/-- The file of a run stands in the folder of the store. -/
theorem runPath_eq (store : Store) (m : Moment) :
    store.runPath m = Path.join store.folder (fileName m) := by
  rw [runPath, fileName, String.append_assoc]
  rfl

/-- The name of the file of a run is a single name. -/
theorem isName_fileName (m : Moment) : Path.IsName (fileName m) :=
  Path.isName_append m.no_separator_fileStamp m.fileStamp_ne_empty (by decide) (by decide)

/-- The name of the file of a run is one of a state file. -/
theorem extension?_fileName (m : Moment) : Path.extension? (fileName m) = some "json" :=
  Path.extension?_append m.no_separator_fileStamp m.fileStamp_ne_empty (by decide)

/-- Names of files are ordered as the seconds in which the runs started. -/
theorem fileName_lt_iff {m n : Moment} (hm : m.Nameable) (hn : n.Nameable) :
    fileName m < fileName n ↔ m.toSecond.before n.toSecond = true := by
  have hlength := hm.length_fileStamp.trans hn.length_fileStamp.symm
  simp only [← Moment.fileStamp_lt_iff hm hn, String.lt_iff, fileName, String.append_assoc,
    String.toList_append, Moment.append_lt_append_iff hlength, List.lt_irrefl, and_false, or_false]

/-- **The files of two runs** are the same only if the runs started in the same second. -/
theorem place_runPath_inj {m n : Moment} (hm : m.Nameable) (hn : n.Nameable) :
    Tree.place (store.runPath m) = Tree.place (store.runPath n) ↔ m.toSecond = n.toSecond := by
  obtain ⟨dir, hdir, hplace, hjoin⟩ := Path.place_join store.folder (isName_fileName m)
  obtain ⟨dir', hdir', hplace', hjoin'⟩ := Path.place_join store.folder (isName_fileName n)
  rw [runPath_eq, runPath_eq, hjoin, hjoin', Path.place_append_name hdir (isName_fileName m),
    Path.place_append_name hdir' (isName_fileName n), hplace, hplace',
    List.append_cancel_left_eq, List.singleton_inj, fileName, fileName, String.append_assoc,
    String.append_assoc, String.append_left_inj, Moment.fileStamp_inj hm hn]

/-! ### What the folder holds -/

/-- The files of states that are there afterwards are those that were there before. Everything else
may change: other files, what the files hold, and the order in which the folder names them. -/
structure SameStates (store : Store) (t t' : Tree) : Prop where
  folder : t.isFolder store.folder = true → t'.isFolder store.folder = true
  names : ∀ name, Path.extension? name = some "json" →
    (name ∈ t'.names store.folder ↔ name ∈ t.names store.folder)

/-- The files of states are those of the runs that started at given moments. -/
structure Holds (store : Store) (starts : List Moment) (t : Tree) : Prop where
  folder : starts ≠ [] → t.isFolder store.folder = true
  names : ∀ name, Path.extension? name = some "json" →
    (name ∈ t.names store.folder ↔ ∃ m ∈ starts, name = fileName m)

/-- The trees that saving the states of runs leads to, where anything else may happen to other
files before, between and after. -/
inductive Saved (store : Store) : List Moment → Tree → Prop
  | none {t : Tree} : (∀ name ∈ t.names store.folder, Path.extension? name ≠ some "json") →
      Saved store [] t
  | save {starts : List Moment} {t t' : Tree} {s : RunState} {m : Moment} : Saved store starts t →
      s.save t (store.runPath m) = .ok t' → Saved store (m :: starts) t'
  | other {starts : List Moment} {t t' : Tree} : Saved store starts t → store.SameStates t t' →
      Saved store starts t'

/-- The text of a state is first written to a file of another kind. -/
theorem extension?_beside (m : Moment) :
    Path.extension? (m.fileStamp ++ "." ++ "json.tmp") = some "tmp" := by
  have hstem : m.fileStamp ++ "." ++ "json.tmp" = m.fileStamp ++ ".json" ++ "." ++ "tmp" := by
    simp only [String.append_assoc]
    rfl
  rw [hstem]
  refine Path.extension?_append ?_ ?_ (by decide)
  · simp [m.no_separator_fileStamp]
  · simp

/-- The changes that a save makes, by the places that they are about. -/
theorem exists_changes_of_save {s : RunState} (h : s.save t (store.runPath m) = .ok t') :
    ∃ parent source target t₁ t₂, t.makeFolders parent = some t₁ ∧
      t₁.write source s.text.toUTF8 = some t₂ ∧ t₂.rename source target = some t' ∧
      Tree.place parent = Tree.place store.folder ∧
      Tree.place source = Tree.place store.folder ++ [m.fileStamp ++ "." ++ "json.tmp"] ∧
      Tree.place target = Tree.place store.folder ++ [fileName m] := by
  obtain ⟨dir, hdir, hplace, hjoin⟩ := Path.place_join store.folder (isName_fileName m)
  obtain ⟨parent, hparent, hfolder⟩ := Path.place_parent hdir (isName_fileName m)
  have hbeside : Path.withExtension (dir ++ fileName m) "json.tmp" =
      dir ++ (m.fileStamp ++ "." ++ "json.tmp") :=
    Path.withExtension_append hdir (isName_fileName m) m.fileStamp_ne_empty (by decide) (by decide)
  have hother : Path.IsName (m.fileStamp ++ "." ++ "json.tmp") :=
    Path.isName_append m.no_separator_fileStamp m.fileStamp_ne_empty (by decide) (by decide)
  rw [runPath_eq, hjoin] at h
  simp only [RunState.save, RunState.saveSteps, hparent, hbeside] at h
  split at h
  · next hsteps =>
    obtain rfl := Except.ok.inj h
    obtain ⟨t₁, hmake, hsteps⟩ := Option.bind_eq_some_iff.mp hsteps
    obtain ⟨t₂, hwrite, hsteps⟩ := Option.bind_eq_some_iff.mp hsteps
    obtain ⟨t₃, hrename, hdone⟩ := Option.bind_eq_some_iff.mp hsteps
    obtain rfl := Option.some.inj hdone
    refine ⟨parent, _, _, t₁, t₂, hmake, hwrite, hrename, hfolder.trans hplace, ?_, ?_⟩
    · rw [Path.place_append_name hdir hother, hplace]
    · rw [Path.place_append_name hdir (isName_fileName m), hplace]
  · cases h

/-- **A save** adds the file of its run to the files of states, and nothing else. -/
theorem names_save {s : RunState} (h : s.save t (store.runPath m) = .ok t') :
    t'.isFolder store.folder = true ∧ ∀ name, Path.extension? name = some "json" →
      (name ∈ t'.names store.folder ↔ name = fileName m ∨ name ∈ t.names store.folder) := by
  obtain ⟨parent, source, target, t₁, t₂, hmake, hwrite, hrename, hparent, hsource, htarget⟩ :=
    exists_changes_of_save h
  obtain ⟨hne, hput⟩ := Tree.write_eq_some hwrite
  refine ⟨?_, fun name hname => ?_⟩
  · -- the text could be written, so the folder was there, and no change is at its place
    have hthere := Tree.entryAt?_folder_of_write hwrite
    have hself : ∀ n : String, Tree.place store.folder ≠ Tree.place store.folder ++ [n] := by
      simp
    have hentry : t'.entryAt? (Tree.place store.folder) = some .folder := by
      rw [hsource, List.dropLast_concat] at hthere
      rw [Tree.entryAt?_rename hrename (hsource ▸ hself _) (htarget ▸ hself _), hput,
        Tree.entryAt?_put hne, if_neg (hsource ▸ hself _), hthere]
    rw [Tree.isFolder, Tree.entry?, hentry]
    rfl
  · have hkept : name ≠ m.fileStamp ++ "." ++ "json.tmp" := by
      rintro rfl
      exact absurd ((extension?_beside m).symm.trans hname) (by decide)
    have hlonger : (Tree.place parent).length < (Tree.place store.folder ++ [name]).length := by
      rw [hparent]
      simp
    rw [Tree.mem_names_iff, Tree.mem_names_iff, Tree.mem_places_rename hrename, hput,
      Tree.mem_places_put, Tree.mem_places_makeFolders hmake hlonger, hsource, htarget]
    simp [hkept]

/-- Saving the state of one more run adds its file to those that the store holds. -/
theorem Holds.save {s : RunState} (hholds : store.Holds starts t)
    (h : s.save t (store.runPath m) = .ok t') : store.Holds (m :: starts) t' := by
  obtain ⟨hfolder, hnames⟩ := names_save h
  refine ⟨fun _ => hfolder, fun name hname => ?_⟩
  rw [hnames name hname, hholds.names name hname]
  simp

/-- **After any history** the files of states are those of the runs that were saved. -/
theorem Saved.holds (h : store.Saved starts t) : store.Holds starts t := by
  induction h with
  | none hnone =>
    refine ⟨fun hne => absurd rfl hne, fun name hname => ?_⟩
    simp only [List.not_mem_nil, false_and, exists_false, iff_false]
    exact fun hmem => hnone name hmem hname
  | save _ hsave ih => exact ih.save hsave
  | other _ hsame ih =>
    refine ⟨fun hne => hsame.folder (ih.folder hne), fun name hname => ?_⟩
    rw [hsame.names name hname, ih.names name hname]

/-! ### The latest run -/

/-- The latest file of a store is that of the latest run. -/
theorem Holds.latest?_eq (h : store.Holds starts t) (hm : m ∈ starts)
    (hstarts : ∀ m ∈ starts, m.Nameable) (hlatest : ∀ m' ∈ starts, m.before m' = false) :
    store.latest? t = .ok (some (store.runPath m)) := by
  have hfolder := h.folder (List.ne_nil_of_mem hm)
  have hhas : t.has store.folder = true := by
    rw [Tree.has, beq_iff_eq.mp hfolder]
    rfl
  have hname : latestName (t.names store.folder) = some (fileName m) := by
    refine latestName_eq_some ((h.names _ (extension?_fileName m)).mpr ⟨m, hm, rfl⟩)
      (extension?_fileName m) fun n hn hext hlt => ?_
    obtain ⟨m', hm', rfl⟩ := (h.names n hext).mp hn
    have hsecond := (fileName_lt_iff (hstarts m hm) (hstarts m' hm')).mp hlt
    have hbefore := Moment.before_of_toSecond (hstarts m hm) (hstarts m' hm') hsecond
    rw [hlatest m' hm'] at hbefore
    cases hbefore
  rw [latest?, hhas, hfolder, hname, runPath_eq]
  rfl

/-- A run that continues loads the latest file. -/
theorem previous_of_latest? {c : RunConfig} {path : String} (hc : c.continueRun = true)
    (h : store.latest? t = .ok (some path)) :
    Run.previous store t c = ((RunState.load t path).map some).mapError .core := by
  have hload : store.loadLatest t = (RunState.load t path).map some := by
    rw [loadLatest, h]
    rfl
  rw [Run.previous, if_pos hc, hload]
  cases RunState.load t path <;> rfl

/-- **The newest run is the one that is continued.** After any history in which states were saved,
with other files in the folder and its names in any order, the latest file is that of a run that
started last, and a run that continues loads its state. Runs that started in different seconds have
different files. -/
theorem newest_run_is_continued (h : store.Saved starts t) (hne : starts ≠ [])
    (hstarts : ∀ m ∈ starts, m.Nameable) :
    (∃ m ∈ starts, (∀ m' ∈ starts, m.before m' = false) ∧
      store.latest? t = .ok (some (store.runPath m)) ∧
      ∀ c : RunConfig, c.continueRun = true → Run.previous store t c =
        ((RunState.load t (store.runPath m)).map some).mapError .core) ∧
    ∀ m m' : Moment, m.Nameable → m'.Nameable →
      (Tree.place (store.runPath m) = Tree.place (store.runPath m') ↔
        m.toSecond = m'.toSecond) := by
  obtain ⟨m, hm, hlatest⟩ := Moment.exists_latest hne
  have hpath := h.holds.latest?_eq hm hstarts hlatest
  exact ⟨⟨m, hm, hlatest, hpath, fun c hc => previous_of_latest? hc hpath⟩,
    fun m m' hm hm' => place_runPath_inj hm hm'⟩

/-- A run from a leap second at the end of a year, which is saved after one from the next year, is
not the newest. -/
theorem newest_after_leap_second :
    let store : Store := ⟨"runs"⟩
    let leap : Moment := ⟨2016, 12, 31, 23, 59, 59, 1999999999⟩
    let next : Moment := ⟨2017, 1, 1, 0, 0, 0, 1⟩
    (∀ m ∈ [leap, next], m.Nameable) ∧
    ∃ t, store.Saved [leap, next] t ∧
      store.latest? t = .ok (some "runs/2017_01_01_00_00_00.json") := by
  intro store leap next
  have hnameable : ∀ m ∈ [leap, next], m.Nameable := by
    refine List.forall_mem_cons.mpr ⟨?_, List.forall_mem_singleton.mpr ?_⟩ <;> constructor <;>
      decide
  have hsaved : ∀ s : RunState, ∃ t, store.Saved [leap, next] t := by
    have hparent : ∀ m ∈ [leap, next], Path.parent? (store.runPath m) = some "runs" := by decide
    have hsource : ∀ m ∈ [leap, next],
        Tree.place (Path.withExtension (store.runPath m) "json.tmp") =
          ["runs", m.fileStamp ++ ".json.tmp"] := by
      decide
    have htarget : ∀ m ∈ [leap, next],
        Tree.place (store.runPath m) = ["runs", m.fileStamp ++ ".json"] := by
      decide
    have hfolder : Tree.place "runs" = ["runs"] := by decide
    have hstamps : leap.fileStamp = "2016_12_31_23_59_60" ∧
        next.fileStamp = "2017_01_01_00_00_00" := by
      decide
    simp only [List.forall_mem_cons, List.not_mem_nil, hstamps] at hparent hsource htarget
    intro s
    obtain ⟨t, hsave, t', hsave'⟩ : ∃ t, s.save {} (store.runPath next) = .ok t ∧
        ∃ t', s.save t (store.runPath leap) = .ok t' := by
      simp [RunState.save, RunState.saveSteps, RunState.SaveStep.apply, hparent, hsource, htarget,
        hfolder, Tree.makeFolders, Tree.makeFolderAt, Tree.write, Tree.rename, Tree.entry?,
        Tree.entryAt?, Tree.put, Tree.isFolder, List.lookup_cons, List.range_succ]
    have hnone : ∀ name ∈ Tree.names {} store.folder, Path.extension? name ≠ some "json" := by
      intro _ hmem
      cases hmem
    exact ⟨t', .save (.save (.none hnone) hsave) hsave'⟩
  obtain ⟨t, ht⟩ := hsaved (RunState.start { startDate := next, endDate := next } "" [])
  obtain ⟨⟨m, hm, hlatest, hpath, -⟩, -⟩ :=
    newest_run_is_continued ht (List.cons_ne_nil _ _) hnameable
  have hnext : m = next := by
    rcases List.mem_cons.mp hm with rfl | hm
    · exact absurd (hlatest next (by simp)) (by decide)
    · exact List.mem_singleton.mp hm
  have hrun : store.runPath next = "runs/2017_01_01_00_00_00.json" := by decide
  exact ⟨hnameable, t, ht, by rw [hpath, hnext, hrun]⟩

end Store

end AssetFlow
