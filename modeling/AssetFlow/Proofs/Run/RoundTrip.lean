import AssetFlow.CommandLine.Configure
import AssetFlow.Proofs.Calendar
import AssetFlow.Proofs.Document.Decode
import AssetFlow.Proofs.Document.Json
import AssetFlow.Proofs.Run.Store

/-!
# Loading what was saved

The text of a state says all of the state (`RunState.ofText?_text`), as long as its window of data
is given to the microsecond and the number of workers has 64 bits. All windows are that are read
from options, from a pipeline or from a state, and so is the usual one, which is all of yesterday.

The reader of each record finds the fields where the writer has put them. What is left out or null
was nothing.

## Main definitions

- `RunConfig.Storable`: a configuration whose text says all of it

## Main statements

- `RunConfig.read?_write`, `AssetState.read?_write`, `RunState.read?_write`: records are read back
- `RunConfig.storable_of_read?`: a configuration that is read is storable
- `RunState.loads_what_is_saved`: states are loaded as they were saved
-/

namespace AssetFlow

open Document

/-! ### Names -/

/-- A status is read from its name. -/
theorem AssetStatus.read?_name (s : AssetStatus) : read? (Value.text s.name).node = some s := by
  cases s <;> decide

/-- A reason for skipping is read from its name. -/
theorem SkipReason.read?_name (r : SkipReason) : read? (Value.text r.name).node = some r := by
  cases r <;> decide

/-- A kind of task is read from its name. -/
theorem TaskKind.read?_name (k : TaskKind) : read? (Value.text k.name).node = some k := by
  cases k <;> decide

/-- A package manager is read from its name. -/
theorem PackageManager.read?_name (m : PackageManager) :
    read? (Value.text m.name).node = some m := by
  cases m <;> decide

/-! ### The configuration -/

namespace RunConfig

variable {c : RunConfig} {levels : Nat}

/-- A configuration whose text says all of it: the window of data is given to the microsecond, and
the number of workers has 64 bits. -/
structure Storable (c : RunConfig) : Prop where
  startDate : c.startDate.Exact
  endDate : c.endDate.Exact
  workers : c.workers < UInt64.size

/-- An exact moment is read from its stamp. -/
theorem readMoment?_stamp {m : Moment} (h : m.Exact) :
    readMoment? (Value.text m.stamp).node = some m := by
  rw [readMoment?, Node.text?_text, Option.bind_eq_bind, Option.bind_some,
    Moment.readStamp?_stamp h]

/-- Only exact moments are read. -/
theorem exact_of_readMoment? {n : Node} {m : Moment} (h : readMoment? n = some m) : m.Exact :=
  let ⟨_, _, h⟩ := Option.bind_eq_some_iff.mp h
  Moment.exact_of_readStamp? h

/-- **A configuration is read back.** -/
theorem read?_write (h : c.Storable) : read? c.write.node = some c := by
  have hkinds : (Value.texts (c.only.map TaskKind.name)).node.list? TaskKind.read? = some c.only :=
    Node.list?_texts fun k _ => k.read?_name
  have htargets : (Value.texts c.targets).node.list? Node.text? = some c.targets :=
    Node.list?_list fun t _ => Node.text?_text t
  -- field by field, in the order in which they are read
  rw [read?, write, Node.fields?_fields (by simp) (by simp), Option.bind_eq_bind, Option.bind_some,
    Fields.required_eq_some "Downstream" rfl (Node.bool?_bool _),
    Fields.required_eq_some "StartDate" rfl (readMoment?_stamp h.startDate),
    Fields.required_eq_some "EndDate" rfl (readMoment?_stamp h.endDate),
    Fields.required_eq_some "Workers" rfl (Node.unsigned?_int h.workers),
    Fields.optional_text "Environment" c.environment rfl,
    Fields.required_eq_some "Force" rfl (Node.bool?_bool _),
    Fields.required_eq_some "PushMetadata" rfl (Node.bool?_bool _),
    Fields.required_eq_some "NoLogFile" rfl (Node.bool?_bool _),
    Fields.required_eq_some "FullRefresh" rfl (Node.bool?_bool _),
    Fields.withDefault_eq_some "PackageManager" _ rfl c.packageManager.read?_name,
    Fields.optional_text "Tag" c.tag rfl, Fields.optional_text "ExcludeTag" c.excludeTag rfl,
    Fields.withDefault_eq_some "Only" _ rfl hkinds,
    Fields.withDefault_eq_some "ContinueRun" _ rfl (Node.bool?_bool _),
    Fields.withDefault_eq_some "Targets" _ rfl htargets]
  rfl

/-- **A configuration that is read is storable.** -/
theorem storable_of_read? {n : Node} (h : read? n = some c) : c.Storable := by
  obtain ⟨fs, -, h⟩ := Option.bind_eq_some_iff.mp h
  obtain ⟨downstream, -, h⟩ := Option.bind_eq_some_iff.mp h
  obtain ⟨start, hstart, h⟩ := Option.bind_eq_some_iff.mp h
  obtain ⟨last, hlast, h⟩ := Option.bind_eq_some_iff.mp h
  obtain ⟨workers, hworkers, h⟩ := Option.bind_eq_some_iff.mp h
  obtain ⟨_, hstart⟩ := Fields.exists_of_required hstart
  obtain ⟨_, hlast⟩ := Fields.exists_of_required hlast
  obtain ⟨_, hworkers⟩ := Fields.exists_of_required hworkers
  simp only [Option.bind_eq_bind, Option.bind_eq_some_iff] at h
  obtain ⟨_, -, _, -, _, -, _, -, _, -, _, -, _, -, _, -, _, -, _, -, _, -, h⟩ := h
  obtain rfl := Option.some.inj h
  exact ⟨exact_of_readMoment? hstart, exact_of_readMoment? hlast, Node.lt_of_unsigned? hworkers⟩

/-- The parameters of a run are nested two levels deep at most. -/
theorem fits_write (h : c.Storable) : c.write.Fits (levels + 2) := by
  refine Value.fits_fields ?_
  simp only [List.forall_mem_cons, Value.fits_text, Value.fits_bool, Value.fits_int h.workers,
    Value.fits_ofOption, Value.fits_texts, true_and]
  exact List.forall_mem_nil _

end RunConfig

/-! ### The state -/

section Parts

variable {levels : Nat}

/-- The metadata of a run is read from what is written of it. -/
theorem Metadata.read?_write (m : Metadata) : read? m.write.node = some m := by
  rw [read?, write, Node.fields?_fields (by simp) (by simp), Option.bind_eq_bind, Option.bind_some,
    Fields.required_eq_some "Version" rfl (Node.text?_text _),
    Fields.required_eq_some "OS" rfl (Node.text?_text _)]
  rfl

theorem Metadata.fits_write (m : Metadata) : m.write.Fits (levels + 1) := by
  refine Value.fits_fields ?_
  simp only [List.forall_mem_cons, Value.fits_text, true_and]
  exact List.forall_mem_nil _

/-- **The status of an asset is read back**; a reason that is left out is none. -/
theorem AssetState.read?_write (s : AssetState) : read? s.write.node = some s := by
  obtain ⟨name, status, reason⟩ := s
  cases reason
  all_goals
    rw [read?, write, Node.fields?_fields (by simp) (by simp), Option.bind_eq_bind,
      Option.bind_some, Fields.required_eq_some "Name" rfl (Node.text?_text _),
      Fields.required_eq_some "Status" rfl status.read?_name]
  case none => rfl
  case some r =>
    rw [Fields.optional_eq_some "SkipReason" rfl rfl r.read?_name]
    rfl

theorem AssetState.fits_write (s : AssetState) : s.write.Fits (levels + 1) := by
  refine Value.fits_fields fun f hf => ?_
  rcases List.mem_append.mp hf with hf | hf
  · rcases List.mem_pair.mp hf with rfl | rfl <;> exact Value.fits_text _
  · split at hf
    · obtain rfl := List.mem_singleton.mp hf
      exact Value.fits_text _
    · cases hf

end Parts

namespace RunState

variable {s : RunState} {t : Tree} {path : String}

/-- **A state is read back.** -/
theorem read?_write (h : s.parameters.Storable) : read? s.write.node = some s := by
  have hassets : (Value.list (s.assets.map AssetState.write)).node.list? AssetState.read? =
      some s.assets :=
    Node.list?_list fun a _ => a.read?_write
  rw [read?, write, Node.fields?_fields (by simp) (by simp), Option.bind_eq_bind, Option.bind_some,
    Fields.required_eq_some "Parameters" rfl (RunConfig.read?_write h),
    Fields.required_eq_some "Metadata" rfl s.metadata.read?_write,
    Fields.required_eq_some "State" rfl hassets,
    Fields.required_eq_some "Version" rfl (Node.text?_text _),
    Fields.required_eq_some "CompatibilityHash" rfl (Node.text?_text _)]
  rfl

/-- The state of a run is nested no deeper than the reader goes. -/
theorem fits_write (h : s.parameters.Storable) : s.write.Fits Json.maxDepth := by
  have hassets : (Value.list (s.assets.map AssetState.write)).Fits 126 := by
    refine Value.fits_list fun v hv => ?_
    obtain ⟨a, -, rfl⟩ := List.mem_map.mp hv
    exact a.fits_write
  have hparameters : s.parameters.write.Fits 126 := RunConfig.fits_write h
  have hmetadata : s.metadata.write.Fits 126 := s.metadata.fits_write
  refine Value.fits_fields ?_
  simp only [List.forall_mem_cons, hparameters, hmetadata, hassets, Value.fits_text, true_and]
  exact List.forall_mem_nil _

/-- **The text of a state says all of it.** -/
theorem ofText?_text (h : s.parameters.Storable) : ofText? s.text = some s := by
  rw [ofText?, text, Json.read_pretty (fits_write h), Option.bind_eq_bind, Option.bind_some,
    read?_write h]

/-- A file with the text of a storable state loads as this state. -/
theorem load_eq_ok (h : t.bytes? path = some s.text.toUTF8) (hs : s.parameters.Storable) :
    load t path = .ok s := by
  unfold load
  simp only [Tree.read?_eq_some h, ofText?_text hs]

/-- Only storable states are loaded. -/
theorem storable_of_load (h : load t path = .ok s) : s.parameters.Storable := by
  unfold load at h
  split at h
  · cases h
  · next text _ =>
    split at h
    · next s' hs =>
      obtain rfl := Except.ok.inj h
      obtain ⟨v, -, hread⟩ := Option.bind_eq_some_iff.mp hs
      obtain ⟨fs, -, hread⟩ := Option.bind_eq_some_iff.mp hread
      obtain ⟨parameters, hparameters, hread⟩ := Option.bind_eq_some_iff.mp hread
      obtain ⟨n, hparameters⟩ := Fields.exists_of_required hparameters
      simp only [Option.bind_eq_bind, Option.bind_eq_some_iff] at hread
      obtain ⟨_, -, _, -, _, -, _, -, hread⟩ := hread
      obtain rfl := Option.some.inj hread
      exact RunConfig.storable_of_read? hparameters
    · cases h

end RunState

/-! ### Where windows of data come from -/

/-- **The bounds of the window of data are read to the microsecond.** -/
theorem exact_of_readBound {ofDay : Moment → Moment} {text : String} {m : Moment}
    (hofDay : ∀ day : Moment, Moment.isDate day.year day.month day.day = true → (ofDay day).Exact)
    (h : readBound ofDay text = .ok m) : m.Exact := by
  unfold readBound at h
  dsimp only at h
  split at h
  · next hstamp =>
    obtain rfl := Except.ok.inj h
    exact Moment.exact_of_readStamp? hstamp
  · split at h
    · cases h
    · next day hday =>
      split at h
      · cases h
      · obtain rfl := Except.ok.inj h
        exact hofDay day (Moment.isDate_of_readDay? hday)

/-- The usual window of data, which is all of the day before, is given to the microsecond. -/
theorem CommandLine.storable_yesterday {now : Moment}
    (h : Moment.isDate now.year now.month now.day = true) : (yesterday now).Storable := by
  have hday : ∀ day, now.dayBefore?.getD now = day →
      Moment.isDate day.year day.month day.day = true := by
    rintro day rfl
    cases hbefore : now.dayBefore? with
    | none => exact h
    | some day => exact Moment.isDate_dayBefore? h hbefore
  have hworkers : 16 < UInt64.size := by decide
  exact ⟨Moment.exact_startOfDay (hday _ rfl), Moment.exact_endOfDay (hday _ rfl), hworkers⟩

namespace RunState

/-- **States are loaded as they were saved.** A state whose window of data is given to the
microsecond is loaded from the file that it is saved to, so two such states with the same text are
equal. The bounds of windows that are read from options or from a pipeline, the usual window, and
the windows of states that are loaded are all given to the microsecond. -/
theorem loads_what_is_saved :
    (∀ s : RunState, s.parameters.Storable → ofText? s.text = some s ∧
      ∀ t t' path, s.save t path = .ok t' → load t' path = .ok s) ∧
    (∀ s s' : RunState, s.parameters.Storable → s'.parameters.Storable → s.text = s'.text →
      s = s') ∧
    (∀ text m, readStart text = .ok m ∨ readEnd text = .ok m → m.Exact) ∧
    (∀ now : Moment, Moment.isDate now.year now.month now.day = true →
      (CommandLine.yesterday now).Storable) ∧
    ∀ t path s, load t path = .ok s → s.parameters.Storable := by
  refine ⟨fun s hs => ⟨ofText?_text hs, fun t t' path hsave => load_eq_ok (bytes?_save hsave) hs⟩,
    fun s s' hs hs' htext => ?_, fun text m h => ?_,
    fun now hnow => CommandLine.storable_yesterday hnow, fun t path s h => storable_of_load h⟩
  · have hread := ofText?_text hs
    rw [htext, ofText?_text hs'] at hread
    exact (Option.some.inj hread).symm
  · rcases h with h | h
    · exact exact_of_readBound (fun _ => Moment.exact_startOfDay) h
    · exact exact_of_readBound (fun _ => Moment.exact_endOfDay) h

/-- A state with a window from before the year 0 to a leap second, and with texts that are written
with escapes. -/
def unusual : RunState where
  parameters := {
    startDate := ⟨-12345, 2, 28, 0, 0, 0, 0⟩
    endDate := ⟨2016, 12, 31, 23, 59, 59, 1999999000⟩
    workers := 18446744073709551615
    environment := some "prod\n\"\\"
    packageManager := .pip
    only := [.pushMetadata, .main]
    targets := ["zażółć.🚀"] }
  assets := [⟨"zażółć.🚀", .skipped, some .previouslySucceeded⟩, ⟨"", .failed, none⟩]
  fingerprint := "\t"

theorem unusual_is_loaded : unusual.parameters.Storable ∧ ofText? unusual.text = some unusual ∧
    (∃ t, unusual.save {} "runs/a.json" = .ok t ∧ load t "runs/a.json" = .ok unusual) ∧
    readEnd "2016-12-31 23:59:60.999999" = .ok unusual.parameters.endDate ∧
    (CommandLine.yesterday ⟨2024, 3, 1, 12, 0, 0, 0⟩).Storable := by
  obtain ⟨hloads, -, hexact, hyesterday, hstorable⟩ := loads_what_is_saved
  have hend : readEnd "2016-12-31 23:59:60.999999" = .ok unusual.parameters.endDate := by
    have hstamp : Moment.readStamp? (Text.trim "2016-12-31 23:59:60.999999") =
        some unusual.parameters.endDate := by
      decide +kernel
    unfold readEnd readBound
    simp only [hstamp]
  have hstart : unusual.parameters.startDate.Exact := by constructor <;> decide
  have hunusual : unusual.parameters.Storable := ⟨hstart, hexact _ _ (.inr hend), by decide⟩
  have hsave : ∀ s : RunState, ∃ t, s.save {} "runs/a.json" = .ok t := by
    have hparent : Path.parent? "runs/a.json" = some "runs" := by decide
    have hbeside : Path.withExtension "runs/a.json" "json.tmp" = "runs/a.json.tmp" := by decide
    have hfolders : Tree.makeFolders {} "runs" = some ⟨[(["runs"], .folder)]⟩ := by decide
    have hplace : Tree.place "runs/a.json" = ["runs", "a.json"] := by decide
    have hplace' : Tree.place "runs/a.json.tmp" = ["runs", "a.json.tmp"] := by decide
    intro s
    simp [save, saveSteps, hparent, hbeside, SaveStep.apply, hfolders, hplace, hplace', Tree.write,
      Tree.rename, Tree.entry?, Tree.entryAt?, Tree.put, Tree.isFolder, List.lookup_cons]
  obtain ⟨hread, hload⟩ := hloads unusual hunusual
  obtain ⟨t, hsave⟩ := hsave unusual
  have hload := hload _ _ _ hsave
  exact ⟨hstorable _ _ _ hload, hread, ⟨t, hsave, hload⟩, hend, hyesterday _ (by decide)⟩

end RunState

end AssetFlow
