import AssetFlow.Proofs.Files.Path
import AssetFlow.Proofs.Files.Tree
import AssetFlow.Run.Process

/-!
# Saving the state of a run

A state is written beside the file of its run, which is then replaced at once. So the file holds
either what it held before or the whole of the state, at whichever moment the saving is broken off.

## Main statements

- `Moment.no_separator_fileStamp`: a moment as file names have it is a file name
- `RunState.bytes?_save`: what is saved is there
- `RunState.Interrupted.bytes?_eq`: the file of the run stays as it is until the state is saved
-/

namespace AssetFlow

namespace Moment

theorem no_separator_padded (width n : Nat) : '/' ∉ (padded width n).toList := by
  simp only [padded, String.toList_append, String.toList_ofList, List.mem_append,
    List.mem_replicate, not_or, not_and]
  refine ⟨fun _ => by decide, fun hmem => ?_⟩
  have hdigits : '/' ∈ Nat.toDigits 10 n := by simpa [Nat.repr] using hmem
  exact absurd (Nat.isDigit_of_mem_toDigits (by decide) (by decide) hdigits) (by decide)

theorem no_separator_showYear (year : Int) : '/' ∉ (showYear year).toList := by
  rw [showYear]
  split
  · exact no_separator_padded _ _
  · rw [String.toList_append, List.mem_append, not_or]
    refine ⟨?_, no_separator_padded _ _⟩
    split <;> decide

/-- **A moment as file names have it** does not lead into a folder. -/
theorem no_separator_fileStamp (m : Moment) : '/' ∉ m.fileStamp.toList := by
  simp [fileStamp, no_separator_padded, no_separator_showYear]

/-- The name of the file of a run is never empty. -/
theorem fileStamp_ne_empty (m : Moment) : m.fileStamp ≠ "" := by
  intro h
  have := congrArg String.toList h
  simp [fileStamp] at this

end Moment

/-- The file that a state is written to first is not the file of the run. -/
theorem Store.place_beside_ne (store : Store) (startedAt : Moment) :
    Tree.place (Path.withExtension (store.runPath startedAt) "json.tmp") ≠
      Tree.place (store.runPath startedAt) := by
  have hname : startedAt.fileStamp ++ ".json" = startedAt.fileStamp ++ "." ++ "json" := by
    rw [String.append_assoc]
    rfl
  rw [Store.runPath, hname]
  exact Path.place_withExtension_ne store.folder startedAt.fileStamp_ne_empty
    startedAt.no_separator_fileStamp (by decide) (by decide) (by decide)

namespace RunState

variable {s : RunState} {path : String} {t t' : Tree} {step : SaveStep}

/-- The changes that save a state end with the replacement of the file. -/
theorem exists_saveSteps (s : RunState) (path : String) : ∃ first : List SaveStep,
    s.saveSteps path = first ++ [.rename (Path.withExtension path "json.tmp") path] ∧
      ∀ step ∈ first, (∃ folder, step = .makeFolders folder) ∨
        step = .write (Path.withExtension path "json.tmp") s.text := by
  cases hparent : Path.parent? path with
  | none =>
    refine ⟨[.write (Path.withExtension path "json.tmp") s.text], by simp [saveSteps, hparent], ?_⟩
    exact fun step hstep => .inr (List.mem_singleton.mp hstep)
  | some folder =>
    refine ⟨[.makeFolders folder, .write (Path.withExtension path "json.tmp") s.text],
      by simp [saveSteps, hparent], fun step hstep => ?_⟩
    rcases List.mem_cons.mp hstep with heq | hstep
    · exact .inl ⟨folder, heq⟩
    · exact .inr (List.mem_singleton.mp hstep)

/-- **What is saved is there.** -/
theorem bytes?_save (h : s.save t path = .ok t') : t'.bytes? path = some s.text.toUTF8 := by
  simp only [save] at h
  split at h
  · next u hsteps =>
    obtain rfl := Except.ok.inj h
    simp only [saveSteps, List.foldlM_append] at hsteps
    obtain ⟨t₁, -, hsteps⟩ := Option.bind_eq_some_iff.mp hsteps
    obtain ⟨t₂, hwrite, hsteps⟩ := Option.bind_eq_some_iff.mp hsteps
    obtain ⟨t₃, hrename, hdone⟩ := Option.bind_eq_some_iff.mp hsteps
    obtain rfl := Option.some.inj hdone
    rw [Tree.bytes?_rename hrename, Tree.bytes?_write hwrite]
  · cases h

/-! ### Saving that is broken off -/

/-- A change that is made is begun, unless it moves a file. -/
theorem SaveStep.begun_of_apply (h : step.apply t = some t')
    (hstep : ∀ source target, step ≠ .rename source target) : step.Begun t t' := by
  cases step with
  | makeFolders path => exact .makeFolders h
  | write path text => exact .write h
  | rename source target => exact absurd rfl (hstep source target)

/-- As long as the file is not replaced, it stays as it is. -/
theorem SaveStep.Begun.bytes?_eq {b : ByteArray} (h : step.Begun t t')
    (hstep : step ∈ s.saveSteps path)
    (hbeside : Tree.place (Path.withExtension path "json.tmp") ≠ Tree.place path)
    (hb : t.bytes? path = some b) : t'.bytes? path = some b := by
  cases h with
  | makeFolders h => exact Tree.bytes?_makeFoldersAt h hb
  | write h =>
    -- a text is written beside the file only
    have hplace : ∀ p text, SaveStep.write p text ∈ s.saveSteps path →
        p = Path.withExtension path "json.tmp" := by
      obtain ⟨first, hsteps, hfirst⟩ := exists_saveSteps s path
      intro p text hmem
      rw [hsteps, List.mem_append, List.mem_singleton] at hmem
      rcases hmem with hmem | hmem
      · rcases hfirst _ hmem with ⟨folder, heq⟩ | heq
        · cases heq
        · exact (SaveStep.write.inj heq).1
      · cases hmem
    obtain rfl := hplace _ _ hstep
    rw [Tree.bytes?_write_of_ne h hbeside.symm, hb]
  | rename => exact hb

/-- Until its last step, saving leaves the target as it is. -/
theorem bytes?_foldlM_apply {b : ByteArray} {earlier later : List SaveStep}
    (hsteps : s.saveSteps path = earlier ++ later) (hlater : later ≠ [])
    (hbeside : Tree.place (Path.withExtension path "json.tmp") ≠ Tree.place path)
    (h : earlier.foldlM SaveStep.apply t = some t') (hb : t.bytes? path = some b) :
    t'.bytes? path = some b := by
  -- the file is moved by the last change only, which is not among the earlier ones
  have hearlier : ∀ step ∈ earlier, ∀ source target, step ≠ .rename source target := by
    obtain ⟨first, hfirst, hkinds⟩ := exists_saveSteps s path
    obtain ⟨init, last, rfl⟩ : ∃ init last, later = init ++ [last] :=
      ⟨_, _, (List.dropLast_concat_getLast hlater).symm⟩
    rw [hfirst, ← List.append_assoc] at hsteps
    obtain ⟨rfl, -⟩ := List.append_inj' hsteps rfl
    intro step hmem source target heq
    rcases hkinds step (List.mem_append_left _ hmem) with ⟨folder, heq'⟩ | heq' <;>
      exact absurd (heq.symm.trans heq') (by simp)
  have hmem : ∀ step ∈ earlier, step ∈ s.saveSteps path := fun step hstep =>
    hsteps ▸ List.mem_append_left _ hstep
  clear hsteps
  induction earlier generalizing t with
  | nil =>
    obtain rfl := Option.some.inj h
    exact hb
  | cons step earlier ih =>
    rw [List.foldlM_cons] at h
    obtain ⟨u, hu, h⟩ := Option.bind_eq_some_iff.mp h
    obtain ⟨hstep, hearlier⟩ := List.forall_mem_cons.mp hearlier
    obtain ⟨hin, hmem⟩ := List.forall_mem_cons.mp hmem
    have hbegun := SaveStep.begun_of_apply hu hstep
    exact ih h (hbegun.bytes?_eq hin hbeside hb) hearlier hmem

/-- **The file of a run stays as it is** until the state is saved. -/
theorem Interrupted.bytes?_eq {b : ByteArray} (h : s.Interrupted path t t')
    (hbeside : Tree.place (Path.withExtension path "json.tmp") ≠ Tree.place path)
    (hb : t.bytes? path = some b) : t'.bytes? path = some b := by
  cases h with
  | between hsteps hlater hfold => exact bytes?_foldlM_apply hsteps hlater hbeside hfold hb
  | within hsteps hfold hbegun =>
    have hmid := bytes?_foldlM_apply hsteps (List.cons_ne_nil _ _) hbeside hfold hb
    exact hbegun.bytes?_eq (hsteps ▸ List.mem_append_right _ (List.mem_cons_self ..)) hbeside hmid

end RunState

end AssetFlow
