import AssetFlow.Run.Recorder
import Mathlib.Tactic.Common

/-!
# What the state of a run says

A state holds one entry for a name as far as anybody can see, and noting the status of one asset
changes nothing for the others. A recorder saves the state whenever an asset is done with, so that
what was saved last and the state at hand agree on all assets that are done with.

## Main definitions

- `RunState.Settled`: nothing more happens to an asset
- `Recorder.UpToDate`: nothing that is settled is still to be saved
- `Recorder.Extends`: some statuses changed and some states were saved

## Main statements

- `RunState.status?_record`, `RunState.entryOf?_record`: noting a status
- `Recorder.UpToDate.record`: a recorder stays up to date
-/

namespace AssetFlow

namespace RunState

/-- What is put in is found under its name, and all else as before. -/
theorem find?_put (new : AssetState) (l : List AssetState) (name : String) :
    (put new l).find? (·.name == name) =
      if name = new.name then some new else l.find? (·.name == name) := by
  induction l with
  | nil =>
    by_cases h : name = new.name
    · simp [put, h]
    · simp [put, h, Ne.symm h]
  | cons e rest ih =>
    simp only [put]
    by_cases he : e.name = new.name
    · by_cases h : name = new.name
      · simp [he, h]
      · simp [he, h, Ne.symm h]
    · simp only [he, beq_iff_eq, if_false, List.find?_cons, ih]
      by_cases h : name = new.name
      · simp [h, beq_eq_false_iff_ne.mpr he]
      · simp [h]

/-- Recording a status replaces the entry of its asset and no other one. -/
theorem entryOf?_record (s : RunState) (name other : String) (status : AssetStatus) :
    (s.record name status).entryOf? other =
      if other = name then some ⟨name, status, none⟩ else s.entryOf? other :=
  find?_put _ _ _

/-- Leaving an asset out replaces its entry, with the reason, and no other one. -/
theorem entryOf?_skip (s : RunState) (name other : String) (reason : SkipReason) :
    (s.skip name reason).entryOf? other =
      if other = name then some ⟨name, .skipped, some reason⟩ else s.entryOf? other :=
  find?_put _ _ _

/-- Recording a status changes the status of its asset alone. -/
theorem status?_record (s : RunState) (name other : String) (status : AssetStatus) :
    (s.record name status).status? other =
      if other = name then some status else s.status? other := by
  simp only [status?, entryOf?_record]
  split <;> rfl

/-- Nothing more happens to the asset with a name. -/
def Settled (s : RunState) (name : String) : Prop :=
  ∃ status, s.status? name = some status ∧ status.isTerminal = true

/-- Nothing more happens to an asset that is complete. -/
theorem settled_of_isComplete {s : RunState} {name : String} (h : s.isComplete name = true) :
    s.Settled name := by
  simp only [isComplete] at h
  cases he : s.entryOf? name with
  | none => simp [he] at h
  | some e =>
    refine ⟨e.status, by simp [status?, he], ?_⟩
    simp only [he, AssetState.isComplete] at h
    cases hs : e.status <;> simp [hs, AssetStatus.isTerminal] at h ⊢

/-- An asset that is not skipped is complete if it has succeeded. -/
theorem isComplete_eq_of_status? {s : RunState} {name : String} {status : AssetStatus}
    (h : s.status? name = some status) (hne : status ≠ .skipped) :
    s.isComplete name = (status == .succeeded) := by
  obtain ⟨e, he, rfl⟩ := Option.map_eq_some_iff.mp h
  simp only [isComplete, he, AssetState.isComplete]
  cases hs : e.status with
  | skipped => exact absurd hs hne
  | _ => rfl

/-- Whether an asset is complete is told by its entry. -/
theorem isComplete_congr {s t : RunState} {name : String} (h : s.entryOf? name = t.entryOf? name) :
    s.isComplete name = t.isComplete name := by
  simp only [isComplete, h]

theorem settled_record {s : RunState} {name other : String} {status : AssetStatus}
    (hne : other ≠ name) : (s.record name status).Settled other ↔ s.Settled other := by
  simp [Settled, status?_record, hne]

/-- Two states say the same of the asset with a name unless it is still to be done with in both. -/
def Agree (s t : RunState) (name : String) : Prop :=
  s.Settled name ∨ t.Settled name → s.entryOf? name = t.entryOf? name

/-- States that agree on an asset agree on whether it is complete. -/
theorem Agree.isComplete_eq {s t : RunState} {name : String} (h : s.Agree t name) :
    s.isComplete name = t.isComplete name := by
  by_cases hs : s.isComplete name = true
  · exact isComplete_congr (h (.inl (settled_of_isComplete hs)))
  · by_cases ht : t.isComplete name = true
    · exact isComplete_congr (h (.inr (settled_of_isComplete ht)))
    · rw [Bool.not_eq_true] at hs ht
      rw [hs, ht]

end RunState

namespace Recorder

/-- The state that was saved last agrees with the state at hand. -/
def UpToDate (r : Recorder) : Prop :=
  ∃ last earlier, r.saved = last :: earlier ∧ ∀ name, last.Agree r.state name

/-- A recorder is up to date when its state has just been saved. -/
theorem upToDate_persist (r : Recorder) : r.persist.UpToDate :=
  ⟨r.state, r.saved, rfl, fun _ _ => rfl⟩

theorem status?_record (r : Recorder) (name other : String) (status : AssetStatus) :
    (r.record name status).state.status? other =
      if other = name then some status else r.state.status? other := by
  simp only [record]
  split
  · next h =>
    split
    · next heq => rw [heq, eq_of_beq h]
    · rfl
  · split <;> exact RunState.status?_record _ _ _ _

theorem entryOf?_record_of_ne (r : Recorder) {name other : String} (status : AssetStatus)
    (hne : other ≠ name) : (r.record name status).state.entryOf? other = r.state.entryOf? other := by
  simp only [record]
  split
  · rfl
  · split <;> exact (RunState.entryOf?_record _ _ _ _).trans (if_neg hne)

theorem fingerprint_record (r : Recorder) (name : String) (status : AssetStatus) :
    (r.record name status).state.fingerprint = r.state.fingerprint := by
  simp only [record]
  split
  · rfl
  · split <;> rfl

/-- After a status is recorded the asset is complete if it has succeeded. -/
theorem isComplete_record (r : Recorder) {name other : String} {status : AssetStatus}
    (hstatus : status ≠ .skipped) : (r.record name status).state.isComplete other =
      if other = name then status == .succeeded else r.state.isComplete other := by
  split
  · next h =>
    subst h
    exact RunState.isComplete_eq_of_status? (by rw [status?_record, if_pos rfl]) hstatus
  · next h => exact RunState.isComplete_congr (entryOf?_record_of_ne r status h)

theorem settled_record (r : Recorder) (name other : String) (status : AssetStatus) :
    (r.record name status).state.Settled other ↔
      if other = name then status.isTerminal = true else r.state.Settled other := by
  simp only [RunState.Settled, status?_record]
  split <;> simp

/-- What is noted is either no news, or it is saved, or the asset is not done with. -/
theorem saved_record (r : Recorder) (name : String) (status : AssetStatus) :
    (r.record name status).saved = r.saved ∨
      (r.record name status).saved = (r.record name status).state :: r.saved := by
  simp only [record]
  split
  · exact .inl rfl
  · split
    · exact .inr rfl
    · exact .inl rfl

/-- A recorder stays up to date as long as an asset that is done with is left alone. -/
theorem UpToDate.record {r : Recorder} {name : String} {status : AssetStatus} (h : r.UpToDate)
    (hname : status.isTerminal = true ∨ ¬ r.state.Settled name) :
    (r.record name status).UpToDate := by
  simp only [Recorder.record]
  split
  · exact h
  · split
    · exact upToDate_persist _
    · next hterm =>
      -- the status is not final, so that it is not saved, but it is not settled either
      have hopen : ¬ r.state.Settled name := hname.resolve_left hterm
      obtain ⟨last, earlier, hsaved, hagree⟩ := h
      refine ⟨last, earlier, hsaved, fun other hsettled => ?_⟩
      by_cases heq : other = name
      · subst heq
        have hlast : ¬ last.Settled other := fun hl => by
          have hstatus := congrArg (Option.map AssetState.status) (hagree other (.inl hl))
          exact hopen (by rwa [RunState.Settled, RunState.status?, ← hstatus])
        rcases hsettled with hl | ⟨status', hstatus', hterm'⟩
        · exact absurd hl hlast
        · rw [RunState.status?_record, if_pos rfl] at hstatus'
          obtain rfl := Option.some.inj hstatus'
          exact absurd hterm' hterm
      · rw [RunState.settled_record heq] at hsettled
        exact (hagree other hsettled).trans
          ((RunState.entryOf?_record _ _ _ _).trans (if_neg heq)).symm

/-- From one recorder to another, some assets got another status and some states were saved. -/
def Extends (changed : String → Prop) (r r' : Recorder) : Prop :=
  ∃ new, r'.saved = new ++ r.saved ∧ ∀ s ∈ r'.state :: new,
    s.fingerprint = r.state.fingerprint ∧
      ∀ name, ¬ changed name → s.entryOf? name = r.state.entryOf? name

theorem Extends.refl (changed : String → Prop) (r : Recorder) : r.Extends changed r :=
  ⟨[], rfl, by simp⟩

/-- An extension by which some assets change is one by which more of them may change. -/
theorem Extends.mono {changed changed' : String → Prop} {r r' : Recorder}
    (h : r.Extends changed r') (hsub : ∀ name, changed name → changed' name) :
    r.Extends changed' r' := by
  obtain ⟨new, hsaved, hnew⟩ := h
  exact ⟨new, hsaved, fun s hs => ⟨(hnew s hs).1, fun name hname =>
    (hnew s hs).2 name fun hc => hname (hsub name hc)⟩⟩

/-- Two extensions, one after the other, are one. -/
theorem Extends.trans {changed : String → Prop} {r₁ r₂ r₃ : Recorder}
    (h₁ : r₁.Extends changed r₂) (h₂ : r₂.Extends changed r₃) : r₁.Extends changed r₃ := by
  obtain ⟨new₁, hsaved₁, hnew₁⟩ := h₁
  obtain ⟨new₂, hsaved₂, hnew₂⟩ := h₂
  refine ⟨new₂ ++ new₁, by rw [hsaved₂, hsaved₁, List.append_assoc], fun s hs => ?_⟩
  have hmid := hnew₁ r₂.state (List.mem_cons_self ..)
  rcases List.mem_append.mp (List.cons_append ▸ hs) with hs | hs
  · obtain ⟨hfp, hentry⟩ := hnew₂ s hs
    exact ⟨hfp.trans hmid.1, fun name hname =>
      (hentry name hname).trans (hmid.2 name hname)⟩
  · exact hnew₁ s (List.mem_cons_of_mem _ hs)

/-- A recorder is extended further by saving its state. -/
theorem Extends.persist {changed : String → Prop} {r r' : Recorder} (h : r.Extends changed r') :
    r.Extends changed r'.persist := by
  obtain ⟨new, hsaved, hnew⟩ := h
  refine ⟨r'.state :: new, by rw [Recorder.persist, hsaved]; rfl, fun s hs => ?_⟩
  rcases List.mem_cons.mp hs with rfl | hs
  · exact hnew _ (List.mem_cons_self ..)
  · exact hnew s hs

/-- Noting the status of an asset changes nothing but this status. -/
theorem extends_record {changed : String → Prop} (r : Recorder) {name : String}
    (status : AssetStatus) (hname : changed name) : r.Extends changed (r.record name status) := by
  have hstate : (r.record name status).state.fingerprint = r.state.fingerprint ∧
      ∀ other, ¬ changed other →
        (r.record name status).state.entryOf? other = r.state.entryOf? other :=
    ⟨fingerprint_record r name status, fun other hother =>
      entryOf?_record_of_ne r status fun heq => hother (heq ▸ hname)⟩
  rcases saved_record r name status with hsaved | hsaved
  · exact ⟨[], hsaved, by simpa using hstate⟩
  · refine ⟨[(r.record name status).state], hsaved, fun s hs => ?_⟩
    rcases List.mem_cons.mp hs with rfl | hs
    · exact hstate
    · exact List.mem_singleton.mp hs ▸ hstate

end Recorder

end AssetFlow
