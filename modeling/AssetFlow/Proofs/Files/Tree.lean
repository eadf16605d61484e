import AssetFlow.Files.Tree
import Mathlib.Tactic.Common

/-!
# What changing a tree of files leaves alone

A change of a tree of files puts something at one place, and all other places stay as they were.

## Main statements

- `Tree.entryAt?_put`: putting an entry at a place
- `Tree.bytes?_write`, `Tree.bytes?_rename`: what is written or moved is there
- `Tree.bytes?_write_of_ne`, `Tree.bytes?_makeFoldersAt`: what is elsewhere stays
-/

namespace AssetFlow.Tree

variable {t t' : Tree} {p q : Place} {path other source target : String}

theorem lookup_filter_ne {entries : List (Place × FileEntry)} (hne : q ≠ p) :
    (entries.filter (·.1 != p)).lookup q = entries.lookup q := by
  induction entries with
  | nil => rfl
  | cons e entries ih =>
    by_cases he : e.1 = p
    · rw [List.filter_cons_of_neg (by simpa using he), ih, List.lookup_cons,
        beq_eq_false_iff_ne.mpr (he ▸ hne)]
    · rw [List.filter_cons_of_pos (by simpa using he), List.lookup_cons, List.lookup_cons, ih]

/-- **Putting an entry at a place** changes nothing elsewhere. -/
theorem entryAt?_put (hp : p ≠ []) (e : FileEntry) :
    (t.put p e).entryAt? q = if q = p then some e else t.entryAt? q := by
  rcases eq_or_ne q p with rfl | hne
  · simp [put, entryAt?, hp]
  · rw [if_neg hne]
    simp only [put, entryAt?, List.lookup_cons, beq_eq_false_iff_ne.mpr hne, lookup_filter_ne hne]

/-- The bytes at a path are those of the file at its place. -/
theorem bytes?_eq_some_iff {b : ByteArray} :
    t.bytes? path = some b ↔ t.entryAt? (place path) = some (.file b) := by
  simp only [bytes?, entry?]
  split <;> simp_all

theorem bytes?_congr (h : t'.entryAt? (place path) = t.entryAt? (place path)) :
    t'.bytes? path = t.bytes? path := by
  simp only [bytes?, entry?, h]

/-- What a write puts where. -/
theorem write_eq_some {b : ByteArray} (h : t.write path b = some t') :
    place path ≠ [] ∧ t' = t.put (place path) (.file b) := by
  simp only [write] at h
  split at h
  · cases h
  · next hfolder =>
    split at h
    · refine ⟨fun hnil => hfolder ?_, (Option.some.inj h).symm⟩
      simp [hnil, entryAt?]
    · cases h

/-- A file that was written is read back. -/
theorem bytes?_write {b : ByteArray} (h : t.write path b = some t') : t'.bytes? path = some b := by
  obtain ⟨hne, rfl⟩ := write_eq_some h
  rw [bytes?_eq_some_iff, entryAt?_put hne, if_pos rfl]

/-- Writing a file leaves those at other places alone. -/
theorem bytes?_write_of_ne {b : ByteArray} (h : t.write path b = some t')
    (hne : place other ≠ place path) : t'.bytes? other = t.bytes? other := by
  obtain ⟨hnil, rfl⟩ := write_eq_some h
  exact bytes?_congr (by rw [entryAt?_put hnil, if_neg hne])

/-- What is moved is found at the target. -/
theorem bytes?_rename (h : t.rename source target = some t') :
    t'.bytes? target = t.bytes? source := by
  simp only [rename] at h
  split at h
  · next b hsource =>
    split at h
    · cases h
    · next hfolder =>
      obtain rfl := Option.some.inj h
      have hne : place target ≠ [] := fun hnil => hfolder (by simp [isFolder, entry?, hnil, entryAt?])
      rw [bytes?_eq_some_iff.mpr hsource, bytes?_eq_some_iff, entryAt?_put hne, if_pos rfl]
  · cases h

/-- Making a folder leaves files alone. -/
theorem bytes?_makeFolderAt {b : ByteArray} (h : t.makeFolderAt p = some t')
    (hb : t.bytes? other = some b) : t'.bytes? other = some b := by
  simp only [makeFolderAt] at h
  split at h
  · obtain rfl := Option.some.inj h
    exact hb
  · cases h
  · next hnone =>
    obtain rfl := Option.some.inj h
    rw [bytes?_eq_some_iff] at hb ⊢
    have hp : p ≠ [] := by
      rintro rfl
      cases hnone
    -- a new folder is made only where nothing is, so not at the place of a file
    have hne : place other ≠ p := by
      rintro rfl
      rw [hnone] at hb
      cases hb
    rw [entryAt?_put hp, if_neg hne, hb]

/-- Making folders leaves all files as they are. -/
theorem bytes?_makeFoldersAt {b : ByteArray} {f : Nat → Place} {ns : List Nat}
    (h : ns.foldlM (fun t i => t.makeFolderAt (f i)) t = some t')
    (hb : t.bytes? other = some b) : t'.bytes? other = some b := by
  induction ns generalizing t with
  | nil =>
    obtain rfl := Option.some.inj h
    exact hb
  | cons n ns ih =>
    rw [List.foldlM_cons] at h
    obtain ⟨u, hu, h⟩ := Option.bind_eq_some_iff.mp h
    exact ih h (bytes?_makeFolderAt hu hb)

/-- The text of a file whose bytes are those of a text. -/
theorem read?_eq_some {s : String} (h : t.bytes? path = some s.toUTF8) :
    t.read? path = some s := by
  have hvalid : String.fromUTF8? s.toUTF8 = some s := by
    rw [String.fromUTF8?, String.toUTF8_eq_toByteArray, dif_pos s.isValidUTF8]
    rfl
  rw [read?, h]
  exact hvalid

end AssetFlow.Tree
