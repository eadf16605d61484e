import AssetFlow.Proofs.Files.Path
import AssetFlow.Proofs.Files.Tree

/-!
# What a folder holds

The files of a folder are named by the last names of their places. A change of a tree of files
changes the names in a folder by the one place that it changes, and folders are made only on the way
to a place, so none of them is in the folder of this place.

## Main definitions

- `Tree.places`: the places of a tree where something is

## Main statements

- `Path.place_join`: the place of a file of a folder
- `Path.place_parent`: the place of the folder of a file
- `Tree.mem_names_iff`: the names in a folder, by their places
- `Tree.mem_places_makeFolders`, `Tree.mem_places_rename`: which places changes fill and empty
-/

namespace AssetFlow

namespace Path

variable {dir name stem ext : String}

/-- The place of a path is where its parts lead. -/
theorem place_eq (path : String) : Tree.place path =
    (((path.toList.splitOn '/').map String.ofList).filterMap component?).foldl Tree.follow [] := by
  simp only [Tree.place, components]
  split
  · rfl
  · split <;> rfl

/-- A separator at the end means nothing. -/
theorem place_append_separator (dir : String) : Tree.place (dir ++ "/") = Tree.place dir := by
  have hlist : (dir ++ "/").toList = dir.toList ++ '/' :: [] := by simp
  rw [place_eq, place_eq, hlist, List.splitOn_append_cons_self, List.map_append,
    List.filterMap_append]
  simp [component?]

theorem place_trimmed (path : String) : Tree.place (trimmed path) = Tree.place path := by
  suffices h : ∀ cs : List Char, Tree.place (String.ofList (cs.dropWhile (· == '/')).reverse) =
      Tree.place (String.ofList cs.reverse) by
    rw [trimmed, h, List.reverse_reverse, String.ofList_toList]
  intro cs
  induction cs with
  | nil => rfl
  | cons c cs ih =>
    by_cases hc : c = '/'
    · have hlist : String.ofList (c :: cs).reverse = String.ofList cs.reverse ++ "/" := by
        rw [hc, List.reverse_cons, String.ofList_append]
      rw [List.dropWhile_cons_of_pos (by simpa using hc), ih, hlist, place_append_separator]
    · rw [List.dropWhile_cons_of_neg (by simpa using hc)]

/-- The place of a file is in the place of what stands before its name. -/
theorem place_append_name (hdir : IsFolderPart dir) (h : IsName name) :
    Tree.place (dir ++ name) = Tree.place dir ++ [name] := by
  rcases hdir with rfl | ⟨d, rfl⟩
  · have hempty : Tree.place "" = [] := rfl
    rw [hempty, String.empty_append, place_eq, List.splitOn_eq_singleton h.no_separator]
    simp [h.component?, Tree.follow]
  · have hlist : (d ++ "/" ++ name).toList = d.toList ++ '/' :: name.toList := by simp
    rw [place_append_separator, place_eq, place_eq, hlist, List.splitOn_append_cons_self,
      List.splitOn_eq_singleton h.no_separator, List.map_append, List.filterMap_append,
      List.foldl_append]
    simp [h.component?, Tree.follow]

/-- **The place of a file of a folder** is in the place of the folder. -/
theorem place_join (base : String) (h : IsName name) :
    ∃ dir, IsFolderPart dir ∧ Tree.place dir = Tree.place base ∧ join base name = dir ++ name := by
  obtain ⟨dir, hdir, heq⟩ := join_eq base h
  have hrel : isAbsolute name = false := by
    rw [isAbsolute, beq_eq_false_iff_ne]
    exact fun hhead => h.no_separator (List.mem_of_head? hhead)
  refine ⟨dir, hdir, ?_, heq⟩
  rw [join, hrel, if_neg Bool.false_ne_true] at heq
  split at heq
  · rw [(String.append_left_inj name).mp heq]
  · rw [← (String.append_left_inj name).mp heq, place_append_separator]

/-- **The place of the folder of a file.** -/
theorem place_parent (hdir : IsFolderPart dir) (h : IsName name) :
    ∃ folder, parent? (dir ++ name) = some folder ∧ Tree.place folder = Tree.place dir := by
  have hcut : String.ofList ((dir ++ name).toList.take ((dir ++ name).length - name.length)) =
      dir := by
    rw [String.length_append, Nat.add_sub_cancel, String.toList_append, ← String.length_toList,
      List.take_left, String.ofList_toList]
  simp only [parent?, fileName?_append hdir h, trimmed_append h, hcut]
  refine ⟨_, rfl, ?_⟩
  split
  · next hroot =>
    have hempty : trimmed dir = "" := by simpa using (Bool.and_eq_true_iff.mp hroot).1
    rw [← place_trimmed dir, hempty]
    rfl
  · exact place_trimmed dir

theorem extension?_append (hstem : '/' ∉ stem.toList) (hne : stem ≠ "")
    (hext : '/' ∉ ext.toList ∧ '.' ∉ ext.toList ∧ 2 ≤ ext.length) :
    extension? (stem ++ "." ++ ext) = some ext := by
  have hname := fileName?_append (.inl rfl) (isName_append hstem hne hext.1 hext.2.2)
  rw [String.empty_append] at hname
  rw [extension?, hname, Option.bind_eq_bind, Option.bind_some, cutName_append hne hext.2.1]

end Path

namespace Tree

variable {t t' : Tree} {p q : Place} {path source target name : String}

/-- The places where something is. -/
def places (t : Tree) : List Place :=
  t.entries.map Prod.fst

/-- **The names in a folder**, by their places. -/
theorem mem_names_iff : name ∈ t.names path ↔ place path ++ [name] ∈ t.places := by
  have hlast : ∀ q : Place, (if q.dropLast == place path then q.getLast? else none) = some name ↔
      q = place path ++ [name] := by
    intro q
    constructor
    · intro h
      split at h
      · next heq =>
        obtain ⟨init, rfl⟩ := List.getLast?_eq_some_iff.mp h
        rw [← beq_iff_eq.mp heq, List.dropLast_concat]
      · cases h
    · rintro rfl
      simp
  simp only [names, places, List.mem_filterMap, List.mem_map, hlast]

theorem mem_places_put {e : FileEntry} : q ∈ (t.put p e).places ↔ q = p ∨ q ∈ t.places := by
  simp only [put, places, List.map_cons, List.mem_cons, List.mem_map, List.mem_filter, bne_iff_ne]
  constructor
  · rintro (rfl | ⟨e, ⟨he, -⟩, rfl⟩)
    · exact .inl rfl
    · exact .inr ⟨e, he, rfl⟩
  · rintro (rfl | ⟨e, he, rfl⟩)
    · exact .inl rfl
    · rcases eq_or_ne e.1 p with heq | hne
      · exact .inl heq
      · exact .inr ⟨e, ⟨he, hne⟩, rfl⟩

/-- Making a folder fills its place at most. -/
theorem mem_places_makeFolderAt (h : t.makeFolderAt p = some t') (hne : q ≠ p) :
    q ∈ t'.places ↔ q ∈ t.places := by
  simp only [makeFolderAt] at h
  split at h
  · obtain rfl := Option.some.inj h
    rfl
  · cases h
  · obtain rfl := Option.some.inj h
    rw [mem_places_put, or_iff_right hne]

/-- **Making the folders that lead to a place** leaves alone what is in the last of them. -/
theorem mem_places_makeFolders (h : t.makeFolders path = some t')
    (hq : (place path).length < q.length) : q ∈ t'.places ↔ q ∈ t.places := by
  simp only [makeFolders] at h
  generalize List.range _ = is at h
  induction is generalizing t with
  | nil =>
    obtain rfl := Option.some.inj h
    rfl
  | cons i is ih =>
    rw [List.foldlM_cons] at h
    obtain ⟨u, hu, h⟩ := Option.bind_eq_some_iff.mp h
    have hne : q ≠ (place path).take (i + 1) := by
      rintro rfl
      rw [List.length_take] at hq
      omega
    rw [ih h, mem_places_makeFolderAt hu hne]

/-- **Moving a file** empties the source and fills the target. -/
theorem mem_places_rename (h : t.rename source target = some t') :
    q ∈ t'.places ↔ q = place target ∨ q ∈ t.places ∧ q ≠ place source := by
  simp only [rename] at h
  split at h
  · split at h
    · cases h
    · obtain rfl := Option.some.inj h
      rw [mem_places_put]
      refine or_congr_right ?_
      simp only [places, List.mem_map, List.mem_filter, bne_iff_ne]
      constructor
      · rintro ⟨e, ⟨he, hne⟩, rfl⟩
        exact ⟨⟨e, he, rfl⟩, hne⟩
      · rintro ⟨⟨e, he, rfl⟩, hne⟩
        exact ⟨e, ⟨he, hne⟩, rfl⟩
  · cases h

theorem entryAt?_rename (h : t.rename source target = some t') (hsource : p ≠ place source)
    (htarget : p ≠ place target) : t'.entryAt? p = t.entryAt? p := by
  simp only [rename] at h
  split at h
  · split at h
    · cases h
    · next hfolder =>
      obtain rfl := Option.some.inj h
      have hne : place target ≠ [] := fun hnil =>
        hfolder (by simp [isFolder, entry?, hnil, entryAt?])
      rw [entryAt?_put hne, if_neg htarget]
      simp only [entryAt?, lookup_filter_ne hsource]
  · cases h

/-- A file is written in a folder that is there. -/
theorem entryAt?_folder_of_write {b : ByteArray} (h : t.write path b = some t') :
    t.entryAt? (place path).dropLast = some .folder := by
  simp only [write] at h
  split at h
  · cases h
  · split at h
    · next hfolder => exact beq_iff_eq.mp hfolder
    · cases h

end Tree

end AssetFlow
