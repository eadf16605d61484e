import AssetFlow.Files.Tree
import Mathlib.Tactic.Common

/-!
# Files side by side

The path of a file with another extension is the path of another file of the same folder. Hence a
file that is written beside a file does not touch it.

## Main definitions

- `Path.IsName`: a text is the name of a file
- `Path.IsFolderPart`: a text is what stands before the name of a file

## Main statements

- `Path.withExtension_append`: the path with another extension
- `Path.place_append`: the place of a file of a folder
- `Path.place_withExtension_ne`: a file with another extension is another file
-/

namespace AssetFlow.Path

/-- A text is the name of a file. -/
structure IsName (name : String) : Prop where
  no_separator : '/' ∉ name.toList
  nonempty : name ≠ ""
  ne_here : name ≠ "."
  ne_up : name ≠ ".."

/-- A text is what stands before the name of a file: nothing, or it ends with a separator. -/
def IsFolderPart (dir : String) : Prop :=
  dir = "" ∨ ∃ d, dir = d ++ "/"

variable {dir name stem ext : String}

theorem IsName.component? (h : IsName name) : component? name = some (.name name) := by
  simp [Path.component?, h.nonempty, h.ne_here, h.ne_up]

/-- A name with an extension is the name of a file if its stem has no separator. -/
theorem isName_append (hstem : '/' ∉ stem.toList) (hne : stem ≠ "") (hext : '/' ∉ ext.toList)
    (hlen : 2 ≤ ext.length) : IsName (stem ++ "." ++ ext) := by
  have hpos : 0 < stem.length := by
    rw [Nat.pos_iff_ne_zero, ne_eq, String.length_eq_zero_iff]
    exact hne
  have hlong : ∀ {s : String}, s.length ≤ 2 → stem ++ "." ++ ext ≠ s := by
    rintro s hs rfl
    simp only [String.length_append] at hs
    omega
  refine ⟨?_, hlong (by decide), hlong (by decide), hlong (by decide)⟩
  simp [hstem, hext]

/-- The parts of the path of a file are those of its folder, and its name. -/
theorem parts_append (hdir : IsFolderPart dir) : ∃ parts : List String, ∀ name, IsName name →
    ((dir ++ name).toList.splitOn '/').map String.ofList = parts ++ [name] := by
  rcases hdir with rfl | ⟨d, rfl⟩
  · refine ⟨[], fun name h => ?_⟩
    simp [List.splitOn_eq_singleton h.no_separator]
  · refine ⟨(d.toList.splitOn '/').map String.ofList, fun name h => ?_⟩
    have hlist : (d ++ "/" ++ name).toList = d.toList ++ '/' :: name.toList := by simp
    rw [hlist, List.splitOn_append_cons_self, List.splitOn_eq_singleton h.no_separator]
    simp

/-- **The place of a file** is in the place of its folder. -/
theorem place_append (hdir : IsFolderPart dir) :
    ∃ p, ∀ name, IsName name → Tree.place (dir ++ name) = p ++ [name] := by
  obtain ⟨parts, hparts⟩ := parts_append hdir
  refine ⟨(parts.filterMap component?).foldl Tree.follow [], fun name h => ?_⟩
  have hstart : ∀ start cs, start = [] ∨ start = [.root] ∨ start = [.here] →
      (start ++ cs).foldl Tree.follow [] = cs.foldl Tree.follow [] := by
    rintro _ cs (rfl | rfl | rfl) <;> rfl
  simp only [Tree.place, components]
  rw [hstart _ _ (by split <;> [simp; (split <;> simp)]), hparts name h, List.filterMap_append,
    List.foldl_append]
  simp [h.component?, Tree.follow]

theorem fileName?_append (hdir : IsFolderPart dir) (h : IsName name) :
    fileName? (dir ++ name) = some name := by
  obtain ⟨parts, hparts⟩ := parts_append hdir
  simp only [fileName?, components, hparts name h, List.filterMap_append, List.filterMap_cons,
    h.component?, List.filterMap_nil, ← List.append_assoc, List.getLast?_concat]

theorem trimmed_append (h : IsName name) : trimmed (dir ++ name) = dir ++ name := by
  have hlast : ∃ c rest, name.toList.reverse = c :: rest ∧ c ≠ '/' := by
    cases hrev : name.toList.reverse with
    | nil => exact absurd (by simpa using hrev) h.nonempty
    | cons c rest =>
      refine ⟨c, rest, rfl, fun hc => h.no_separator ?_⟩
      rw [← List.mem_reverse, hrev, hc]
      exact List.mem_cons_self ..
  obtain ⟨c, rest, hrev, hc⟩ := hlast
  rw [trimmed, String.toList_append, List.reverse_append, hrev, List.cons_append,
    List.dropWhile_cons_of_neg (by simpa using hc), ← List.cons_append, ← hrev,
    ← List.reverse_append, List.reverse_reverse, ← String.toList_append, String.ofList_toList]

theorem cutName_append (hne : stem ≠ "") (hext : '.' ∉ ext.toList) :
    cutName (stem ++ "." ++ ext) = (stem, some ext) := by
  have hlist : (stem ++ "." ++ ext).toList = stem.toList ++ '.' :: ext.toList := by simp
  have hsplit : (stem ++ "." ++ ext).toList.splitOn '.' =
      stem.toList.splitOn '.' ++ [ext.toList] := by
    rw [hlist, List.splitOn_append_cons_self, List.splitOn_eq_singleton hext]
  have hpos := List.length_pos_iff.mpr (List.splitOn_ne_nil '.' stem.toList)
  have hcut : stem.toList.isEmpty = false := by simpa using hne
  simp only [cutName, hsplit, List.length_append, List.length_singleton, List.dropLast_concat,
    List.intercalate_splitOn, hcut, Bool.false_eq_true, if_false, List.getLast?_concat,
    Option.map_some, String.ofList_toList]
  rw [if_neg (by omega)]

/-- **The path of a file with another extension.** -/
theorem withExtension_append (hdir : IsFolderPart dir) (hstem : IsName (stem ++ "." ++ ext))
    (hne : stem ≠ "") (hext : '.' ∉ ext.toList) {ext' : String} (hext' : ext' ≠ "") :
    withExtension (dir ++ (stem ++ "." ++ ext)) ext' = dir ++ (stem ++ "." ++ ext') := by
  have hempty : ext'.isEmpty = false := by simpa using hext'
  have hfolder : String.ofList ((dir ++ (stem ++ "." ++ ext)).toList.take
      ((dir ++ (stem ++ "." ++ ext)).length - (stem ++ "." ++ ext).length)) = dir := by
    rw [String.length_append, Nat.add_sub_cancel, String.toList_append, ← String.length_toList,
      List.take_left, String.ofList_toList]
  simp only [withExtension, fileName?_append hdir hstem, trimmed_append hstem,
    cutName_append hne hext, hempty, Bool.false_eq_true, if_false, hfolder]
  simp only [String.append_assoc]

/-- A path that leads into a folder is the path of a file of a folder. -/
theorem join_eq (base : String) (h : IsName name) :
    ∃ dir, IsFolderPart dir ∧ join base name = dir ++ name := by
  have hrel : isAbsolute name = false := by
    rw [isAbsolute, beq_eq_false_iff_ne]
    exact fun hhead => h.no_separator (List.mem_of_head? hhead)
  rw [join, hrel, if_neg Bool.false_ne_true]
  split
  · next hlast =>
    refine ⟨base, ?_, rfl⟩
    cases hget : base.toList.getLast? with
    | none => exact .inl (by simpa using hget)
    | some c =>
      rw [hget, Option.all_some, beq_iff_eq] at hlast
      obtain ⟨cs, hcs⟩ := List.getLast?_eq_some_iff.mp hget
      refine .inr ⟨String.ofList cs, String.toList_inj.mp ?_⟩
      simp [hcs, hlast]
  · exact ⟨base ++ "/", .inr ⟨base, rfl⟩, rfl⟩

/-- **A file with another extension** is another file. -/
theorem place_withExtension_ne (base : String) {ext' : String} (hne : stem ≠ "")
    (hstem : '/' ∉ stem.toList) (hext : '/' ∉ ext.toList ∧ '.' ∉ ext.toList ∧ 2 ≤ ext.length)
    (hext' : '/' ∉ ext'.toList ∧ 2 ≤ ext'.length) (hdiff : ext' ≠ ext) :
    Tree.place (withExtension (join base (stem ++ "." ++ ext)) ext') ≠
      Tree.place (join base (stem ++ "." ++ ext)) := by
  have hname := isName_append hstem hne hext.1 hext.2.2
  have hname' := isName_append hstem hne hext'.1 hext'.2
  have hempty : ext' ≠ "" := by
    rintro rfl
    exact absurd hext'.2 (by decide)
  obtain ⟨dir, hdir, heq⟩ := join_eq base hname
  obtain ⟨p, hplace⟩ := place_append hdir
  rw [heq, withExtension_append hdir hname hne hext.2.1 hempty, hplace _ hname, hplace _ hname']
  intro hsame
  have hlast := List.singleton_inj.mp (List.append_cancel_left hsame)
  rw [String.append_assoc, String.append_assoc] at hlast
  exact hdiff (String.append_right_inj _ |>.mp (String.append_right_inj _ |>.mp hlast))

end AssetFlow.Path
