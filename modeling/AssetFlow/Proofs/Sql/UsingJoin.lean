import AssetFlow.Proofs.Sql.Origin
import AssetFlow.Proofs.Text.Case
import AssetFlow.Sql.Render
import Mathlib.Algebra.BigOperators.Group.List.Basic
import Mathlib.Algebra.Order.Group.Multiset
import Mathlib.Data.List.Forall2

/-!
# Columns merged by `USING`

A join merges the columns of its two sides that have a name which its `USING` lists. The columns of
a `FROM` clause under this rule are given by recursion on its join trees (`sourceColumns`). A
wildcard reads one list of relations and one list of names instead, so it also merges columns that
no such join connects. What it yields is what is left of the columns of the join trees when those of
one name are merged, if any join of the clause lists it; this makes no difference just if no two of
them have such a name (`wildcard_of_joins`). If two do, an output is lost (`third_id_lost`).

## Main definitions

- `Coalesced`: columns of relations that share an output
- `coalesce`, `sourceColumns`: the columns of a join and of a `FROM` clause
- `collapse`: merges whatever has one of the names

## Main statements

- `accounts_sources`: each column of a relation is in one of the columns of the clause, in order
- `wildcard_of_joins`: the outputs of a wildcard and the columns of the join trees
-/

namespace AssetFlow.Sql

variable {names more : List String} {schema : Schema} {ctes : CteScope}

/-- Whether `q` is merged into the earlier output `p` if the names are merged. -/
def Output.joins (names : List String) (p q : Output) : Bool :=
  names.contains (Text.lower q.name) && Text.equalsIgnoringAsciiCase p.name q.name

/-- Columns of relations that share an output, which has the name of the first one. -/
structure Coalesced where
  first : Output
  others : Multiset Output
  deriving DecidableEq

namespace Coalesced

/-- A column that shares its output with no other. -/
def single (o : Output) : Coalesced :=
  ⟨o, 0⟩

def members (g : Coalesced) : Multiset Output :=
  g.first ::ₘ g.others

/-- Takes in all columns of others. -/
def absorb (g : Coalesced) (hs : List Coalesced) : Coalesced :=
  ⟨g.first, g.others + (hs.map members).sum⟩

def joins (names : List String) (g h : Coalesced) : Bool :=
  g.first.joins names h.first

/-- The others have the name of the first one, and it is one of the names. -/
def JoinedBy (names : List String) (g : Coalesced) : Prop :=
  ∀ o ∈ g.others, g.first.joins names o = true

/-- The output of the columns: the name of the first, the sources of all. -/
def HasOutput (g : Coalesced) (o : Output) : Prop :=
  o.name = g.first.name ∧ ∀ c, c ∈ o.sources ↔ ∃ p ∈ g.members, c ∈ p.sources

end Coalesced

open Coalesced

/-- The columns of a join that merges the names: those on the left take in those on the right, and
the rest of the right side follows. -/
def coalesce (names : List String) : List Coalesced → List Coalesced → List Coalesced
  | [], right => right
  | g :: left, right =>
    g.absorb (right.filter (g.joins names)) ::
      coalesce names left (right.filter fun h => !g.joins names h)

/-- Merges all columns that have the same one of the names, wherever they come from. -/
def collapse (names : List String) : List Coalesced → List Coalesced
  | [] => []
  | g :: rest =>
    g.absorb ((collapse names rest).filter (g.joins names)) ::
      (collapse names rest).filter fun h => !g.joins names h

mutual

/-- The columns of a relation and the relations joined to it. -/
def TableWithJoins.columns (schema : Schema) (ctes : CteScope) : TableWithJoins → List Coalesced
  | ⟨relation, joins⟩ => joinColumns schema ctes (relation.columns schema ctes) joins
termination_by structural t => t

def joinColumns (schema : Schema) (ctes : CteScope) (left : List Coalesced) :
    List Join → List Coalesced
  | [] => left
  | j :: rest => joinColumns schema ctes (j.columns schema ctes left) rest
termination_by structural js => js

/-- The columns of a join, where `left` are those of its left side. -/
def Join.columns (schema : Schema) (ctes : CteScope) (left : List Coalesced) :
    Join → List Coalesced
  | ⟨_, kind, relation, _, constraint⟩ =>
    coalesce (mergedColumns kind constraint) left (relation.columns schema ctes)
termination_by structural j => j

/-- A nested join is a relation of its own if it has an alias. -/
def TableFactor.columns (schema : Schema) (ctes : CteScope) : TableFactor → List Coalesced
  | .table name _ label _ => (namedRelation schema ctes name label).expand.map .single
  | .derived _ query (some a) _ =>
    (renameOutputs (query.outputs schema ctes) a.columns).map .single
  | .derived _ query none _ => (query.outputs schema ctes).map .single
  | .nested inner (some _) => (inner.addTo schema ctes {}).expandAll.map .single
  | .nested inner none => inner.columns schema ctes
  | .other _ => []
termination_by structural f => f

end

/-- The columns of a `FROM` clause; relations after a comma are joined without `USING`. -/
def sourceColumns (schema : Schema) (ctes : CteScope) : List TableWithJoins → List Coalesced
  | [] => []
  | t :: rest => t.columns schema ctes ++ sourceColumns schema ctes rest

/-! ### Names that are merged -/

namespace Output

variable {p q q' : Output}

/-- Outputs are joined when they have one name, whatever the case, and it is merged. -/
theorem joins_iff : p.joins names q = true ↔
    Text.lower p.name ∈ names ∧ q.name.map Char.toLower = p.name.map Char.toLower := by
  rw [joins, Bool.and_eq_true, List.contains_iff_mem]
  refine ⟨fun ⟨hmem, hname⟩ => ?_, fun ⟨hmem, hname⟩ => ?_⟩
  · rw [Text.lower_eq_of_equalsIgnoringAsciiCase hname]
    exact ⟨hmem, (Text.equalsIgnoringAsciiCase_iff.mp hname).symm⟩
  · have hcase := Text.equalsIgnoringAsciiCase_iff.mpr hname.symm
    exact ⟨Text.lower_eq_of_equalsIgnoringAsciiCase hcase ▸ hmem, hcase⟩

/-- Columns that are merged are merged into the same ones. -/
theorem joins_congr (h : q.joins more q' = true) : p.joins names q' = p.joins names q := by
  rw [Bool.eq_iff_iff, joins_iff, joins_iff, (joins_iff.mp h).2]

/-- What some names join, more names join. -/
theorem joins_mono (hsub : names ⊆ more) (h : p.joins names q = true) : p.joins more q = true :=
  joins_iff.mpr ⟨hsub (joins_iff.mp h).1, (joins_iff.mp h).2⟩

/-- Being joined passes from output to output. -/
theorem joins_trans (h : p.joins names q = true) (h' : q.joins more q' = true) :
    p.joins names q' = true :=
  (joins_congr h').trans h

/-- Of the names that are merged, only its own one matters for what a column takes in. -/
theorem joins_eq_or (hsub : names ⊆ more) :
    (∀ q, p.joins names q = false) ∨ ∀ q, p.joins names q = p.joins more q := by
  by_cases hmem : Text.lower p.name ∈ names
  · right
    intro q
    rw [Bool.eq_iff_iff, joins_iff, joins_iff]
    exact and_congr_left' (iff_of_true hmem (hsub hmem))
  · left
    intro q
    exact Bool.eq_false_iff.mpr fun h => hmem (joins_iff.mp h).1

end Output

/-! ### Merging once and for all -/

section Collapse

variable {g h : Coalesced} {xs ys left right : List Coalesced}

theorem absorb_nil : g.absorb [] = g := by
  rw [absorb, List.map_nil, List.sum_nil, add_zero]

/-- What a column has absorbed does not depend on the order. -/
theorem absorb_congr (hsum : (xs.map members).sum = (ys.map members).sum) :
    g.absorb xs = g.absorb ys := by
  rw [absorb, absorb, hsum]

/-- Absorbing twice is absorbing both at once. -/
theorem absorb_absorb : (g.absorb xs).absorb ys = g.absorb (xs ++ ys) := by
  rw [absorb, absorb, absorb, List.map_append, List.sum_append, add_assoc]

/-- A column that absorbs others has their members besides its own. -/
theorem members_absorb : (g.absorb xs).members = g.members + (xs.map members).sum := by
  rw [members, members, absorb, Multiset.cons_add]

theorem mem_sum_members {o : Output} :
    o ∈ (xs.map members).sum ↔ ∃ g ∈ xs, o ∈ g.members := by
  induction xs with
  | nil => simp
  | cons g rest ih =>
    rw [List.map_cons, List.sum_cons, Multiset.mem_add, ih, List.exists_mem_cons_iff]

/-- Telling columns apart by a property loses no members. -/
theorem sum_members_filter (p : Coalesced → Bool) (xs : List Coalesced) :
    ((xs.filter p).map members).sum + ((xs.filter fun h => !p h).map members).sum =
      (xs.map members).sum := by
  rw [← List.sum_append, ← List.map_append]
  exact ((List.filter_append_perm p xs).map members).sum_eq

/-- No members are lost when columns are collapsed. -/
theorem sum_members_collapse (names : List String) (xs : List Coalesced) :
    ((collapse names xs).map members).sum = (xs.map members).sum := by
  induction xs with
  | nil => rfl
  | cons g rest ih =>
    rw [collapse, List.map_cons, List.sum_cons, members_absorb, add_assoc, sum_members_filter, ih,
      List.map_cons, List.sum_cons]

/-- What is said of names that are merged may be asked before or after merging. -/
theorem filter_collapse {p : Output → Bool}
    (hp : ∀ q q', q.joins names q' = true → p q' = p q) (xs : List Coalesced) :
    (collapse names xs).filter (fun g => p g.first) =
      collapse names (xs.filter fun g => p g.first) := by
  induction xs with
  | nil => rfl
  | cons g rest ih =>
    rw [collapse, List.filter_cons, List.filter_cons, List.filter_filter]
    -- What `g` takes in is kept or left out together with `g`.
    by_cases hg : p g.first = true
    · rw [if_pos (by exact hg), if_pos hg, collapse, ← ih, List.filter_filter, List.filter_filter]
      congr 1
      · congr 1
        refine List.filter_congr fun h _ => ?_
        by_cases hjoins : g.joins names h = true
        · rw [hjoins, hp _ _ hjoins, hg, Bool.and_self]
        · rw [Bool.eq_false_iff.mpr hjoins, Bool.false_and]
      · exact List.filter_congr fun h _ => Bool.and_comm ..
    · rw [if_neg (by exact hg), if_neg hg, ← ih]
      refine List.filter_congr fun h _ => ?_
      by_cases hjoins : g.joins names h = true
      · rw [hp _ _ hjoins, Bool.eq_false_iff.mpr hg, Bool.false_and]
      · rw [Bool.eq_false_iff.mpr hjoins, Bool.not_false, Bool.and_true]

theorem filter_joins_collapse (g : Coalesced) (xs : List Coalesced) :
    (collapse names xs).filter (g.joins names) = collapse names (xs.filter (g.joins names)) :=
  filter_collapse (p := g.first.joins names) (fun _ _ h => Output.joins_congr h) xs

theorem filter_not_joins_collapse (g : Coalesced) (xs : List Coalesced) :
    (collapse names xs).filter (fun h => !g.joins names h) =
      collapse names (xs.filter fun h => !g.joins names h) :=
  filter_collapse (p := fun o => !g.first.joins names o)
    (fun _ _ h => congrArg (!·) (Output.joins_congr h)) xs

/-- The first column absorbs all that it joins, and the rest collapse without them. -/
theorem collapse_cons (g : Coalesced) (xs : List Coalesced) :
    collapse names (g :: xs) = g.absorb (xs.filter (g.joins names)) ::
      collapse names (xs.filter fun h => !g.joins names h) := by
  rw [collapse, filter_joins_collapse, filter_not_joins_collapse]
  exact congrArg (· :: _) (absorb_congr (sum_members_collapse names _))

theorem filter_filter_not (p : Coalesced → Bool) (xs : List Coalesced) :
    (xs.filter fun h => !p h).filter p = [] ∧
      ((xs.filter fun h => !p h).filter fun h => !p h) = xs.filter fun h => !p h := by
  rw [List.filter_filter, List.filter_filter]
  simp only [Bool.and_not_self, Bool.and_self, List.filter_false, and_self]

/-- A column that has absorbed some goes on absorbing from both of the lists that follow. -/
theorem collapse_absorb_append (names : List String) (g : Coalesced)
    (zs xs ys : List Coalesced) : collapse names (g.absorb zs :: (xs ++ ys)) =
      g.absorb (zs ++ (xs.filter (g.joins names) ++ ys.filter (g.joins names))) ::
        collapse names
          ((xs.filter fun h => !g.joins names h) ++ ys.filter fun h => !g.joins names h) := by
  rw [collapse_cons]
  show (g.absorb zs).absorb (List.filter (g.joins names) _) ::
    collapse names (List.filter (fun h => !g.joins names h) _) = _
  rw [List.filter_append, List.filter_append, absorb_absorb]

/-- The left part may be merged in advance. -/
theorem collapse_collapse_append (names : List String) (xs ys : List Coalesced) :
    collapse names (collapse names xs ++ ys) = collapse names (xs ++ ys) := by
  match xs with
  | [] => rfl
  | g :: rest =>
    -- What `g` does not take in is a shorter list, and holds nothing that it would.
    obtain ⟨hnone, hall⟩ := filter_filter_not (g.joins names) rest
    have hrest := collapse_collapse_append names (rest.filter fun h => !g.joins names h)
      (ys.filter fun h => !g.joins names h)
    rw [collapse_cons, List.cons_append, collapse_absorb_append, filter_joins_collapse,
      filter_not_joins_collapse, hnone, hall, hrest, collapse, List.nil_append, List.cons_append,
      collapse_cons, List.filter_append, List.filter_append]
termination_by xs.length
decreasing_by exact Nat.lt_succ_of_le (List.length_filter_le ..)

/-- Collapsing two lists after one another depends on what each collapses to. -/
theorem collapse_append_congr (hx : collapse names xs = collapse names left)
    (hy : collapse names ys = collapse names right) :
    collapse names (xs ++ ys) = collapse names (left ++ right) := by
  have hright : ∀ zs, collapse names (zs ++ ys) = collapse names (zs ++ right) := by
    intro zs
    induction zs with
    | nil => exact hy
    | cons g rest ih => rw [List.cons_append, List.cons_append, collapse, collapse, ih]
  rw [← collapse_collapse_append names xs, hx, collapse_collapse_append, hright]

/-- A join that merges no names puts the columns after one another. -/
theorem coalesce_nil (left right : List Coalesced) : coalesce [] left right = left ++ right := by
  induction left generalizing right with
  | nil => rfl
  | cons g rest ih =>
    have hjoins : g.joins [] = fun _ => false := rfl
    rw [coalesce, hjoins, List.filter_false, absorb_nil, ih, List.cons_append]
    show g :: (rest ++ right.filter fun _ => true) = _
    rw [List.filter_true]

/-- No members are lost when the sides of a join are coalesced. -/
theorem sum_members_coalesce (names : List String) (left right : List Coalesced) :
    ((coalesce names left right).map members).sum =
      (left.map members).sum + (right.map members).sum := by
  induction left generalizing right with
  | nil => rw [coalesce, List.map_nil, List.sum_nil, zero_add]
  | cons g rest ih =>
    rw [coalesce, List.map_cons, List.sum_cons, ih, members_absorb, List.map_cons, List.sum_cons,
      add_add_add_comm, sum_members_filter]

/-- The leading outputs of a join are some of those of its sides, in order. -/
theorem firsts_coalesce (names : List String) (left right : List Coalesced) :
    ((coalesce names left right).map first).Sublist (left.map first ++ right.map first) := by
  induction left generalizing right with
  | nil => exact List.Sublist.refl _
  | cons g rest ih =>
    exact ((ih _).trans ((List.Sublist.refl _).append (List.filter_sublist.map _))).cons_cons _

/-- The members of every column of a join are joined by its names and those of its sides. -/
theorem joinedBy_coalesce (hsub : names ⊆ more) (hleft : ∀ g ∈ left, g.JoinedBy more)
    (hright : ∀ g ∈ right, g.JoinedBy more) : ∀ g ∈ coalesce names left right, g.JoinedBy more := by
  induction left generalizing right with
  | nil => exact hright
  | cons g rest ih =>
    have hunmerged : ∀ h ∈ right.filter (fun h => !g.joins names h), h.JoinedBy more :=
      fun h hmem => hright h (List.mem_of_mem_filter hmem)
    have hrest := ih (List.forall_mem_cons.mp hleft).2 hunmerged
    refine List.forall_mem_cons.mpr ⟨fun o ho => ?_, hrest⟩
    obtain ho | ho := Multiset.mem_add.mp ho
    · exact (List.forall_mem_cons.mp hleft).1 o ho
    · obtain ⟨h, hmem, ho⟩ := mem_sum_members.mp ho
      obtain ⟨hh, hjoins⟩ := List.mem_filter.mp hmem
      have hfirst : g.first.joins more h.first = true := Output.joins_mono hsub hjoins
      obtain rfl | ho := Multiset.mem_cons.mp ho
      · exact hfirst
      · exact Output.joins_trans hfirst (hright h hh o ho)

/-- The columns of a join come to the same as those of its two sides if all of its names are merged
in the end. -/
theorem collapse_coalesce (hsub : names ⊆ more) (left right : List Coalesced) :
    collapse more (coalesce names left right) = collapse more (left ++ right) := by
  induction left generalizing right with
  | nil => rfl
  | cons g rest ih =>
    rw [coalesce, List.cons_append]
    obtain hnone | hsame := Output.joins_eq_or (p := g.first) hsub
    · have hjoins : g.joins names = fun _ => false := funext fun h => hnone h.first
      simp only [hjoins, Bool.not_false, List.filter_true, List.filter_false, absorb_nil]
      rw [collapse, collapse, ih]
    · have hjoins : g.joins names = g.joins more := funext fun h => hsame h.first
      obtain ⟨hnone, hall⟩ := filter_filter_not (g.joins more) right
      have hrest : ∀ g', collapse more (g' :: coalesce names rest
          (right.filter fun h => !g.joins more h)) =
            collapse more (g' :: (rest ++ right.filter fun h => !g.joins more h)) := by
        intro g'
        rw [collapse, collapse, ih]
      rw [hjoins, hrest, collapse_absorb_append, hnone, hall, List.append_nil, collapse_cons,
        List.filter_append, List.filter_append]
      refine congrArg (· :: _) (absorb_congr ?_)
      rw [List.map_append, List.map_append, List.sum_append, List.sum_append, add_comm]

/-- Columns of which no two are joined stay as they are. -/
theorem collapse_of_pairwise (h : xs.Pairwise fun g h => g.joins names h = false) :
    collapse names xs = xs := by
  induction h with
  | nil => rfl
  | @cons g rest hg _ ih =>
    have hnone : rest.filter (g.joins names) = [] :=
      List.filter_eq_nil_iff.mpr fun h hmem => Bool.eq_false_iff.mp (hg h hmem)
    have hall : (rest.filter fun h => !g.joins names h) = rest :=
      List.filter_eq_self.mpr fun h hmem => by rw [hg h hmem, Bool.not_false]
    rw [collapse, ih, hnone, hall, absorb_nil]

/-- Collapsing adds no columns. -/
theorem length_collapse_le (names : List String) (xs : List Coalesced) :
    (collapse names xs).length ≤ xs.length := by
  induction xs with
  | nil => exact le_rfl
  | cons g rest ih =>
    rw [collapse, List.length_cons, List.length_cons]
    exact Nat.succ_le_succ ((List.length_filter_le ..).trans ih)

/-- If no column is merged, none has to be. -/
theorem pairwise_of_length_collapse (h : (collapse names xs).length = xs.length) :
    xs.Pairwise fun g h => g.joins names h = false := by
  induction xs with
  | nil => exact .nil
  | cons g rest ih =>
    rw [collapse, List.length_cons, List.length_cons, Nat.succ.injEq] at h
    have hfilter := List.length_filter_le (fun h => !g.joins names h) (collapse names rest)
    have hrest := ih (by have := length_collapse_le names rest; omega)
    rw [collapse_of_pairwise hrest, List.length_filter_eq_length_iff] at h
    exact .cons (fun h' hmem => Bool.not_eq_true' _ ▸ h h' hmem) hrest

end Collapse

/-! ### Wildcards -/

section Wildcard

variable {o p : Output} {outs ps : List Output}

/-- An output is taken in by the first one that joins it, or added at the end. -/
theorem addOutput_cons (names : List String) (p : Output) (outs : List Output) (o : Output) :
    Scope.addOutput names (p :: outs) o =
      if p.joins names o = true then ⟨p.name, p.sources.union o.sources⟩ :: outs
      else p :: Scope.addOutput names outs o := by
  rw [Scope.addOutput, Scope.addOutput, Output.joins]
  by_cases hmerged : names.contains (Text.lower o.name) = true
  · rw [if_pos hmerged, if_pos hmerged, hmerged, Bool.true_and, Scope.addOutput.join]
    by_cases hname : Text.equalsIgnoringAsciiCase p.name o.name = true
    · rw [if_pos hname, if_pos hname, Option.getD_some]
    · rw [if_neg hname, if_neg hname]
      cases Scope.addOutput.join o outs <;> rfl
  · rw [if_neg hmerged, if_neg hmerged, Bool.eq_false_iff.mpr hmerged, Bool.false_and,
      if_neg Bool.false_ne_true, List.cons_append]

/-- The first output takes in all outputs that are merged with it, the others go on. -/
theorem foldl_addOutput_cons (names : List String) (p : Output) (outs ps : List Output) :
    ps.foldl (Scope.addOutput names) (p :: outs) =
      ⟨p.name, (ps.filter (p.joins names)).foldl (fun acc o => acc.union o.sources) p.sources⟩ ::
        (ps.filter fun o => !p.joins names o).foldl (Scope.addOutput names) outs := by
  induction ps generalizing p outs with
  | nil => rfl
  | cons o rest ih =>
    rw [List.foldl_cons, addOutput_cons, List.filter_cons, List.filter_cons]
    by_cases hjoins : p.joins names o = true
    · rw [if_pos hjoins, if_pos hjoins, hjoins, Bool.not_true, if_neg Bool.false_ne_true, ih]
      rfl
    · rw [if_neg hjoins, if_neg hjoins, Bool.eq_false_iff.mpr hjoins, Bool.not_false, if_pos rfl,
        ih]
      rfl

/-- The sources of a column that has taken in others are its own and theirs. -/
theorem mem_foldl_union {c : ColumnRef} (ps : List Output) (cs : Sources) :
    c ∈ ps.foldl (fun acc o => acc.union o.sources) cs ↔ c ∈ cs ∨ ∃ p ∈ ps, c ∈ p.sources := by
  induction ps generalizing cs with
  | nil => simp
  | cons p rest ih =>
    rw [List.foldl_cons, ih, Sources.mem_union, List.exists_mem_cons_iff, or_assoc]

theorem sum_members_singles (ps : List Output) :
    ((ps.map single).map members).sum = (ps : Multiset Output) := by
  induction ps with
  | nil => rfl
  | cons p rest ih =>
    rw [List.map_cons, List.map_cons, List.sum_cons, ih, members, single, ← Multiset.cons_coe,
      Multiset.cons_add, zero_add]

/-- A wildcard merges all columns that have the same one of the names. -/
theorem hasOutput_foldl (names : List String) (ps : List Output) :
    List.Forall₂ HasOutput (collapse names (ps.map single))
      (ps.foldl (Scope.addOutput names) []) := by
  match ps with
  | [] => exact .nil
  | p :: rest =>
    have hfirst : Scope.addOutput names [] p = [p] := by
      rw [Scope.addOutput]
      split <;> rfl
    have hrest := hasOutput_foldl names (rest.filter fun o => !p.joins names o)
    have hjoined : (rest.map single).filter ((single p).joins names) =
        (rest.filter (p.joins names)).map single := List.filter_map ..
    have hleft : (rest.map single).filter (fun g => !(single p).joins names g) =
        (rest.filter fun o => !p.joins names o).map single := List.filter_map ..
    rw [List.foldl_cons, hfirst, foldl_addOutput_cons, List.map_cons, collapse_cons, hjoined, hleft]
    refine .cons ⟨rfl, fun c => ?_⟩ hrest
    rw [mem_foldl_union, members_absorb, sum_members_singles]
    simp only [members, single, Multiset.mem_add, Multiset.mem_cons, Multiset.notMem_zero, or_false,
      Multiset.mem_coe, or_and_right, exists_or, exists_eq_left]
termination_by ps.length
decreasing_by exact Nat.lt_succ_of_le (List.length_filter_le ..)

end Wildcard

/-! ### The columns of a clause -/

namespace Scope

/-- All columns of the relations. -/
def columns (s : Scope) : List Output :=
  s.relations.flatMap Relation.expand

/-- The relations and the merged names of both. -/
def append (s t : Scope) : Scope :=
  ⟨s.relations ++ t.relations, s.merged ++ t.merged⟩

/-- The columns are those of the relations of the scope, merged by some of its names. -/
structure Accounts (s : Scope) (groups : List Coalesced) : Prop where
  members : (groups.map Coalesced.members).sum = (s.columns : Multiset Output)
  order : (groups.map Coalesced.first).Sublist s.columns
  joined : ∀ g ∈ groups, g.JoinedBy s.merged
  collapsed : ∀ names, s.merged ⊆ names →
    collapse names groups = collapse names (s.columns.map Coalesced.single)

variable {s t : Scope} {groups left right : List Coalesced}

theorem append_empty : s.append {} = s := by
  rw [append, List.append_nil, List.append_nil]

/-- The scope of a single relation accounts for the columns of that relation. -/
theorem Accounts.relation (r : Relation) :
    Accounts (Scope.push {} r) (r.expand.map Coalesced.single) := by
  have hcolumns : columns (Scope.push {} r) = r.expand := List.flatMap_singleton ..
  constructor
  · rw [hcolumns, sum_members_singles]
  · rw [hcolumns, List.map_map]
    exact (List.map_id r.expand).symm ▸ List.Sublist.refl _
  · intro g hg o ho
    obtain ⟨p, -, rfl⟩ := List.mem_map.mp hg
    exact absurd ho (Multiset.notMem_zero o)
  · intro names _
    rw [hcolumns]

theorem Accounts.empty : Accounts {} [] where
  members := rfl
  order := .slnil
  joined := fun _ hg => absurd hg List.not_mem_nil
  collapsed := fun _ _ => rfl

/-- A join adds the relations of its right side and its own names. -/
theorem Accounts.join (hs : s.Accounts left) (ht : t.Accounts right) (names : List String) :
    Accounts ⟨s.relations ++ t.relations, s.merged ++ t.merged ++ names⟩
      (coalesce names left right) := by
  have hcolumns : columns ⟨s.relations ++ t.relations, s.merged ++ t.merged ++ names⟩ =
      s.columns ++ t.columns := List.flatMap_append
  obtain ⟨hleft, hright⟩ := List.append_subset.mp
    (List.subset_append_left (s.merged ++ t.merged) names)
  constructor
  · rw [sum_members_coalesce, hs.members, ht.members, hcolumns, Multiset.coe_add]
  · rw [hcolumns]
    exact (firsts_coalesce ..).trans (hs.order.append ht.order)
  · refine joinedBy_coalesce (List.subset_append_right ..) (fun g hg o ho => ?_) fun g hg o ho => ?_
    · exact Output.joins_mono hleft (hs.joined g hg o ho)
    · exact Output.joins_mono hright (ht.joined g hg o ho)
  · intro more hmore
    obtain ⟨hboth, hnames⟩ := List.append_subset.mp hmore
    obtain ⟨hleft, hright⟩ := List.append_subset.mp hboth
    rw [collapse_coalesce hnames, hcolumns, List.map_append]
    exact collapse_append_congr (hs.collapsed more hleft) (ht.collapsed more hright)

end Scope

/-- A relation is added to a scope without regard to what the scope held before. -/
theorem TableFactor.addTo_append (s t : Scope) (f : TableFactor) :
    f.addTo schema ctes (s.append t) = s.append (f.addTo schema ctes t) := by
  cases f with
  | table name arguments label hints =>
    rw [TableFactor.addTo, TableFactor.addTo, Scope.push, Scope.append, List.append_assoc]
    rfl
  | derived _ query label _ =>
    cases label <;> simp only [TableFactor.addTo, Scope.push, Scope.append, List.append_assoc]
  | nested inner label =>
    cases label <;> simp only [TableFactor.addTo, Scope.push, Scope.append, List.append_assoc]
  | other pieces => rfl

theorem Join.addTo_append (s t : Scope) (j : Join) :
    j.addTo schema ctes (s.append t) = s.append (j.addTo schema ctes t) := by
  obtain ⟨_, kind, relation, _, constraint⟩ := j
  rw [Join.addTo, Join.addTo, relation.addTo_append, Scope.append, Scope.append, List.append_assoc]

theorem joinScope_append (s t : Scope) (js : List Join) :
    joinScope schema ctes (s.append t) js = s.append (joinScope schema ctes t js) := by
  induction js generalizing t with
  | nil => rfl
  | cons j rest ih => rw [joinScope, joinScope, j.addTo_append, ih]

theorem TableWithJoins.addTo_append (s t : Scope) (w : TableWithJoins) :
    w.addTo schema ctes (s.append t) = s.append (w.addTo schema ctes t) := by
  obtain ⟨relation, joins⟩ := w
  rw [TableWithJoins.addTo, TableWithJoins.addTo, relation.addTo_append, joinScope_append]

-- Scopes only grow, so that each relation and each join can be looked at on its own.

mutual

/-- The scope of joined relations accounts for the columns of the join, by recursion on the tree. -/
theorem TableWithJoins.accounts : (w : TableWithJoins) →
    (w.addTo schema ctes {}).Accounts (w.columns schema ctes)
  | ⟨relation, joins⟩ => accounts_joins relation.accounts joins
termination_by structural w => w

theorem accounts_joins {s : Scope} {left : List Coalesced} (hs : s.Accounts left) :
    (js : List Join) → (joinScope schema ctes s js).Accounts (joinColumns schema ctes left js)
  | [] => hs
  | j :: rest => accounts_joins (j.accounts hs) rest
termination_by structural js => js

theorem Join.accounts {s : Scope} {left : List Coalesced} (hs : s.Accounts left) :
    (j : Join) → (j.addTo schema ctes s).Accounts (j.columns schema ctes left)
  | ⟨_, kind, relation, _, constraint⟩ => by
    have hscope : relation.addTo schema ctes (s.append {}) =
        s.append (relation.addTo schema ctes {}) := relation.addTo_append s {}
    rw [Scope.append_empty] at hscope
    rw [Join.addTo, Join.columns, hscope]
    exact hs.join relation.accounts (mergedColumns kind constraint)
termination_by structural j => j

theorem TableFactor.accounts : (f : TableFactor) →
    (f.addTo schema ctes {}).Accounts (f.columns schema ctes)
  | .table name _ label _ => .relation (namedRelation schema ctes name label)
  | .derived _ query (some a) _ => .relation
    ⟨a.name.value, none, some (renameOutputs (query.outputs schema ctes) a.columns)⟩
  | .derived _ query none _ => .relation ⟨"", none, some (query.outputs schema ctes)⟩
  | .nested inner (some a) => .relation
    ⟨a.name.value, none, some (inner.addTo schema ctes {}).expandAll⟩
  | .nested inner none => inner.accounts
  | .other _ => .empty
termination_by structural f => f

end

/-- Each column of a relation is in one of the columns of the clause, and these come in the order of
their first ones; the others have the same name, which a join lists. -/
theorem accounts_sources {s : Scope} {left : List Coalesced} (hs : s.Accounts left)
    (ts : List TableWithJoins) :
    (sourceScope schema ctes s ts).Accounts (left ++ sourceColumns schema ctes ts) := by
  induction ts generalizing s left with
  | nil =>
    rw [sourceColumns, List.append_nil]
    exact hs
  | cons w rest ih =>
    have hscope : w.addTo schema ctes (s.append {}) = s.append (w.addTo schema ctes {}) :=
      w.addTo_append s {}
    have hw : (w.addTo schema ctes {}).Accounts (w.columns schema ctes) := w.accounts
    have hjoin := hs.join hw []
    rw [coalesce_nil, List.append_nil] at hjoin
    rw [Scope.append_empty] at hscope
    rw [sourceScope, sourceColumns, hscope, ← List.append_assoc]
    exact ih hjoin

/-- **What a wildcard merges**: its outputs are what is left of the columns of the join trees when
all of one name are merged, if some join of the clause lists this name, be it connected with them or
not. So they are the columns of the join trees just if no two of these have such a name. -/
theorem wildcard_of_joins (ts : List TableWithJoins) (options : List Piece) :
    let scope := sourceScope schema ctes {} ts
    let columns := sourceColumns schema ctes ts
    let outputs := (Item.wildcard options).outputs schema ctes scope
    (columns.map members).sum = (scope.columns : Multiset Output) ∧
    (columns.map first).Sublist scope.columns ∧
    (∀ g ∈ columns, g.JoinedBy scope.merged) ∧
    List.Forall₂ HasOutput (collapse scope.merged columns) outputs ∧
    (List.Forall₂ HasOutput columns outputs ↔
      columns.Pairwise fun g h => g.joins scope.merged h = false) := by
  intro scope columns outputs
  have haccounts : scope.Accounts columns := accounts_sources .empty ts
  have houtputs : List.Forall₂ HasOutput (collapse scope.merged columns) outputs := by
    rw [haccounts.collapsed _ (List.Subset.refl _)]
    exact hasOutput_foldl scope.merged scope.columns
  refine ⟨haccounts.members, haccounts.order, haccounts.joined, houtputs, fun h => ?_, fun h => ?_⟩
  · exact pairwise_of_length_collapse (houtputs.length_eq.trans h.length_eq.symm)
  · rwa [collapse_of_pairwise h] at houtputs

/-- Tables that have one column each, of the same name. -/
def idSchema : Schema :=
  ⟨["a", "b", "c"].map fun name => ⟨name, [⟨"id", "INTEGER"⟩]⟩⟩

def plainTable (name : String) : TableFactor :=
  .table ⟨[⟨name, none⟩]⟩ [] none []

/-- Two tables joined by `id`, and a third one beside them. -/
def threeTables : TableWithJoins :=
  ⟨plainTable "a", [⟨false, .plain, plainTable "b", [], .using [⟨[⟨"id", none⟩]⟩]⟩,
    ⟨false, .cross, plainTable "c", [], .none⟩]⟩

def threeIds : Select :=
  ⟨false, [], [.wildcard []], [], [threeTables], []⟩

theorem lastPart_id : lastPart "id" = "id" := by
  have hsplit : "id".splitOn "." = ["id"] := by
    show String.splitOnAux "id" "." 0 0 0 [] = ["id"]
    iterate 2 rw [String.splitOnAux, if_neg (by decide), if_neg (by decide)]
    rw [String.splitOnAux, if_pos (by decide)]
    decide
  rw [lastPart, hsplit]
  rfl

/-- The column of the third table is one of its own, and a wildcard has no output for it. -/
theorem third_id_lost :
    (Body.select threeIds).render = "SELECT * FROM a JOIN b USING(id) CROSS JOIN c" ∧
    sourceColumns idSchema [] [threeTables] =
      [⟨⟨"id", [⟨"a", "id"⟩]⟩, {⟨"id", [⟨"b", "id"⟩]⟩}⟩, ⟨⟨"id", [⟨"c", "id"⟩]⟩, 0⟩] ∧
    threeIds.outputs idSchema [] = [⟨"id", [⟨"a", "id"⟩, ⟨"b", "id"⟩, ⟨"c", "id"⟩]⟩] ∧
    ¬ List.Forall₂ HasOutput (sourceColumns idSchema [] [threeTables])
      (threeIds.outputs idSchema []) := by
  have hid : mergedColumns .plain (.using [⟨[⟨"id", none⟩]⟩]) = ["id"] := by
    show [Text.lower (lastPart "id")] = ["id"]
    rw [lastPart_id]
    decide +kernel
  have hnone : mergedColumns .cross .none = [] := rfl
  have hcolumns : sourceColumns idSchema [] [threeTables] =
      [⟨⟨"id", [⟨"a", "id"⟩]⟩, {⟨"id", [⟨"b", "id"⟩]⟩}⟩, ⟨⟨"id", [⟨"c", "id"⟩]⟩, 0⟩] := by
    simp only [sourceColumns, threeTables, TableWithJoins.columns, joinColumns, Join.columns, hid,
      hnone]
    decide +kernel
  have houtputs : threeIds.outputs idSchema [] =
      [⟨"id", [⟨"a", "id"⟩, ⟨"b", "id"⟩, ⟨"c", "id"⟩]⟩] := by
    simp only [threeIds, Select.outputs, sourceScope, threeTables, TableWithJoins.addTo, joinScope,
      Join.addTo, hid, hnone]
    decide +kernel
  refine ⟨by decide +kernel, hcolumns, houtputs, fun h => ?_⟩
  have hlength := h.length_eq
  rw [hcolumns, houtputs] at hlength
  exact absurd hlength (by decide)

end AssetFlow.Sql
