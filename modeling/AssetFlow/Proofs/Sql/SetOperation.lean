import AssetFlow.Proofs.Sql.ReadTables
import AssetFlow.Sql.Render

/-!
# What set operations keep

The outputs of a set operation are those of its left side, and each takes over the sources of the
output of the right side at its place (`getElem?_mergeByPlace`). So what the left side reads is read
by the whole; of the right side it is what the outputs read that have a place on the left. This goes
wrong with an output that stands for all columns of a table: it takes one place for any number of
columns, and if it stands on the left, what the right side reads beyond it is lost
(`name_not_read`).

## Main definitions

- `Reads`: some output is computed from a column
- `Body.branches`: the outputs of the selects that set operations combine
- `Body.Balanced`: in every set operation, all outputs of the right side have a place on the left

## Main statements

- `Body.reads_outputs_iff`: a balanced body reads what its selects read
- `set_operations_keep`: what the sides of a set operation read, and what is kept of it
-/

namespace AssetFlow.Sql

variable {schema : Schema} {ctes : CteScope} {left right os : List Output} {c : ColumnRef}

/-- Some output is computed from the column. -/
def Reads (os : List Output) (c : ColumnRef) : Prop :=
  ∃ o ∈ os, c ∈ o.sources

theorem reads_append {os' : List Output} : Reads (os ++ os') c ↔ Reads os c ∨ Reads os' c := by
  simp only [Reads, List.mem_append, or_and_right, exists_or]

/-- The first outputs read less than all. -/
theorem Reads.of_take {n : Nat} (h : Reads (os.take n) c) : Reads os c := by
  obtain ⟨o, ho, hc⟩ := h
  exact ⟨o, List.mem_of_mem_take ho, hc⟩

theorem reads_take_or_drop {n : Nat} :
    Reads os c ↔ Reads (os.take n) c ∨ Reads (os.drop n) c := by
  rw [← reads_append, List.take_append_drop]

/-! ### Merging by place -/

/-- Each output of the left side is computed from its own sources and those of the output at its
place on the right. -/
theorem getElem?_mergeByPlace {n : Nat} : (mergeByPlace left right)[n]? = left[n]?.map fun l =>
    Output.mk l.name ((right[n]?.map Output.sources).elim l.sources l.sources.union) := by
  induction left generalizing right n with
  | nil => rfl
  | cons l left ih =>
    cases right with
    | nil => simp [mergeByPlace]
    | cons r right =>
      cases n with
      | zero => rfl
      | succ n => exact ih

theorem reads_mergeByPlace :
    Reads (mergeByPlace left right) c ↔ Reads left c ∨ Reads (right.take left.length) c := by
  induction left generalizing right with
  | nil => simp [mergeByPlace, Reads]
  | cons l left ih =>
    cases right with
    | nil => simp [mergeByPlace, Reads]
    | cons r right =>
      have hcons : ∀ (o : Output) os, Reads (o :: os) c ↔ c ∈ o.sources ∨ Reads os c := by
        simp [Reads]
      rw [mergeByPlace, List.length_cons, List.take_succ_cons, hcons, hcons, hcons, ih,
        Sources.mem_union]
      tauto

/-! ### Nested set operations -/

mutual

def Query.branches (schema : Schema) (ctes : CteScope) : Query → List (List Output)
  | ⟨_, definitions, body, _⟩ => body.branches schema (bindCtes schema ctes definitions)
termination_by structural q => q

/-- The outputs of the selects that are combined by set operations, in the order of the text. -/
def Body.branches (schema : Schema) (ctes : CteScope) : Body → List (List Output)
  | .select s => [s.outputs schema ctes]
  | .query q => q.branches schema ctes
  | .setOp left _ right => left.branches schema ctes ++ right.branches schema ctes
  | .other _ => []
termination_by structural b => b

end

mutual

def Query.Balanced (schema : Schema) (ctes : CteScope) : Query → Prop
  | ⟨_, definitions, body, _⟩ => body.Balanced schema (bindCtes schema ctes definitions)
termination_by structural q => q

/-- No set operation has more outputs on its right side than on its left one. -/
def Body.Balanced (schema : Schema) (ctes : CteScope) : Body → Prop
  | .select _ | .other _ => True
  | .query q => q.Balanced schema ctes
  | .setOp left _ right => left.Balanced schema ctes ∧ right.Balanced schema ctes ∧
    (right.outputs schema ctes).length ≤ (left.outputs schema ctes).length
termination_by structural b => b

end

-- The induction is on the body; a query in parentheses is read with what its own clause binds.

mutual

theorem Query.reads_of_outputs {ctes : CteScope} :
    (q : Query) → Reads (q.outputs schema ctes) c → ∃ os ∈ q.branches schema ctes, Reads os c
  | ⟨_, _, body, _⟩, h => body.reads_of_outputs h
termination_by structural q => q

/-- A body reads nothing that none of its selects reads. -/
theorem Body.reads_of_outputs {ctes : CteScope} :
    (b : Body) → Reads (b.outputs schema ctes) c → ∃ os ∈ b.branches schema ctes, Reads os c
  | .select s, h => ⟨_, List.mem_singleton_self _, h⟩
  | .query q, h => q.reads_of_outputs h
  | .setOp left _ right, h => by
    rcases reads_mergeByPlace.mp h with h | h
    · obtain ⟨os, hos, hc⟩ := left.reads_of_outputs h
      exact ⟨os, List.mem_append_left _ hos, hc⟩
    · obtain ⟨os, hos, hc⟩ := right.reads_of_outputs h.of_take
      exact ⟨os, List.mem_append_right _ hos, hc⟩
  | .other _, h => by
    obtain ⟨o, ho, -⟩ := h
    cases ho
termination_by structural b => b

end

mutual

theorem Query.Balanced.reads {ctes : CteScope} : (q : Query) → q.Balanced schema ctes →
    os ∈ q.branches schema ctes → Reads os c → Reads (q.outputs schema ctes) c
  | ⟨_, _, body, _⟩, h, hos, hc => Body.Balanced.reads body h hos hc
termination_by structural q => q

/-- A balanced body reads all that its selects read. -/
theorem Body.Balanced.reads {ctes : CteScope} : (b : Body) → b.Balanced schema ctes →
    os ∈ b.branches schema ctes → Reads os c → Reads (b.outputs schema ctes) c
  | .select s, _, hos, hc => by
    rw [List.mem_singleton.mp hos] at hc
    exact hc
  | .query q, h, hos, hc => Query.Balanced.reads q h hos hc
  | .setOp left _ right, ⟨hleft, hright, hlength⟩, hos, hc => by
    refine reads_mergeByPlace.mpr ?_
    rcases List.mem_append.mp hos with hos | hos
    · exact .inl (Body.Balanced.reads left hleft hos hc)
    · rw [List.take_of_length_le hlength]
      exact .inr (Body.Balanced.reads right hright hos hc)
  | .other _, _, hos, _ => nomatch hos
termination_by structural b => b

end

/-- What is read by a body whose set operations are balanced. -/
theorem Body.reads_outputs_iff {b : Body} (h : b.Balanced schema ctes) :
    Reads (b.outputs schema ctes) c ↔ ∃ os ∈ b.branches schema ctes, Reads os c :=
  ⟨b.reads_of_outputs, fun ⟨_, hos, hc⟩ => h.reads b hos hc⟩

/-- **What a set operation keeps**: each output of its left side, with the sources of the output at
its place on the right. So it reads all that the left side reads, and of the right side what is read
by outputs that have a place on the left; nothing is lost just if all that is read beyond them is
read elsewhere. If no set operation inside has more outputs on the right than on the left, the whole
reads just what its selects read. -/
theorem set_operations_keep (schema : Schema) (ctes : CteScope) (left right : Body) (op : String) :
    let body := Body.setOp left op right
    let outputs := body.outputs schema ctes
    let ofLeft := left.outputs schema ctes
    let ofRight := right.outputs schema ctes
    (∀ n : Nat, outputs[n]? = ofLeft[n]?.map fun l =>
      Output.mk l.name ((ofRight[n]?.map Output.sources).elim l.sources l.sources.union)) ∧
    (∀ c, Reads outputs c ↔ Reads ofLeft c ∨ Reads (ofRight.take ofLeft.length) c) ∧
    ((∀ c, Reads ofRight c → Reads outputs c) ↔
      ∀ c, Reads (ofRight.drop ofLeft.length) c →
        Reads ofLeft c ∨ Reads (ofRight.take ofLeft.length) c) ∧
    (body.Balanced schema ctes →
      ∀ c, Reads outputs c ↔ ∃ os ∈ body.branches schema ctes, Reads os c) := by
  intro body outputs ofLeft ofRight
  refine ⟨fun _ => getElem?_mergeByPlace, fun _ => reads_mergeByPlace, ?_,
    fun h _ => Body.reads_outputs_iff h⟩
  constructor
  · intro hkept c hc
    exact reads_mergeByPlace.mp (hkept c (reads_take_or_drop.mpr (.inr hc)))
  · intro hbeyond c hc
    refine reads_mergeByPlace.mpr ?_
    exact (reads_take_or_drop.mp hc).elim .inr (hbeyond c)

/-- A select from a table. -/
def selectFrom (items : List Item) (table : String) : Body :=
  .select ⟨false, [], items, [], [⟨.table ⟨[⟨table, none⟩]⟩ [] none [], []⟩], []⟩

/-- A column without a qualifier. -/
def plainColumn (name : String) : Item :=
  .unnamed (.column [⟨name, none⟩])

/-- With the unknown columns on the right, nothing is lost: the first column takes them over. -/
theorem right_star_read :
    Reads ((Body.setOp (selectFrom [plainColumn "id", plainColumn "name"] "b") "UNION ALL"
      (selectFrom [.wildcard []] "a")).outputs {} []) ⟨"a", "*"⟩ := by
  obtain ⟨-, -, -, hbalanced⟩ := set_operations_keep {} []
    (selectFrom [plainColumn "id", plainColumn "name"] "b") (selectFrom [.wildcard []] "a")
    "UNION ALL"
  refine (hbalanced ⟨trivial, trivial, by decide⟩ _).mpr ⟨[Output.wildcard "a"], ?_, ?_⟩
  · exact List.mem_append_right _ (List.mem_singleton.mpr rfl)
  · exact ⟨Output.wildcard "a", List.mem_singleton_self _, List.mem_singleton_self _⟩

/-- The columns of a table that is not known, and two of another one. -/
def starUnion : Body :=
  .setOp (selectFrom [.wildcard []] "a") "UNION ALL"
    (selectFrom [plainColumn "id", plainColumn "name"] "b")

def unionSql : String := "select * from a union all select id, name from b"

/-- **A source that is dropped**: the right side reads a column that no output goes back to, since
all columns on the left take one place. -/
theorem name_not_read : starUnion.render = "SELECT * FROM a UNION ALL SELECT id, name FROM b" ∧
    Reads ((selectFrom [plainColumn "id", plainColumn "name"] "b").outputs {} []) ⟨"b", "name"⟩ ∧
    ¬ Reads (starUnion.outputs {} []) ⟨"b", "name"⟩ ∧
    columnLineage .duckDb {} unionSql = .ok (starUnion.outputs {} []) := by
  have houtputs : starUnion.outputs {} [] = [⟨"*", [⟨"a", "*"⟩, ⟨"b", "id"⟩]⟩] := by
    decide +kernel
  have hread : (firstStatement .duckDb unionSql).toOption.any (fun s =>
      decide (s.lineage {} = [⟨"*", [⟨"a", "*"⟩, ⟨"b", "id"⟩]⟩])) = true := by
    decide +kernel
  obtain ⟨s, h, hs⟩ := exists_ok_of_any hread
  refine ⟨by decide +kernel, ?_, ?_, ?_⟩
  · exact ⟨⟨"name", [⟨"b", "name"⟩]⟩, by decide +kernel, by decide⟩
  · rw [houtputs]
    simp [Reads]
  · rw [columnLineage_of_ok h, of_decide_eq_true hs, houtputs]

end AssetFlow.Sql
