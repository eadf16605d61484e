import AssetFlow.Proofs.Sql.Correlation
import AssetFlow.Proofs.Sql.UsingJoin

/-!
# Relations that match

Two relations of a `FROM` clause match if they have columns of the same names whose sources
correspond, under a relation between sources that is kept by all that lineage does with them. Where
one of the two is a table and the other one is not, they differ in columns that are not declared. So
a reference that is read from relations at the same place has corresponding sources if both of them
are tables, or none is, or they declare the column (`Scope.readsAlike`).

## Main definitions

- `Sources.Kept`: a relation between sources that lineage keeps
- `OutputsMatch`: outputs of the same names with corresponding sources
- `Relation.Matches`, `Scope.Matches`: relations that provide corresponding columns
- `Scope.readsAlike`: references that are read from relations at the same place

## Main statements

- `Scope.Matches.unqualified`, `Scope.Matches.qualified`: columns read in matching scopes
- `Scope.Matches.expandAll`: the outputs of a wildcard in matching scopes
-/

namespace AssetFlow.Sql

variable {S : Sources → Sources → Prop}

/-! ### Sources, outputs and relations -/

/-- A relation between sources that is kept by what lineage does with sources. -/
structure Sources.Kept (S : Sources → Sources → Prop) : Prop where
  nil : S [] []
  union : ∀ {a a' b b'}, S a a' → S b b' → S (a.union b) (a'.union b')
  column : ∀ {a a'} (column : String), S a a' →
    S (unions (a.map fun c => [⟨c.table, column⟩])) (unions (a'.map fun c => [⟨c.table, column⟩]))
  isEmpty_eq : ∀ {a a'}, S a a' → a.isEmpty = a'.isEmpty

/-- Unions of sources are related when the sources are, one by one. -/
theorem Sources.Kept.unions (hS : Sources.Kept S) {xs xs' : List Sources}
    (h : List.Forall₂ S xs xs') : S (Sources.unions xs) (Sources.unions xs') := by
  have hfold : ∀ a a', S a a' → S (xs.foldl Sources.union a) (xs'.foldl Sources.union a') := by
    induction h with
    | nil => exact fun _ _ ha => ha
    | cons hx _ ih => exact fun a a' ha => ih _ _ (hS.union ha hx)
  exact hfold [] [] hS.nil

/-- The outputs have the same name and corresponding sources. -/
structure Output.Matches (S : Sources → Sources → Prop) (o o' : Output) : Prop where
  name_eq : o.name = o'.name
  sources : S o.sources o'.sources

/-- Outputs match one by one. -/
abbrev OutputsMatch (S : Sources → Sources → Prop) : List Output → List Output → Prop :=
  List.Forall₂ (Output.Matches S)

/-- The relations provide corresponding columns. One of them may be a table and the other one not if
all columns are known. -/
structure Relation.Matches (S : Sources → Sources → Prop) (r r' : Relation) : Prop where
  columns : Option.Rel (OutputsMatch S) r.columns r'.columns
  table : ∀ {t t'}, r.table = some t → r'.table = some t' →
    ∀ column, S [⟨t, column⟩] [⟨t', column⟩]
  known : r.table.isSome = r'.table.isSome ∨ r.isOpen = false

/-- Both relations are tables, or none is, or they declare the column. -/
def Relation.readsAlike (r r' : Relation) (column : String) : Bool :=
  r.table.isSome == r'.table.isSome || r.declares column

/-! ### Lists that are related member by member -/

section Lists

variable {α β : Type} {R : α → β → Prop} {p : α → Bool} {q : β → Bool} {as : List α} {bs : List β}

/-- Filters that agree on related elements keep related elements. -/
theorem rel_filter (h : List.Forall₂ R as bs) (hpq : ∀ a b, R a b → p a = q b) :
    List.Forall₂ (fun a b => R a b ∧ p a = true) (as.filter p) (bs.filter q) := by
  induction h with
  | nil => exact .nil
  | @cons a b as bs hab _ ih =>
    rw [List.filter_cons, List.filter_cons, ← hpq a b hab]
    split
    · next hp => exact .cons ⟨hab, hp⟩ ih
    · exact ih

/-- Searches that agree on related elements find related elements, or nothing on both sides. -/
theorem rel_find? (h : List.Forall₂ R as bs) (hpq : ∀ a b, R a b → p a = q b) :
    Option.Rel (fun a b => R a b ∧ p a = true) (as.find? p) (bs.find? q) := by
  rw [← List.head?_filter, ← List.head?_filter]
  have hfilter := rel_filter h hpq
  generalize as.filter p = as', bs.filter q = bs' at hfilter ⊢
  cases hfilter with
  | nil => exact .none
  | cons hab _ => exact .some hab

/-- What is found at the same place is related. -/
theorem rel_find?_of_findIdx? (h : List.Forall₂ R as bs) (hplace : as.findIdx? p = bs.findIdx? q) :
    Option.Rel R (as.find? p) (bs.find? q) := by
  induction h with
  | nil => exact .none
  | @cons a b as bs hab _ ih =>
    rw [List.findIdx?_cons, List.findIdx?_cons] at hplace
    rw [List.find?_cons, List.find?_cons]
    cases hp : p a <;> cases hq : q b <;> rw [hp, hq] at hplace
    · exact ih (Option.map_injective (add_left_injective 1) hplace)
    · simp at hplace
    · simp at hplace
    · exact .some hab

end Lists

/-! ### Matching outputs -/

namespace OutputsMatch

variable {os os' left left' right right' : List Output}

/-- Matching outputs have the same names, so what only asks for names is the same. -/
theorem any_eq {p : Output → Bool} (hp : ∀ o o' : Output, o.name = o'.name → p o = p o')
    (h : OutputsMatch S os os') : os.any p = os'.any p := by
  induction h with
  | nil => rfl
  | cons ho _ ih => rw [List.any_cons, List.any_cons, ih, hp _ _ ho.name_eq]

/-- A relation passes on related sources of a column when its outputs match. -/
theorem passedOn (hS : Sources.Kept S) (h : OutputsMatch S os os') (column : String) :
    S (Relation.passedOn os column) (Relation.passedOn os' column) := by
  refine hS.unions ?_
  induction h with
  | nil => exact .nil
  | @cons o o' _ _ ho _ ih =>
    have hwild : o.isWildcard = o'.isWildcard := congrArg (· == "*") ho.name_eq
    rw [List.filter_cons, List.filter_cons, ← hwild]
    cases o.isWildcard with
    | false => exact ih
    | true => exact .cons (hS.column column ho.sources) ih

/-- Outputs that match still do when both take the same new names. -/
theorem renameOutputs (h : OutputsMatch S os os') (columns : List AliasColumn) :
    OutputsMatch S (renameOutputs os columns) (renameOutputs os' columns) := by
  induction h generalizing columns with
  | nil => cases columns <;> exact .nil
  | cons ho hrest ih =>
    cases columns with
    | nil => exact .cons ho hrest
    | cons c columns => exact .cons ⟨rfl, ho.sources⟩ (ih columns)

/-- The outputs of a set operation match when those of its operands do. -/
theorem mergeByPlace (hS : Sources.Kept S) (hl : OutputsMatch S left left')
    (hr : OutputsMatch S right right') :
    OutputsMatch S (mergeByPlace left right) (mergeByPlace left' right') := by
  induction hl generalizing right right' with
  | nil => exact .nil
  | cons ho hrest ih =>
    cases hr with
    | nil => exact .cons ho hrest
    | cons ho' hrest' => exact .cons ⟨ho.name_eq, hS.union ho.sources ho'.sources⟩ (ih hrest')

/-- Outputs that match still do when matching ones are added under the same merged names. -/
theorem addOutput (hS : Sources.Kept S) (names : List String) {o o' : Output}
    (h : OutputsMatch S os os') (ho : o.Matches S o') :
    OutputsMatch S (Scope.addOutput names os o) (Scope.addOutput names os' o') := by
  induction h with
  | nil =>
    have hsingle : ∀ o, Scope.addOutput names [] o = [o] := by
      intro o
      rw [Scope.addOutput]
      split <;> rfl
    rw [hsingle, hsingle]
    exact .cons ho .nil
  | @cons p p' _ _ hp hrest ih =>
    have hjoins : p.joins names o = p'.joins names o' := by
      rw [Output.joins, Output.joins, hp.name_eq, ho.name_eq]
    rw [addOutput_cons, addOutput_cons, hjoins]
    split
    · exact .cons ⟨hp.name_eq, hS.union hp.sources ho.sources⟩ hrest
    · exact .cons hp ih

theorem sources (h : OutputsMatch S os os') :
    List.Forall₂ S (os.map Output.sources) (os'.map Output.sources) := by
  refine List.forall₂_map_left_iff.mpr (List.forall₂_map_right_iff.mpr ?_)
  exact h.imp fun _ _ ho => ho.sources

end OutputsMatch

/-! ### Matching relations -/

namespace Relation.Matches

variable {r r' : Relation} {column : String}

/-- Relations that are no tables match by their columns. -/
theorem derived {os os' : List Output} (binding : String) (h : OutputsMatch S os os') :
    Relation.Matches S ⟨binding, none, some os⟩ ⟨binding, none, some os'⟩ where
  columns := .some h
  table := by
    intro t t' ht
    cases ht
  known := .inl rfl

/-- A column that one of two matching relations lists is listed by the other. -/
theorem known?_rel (h : r.Matches S r') (column : String) :
    Option.Rel (Output.Matches S) (r.known? column) (r'.known? column) := by
  have hcolumns : OutputsMatch S (r.columns.getD []) (r'.columns.getD []) := by
    have hrel := h.columns
    generalize r.columns = os, r'.columns = os' at hrel ⊢
    cases hrel with
    | some hos => exact hos
    | none => exact .nil
  have hfind : Option.Rel (fun o o' => Output.Matches S o o' ∧
      Text.equalsIgnoringAsciiCase o.name column = true) (r.known? column) (r'.known? column) := by
    refine rel_find? hcolumns fun o o' ho => ?_
    rw [ho.name_eq]
  generalize r.known? column = o?, r'.known? column = o?' at hfind ⊢
  cases hfind with
  | some ho => exact .some ho.1
  | none => exact .none

/-- Matching relations declare the same columns. -/
theorem declares_eq (h : r.Matches S r') (column : String) :
    r.declares column = r'.declares column := by
  have hknown := h.known?_rel column
  rw [declares, declares]
  generalize r.known? column = o?, r'.known? column = o?' at hknown ⊢
  cases hknown <;> rfl

/-- Of two matching relations either both list their columns or none does. -/
theorem isOpen_eq (h : r.Matches S r') : r.isOpen = r'.isOpen := by
  have hcolumns := h.columns
  rw [isOpen, isOpen]
  generalize r.columns = os, r'.columns = os' at hcolumns ⊢
  cases hcolumns with
  | some hos => exact hos.any_eq fun o o' ho => congrArg (· == "*") ho
  | none => rfl

/-- Relations that may have more columns than are known are both tables, or none is. -/
theorem isSome_table_eq (h : r.Matches S r') (hopen : r.isOpen = true) :
    r.table.isSome = r'.table.isSome := by
  refine h.known.resolve_right fun hclosed => ?_
  rw [hopen] at hclosed
  cases hclosed

/-- Relations that do not list their columns read every column alike. -/
theorem readsAlike_of_isOpen (h : r.Matches S r') (hopen : r.isOpen = true) (column : String) :
    r.readsAlike r' column = true := by
  rw [readsAlike, h.isSome_table_eq hopen, beq_self_eq_true, Bool.true_or]

/-- Columns of the tables behind matching relations are related. -/
theorem table_rel (h : r.Matches S r') (htable : r.table.isSome = r'.table.isSome) :
    Option.Rel (fun t t' => ∀ column, S [⟨t, column⟩] [⟨t', column⟩]) r.table r'.table := by
  have hsources := @h.table
  generalize r.table = t?, r'.table = t?' at hsources htable ⊢
  cases t? with
  | none =>
    cases t?' with
    | none => exact .none
    | some t' => cases htable
  | some t =>
    cases t?' with
    | none => cases htable
    | some t' => exact .some (hsources rfl rfl)

/-- What is read from a table by its name alone. -/
theorem ofTable (hS : Sources.Kept S) (h : r.Matches S r')
    (htable : r.table.isSome = r'.table.isSome) (column : String) :
    S (match r.table with | some t => [⟨t, column⟩] | none => [])
      (match r'.table with | some t => [⟨t, column⟩] | none => []) := by
  have hrel := h.table_rel htable
  generalize r.table = t?, r'.table = t?' at hrel ⊢
  cases hrel with
  | none => exact hS.nil
  | some ht => exact ht column

/-- A column has related sources in matching relations that read it alike. -/
theorem lookup (hS : Sources.Kept S) (h : r.Matches S r')
    (halike : r.readsAlike r' column = true) : S (r.lookup column) (r'.lookup column) := by
  have hcolumns := h.columns
  have hknown := h.known?_rel column
  have hunknown : r.columns = none → r.known? column = none := by
    intro hnone
    rw [Relation.known?, hnone]
    rfl
  -- Where the column is not declared, both are tables or none is.
  have hundeclared : r.known? column = none → r.table.isSome = r'.table.isSome := by
    intro hnone
    rw [readsAlike, declares, hnone] at halike
    simpa using halike
  have htable := fun hnone => h.ofTable hS (hundeclared hnone) column
  rw [Relation.lookup, Relation.lookup]
  generalize r.known? column = o?, r'.known? column = o?' at hknown hunknown htable ⊢
  generalize r.columns = os?, r'.columns = os?' at hcolumns hunknown ⊢
  cases hcolumns with
  | none => exact htable (hunknown rfl)
  | @some os os' hos =>
    cases hknown with
    | some ho => exact ho.sources
    | none =>
      have hpassed := hos.passedOn hS column
      dsimp only
      rw [hS.isEmpty_eq hpassed]
      split
      · exact htable rfl
      · exact hpassed

/-- The columns of matching relations match. -/
theorem expand (h : r.Matches S r') : OutputsMatch S r.expand r'.expand := by
  have hcolumns := h.columns
  have htable : r.columns = none → r.table.isSome = r'.table.isSome := by
    intro hnone
    refine h.isSome_table_eq ?_
    rw [isOpen, hnone]
  have hrel := fun hnone => h.table_rel (htable hnone)
  rw [Relation.expand, Relation.expand]
  generalize r.columns = os?, r'.columns = os?' at hcolumns hrel ⊢
  cases hcolumns with
  | some hos => exact hos
  | none =>
    have hrel := hrel rfl
    generalize r.table = t?, r'.table = t?' at hrel ⊢
    cases hrel with
    | none => exact .nil
    | some ht => exact .cons ⟨rfl, ht "*"⟩ .nil

end Relation.Matches

/-! ### Matching scopes -/

namespace Scope

variable {own own' s s' : Scope} {r r' : Relation}

/-- The relations match one by one, and the joins merge the same columns. -/
structure Matches (S : Sources → Sources → Prop) (own own' : Scope) : Prop where
  relations : List.Forall₂ (Relation.Matches S) own.relations own'.relations
  merged_eq : own.merged = own'.merged

/-- The place of the relation that a qualifier refers to. -/
def place? (own : Scope) (qualifier : String) : Option Nat :=
  own.relations.findIdx? (·.answersTo qualifier)

/-- Whether a column reference is read from relations at the same place, of which both are tables,
or none is, unless they declare the column. -/
def readsAlike (own own' : Scope) : List Ident → Bool
  | [] => true
  | [i] => match own.relations, own'.relations with
    | [r], [r'] => r.readsAlike r' i.value
    | _, _ => true
  | path => own.place? (qualifierOf path) == own'.place? (qualifierOf path) &&
    match own.find? (qualifierOf path), own'.find? (qualifierOf path) with
    | some r, some r' => r.readsAlike r' (columnOf path)
    | _, _ => true

namespace Matches

theorem empty : Matches S {} {} where
  relations := .nil
  merged_eq := rfl

/-- Scopes match when a matching relation is added to each. -/
theorem push (h : Matches S own own') (hr : r.Matches S r') :
    Matches S (own.push r) (own'.push r') where
  relations := List.rel_append h.relations (.cons hr .nil)
  merged_eq := h.merged_eq

/-- Scopes match when their parts do. -/
theorem append (h : Matches S own own') (hs : Matches S s s') :
    Matches S ⟨own.relations ++ s.relations, own.merged ++ s.merged⟩
      ⟨own'.relations ++ s'.relations, own'.merged ++ s'.merged⟩ where
  relations := List.rel_append h.relations hs.relations
  merged_eq := by rw [h.merged_eq, hs.merged_eq]

/-- Scopes match when the same names are merged in both. -/
theorem merge (h : Matches S own own') (names : List String) :
    Matches S { own with merged := own.merged ++ names }
      { own' with merged := own'.merged ++ names } where
  relations := h.relations
  merged_eq := by rw [h.merged_eq]

/-- A qualifier names matching relations when it stands for the same place in both scopes. -/
theorem find?_rel (h : Matches S own own') {qualifier : String}
    (hplace : own.place? qualifier = own'.place? qualifier) :
    Option.Rel (Relation.Matches S) (own.find? qualifier) (own'.find? qualifier) :=
  rel_find?_of_findIdx? h.relations hplace

/-- A qualified column has related sources in matching scopes. -/
theorem qualified (hS : Sources.Kept S) (h : Matches S own own') {qualifier column : String}
    (hplace : own.place? qualifier = own'.place? qualifier)
    (halike : ∀ r r', own.find? qualifier = some r → own'.find? qualifier = some r' →
      r.readsAlike r' column = true) :
    S (own.qualified qualifier column) (own'.qualified qualifier column) := by
  have hfind := h.find?_rel hplace
  rw [Scope.qualified, Scope.qualified]
  generalize own.find? qualifier = r?, own'.find? qualifier = r?' at hfind halike ⊢
  cases hfind with
  | none => exact hS.nil
  | some hr => exact hr.lookup hS (halike _ _ rfl rfl)

theorem lookups (hS : Sources.Kept S) {column : String} {rs rs' : List Relation}
    (h : List.Forall₂ (fun r r' => Relation.Matches S r r' ∧
      (r.declares column || r.isOpen) = true) rs rs') :
    List.Forall₂ S (rs.map (·.lookup column)) (rs'.map (·.lookup column)) := by
  refine List.forall₂_map_left_iff.mpr (List.forall₂_map_right_iff.mpr (h.imp ?_))
  rintro r r' ⟨hr, hreads⟩
  refine hr.lookup hS ?_
  rcases Bool.or_eq_true_iff.mp hreads with hdeclares | hopen
  · rw [Relation.readsAlike, hdeclares, Bool.or_true]
  · exact hr.readsAlike_of_isOpen hopen column

/-- What is read from the only relation that may have more columns than are known. -/
theorem singleOpen (hS : Sources.Kept S) (column : String) {rs rs' : List Relation}
    (h : List.Forall₂ (Relation.Matches S) rs rs') :
    S (match rs.filter Relation.isOpen with | [single] => single.lookup column | _ => [])
      (match rs'.filter Relation.isOpen with | [single] => single.lookup column | _ => []) := by
  have hopen := rel_filter h fun r r' hr => hr.isOpen_eq
  generalize rs.filter Relation.isOpen = os, rs'.filter Relation.isOpen = os' at hopen ⊢
  cases hopen with
  | nil => exact hS.nil
  | cons hr hrest =>
    cases hrest with
    | nil => exact hr.1.lookup hS (hr.1.readsAlike_of_isOpen hr.2 column)
    | cons _ _ => exact hS.nil

/-- An unqualified column has related sources in matching scopes. -/
theorem unqualified (hS : Sources.Kept S) (h : Matches S own own') {column : String}
    (halike : ∀ r r', own.relations = [r] → own'.relations = [r'] →
      r.readsAlike r' column = true) :
    S (own.unqualified column) (own'.unqualified column) := by
  have hdeclares : ∀ r r' : Relation, r.Matches S r' → r.declares column = r'.declares column :=
    fun r r' hr => hr.declares_eq column
  rw [Scope.unqualified, Scope.unqualified, ← h.merged_eq]
  split
  · refine hS.unions (lookups hS (rel_filter h.relations fun r r' hr => ?_))
    rw [hdeclares r r' hr, hr.isOpen_eq]
  · have hfirst := rel_find? h.relations hdeclares
    generalize own.relations.find? (·.declares column) = r?,
      own'.relations.find? (·.declares column) = r?' at hfirst ⊢
    cases hfirst with
    | some hr => exact hr.1.lookup hS (by rw [Relation.readsAlike, hr.2, Bool.or_true])
    | none =>
      have hrelations := h.relations
      generalize own.relations = rs, own'.relations = rs' at hrelations halike ⊢
      cases hrelations with
      | nil => exact hS.nil
      | cons hr hrest =>
        cases hrest with
        | nil => exact hr.lookup hS (halike _ _ rfl rfl)
        | cons hr' hrest => exact singleOpen hS column (.cons hr (.cons hr' hrest))

/-- References that are read alike have corresponding sources. -/
theorem reference (hS : Sources.Kept S) (h : Matches S own own') {path : List Ident}
    (halike : own.readsAlike own' path = true) {schema schema' : Schema} {ctes ctes' : CteScope} :
    S ((Expr.column path).sources schema ctes own)
      ((Expr.column path).sources schema' ctes' own') := by
  match path with
  | [] => exact hS.nil
  | [i] =>
    refine h.unqualified hS fun r r' hr hr' => ?_
    rwa [readsAlike, hr, hr'] at halike
  | i :: j :: rest =>
    obtain ⟨hplace, hreads⟩ := Bool.and_eq_true_iff.mp halike
    refine h.qualified hS (beq_iff_eq.mp hplace) fun r r' hr hr' => ?_
    rwa [qualifierOf, hr, hr'] at hreads

/-- All the columns of matching scopes match. -/
theorem expandAll (hS : Sources.Kept S) (h : Matches S own own') :
    OutputsMatch S own.expandAll own'.expandAll := by
  have hexpand : OutputsMatch S (own.relations.flatMap Relation.expand)
      (own'.relations.flatMap Relation.expand) :=
    List.rel_flatMap h.relations fun r r' hr => hr.expand
  have hfold : ∀ {os os' acc acc'}, OutputsMatch S os os' → OutputsMatch S acc acc' →
      OutputsMatch S (os.foldl (addOutput own.merged) acc)
        (os'.foldl (addOutput own.merged) acc') := by
    intro os os' acc acc' hos hacc
    induction hos generalizing acc acc' with
    | nil => exact hacc
    | cons ho _ ih => exact ih (hacc.addOutput hS own.merged ho)
  rw [Scope.expandAll, Scope.expandAll, ← h.merged_eq]
  exact hfold hexpand .nil

end Matches

end Scope

end AssetFlow.Sql
