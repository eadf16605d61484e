import AssetFlow.Document.Decode
import Mathlib.Data.List.Nodup

/-!
# Reading the parts of a document

The values of a record and the items of a list are found again in the document that they make. A
record is read by its keys: if these are known and none is there twice, each field has the value
that it was given (`Node.fields?_fields`).

## Main statements

- `Node.list?_list`: a list is read back if its items are
- `Node.fields?_fields`: the fields of a record are read back
- `Fields.required_eq_some`, `Fields.withDefault_eq_some`, `Fields.optional_text`: a field is found
  by its key
-/

namespace AssetFlow.Document

theorem valueNodes_eq_map (vs : List Value) : valueNodes vs = vs.map Value.node := by
  induction vs with
  | nil => rfl
  | cons v rest ih => rw [valueNodes, List.map_cons, ih]

theorem fieldNodes_eq_map (fs : List (Value × Value)) :
    fieldNodes fs = fs.map fun f => (f.1.node, f.2.node) := by
  induction fs with
  | nil => rfl
  | cons f rest ih => rw [fieldNodes, List.map_cons, ih, fieldNode]

/-- A list is read if its items are. -/
theorem mapM_map_eq_some {α β γ : Type} {f : β → Option γ} {g : α → β} {h : α → γ} {xs : List α}
    (hf : ∀ x ∈ xs, f (g x) = some (h x)) : (xs.map g).mapM f = some (xs.map h) := by
  induction xs with
  | nil => rfl
  | cons x xs ih =>
    obtain ⟨hx, hxs⟩ := List.forall_mem_cons.mp hf
    rw [List.map_cons, List.mapM_cons, hx, ih hxs]
    rfl

namespace Node

@[simp]
theorem text?_text (s : String) : (Value.text s).node.text? = some s :=
  rfl

@[simp]
theorem bool?_bool (b : Bool) : (Value.bool b).node.bool? = some b :=
  rfl

/-- A number below the word size is read as it is. -/
theorem unsigned?_int {n : Nat} (hn : n < UInt64.size) :
    (Value.int n).node.unsigned? = some n := by
  have hint : (Value.int n).node.int? = some (n : Int) := rfl
  have hlt : (n : Int) < Int.pow 2 64 := by
    have hpow : Int.pow 2 64 = (UInt64.size : Int) := by decide
    rw [hpow]
    exact Int.ofNat_lt.mpr hn
  rw [unsigned?, hint, Option.bind_eq_bind, Option.bind_some, if_pos]
  · rfl
  · simp only [Int.natCast_nonneg, hlt, decide_true, Bool.and_self]

/-- Only numbers below the word size are read. -/
theorem lt_of_unsigned? {node : Node} {n : Nat} (h : node.unsigned? = some n) :
    n < UInt64.size := by
  obtain ⟨i, -, h⟩ := Option.bind_eq_some_iff.mp h
  split at h
  · next hrange =>
    obtain rfl := Option.some.inj h
    have hpow : Int.pow 2 64 = (UInt64.size : Int) := by decide
    obtain ⟨hnonneg, hlt⟩ := Bool.and_eq_true_iff.mp hrange
    have hlt := of_decide_eq_true hlt
    rw [hpow, ← Int.toNat_of_nonneg (of_decide_eq_true hnonneg)] at hlt
    exact Int.ofNat_lt.mp hlt
  · cases h

/-- **A list is read back if its items are.** -/
theorem list?_list {α : Type} {read : Node → Option α} {write : α → Value} {xs : List α}
    (h : ∀ x ∈ xs, read (write x).node = some x) :
    (Value.list (xs.map write)).node.list? read = some xs := by
  have hitems : (Value.list (xs.map write)).node.items? =
      some (xs.map fun x => (write x).node) := by
    rw [Value.node, valueNodes_eq_map, List.map_map]
    rfl
  rw [list?, hitems]
  exact (mapM_map_eq_some h).trans (congrArg some (List.map_id xs))

/-- A list of texts is read text by text. -/
theorem list?_texts {α : Type} {read : Node → Option α} {name : α → String} {xs : List α}
    (h : ∀ x ∈ xs, read (Value.text (name x)).node = some x) :
    (Value.texts (xs.map name)).node.list? read = some xs := by
  rw [Value.texts, List.map_map]
  exact list?_list h

/-- **The fields of a record are read back** by their keys. -/
theorem fields?_fields {known : List String} {fs : List (String × Value)}
    (hknown : ∀ f ∈ fs, f.1 ∈ known) (hdistinct : (fs.map Prod.fst).Nodup) :
    (Value.fields fs).node.fields? known false = some (fs.map fun f => (f.1, f.2.node)) := by
  have hentries : (Value.fields fs).node.entries? =
      some (fs.map fun f => ((Value.text f.1).node, f.2.node)) := by
    rw [Value.fields, Value.node, fieldNodes_eq_map, List.map_map]
    rfl
  have hread : (fs.map fun f => ((Value.text f.1).node, f.2.node)).mapM
      (fun e : Node × Node => e.1.text?.bind fun key => pure (key, e.2)) =
        some (fs.map fun f => (f.1, f.2.node)) :=
    mapM_map_eq_some fun f _ => rfl
  have hexpected : (fs.map fun f => (f.1, f.2.node)).filter (fun e => known.contains e.1) =
      fs.map fun f => (f.1, f.2.node) := by
    rw [List.filter_eq_self]
    intro e he
    obtain ⟨f, hf, rfl⟩ := List.mem_map.mp he
    exact List.contains_iff_mem.mpr (hknown f hf)
  have honce : (known.all fun k =>
      decide (((fs.map fun f => (f.1, f.2.node)).filter (·.1 == k)).length ≤ 1)) = true := by
    rw [List.all_eq_true]
    intro k _
    have hcount := List.nodup_iff_count_le_one.mp hdistinct k
    rw [List.count, List.countP_map] at hcount
    rw [decide_eq_true_iff, ← List.countP_eq_length_filter, List.countP_map]
    exact hcount
  simp only [fields?, hentries, Option.bind_eq_bind, Option.bind_some, hread,
    List.partition_eq_filter_filter, hexpected, honce, Bool.false_and, Bool.false_eq_true,
    if_false, if_true]

end Node

namespace Fields

variable {α : Type} {fs : Fields} {n : Node} {read : Node → Option α} {a : α}

/-- A required field that is there is read. -/
theorem required_eq_some (key : String) (h : fs.lookup key = some n) (hread : read n = some a) :
    fs.required key read = some a := by
  rw [required, h, Option.bind_eq_bind, Option.bind_some, hread]

/-- A field that is there is read and the default is left aside. -/
theorem withDefault_eq_some (key : String) (default : α) (h : fs.lookup key = some n)
    (hread : read n = some a) : fs.withDefault key default read = some a := by
  rw [withDefault, h]
  exact hread

/-- A field that may be left out is read if it is there and not null. -/
theorem optional_eq_some (key : String) (h : fs.lookup key = some n) (hnull : n.isNull = false)
    (hread : read n = some a) : fs.optional key read = some (some a) := by
  simp [optional, h, hnull, hread]

/-- A text that may be missing is read back from the field that it is written to. -/
theorem optional_text (key : String) (v : Option String)
    (h : fs.lookup key = some (Value.ofOption (v.map .text)).node) :
    fs.optional key Node.text? = some v := by
  rw [optional, h]
  cases v <;> rfl

/-- What a required field holds was read from some value. -/
theorem exists_of_required {key : String} (h : fs.required key read = some a) :
    ∃ n, read n = some a :=
  let ⟨n, _, hread⟩ := Option.bind_eq_some_iff.mp h
  ⟨n, hread⟩

end Fields

end AssetFlow.Document
