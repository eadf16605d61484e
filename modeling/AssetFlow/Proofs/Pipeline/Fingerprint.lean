import AssetFlow.Proofs.Run.Plan
import Mathlib.Data.List.Nodup
import Mathlib.Data.List.Perm.Basic
import Mathlib.Data.String.Basic

/-!
# What a fingerprint stands for

The fingerprint of a pipeline is a digest of bytes that stand for its shape: the names of its assets
and, for each of them, the set of its upstreams. The bytes can be read in one way only. Every text
comes after its length, so the bytes of a text are told from what follows them; the number of
upstreams comes before them, so the bytes of an asset are, too. In the other direction, sorting
forgets the order of assets and upstreams, and repeated upstreams are dropped.

## Main definitions

- `Pipeline.SameShape`: two pipelines have the same names with the same sets of upstreams
- `Pipeline.Addressable`: the lengths of names and of lists of upstreams fit into eight bytes
- `Pipeline.Delimits`: codes that are told from what follows them

## Main statements

- `Pipeline.shapeBytes_inj`: different shapes have different bytes
- `RunPlan.continued_iff_sameShape`: the runs that can be continued
-/

namespace AssetFlow

/-! ### Digits -/

/-- A digest is told from its hexadecimal digits. -/
theorem Digest.hex_injective {xs ys : List UInt8} (h : Digest.hex xs = Digest.hex ys) : xs = ys := by
  have hdigit : ∀ m n : Fin 16, Nat.digitChar m = Nat.digitChar n → m = n := by decide
  replace h := String.ofList_injective h
  induction xs generalizing ys with
  | nil =>
    cases ys with
    | nil => rfl
    | cons y ys => simp at h
  | cons x xs ih =>
    cases ys with
    | nil => simp at h
    | cons y ys =>
      simp only [List.flatMap_cons, List.cons_append, List.nil_append, List.cons.injEq] at h
      obtain ⟨hhigh, hlow, hrest⟩ := h
      have hx := x.toNat_lt
      have hy := y.toNat_lt
      have hhigh : x.toNat / 16 = y.toNat / 16 := congrArg Fin.val
        (hdigit ⟨x.toNat / 16, by omega⟩ ⟨y.toNat / 16, by omega⟩ hhigh)
      have hlow : x.toNat % 16 = y.toNat % 16 := congrArg Fin.val
        (hdigit ⟨x.toNat % 16, by omega⟩ ⟨y.toNat % 16, by omega⟩ hlow)
      have hxy : x = y := UInt8.toNat_inj.mp (by omega)
      rw [hxy, ih hrest]

namespace Pipeline

variable {p q : Pipeline}

/-- Two pipelines have assets of the same names, and each name has the same upstreams in both, no
matter in which order and how often. -/
def SameShape (p q : Pipeline) : Prop :=
  (∀ n, n ∈ p.names ↔ n ∈ q.names) ∧
    ∀ a ∈ p.assets, ∀ b ∈ q.assets, a.name = b.name → ∀ u, u ∈ a.upstreams ↔ u ∈ b.upstreams

/-- The length of a text fits into eight bytes. -/
def Short (s : String) : Prop :=
  s.utf8ByteSize < 2 ^ 64

instance : DecidablePred Short := fun s => inferInstanceAs (Decidable (s.utf8ByteSize < 2 ^ 64))

/-- A pipeline as it can be held in memory: the lengths of its names and of its lists of upstreams
fit into eight bytes. -/
structure Addressable (p : Pipeline) : Prop where
  name_short : ∀ a ∈ p.assets, Short a.name.text
  upstream_short : ∀ a ∈ p.assets, ∀ u ∈ a.upstreams, Short u.text
  upstreams_lt : ∀ a ∈ p.assets, a.upstreams.length < 2 ^ 64

/-! ### Codes that are told from what follows them -/

/-- The code of a value with some property is told from whatever follows it. -/
def Delimits {α : Type} (code : α → List UInt8) (P : α → Prop) : Prop :=
  ∀ a b, P a → P b → ∀ rest rest', code a ++ rest = code b ++ rest' → a = b ∧ rest = rest'

/-- Rows of equally many values are told from their codes one after the other. -/
theorem Delimits.flatMap_of_length {α : Type} {code : α → List UInt8} {P : α → Prop}
    (h : Delimits code P) {xs ys : List α} (hxs : ∀ x ∈ xs, P x) (hys : ∀ y ∈ ys, P y)
    (hlength : xs.length = ys.length) {rest rest' : List UInt8}
    (heq : xs.flatMap code ++ rest = ys.flatMap code ++ rest') : xs = ys ∧ rest = rest' := by
  induction xs generalizing ys with
  | nil =>
    obtain rfl := List.length_eq_zero_iff.mp hlength.symm
    exact ⟨rfl, heq⟩
  | cons x xs ih =>
    cases ys with
    | nil => cases hlength
    | cons y ys =>
      simp only [List.flatMap_cons, List.append_assoc] at heq
      obtain ⟨rfl, hcodes⟩ := h x y (hxs x (List.mem_cons_self ..)) (hys y (List.mem_cons_self ..))
        _ _ heq
      obtain ⟨rfl, hrest⟩ := ih (fun z hz => hxs z (List.mem_cons_of_mem x hz))
        (fun z hz => hys z (List.mem_cons_of_mem x hz)) (Nat.succ.inj hlength) hcodes
      exact ⟨rfl, hrest⟩

/-- A row of codes that are not empty is read in one way only. -/
theorem Delimits.flatMap_inj {α : Type} {code : α → List UInt8} {P : α → Prop}
    (h : Delimits code P) (hne : ∀ a, code a ≠ []) {xs ys : List α} (hxs : ∀ x ∈ xs, P x)
    (hys : ∀ y ∈ ys, P y) (heq : xs.flatMap code = ys.flatMap code) : xs = ys := by
  induction xs generalizing ys with
  | nil =>
    cases ys with
    | nil => rfl
    | cons y ys => exact absurd (List.append_eq_nil_iff.mp heq.symm).1 (hne y)
  | cons x xs ih =>
    cases ys with
    | nil => exact absurd (List.append_eq_nil_iff.mp heq).1 (hne x)
    | cons y ys =>
      obtain ⟨rfl, hcodes⟩ := h x y (hxs x (List.mem_cons_self ..)) (hys y (List.mem_cons_self ..))
        _ _ heq
      rw [ih (fun z hz => hxs z (List.mem_cons_of_mem x hz))
        (fun z hz => hys z (List.mem_cons_of_mem x hz)) hcodes]

theorem length_lengthBytes (n : Nat) : (lengthBytes n).length = 8 := by
  simp [lengthBytes]

/-- A number is given by its digits to the base 256. -/
theorem eq_of_digits {k m n : Nat} (hm : m < 256 ^ k) (hn : n < 256 ^ k)
    (h : ∀ i < k, m / 256 ^ i % 256 = n / 256 ^ i % 256) : m = n := by
  induction k generalizing m n with
  | zero => omega
  | succ k ih =>
    have hlow := h 0 (Nat.succ_pos k)
    have hhigh : m / 256 = n / 256 := by
      refine ih (by omega) (by omega) fun i hi => ?_
      have hnext := h (i + 1) (Nat.succ_lt_succ hi)
      rwa [Nat.pow_succ', ← Nat.div_div_eq_div_mul, ← Nat.div_div_eq_div_mul] at hnext
    omega

/-- Lengths below the word size are told from their eight bytes. -/
theorem lengthBytes_inj {m n : Nat} (hm : m < 2 ^ 64) (hn : n < 2 ^ 64)
    (h : lengthBytes m = lengthBytes n) : m = n := by
  refine eq_of_digits (k := 8) (by omega) (by omega) fun i hi => ?_
  have hbyte := List.map_inj_left.mp h i (List.mem_range.mpr hi)
  simpa using congrArg UInt8.toNat hbyte

theorem toList_toUTF8 (s : String) : s.toUTF8.toList = s.toByteArray.data.toList := by
  have hloop : ∀ (bytes : ByteArray) (k i : Nat) (r : List UInt8), bytes.size - i = k →
      ByteArray.toList.loop bytes i r = r.reverse ++ bytes.data.toList.drop i := by
    intro bytes k
    induction k with
    | zero =>
      intro i r hi
      have hle : bytes.data.toList.length ≤ i := Nat.le_of_sub_eq_zero hi
      rw [ByteArray.toList.loop, if_neg (by omega), List.drop_eq_nil_of_le hle, List.append_nil]
    | succ k ih =>
      intro i r hi
      have hlt : i < bytes.size := by omega
      have hlt' : i < bytes.data.toList.length := hlt
      rw [ByteArray.toList.loop, if_pos hlt, ih _ _ (by omega), List.drop_eq_getElem_cons hlt',
        List.reverse_cons, List.append_assoc, List.singleton_append]
      simp [ByteArray.get!, hlt]
  rw [String.toUTF8, ByteArray.toList, hloop _ _ _ _ rfl]
  rfl

/-- A field is told from what follows it. -/
theorem delimits_field : Delimits field Short := by
  intro s t hs ht rest rest' h
  simp only [field, List.append_assoc, toList_toUTF8] at h
  have hsize : ∀ s : String, s.toByteArray.data.toList.length = s.utf8ByteSize := fun s => by simp
  obtain ⟨hlength, h⟩ := List.append_inj h (by rw [length_lengthBytes, length_lengthBytes])
  rw [hsize, hsize] at hlength
  obtain ⟨hbytes, hrest⟩ := List.append_inj h (by rw [hsize, hsize, lengthBytes_inj hs ht hlength])
  exact ⟨String.toByteArray_inj.mp (ByteArray.ext (Array.toList_inj.mp hbytes)), hrest⟩

theorem utf8ByteSize_le (s : String) : s.utf8ByteSize ≤ 4 * s.length := by
  have hlen : ∀ cs : List Char, String.utf8Len cs ≤ 4 * cs.length := by
    intro cs
    induction cs with
    | nil => simp
    | cons c cs ih =>
      have hc := c.utf8Size_le_four
      simp only [String.utf8Len_cons, List.length_cons]
      omega
  have hs := hlen s.toList
  rwa [← String.utf8ByteSize_ofList, String.ofList_toList, String.length_toList] at hs

theorem eq_of_toString_eq {m n : Nat} (h : toString m = toString n) : m = n := by
  rw [Nat.toString_eq_ofList_toDigits, Nat.toString_eq_ofList_toDigits] at h
  have hread := congrArg (Nat.ofDigitChars 10 · 0) (String.ofList_injective h)
  simpa [Nat.ofDigitChars_ten_toDigits] using hread

/-- The number of what is listed in memory is short to write. -/
theorem short_toString {n : Nat} (hn : n < 2 ^ 64) : Short (toString n) := by
  have hlength : n.repr.length ≤ 20 := (Nat.length_repr_le_iff (by decide)).mpr (by omega)
  have hsize := utf8ByteSize_le n.repr
  rw [Short, Nat.toString_eq_repr]
  omega

/-- The entry of an asset in the shape of a pipeline that is held in memory. -/
def ShortEntry (e : String × List String) : Prop :=
  Short e.1 ∧ (∀ u ∈ e.2, Short u) ∧ e.2.length < 2 ^ 64

/-- The number of upstreams is read before them, so that it is known where they end. -/
theorem delimits_entryBytes : Delimits entryBytes ShortEntry := by
  rintro ⟨n, us⟩ ⟨m, vs⟩ ⟨hn, hus, hlt⟩ ⟨hm, hvs, hlt'⟩ rest rest' h
  simp only [entryBytes, List.append_assoc] at h
  obtain ⟨rfl, hentry⟩ := delimits_field n m hn hm _ _ h
  obtain ⟨hcount, hnames⟩ := delimits_field _ _ (short_toString hlt) (short_toString hlt') _ _
    hentry
  have hlength : us.length = vs.length := eq_of_toString_eq hcount
  obtain ⟨rfl, hrest⟩ := delimits_field.flatMap_of_length hus hvs hlength hnames
  exact ⟨rfl, hrest⟩

theorem entryBytes_ne_nil (e : String × List String) : entryBytes e ≠ [] := by
  have hlength : 8 ≤ (entryBytes e).length := by
    simp only [entryBytes, field, List.length_append, length_lengthBytes]
    omega
  rintro h
  rw [h] at hlength
  cases hlength

/-! ### Shapes -/

theorem nodup_eraseDups {α : Type} [BEq α] [LawfulBEq α] (l : List α) : l.eraseDups.Nodup := by
  induction hk : l.length using Nat.strong_induction_on generalizing l with
  | _ k ih =>
    cases l with
    | nil => simp
    | cons a l =>
      subst hk
      rw [List.eraseDups_cons, List.nodup_cons]
      refine ⟨?_, ih _ (Nat.lt_succ_of_le (List.length_filter_le _ _)) _ rfl⟩
      simp

theorem pairwise_mergeSort_le {α : Type} (key : α → String) (l : List α) :
    (l.mergeSort fun a b => decide (key a ≤ key b)).Pairwise fun a b => key a ≤ key b := by
  have htrans : ∀ a b c, decide (key a ≤ key b) → decide (key b ≤ key c) →
      decide (key a ≤ key c) := by
    intro a b c hab hbc
    rw [decide_eq_true_iff] at *
    exact String.le_trans hab hbc
  have htotal : ∀ a b, decide (key a ≤ key b) || decide (key b ≤ key a) := by
    intro a b
    simpa using String.le_total (key a) (key b)
  simpa using List.pairwise_mergeSort htrans htotal l

theorem sortedNames_perm (names : List AssetName) :
    (sortedNames names).Perm (names.map AssetName.text).eraseDups :=
  List.mergeSort_perm _ _

theorem mem_sortedNames {names : List AssetName} {u : AssetName} :
    u.text ∈ sortedNames names ↔ u ∈ names := by
  rw [(sortedNames_perm names).mem_iff, List.mem_eraseDups, List.mem_map]
  constructor
  · rintro ⟨v, hv, htext⟩
    exact AssetName.eq_of_text_eq htext ▸ hv
  · exact fun hu => ⟨u, hu, rfl⟩

/-- Sorted names say which names there are, and nothing else. -/
theorem sortedNames_eq_iff {names names' : List AssetName} :
    sortedNames names = sortedNames names' ↔ ∀ u, u ∈ names ↔ u ∈ names' := by
  constructor
  · intro h u
    rw [← mem_sortedNames, h, mem_sortedNames]
  · intro h
    have htexts : ∀ t, t ∈ (names.map AssetName.text).eraseDups ↔
        t ∈ (names'.map AssetName.text).eraseDups := by
      simp only [List.mem_eraseDups, List.mem_map, h, implies_true]
    have hperm : (sortedNames names).Perm (sortedNames names') := by
      refine (sortedNames_perm names).trans (.trans ?_ (sortedNames_perm names').symm)
      exact (List.perm_ext_iff_of_nodup (nodup_eraseDups _) (nodup_eraseDups _)).mpr htexts
    exact hperm.eq_of_pairwise (fun a b _ _ hab hba => String.le_antisymm hab hba)
      (pairwise_mergeSort_le id _) (pairwise_mergeSort_le id _)

/-- The entry of an asset in the shape of its pipeline. -/
def entry (a : Asset) : String × List String :=
  (a.name.text, sortedNames a.upstreams)

/-- The shape of a pipeline lists the entries of its assets, sorted. -/
theorem shape_perm (p : Pipeline) : p.shape.Perm (p.assets.map entry) :=
  List.mergeSort_perm _ _

/-- The entries of a shape are those of the assets. -/
theorem mem_shape {e : String × List String} : e ∈ p.shape ↔ ∃ a ∈ p.assets, entry a = e := by
  rw [(shape_perm p).mem_iff, List.mem_map]

theorem exists_asset_iff {n : AssetName} : n ∈ p.names ↔ ∃ a ∈ p.assets, a.name = n :=
  List.mem_map

theorem SameShape.mem_shape (h : p.SameShape q) {a : Asset} (ha : a ∈ p.assets) :
    entry a ∈ q.shape := by
  obtain ⟨b, hb, hname⟩ := exists_asset_iff.mp ((h.1 a.name).mp (List.mem_map_of_mem ha))
  refine Pipeline.mem_shape.mpr ⟨b, hb, ?_⟩
  rw [entry, entry, hname, sortedNames_eq_iff.mpr (h.2 a ha b hb hname.symm)]

theorem SameShape.symm (h : p.SameShape q) : q.SameShape p :=
  ⟨fun n => (h.1 n).symm, fun a ha b hb hname u => (h.2 b hb a ha hname.symm u).symm⟩

/-- No name is listed twice in a shape. -/
theorem nodup_shape (p : Pipeline) : (p.shape.map Prod.fst).Nodup := by
  have hinj : Function.Injective AssetName.text := fun _ _ => AssetName.eq_of_text_eq
  have htexts := p.unique.map hinj
  rw [List.map_map] at htexts
  rw [((shape_perm p).map Prod.fst).nodup_iff, List.map_map]
  exact htexts

/-- Pipelines have equal shapes exactly if they have the same assets with the same upstreams. -/
theorem shape_eq_iff : p.shape = q.shape ↔ p.SameShape q := by
  constructor
  · intro h
    have hnames : ∀ {p q : Pipeline}, p.shape = q.shape → ∀ n ∈ p.names, n ∈ q.names := by
      intro p q h n hn
      obtain ⟨a, ha, rfl⟩ := exists_asset_iff.mp hn
      obtain ⟨b, hb, hentry⟩ := mem_shape.mp (h ▸ mem_shape.mpr ⟨a, ha, rfl⟩)
      exact exists_asset_iff.mpr ⟨b, hb, AssetName.eq_of_text_eq (congrArg Prod.fst hentry)⟩
    refine ⟨fun n => ⟨hnames h n, hnames h.symm n⟩, fun a ha b hb hname => ?_⟩
    obtain ⟨b', hb', hentry⟩ := mem_shape.mp (h ▸ mem_shape.mpr ⟨a, ha, rfl⟩)
    have hname' : b'.name = b.name :=
      (AssetName.eq_of_text_eq (congrArg Prod.fst hentry)).trans hname
    obtain rfl : b' = b := List.inj_on_of_nodup_map q.unique hb' hb hname'
    exact sortedNames_eq_iff.mp (congrArg Prod.snd hentry).symm
  · intro h
    have hmem : ∀ e, e ∈ p.shape ↔ e ∈ q.shape := by
      intro e
      constructor
      · rintro he
        obtain ⟨a, ha, rfl⟩ := mem_shape.mp he
        exact h.mem_shape ha
      · rintro he
        obtain ⟨a, ha, rfl⟩ := mem_shape.mp he
        exact h.symm.mem_shape ha
    have hperm : p.shape.Perm q.shape := (List.perm_ext_iff_of_nodup
      (nodup_shape p).of_map (nodup_shape q).of_map).mpr hmem
    refine hperm.eq_of_pairwise (fun a b ha hb hab hba => ?_)
      (pairwise_mergeSort_le Prod.fst _) (pairwise_mergeSort_le Prod.fst _)
    exact List.inj_on_of_nodup_map (nodup_shape p) ha ((hmem b).mpr hb) (String.le_antisymm hab hba)

theorem Addressable.shortEntry (h : p.Addressable) {e : String × List String} (he : e ∈ p.shape) :
    ShortEntry e := by
  obtain ⟨a, ha, rfl⟩ := mem_shape.mp he
  refine ⟨h.name_short a ha, fun u hu => ?_, ?_⟩
  · have hu := List.mem_eraseDups.mp ((sortedNames_perm _).mem_iff.mp hu)
    obtain ⟨v, hv, rfl⟩ := List.mem_map.mp hu
    exact h.upstream_short a ha v hv
  · have hsub : (a.upstreams.map AssetName.text).eraseDups ⊆ a.upstreams.map AssetName.text :=
      fun _ => List.mem_eraseDups.mp
    have hle := ((nodup_eraseDups _).subperm hsub).length_le
    rw [List.length_map] at hle
    exact Nat.lt_of_le_of_lt ((sortedNames_perm _).length_eq ▸ hle) (h.upstreams_lt a ha)

/-- Different shapes have different bytes. -/
theorem shapeBytes_inj (hp : p.Addressable) (hq : q.Addressable)
    (h : p.shapeBytes = q.shapeBytes) : p.shape = q.shape :=
  delimits_entryBytes.flatMap_inj entryBytes_ne_nil (fun _ => hp.shortEntry)
    (fun _ => hq.shortEntry) h

/-- Fingerprints are equal exactly if the digests of the bytes are. -/
theorem fingerprint_eq_iff : p.fingerprint = q.fingerprint ↔
    Digest.sha256 p.shapeBytes = Digest.sha256 q.shapeBytes :=
  ⟨Digest.hex_injective, congrArg Digest.hex⟩

end Pipeline

/-! ### Continued runs -/

namespace RunPlan

variable {p q : Pipeline} {c : RunConfig} {plan : RunPlan}

/-- Where a run can be planned, a state is refused only for its fingerprint. -/
theorem build_continued (h : build q c none = .ok plan) (s : RunState) :
    (s.fingerprint = q.fingerprint ∧ ∃ plan', build q c (some s) = .ok plan') ∨
      (s.fingerprint ≠ q.fingerprint ∧
        build q c (some s) = .error (.incompatibleState q.fingerprint s.fingerprint)) := by
  obtain ⟨g, order, chosen, _, hb⟩ := build_ok h
  by_cases hsame : s.fingerprint = q.fingerprint
  · have hrerun : rerun g q.fingerprint chosen (some s) = .ok (toRerun g chosen s) :=
      if_pos (beq_iff_eq.mpr hsame)
    refine .inl ⟨hsame, ⟨withWaits g (taskIds q c.kinds order (toRerun g chosen s)),
      leftOut order chosen (toRerun g chosen s), q.fingerprint⟩, ?_⟩
    exact BuiltFrom.build_eq ⟨hb.graph_eq, hb.order_eq, hb.selected_eq, hrerun, rfl, rfl, rfl⟩
  · have hrerun : rerun g q.fingerprint chosen (some s) =
        .error (.incompatibleState q.fingerprint s.fingerprint) :=
      if_neg fun hbeq => hsame (beq_iff_eq.mp hbeq)
    refine .inr ⟨hsame, ?_⟩
    rw [build, hb.graph_eq]
    simp only [Except.mapError, bind, Except.bind, hb.order_eq, hb.selected_eq, hrerun]

/-- **The fingerprint stands for the shape.** The bytes of two pipelines are the same just if the
pipelines have the same shape. Unless the digest of these bytes collides, a run that can be planned
can continue a run of another pipeline just if both pipelines have the same shape. -/
theorem continued_iff_sameShape (hp : p.Addressable) (hq : q.Addressable) :
    (p.shapeBytes = q.shapeBytes ↔ p.SameShape q) ∧
      ((Digest.sha256 p.shapeBytes = Digest.sha256 q.shapeBytes → p.shapeBytes = q.shapeBytes) →
        ∀ (c : RunConfig) (plan : RunPlan) (s : RunState), build q c none = .ok plan →
          s.fingerprint = p.fingerprint →
            ((∃ plan', build q c (some s) = .ok plan') ↔ p.SameShape q) ∧
            (¬ p.SameShape q →
              build q c (some s) = .error (.incompatibleState q.fingerprint p.fingerprint))) := by
  have hbytes : p.shapeBytes = q.shapeBytes ↔ p.SameShape q := by
    rw [← Pipeline.shape_eq_iff]
    exact ⟨Pipeline.shapeBytes_inj hp hq, fun h => congrArg (List.flatMap Pipeline.entryBytes) h⟩
  refine ⟨hbytes, fun hcollision c plan s hplan hs => ?_⟩
  have hsame : s.fingerprint = q.fingerprint ↔ p.SameShape q := by
    rw [hs, Pipeline.fingerprint_eq_iff, ← hbytes]
    exact ⟨hcollision, congrArg Digest.sha256⟩
  rw [← hsame, ← hs]
  rcases build_continued hplan s with ⟨heq, hbuilt⟩ | ⟨hne, hrefused⟩
  · exact ⟨iff_of_true hbuilt heq, fun hno => absurd heq hno⟩
  · refine ⟨iff_of_false (fun ⟨_, hbuilt⟩ => ?_) hne, fun _ => hrefused⟩
    cases hrefused.symm.trans hbuilt

/-- Two assets, of which the one that is found first has the given upstreams. -/
def reportFirst (upstreams : List AssetName) : Pipeline where
  config := { name := "stall" }
  root := "elsewhere"
  assets := [{ name := report, type := "duckdb.sql", sql := "select 1", upstreams },
    { name := orders, type := "python" }]
  unique := show [report, orders].Nodup by decide

theorem build_reportFirst : ∃ plan,
    build (reportFirst [orders, orders]) plainConfig none = .ok plan := by
  have hg : (reportFirst [orders, orders]).graph =
      .ok (AssetGraph.ofAssets (reportFirst [orders, orders]).assets) := rfl
  exact ⟨⟨_, _, _⟩, @BuiltFrom.build_eq _ _ _ _ _ [orders, report] [report, orders] _
    ⟨hg, rfl, rfl, rfl, rfl, rfl, rfl⟩⟩

/-- A run is continued although the assets were found in another order, and one of them names its
upstream twice. An upstream whose name holds a comma is told from two upstreams. -/
theorem continued_in_other_order :
    (∃ s plan, s.fingerprint = smallPipeline.fingerprint ∧
      build (reportFirst [orders, orders]) plainConfig (some s) = .ok plan) ∧
    (reportFirst [⟨"a,b", by decide⟩]).shapeBytes ≠
      (reportFirst [⟨"a", by decide⟩, ⟨"b", by decide⟩]).shapeBytes := by
  have hsmall : smallPipeline.Addressable := ⟨by decide, by decide, by decide⟩
  have hother : (reportFirst [orders, orders]).Addressable := ⟨by decide, by decide, by decide⟩
  have hjoined : (reportFirst [⟨"a,b", by decide⟩]).Addressable :=
    ⟨by decide, by decide, by decide⟩
  have hsplit : (reportFirst [⟨"a", by decide⟩, ⟨"b", by decide⟩]).Addressable :=
    ⟨by decide, by decide, by decide⟩
  have hsame : smallPipeline.SameShape (reportFirst [orders, orders]) := by
    refine ⟨fun n => ?_, ?_⟩
    · simp [Pipeline.names, smallPipeline, reportFirst, or_comm]
    · simp [smallPipeline, reportFirst, orders, report]
  obtain ⟨hbytes, hcontinued⟩ := continued_iff_sameShape hsmall hother
  obtain ⟨plan, hplan⟩ := build_reportFirst
  obtain ⟨hiff, -⟩ := hcontinued (fun _ => hbytes.mpr hsame) plainConfig plan
    { parameters := plainConfig, assets := [], fingerprint := smallPipeline.fingerprint } hplan rfl
  obtain ⟨plan', hplan'⟩ := hiff.mpr hsame
  refine ⟨⟨_, plan', rfl, hplan'⟩, fun heq => ?_⟩
  have hshape := (continued_iff_sameShape hjoined hsplit).1.mp heq
  have hmem := hshape.2 _ (List.mem_cons_self ..) _ (List.mem_cons_self ..) rfl ⟨"a", by decide⟩
  simp at hmem

end RunPlan

end AssetFlow
