import AssetFlow.Proofs.Calendar

/-!
# The order of moments, and of the file names made from them

Moments compare in the order of their fields. A file name has the fields up to the second in this
order, each with a fixed number of digits as long as the year has four. So texts of file names
compare as the moments do, and two moments have the same file name only if they are of the same
second.

## Main definitions

- `Moment.Nameable`: a moment whose year has four digits
- `Moment.toSecond`: the second that a moment is in

## Main statements

- `Moment.before_iff`: the order of moments, field by field
- `Moment.padded_append_lt_iff`: texts that start with numbers of a fixed width
- `Moment.fileStamp_lt_iff`, `Moment.fileStamp_inj`: the order of file names
-/

namespace AssetFlow.Moment

variable {m n k : Moment}

/-! ### The order of moments -/

/-- Moments are ordered by year, month, day, time of day and fraction, in this order. -/
theorem before_iff : m.before n = true ↔
    m.year < n.year ∨ m.year = n.year ∧ (m.month < n.month ∨ m.month = n.month ∧
      (m.day < n.day ∨ m.day = n.day ∧ (m.hour < n.hour ∨ m.hour = n.hour ∧
        (m.minute < n.minute ∨ m.minute = n.minute ∧ (m.second < n.second ∨
          m.second = n.second ∧ m.nano < n.nano))))) := by
  simp only [before, fields, rowBefore, Bool.or_eq_true, Bool.and_eq_true, decide_eq_true_eq,
    beq_iff_eq, Bool.false_eq_true, and_false, or_false]
  omega

theorem before_eq_false_iff : m.before n = false ↔ ¬ m.before n = true :=
  Bool.eq_false_iff

theorem not_before_self : m.before m = false := by
  rw [before_eq_false_iff, before_iff]
  omega

theorem not_before_trans (hmn : m.before n = false) (hnk : n.before k = false) :
    m.before k = false := by
  rw [before_eq_false_iff, before_iff] at *
  omega

theorem not_before_total (m n : Moment) : m.before n = false ∨ n.before m = false := by
  rw [before_eq_false_iff, before_eq_false_iff, before_iff, before_iff]
  omega

/-- Among moments there is one that none comes after. -/
theorem exists_latest {ms : List Moment} (hne : ms ≠ []) :
    ∃ m ∈ ms, ∀ m' ∈ ms, m.before m' = false := by
  induction ms with
  | nil => exact absurd rfl hne
  | cons n ms ih =>
    rcases eq_or_ne ms [] with rfl | hms
    · refine ⟨n, List.mem_singleton_self n, fun m' hm' => ?_⟩
      obtain rfl := List.mem_singleton.mp hm'
      exact not_before_self
    · obtain ⟨m, hm, hlatest⟩ := ih hms
      rcases not_before_total m n with hmn | hnm
      · exact ⟨m, List.mem_cons_of_mem n hm, List.forall_mem_cons.mpr ⟨hmn, hlatest⟩⟩
      · refine ⟨n, List.mem_cons_self .., List.forall_mem_cons.mpr ⟨not_before_self, ?_⟩⟩
        exact fun m' hm' => not_before_trans hnm (hlatest m' hm')

/-! ### Texts that start with numbers -/

/-- Texts of one length are compared first, and what follows them decides if they are equal. -/
theorem append_lt_append_iff {ds es r s : List Char} (hlength : ds.length = es.length) :
    ds ++ r < es ++ s ↔ ds < es ∨ ds = es ∧ r < s := by
  induction ds generalizing es with
  | nil =>
    obtain rfl := List.length_eq_zero_iff.mp hlength.symm
    simp
  | cons d ds ih =>
    obtain ⟨e, es, rfl⟩ := List.exists_cons_of_length_eq_add_one hlength.symm
    have ih := ih (Nat.succ.inj hlength)
    simp only [List.cons_append, List.cons_lt_cons_iff, List.cons.injEq, ih]
    grind

/-- Rows of digits of one length compare as the numbers that they continue and then as texts. -/
theorem ofDigitChars_lt_iff {ds es : List Char} (hds : ∀ c ∈ ds, c.isDigit = true)
    (hes : ∀ c ∈ es, c.isDigit = true) (hlength : ds.length = es.length) (a b : Nat) :
    Nat.ofDigitChars 10 ds a < Nat.ofDigitChars 10 es b ↔ a < b ∨ a = b ∧ ds < es := by
  induction ds generalizing es a b with
  | nil =>
    obtain rfl := List.length_eq_zero_iff.mp hlength.symm
    simp
  | cons d ds ih =>
    obtain ⟨e, es, rfl⟩ := List.exists_cons_of_length_eq_add_one hlength.symm
    obtain ⟨hd, hds⟩ := List.forall_mem_cons.mp hds
    obtain ⟨he, hes⟩ := List.forall_mem_cons.mp hes
    have hd : 48 ≤ d.toNat ∧ d.toNat ≤ 57 := Char.isDigit_iff_toNat.mp hd
    have he : 48 ≤ e.toNat ∧ e.toNat ≤ 57 := Char.isDigit_iff_toNat.mp he
    have hzero : '0'.toNat = 48 := rfl
    have hlt : d < e ↔ d.toNat < e.toNat := Iff.rfl
    rw [Nat.ofDigitChars_cons, Nat.ofDigitChars_cons, ih hds hes (Nat.succ.inj hlength),
      List.cons_lt_cons_iff, hlt, ← Char.toNat_inj, hzero]
    by_cases hrest : ds < es <;> simp only [hrest, and_true, and_false, or_false] <;> omega

/-- **Texts that start with numbers of a fixed width** compare as these numbers, and then as what
follows. -/
theorem padded_append_lt_iff {width a b : Nat} {r s : List Char} (hwidth : 0 < width)
    (ha : a < 10 ^ width) (hb : b < 10 ^ width) :
    (padded width a).toList ++ r < (padded width b).toList ++ s ↔ a < b ∨ a = b ∧ r < s := by
  have hlength : (padded width a).toList.length = (padded width b).toList.length :=
    (length_padded hwidth ha).trans (length_padded hwidth hb).symm
  have hvalue := ofDigitChars_lt_iff (fun c hc => isDigit_of_mem_padded hc)
    (fun c hc => isDigit_of_mem_padded hc) hlength 0 0
  have heq : (padded width a).toList = (padded width b).toList ↔ a = b := by
    refine ⟨fun h => ?_, fun h => by rw [h]⟩
    rw [← ofDigitChars_padded width a, h, ofDigitChars_padded]
  rw [ofDigitChars_padded, ofDigitChars_padded] at hvalue
  rw [append_lt_append_iff hlength, heq]
  simp only [Nat.lt_irrefl, false_or, true_and] at hvalue
  rw [hvalue]

/-! ### File names -/

/-- A date whose year has four digits, with a time of day, where the last second of a minute may be
followed by a leap second. -/
structure Nameable (m : Moment) : Prop where
  date : isDate m.year m.month m.day = true
  year_nonneg : 0 ≤ m.year
  year_le : m.year ≤ 9999
  hour : m.hour ≤ 23
  minute : m.minute ≤ 59
  second : m.second ≤ 59
  nano : m.nano < 1000000000 ∨ m.second = 59 ∧ m.nano < 2000000000

/-- The second that a moment is in, where a leap second is the second 60. -/
def toSecond (m : Moment) : Moment :=
  { m with second := m.shownSecond, nano := 0 }

/-- Names of files do not tell fractions of a second. -/
theorem fileStamp_toSecond (m : Moment) : m.toSecond.fileStamp = m.fileStamp := by
  simp [fileStamp, toSecond, shownSecond]

theorem Nameable.toList_fileStamp (h : m.Nameable) : m.fileStamp.toList =
    (padded 4 m.year.toNat).toList ++ '_' :: ((padded 2 m.month).toList ++ '_' ::
      ((padded 2 m.day).toList ++ '_' :: ((padded 2 m.hour).toList ++ '_' ::
        ((padded 2 m.minute).toList ++ '_' :: (padded 2 m.shownSecond).toList)))) := by
  have hyear : showYear m.year = padded 4 m.year.toNat := by
    rw [showYear, if_pos (by simpa using ⟨h.year_nonneg, h.year_le⟩)]
  simp [fileStamp, hyear]

/-- Every number of a file name fits into its width. -/
theorem Nameable.bounds (h : m.Nameable) : m.year.toNat < 10 ^ 4 ∧ m.month < 10 ^ 2 ∧
    m.day < 10 ^ 2 ∧ m.hour < 10 ^ 2 ∧ m.minute < 10 ^ 2 ∧ m.shownSecond < 10 ^ 2 := by
  obtain ⟨hdate, hyear, hyear', hhour, hminute, hsecond, hnano⟩ := h
  have hdays := daysIn_bounds m.year m.month
  rw [isDate_iff] at hdate
  rw [shownSecond]
  omega

/-- The stamps in names of files are equally long. -/
theorem Nameable.length_fileStamp (h : m.Nameable) : m.fileStamp.toList.length = 19 := by
  obtain ⟨hyear, hmonth, hday, hhour, hminute, hsecond⟩ := h.bounds
  simp only [h.toList_fileStamp, List.length_append, List.length_cons,
    length_padded (by decide) hyear, length_padded Nat.two_pos hmonth,
    length_padded Nat.two_pos hday, length_padded Nat.two_pos hhour,
    length_padded Nat.two_pos hminute, length_padded Nat.two_pos hsecond]

theorem Nameable.toSecond_before_iff (hm : m.Nameable) (hn : n.Nameable) :
    m.toSecond.before n.toSecond = true ↔
      m.year.toNat < n.year.toNat ∨ m.year.toNat = n.year.toNat ∧
        (m.month < n.month ∨ m.month = n.month ∧ (m.day < n.day ∨ m.day = n.day ∧
          (m.hour < n.hour ∨ m.hour = n.hour ∧ (m.minute < n.minute ∨ m.minute = n.minute ∧
            m.shownSecond < n.shownSecond)))) := by
  have hyear := hm.year_nonneg
  have hyear' := hn.year_nonneg
  rw [before_iff]
  simp only [toSecond]
  omega

/-- **File names compare as the seconds** that they are made from. -/
theorem fileStamp_lt_iff (hm : m.Nameable) (hn : n.Nameable) :
    m.fileStamp < n.fileStamp ↔ m.toSecond.before n.toSecond = true := by
  obtain ⟨hmy, hmo, hmd, hmh, hmi, hms⟩ := hm.bounds
  obtain ⟨hny, hno, hnd, hnh, hni, hns⟩ := hn.bounds
  have hlast := padded_append_lt_iff (r := []) (s := []) Nat.two_pos hms hns
  simp only [List.append_nil, List.lt_irrefl, and_false, or_false] at hlast
  rw [hm.toSecond_before_iff hn, String.lt_iff, hm.toList_fileStamp, hn.toList_fileStamp,
    padded_append_lt_iff (by decide) hmy hny]
  simp only [List.cons_lt_cons_iff, Char.lt_irrefl, false_or, true_and, hlast,
    padded_append_lt_iff Nat.two_pos hmo hno, padded_append_lt_iff Nat.two_pos hmd hnd,
    padded_append_lt_iff Nat.two_pos hmh hnh, padded_append_lt_iff Nat.two_pos hmi hni]

/-- **Moments of different seconds have different file names.** -/
theorem fileStamp_inj (hm : m.Nameable) (hn : n.Nameable) :
    m.fileStamp = n.fileStamp ↔ m.toSecond = n.toSecond := by
  constructor
  · intro h
    have hmn : ¬ m.toSecond.before n.toSecond = true := by
      rw [← fileStamp_lt_iff hm hn, h]
      exact String.lt_irrefl _
    have hnm : ¬ n.toSecond.before m.toSecond = true := by
      rw [← fileStamp_lt_iff hn hm, h]
      exact String.lt_irrefl _
    rw [before_iff] at hmn hnm
    simp only [toSecond, mk.injEq, and_true] at hmn hnm ⊢
    omega
  · intro h
    rw [← fileStamp_toSecond m, h, fileStamp_toSecond]

/-- A moment of an earlier second comes before. -/
theorem before_of_toSecond (hm : m.Nameable) (hn : n.Nameable)
    (h : m.toSecond.before n.toSecond = true) : m.before n = true := by
  have hnano := hm.nano
  have hnano' := hn.nano
  have hsecond := hm.second
  have hsecond' := hn.second
  rw [before_iff] at h ⊢
  simp only [toSecond, shownSecond] at h
  omega

end AssetFlow.Moment
