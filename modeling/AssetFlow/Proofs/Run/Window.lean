import AssetFlow.Proofs.Calendar.Order
import AssetFlow.Proofs.Run.RoundTrip

/-!
# The bounds of the window of data

Both bounds of the window are read from the same texts. A moment stands for itself, and a day for
its first and its last microsecond, so the start is never after the end. Only the last day that
dates can have has no bounds: they are found by counting from the day after it.

## Main definitions

- `Moment.HasNextDay`: the day after is a date
- `Moment.Plain`: a moment to the microsecond outside leap seconds
- `NamesLastDay`: a text names the last day that dates can have

## Main statements

- `Moment.hasNextDay_iff`: every other day has a next one
- `Moment.between_bounds_iff`: which moments lie between the bounds of a day
- `bounds_cases`: the four ways in which both bounds are read
- `bounds_of_text`: what the bounds are that are read from a text
-/

namespace AssetFlow

namespace Moment

variable {m n day : Moment}

/-- The day after is a date. -/
def HasNextDay (day : Moment) : Prop :=
  ∃ next : Moment, isDate next.year next.month next.day = true ∧
    next.dayBefore? = some day.startOfDay

/-- A moment to the microsecond that is not in a leap second. -/
structure Plain (m : Moment) : Prop extends m.Exact where
  no_leap : m.nano < 1000000000

/-! ### The bounds of a day -/

theorem endOfDay_not_before_startOfDay : day.endOfDay.before day.startOfDay = false := by
  rw [Bool.eq_false_iff, ne_eq, before_iff]
  simp only [startOfDay, endOfDay]
  omega

theorem plain_startOfDay (h : isDate day.year day.month day.day = true) : day.startOfDay.Plain :=
  ⟨exact_startOfDay h, by simp only [startOfDay]; omega⟩

theorem plain_endOfDay (h : isDate day.year day.month day.day = true) : day.endOfDay.Plain :=
  ⟨exact_endOfDay h, by simp only [endOfDay]; omega⟩

/-- **Between the bounds of a day** lie the moments of the day. -/
theorem between_bounds_iff (h : m.Plain) :
    m.before day.startOfDay = false ∧ day.endOfDay.before m = false ↔
      m.startOfDay = day.startOfDay := by
  obtain ⟨⟨-, hhour, hminute, hsecond, -, hmicros⟩, hleap⟩ := h
  have hday : m.startOfDay = day.startOfDay ↔
      m.year = day.year ∧ m.month = day.month ∧ m.day = day.day := by
    simp [startOfDay]
  rw [Bool.eq_false_iff, Bool.eq_false_iff, ne_eq, ne_eq, before_iff, before_iff, hday]
  simp only [startOfDay, endOfDay]
  omega

/-! ### The next day -/

/-- The last day that the calendar holds. -/
theorem isLastDay_iff :
    day.isLastDay = true ↔ day.year = lastYear ∧ day.month = 12 ∧ day.day = 31 := by
  simp only [isLastDay, Bool.and_eq_true, beq_iff_eq, and_assoc]

/-- What the day before is. -/
theorem dayBefore?_eq_some_iff : m.dayBefore? = some day.startOfDay ↔
    (1 < m.day ∧ day.year = m.year ∧ day.month = m.month ∧ day.day = m.day - 1) ∨
    (m.day ≤ 1 ∧ 1 < m.month ∧ day.year = m.year ∧ day.month = m.month - 1 ∧
      day.day = daysIn m.year (m.month - 1)) ∨
    (m.day ≤ 1 ∧ m.month ≤ 1 ∧ m.year ≠ firstYear ∧ day.year = m.year - 1 ∧ day.month = 12 ∧
      day.day = 31) := by
  by_cases hday : m.day > 1
  · have heq : m.dayBefore? = some ⟨m.year, m.month, m.day - 1, 0, 0, 0, 0⟩ := if_pos hday
    simp only [heq, startOfDay, Option.some.injEq, mk.injEq, and_true]
    omega
  by_cases hmonth : m.month > 1
  · have heq : m.dayBefore? =
        some ⟨m.year, m.month - 1, daysIn m.year (m.month - 1), 0, 0, 0, 0⟩ :=
      (if_neg hday).trans (if_pos hmonth)
    simp only [heq, startOfDay, Option.some.injEq, mk.injEq, and_true]
    omega
  by_cases hyear : m.year = firstYear
  · have heq : m.dayBefore? = none :=
      (if_neg hday).trans ((if_neg hmonth).trans (if_pos (beq_iff_eq.mpr hyear)))
    simp only [heq, reduceCtorEq, false_iff]
    omega
  · have heq : m.dayBefore? = some ⟨m.year - 1, 12, 31, 0, 0, 0, 0⟩ :=
      (if_neg hday).trans ((if_neg hmonth).trans (if_neg fun hfirst => hyear (beq_iff_eq.mp hfirst)))
    simp only [heq, startOfDay, Option.some.injEq, mk.injEq, and_true]
    omega

/-- No day follows the last one that the calendar holds. -/
theorem not_hasNextDay (hlast : day.year = lastYear ∧ day.month = 12 ∧ day.day = 31) :
    ¬ day.HasNextDay := by
  rintro ⟨next, hnext, hbefore⟩
  have hdays := daysIn_bounds next.year next.month
  rw [isDate_iff] at hnext
  rw [dayBefore?_eq_some_iff] at hbefore
  omega

/-- The next day is in the same month, the first one of the next month or of the next year. -/
theorem hasNextDay_of_ne (h : isDate day.year day.month day.day = true)
    (hlast : ¬ (day.year = lastYear ∧ day.month = 12 ∧ day.day = 31)) : day.HasNextDay := by
  obtain ⟨hlow, hhigh, hmonth, hmonth', hday, hday'⟩ := isDate_iff.mp h
  by_cases hmore : day.day < daysIn day.year day.month
  · refine ⟨⟨day.year, day.month, day.day + 1, 0, 0, 0, 0⟩, ?_, ?_⟩
    · rw [isDate_iff]
      dsimp only
      omega
    · rw [dayBefore?_eq_some_iff]
      dsimp only
      omega
  have hend : day.day = daysIn day.year day.month := by omega
  by_cases hyear : day.month < 12
  · refine ⟨⟨day.year, day.month + 1, 1, 0, 0, 0, 0⟩, ?_, ?_⟩
    · have := daysIn_bounds day.year (day.month + 1)
      rw [isDate_iff]
      dsimp only
      omega
    · rw [dayBefore?_eq_some_iff]
      dsimp only
      rw [Nat.add_sub_cancel]
      omega
  · have hdecember : day.month = 12 := by omega
    have hdays : daysIn day.year 12 = 31 := rfl
    rw [hdecember, hdays] at hend
    refine ⟨⟨day.year + 1, 1, 1, 0, 0, 0, 0⟩, ?_, ?_⟩
    · have := daysIn_bounds (day.year + 1) 1
      rw [isDate_iff]
      dsimp only
      omega
    · rw [dayBefore?_eq_some_iff]
      dsimp only
      omega

/-- **Every day has a next one** but the last day that dates can have. -/
theorem hasNextDay_iff (h : isDate day.year day.month day.day = true) :
    day.HasNextDay ↔ day.isLastDay = false := by
  rw [Bool.eq_false_iff, ne_eq, isLastDay_iff]
  exact ⟨fun hnext hlast => not_hasNextDay hlast hnext, hasNextDay_of_ne h⟩

/-! ### Blanks around stamps -/

/-- A text that neither begins nor ends with a blank is trimmed already. -/
theorem trim_eq_self {s : String} {c d : Char} {cs ds : List Char} (hstart : s.toList = c :: cs)
    (hc : Text.isBlank c = false) (hend : s.toList = ds ++ [d]) (hd : Text.isBlank d = false) :
    Text.trim s = s := by
  have htrimStart : Text.trimStart s = s := by
    rw [Text.trimStart, hstart, List.dropWhile_cons_of_neg (by simp [hc]), ← hstart,
      String.ofList_toList]
  rw [Text.trim, htrimStart, Text.trimEnd, hend, List.reverse_append, List.reverse_singleton,
    List.singleton_append, List.dropWhile_cons_of_neg (by simp [hd]), List.reverse_cons,
    List.reverse_reverse, ← hend, String.ofList_toList]

/-- The stamp of a moment has no blanks around it. -/
theorem trim_stamp (m : Moment) : Text.trim m.stamp = m.stamp := by
  obtain ⟨c, cs, hyear, hc⟩ : ∃ c cs, (showYear m.year).toList = c :: cs ∧
      Text.isBlank c = false := by
    have hpadded (n : Nat) : ∃ c cs, (padded 4 n).toList = c :: cs ∧ Text.isBlank c = false := by
      obtain ⟨c, cs, hcs⟩ := List.exists_cons_of_ne_nil (padded_ne_nil 4 n)
      have hc : c.isDigit = true := isDigit_of_mem_padded (hcs ▸ List.mem_cons_self ..)
      exact ⟨c, cs, hcs, not_isBlank_of_isDigit hc⟩
    rw [showYear]
    split
    · exact hpadded _
    · split
      · exact ⟨'-', (padded 4 m.year.natAbs).toList, by simp, by decide⟩
      · exact ⟨'+', (padded 4 m.year.natAbs).toList, by simp, by decide⟩
  obtain ⟨ds, d, hfraction⟩ : ∃ ds d,
      (padded 6 (m.nano % 1000000000 / 1000)).toList = ds ++ [d] :=
    ⟨_, _, (List.dropLast_concat_getLast (padded_ne_nil 6 _)).symm⟩
  have hd : d.isDigit = true :=
    isDigit_of_mem_padded (hfraction ▸ List.mem_append_right ds (List.mem_singleton_self d))
  have hstart : m.stamp.toList.head? = some c := by
    simp [stamp, showDay, hyear]
  have hend : m.stamp.toList = (m.showDay ++ " " ++ m.showTime ++ ".").toList ++ ds ++ [d] := by
    rw [stamp, String.toList_append, hfraction, List.append_assoc]
  obtain ⟨rest, hrest⟩ := List.head?_eq_some_iff.mp hstart
  exact trim_eq_self hrest hc hend (not_isBlank_of_isDigit hd)

end Moment

/-! ### Reading the bounds -/

variable {text : String}

/-- The text names the last day that dates can have. -/
def NamesLastDay (text : String) : Prop :=
  Moment.readStamp? text = none ∧
    ∃ day, Moment.readDay? text = some day ∧ ¬ day.HasNextDay

/-- A bound that is a timestamp is read as the moment it names. -/
theorem readBound_of_stamp {ofDay : Moment → Moment} {m : Moment}
    (h : Moment.readStamp? (Text.trim text) = some m) : readBound ofDay text = .ok m := by
  unfold readBound
  simp only [h]

/-- A bound that is a date is read as a moment of this day, unless no day follows it. -/
theorem readBound_of_day {ofDay : Moment → Moment} {day : Moment}
    (hstamp : Moment.readStamp? (Text.trim text) = none)
    (hday : Moment.readDay? (Text.trim text) = some day) :
    readBound ofDay text = if day.isLastDay then .error .dateOverflow else .ok (ofDay day) := by
  unfold readBound
  simp only [hstamp, hday]

/-- A bound that is neither a timestamp nor a date is refused. -/
theorem readBound_of_neither {ofDay : Moment → Moment}
    (hstamp : Moment.readStamp? (Text.trim text) = none)
    (hday : Moment.readDay? (Text.trim text) = none) :
    readBound ofDay text = .error (.invalidDate (Text.trim text)) := by
  unfold readBound
  simp only [hstamp, hday]

/-- A bound is read back from its stamp, as either bound. -/
theorem readBound_stamp {m : Moment} (h : m.Exact) (ofDay : Moment → Moment) :
    readBound ofDay m.stamp = .ok m :=
  readBound_of_stamp (by rw [Moment.trim_stamp, Moment.readStamp?_stamp h])

/-- **What both bounds come from**: a moment, neither a moment nor a day, a day that has a next one,
or the last day. -/
theorem bounds_cases (text : String) :
    (∃ m, Moment.readStamp? (Text.trim text) = some m ∧
      readStart text = .ok m ∧ readEnd text = .ok m) ∨
    ((Moment.readStamp? (Text.trim text) = none ∧ Moment.readDay? (Text.trim text) = none) ∧
      readStart text = .error (.invalidDate (Text.trim text)) ∧
      readEnd text = .error (.invalidDate (Text.trim text))) ∨
    (∃ day, (Moment.readStamp? (Text.trim text) = none ∧
        Moment.readDay? (Text.trim text) = some day ∧ day.HasNextDay) ∧
      readStart text = .ok day.startOfDay ∧ readEnd text = .ok day.endOfDay) ∨
    (NamesLastDay (Text.trim text) ∧
      readStart text = .error .dateOverflow ∧ readEnd text = .error .dateOverflow) := by
  cases hstamp : Moment.readStamp? (Text.trim text) with
  | some m => exact .inl ⟨m, rfl, readBound_of_stamp hstamp, readBound_of_stamp hstamp⟩
  | none =>
    cases hday : Moment.readDay? (Text.trim text) with
    | none =>
      exact .inr (.inl ⟨⟨rfl, rfl⟩, readBound_of_neither hstamp hday,
        readBound_of_neither hstamp hday⟩)
    | some day =>
      have hbound : ∀ ofDay : Moment → Moment, readBound ofDay text =
          if day.isLastDay then .error .dateOverflow else .ok (ofDay day) :=
        fun _ => readBound_of_day hstamp hday
      have hnext := Moment.hasNextDay_iff (Moment.isDate_of_readDay? hday)
      by_cases hlast : day.isLastDay = true
      · simp only [if_pos hlast] at hbound
        have hnone : ¬ day.HasNextDay := by simp [hnext, hlast]
        exact .inr (.inr (.inr ⟨⟨hstamp, day, hday, hnone⟩, hbound _, hbound _⟩))
      · simp only [if_neg hlast] at hbound
        exact .inr (.inr (.inl ⟨day, ⟨rfl, rfl, hnext.mpr (Bool.eq_false_iff.mpr hlast)⟩,
          hbound _, hbound _⟩))

/-- Every bound that is read is exact to the microsecond. -/
theorem exact_of_bound {m : Moment} (h : readStart text = .ok m ∨ readEnd text = .ok m) :
    m.Exact := by
  rcases h with h | h
  · exact exact_of_readBound (fun _ => Moment.exact_startOfDay) h
  · exact exact_of_readBound (fun _ => Moment.exact_endOfDay) h

/-- **What the bounds are that are read from a text.** Both are read from the same texts, and the
start is not after the end. If the text is not accepted, it is no date, or it is the last day, which
has no bounds as its next day is no date. A moment is both bounds. The bounds of a day are the first
and the last moment to the microsecond of just this day. A bound is read back from its stamp. -/
theorem bounds_of_text (text : String) :
    ((∃ start finish, readStart text = .ok start ∧ readEnd text = .ok finish ∧
        finish.before start = false) ∨
      (readStart text = .error (.invalidDate (Text.trim text)) ∧
        readEnd text = .error (.invalidDate (Text.trim text))) ∨
      (readStart text = .error .dateOverflow ∧ readEnd text = .error .dateOverflow)) ∧
    (readStart text = .error (.invalidDate (Text.trim text)) ↔
      Moment.readStamp? (Text.trim text) = none ∧ Moment.readDay? (Text.trim text) = none) ∧
    (readStart text = .error .dateOverflow ↔ NamesLastDay (Text.trim text)) ∧
    (∀ m, Moment.readStamp? (Text.trim text) = some m →
      readStart text = .ok m ∧ readEnd text = .ok m) ∧
    (∀ day start finish, Moment.readStamp? (Text.trim text) = none →
      Moment.readDay? (Text.trim text) = some day →
      readStart text = .ok start → readEnd text = .ok finish →
        start.Plain ∧ finish.Plain ∧ ∀ m : Moment, m.Plain →
          (m.before start = false ∧ finish.before m = false ↔ m.startOfDay = day.startOfDay)) ∧
    ∀ m, readStart text = .ok m ∨ readEnd text = .ok m →
      readStart m.stamp = .ok m ∧ readEnd m.stamp = .ok m := by
  have hback : ∀ m, readStart text = .ok m ∨ readEnd text = .ok m →
      readStart m.stamp = .ok m ∧ readEnd m.stamp = .ok m :=
    fun m h => ⟨readBound_stamp (exact_of_bound h) _, readBound_stamp (exact_of_bound h) _⟩
  rcases bounds_cases text with ⟨m, hstamp, hstart, hend⟩ | ⟨⟨hstamp, hday⟩, hstart, hend⟩ |
    ⟨day, ⟨hstamp, hday, hnext⟩, hstart, hend⟩ | ⟨hlast, hstart, hend⟩
  -- a moment
  · refine ⟨.inl ⟨m, m, hstart, hend, Moment.not_before_self⟩, ?_, ?_, ?_, ?_, hback⟩
    · simp [hstart, hstamp]
    · simp [hstart, NamesLastDay, hstamp]
    · intro n hn
      obtain rfl := Option.some.inj (hstamp.symm.trans hn)
      exact ⟨hstart, hend⟩
    · intro _ _ _ hnone
      cases hstamp.symm.trans hnone
  -- no date
  · refine ⟨.inr (.inl ⟨hstart, hend⟩), iff_of_true hstart ⟨hstamp, hday⟩, ?_, ?_, ?_, hback⟩
    · simp [hstart, NamesLastDay, hday]
    · intro _ hsome
      cases hstamp.symm.trans hsome
    · intro _ _ _ _ hsome
      cases hday.symm.trans hsome
  -- a day with a next one
  · have hdate := Moment.isDate_of_readDay? hday
    refine ⟨.inl ⟨_, _, hstart, hend, Moment.endOfDay_not_before_startOfDay⟩, ?_, ?_, ?_, ?_, hback⟩
    · simp [hstart, hday]
    · simp [hstart, NamesLastDay, hday, hnext]
    · intro _ hsome
      cases hstamp.symm.trans hsome
    · intro day' start finish _ hday' hok hok'
      obtain rfl := Option.some.inj (hday.symm.trans hday')
      obtain rfl := Except.ok.inj (hstart.symm.trans hok)
      obtain rfl := Except.ok.inj (hend.symm.trans hok')
      exact ⟨Moment.plain_startOfDay hdate, Moment.plain_endOfDay hdate,
        fun _ hm => Moment.between_bounds_iff hm⟩
  -- the last day
  · obtain ⟨hstamp, day, hday, -⟩ := id hlast
    refine ⟨.inr (.inr ⟨hstart, hend⟩), ?_, iff_of_true hstart hlast, ?_, ?_, hback⟩
    · simp [hstart, hday]
    · intro _ hsome
      cases hstamp.symm.trans hsome
    · intro _ _ _ _ _ hok
      cases hstart.symm.trans hok

/-- The last day that dates can have is a date, and neither bound is read from it. -/
theorem last_day_without_bounds :
    (∃ day, Moment.readDay? "+262142-12-31" = some day) ∧
      readStart "+262142-12-31" = .error .dateOverflow ∧
      readEnd "+262142-12-31" = .error .dateOverflow := by
  have hstamp : Moment.readStamp? (Text.trim "+262142-12-31") = none := by decide +kernel
  have hday : Moment.readDay? (Text.trim "+262142-12-31") =
      some ⟨262142, 12, 31, 0, 0, 0, 0⟩ := by
    decide +kernel
  have htrim : Text.trim "+262142-12-31" = "+262142-12-31" := by decide +kernel
  exact ⟨⟨_, htrim ▸ hday⟩, readBound_of_day hstamp hday, readBound_of_day hstamp hday⟩

end AssetFlow
