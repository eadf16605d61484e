import AssetFlow.Calendar
import Mathlib.Algebra.Group.Nat.Defs
import Mathlib.Tactic.Common

/-!
# Reading back moments

A moment to the microsecond is read back from its stamp (`Moment.readStamp?_stamp`). Numbers of a
fixed width are read up to this width, so that it does not matter what follows; only the year has
another width, and then it has a sign and ends at the mark after it. The leap second, which is the
second 59 with a second more of nanoseconds, is shown as the second 60 and read as such.

## Main definitions

- `Moment.Exact`: a moment to the microsecond

## Main statements

- `Moment.readNumber_append`: digits are read up to where they end
- `Moment.readStamp?_stamp`: a moment to the microsecond is read back
- `Moment.exact_of_readStamp?`: what is read is a moment to the microsecond
-/

namespace AssetFlow.Moment

/-- A moment to the microsecond: a date with a time of day, where the last second of a minute may
be followed by a leap second. -/
structure Exact (m : Moment) : Prop where
  date : isDate m.year m.month m.day = true
  hour : m.hour ≤ 23
  minute : m.minute ≤ 59
  second : m.second ≤ 59
  nano : m.nano < 1000000000 ∨ m.second = 59 ∧ m.nano < 2000000000
  micros : m.nano % 1000 = 0

/-! ### Digits -/

theorem toList_padded (width n : Nat) : (padded width n).toList =
    List.replicate (width - (Nat.toDigits 10 n).length) '0' ++ Nat.toDigits 10 n := by
  have hlength : (toString n).length = (Nat.toDigits 10 n).length := by
    rw [← String.length_toList]
    exact congrArg List.length Nat.toList_repr
  simp only [padded, String.toList_append, String.toList_ofList, hlength]
  exact congrArg _ Nat.toList_repr

theorem isDigit_of_mem_padded {width n : Nat} {c : Char} (h : c ∈ (padded width n).toList) :
    c.isDigit = true := by
  rw [toList_padded, List.mem_append, List.mem_replicate] at h
  rcases h with ⟨-, rfl⟩ | h
  · rfl
  · exact Nat.isDigit_of_mem_toDigits (by decide) (by decide) h

theorem padded_ne_nil (width n : Nat) : (padded width n).toList ≠ [] := by
  rw [toList_padded]
  exact List.append_ne_nil_of_right_ne_nil _ Nat.toDigits_ne_nil

/-- A number that fits is padded to the width. -/
theorem length_padded {width n : Nat} (hwidth : 0 < width) (hn : n < 10 ^ width) :
    (padded width n).toList.length = width := by
  have := (Nat.length_toDigits_le_iff (by decide) hwidth).mpr hn
  rw [toList_padded, List.length_append, List.length_replicate]
  omega

/-- Padding a number does not change its value. -/
theorem ofDigitChars_padded (width n : Nat) :
    Nat.ofDigitChars 10 (padded width n).toList 0 = n := by
  rw [toList_padded, Nat.ofDigitChars_append, Nat.ofDigitChars_replicate_zero, Nat.mul_zero,
    Nat.ofDigitChars_ten_toDigits]

/-- Digits are read up to where they end, or as many as are asked for. -/
theorem readNumber_append {most : Nat} {ds rest : List Char} (hne : ds ≠ [])
    (hds : ∀ c ∈ ds, c.isDigit = true) (hlength : ds.length ≤ most)
    (hstop : ds.length < most → ∀ c ∈ rest.head?, c.isDigit = false)
    (hvalue : Nat.ofDigitChars 10 ds 0 < Nat.pow 2 63) :
    readNumber most (ds ++ rest) = some (↑(Nat.ofDigitChars 10 ds 0), rest) := by
  have htail : (rest.take (most - ds.length)).takeWhile Char.isDigit = [] := by
    rcases Nat.lt_or_eq_of_le hlength with hlt | heq
    · cases rest with
      | nil => simp
      | cons c rest =>
        obtain ⟨k, hk⟩ := Nat.exists_eq_add_one_of_ne_zero (n := most - ds.length) (by omega)
        simp [hk, hstop hlt c rfl]
    · simp [heq]
  have hdigits : ((ds ++ rest).take most).takeWhile Char.isDigit = ds := by
    rw [List.take_append, List.take_of_length_le hlength, List.takeWhile_append_of_pos hds, htail,
      List.append_nil]
  have hempty : ds.isEmpty = false := List.isEmpty_eq_false_iff.mpr hne
  rw [Nat.ofDigitChars_eq_foldl] at hvalue ⊢
  simpa [readNumber, hdigits, hempty] using hvalue

/-- A number of a fixed width is read whatever follows. -/
theorem readNumber_padded {width n : Nat} (rest : List Char) (hwidth : 0 < width)
    (hn : n < 10 ^ width) (hsmall : n < Nat.pow 2 63) :
    readNumber width ((padded width n).toList ++ rest) = some (↑n, rest) := by
  have hlength := length_padded hwidth hn
  have hvalue := ofDigitChars_padded width n
  have hread : readNumber width ((padded width n).toList ++ rest) =
      some (↑(Nat.ofDigitChars 10 (padded width n).toList 0), rest) :=
    readNumber_append (padded_ne_nil width n) (fun c hc => isDigit_of_mem_padded hc)
      (Nat.le_of_eq hlength) (fun hlt => by omega) (hvalue.symm ▸ hsmall)
  rwa [hvalue] at hread

theorem not_isBlank_of_isDigit {c : Char} (h : c.isDigit = true) : Text.isBlank c = false := by
  have hrange : 48 ≤ c.toNat ∧ c.toNat ≤ 57 := Char.isDigit_iff_toNat.mp h
  simp only [Text.isBlank, Bool.or_eq_false_iff, Bool.and_eq_false_iff, decide_eq_false_iff_not,
    beq_eq_false_iff_ne]
  omega

theorem skipBlanks_cons {c : Char} (h : Text.isBlank c = false) (rest : List Char) :
    skipBlanks (c :: rest) = c :: rest := by
  rw [skipBlanks, List.dropWhile_cons_of_neg]
  simp [h]

theorem skipBlanks_padded (width n : Nat) (rest : List Char) :
    skipBlanks ((padded width n).toList ++ rest) = (padded width n).toList ++ rest := by
  obtain ⟨c, cs, hcs⟩ := List.exists_cons_of_ne_nil (padded_ne_nil width n)
  have hc : c.isDigit = true := isDigit_of_mem_padded (hcs ▸ List.mem_cons_self ..)
  rw [hcs, List.cons_append, skipBlanks_cons (not_isBlank_of_isDigit hc)]

/-! ### The date -/

/-- A number of two digits within bounds is read back. -/
theorem readPart_padded {low high n : Nat} (rest : List Char) (hlow : low ≤ n) (hhigh : n ≤ high)
    (hn : n < 100) : readPart low high ((padded 2 n).toList ++ rest) = some (n, rest) := by
  have hread : readNumber 2 ((padded 2 n).toList ++ rest) = some (↑n, rest) :=
    readNumber_padded rest (by decide) hn (Nat.lt_of_lt_of_le hn (by decide))
  simp [readPart, skipBlanks_padded, hread, hlow, hhigh]

theorem daysIn_bounds (year : Int) (month : Nat) :
    1 ≤ daysIn year month ∧ daysIn year month ≤ 31 := by
  rw [daysIn.eq_def]
  repeat' split
  all_goals decide

/-- A date is a year of the calendar, a month, and a day that the month has. -/
theorem isDate_iff {year : Int} {month day : Nat} : isDate year month day = true ↔
    firstYear ≤ year ∧ year ≤ lastYear ∧ 1 ≤ month ∧ month ≤ 12 ∧ 1 ≤ day ∧
      day ≤ daysIn year month := by
  simp only [isDate, Bool.and_eq_true, decide_eq_true_eq, and_assoc]

/-- A number of any width is read up to the mark after it. -/
theorem readNumber_length {width n : Nat} (rest : List Char) (hn : n < Nat.pow 2 63) :
    readNumber ((padded width n).toList ++ '-' :: rest).length
      ((padded width n).toList ++ '-' :: rest) = some (↑n, '-' :: rest) := by
  have hvalue := ofDigitChars_padded width n
  have hlength : (padded width n).toList.length ≤
      ((padded width n).toList ++ '-' :: rest).length := by
    rw [List.length_append]
    omega
  have hstop : ∀ c ∈ ('-' :: rest).head?, c.isDigit = false := by
    intro c hc
    obtain rfl := Option.some.inj hc
    rfl
  have hread := readNumber_append (padded_ne_nil width n)
    (fun c hc => isDigit_of_mem_padded hc) hlength (fun _ => hstop) (hvalue.symm ▸ hn)
  rwa [hvalue] at hread

/-- A year is read back up to the mark after it. -/
theorem readYear_showYear {year : Int} (hlow : firstYear ≤ year) (hhigh : year ≤ lastYear)
    (rest : List Char) : readYear ((showYear year).toList ++ '-' :: rest) =
      some (year, '-' :: rest) := by
  have hbound : (262144 : Nat) ≤ Nat.pow 2 63 := by decide
  simp only [firstYear, lastYear] at hlow hhigh
  rw [showYear]
  split
  · next h =>
    -- the first character is a digit, so there is no sign
    have hrange : 0 ≤ year ∧ year ≤ 9999 := by simpa using h
    have hread : readNumber 4 ((padded 4 year.toNat).toList ++ '-' :: rest) =
        some (↑year.toNat, '-' :: rest) :=
      readNumber_padded _ (by decide) (by omega) (Nat.lt_of_lt_of_le (by omega) hbound)
    obtain ⟨c, cs, hcs⟩ := List.exists_cons_of_ne_nil (padded_ne_nil 4 year.toNat)
    have hc : c.isDigit = true := isDigit_of_mem_padded (hcs ▸ List.mem_cons_self ..)
    rw [Int.toNat_of_nonneg hrange.1] at hread
    rw [readYear, skipBlanks_padded]
    rw [hcs, List.cons_append] at hread ⊢
    split
    · next heq =>
      obtain rfl := (List.cons.inj heq).1
      exact absurd hc (by decide)
    · next heq =>
      obtain rfl := (List.cons.inj heq).1
      exact absurd hc (by decide)
    · exact hread
  · next h =>
    have hread : readNumber ((padded 4 year.natAbs).toList ++ '-' :: rest).length
        ((padded 4 year.natAbs).toList ++ '-' :: rest) = some (↑year.natAbs, '-' :: rest) :=
      readNumber_length rest (Nat.lt_of_lt_of_le (by omega) hbound)
    split
    · next hneg =>
      have hyear : -(year.natAbs : Int) = year := by omega
      have htext : ("-" ++ padded 4 year.natAbs).toList ++ '-' :: rest =
          '-' :: ((padded 4 year.natAbs).toList ++ '-' :: rest) := by
        simp
      rw [htext, readYear, skipBlanks_cons (by decide)]
      simp only [hread, Option.map_some, hyear]
    · next hpos =>
      have hyear : (year.natAbs : Int) = year := by omega
      have htext : ("+" ++ padded 4 year.natAbs).toList ++ '-' :: rest =
          '+' :: ((padded 4 year.natAbs).toList ++ '-' :: rest) := by
        simp
      rw [htext, readYear, skipBlanks_cons (by decide)]
      simp only [hread, hyear]

/-- A date is read back. -/
theorem readDate_showDay {m : Moment} (h : isDate m.year m.month m.day = true) (rest : List Char) :
    readDate (m.showDay.toList ++ rest) = some (⟨m.year, m.month, m.day, 0, 0, 0, 0⟩, rest) := by
  obtain ⟨hlow, hhigh, hmonth, hmonth', hday, hday'⟩ := isDate_iff.mp h
  have hdays := (daysIn_bounds m.year m.month).2
  have htext : m.showDay.toList ++ rest = (showYear m.year).toList ++ '-' ::
      ((padded 2 m.month).toList ++ '-' :: ((padded 2 m.day).toList ++ rest)) := by
    simp [showDay]
  have hrange : -Int.pow 2 31 ≤ m.year ∧ m.year < Int.pow 2 31 := by
    have : Int.pow 2 31 = 2147483648 := rfl
    simp only [firstYear, lastYear] at hlow hhigh
    omega
  rw [htext, readDate, readYear_showYear hlow hhigh]
  simp [readMark, readPart_padded _ hmonth hmonth' (by omega),
    readPart_padded _ hday (Nat.le_trans hday' hdays) (by omega)]
  exact hrange

/-- A fraction of six digits is read back. -/
theorem readFraction_padded {n : Nat} (hn : n < 1000000) :
    readFraction ('.' :: (padded 6 n).toList) = some (1000 * n, []) := by
  have hlength : (padded 6 n).toList.length = 6 := length_padded (by decide) hn
  have htake : (padded 6 n).toList.take 6 = (padded 6 n).toList :=
    List.take_of_length_le (Nat.le_of_eq hlength)
  have hdrop : (padded 6 n).toList.drop 6 = [] := List.drop_eq_nil_of_le (Nat.le_of_eq hlength)
  have hall : (padded 6 n).toList.all Char.isDigit = true :=
    List.all_eq_true.mpr fun c hc => isDigit_of_mem_padded hc
  have hvalue := ofDigitChars_padded 6 n
  rw [Nat.ofDigitChars_eq_foldl] at hvalue
  simp only [readFraction, htake, hdrop, hlength, hall, hvalue]
  rfl

/-- **A moment to the microsecond is read back from its stamp.** -/
theorem readStamp?_stamp {m : Moment} (h : m.Exact) : readStamp? m.stamp = some m := by
  obtain ⟨hdate, hhour, hminute, hsecond, hnano, hmicros⟩ := h
  have hshown : m.shownSecond ≤ 60 := by
    rw [shownSecond]
    omega
  have htext : m.stamp.toList = m.showDay.toList ++ ' ' :: ((padded 2 m.hour).toList ++ ':' ::
      ((padded 2 m.minute).toList ++ ':' :: ((padded 2 m.shownSecond).toList ++
        '.' :: (padded 6 (m.nano % 1000000000 / 1000)).toList))) := by
    simp [stamp, showTime]
  have hfraction := readFraction_padded (n := m.nano % 1000000000 / 1000) (by omega)
  have hspace : ∀ rest, skipBlanks (' ' :: ((padded 2 m.hour).toList ++ rest)) =
      (padded 2 m.hour).toList ++ rest := by
    intro rest
    rw [skipBlanks, List.dropWhile_cons_of_pos (by decide)]
    exact skipBlanks_padded 2 m.hour rest
  have hfields : (if m.shownSecond == 60 then 59 else m.shownSecond) = m.second ∧
      (if m.shownSecond == 60 then 1000 * (m.nano % 1000000000 / 1000) + 1000000000
        else 1000 * (m.nano % 1000000000 / 1000)) = m.nano := by
    simp only [beq_iff_eq, shownSecond]
    split <;> omega
  rw [readStamp?, htext, readDate_showDay hdate]
  simp only [Option.bind_eq_bind, Option.bind_some, hspace, readMark, beq_self_eq_true, if_true,
    readPart_padded _ (Nat.zero_le m.hour) hhour (by omega),
    readPart_padded _ (Nat.zero_le m.minute) hminute (by omega),
    readPart_padded _ (Nat.zero_le m.shownSecond) hshown (by omega), hfraction]
  rw [if_pos (by simpa using hdate), hfields.1, hfields.2]

example : readStamp? "2016-12-31 23:59:60.999999" =
    some ⟨2016, 12, 31, 23, 59, 59, 1999999000⟩ := by
  decide +kernel

/-! ### What is read -/

theorem ofDigitChars_lt {cs : List Char} (hcs : ∀ c ∈ cs, c.isDigit = true) (start : Nat) :
    Nat.ofDigitChars 10 cs start < 10 ^ cs.length * (start + 1) := by
  induction cs generalizing start with
  | nil => simp
  | cons c cs ih =>
    obtain ⟨hc, hcs⟩ := List.forall_mem_cons.mp hcs
    have hdigit : c.toNat ≤ 57 := (Char.isDigit_iff_toNat.mp hc).2
    have hzero : '0'.toNat = 48 := rfl
    calc Nat.ofDigitChars 10 (c :: cs) start
        = Nat.ofDigitChars 10 cs (10 * start + (c.toNat - '0'.toNat)) := Nat.ofDigitChars_cons
      _ < 10 ^ cs.length * (10 * start + (c.toNat - '0'.toNat) + 1) := ih hcs _
      _ ≤ 10 ^ cs.length * (10 * (start + 1)) := Nat.mul_le_mul_left _ (by omega)
      _ = 10 ^ (c :: cs).length * (start + 1) := by
        rw [List.length_cons, Nat.pow_succ, Nat.mul_assoc]

theorem le_of_readPart {low high n : Nat} {cs rest : List Char}
    (h : readPart low high cs = some (n, rest)) : n ≤ high := by
  obtain ⟨⟨i, tail⟩, -, h⟩ := Option.bind_eq_some_iff.mp h
  dsimp only at h
  split at h
  · next hrange =>
    obtain ⟨rfl, -⟩ := Prod.mk.inj (Option.some.inj h)
    simp at hrange
    omega
  · cases h

/-- A fraction of a second is read to the microsecond. -/
theorem of_readFraction {n : Nat} {cs rest : List Char} (h : readFraction cs = some (n, rest)) :
    n < 1000000000 ∧ n % 1000 = 0 := by
  rw [readFraction.eq_def] at h
  split at h
  · next digits =>
    dsimp only at h
    split at h
    · next hdigits =>
      obtain ⟨rfl, -⟩ := Prod.mk.inj (Option.some.inj h)
      obtain ⟨hlength, hall⟩ := Bool.and_eq_true_iff.mp hdigits
      have hvalue := ofDigitChars_lt (List.all_eq_true.mp hall) 0
      rw [beq_iff_eq.mp hlength, Nat.ofDigitChars_eq_foldl] at hvalue
      omega
    · cases h
  · obtain ⟨rfl, -⟩ := Prod.mk.inj (Option.some.inj h)
    omega

/-- **What is read as a stamp is a moment to the microsecond.** -/
theorem exact_of_readStamp? {s : String} {m : Moment} (h : readStamp? s = some m) : m.Exact := by
  rw [readStamp?] at h
  obtain ⟨⟨date, cs⟩, -, h⟩ := Option.bind_eq_some_iff.mp h
  obtain ⟨⟨hour, cs₁⟩, hhour, h⟩ := Option.bind_eq_some_iff.mp h
  obtain ⟨cs₂, -, h⟩ := Option.bind_eq_some_iff.mp h
  obtain ⟨⟨minute, cs₃⟩, hminute, h⟩ := Option.bind_eq_some_iff.mp h
  obtain ⟨cs₄, -, h⟩ := Option.bind_eq_some_iff.mp h
  obtain ⟨⟨second, cs₅⟩, hsecond, h⟩ := Option.bind_eq_some_iff.mp h
  obtain ⟨⟨nano, cs₆⟩, hnano, h⟩ := Option.bind_eq_some_iff.mp h
  have hhour := le_of_readPart hhour
  have hminute := le_of_readPart hminute
  have hsecond := le_of_readPart hsecond
  obtain ⟨hnano, hmicros⟩ := of_readFraction hnano
  dsimp only at h
  split at h
  · next hdate =>
    obtain rfl := Option.some.inj h
    have hdate := (Bool.and_eq_true_iff.mp hdate).2
    by_cases hleap : second = 60
    · subst hleap
      simp only [beq_self_eq_true, if_true]
      have hlt : nano + 1000000000 < 2000000000 := by omega
      have hwhole : (nano + 1000000000) % 1000 = 0 := by omega
      exact ⟨hdate, hhour, hminute, Nat.le_refl 59, .inr ⟨rfl, hlt⟩, hwhole⟩
    · have hplain : (second == 60) = false := beq_eq_false_iff_ne.mpr hleap
      simp only [hplain, Bool.false_eq_true, if_false]
      have hle : second ≤ 59 := by omega
      exact ⟨hdate, hhour, hminute, hle, .inl hnano, hmicros⟩
  · cases h

/-- What is read as a date is its first moment. -/
theorem isDate_of_readDay? {s : String} {m : Moment} (h : readDay? s = some m) :
    isDate m.year m.month m.day = true := by
  rw [readDay?] at h
  obtain ⟨⟨date, cs⟩, -, h⟩ := Option.bind_eq_some_iff.mp h
  dsimp only at h
  split at h
  · next hdate =>
    obtain rfl := Option.some.inj h
    exact (Bool.and_eq_true_iff.mp hdate).2
  · cases h

/-- The start of a day is exact to the microsecond. -/
theorem exact_startOfDay {m : Moment} (h : isDate m.year m.month m.day = true) :
    m.startOfDay.Exact := by
  constructor <;> simp only [startOfDay]
  case date => exact h
  all_goals decide

/-- The end of a day is exact to the microsecond. -/
theorem exact_endOfDay {m : Moment} (h : isDate m.year m.month m.day = true) :
    m.endOfDay.Exact := by
  constructor <;> simp only [endOfDay]
  case date => exact h
  all_goals decide

/-- The day before a date is a date. -/
theorem isDate_dayBefore? {m n : Moment} (h : isDate m.year m.month m.day = true)
    (hn : m.dayBefore? = some n) : isDate n.year n.month n.day = true := by
  rw [isDate_iff] at h ⊢
  by_cases hday : m.day > 1
  · have heq : m.dayBefore? = some ⟨m.year, m.month, m.day - 1, 0, 0, 0, 0⟩ := if_pos hday
    obtain rfl := Option.some.inj (heq.symm.trans hn)
    dsimp only
    omega
  by_cases hmonth : m.month > 1
  · have heq : m.dayBefore? =
        some ⟨m.year, m.month - 1, daysIn m.year (m.month - 1), 0, 0, 0, 0⟩ :=
      (if_neg hday).trans (if_pos hmonth)
    have hdays := daysIn_bounds m.year (m.month - 1)
    obtain rfl := Option.some.inj (heq.symm.trans hn)
    dsimp only
    omega
  have hyear : m.year ≠ firstYear := by
    intro hfirst
    have heq : m.dayBefore? = none :=
      (if_neg hday).trans ((if_neg hmonth).trans (if_pos (beq_iff_eq.mpr hfirst)))
    cases heq.symm.trans hn
  have heq : m.dayBefore? = some ⟨m.year - 1, 12, 31, 0, 0, 0, 0⟩ :=
    (if_neg hday).trans ((if_neg hmonth).trans (if_neg fun hfirst => hyear (beq_iff_eq.mp hfirst)))
  have hdays : daysIn (m.year - 1) 12 = 31 := rfl
  obtain rfl := Option.some.inj (heq.symm.trans hn)
  dsimp only
  omega

end AssetFlow.Moment
