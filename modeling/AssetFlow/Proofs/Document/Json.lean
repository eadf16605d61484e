import AssetFlow.Document.Json
import Mathlib.Data.List.TakeDrop
import Mathlib.Tactic.Common

/-!
# Reading back what was written as JSON

A value of plain data is read back from the text that it is written as, with one item on a line
(`Json.read_pretty`). The text of a value is followed by a comma, by the end of a line or by
nothing, so that a number ends where its digits do. Each character of a string is written as what it
is read from, and the reader has as much fuel as the text has characters.

## Main definitions

- `Value.Fits`: plain data of a limited number of levels
- `Json.ReadsBack`: a value that is read back from the start of a text

## Main statements

- `Json.readString_escape`: a character of a string is read back
- `Json.readsBack`: a value is read back from the start of a text
- `Json.read_pretty`: a value is read back from its text
-/

namespace AssetFlow.Document

mutual

/-- Plain data: texts, truth values, integers of 64 bits and nulls in lists, and in records by text,
with so many levels of lists and records. -/
def Value.Fits : Value → Nat → Prop
  | .null, _ | .bool _, _ | .text _, _ => True
  | .int n, _ => -Int.pow 2 63 ≤ n ∧ n < Int.pow 2 64
  | .float _, _ | .tagged _ _, _ => False
  | .list items, levels => ∃ inner, levels = inner + 1 ∧ FitItems items inner
  | .record fields, levels => ∃ inner, levels = inner + 1 ∧ FitFields fields inner
termination_by structural v => v

def FitItems : List Value → Nat → Prop
  | [], _ => True
  | v :: rest, levels => v.Fits levels ∧ FitItems rest levels
termination_by structural vs => vs

def FitFields : List (Value × Value) → Nat → Prop
  | [], _ => True
  | f :: rest, levels => FitField f levels ∧ FitFields rest levels
termination_by structural fs => fs

def FitField : Value × Value → Nat → Prop
  | (k, v), levels => (∃ key, k = .text key) ∧ v.Fits levels
termination_by structural f => f

end

namespace Value

variable {levels : Nat}

theorem fits_text (s : String) : (text s).Fits levels :=
  trivial

theorem fits_bool (b : Bool) : (bool b).Fits levels :=
  trivial

/-- A list needs one level more than its items. -/
theorem fits_list {vs : List Value} (h : ∀ v ∈ vs, v.Fits levels) :
    (list vs).Fits (levels + 1) := by
  refine ⟨levels, rfl, ?_⟩
  induction vs with
  | nil => trivial
  | cons v vs ih =>
    obtain ⟨hv, hvs⟩ := List.forall_mem_cons.mp h
    exact ⟨hv, ih hvs⟩

theorem fits_texts (xs : List String) : (texts xs).Fits (levels + 1) := by
  refine fits_list fun v hv => ?_
  obtain ⟨s, -, rfl⟩ := List.mem_map.mp hv
  exact fits_text s

/-- A record needs one level more than the values of its fields. -/
theorem fits_fields {fs : List (String × Value)} (h : ∀ f ∈ fs, f.2.Fits levels) :
    (fields fs).Fits (levels + 1) := by
  refine ⟨levels, rfl, ?_⟩
  induction fs with
  | nil => trivial
  | cons f fs ih =>
    obtain ⟨hf, hfs⟩ := List.forall_mem_cons.mp h
    exact ⟨⟨⟨f.1, rfl⟩, hf⟩, ih hfs⟩

theorem fits_ofOption (v : Option String) : (ofOption (v.map text)).Fits levels := by
  cases v <;> trivial

/-- A number of 64 bits fits into every level. -/
theorem fits_int {n : Nat} (h : n < UInt64.size) : (int n).Fits levels := by
  have hlow : -Int.pow 2 63 ≤ 0 := by decide
  have hhigh : (UInt64.size : Int) = Int.pow 2 64 := by decide
  exact ⟨Int.le_trans hlow (Int.natCast_nonneg n), hhigh ▸ Int.ofNat_lt.mpr h⟩

end Value

namespace Json

/-! ### Blanks -/

/-- A new line with its indentation is blank. -/
theorem skipBlanks_newLine (depth : Nat) (cs : List Char) :
    skipBlanks ((newLine depth).toList ++ cs) = skipBlanks cs := by
  have hspaces : ∀ n, skipBlanks (List.replicate n ' ' ++ cs) = skipBlanks cs := by
    intro n
    induction n with
    | zero => rfl
    | succ n ih => simpa [List.replicate_succ, skipBlanks] using ih
  simpa [newLine, skipBlanks] using hspaces (2 * depth)

/-- A value is read alike whichever blanks stand before it. -/
theorem readValue_skipBlanks {fuel depth : Nat} {cs cs' : List Char}
    (h : skipBlanks cs = skipBlanks cs') : readValue fuel depth cs = readValue fuel depth cs' := by
  cases fuel with
  | zero => rfl
  | succ fuel => rw [readValue, readValue, h]

/-! ### Strings -/

/-- A hexadecimal digit is read back. -/
theorem hexDigit?_hexDigit : ∀ n < 16, hexDigit? (hexDigit n) = some n := by
  decide

/-- A control character is read back from its two digits. -/
theorem readUnicode_control {c : Char} (h : c.toNat < 0x20) (cs : List Char) :
    readUnicode ('0' :: '0' :: hexDigit (c.toNat / 16) :: hexDigit (c.toNat % 16) :: cs) =
      some (c, cs) := by
  have hzero : hexDigit? '0' = some 0 := by decide
  have hhigh := hexDigit?_hexDigit (c.toNat / 16) (by omega)
  have hlow := hexDigit?_hexDigit (c.toNat % 16) (by omega)
  have hvalue : ((0 * 16 + 0) * 16 + c.toNat / 16) * 16 + c.toNat % 16 = c.toNat := by omega
  have hread : readHex4 ('0' :: '0' :: hexDigit (c.toNat / 16) :: hexDigit (c.toNat % 16) :: cs) =
      some (c.toNat, cs) := by
    simp only [readHex4, hzero, hhigh, hlow, Option.bind_eq_bind, Option.bind_some, hvalue]
    rfl
  have hnone : ¬ (0xDC00 ≤ c.toNat ∧ c.toNat ≤ 0xDFFF) := by omega
  have hone : ¬ (0xD800 ≤ c.toNat ∧ c.toNat ≤ 0xDBFF) := by omega
  simp [readUnicode, hread, hnone, hone, Char.ofNat_toNat]

/-- **A character of a string is read back.** -/
theorem readString_escape (fuel : Nat) (acc : List Char) (c : Char) (cs : List Char) :
    readString (fuel + 1) acc (escape c ++ cs) = readString fuel (c :: acc) cs := by
  rw [escape.eq_def]
  split
  · rfl
  · rfl
  · rfl
  · rfl
  · rfl
  · next hquote hbackslash _ _ _ =>
    split
    · next h8 =>
      obtain rfl : Char.ofNat 8 = c := by
        rw [← beq_iff_eq.mp h8, Char.ofNat_toNat]
      rfl
    · split
      · next h12 =>
        obtain rfl : Char.ofNat 12 = c := by
          rw [← beq_iff_eq.mp h12, Char.ofNat_toNat]
        rfl
      · split
        · next hcontrol =>
          simp [readString, readEscape, readUnicode_control hcontrol]
        · next hcontrol =>
          rw [readString.eq_def]
          simp only [List.singleton_append]
          split <;> simp_all

theorem escape_ne_nil (c : Char) : escape c ≠ [] := by
  rw [escape.eq_def]
  repeat' split
  all_goals exact List.cons_ne_nil _ _

theorem length_le_flatMap_escape (cs : List Char) : cs.length ≤ (cs.flatMap escape).length := by
  induction cs with
  | nil => exact Nat.le_refl _
  | cons c cs ih =>
    have hone := List.length_pos_iff.mpr (escape_ne_nil c)
    simp only [List.flatMap_cons, List.length_append, List.length_cons]
    omega

/-- The characters of a text are read back up to the closing quote. -/
theorem readString_flatMap_escape {fuel : Nat} {cs : List Char} (acc rest : List Char)
    (hfuel : cs.length < fuel) : readString fuel acc (cs.flatMap escape ++ '"' :: rest) =
      some (String.ofList (acc.reverse ++ cs), rest) := by
  induction cs generalizing fuel acc with
  | nil =>
    obtain ⟨fuel, rfl⟩ := Nat.exists_eq_add_one_of_ne_zero (Nat.ne_zero_of_lt hfuel)
    simp [readString]
  | cons c cs ih =>
    obtain ⟨fuel, rfl⟩ := Nat.exists_eq_add_one_of_ne_zero (Nat.ne_zero_of_lt hfuel)
    rw [List.flatMap_cons, List.append_assoc, readString_escape,
      ih (c :: acc) (Nat.lt_of_succ_lt_succ hfuel)]
    simp

/-- A string is read back after its opening quote. -/
theorem readString_quoted (s : String) (rest : List Char) : ∃ cs,
    (quoted s).toList ++ rest = '"' :: cs ∧ readString (cs.length + 1) [] cs = some (s, rest) := by
  refine ⟨s.toList.flatMap escape ++ '"' :: rest, by simp [quoted], ?_⟩
  rw [readString_flatMap_escape]
  · simp
  · have := length_le_flatMap_escape s.toList
    simp only [List.length_append, List.length_cons]
    omega

/-! ### Numbers -/

/-- What follows a value in a text: nothing, a comma or the end of a line. -/
def Delimited (cs : List Char) : Prop :=
  ∀ c ∈ cs.head?, c = ',' ∨ c = '\n'

/-- The digits of a number end where something else begins. -/
theorem takeDigits_toDigits (n : Nat) {rest : List Char} (hrest : Delimited rest) :
    takeDigits (Nat.toDigits 10 n ++ rest) = (Nat.toDigits 10 n, rest) := by
  have hstop : ∀ c ∈ rest.head?, ¬ c.isDigit = true := by
    intro c hc
    rcases hrest c hc with rfl | rfl <;> decide
  rw [takeDigits, List.span_eq_takeWhile_dropWhile]
  have htake : rest.takeWhile Char.isDigit = [] := by
    cases rest with
    | nil => rfl
    | cons c rest => simp [hstop c rfl]
  have hdrop : rest.dropWhile Char.isDigit = rest := by
    cases rest with
    | nil => rfl
    | cons c rest => simp [hstop c rfl]
  have hdigits : ∀ c ∈ Nat.toDigits 10 n, c.isDigit = true := fun c hc =>
    Nat.isDigit_of_mem_toDigits (by decide) (by decide) hc
  rw [List.takeWhile_append_of_pos hdigits, List.dropWhile_append_of_pos hdigits, htake, hdrop,
    List.append_nil]

/-- The value of a number is read back from its digits. -/
theorem digitsValue_toDigits (n : Nat) : digitsValue (Nat.toDigits 10 n) = n :=
  Nat.ofDigitChars_ten_toDigits

/-- Only the number zero is written with a zero in front. -/
theorem toDigits_leading (n : Nat) : Nat.toDigits 10 n = ['0'] ∨
    ∃ c ds, Nat.toDigits 10 n = c :: ds ∧ c ≠ '0' := by
  induction n using Nat.strongRecOn with
  | ind n ih =>
    by_cases hsmall : n < 10
    · rw [Nat.toDigits_of_lt_base hsmall]
      by_cases h : n.digitChar = '0'
      · exact .inl (congrArg (fun c => [c]) h)
      · exact .inr ⟨n.digitChar, [], rfl, h⟩
    · have hzero : Nat.toDigits 10 (n / 10) ≠ ['0'] := by
        intro h
        have hvalue := Nat.ofDigitChars_ten_toDigits (n := n / 10)
        rw [h] at hvalue
        have : n / 10 = 0 := hvalue.symm
        omega
      obtain ⟨c, ds, hds, hc⟩ := (ih (n / 10) (by omega)).resolve_left hzero
      rw [Nat.toDigits_of_base_le (by decide) (by omega), hds]
      exact .inr ⟨c, _, rfl, hc⟩

/-- Where a number ends there is no fraction. -/
theorem readFraction_of_delimited {rest : List Char} (h : Delimited rest) :
    readFraction rest = some ([], rest) := by
  cases rest with
  | nil => rfl
  | cons c rest => rcases h c rfl with rfl | rfl <;> rfl

/-- Where a number ends there is no exponent. -/
theorem readExponent_of_delimited {rest : List Char} (h : Delimited rest) :
    readExponent rest = some (0, rest) := by
  cases rest with
  | nil => rfl
  | cons c rest => rcases h c rfl with rfl | rfl <;> rfl

/-- An integer of 64 bits is read back, after its sign. -/
theorem readMagnitude_toDigits {negative : Bool} {n : Nat} {rest : List Char}
    (hrest : Delimited rest)
    (hn : if negative then 0 < n ∧ n ≤ Nat.pow 2 63 else n < UInt64.size) :
    readMagnitude negative (Nat.toDigits 10 n ++ rest) =
      some (.int (if negative then -(Int.ofNat n) else n), rest) := by
  have hvalue := digitsValue_toDigits n
  have hleading := toDigits_leading n
  rw [readMagnitude, takeDigits_toDigits n hrest]
  generalize Nat.toDigits 10 n = ds at hvalue hleading
  rcases hleading with rfl | ⟨c, ds, rfl, hc⟩ <;>
    cases negative <;>
    simp_all [readFraction_of_delimited hrest, readExponent_of_delimited hrest]

/-! ### Values -/

/-- The items of a list, as they stand between the brackets. -/
def prettyItems (depth : Nat) : List Value → String
  | [] => ""
  | v :: rest => prettyAt depth v ++ prettyMore depth rest

/-- The fields of a record, as they stand between the braces. -/
def prettyFields (depth : Nat) : List (Value × Value) → String
  | [] => ""
  | f :: rest => prettyField depth f ++ prettyMoreFields depth rest

theorem prettyMore_cons (depth : Nat) (v : Value) (rest : List Value) :
    prettyMore depth (v :: rest) = "," ++ newLine depth ++ prettyItems depth (v :: rest) := by
  simp only [prettyMore, prettyItems, String.append_assoc]

theorem prettyMoreFields_cons (depth : Nat) (f : Value × Value) (rest : List (Value × Value)) :
    prettyMoreFields depth (f :: rest) =
      "," ++ newLine depth ++ prettyFields depth (f :: rest) := by
  simp only [prettyMoreFields, prettyFields, String.append_assoc]

/-- A new line ends a number. -/
theorem delimited_newLine (depth : Nat) (cs : List Char) :
    Delimited ((newLine depth).toList ++ cs) := by
  intro c hc
  simp [newLine] at hc
  exact .inr hc.symm

/-- What follows an item of a list ends a number. -/
theorem delimited_prettyMore {depth : Nat} (vs : List Value) {cs : List Char} (hcs : Delimited cs) :
    Delimited ((prettyMore depth vs).toList ++ cs) := by
  cases vs with
  | nil => simpa [prettyMore] using hcs
  | cons v rest =>
    intro c hc
    simp [prettyMore] at hc
    exact .inl hc.symm

/-- What follows a field of a record ends a number. -/
theorem delimited_prettyMoreFields {depth : Nat} (fs : List (Value × Value)) {cs : List Char}
    (hcs : Delimited cs) : Delimited ((prettyMoreFields depth fs).toList ++ cs) := by
  cases fs with
  | nil => simpa [prettyMoreFields] using hcs
  | cons f rest =>
    intro c hc
    simp [prettyMoreFields] at hc
    exact .inl hc.symm

theorem skipBlanks_cons {c : Char} (h : (c == ' ' || c == '\n' || c == '\t' || c == '\r') = false)
    (cs : List Char) : skipBlanks (c :: cs) = c :: cs := by
  rw [skipBlanks, h]
  rfl

theorem not_blank_of_isDigit {c : Char} (h : c.isDigit = true) :
    (c == ' ' || c == '\n' || c == '\t' || c == '\r') = false := by
  simp only [Bool.or_eq_false_iff, beq_eq_false_iff_ne]
  refine ⟨⟨⟨?_, ?_⟩, ?_⟩, ?_⟩ <;> rintro rfl <;> exact absurd h (by decide)

/-- A number has a first digit. -/
theorem exists_toDigits_eq_cons (n : Nat) : ∃ c cs, Nat.toDigits 10 n = c :: cs ∧
    c.isDigit = true := by
  obtain ⟨c, cs, hcs⟩ := List.exists_cons_of_ne_nil (Nat.toDigits_ne_nil (b := 10) (n := n))
  exact ⟨c, cs, hcs, Nat.isDigit_of_mem_toDigits (by decide) (by decide)
    (hcs ▸ List.mem_cons_self ..)⟩

/-- A value of plain data starts with no blank, nor with the end of a list. -/
theorem exists_head_prettyAt {v : Value} {levels : Nat} (hv : v.Fits levels) (depth : Nat) :
    ∃ c, (prettyAt depth v).toList.head? = some c ∧ c ≠ ']' ∧
      (c == ' ' || c == '\n' || c == '\t' || c == '\r') = false := by
  cases v with
  | null => exact ⟨'n', by simp [prettyAt], by decide, rfl⟩
  | bool b =>
    cases b with
    | false => exact ⟨'f', by simp [prettyAt, scalar], by decide, rfl⟩
    | true => exact ⟨'t', by simp [prettyAt, scalar], by decide, rfl⟩
  | int n =>
    cases n with
    | ofNat n =>
      obtain ⟨c, cs, hcs, hc⟩ := exists_toDigits_eq_cons n
      refine ⟨c, congrArg List.head? (Nat.toList_repr.trans hcs), ?_, not_blank_of_isDigit hc⟩
      rintro rfl
      exact absurd hc (by decide)
    | negSucc n =>
      have htext : prettyAt depth (.int (.negSucc n)) = "-" ++ Nat.repr (n + 1) := rfl
      exact ⟨'-', by simp [htext], by decide, rfl⟩
  | float _ => exact hv.elim
  | tagged _ _ => exact hv.elim
  | text s => exact ⟨'"', by simp [prettyAt, quoted], by decide, rfl⟩
  | list items => cases items <;> exact ⟨'[', by simp [prettyAt], by decide, rfl⟩
  | record fields => cases fields <;> exact ⟨'{', by simp [prettyAt], by decide, rfl⟩

/-- The text of a value is not empty, so there is fuel for it. -/
theorem exists_fuel {v : Value} {fuel levels depth : Nat} (hv : v.Fits levels)
    (hfuel : (prettyAt depth v).toList.length ≤ fuel) : ∃ k, fuel = k + 1 := by
  obtain ⟨c, hc, -⟩ := exists_head_prettyAt hv depth
  obtain ⟨cs, hcs⟩ := List.head?_eq_some_iff.mp hc
  rw [hcs, List.length_cons] at hfuel
  exact Nat.exists_eq_add_one_of_ne_zero (by omega)

/-- Items are read alike whichever blanks stand before them. -/
theorem readItems_skipBlanks {fuel levels : Nat} {acc : List Value} {cs cs' : List Char}
    (h : skipBlanks cs = skipBlanks cs') :
    readItems fuel levels acc cs = readItems fuel levels acc cs' := by
  cases fuel with
  | zero => rfl
  | succ fuel => rw [readItems, readItems, readValue_skipBlanks h]

/-- Fields are read alike whichever blanks stand before them. -/
theorem readFields_skipBlanks {fuel levels : Nat} {acc : List (Value × Value)}
    {cs cs' : List Char} (h : skipBlanks cs = skipBlanks cs') :
    readFields fuel levels acc cs = readFields fuel levels acc cs' := by
  cases fuel with
  | zero => rfl
  | succ fuel => rw [readFields, readFields, h]

/-- A value that begins with a digit is a number. -/
theorem readValue_digits {fuel levels : Nat} {c : Char} {cs : List Char} (hc : c.isDigit = true) :
    readValue (fuel + 1) levels (c :: cs) = readMagnitude false (c :: cs) := by
  rw [readValue, skipBlanks_cons (not_blank_of_isDigit hc)]
  split <;> simp_all

/-- **A number is read back** if it has 64 bits. -/
theorem readValue_int {fuel levels : Nat} {n : Int} {rest : List Char}
    (hlow : -Int.pow 2 63 ≤ n) (hhigh : n < Int.pow 2 64) (hrest : Delimited rest) :
    readValue (fuel + 1) levels ((toString n).toList ++ rest) = some (.int n, rest) := by
  cases n with
  | ofNat n =>
    have htext : (toString (Int.ofNat n)).toList = Nat.toDigits 10 n := Nat.toList_repr
    obtain ⟨c, cs, hcs, hc⟩ := exists_toDigits_eq_cons n
    have hn : n < UInt64.size := by
      have : Int.pow 2 64 = 18446744073709551616 := rfl
      have : UInt64.size = 18446744073709551616 := rfl
      have : Int.ofNat n = (n : Int) := rfl
      omega
    have hread : readMagnitude false (Nat.toDigits 10 n ++ rest) = some (.int n, rest) :=
      readMagnitude_toDigits hrest hn
    rw [htext, hcs, List.cons_append, readValue_digits hc, ← List.cons_append, ← hcs, hread]
    rfl
  | negSucc n =>
    have htext : (toString (Int.negSucc n)).toList = '-' :: Nat.toDigits 10 (n + 1) := by
      have : toString (Int.negSucc n) = "-" ++ Nat.repr (n + 1) := rfl
      rw [this, String.toList_append, Nat.toList_repr]
      rfl
    have hn : 0 < n + 1 ∧ n + 1 ≤ Nat.pow 2 63 := by
      have : Int.pow 2 63 = 9223372036854775808 := rfl
      have : Nat.pow 2 63 = 9223372036854775808 := rfl
      omega
    have hread : readMagnitude true (Nat.toDigits 10 (n + 1) ++ rest) =
        some (.int (-Int.ofNat (n + 1)), rest) := readMagnitude_toDigits hrest hn
    rw [htext, List.cons_append, readValue]
    exact hread

/-- A value is read back from the start of a text, with as much fuel as it has characters. -/
def ReadsBack (v : Value) : Prop :=
  ∀ (fuel levels depth : Nat) (rest : List Char), v.Fits levels →
    (prettyAt depth v).toList.length ≤ fuel → Delimited rest →
      readValue fuel levels ((prettyAt depth v).toList ++ rest) = some (v, rest)

/-- The items of a list are read back one after the other, up to the closing bracket. -/
theorem readItems_prettyItems {vs : List Value} (hvs : ∀ v ∈ vs, ReadsBack v) (hne : vs ≠ []) :
    ∀ (fuel levels depth outer : Nat) (acc : List Value) (rest : List Char), FitItems vs levels →
      (prettyItems depth vs).toList.length < fuel →
      readItems fuel levels acc ((prettyItems depth vs).toList ++
        ((newLine outer).toList ++ ']' :: rest)) = some (.list (acc.reverse ++ vs), rest) := by
  induction vs with
  | nil => exact absurd rfl hne
  | cons v vs ih =>
    intro fuel levels depth outer acc rest hfit hfuel
    obtain ⟨fuel, rfl⟩ := Nat.exists_eq_add_one_of_ne_zero (Nat.ne_zero_of_lt hfuel)
    obtain ⟨hv, hvs'⟩ := hfit
    have hlength : (prettyAt depth v).toList.length + (prettyMore depth vs).toList.length <
        fuel + 1 := by
      simpa [prettyItems] using hfuel
    have hread := hvs v (List.mem_cons_self ..) fuel levels depth
      ((prettyMore depth vs).toList ++ ((newLine outer).toList ++ ']' :: rest)) hv (by omega)
      (delimited_prettyMore vs (delimited_newLine outer _))
    rw [prettyItems, String.toList_append, List.append_assoc, readItems, hread]
    cases vs with
    | nil =>
      have hend : skipBlanks ((newLine outer).toList ++ ']' :: rest) = ']' :: rest := by
        rw [skipBlanks_newLine]
        rfl
      simp [prettyMore, hend]
    | cons w ws =>
      have hmore : skipBlanks ((prettyMore depth (w :: ws)).toList ++
          ((newLine outer).toList ++ ']' :: rest)) = ',' :: ((newLine depth).toList ++
            ((prettyItems depth (w :: ws)).toList ++ ((newLine outer).toList ++ ']' :: rest))) := by
        rw [prettyMore_cons]
        simp [skipBlanks]
      rw [prettyMore_cons] at hlength
      have hlength' : (prettyItems depth (w :: ws)).toList.length < fuel := by
        simp at hlength ⊢
        omega
      simp only [Option.bind_eq_bind, Option.bind_some, hmore]
      rw [readItems_skipBlanks (skipBlanks_newLine _ _),
        ih (fun x hx => hvs x (List.mem_cons_of_mem v hx)) (List.cons_ne_nil w ws) _ _ _ _ _ _ hvs'
          hlength']
      simp

/-- A list is read back if its items are. -/
theorem readsBack_list {vs : List Value} (hvs : ∀ v ∈ vs, ReadsBack v) : ReadsBack (.list vs) := by
  intro fuel levels depth rest hfit hfuel _
  obtain ⟨fuel, rfl⟩ := exists_fuel hfit hfuel
  obtain ⟨levels, rfl, hfit⟩ := hfit
  cases vs with
  | nil => simp [prettyAt, readValue, skipBlanks]
  | cons v vs =>
    have htext : (prettyAt depth (.list (v :: vs))).toList ++ rest = '[' ::
        ((newLine (depth + 1)).toList ++ ((prettyItems (depth + 1) (v :: vs)).toList ++
          ((newLine depth).toList ++ ']' :: rest))) := by
      simp [prettyAt, prettyItems]
    have hlength := congrArg List.length htext
    simp only [List.length_append, List.length_cons] at hlength
    have hitems := readItems_prettyItems hvs (List.cons_ne_nil v vs) fuel levels (depth + 1) depth
      [] rest hfit (by omega)
    obtain ⟨c, hc, hbracket, hblank⟩ := exists_head_prettyAt hfit.1 (depth + 1)
    obtain ⟨cs, hcs⟩ := List.head?_eq_some_iff.mp hc
    have hstart : (prettyItems (depth + 1) (v :: vs)).toList =
        c :: (cs ++ (prettyMore (depth + 1) vs).toList) := by
      rw [prettyItems, String.toList_append, hcs, List.cons_append]
    rw [htext, readValue, skipBlanks_cons (by rfl)]
    simp only [skipBlanks_newLine]
    rw [hstart, List.cons_append, skipBlanks_cons hblank]
    rw [hstart, List.cons_append] at hitems
    split
    · next h => exact absurd (List.cons.inj h).1 hbracket
    · exact hitems

/-- The fields of a record are read back one after the other, up to the closing brace. -/
theorem readFields_prettyFields {fs : List (Value × Value)} (hfs : ∀ f ∈ fs, ReadsBack f.2)
    (hne : fs ≠ []) : ∀ (fuel levels depth outer : Nat) (acc : List (Value × Value))
      (rest : List Char), FitFields fs levels → (prettyFields depth fs).toList.length < fuel →
      readFields fuel levels acc ((prettyFields depth fs).toList ++
        ((newLine outer).toList ++ '}' :: rest)) = some (.record (acc.reverse ++ fs), rest) := by
  induction fs with
  | nil => exact absurd rfl hne
  | cons f fs ih =>
    intro fuel levels depth outer acc rest hfit hfuel
    obtain ⟨fuel, rfl⟩ := Nat.exists_eq_add_one_of_ne_zero (Nat.ne_zero_of_lt hfuel)
    obtain ⟨k, v⟩ := f
    obtain ⟨⟨⟨key, rfl⟩, hv⟩, hfs'⟩ := hfit
    have hlength : (prettyAt depth v).toList.length + (prettyMoreFields depth fs).toList.length <
        fuel := by
      simp [prettyFields, prettyField] at hfuel
      omega
    have hback : ReadsBack v := hfs (.text key, v) (List.mem_cons_self ..)
    have hread := hback fuel levels depth
      ((prettyMoreFields depth fs).toList ++ ((newLine outer).toList ++ '}' :: rest)) hv (by omega)
      (delimited_prettyMoreFields fs (delimited_newLine outer _))
    have htext : (prettyFields depth ((.text key, v) :: fs)).toList ++
        ((newLine outer).toList ++ '}' :: rest) = (quoted key).toList ++ (':' :: ' ' ::
          ((prettyAt depth v).toList ++ ((prettyMoreFields depth fs).toList ++
            ((newLine outer).toList ++ '}' :: rest)))) := by
      simp [prettyFields, prettyField, Json.key]
    obtain ⟨cs, hcs, hkey⟩ := readString_quoted key (':' :: ' ' ::
      ((prettyAt depth v).toList ++ ((prettyMoreFields depth fs).toList ++
        ((newLine outer).toList ++ '}' :: rest))))
    have hvalue : readValue fuel levels (' ' :: ((prettyAt depth v).toList ++
        ((prettyMoreFields depth fs).toList ++ ((newLine outer).toList ++ '}' :: rest)))) =
          some (v, (prettyMoreFields depth fs).toList ++ ((newLine outer).toList ++ '}' :: rest)) :=
      Eq.trans (readValue_skipBlanks (by rfl)) hread
    rw [htext, hcs, readFields, skipBlanks_cons (by rfl)]
    simp only [hkey, Option.bind_eq_bind, Option.bind_some, skipBlanks_cons (c := ':') rfl, hvalue]
    cases fs with
    | nil =>
      have hend : skipBlanks ((newLine outer).toList ++ '}' :: rest) = '}' :: rest := by
        rw [skipBlanks_newLine]
        rfl
      simp [prettyMoreFields, hend]
    | cons g gs =>
      have hmore : skipBlanks ((prettyMoreFields depth (g :: gs)).toList ++
          ((newLine outer).toList ++ '}' :: rest)) =
            ',' :: ((newLine depth).toList ++ ((prettyFields depth (g :: gs)).toList ++
              ((newLine outer).toList ++ '}' :: rest))) := by
        rw [prettyMoreFields_cons]
        simp [skipBlanks]
      rw [prettyMoreFields_cons] at hlength
      have hlength' : (prettyFields depth (g :: gs)).toList.length < fuel := by
        simp at hlength ⊢
        omega
      simp only [hmore]
      rw [readFields_skipBlanks (skipBlanks_newLine _ _),
        ih (fun x hx => hfs x (List.mem_cons_of_mem _ hx)) (List.cons_ne_nil g gs) _ _ _ _ _ _ hfs'
          hlength']
      simp

/-- A record is read back if the values of its fields are. -/
theorem readsBack_record {fs : List (Value × Value)} (hfs : ∀ f ∈ fs, ReadsBack f.2) :
    ReadsBack (.record fs) := by
  intro fuel levels depth rest hfit hfuel _
  obtain ⟨fuel, rfl⟩ := exists_fuel hfit hfuel
  obtain ⟨levels, rfl, hfit⟩ := hfit
  cases fs with
  | nil => simp [prettyAt, readValue, skipBlanks]
  | cons f fs =>
    have htext : (prettyAt depth (.record (f :: fs))).toList ++ rest = '{' ::
        ((newLine (depth + 1)).toList ++ ((prettyFields (depth + 1) (f :: fs)).toList ++
          ((newLine depth).toList ++ '}' :: rest))) := by
      simp [prettyAt, prettyFields]
    have hlength := congrArg List.length htext
    simp only [List.length_append, List.length_cons] at hlength
    have hfields := readFields_prettyFields hfs (List.cons_ne_nil f fs) fuel levels (depth + 1)
      depth [] rest hfit (by omega)
    obtain ⟨k, v⟩ := f
    obtain ⟨⟨⟨key, rfl⟩, -⟩, -⟩ := hfit
    obtain ⟨cs, hcs, -⟩ := readString_quoted key []
    rw [List.append_nil] at hcs
    have hstart : (prettyFields (depth + 1) ((.text key, v) :: fs)).toList = '"' ::
        (cs ++ ((": " ++ prettyAt (depth + 1) v).toList ++
          (prettyMoreFields (depth + 1) fs).toList)) := by
      simp [prettyFields, prettyField, Json.key, hcs]
    rw [htext, readValue, skipBlanks_cons (by rfl)]
    simp only [skipBlanks_newLine]
    rw [hstart, List.cons_append] at hfields ⊢
    exact hfields

/-- A text is read back, whatever its characters are. -/
theorem readsBack_text (s : String) : ReadsBack (.text s) := by
  intro fuel levels depth rest hfit hfuel _
  obtain ⟨fuel, rfl⟩ := exists_fuel hfit hfuel
  obtain ⟨cs, hcs, hread⟩ := readString_quoted s rest
  rw [prettyAt, hcs, readValue, skipBlanks_cons (by rfl)]
  simp [hread]

theorem readsBack_int (n : Int) : ReadsBack (.int n) := by
  intro fuel levels depth rest hfit hfuel hrest
  obtain ⟨fuel, rfl⟩ := exists_fuel hfit hfuel
  exact readValue_int hfit.1 hfit.2 hrest

theorem readsBack_literal {v : Value} (hv : v = .null ∨ ∃ b, v = .bool b) : ReadsBack v := by
  intro fuel levels depth rest hfit hfuel _
  obtain ⟨fuel, rfl⟩ := exists_fuel hfit hfuel
  rcases hv with rfl | ⟨_ | _, rfl⟩ <;> simp [prettyAt, scalar, readValue, skipBlanks]

-- The induction is on the value; lists and records are made of values that are read back.

mutual

/-- **A value of plain data is read back** from the start of a text. -/
theorem readsBack : (v : Value) → ReadsBack v
  | .null => readsBack_literal (.inl rfl)
  | .bool b => readsBack_literal (.inr ⟨b, rfl⟩)
  | .int n => readsBack_int n
  | .float _ => fun _ _ _ _ hfit => hfit.elim
  | .text s => readsBack_text s
  | .list items => readsBack_list (readsBack_items items)
  | .record fields => readsBack_record (readsBack_fields fields)
  | .tagged _ _ => fun _ _ _ _ hfit => hfit.elim
termination_by structural v => v

theorem readsBack_items : (vs : List Value) → ∀ v ∈ vs, ReadsBack v
  | [] => fun _ hv => absurd hv List.not_mem_nil
  | v :: rest => List.forall_mem_cons.mpr ⟨readsBack v, readsBack_items rest⟩
termination_by structural vs => vs

theorem readsBack_fields : (fs : List (Value × Value)) → ∀ f ∈ fs, ReadsBack f.2
  | [] => fun _ hf => absurd hf List.not_mem_nil
  | f :: rest => List.forall_mem_cons.mpr ⟨readsBack_field f, readsBack_fields rest⟩
termination_by structural fs => fs

theorem readsBack_field : (f : Value × Value) → ReadsBack f.2
  | (_, v) => readsBack v
termination_by structural f => f

end

/-- **Plain data is read back from the JSON that it is written as.** -/
theorem read_pretty {v : Value} (hv : v.Fits maxDepth) : read (pretty v) = some v := by
  have hread := readsBack v (2 * (pretty v).toList.length + 2) maxDepth 0 [] hv
    (by rw [pretty]; omega) (fun _ hc => nomatch hc)
  rw [List.append_nil] at hread
  rw [read, pretty] at *
  simp [hread, skipBlanks]

end Json

end AssetFlow.Document
