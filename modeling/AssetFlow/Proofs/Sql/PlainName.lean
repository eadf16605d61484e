import AssetFlow.Proofs.Sql.KnownTables
import AssetFlow.Sql.Dialect.Grammar
import AssetFlow.Sql.Token.Lexer

/-!
# Plain names

A name of ASCII letters, digits and underscores is one word in every dialect. What the dialects
differ in concerns other characters: a word is read from its first character to its last, whatever
the dialect, if a blank, a line break, a bracket or the end of the text follows
(`readLexeme_word`).

## Main definitions

- `isPlainName`: a name that can stand for a table without quotes
- `StartsWord`: the decisions of a dialect on the first character of a word

## Main statements

- `scanFrom_word`, `scanFrom_blank`, `scanFrom_star`: a word, a blank and a star are read
-/

namespace AssetFlow.Sql

/-! ### Characters of words -/

/-- An ASCII letter or digit, or an underscore. -/
def isWordChar (c : Char) : Bool :=
  Dialect.isAsciiWordStart c || c.isDigit

variable {d : Dialect} {c : Char} {name : String}

/-- What may start a word may stand within one. -/
theorem isWordChar_of_start (h : Dialect.isAsciiWordStart c = true) : isWordChar c = true := by
  rw [isWordChar, h, Bool.true_or]

/-- Plain words are ASCII. -/
theorem toNat_lt_of_isWordChar (h : isWordChar c = true) : c.toNat < 128 := by
  delta isWordChar Dialect.isAsciiWordStart Char.isAlpha Char.isUpper Char.isLower Char.isDigit at h
  simp only [Bool.or_eq_true, beq_iff_eq, ge_iff_le, decide_eq_true_eq, Bool.and_eq_true,
    UInt32.le_iff_toNat_le] at h
  rcases h with ((⟨-, h⟩ | ⟨-, h⟩) | rfl) | ⟨-, h⟩
  · simp at h
    omega
  · simp at h
    omega
  · decide
  · simp at h
    omega

/-- What holds of the ASCII characters of words holds of all characters of words. -/
theorem forall_isWordChar {P : Char → Prop}
    (h : ∀ n < 128, isWordChar (Char.ofNat n) = true → P (Char.ofNat n)) :
    ∀ c, isWordChar c = true → P c := by
  intro c hc
  have hn := h c.toNat (toNat_lt_of_isWordChar hc)
  rw [Char.ofNat_toNat] at hn
  exact hn hc

/-- The decisions of a dialect on the first character of a word. -/
structure StartsWord (d : Dialect) (c : Char) : Prop where
  starts : d.startsIdentifier c = true
  unquoted : d.opensQuotedIdentifier c = false
  no_digit : c.isDigit = false
  no_mark : c ∉ [' ', '\t', '\n', '\r', '\'', '"', '[', '.', '-', '/', '#', '@', '$', '?']

instance (d : Dialect) (c : Char) : Decidable (StartsWord d c) :=
  decidable_of_iff (d.startsIdentifier c = true ∧ d.opensQuotedIdentifier c = false ∧
      c.isDigit = false ∧
      c ∉ [' ', '\t', '\n', '\r', '\'', '"', '[', '.', '-', '/', '#', '@', '$', '?'])
    ⟨fun ⟨h, h', h'', h'''⟩ => ⟨h, h', h'', h'''⟩, fun ⟨h, h', h'', h'''⟩ => ⟨h, h', h'', h'''⟩⟩

/-- What may start a plain word starts one in every dialect. -/
theorem startsWord_of_start (h : Dialect.isAsciiWordStart c = true) : StartsWord d c := by
  have hascii : ∀ n < 128, isWordChar (Char.ofNat n) = true →
      Dialect.isAsciiWordStart (Char.ofNat n) = true → StartsWord d (Char.ofNat n) := by
    cases d <;> decide +kernel
  exact forall_isWordChar (P := fun c => Dialect.isAsciiWordStart c = true → StartsWord d c)
    hascii c (isWordChar_of_start h) h

/-- Letters, digits and underscores continue a word in every dialect. -/
theorem continuesIdentifier_of_isWordChar (h : isWordChar c = true) :
    d.continuesIdentifier c = true := by
  have hascii : ∀ n < 128, isWordChar (Char.ofNat n) = true →
      d.continuesIdentifier (Char.ofNat n) = true := by
    cases d <;> decide +kernel
  exact forall_isWordChar (P := fun c => d.continuesIdentifier c = true) hascii c h

/-- No word goes on with a blank, a line break or a bracket. -/
theorem not_continuesIdentifier (h : c ∈ [' ', '\n', '(']) : d.continuesIdentifier c = false := by
  have hall : [' ', '\n', '('].all (fun c => !d.continuesIdentifier c) = true := by
    cases d <;> decide +kernel
  simpa using List.all_eq_true.mp hall c h

theorem not_mem_marks_of_isWordChar (h : isWordChar c = true) :
    c ∉ ['\'', '"', '&', '.'] ∧ Text.isBlank c = false := by
  have hascii : ∀ n < 128, isWordChar (Char.ofNat n) = true →
      Char.ofNat n ∉ ['\'', '"', '&', '.'] ∧ Text.isBlank (Char.ofNat n) = false := by
    decide +kernel
  exact forall_isWordChar
    (P := fun c => c ∉ ['\'', '"', '&', '.'] ∧ Text.isBlank c = false) hascii c h

/-! ### Symbols and literals -/

variable {ws tail rest : List Char}

/-- No symbol starts with a letter, a digit or an underscore. -/
theorem symbolAt?_of_isWordChar (h : isWordChar c = true) : symbolAt? d (c :: rest) = none := by
  have hlong : ((if d.geometricOperators then geometricSymbols ++ danglingSymbols else []) ++
      (if d.integerDivision then ["//"] else []) ++ (if d.pipeOperators then ["|>"] else []) ++
        longSymbols).all (fun s => s.toList.head?.any fun x => !isWordChar x) = true := by
    cases d <;> decide +kernel
  have hshort : shortSymbols.all (fun x => !isWordChar x) = true := by decide +kernel
  have hnone : c ∉ shortSymbols := fun hc => by
    simpa [h] using List.all_eq_true.mp hshort c hc
  simp only [symbolAt?]
  rw [List.find?_eq_none.mpr]
  · simpa using hnone
  · intro s hs hpre
    have hfirst := List.all_eq_true.mp hlong s hs
    cases hl : s.toList with
    | nil => simp [hl] at hfirst
    | cons x xs =>
      rw [hl] at hfirst hpre
      simp only [List.isPrefixOf, Bool.and_eq_true, beq_iff_eq] at hpre
      obtain ⟨rfl, -⟩ := hpre
      simp [h] at hfirst

/-- A blank or the end of the text follows. -/
def Ends (tail : List Char) : Prop :=
  tail = [] ∨ tail.head? = some ' '

/-- A blank, a line break or a bracket follows, or the end of the text. -/
def Stops (tail : List Char) : Prop :=
  ∀ c ∈ tail.head?, c ∈ [' ', '\n', '(']

theorem Ends.stops (h : Ends tail) : Stops tail := by
  rintro c hc
  rcases h with rfl | hblank
  · cases hc
  · obtain rfl := Option.some.inj (hblank.symm.trans hc)
    exact List.mem_cons_self ..

/-- No quote follows the first character of a word, as in the literals that a letter introduces. -/
theorem unquoted_of_word (hws : ∀ x ∈ ws, isWordChar x = true) (htail : Stops tail) {q : Char}
    (hq : ws ++ tail = q :: rest) :
    q ∉ ['\'', '"', '&'] ∧ (q.toLower = 'q' → rest.head? ≠ some '\'') := by
  cases ws with
  | nil =>
    rw [List.nil_append] at hq
    have hmarks : [' ', '\n', '('].all (fun c => c ∉ ['\'', '"', '&'] ∧ c.toLower ≠ 'q') = true := by
      decide
    have hstop := of_decide_eq_true (List.all_eq_true.mp hmarks q (htail q (by simp [hq])))
    exact ⟨hstop.1, fun hlower => absurd hlower hstop.2⟩
  | cons w ws =>
    obtain ⟨rfl, rfl⟩ := List.cons.inj hq
    obtain ⟨hw, hws⟩ := List.forall_mem_cons.mp hws
    have hmarks := (not_mem_marks_of_isWordChar hw).1
    simp only [List.mem_cons, List.not_mem_nil, or_false, not_or] at hmarks ⊢
    refine ⟨⟨hmarks.1, hmarks.2.1, hmarks.2.2.1⟩, fun _ hhead => ?_⟩
    cases ws with
    | nil => exact absurd (htail '\'' hhead) (by decide)
    | cons w' ws =>
      obtain rfl : w' = '\'' := by simpa using hhead
      exact absurd (hws '\'' (List.mem_cons_self ..)) (by decide)

/-- A word that no quote follows introduces no literal. -/
theorem introducedLiteral?_of_word (hws : ∀ x ∈ ws, isWordChar x = true) (htail : Stops tail) :
    introducedLiteral? d (c :: (ws ++ tail)) = none := by
  cases hcs : ws ++ tail with
  | nil => rfl
  | cons q rest =>
    obtain ⟨hmarks, hdelimited⟩ := unquoted_of_word hws htail hcs
    simp only [List.mem_cons, List.not_mem_nil, or_false, not_or] at hmarks
    obtain ⟨hsingle, hdouble, hand⟩ := hmarks
    simp only [introducedLiteral?]
    split
    all_goals simp [hsingle, hdouble]
    · exact fun _ hlower => hdelimited hlower
    · split <;> simp [hand]

/-! ### Reading words -/

/-- A word is read up to its end. -/
theorem takeWhile_word (hws : ∀ x ∈ ws, isWordChar x = true) (htail : Stops tail) :
    (ws ++ tail).takeWhile d.continuesIdentifier = ws := by
  rw [List.takeWhile_append_of_pos fun x hx => continuesIdentifier_of_isWordChar (hws x hx)]
  cases tail with
  | nil => simp
  | cons t tail => simp [not_continuesIdentifier (htail t rfl)]

/-- A word is read as a whole. -/
theorem readLexeme_word {prev : Option Token} (hc : Dialect.isAsciiWordStart c = true)
    (hws : ∀ x ∈ ws, isWordChar x = true) (htail : Stops tail) :
    readLexeme d prev c (ws ++ tail) =
      Lexeme.ofToken (Token.plainWord (String.ofList (c :: ws))) (ws.length + 1) := by
  obtain ⟨hstarts, hquote, hdigit, hmark⟩ := startsWord_of_start (d := d) hc
  simp only [List.mem_cons, List.not_mem_nil, or_false, not_or] at hmark
  obtain ⟨h1, h2, h3, h4, h5, h6, h7, h8, h9, h10, h11, h12, h13, h14⟩ := hmark
  have hquoted : quotedIdentifier? d (c :: (ws ++ tail)) = none := by
    simp [quotedIdentifier?, hquote, h7]
  have hcomment : comment? d (c :: (ws ++ tail)) = none := by
    unfold comment?
    split <;> simp_all
  have hsigned : signedWord? d (c :: (ws ++ tail)) = none := by
    unfold signedWord?
    split <;> simp_all
  have htext : (c :: (ws ++ tail)).take 1 ++
      ((c :: (ws ++ tail)).drop 1).takeWhile d.continuesIdentifier = c :: ws := by
    simp [takeWhile_word hws htail]
  have hword : readWord d 1 (c :: (ws ++ tail)) =
      Lexeme.ofToken (Token.plainWord (String.ofList (c :: ws))) (ws.length + 1) := by
    simp only [readWord, htext]
    simp [hdigit, h8]
  -- the letters N and X, which may introduce literals, have a rule of their own for words
  have hletter : readLetterWord d (c :: (ws ++ tail)) =
      Lexeme.ofToken (Token.plainWord (String.ofList (c :: ws))) (ws.length + 1) := by
    simp only [readLetterWord, htext]
    rfl
  simp [readLexeme, h1, h2, h3, h4, h5, h6, h8, h13, h14, hdigit, hstarts, hquoted, hcomment,
    hsigned, introducedLiteral?_of_word hws htail,
    symbolAt?_of_isWordChar (isWordChar_of_start hc), hword, hletter]

theorem readLexeme_blank {prev : Option Token} : readLexeme d prev ' ' rest = Lexeme.blank := by
  simp [readLexeme]

theorem readLexeme_star {prev : Option Token} :
    readLexeme d prev '*' (' ' :: rest) = Lexeme.ofToken (.symbol "*") 1 := by
  cases d <;> rfl

variable {comment : String → String → Position → Scanned → Except Position Scanned} {fuel n : Nat}
  {pos : Position} {s : Scanned} {t : Token}

/-- Reading a token takes one step. -/
theorem scanFrom_of_token (h : readLexeme d s.prev c rest = Lexeme.ofToken t n) :
    scanFrom d comment (fuel + 1) pos (c :: rest) s =
      scanFrom d comment fuel (pos.after ((c :: rest).take n)) ((c :: rest).drop n)
        (s.addToken t pos (pos.after ((c :: rest).take n))) := by
  rw [scanFrom]
  dsimp only
  rw [h]
  rfl

theorem scanFrom_blank : scanFrom d comment (fuel + 1) pos (' ' :: rest) s =
    scanFrom d comment fuel (pos.next ' ') rest (s.addBlank false) := by
  rw [scanFrom]
  dsimp only
  rw [readLexeme_blank]
  rfl

/-- A word that ends where the text goes on is read as one token. -/
theorem scanFrom_word (hc : Dialect.isAsciiWordStart c = true)
    (hws : ∀ x ∈ ws, isWordChar x = true) (htail : Ends tail) :
    scanFrom d comment (fuel + 1) pos (c :: ws ++ tail) s =
      scanFrom d comment fuel (pos.after (c :: ws)) tail
        (s.addToken (Token.plainWord (String.ofList (c :: ws))) pos (pos.after (c :: ws))) := by
  have hread : readLexeme d s.prev c (ws ++ tail) =
      Lexeme.ofToken (Token.plainWord (String.ofList (c :: ws))) (ws.length + 1) :=
    readLexeme_word hc hws htail.stops
  rw [List.cons_append, scanFrom_of_token hread]
  simp

theorem scanFrom_star : scanFrom d comment (fuel + 1) pos ('*' :: ' ' :: rest) s =
    scanFrom d comment fuel (pos.next '*') (' ' :: rest)
      (s.addToken (.symbol "*") pos (pos.next '*')) :=
  scanFrom_of_token readLexeme_star

/-! ### Plain names -/

/-- Words that stand for something else where a table is named. -/
def relationWords (d : Dialect) : List String :=
  ["lateral", "table"] ++ (if d.unnestRelations then ["unnest"] else []) ++
    if d.computedNames then ["identifier"] else []

/-- A name that can stand for a table without quotes: it has ASCII letters, digits and underscores
only, does not start with a digit, and is none of the words that stand for something else. -/
def isPlainName (d : Dialect) (name : String) : Bool :=
  match name.toList with
  | [] => false
  | c :: cs => Dialect.isAsciiWordStart c && cs.all isWordChar &&
    !(relationWords d).contains (Text.lower name)

/-- A plain name is a letter or an underscore, followed by letters, digits and underscores. -/
theorem exists_of_isPlainName (h : isPlainName d name = true) : ∃ c ws, name.toList = c :: ws ∧
    Dialect.isAsciiWordStart c = true ∧ ∀ x ∈ ws, isWordChar x = true := by
  rw [isPlainName] at h
  split at h
  · cases h
  · next c ws hname =>
    simp only [Bool.and_eq_true, List.all_eq_true] at h
    exact ⟨c, ws, hname, h.1.1, h.1.2⟩

theorem isWordChar_of_mem (h : isPlainName d name = true) (hc : c ∈ name.toList) :
    isWordChar c = true := by
  obtain ⟨x, ws, hname, hx, hws⟩ := exists_of_isPlainName h
  rw [hname] at hc
  rcases List.mem_cons.mp hc with rfl | hc
  · exact isWordChar_of_start hx
  · exact hws c hc

/-- A plain name is none of the words that mean something after a relation. -/
theorem lower_not_mem_relationWords (h : isPlainName d name = true) :
    Text.lower name ∉ relationWords d := by
  rw [isPlainName] at h
  split at h
  · cases h
  · rw [Bool.and_eq_true] at h
    simpa using h.2

/-- A plain name is lowered letter by letter. -/
theorem lower_eq_map (h : isPlainName d name = true) :
    Text.lower name = name.map Char.toLower := by
  refine if_pos (List.all_eq_true.mpr fun c hc => ?_)
  exact decide_eq_true (toNat_lt_of_isWordChar (isWordChar_of_mem h hc))

/-- Writing a plain name in capitals does not change what it is in small letters. -/
theorem map_toLower_toUpper (h : isPlainName d name = true) :
    name.toUpper.map Char.toLower = name.map Char.toLower := by
  have hascii : ∀ n < 128, isWordChar (Char.ofNat n) = true →
      (Char.ofNat n).toUpper.toLower = (Char.ofNat n).toLower := by
    decide +kernel
  rw [String.toUpper, String.map_map, ← String.toList_inj, String.toList_map, String.toList_map]
  exact List.map_congr_left fun c hc =>
    forall_isWordChar (P := fun c => c.toUpper.toLower = c.toLower) hascii c
      (isWordChar_of_mem h hc)

/-- As a keyword, a plain name is none of the words. -/
theorem toUpper_ne_of_isPlainName (h : isPlainName d name = true) {k : String}
    (hk : k.map Char.toLower ∈ relationWords d) : name.toUpper ≠ k := by
  rintro rfl
  rw [map_toLower_toUpper h, ← lower_eq_map h] at hk
  exact lower_not_mem_relationWords h hk

end AssetFlow.Sql
