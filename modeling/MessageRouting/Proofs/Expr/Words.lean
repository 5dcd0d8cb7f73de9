import Mathlib.Data.List.Forall2
import MessageRouting.Proofs.Expr.TokenList
import MessageRouting.Proofs.Expr.Writing
import MessageRouting.Proofs.Number.IntegerText

/-!
# Words that are read back

A word of its own, with the end of the source or a space after it, is read as one token. This is shown of every mark,
keyword and name, of the digits of a whole number and of a text in quotes; of the tokens that a source can give, each
name and each whole number is one of these. Words with single spaces between them are read as their tokens in order.
A mark, a name and a text in quotes are read with other things after them too, as long as these do not go on with
the word.
-/

namespace MessageRouting.Expr

open Text Number

/-- What a word is read as. -/
structure Lexeme where
  /-- The kind of the token. -/
  kind : TokenKind
  /-- The text of the token. -/
  text : String

/-- What a token is, wherever it stands. -/
def Token.lexeme (token : Token) : Lexeme := ⟨token.kind, token.text⟩

/-- The source ends here, or a space comes next. -/
def Apart : List Char → Prop
  | [] => True
  | c :: _ => c = ' '

/-- A word with nothing or a space after it is read as a token. -/
def ReadsAs (word : String) (lexeme : Lexeme) : Prop :=
  ∃ c tail, word.toList = c :: tail ∧ isBlank c = false ∧ ∀ column rest, Apart rest →
    readToken column c (tail ++ rest) = .ok ⟨lexeme.kind, lexeme.text, column, tail.length + 1⟩

/-- A word with the given rest of the source after it is read as a token. -/
def ReadsBefore (rest : List Char) (word : String) (lexeme : Lexeme) : Prop :=
  ∃ c tail, word.toList = c :: tail ∧ isBlank c = false ∧ ∀ column,
    readToken column c (tail ++ rest) = .ok ⟨lexeme.kind, lexeme.text, column, tail.length + 1⟩

/-- A word that is read by itself is read before nothing and before a space. -/
theorem ReadsAs.before {word : String} {lexeme : Lexeme} (reads : ReadsAs word lexeme) {rest : List Char}
    (apart : Apart rest) : ReadsBefore rest word lexeme := by
  obtain ⟨c, tail, letters, visible, read⟩ := reads
  exact ⟨c, tail, letters, visible, fun column => read column rest apart⟩

/-- A word that is read before nothing and before a space is read by itself. -/
theorem readsAs_of_before {word : String} {lexeme : Lexeme}
    (reads : ∀ rest, Apart rest → ReadsBefore rest word lexeme) : ReadsAs word lexeme := by
  obtain ⟨c, tail, letters, visible, -⟩ := reads [] trivial
  refine ⟨c, tail, letters, visible, fun column rest apart => ?_⟩
  obtain ⟨d, more, same, -, read⟩ := reads rest apart
  obtain ⟨rfl, rfl⟩ := List.cons.inj (letters.symm.trans same)
  exact read column

/-! ## Marks -/

/-- No operator of two characters ends with a space. -/
theorem pairs_lookup_space {c d : Char} {rest : List Char} (apart : Apart (d :: rest)) :
    pairs.lookup (c, d) = none := by
  have unspaced : ∀ entry ∈ pairs, entry.1.2 ≠ ' ' := by decide
  obtain rfl : d = ' ' := apart
  refine List.lookup_eq_none_iff.mpr fun entry listed => ?_
  simp only [bne_iff_ne, ne_eq, Prod.ext_iff, not_and]
  exact fun _ same => unspaced entry listed same.symm

/-- A single character with nothing or a space after it is no operator of two characters. -/
theorem no_pair (c : Char) {rest : List Char} (apart : Apart rest) :
    (rest.head?.bind fun d => pairs.lookup (c, d)) = none := by
  cases rest with
  | nil => rfl
  | cons d more => exact pairs_lookup_space apart

/-- No digit comes next. -/
theorem no_digit {rest : List Char} (apart : Apart rest) : rest.head?.any isDigit = false := by
  cases rest with
  | nil => rfl
  | cons d more =>
    obtain rfl : d = ' ' := apart
    rfl

/-- A mark of one character is read, if it makes no operator with the next character and is no point before a digit. -/
theorem readsBefore_single {c : Char} {kind : TokenKind} {rest : List Char} (found : singles.lookup c = some kind)
    (unpaired : (rest.head?.bind fun d => pairs.lookup (c, d)) = none)
    (pointless : (c == '.' && rest.head?.any isDigit) = false) :
    ReadsBefore rest (String.ofList [c]) ⟨kind, String.ofList [c]⟩ := by
  have apartFromWords : ∀ entry ∈ singles, isBlank entry.1 = false ∧ isDigit entry.1 = false := by decide
  obtain ⟨visible, noDigit⟩ := apartFromWords _ (mem_of_lookup found)
  refine ⟨c, [], String.toList_ofList, visible, fun column => ?_⟩
  simp only [List.nil_append, readToken, unpaired, noDigit, pointless, Bool.or_false, Bool.false_eq_true, if_false,
    found, List.length_nil]

/-- A mark of one character is read by itself. -/
theorem readsAs_single {c : Char} {kind : TokenKind} (found : singles.lookup c = some kind) :
    ReadsAs (String.ofList [c]) ⟨kind, String.ofList [c]⟩ :=
  readsAs_of_before fun _ apart =>
    readsBefore_single found (no_pair c apart) (by rw [no_digit apart, Bool.and_false])

/-- A mark of two characters is read. -/
theorem readsAs_pair {c d : Char} {kind : TokenKind} (found : pairs.lookup (c, d) = some kind) :
    ReadsAs (String.ofList [c, d]) ⟨kind, String.ofList [c, d]⟩ := by
  have visible : ∀ entry ∈ pairs, isBlank entry.1.1 = false := by decide
  refine ⟨c, [d], String.toList_ofList, visible _ (mem_of_lookup found), fun column rest _ => ?_⟩
  simp only [readToken, List.cons_append, List.nil_append, List.head?_cons, Option.bind_some, found,
    List.take_succ_cons, List.take_zero, List.length_singleton]

/-! ## Names -/

/-- The digits are the characters with ten codes. -/
theorem exists_code_of_isDigit {c : Char} (digit : isDigit c = true) :
    ∃ code, 48 ≤ code ∧ code < 58 ∧ c = Char.ofNat code := by
  rw [isDigit, digit?] at digit
  split at digit
  · rename_i bounds
    exact ⟨c.toNat, bounds.1, Nat.lt_succ_of_le bounds.2, c.ofNat_toNat.symm⟩
  · contradiction

/-- A character that begins a name is no digit. -/
theorem isDigit_of_beginsName {c : Char} (begun : beginsName c = true) : isDigit c = false := by
  have noName : ∀ code < 58, 48 ≤ code → beginsName (Char.ofNat code) = false := by decide
  refine Bool.eq_false_iff.mpr fun digit => ?_
  obtain ⟨code, least, greatest, rfl⟩ := exists_code_of_isDigit digit
  rw [noName code greatest least] at begun
  contradiction

/-- What is in ascending runs is in one of them. -/
theorem exists_run_of_inRuns {runs : List Run} {code : Nat} (within : inRuns runs code = true) :
    ∃ run ∈ runs, run.holds code = true := by
  induction runs with
  | nil => contradiction
  | cons run rest later =>
    rw [inRuns] at within
    split at within
    · contradiction
    · rcases (Bool.or_eq_true _ _).mp within with here | there
      · exact ⟨run, List.mem_cons_self, here⟩
      · obtain ⟨found, listed, holds⟩ := later there
        exact ⟨found, List.mem_cons_of_mem _ listed, holds⟩

/-- A character that begins a name begins no operator of two characters. -/
theorem pairs_lookup_of_beginsName {c : Char} (begun : beginsName c = true) (d : Char) :
    pairs.lookup (c, d) = none := by
  have unpaired : ∀ entry ∈ pairs, beginsName entry.1.1 = false := by decide
  refine List.lookup_eq_none_iff.mpr fun entry listed => ?_
  simp only [bne_iff_ne, ne_eq, Prod.ext_iff, not_and]
  rintro rfl
  exact absurd begun (by simp [unpaired entry listed])

/-- A character that begins a name is no mark. -/
theorem singles_lookup_of_beginsName {c : Char} (begun : beginsName c = true) : singles.lookup c = none := by
  have unmarked : ∀ entry ∈ singles, beginsName entry.1 = false := by decide
  refine List.lookup_eq_none_iff.mpr fun entry listed => ?_
  rw [bne_iff_ne]
  rintro rfl
  exact absurd begun (by simp [unmarked entry listed])

/-- No white space begins a name. -/
theorem isBlank_of_beginsName {c : Char} (begun : beginsName c = true) : isBlank c = false := by
  -- There are few white space characters, so each of them is looked up.
  have noName : ∀ code ∈ blanks.flatMap fun run => List.range' run.first (run.last + 1 - run.first),
      beginsName (Char.ofNat code) = false := by decide +kernel
  refine Bool.eq_false_iff.mpr fun blank => ?_
  obtain ⟨run, listed, holds⟩ := exists_run_of_inRuns blank
  simp only [Run.holds, Bool.and_eq_true, decide_eq_true_eq] at holds
  have among := noName c.toNat (List.mem_flatMap.mpr ⟨run, listed, List.mem_range'_1.mpr (by omega)⟩)
  rw [c.ofNat_toNat] at among
  cases begun.symm.trans among

/-- Where the source does not go on with a name, no character continues one. -/
theorem takeWhile_of_stops {rest : List Char} (stops : rest.head?.any continuesName = false) :
    rest.takeWhile continuesName = [] := by
  cases rest with
  | nil => rfl
  | cons d more => exact List.takeWhile_cons_of_neg (by simpa using stops)

/-- A name or keyword is read, if the next character does not continue it. -/
theorem readsBefore_name {c : Char} {tail rest : List Char} (begun : beginsName c = true)
    (continued : tail.all continuesName = true) (stops : rest.head?.any continuesName = false) :
    ReadsBefore rest (String.ofList (c :: tail))
      ⟨(keywords.lookup (String.ofList (c :: tail))).getD .ident, String.ofList (c :: tail)⟩ := by
  refine ⟨c, tail, String.toList_ofList, isBlank_of_beginsName begun, fun column => ?_⟩
  have unpaired : ((tail ++ rest).head?.bind fun d => pairs.lookup (c, d)) = none :=
    Option.bind_eq_none_iff.mpr fun d _ => pairs_lookup_of_beginsName begun d
  have noPoint : (c == '.') = false := beq_eq_false_iff_ne.mpr fun same => absurd begun (by rw [same]; decide)
  have noQuote : (c == '"' || c == '\'') = false := by
    rw [Bool.or_eq_false_iff]
    exact ⟨beq_eq_false_iff_ne.mpr fun same => absurd begun (by rw [same]; decide),
      beq_eq_false_iff_ne.mpr fun same => absurd begun (by rw [same]; decide)⟩
  have span : (c :: (tail ++ rest)).takeWhile continuesName = c :: tail := by
    rw [List.takeWhile_cons_of_pos (continuesName_of_beginsName begun),
      List.takeWhile_append_of_pos (List.all_eq_true.mp continued), takeWhile_of_stops stops, List.append_nil]
  simp only [readToken, unpaired, isDigit_of_beginsName begun, noPoint, Bool.false_and, Bool.or_false,
    Bool.false_eq_true, if_false, singles_lookup_of_beginsName begun, noQuote, begun, if_true, readName, span,
    List.length_cons]

/-- A name or keyword is read by itself. -/
theorem readsAs_name {c : Char} {tail : List Char} (begun : beginsName c = true)
    (continued : tail.all continuesName = true) :
    ReadsAs (String.ofList (c :: tail))
      ⟨(keywords.lookup (String.ofList (c :: tail))).getD .ident, String.ofList (c :: tail)⟩ := by
  refine readsAs_of_before fun rest apart => readsBefore_name begun continued ?_
  cases rest with
  | nil => rfl
  | cons d more =>
    obtain rfl : d = ' ' := apart
    rfl

/-- A word is spelled as a name or keyword. -/
def spelledAsName (word : String) : Bool :=
  match word.toList with
  | [] => false
  | c :: tail => !isBlank c && beginsName c && tail.all continuesName

/-- A word that is spelled as a name is read as a keyword, or else as a name. -/
theorem readsAs_of_spelledAsName {word : String} (spelled : spelledAsName word = true) :
    ReadsAs word ⟨(keywords.lookup word).getD .ident, word⟩ := by
  rw [spelledAsName] at spelled
  split at spelled
  · contradiction
  · rename_i c tail letters
    simp only [Bool.and_eq_true, Bool.not_eq_true'] at spelled
    obtain rfl : word = String.ofList (c :: tail) := by rw [← letters, String.ofList_toList]
    exact readsAs_name spelled.1.2 spelled.2

/-- A keyword is read. -/
theorem readsAs_keyword {word : String} {kind : TokenKind} (found : keywords.lookup word = some kind) :
    ReadsAs word ⟨kind, word⟩ := by
  have spelled : ∀ entry ∈ keywords, spelledAsName entry.1 = true := by decide
  have read := readsAs_of_spelledAsName (spelled _ (mem_of_lookup found))
  rwa [found] at read

/-- The name of a root is read. -/
theorem readsAs_root (root : Root) : ReadsAs root.name ⟨.ident, root.name⟩ := by
  have read : ReadsAs root.name ⟨(keywords.lookup root.name).getD .ident, root.name⟩ :=
    readsAs_of_spelledAsName (by cases root <;> rfl)
  have noKeyword : keywords.lookup root.name = none := by cases root <;> rfl
  rwa [noKeyword] at read

/-- The name of a function is read. -/
theorem readsAs_builtin (function : Builtin) : ReadsAs function.name ⟨.ident, function.name⟩ := by
  have read : ReadsAs function.name ⟨(keywords.lookup function.name).getD .ident, function.name⟩ :=
    readsAs_of_spelledAsName (by cases function <;> rfl)
  have noKeyword : keywords.lookup function.name = none := by cases function <;> rfl
  rwa [noKeyword] at read

/-! ## Whole numbers -/

/-- Digits that are read onto a value that is not negative stay that way, and within the bounds. -/
theorem readDigits_bounds {value found : Int} {text : List Char} (read : readDigits .signed64 1 value text = .ok found)
    (positive : 0 ≤ value) (fits : value ≤ Bounds.signed64.greatest) :
    0 ≤ found ∧ found ≤ Bounds.signed64.greatest := by
  induction text generalizing value with
  | nil =>
    obtain rfl := Except.ok.inj read
    exact ⟨positive, fits⟩
  | cons c rest later =>
    rw [readDigits] at read
    split at read
    · contradiction
    · simp only at read
      split at read
      · contradiction
      · split at read
        · contradiction
        · rename_i below above
          exact later read (by omega) (by omega)

/-- A number without a minus sign is read as one that is not negative, within the bounds. -/
theorem readInteger_bounds {text : List Char} {found : Int} (unsigned : '-' ∉ text)
    (read : readInteger .signed64 text = .ok found) : 0 ≤ found ∧ found ≤ Bounds.signed64.greatest := by
  have started : (0 : Int) ≤ Bounds.signed64.greatest := by decide
  unfold readInteger at read
  split at read
  · contradiction
  · contradiction
  · contradiction
  · exact readDigits_bounds read (Int.le_refl 0) started
  · exact absurd (List.mem_cons_self) unsigned
  · exact readDigits_bounds read (Int.le_refl 0) started

/-- A number of a source has no sign. -/
theorem no_sign_numberSpan (point : Bool) (source : List Char) : '-' ∉ (numberSpan point source).1 := by
  induction source generalizing point with
  | nil => exact List.not_mem_nil
  | cons c rest later =>
    rw [numberSpan]
    split
    · rename_i goesOn
      refine List.not_mem_cons_of_ne_of_not_mem ?_ (later point)
      rintro rfl
      exact absurd goesOn (by decide)
    · split
      · rename_i goesOn
        refine List.not_mem_cons_of_ne_of_not_mem ?_ (later true)
        rintro rfl
        exact absurd goesOn (by simp)
      · exact List.not_mem_nil

/-- A whole number of a source is not negative. -/
theorem readNumber_nonneg {column : Nat} {source : List Char} {token : Token} {i : Int64}
    (read : readNumber column source = .ok token) (whole : token.kind = .int i) : 0 ≤ i.toInt := by
  simp only [readNumber] at read
  split at read
  · split at read
    · obtain rfl := Except.ok.inj read
      contradiction
    · contradiction
  · split at read
    · rename_i found number
      obtain rfl := Except.ok.inj read
      obtain rfl := TokenKind.int.inj whole
      have unsigned : '-' ∉ (numberSpan false source).1.filter (· != '_') :=
        fun listed => no_sign_numberSpan false source (List.mem_filter.mp listed).1
      rw [readInt64, String.toList_ofList] at number
      cases integer : readInteger .signed64 ((numberSpan false source).1.filter (· != '_')) with
      | error fault =>
        rw [integer] at number
        contradiction
      | ok value =>
        rw [integer] at number
        obtain rfl := Except.ok.inj number
        obtain ⟨positive, fits⟩ := readInteger_bounds unsigned integer
        rw [Int64.toInt_ofInt_of_le (by omega) (by simp only [Bounds.signed64] at fits; omega)]
        exact positive
    · contradiction

/-- Digits go on as far as there are some. -/
theorem numberSpan_digits {digits : List Char} (all : ∀ c ∈ digits, c.isDigit = true) {rest : List Char}
    (apart : Apart rest) : numberSpan false (digits ++ rest) = (digits, false) := by
  induction digits with
  | nil =>
    cases rest with
    | nil => rfl
    | cons d more =>
      obtain rfl : d = ' ' := apart
      rfl
  | cons c others later =>
    obtain ⟨first, more⟩ := List.forall_mem_cons.mp all
    have digit : isDigit c = true := by rw [isDigit, digit?_of_isDigit first, Option.isSome_some]
    simp only [List.cons_append, numberSpan, digit, Bool.true_or, if_true, later more]

/-- The digits of a whole number are read. -/
theorem readsAs_int {i : Int64} (positive : 0 ≤ i.toInt) :
    ReadsAs (toString i.toInt) ⟨.int i, toString i.toInt⟩ := by
  have unpaired : ∀ entry ∈ pairs, isDigit entry.1.1 = false := by decide
  have letters : (toString i.toInt).toList = Nat.toDigits 10 i.toInt.natAbs := by
    rw [Number.toList_toString, if_neg (Int.not_lt.mpr positive)]
  have all : ∀ c ∈ Nat.toDigits 10 i.toInt.natAbs, c.isDigit = true := isDigit_of_mem_toDigits
  have number := readInt64_toString i
  have text : toString i.toInt = String.ofList (Nat.toDigits 10 i.toInt.natAbs) := by
    rw [← letters, String.ofList_toList]
  obtain ⟨c, tail, split⟩ := List.exists_cons_of_ne_nil (Nat.toDigits_ne_nil (n := i.toInt.natAbs) (b := 10))
  rw [text] at number ⊢
  rw [split] at all number ⊢
  have digit : ∀ d ∈ c :: tail, isDigit d = true := fun d listed => by
    rw [isDigit, digit?_of_isDigit (all d listed), Option.isSome_some]
  have first : isDigit c = true := digit c List.mem_cons_self
  have visible : isBlank c = false := isBlank_of_isDigit (all c List.mem_cons_self)
  have kept : (c :: tail).filter (· != '_') = c :: tail := by
    refine List.filter_eq_self.mpr fun d listed => bne_iff_ne.mpr ?_
    rintro rfl
    exact absurd (digit _ listed) (by decide)
  refine ⟨c, tail, String.toList_ofList, visible, fun column rest apart => ?_⟩
  have noPair : ((tail ++ rest).head?.bind fun d => pairs.lookup (c, d)) = none := by
    refine Option.bind_eq_none_iff.mpr fun d _ => List.lookup_eq_none_iff.mpr fun entry listed => ?_
    simp only [bne_iff_ne, ne_eq, Prod.ext_iff, not_and]
    rintro rfl
    exact absurd first (by simp [unpaired entry listed])
  have span := numberSpan_digits all apart
  rw [List.cons_append] at span
  simp only [readToken, noPair, first, Bool.true_or, if_true, readNumber, span, kept, number, Bool.false_eq_true,
    if_false, List.length_cons]

/-! ## Texts in quotes -/

/-- A text is read back from between its quotes. -/
theorem readString_escapes {quote : Char} (either : quote = '"' ∨ quote = '\'') {text written : List Char}
    (escapes : Escapes quote text written) (rest : List Char) :
    readString quote (written ++ quote :: rest) = .ok (text, written.length + 1) := by
  induction escapes with
  | nil => rcases either with rfl | rfl <;> rfl
  | @plain c text written noQuote noBackslash _ later =>
    rw [List.cons_append, readString, if_neg noQuote, later]
    · rfl
    · exact fun backslash _ => noBackslash backslash
    · exact fun _ _ backslash _ => noBackslash backslash
  | @escaped c text written special _ later =>
    have kept : escaped c = c := by rcases special with rfl | rfl | rfl <;> rfl
    rw [List.cons_append, List.cons_append, readString, later, kept]
    rfl

/-- A text in quotes is read, whatever comes after it. -/
theorem readsBefore_quotes {text word : String} (quotes : Quotes text word) (rest : List Char) :
    ReadsBefore rest word ⟨.str, text⟩ := by
  obtain ⟨either, escapes⟩ := quotes
  rename_i quote written
  have unpaired (d : Char) : pairs.lookup (quote, d) = none := by
    rcases either with rfl | rfl <;> rfl
  have plain : isBlank quote = false ∧ isDigit quote = false ∧ (quote == '.') = false ∧
      singles.lookup quote = none ∧ (quote == '"' || quote == '\'') = true := by
    rcases either with rfl | rfl <;> exact ⟨by decide, by decide, by decide, rfl, by decide⟩
  obtain ⟨visible, noDigit, noPoint, unmarked, quoted⟩ := plain
  refine ⟨quote, written ++ [quote], String.toList_ofList, visible, fun column => ?_⟩
  have noPair : (((written ++ [quote]) ++ rest).head?.bind fun d => pairs.lookup (quote, d)) = none :=
    Option.bind_eq_none_iff.mpr fun d _ => unpaired d
  have read : readString quote (written ++ [quote] ++ rest) = .ok (text.toList, written.length + 1) := by
    rw [List.append_assoc, List.singleton_append]
    exact readString_escapes either escapes rest
  simp only [readToken, noPair, noDigit, noPoint, Bool.false_and, Bool.or_false, Bool.false_eq_true, if_false,
    unmarked, quoted, if_true, read, Except.map, String.ofList_toList, List.length_append, List.length_singleton]

/-- A text in quotes is read by itself. -/
theorem readsAs_quotes {text word : String} (quotes : Quotes text word) : ReadsAs word ⟨.str, text⟩ :=
  readsAs_of_before fun rest _ => readsBefore_quotes quotes rest

/-! ## The tokens of a source -/

/-- A source may give a token. -/
def FromSource (token : Token) : Prop :=
  ∃ column c rest, isBlank c = false ∧ readToken column c rest = .ok token

/-- All tokens before the end are given by the source. -/
theorem fromSource_of_tokensFrom {inside column : Nat} {source : List Char} {tokens : List Token}
    (read : tokensFrom inside column source = .ok tokens) : ∀ token ∈ tokens, token.kind ≠ .eof → FromSource token := by
  fun_induction tokensFrom inside column source generalizing tokens with
  | case1 =>
    obtain rfl := Except.ok.inj read
    intro token listed inside
    rw [List.mem_singleton.mp listed] at inside
    contradiction
  | case2 _ _ _ _ later => exact later read
  | case3 _ _ _ _ later => exact later read
  | case4 => contradiction
  | case5 column c rest visible token found later =>
    cases more : tokensFrom (token.width - 1) (column + 1) rest with
    | error fault => simp [more, Except.map] at read
    | ok following =>
      rw [more] at read
      obtain rfl := Except.ok.inj read
      refine List.forall_mem_cons.mpr ⟨fun _ => ?_, later more⟩
      exact ⟨column, c, rest, Bool.eq_false_iff.mpr visible, found⟩

/-- A name that a source gives is read as a name again. -/
theorem FromSource.name {token : Token} (given : FromSource token) (word : token.kind = .ident) :
    ReadsAs token.text ⟨.ident, token.text⟩ := by
  obtain ⟨column, c, rest, _, read⟩ := given
  cases beginsToken_of_readToken read with
  | @pair _ _ kind listed =>
    obtain rfl : kind = .ident := word
    simp [pairs] at listed
  | number _ number =>
    obtain ⟨i, whole⟩ | ⟨x, pointed⟩ := readNumber_kind number
    · cases whole.symm.trans word
    · cases pointed.symm.trans word
  | @single _ kind listed =>
    obtain rfl : kind = .ident := word
    simp [singles] at listed
  | quoted => contradiction
  | name begun =>
    simp only [readName, List.takeWhile_cons_of_pos (continuesName_of_beginsName begun)] at word ⊢
    have again := readsAs_name begun (List.all_takeWhile (l := rest) (p := continuesName))
    rwa [word] at again

/-- A whole number that a source gives is not negative. -/
theorem FromSource.nonneg {token : Token} (given : FromSource token) {i : Int64} (whole : token.kind = .int i) :
    0 ≤ i.toInt := by
  obtain ⟨column, c, rest, _, read⟩ := given
  cases beginsToken_of_readToken read with
  | @pair _ _ kind listed =>
    obtain rfl : kind = .int i := whole
    simp [pairs] at listed
  | number _ number => exact readNumber_nonneg number whole
  | @single _ kind listed =>
    obtain rfl : kind = .int i := whole
    simp [singles] at listed
  | quoted => contradiction
  | name =>
    obtain ⟨word, listed⟩ | named := readName_kind column (c :: rest)
    · simp [whole, keywords] at listed
    · cases named.symm.trans whole

/-! ## Words in order -/

/-- The characters of a token that was read are passed over. -/
theorem tokensFrom_inside (inside rest : List Char) (column : Nat) :
    tokensFrom inside.length column (inside ++ rest) = tokensFrom 0 (column + inside.length) rest := by
  induction inside generalizing column with
  | nil => rfl
  | cons c others later =>
    rw [List.length_cons, List.cons_append, tokensFrom, later]
    congr 1
    omega

/-- A word gives its token, and the source goes on after it. -/
theorem ReadsBefore.tokensFrom {word : String} {lexeme : Lexeme} {rest : List Char}
    (reads : ReadsBefore rest word lexeme) (column : Nat) :
    tokensFrom 0 column (word.toList ++ rest) =
      (tokensFrom 0 (column + word.length) rest).map (⟨lexeme.kind, lexeme.text, column, word.length⟩ :: ·) := by
  obtain ⟨c, tail, letters, visible, read⟩ := reads
  rw [← String.length_toList, letters, List.cons_append, Expr.tokensFrom, if_neg (by simp [visible]), read column]
  simp only [Nat.add_sub_cancel, tokensFrom_inside, List.length_cons]
  congr 2
  omega

/-- A word with nothing or a space after it gives its token, and the source goes on after it. -/
theorem ReadsAs.tokensFrom {word : String} {lexeme : Lexeme} (reads : ReadsAs word lexeme) (column : Nat)
    {rest : List Char} (apart : Apart rest) :
    tokensFrom 0 column (word.toList ++ rest) =
      (tokensFrom 0 (column + word.length) rest).map (⟨lexeme.kind, lexeme.text, column, word.length⟩ :: ·) :=
  (reads.before apart).tokensFrom column

/-- Words with single spaces between them are read as their tokens in order. -/
theorem tokensFrom_words {words : List String} {lexemes : List Lexeme}
    (read : List.Forall₂ ReadsAs words lexemes) (column : Nat) :
    ∃ body last, tokensFrom 0 column ([' '].intercalate (words.map String.toList)) = .ok (body ++ [last]) ∧
      last.kind = .eof ∧ body.map Token.lexeme = lexemes := by
  induction read generalizing column with
  | nil => exact ⟨[], _, rfl, rfl, rfl⟩
  | @cons word lexeme words lexemes reads more later =>
    cases more with
    | nil =>
      have first := reads.tokensFrom column (show Apart [] from trivial)
      rw [List.append_nil] at first
      exact ⟨[_], _, by simpa [List.intercalate, Except.map, Expr.tokensFrom] using first, rfl, rfl⟩
    | @cons next following words lexemes _ _ =>
      obtain ⟨body, last, rest, ended, same⟩ := later (column + word.length + 1)
      have spaced : Apart (' ' :: [' '].intercalate ((next :: words).map String.toList)) := rfl
      have first := reads.tokensFrom column spaced
      have passed : Expr.tokensFrom 0 (column + word.length)
          (' ' :: [' '].intercalate ((next :: words).map String.toList)) = .ok (body ++ [last]) := by
        rw [Expr.tokensFrom, if_pos (by decide), rest]
      refine ⟨⟨lexeme.kind, lexeme.text, column, word.length⟩ :: body, last, ?_, ended,
        congrArg (lexeme :: ·) same⟩
      rw [List.map_cons, List.map_cons, List.intercalate_cons_cons, List.append_assoc, List.singleton_append]
      rw [List.map_cons] at first passed
      rw [first, passed]
      rfl

end MessageRouting.Expr
