import MessageRouting.Expr.Template
import MessageRouting.Proofs.Expr.TokenList

/-!
# Texts with expressions in them

A template is written as pieces of text and expressions in turn, each expression in braces after a dollar sign. The end
of an expression is found by a search for a closing brace that keeps track of quotes and of backslashes inside them, and
this search agrees with the way tokens are read: it passes over every source that has tokens, and stops only behind it.
So the parts of a template are exactly those it was written from, and every template that compiles was written so.
-/

namespace MessageRouting

open Expr Text Number

namespace Template

/-! ## Passing over tokens -/

/-- The search for a closing brace passes over some characters: it finds what it finds behind them. -/
def PassesOver (span : List Char) : Prop :=
  ∀ rest, upToBrace none (span ++ rest) = (upToBrace none rest).map (span ++ ·)

/-- A character that neither is a quote nor closes a brace. -/
def IsBare (c : Char) : Prop := c ≠ '\'' ∧ c ≠ '"' ∧ c ≠ '\x7d'

/-- No characters are passed over. -/
theorem passesOver_nil : PassesOver [] := by
  intro rest
  simp only [List.nil_append, Option.map_id']

/-- What can be passed over one after the other can be passed over. -/
theorem PassesOver.append {first second : List Char} (before : PassesOver first) (after : PassesOver second) :
    PassesOver (first ++ second) := by
  intro rest
  rw [List.append_assoc, before, after, Option.map_map]
  congr 1
  funext found
  exact (List.append_assoc ..).symm

/-- A bare character is passed over. -/
theorem IsBare.passesOver {c : Char} (bare : IsBare c) : PassesOver [c] := by
  intro rest
  obtain ⟨noSingle, noDouble, noBrace⟩ := bare
  simp only [upToBrace, noBrace, noSingle, noDouble, if_false, decide_false, Bool.or_self,
    Bool.false_eq_true, List.cons_append, List.nil_append]

/-- So are bare characters. -/
theorem passesOver_of_bare {span : List Char} (bare : ∀ c ∈ span, IsBare c) : PassesOver span := by
  induction span with
  | nil => exact passesOver_nil
  | cons c rest later =>
    obtain ⟨first, others⟩ := List.forall_mem_cons.mp bare
    exact first.passesOver.append (later others)

/-- Inside quotes, a character that is no backslash is passed over, and ends them if it is the quote that began them. -/
theorem upToBrace_inside {quote c : Char} (noBackslash : c ≠ '\\') (rest : List Char) :
    upToBrace (some quote) (c :: rest) =
      (upToBrace (if c = quote then none else some quote) rest).map (c :: ·) := by
  rw [upToBrace]
  exact fun _ _ backslash _ => noBackslash backslash

/-- Inside a text in quotes, backslashes and quotes are read in the same way by the search and as a token. -/
theorem upToBrace_of_readString {quote : Char} (either : quote = '"' ∨ quote = '\'') {source text : List Char}
    {width : Nat} (read : readString quote source = .ok (text, width)) :
    ∃ inside after, source = inside ++ after ∧ inside.length = width ∧
      ∀ rest, upToBrace (some quote) (inside ++ rest) = (upToBrace none rest).map (inside ++ ·) := by
  fun_induction readString quote source generalizing text width with
  | case1 => contradiction
  | case2 => contradiction
  | case3 c rest later =>
    cases more : readString quote rest with
    | error fault => simp [more, Except.map] at read
    | ok answer =>
      obtain ⟨found, count⟩ := answer
      rw [more] at read
      obtain ⟨-, rfl⟩ := Prod.mk.inj (Except.ok.inj read)
      obtain ⟨inside, after, rfl, rfl, passes⟩ := later more
      refine ⟨'\\' :: c :: inside, after, rfl, rfl, fun tail => ?_⟩
      rw [List.cons_append, List.cons_append, upToBrace, passes, Option.map_map]
      rfl
  | case4 rest =>
    obtain ⟨-, rfl⟩ := Prod.mk.inj (Except.ok.inj read)
    have noBackslash : quote ≠ '\\' := by rcases either with rfl | rfl <;> decide
    refine ⟨[quote], rest, rfl, rfl, fun tail => ?_⟩
    rw [List.singleton_append, upToBrace_inside noBackslash, if_pos rfl]
    rfl
  | case5 c rest notLast notBefore other later =>
    have noBackslash : c ≠ '\\' := by
      intro backslash
      cases rest with
      | nil => exact notLast backslash rfl
      | cons d more => exact notBefore d more backslash rfl
    cases more : readString quote rest with
    | error fault => simp [more, Except.map] at read
    | ok answer =>
      obtain ⟨found, count⟩ := answer
      rw [more] at read
      obtain ⟨-, rfl⟩ := Prod.mk.inj (Except.ok.inj read)
      obtain ⟨inside, after, rfl, rfl, passes⟩ := later more
      refine ⟨c :: inside, after, rfl, rfl, fun tail => ?_⟩
      rw [List.cons_append, upToBrace_inside noBackslash, if_neg other, passes, Option.map_map]
      rfl

/-- Digits, underscores and points are bare. -/
theorem isBare_of_numeral {c : Char} (numeral : isDigit c = true ∨ c = '_' ∨ c = '.') : IsBare c := by
  refine ⟨?_, ?_, ?_⟩ <;> rintro rfl <;> revert numeral <;> decide

/-- So are the characters of names. -/
theorem isBare_of_continuesName {c : Char} (goesOn : continuesName c = true) : IsBare c := by
  refine ⟨?_, ?_, ?_⟩ <;> rintro rfl <;> revert goesOn <;> decide

/-- So is white space. -/
theorem isBare_of_isBlank {c : Char} (blank : isBlank c = true) : IsBare c := by
  refine ⟨?_, ?_, ?_⟩ <;> rintro rfl <;> revert blank <;> decide

/-- The characters of a number are the first ones of its source. -/
theorem numberSpan_append (point : Bool) (source : List Char) :
    ∃ after, source = (numberSpan point source).1 ++ after ∧
      ∀ c ∈ (numberSpan point source).1, isDigit c = true ∨ c = '_' ∨ c = '.' := by
  fun_induction numberSpan point source with
  | case1 => exact ⟨[], rfl, fun _ member => absurd member List.not_mem_nil⟩
  | case2 point c rest goesOn span float found later =>
    rw [found] at later
    obtain ⟨after, same, numeral⟩ := later
    refine ⟨after, congrArg (c :: ·) same, List.forall_mem_cons.mpr ⟨?_, numeral⟩⟩
    rw [Bool.or_eq_true, beq_iff_eq] at goesOn
    exact goesOn.imp_right .inl
  | case3 point c rest _ goesOn span float found later =>
    rw [found] at later
    obtain ⟨after, same, numeral⟩ := later
    refine ⟨after, congrArg (c :: ·) same, List.forall_mem_cons.mpr ⟨?_, numeral⟩⟩
    simp only [Bool.and_eq_true, beq_iff_eq] at goesOn
    exact .inr (.inr goesOn.1.1)
  | case4 point c rest _ _ => exact ⟨c :: rest, rfl, fun _ member => absurd member List.not_mem_nil⟩

/-- A number has digits. -/
theorem numberSpan_ne_nil {c : Char} {rest : List Char}
    (begins : (isDigit c || (c == '.' && rest.head?.any isDigit)) = true) : (numberSpan false (c :: rest)).1 ≠ [] := by
  rw [numberSpan]
  split
  · exact List.cons_ne_nil _ _
  · rename_i noDigit
    rw [Bool.or_eq_true, not_or] at noDigit
    rw [Bool.or_eq_true, Bool.and_eq_true] at begins
    rcases begins with digit | ⟨point, followed⟩
    · exact absurd digit noDigit.1
    · rw [if_pos (by simp only [point, followed, Bool.not_false, Bool.and_self])]
      exact List.cons_ne_nil _ _

/-- A token covers a character and some of those behind it, which can be passed over. -/
def Covers (token : Token) (c : Char) (rest : List Char) : Prop :=
  ∃ inside after, rest = inside ++ after ∧ token.width = inside.length + 1 ∧ PassesOver (c :: inside)

/-- A token that is as wide as what a source begins with, which can be passed over, covers it. -/
theorem covers_of_span {token : Token} {c : Char} {rest span after : List Char} (same : c :: rest = span ++ after)
    (some : span ≠ []) (width : token.width = span.length) (bare : ∀ d ∈ span, IsBare d) : Covers token c rest := by
  cases span with
  | nil => exact absurd rfl some
  | cons d inside =>
    obtain ⟨rfl, rest_eq⟩ := List.cons.inj same
    exact ⟨inside, after, rest_eq, width, passesOver_of_bare bare⟩

/-- A number covers its digits. -/
theorem covers_of_readNumber {column : Nat} {c : Char} {rest : List Char} {token : Token}
    (begins : (isDigit c || (c == '.' && rest.head?.any isDigit)) = true)
    (read : readNumber column (c :: rest) = .ok token) : Covers token c rest := by
  obtain ⟨after, same, numeral⟩ := numberSpan_append false (c :: rest)
  have width : token.width = (numberSpan false (c :: rest)).1.length := by
    simp only [readNumber] at read
    split at read <;> split at read
    all_goals first | contradiction | (cases read; rfl)
  exact covers_of_span same (numberSpan_ne_nil begins) width fun d member => isBare_of_numeral (numeral d member)

/-- A name or keyword covers its characters. -/
theorem covers_readName (column : Nat) {c : Char} (rest : List Char) (begins : beginsName c = true) :
    Covers (readName column (c :: rest)) c rest := by
  have some : (c :: rest).takeWhile continuesName ≠ [] := by
    rw [List.takeWhile_cons_of_pos (continuesName_of_beginsName begins)]
    exact List.cons_ne_nil _ _
  exact covers_of_span List.takeWhile_append_dropWhile.symm some rfl fun d member =>
    isBare_of_continuesName (List.all_eq_true.mp List.all_takeWhile d member)

/-- A text in quotes covers what stands between them, and the quotes. -/
theorem covers_of_readString {quote : Char} (either : quote = '"' ∨ quote = '\'') {source text : List Char}
    {width : Nat} (read : readString quote source = .ok (text, width)) (kind : TokenKind) (word : String)
    (column : Nat) : Covers ⟨kind, word, column, width + 1⟩ quote source := by
  obtain ⟨inside, after, rfl, rfl, passes⟩ := upToBrace_of_readString either read
  refine ⟨inside, after, rfl, rfl, fun rest => ?_⟩
  have begun : upToBrace none (quote :: (inside ++ rest)) =
      (upToBrace (some quote) (inside ++ rest)).map (quote :: ·) := by
    rcases either with rfl | rfl <;> rfl
  rw [List.cons_append, begun, passes, Option.map_map]
  rfl

/-- Every token covers characters that can be passed over. -/
theorem covers_of_readToken {column : Nat} {c : Char} {rest : List Char} {token : Token}
    (read : readToken column c rest = .ok token) : Covers token c rest := by
  have barePairs : ∀ entry ∈ pairs, IsBare entry.1.1 ∧ IsBare entry.1.2 := by
    simp only [pairs, IsBare]
    decide
  have bareSingles : ∀ entry ∈ singles, IsBare entry.1 := by
    simp only [singles, IsBare]
    decide
  cases beginsToken_of_readToken read with
  | @pair next more kind listed =>
    obtain ⟨bare, bareNext⟩ := barePairs _ listed
    exact ⟨[next], more, rfl, rfl, bare.passesOver.append bareNext.passesOver⟩
  | number begins number => exact covers_of_readNumber begins number
  | single listed => exact ⟨[], rest, rfl, rfl, (bareSingles _ listed).passesOver⟩
  | quoted quote text => exact covers_of_readString quote text _ _ _
  | name begins => exact covers_readName column rest begins

/-- What is left of a source behind a token can be passed over, if the source has tokens. -/
theorem passesOver_of_tokensFrom {inside column : Nat} {source : List Char} {tokens : List Token}
    (read : tokensFrom inside column source = .ok tokens) : PassesOver (source.drop inside) := by
  fun_induction tokensFrom inside column source generalizing tokens with
  | case1 =>
    rw [List.drop_nil]
    exact passesOver_nil
  | case2 inside _ _ _ later => exact later read
  | case3 column c rest blank later => exact (isBare_of_isBlank blank).passesOver.append (later read)
  | case4 => contradiction
  | case5 column c rest visible token found later =>
    cases more : tokensFrom (token.width - 1) (column + 1) rest with
    | error fault => simp [more, Except.map] at read
    | ok following =>
      obtain ⟨inside, after, rfl, width, passes⟩ := covers_of_readToken found
      have behind := later more
      rw [width, Nat.add_sub_cancel, List.drop_left] at behind
      exact passes.append behind

/-- The search for the closing brace finds the end of every expression that compiles. -/
theorem upToBrace_of_compile {source : String} {formula : Formula} (compiles : Formula.compile source = .ok formula)
    (rest : List Char) : upToBrace none (source.toList ++ '\x7d' :: rest) = some source.toList := by
  have read : ∃ tokens, tokenize source = .ok tokens := by
    unfold Formula.compile parse at compiles
    cases found : tokenize source with
    | error fault => simp only [found, reduceCtorEq] at compiles
    | ok tokens => exact ⟨tokens, rfl⟩
  obtain ⟨tokens, read⟩ := read
  have passes : PassesOver source.toList := passesOver_of_tokensFrom read
  have closed : upToBrace none ('\x7d' :: rest) = some [] := rfl
  rw [passes, closed, Option.map_some, List.append_nil]

/-- What the search finds stands before a closing brace. -/
theorem exists_of_upToBrace {quote : Option Char} {source inner : List Char}
    (found : upToBrace quote source = some inner) : ∃ rest, source = inner ++ '\x7d' :: rest := by
  fun_induction upToBrace quote source generalizing inner with
  | case1 => contradiction
  | case2 quote c rest later =>
    obtain ⟨more, search, rfl⟩ := Option.map_eq_some_iff.mp found
    obtain ⟨behind, rfl⟩ := later search
    exact ⟨behind, rfl⟩
  | case3 quote c rest _ later =>
    obtain ⟨more, search, rfl⟩ := Option.map_eq_some_iff.mp found
    obtain ⟨behind, rfl⟩ := later search
    exact ⟨behind, rfl⟩
  | case4 rest =>
    cases found
    exact ⟨rest, rfl⟩
  | case5 c rest _ later =>
    obtain ⟨more, search, rfl⟩ := Option.map_eq_some_iff.mp found
    obtain ⟨behind, rfl⟩ := later search
    exact ⟨behind, rfl⟩

/-! ## What templates are written from -/

/-- No expression begins in some characters. -/
def IsPlain (letters : List Char) : Prop := ¬ ['$', '\x7b'] <:+: letters

/-- A piece of text in which no expression begins. -/
structure Plain where
  /-- The text. -/
  text : String
  /-- No expression begins in it. -/
  plain : IsPlain text.toList

/-- An expression in a template, with the piece of text after it. -/
structure Inset where
  /-- The source of the expression. -/
  source : String
  /-- What it is compiled to. -/
  formula : Formula
  /-- It compiles. -/
  compiles : Formula.compile source = .ok formula
  /-- The text after it. -/
  after : Plain

/-- Pieces of text and expressions in turn, as a template is written from them. -/
def written (first : Plain) : List Inset → String
  | [] => first.text
  | inset :: rest => first.text ++ "$\x7b" ++ inset.source ++ "\x7d" ++ written inset.after rest

/-- A piece of text as a part of a template, unless it is empty. -/
def textPart (text : String) : List Segment := if text = "" then [] else [.text text]

/-- Pieces of text and expressions in turn, as parts of a template. -/
def parts (first : Plain) : List Inset → List Segment
  | [] => textPart first.text
  | inset :: rest => textPart first.text ++ .formula inset.formula :: parts inset.after rest

/-- The text of a template over an exchange: the first piece, and the text of each value with the piece after it, up to
the first expression that fails. -/
def said (x : Exchange) (first : Plain) (insets : List Inset) : Except Fault String := do
  let values ← insets.mapM fun inset => inset.formula.eval x
  return first.text ++ String.join ((values.zip insets).map fun (value, inset) => value.text ++ inset.after.text)

/-! ## Reading what was written -/

/-- Text that is no expression yet is text as a part. -/
theorem textSegment_reverse (text : String) : textSegment text.toList.reverse = textPart text := by
  unfold textSegment textPart
  by_cases empty : text = ""
  · subst empty
    rfl
  · have some : text.toList.reverse.isEmpty = false := by
      rw [List.isEmpty_reverse, List.isEmpty_eq_false_iff]
      exact fun none => empty (String.toList_eq_nil_iff.mp none)
    rw [if_neg empty, some, if_neg Bool.false_ne_true, List.reverse_reverse, String.ofList_toList]

/-- The characters of an expression that was read are passed over. -/
theorem segmentsFrom_inside (source : String) (inside : List Char) (column : Nat) (reversed rest : List Char) :
    segmentsFrom source inside.length column reversed (inside ++ rest) =
      segmentsFrom source 0 (column + inside.length) reversed rest := by
  induction inside generalizing column with
  | nil => rfl
  | cons c others later =>
    have next := later (column + 1)
    rw [List.length_cons, List.cons_append, segmentsFrom, next]
    congr 1
    omega

/-- Characters in which no expression begins are gathered as text, where none begins with the last of them. -/
theorem segmentsFrom_plain (source : String) {letters : List Char} (plain : IsPlain letters) (column : Nat)
    (reversed : List Char) {rest : List Char} (opens : rest.head? ≠ some '\x7b') :
    segmentsFrom source 0 column reversed (letters ++ rest) =
      segmentsFrom source 0 (column + letters.length) (letters.reverse ++ reversed) rest := by
  induction letters generalizing column reversed with
  | nil => rfl
  | cons c others later =>
    have plainOthers : IsPlain others := fun inside => plain (inside.trans (List.suffix_cons c others).isInfix)
    have noBegin : ¬ (c = '$' && (others ++ rest).head? == some '\x7b') = true := by
      rw [Bool.and_eq_true, decide_eq_true_eq, beq_iff_eq]
      rintro ⟨rfl, opened⟩
      cases others with
      | nil => exact opens opened
      | cons d more =>
        obtain rfl : d = '\x7b' := Option.some.inj opened
        exact plain ⟨[], more, rfl⟩
    rw [List.cons_append, segmentsFrom, if_neg noBegin, later plainOthers, List.length_cons, List.reverse_cons,
      List.append_assoc, List.singleton_append]
    congr 1
    omega

/-- An expression that compiles is read as a part, and what follows it is read behind it. -/
theorem segmentsFrom_inset (source : String) (inset : Inset) (column : Nat) (reversed rest : List Char) :
    segmentsFrom source 0 column reversed ('$' :: '\x7b' :: (inset.source.toList ++ '\x7d' :: rest)) =
      (segmentsFrom source 0 (column + 1 + (inset.source.toList.length + 2)) [] rest).map fun segments =>
        textSegment reversed ++ .formula inset.formula :: segments := by
  have found : upToBrace none (inset.source.toList ++ '\x7d' :: rest) = some inset.source.toList :=
    upToBrace_of_compile inset.compiles rest
  have behind := segmentsFrom_inside source ('\x7b' :: (inset.source.toList ++ ['\x7d'])) (column + 1) [] rest
  rw [List.length_cons, List.length_append, List.length_singleton, List.cons_append, List.append_assoc,
    List.singleton_append] at behind
  rw [segmentsFrom, if_pos (by rfl)]
  simp only [List.tail_cons, found, String.ofList_toList, inset.compiles, behind]

/-- The characters of a template that begins with a piece of text. -/
theorem toList_written (first : Plain) (inset : Inset) (rest : List Inset) :
    (written first (inset :: rest)).toList = first.text.toList ++
      '$' :: '\x7b' :: (inset.source.toList ++ '\x7d' :: (written inset.after rest).toList) := by
  have opening : "$\x7b".toList = ['$', '\x7b'] := rfl
  have closing : "\x7d".toList = ['\x7d'] := rfl
  simp only [written, String.toList_append, opening, closing, List.append_assoc, List.cons_append, List.nil_append]

/-- A template is read back as the parts it was written from. -/
theorem segmentsFrom_written (source : String) (first : Plain) (insets : List Inset) (column : Nat) :
    segmentsFrom source 0 column [] (written first insets).toList = .ok (parts first insets) := by
  induction insets generalizing first column with
  | nil =>
    have closed : ([] : List Char).head? ≠ some '\x7b' := by simp
    have read := segmentsFrom_plain source first.plain column [] closed
    rw [List.append_nil, List.append_nil] at read
    rw [written, read, segmentsFrom, textSegment_reverse, parts]
  | cons inset rest later =>
    rw [toList_written, segmentsFrom_plain source first.plain column [] (by simp), segmentsFrom_inset, later,
      List.append_nil, textSegment_reverse, parts]
    rfl

/-! ## Every template was written so -/

/-- A character that begins no expression together with the last one before it leaves a text without expressions. -/
theorem IsPlain.concat {letters : List Char} (plain : IsPlain letters) {c : Char}
    (apart : ¬ (letters.getLast? = some '$' ∧ c = '\x7b')) : IsPlain (letters ++ [c]) := by
  intro inside
  rcases List.infix_concat_iff.mp inside with ending | before
  · rcases List.suffix_concat_iff.mp ending with none | ⟨front, same, behind⟩
    · cases none
    · obtain ⟨rfl, opened⟩ := List.append_inj' (show ['$'] ++ ['\x7b'] = front ++ [c] from same) rfl
      obtain ⟨more, rfl⟩ := behind
      exact apart ⟨List.getLast?_concat, (List.singleton_inj.mp opened).symm⟩
  · exact plain before

/-- Gathered text as a part. -/
theorem textSegment_eq (reversed : List Char) : textSegment reversed = textPart (String.ofList reversed.reverse) := by
  have same := textSegment_reverse (String.ofList reversed.reverse)
  rwa [String.toList_ofList, List.reverse_reverse] at same

/-- What is read as the parts of a template was written from them. -/
theorem exists_written {source : String} {inside column : Nat} {reversed rest : List Char} {segments : List Segment}
    (read : segmentsFrom source inside column reversed rest = .ok segments) (plain : IsPlain reversed.reverse)
    (apart : ¬ (reversed.head? = some '$' ∧ (rest.drop inside).head? = some '\x7b')) :
    ∃ first insets, (written first insets).toList = reversed.reverse ++ rest.drop inside ∧
      segments = parts first insets := by
  fun_induction segmentsFrom source inside column reversed rest generalizing segments with
  | case1 _ _ reversed =>
    obtain rfl := Except.ok.inj read
    have gathered : (String.ofList reversed.reverse).toList = reversed.reverse := String.toList_ofList
    refine ⟨⟨String.ofList reversed.reverse, by rwa [gathered]⟩, [], ?_, ?_⟩
    · rw [written, gathered, List.drop_nil, List.append_nil]
    · rw [parts, textSegment_eq]
  | case2 _ _ _ _ _ later => exact later read plain apart
  | case3 => contradiction
  | case4 => contradiction
  | case5 column reversed c rest opens inner found formula compiles later =>
    rw [Bool.and_eq_true, decide_eq_true_eq, beq_iff_eq] at opens
    obtain ⟨rfl, opened⟩ := opens
    obtain ⟨tail, rfl⟩ : ∃ tail, rest = '\x7b' :: tail := by
      cases rest with
      | nil => cases opened
      | cons d tail => exact ⟨tail, by rw [Option.some.inj opened]⟩
    obtain ⟨behind, split⟩ := exists_of_upToBrace found
    rw [List.tail_cons] at split
    subst split
    have covered : ('\x7b' :: (inner ++ '\x7d' :: behind)).drop (inner.length + 2) = behind := by
      have width : ('\x7b' :: (inner ++ ['\x7d'])).length = inner.length + 2 := by
        rw [List.length_cons, List.length_append, List.length_singleton]
      have split : '\x7b' :: (inner ++ '\x7d' :: behind) = ('\x7b' :: (inner ++ ['\x7d'])) ++ behind := by
        rw [List.cons_append, List.append_assoc, List.singleton_append]
      rw [split, ← width, List.drop_left]
    cases more : segmentsFrom source (inner.length + 2) (column + 1) [] ('\x7b' :: (inner ++ '\x7d' :: behind)) with
    | error fault => simp [more, Except.map] at read
    | ok others =>
      rw [more] at read
      obtain rfl := Except.ok.inj read
      have nothing : IsPlain [].reverse := fun inside => by cases List.eq_nil_of_infix_nil inside
      obtain ⟨after, insets, same, rfl⟩ := later more nothing fun both => by cases both.1
      rw [covered, List.reverse_nil, List.nil_append] at same
      have gathered : (String.ofList reversed.reverse).toList = reversed.reverse := String.toList_ofList
      refine ⟨⟨String.ofList reversed.reverse, by rwa [gathered]⟩,
        ⟨String.ofList inner, formula, compiles, after⟩ :: insets, ?_, ?_⟩
      · rw [toList_written, gathered, same, String.toList_ofList, List.drop_zero]
      · rw [parts, textSegment_eq]
  | case6 column reversed c rest noBegin later =>
    rw [Bool.and_eq_true, decide_eq_true_eq, beq_iff_eq] at noBegin
    have longer : IsPlain (c :: reversed).reverse := by
      rw [List.reverse_cons]
      refine plain.concat fun both => apart ?_
      rw [List.getLast?_reverse] at both
      exact ⟨both.1, congrArg some both.2⟩
    have stillApart : ¬ ((c :: reversed).head? = some '$' ∧ (rest.drop 0).head? = some '\x7b') := fun both =>
      noBegin ⟨Option.some.inj both.1, both.2⟩
    obtain ⟨first, insets, same, segmented⟩ := later read longer stillApart
    refine ⟨first, insets, ?_, segmented⟩
    rw [same, List.reverse_cons, List.append_assoc]
    rfl

/-! ## Texts over an exchange -/

/-- A piece of text comes before the text of what follows it, also where it is empty and no part. -/
theorem renderSegments_textPart (x : Exchange) (text : String) (rest : List Segment) :
    renderSegments x (textPart text ++ rest) = (renderSegments x rest).map (text ++ ·) := by
  unfold textPart
  by_cases empty : text = ""
  · subst empty
    cases found : renderSegments x rest with
    | error fault => rw [if_pos rfl, List.nil_append, found]; rfl
    | ok said => rw [if_pos rfl, List.nil_append, found, Except.map, String.empty_append]
  · rw [if_neg empty, List.singleton_append, renderSegments, Segment.render]

/-- The text of a template begins with its first piece, which the text of the first value follows. -/
theorem said_cons (x : Exchange) (first : Plain) (inset : Inset) (rest : List Inset) :
    said x first (inset :: rest) = (do
      let value ← inset.formula.eval x
      (said x inset.after rest).map fun text => first.text ++ (value.text ++ text)) := by
  unfold said
  rw [List.mapM_cons]
  cases inset.formula.eval x with
  | error fault => rfl
  | ok value =>
    cases rest.mapM fun inset : Inset => inset.formula.eval x with
    | error fault => rfl
    | ok values =>
      simp [Except.map, bind, Except.bind, pure, Except.pure, String.join_cons, String.append_assoc]

/-- The text of the parts is put together from the pieces and the values. -/
theorem renderSegments_parts (x : Exchange) (first : Plain) (insets : List Inset) :
    renderSegments x (parts first insets) = said x first insets := by
  induction insets generalizing first with
  | nil =>
    have alone := renderSegments_textPart x first.text []
    rw [List.append_nil] at alone
    rw [parts, alone]
    rfl
  | cons inset rest later =>
    rw [parts, renderSegments_textPart, said_cons, renderSegments, Segment.render, later]
    cases inset.formula.eval x with
    | error fault => rfl
    | ok value => cases said x inset.after rest <;> rfl

/-- What is written from pieces of text and from expressions that compile, in turn, compiles to exactly these parts, and
its text over any exchange is put together from the pieces and the texts of the values, or is the fault of the first
expression that fails. Every template that compiles was written so. -/
theorem compiles_as_written :
    (∀ first insets, compile (written first insets) = .ok ⟨written first insets, parts first insets⟩ ∧
      ∀ x, render ⟨written first insets, parts first insets⟩ x = said x first insets) ∧
    ∀ source template, compile source = .ok template ↔
      ∃ first insets, source = written first insets ∧ template = ⟨source, parts first insets⟩ := by
  have reads (first : Plain) (insets : List Inset) :
      compile (written first insets) = .ok ⟨written first insets, parts first insets⟩ := by
    rw [compile, segmentsFrom_written]
    rfl
  refine ⟨fun first insets => ⟨reads first insets, fun x => renderSegments_parts x first insets⟩,
    fun source template => ⟨fun compiled => ?_, ?_⟩⟩
  · unfold compile at compiled
    cases read : segmentsFrom source 0 1 [] source.toList with
    | error fault => simp [read, Except.map] at compiled
    | ok segments =>
      rw [read] at compiled
      obtain rfl := Except.ok.inj compiled
      have nothing : IsPlain [].reverse := fun inside => by cases List.eq_nil_of_infix_nil inside
      obtain ⟨first, insets, same, rfl⟩ := exists_written read nothing fun both => by cases both.1
      rw [List.reverse_nil, List.nil_append, List.drop_zero] at same
      exact ⟨first, insets, (String.toList_inj.mp same).symm, rfl⟩
  · rintro ⟨first, insets, rfl, rfl⟩
    exact reads first insets

/-- A dollar sign before an expression, and braces and quotes inside the quotes of one. -/
example : ((compile "sum: $$\x7b'\x7d' + \"it's\"\x7d $ \x7b\x7d").toOption.bind fun template =>
    (template.render (.create [1] (.root [0]) [] .null)).toOption) = some "sum: $\x7dit's $ \x7b\x7d" := by
  decide +kernel

end Template

end MessageRouting
