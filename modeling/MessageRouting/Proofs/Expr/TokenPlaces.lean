import MessageRouting.Proofs.Expr.Templates
import MessageRouting.Proofs.Expr.Words

/-!
# Where tokens stand

A source is cut into the spans of its tokens, with white space between them. The cut is described character by
character, apart from how it is found: `Cut` says where each span begins and how far it goes. Reading a source either
cuts all of it, and one token for its end follows, or cuts it up to a character at which no token can be read.
-/

namespace MessageRouting.Expr

open Text Template

/-- The kinds of tokens whose text is what stands in the source: operators, marks, keywords and names. -/
def TokenKind.Verbatim : TokenKind → Prop
  | .int _ | .float _ | .str | .eof => False
  | _ => True

/-- A token covers a span of the source that begins at a column. -/
structure Token.Spans (token : Token) (column : Nat) (span : List Char) : Prop where
  /-- It begins where the span does. -/
  column : token.column = column
  /-- It is as wide as the span. -/
  width : token.width = span.length
  /-- It covers at least one character. -/
  nonempty : span ≠ []
  /-- It is not the end of the source. -/
  inside : token.kind ≠ .eof
  /-- Where its text is what stands in the source, it is the span. -/
  verbatim : token.kind.Verbatim → token.text = String.ofList span

/-- A source from a column on is cut into the spans of tokens, with white space around them. -/
inductive Cut : Nat → List Token → List Char → Prop
  | nil (column : Nat) : Cut column [] []
  | blank {column : Nat} {tokens : List Token} {c : Char} {rest : List Char} (white : isBlank c = true)
    (later : Cut (column + 1) tokens rest) : Cut column tokens (c :: rest)
  | token {column : Nat} {token : Token} {tokens : List Token} {span rest : List Char}
    (first : token.Spans column span) (later : Cut (column + span.length) tokens rest) :
    Cut column (token :: tokens) (span ++ rest)

/-! ## One token -/

/-- A token that is read stands where it is read. -/
theorem column_of_readToken {column : Nat} {c : Char} {rest : List Char} {token : Token}
    (read : readToken column c rest = .ok token) : token.column = column := by
  cases beginsToken_of_readToken read with
  | pair | single | quoted | name => rfl
  | number _ number =>
    simp only [readNumber] at number
    split at number <;> split at number
    all_goals first | contradiction | (cases number; rfl)

/-- The text of an operator, mark, keyword or name is what it covers. -/
theorem verbatim_of_readToken {column : Nat} {c : Char} {rest : List Char} {token : Token}
    (read : readToken column c rest = .ok token) (verbatim : token.kind.Verbatim) :
    token.text = String.ofList ((c :: rest).take token.width) := by
  cases beginsToken_of_readToken read with
  | pair | single => rfl
  | number _ number =>
    obtain ⟨i, whole⟩ | ⟨x, pointed⟩ := readNumber_kind number
    · rw [whole] at verbatim
      contradiction
    · rw [pointed] at verbatim
      contradiction
  | quoted => contradiction
  | name =>
    have span := List.prefix_iff_eq_take.1 (List.takeWhile_prefix (l := c :: rest) continuesName)
    exact congrArg String.ofList span

/-- A token that is read covers what the source begins with. -/
theorem spans_of_readToken {column : Nat} {c : Char} {rest : List Char} {token : Token}
    (read : readToken column c rest = .ok token) :
    ∃ inside after, rest = inside ++ after ∧ token.Spans column (c :: inside) := by
  obtain ⟨inside, after, rfl, width, _⟩ := covers_of_readToken read
  refine ⟨inside, after, rfl, column_of_readToken read, width, List.cons_ne_nil _ _, readToken_kind read, ?_⟩
  intro verbatim
  rw [verbatim_of_readToken read verbatim, width, ← List.cons_append]
  exact congrArg String.ofList (List.take_left' rfl)

/-! ## All tokens -/

/-- The token for the end of a source. -/
def endToken (column : Nat) : Token := ⟨.eof, "", column, 0⟩

/-- The rest of a source from a column on is cut into tokens up to a place where a token begins that cannot be read. -/
def CutUpTo (column : Nat) (source : List Char) (misplaced : Misplaced) : Prop :=
  ∃ tokens before c rest, source = before ++ c :: rest ∧ Cut column tokens before ∧
    misplaced.column = column + before.length ∧ isBlank c = false ∧
    readToken misplaced.column c rest = .error misplaced.fault

/-- The rest of a source from a column on gives its tokens and its end, or the place where a token cannot be read. -/
def Gives (column : Nat) (source : List Char) : Except Misplaced (List Token) → Prop
  | .ok tokens => ∃ body, tokens = body ++ [endToken (column + source.length)] ∧ Cut column body source
  | .error misplaced => CutUpTo column source misplaced

/-- White space before a source gives nothing. -/
theorem Gives.blank {column : Nat} {c : Char} {rest : List Char} {read : Except Misplaced (List Token)}
    (white : isBlank c = true) (gives : Gives (column + 1) rest read) : Gives column (c :: rest) read := by
  have further (length : Nat) : column + 1 + length = column + (length + 1) := by omega
  cases read with
  | ok tokens =>
    obtain ⟨body, rfl, cut⟩ := gives
    rw [further]
    exact ⟨body, rfl, .blank white cut⟩
  | error misplaced =>
    obtain ⟨tokens, before, d, behind, rfl, cut, place, visible, refused⟩ := gives
    rw [further] at place
    exact ⟨tokens, c :: before, d, behind, rfl, .blank white cut, place, visible, refused⟩

/-- A span before a source gives its token first. -/
theorem Gives.token {column : Nat} {token : Token} {span rest : List Char} {read : Except Misplaced (List Token)}
    (first : token.Spans column span) (gives : Gives (column + span.length) rest read) :
    Gives column (span ++ rest) (read.map (token :: ·)) := by
  cases read with
  | ok tokens =>
    obtain ⟨body, rfl, cut⟩ := gives
    refine ⟨token :: body, ?_, .token first cut⟩
    rw [List.length_append, ← Nat.add_assoc]
    rfl
  | error misplaced =>
    obtain ⟨tokens, before, d, behind, rfl, cut, place, visible, refused⟩ := gives
    refine ⟨token :: tokens, span ++ before, d, behind, (List.append_assoc ..).symm, .token first cut, ?_, visible,
      refused⟩
    rw [List.length_append, ← Nat.add_assoc]
    exact place

/-- Every source gives its tokens and its end, or the place where a token cannot be read. -/
theorem gives_tokensFrom (column : Nat) (source : List Char) : Gives column source (tokensFrom 0 column source) := by
  -- The induction is on the length: a token passes over several characters at once.
  induction length : source.length using Nat.strongRecOn generalizing column source with
  | ind length later =>
    subst length
    cases source with
    | nil => exact ⟨[], rfl, .nil column⟩
    | cons c rest =>
      rw [tokensFrom]
      split
      case isTrue white => exact .blank white (later rest.length (Nat.lt_succ_self _) (column + 1) rest rfl)
      case isFalse visible =>
        split
        case h_1 fault refused =>
          exact ⟨[], [], c, rest, rfl, .nil column, rfl, Bool.eq_false_iff.2 visible, refused⟩
        case h_2 token found =>
          obtain ⟨inside, after, rfl, first⟩ := spans_of_readToken found
          have shorter : after.length < (c :: (inside ++ after)).length := by
            rw [List.length_cons, List.length_append]
            omega
          have behind := later after.length shorter (column + (c :: inside).length) after rfl
          have passed : tokensFrom (token.width - 1) (column + 1) (inside ++ after) =
              tokensFrom 0 (column + (c :: inside).length) after := by
            rw [first.width, List.length_cons, Nat.add_sub_cancel, tokensFrom_inside, Nat.add_assoc,
              Nat.add_comm 1]
          rw [passed]
          exact Gives.token first behind

/-! ## What a cut says of its tokens -/

/-- The tokens of a cut stand inside the source, and cover something. -/
theorem Cut.within {column : Nat} {tokens : List Token} {source : List Char} (cut : Cut column tokens source) :
    ∀ token ∈ tokens, column ≤ token.column ∧ 0 < token.width ∧
      token.column + token.width ≤ column + source.length := by
  induction cut with
  | nil => exact fun _ absent => absurd absent List.not_mem_nil
  | blank _ _ later =>
    intro token listed
    have bounds := later token listed
    rw [List.length_cons]
    omega
  | token first _ later =>
    have wide := List.length_pos_iff.2 first.nonempty
    intro token listed
    rw [List.length_append]
    rcases List.mem_cons.1 listed with rfl | behind
    · rw [first.column, first.width]
      omega
    · have bounds := later token behind
      omega

/-- Each token of a cut ends before the next one begins. -/
theorem Cut.ascending {column : Nat} {tokens : List Token} {source : List Char} (cut : Cut column tokens source) :
    tokens.Pairwise fun before after => before.column + before.width ≤ after.column := by
  induction cut with
  | nil => exact .nil
  | blank _ _ later => exact later
  | token first cut later =>
    refine .cons (fun after listed => ?_) later
    rw [first.column, first.width]
    exact (cut.within after listed).1

/-- Each token of a cut covers the characters that stand at its column, as many as it is wide. -/
theorem Cut.spans {column : Nat} {tokens : List Token} {source : List Char} (cut : Cut column tokens source) :
    ∀ token ∈ tokens, token.Spans token.column ((source.drop (token.column - column)).take token.width) := by
  induction cut with
  | nil => exact fun _ absent => absurd absent List.not_mem_nil
  | @blank column _ _ _ _ cut later =>
    intro token listed
    have place : token.column - column = token.column - (column + 1) + 1 := by
      have bounds := cut.within token listed
      omega
    rw [place, List.drop_succ_cons]
    exact later token listed
  | @token column _ _ span rest first cut later =>
    intro token listed
    rcases List.mem_cons.1 listed with rfl | behind
    · have covered : (span ++ rest).take span.length = span := List.take_left' rfl
      rw [first.column, first.width, Nat.sub_self, List.drop_zero, covered]
      exact first
    · have place : token.column - column = span.length + (token.column - (column + span.length)) := by
        have bounds := cut.within token behind
        omega
      rw [place, List.drop_length_add_append]
      exact later token behind

/-- No token of a cut is the end of the source. -/
theorem Cut.inside {column : Nat} {tokens : List Token} {source : List Char} (cut : Cut column tokens source) :
    ∀ token ∈ tokens, token.kind ≠ .eof :=
  fun token listed => (cut.spans token listed).inside

/-- A source without tokens is white space. -/
theorem Cut.white {column : Nat} {tokens : List Token} {source : List Char} (cut : Cut column tokens source)
    (empty : tokens = []) : ∀ c ∈ source, isBlank c = true := by
  induction cut with
  | nil => exact fun _ absent => absurd absent List.not_mem_nil
  | blank white _ later => exact List.forall_mem_cons.2 ⟨white, later empty⟩
  | token => contradiction

/-! ## The tokens of a source -/

/-- The tokens of a source, in its order and each in its place. -/
structure TokensOf (source : String) (tokens : List Token) : Prop where
  /-- The source is cut into the spans of all tokens but the last, and the last one, which stands behind the source, is
  the only end. -/
  ended : ∃ body, tokens = body ++ [endToken (source.length + 1)] ∧ (∀ token ∈ body, token.kind ≠ .eof) ∧
    Cut 1 body source.toList
  /-- Their columns ascend. -/
  ascending : tokens.Pairwise fun before after => before.column < after.column
  /-- They stand in the source or behind it. -/
  within : ∀ token ∈ tokens, 1 ≤ token.column ∧ token.column ≤ source.length + 1
  /-- The text of an operator, mark, keyword or name is what stands in the source at its column. -/
  verbatim : ∀ token ∈ tokens, token.kind.Verbatim →
    token.text = String.ofList ((source.toList.drop (token.column - 1)).take token.width)

/-- The tokens that are read are the tokens of the source. -/
theorem tokensOf_of_tokenize {source : String} {tokens : List Token} (read : tokenize source = .ok tokens) :
    TokensOf source tokens := by
  have gives := gives_tokensFrom 1 source.toList
  rw [show tokensFrom 0 1 source.toList = .ok tokens from read] at gives
  obtain ⟨body, rfl, cut⟩ := gives
  rw [String.length_toList, Nat.add_comm 1]
  have within := cut.within
  rw [String.length_toList] at within
  refine ⟨⟨body, rfl, cut.inside, cut⟩, ?_, ?_, ?_⟩
  · refine List.pairwise_append.2 ⟨cut.ascending.imp_of_mem ?_, List.pairwise_singleton _ _, ?_⟩
    · intro before after listed _ apart
      have bounds := within before listed
      omega
    · intro token listed last ending
      obtain rfl := List.mem_singleton.1 ending
      have bounds := within token listed
      simp only [endToken]
      omega
  · intro token listed
    rcases List.mem_append.1 listed with inside | last
    · have bounds := within token inside
      omega
    · obtain rfl := List.mem_singleton.1 last
      simp only [endToken]
      omega
  · intro token listed verbatim
    rcases List.mem_append.1 listed with inside | last
    · exact (cut.spans token inside).verbatim verbatim
    · obtain rfl := List.mem_singleton.1 last
      contradiction

/-- Where no tokens are read, the source is cut up to the place of the fault. -/
theorem cutUpTo_of_tokenize {source : String} {misplaced : Misplaced} (refused : tokenize source = .error misplaced) :
    CutUpTo 1 source.toList misplaced := by
  have gives := gives_tokensFrom 1 source.toList
  rwa [show tokensFrom 0 1 source.toList = .error misplaced from refused] at gives

end MessageRouting.Expr
