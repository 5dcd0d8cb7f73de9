import MessageRouting.Expr.Lexer

/-!
# The tokens of a source

The list of the tokens of a source ends with a token for the end of the source, and no other token is one.
-/

namespace MessageRouting.Expr

/-- What is found in a table is one of its entries. -/
theorem mem_of_lookup {α β : Type} [BEq α] [LawfulBEq α] {key : α} {value : β} {table : List (α × β)}
    (found : table.lookup key = some value) : (key, value) ∈ table := by
  obtain ⟨before, after, rfl, _⟩ := List.lookup_eq_some_iff.1 found
  simp

/-- A number is a whole one or one with a point. -/
theorem readNumber_kind {column : Nat} {source : List Char} {token : Token}
    (read : readNumber column source = .ok token) : (∃ i, token.kind = .int i) ∨ ∃ x, token.kind = .float x := by
  simp only [readNumber] at read
  split at read
  · split at read
    · obtain rfl := Except.ok.inj read
      exact .inr ⟨_, rfl⟩
    · contradiction
  · split at read
    · obtain rfl := Except.ok.inj read
      exact .inl ⟨_, rfl⟩
    · contradiction

/-- A character that begins a name may also continue one. -/
theorem continuesName_of_beginsName {c : Char} (begun : beginsName c = true) : continuesName c = true := by
  simp only [beginsName, continuesName, Text.isAlphanumeric, Bool.or_eq_true] at begun ⊢
  exact begun.imp .inl id

/-- A word is a keyword or a name. -/
theorem readName_kind (column : Nat) (source : List Char) :
    (∃ word, (word, (readName column source).kind) ∈ keywords) ∨ (readName column source).kind = .ident := by
  simp only [readName]
  cases found : keywords.lookup (String.ofList (source.takeWhile continuesName)) with
  | none => exact .inr rfl
  | some kind => exact .inl ⟨_, mem_of_lookup found⟩

/-- How a token begins with a character: it is an operator or mark, a number, a text in quotes, or a name or keyword. -/
inductive BeginsToken (column : Nat) (c : Char) : List Char → Token → Prop
  | pair {next : Char} {more : List Char} {kind : TokenKind} (listed : ((c, next), kind) ∈ pairs) :
    BeginsToken column c (next :: more) ⟨kind, String.ofList [c, next], column, 2⟩
  | number {rest : List Char} {token : Token} (begins : (isDigit c || (c == '.' && rest.head?.any isDigit)) = true)
    (read : readNumber column (c :: rest) = .ok token) : BeginsToken column c rest token
  | single {rest : List Char} {kind : TokenKind} (listed : (c, kind) ∈ singles) :
    BeginsToken column c rest ⟨kind, String.ofList [c], column, 1⟩
  | quoted {rest text : List Char} {width : Nat} (quote : c = '"' ∨ c = '\'')
    (read : readString c rest = .ok (text, width)) :
    BeginsToken column c rest ⟨.str, String.ofList text, column, width + 1⟩
  | name {rest : List Char} (begins : beginsName c = true) :
    BeginsToken column c rest (readName column (c :: rest))

/-- Every token that is read begins in one of those ways. -/
theorem beginsToken_of_readToken {column : Nat} {c : Char} {rest : List Char} {token : Token}
    (read : readToken column c rest = .ok token) : BeginsToken column c rest token := by
  unfold readToken at read
  split at read
  case h_1 kind found =>
    obtain rfl := Except.ok.inj read
    obtain ⟨next, first, paired⟩ := Option.bind_eq_some_iff.1 found
    cases rest with
    | nil => cases first
    | cons d more =>
      obtain rfl := Option.some.inj first
      exact .pair (mem_of_lookup paired)
  case h_2 =>
    split at read
    case isTrue begins => exact .number begins read
    case isFalse =>
      split at read
      case h_1 kind found =>
        obtain rfl := Except.ok.inj read
        exact .single (mem_of_lookup found)
      case h_2 =>
        split at read
        case isTrue quote =>
          rw [Bool.or_eq_true, beq_iff_eq, beq_iff_eq] at quote
          cases text : readString c rest with
          | error fault => simp [text, Except.map] at read
          | ok answer =>
            rw [text] at read
            obtain rfl := Except.ok.inj read
            exact .quoted quote text
        case isFalse =>
          split at read
          case isTrue begins =>
            obtain rfl := Except.ok.inj read
            exact .name begins
          case isFalse => contradiction

/-- No token that begins with a character is the end of the source. -/
theorem readToken_kind {column : Nat} {c : Char} {rest : List Char} {token : Token}
    (read : readToken column c rest = .ok token) : token.kind ≠ .eof := by
  intro ended
  cases beginsToken_of_readToken read with
  | @pair _ _ kind listed =>
    obtain rfl : kind = .eof := ended
    simp [pairs] at listed
  | number _ number =>
    obtain ⟨i, whole⟩ | ⟨x, pointed⟩ := readNumber_kind number
    · cases whole.symm.trans ended
    · cases pointed.symm.trans ended
  | @single _ kind listed =>
    obtain rfl : kind = .eof := ended
    simp [singles] at listed
  | quoted => contradiction
  | name =>
    obtain ⟨word, listed⟩ | named := readName_kind column (c :: rest)
    · simp [ended, keywords] at listed
    · cases named.symm.trans ended

/-- The tokens of the rest of a source end with its end, which none of them is before. -/
theorem tokensFrom_shape {inside column : Nat} {source : List Char} {tokens : List Token}
    (read : tokensFrom inside column source = .ok tokens) :
    ∃ body last, tokens = body ++ [last] ∧ last.kind = .eof ∧ ∀ token ∈ body, token.kind ≠ .eof := by
  fun_induction tokensFrom inside column source generalizing tokens with
  | case1 =>
    obtain rfl := Except.ok.inj read
    exact ⟨[], _, rfl, rfl, nofun⟩
  | case2 _ _ _ _ later => exact later read
  | case3 _ _ _ _ later => exact later read
  | case4 => contradiction
  | case5 column c rest _ token found later =>
    cases more : tokensFrom (token.width - 1) (column + 1) rest with
    | error fault => simp [more, Except.map] at read
    | ok following =>
      rw [more] at read
      obtain rfl := Except.ok.inj read
      obtain ⟨body, last, rfl, ended, free⟩ := later more
      refine ⟨token :: body, last, rfl, ended, ?_⟩
      rw [List.forall_mem_cons]
      exact ⟨readToken_kind found, free⟩

end MessageRouting.Expr
