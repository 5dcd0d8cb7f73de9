import MessageRouting.Proofs.Expr.Reading
import MessageRouting.Proofs.Expr.TokenPlaces

/-!
# Where compilation fails

A fault of a source names the source and a column. When a token cannot be read, it is the column where that token
begins. When the tokens are no expression, it is the column of one of them: the parser never goes past the end of the
source, so it always has a token in front of it. A source without tokens fails at its first column.
-/

namespace MessageRouting.Expr

open Text

/-! ## The token in front -/

/-- One of some tokens is the end of a source. -/
def HasEnd (tokens : List Token) : Prop := ∃ token ∈ tokens, token.kind = .eof

/-- What a symbol derives has no end in it. -/
theorem Derives.inside {symbol : Symbol} {tokens : List Token} {e : Expr} (derived : Derives symbol tokens e) :
    ∀ token ∈ tokens, token.kind ≠ .eof := by
  induction derived with
  | plain _ ih | orOperand _ ih | andOperand _ ih | equalityOperand _ ih | relationOperand _ ih
  | sumOperand _ ih | productOperand _ ih | lastItem _ ih => exact ih
  | noJoint | noAccess => exact fun _ absent => absurd absent List.not_mem_nil
  | level _ _ first rest | accessed _ _ first rest => exact List.forall_mem_append.2 ⟨first, rest⟩
  | conditional _ asked _ divided _ first second third =>
    simp only [List.forall_mem_append, List.forall_mem_cons, asked, divided, ne_eq, reduceCtorEq, not_false_eq_true,
      true_and]
    exact ⟨first, second, third⟩
  | joint spelled _ _ _ operand rest =>
    refine List.forall_mem_cons.2 ⟨?_, List.forall_mem_append.2 ⟨operand, rest⟩⟩
    intro ended
    rw [ended] at spelled
    cases spelled
  | operator spelled _ rest =>
    refine List.forall_mem_cons.2 ⟨?_, rest⟩
    intro ended
    rw [ended] at spelled
    cases spelled
  | member marked named _ rest =>
    simp only [List.forall_mem_cons, marked, named, ne_eq, reduceCtorEq, not_false_eq_true, true_and]
    exact rest
  | index opened _ closed _ inside rest =>
    simp only [List.forall_mem_append, List.forall_mem_cons, opened, closed, ne_eq, reduceCtorEq, not_false_eq_true,
      true_and]
    exact ⟨inside, rest⟩
  | literal meant => cases meant <;> simp
  | root word => simp [word]
  | emptyList opened closed => simp [opened, closed]
  | call word _ opened _ closed inside => simpa [word, opened, closed, or_imp, forall_and] using inside
  | group opened _ closed inside | list opened _ closed inside =>
    simpa [opened, closed, or_imp, forall_and] using inside
  | item _ divided _ first rest =>
    simp only [List.forall_mem_append, List.forall_mem_cons, divided, ne_eq, reduceCtorEq, not_false_eq_true, true_and]
    exact ⟨first, rest⟩

/-- What the parser has in front of it: some of all tokens, the end among them. -/
structure InFront (all rest : List Token) : Prop where
  /-- They are some of all tokens. -/
  part : rest ⊆ all
  /-- The end is one of them. -/
  ended : HasEnd rest

/-- A fault is at one of some tokens. -/
def Misplaced.At (misplaced : Misplaced) (tokens : List Token) : Prop :=
  ∃ token ∈ tokens, misplaced.column = token.column

section InFront

variable {all rest : List Token} {token : Token} {misplaced : Misplaced}

/-- A token that is not the end can be passed. -/
theorem InFront.pass (front : InFront all (token :: rest)) (inside : token.kind ≠ .eof) : InFront all rest := by
  obtain ⟨last, listed, ended⟩ := front.ended
  refine ⟨(List.cons_subset.1 front.part).2, last, ?_, ended⟩
  rcases List.mem_cons.1 listed with rfl | behind
  · contradiction
  · exact behind

/-- After a symbol is read, the end is still in front. -/
theorem InFront.read {depth : Nat} {tokens : List Token} {e : Expr} (front : InFront all tokens) (symbol : Symbol)
    (read : symbol.read depth tokens = .ok (e, rest)) : InFront all rest := by
  obtain ⟨first, rfl, derived⟩ := soundWithin depth symbol tokens e rest read
  obtain ⟨last, listed, ended⟩ := front.ended
  refine ⟨(List.append_subset.1 front.part).2, last, ?_, ended⟩
  rcases List.mem_append.1 listed with before | behind
  · exact absurd ended (derived.inside last before)
  · exact behind

/-- A fault at the first token in front is at one of the tokens. -/
theorem InFront.at_first (front : InFront all (token :: rest)) (same : misplaced.column = token.column) :
    misplaced.At all :=
  ⟨token, front.part List.mem_cons_self, same⟩

/-- There always is a first token in front, and a fault may be at it. -/
theorem InFront.at_columnOf (front : InFront all rest) (same : misplaced.column = columnOf rest) :
    misplaced.At all := by
  cases rest with
  | nil =>
    obtain ⟨last, absent, _⟩ := front.ended
    contradiction
  | cons token following => exact front.at_first same

end InFront

/-! ## The parser -/

/-- Every fault within a depth is at one of the tokens. -/
def PlacedWithin (depth : Nat) : Prop :=
  ∀ (symbol : Symbol) (all tokens : List Token) (misplaced : Misplaced), InFront all tokens →
    symbol.read depth tokens = .error misplaced → misplaced.At all

section Parser

variable {depth : Nat} {all tokens : List Token} {misplaced : Misplaced}

/-- The faults of an expression are at tokens. -/
theorem PlacedWithin.expression (placed : PlacedWithin depth) (front : InFront all tokens)
    (refused : parseExpr (depth + 1) tokens = .error misplaced) : misplaced.At all := by
  unfold parseExpr at refused
  split at refused
  case h_1 tested =>
    obtain rfl := Except.error.inj refused
    exact placed (.level .or) all tokens _ front tested
  case h_2 condition middle tested =>
    have behind : InFront all middle := front.read (.level .or) tested
    split at refused
    case h_1 =>
      have chosen := behind.pass (by simp)
      split at refused
      case h_1 fault =>
        obtain rfl := Except.error.inj refused
        exact placed .expression all _ _ chosen fault
      case h_2 found =>
        have other := (chosen.read .expression found).pass (by simp)
        split at refused
        case h_1 fault =>
          obtain rfl := Except.error.inj refused
          exact placed .expression all _ _ other fault
        case h_2 => contradiction
      case h_3 found =>
        obtain rfl := Except.error.inj refused
        exact (chosen.read .expression found).at_columnOf rfl
    case h_2 => contradiction

/-- The faults of the operands of a level are at tokens. -/
theorem PlacedWithin.level {level : Level} (placed : PlacedWithin depth) (front : InFront all tokens)
    (refused : parseLevel (depth + 1) level tokens = .error misplaced) : misplaced.At all := by
  unfold parseLevel at refused
  split at refused
  case h_1 fault =>
    obtain rfl := Except.error.inj refused
    exact placed (.operand level) all tokens _ front fault
  case h_2 left middle begun =>
    have behind : InFront all middle := front.read (.operand level) begun
    exact placed (.joints level left) all middle _ behind refused

/-- The faults of an operand are at tokens. -/
theorem PlacedWithin.operand {level : Level} (placed : PlacedWithin depth) (front : InFront all tokens)
    (refused : parseOperand (depth + 1) level tokens = .error misplaced) : misplaced.At all := by
  unfold parseOperand at refused
  split at refused
  case h_1 closer _ => exact placed (.level closer) all tokens _ front refused
  case h_2 => exact placed .unary all tokens _ front refused

/-- A pattern that is not valid is a fault at the column of its text. -/
theorem column_of_join {column : Nat} {joint : Joint} {left right : Expr}
    (refused : joint.join column left right = .error misplaced) : misplaced.column = column := by
  unfold Joint.join at refused
  repeat' split at refused
  all_goals first | contradiction | (obtain rfl := Except.error.inj refused; rfl)

/-- The faults of further joints and operands are at tokens. -/
theorem PlacedWithin.joints {level : Level} {left : Expr} (placed : PlacedWithin depth) (front : InFront all tokens)
    (refused : parseJoints (depth + 1) level left tokens = .error misplaced) : misplaced.At all := by
  cases tokens with
  | nil => contradiction
  | cons token following =>
    rw [parseJoints] at refused
    split at refused
    case h_1 => contradiction
    case h_2 joint spelled =>
      have inside : token.kind ≠ .eof := by
        intro ended
        rw [ended] at spelled
        cases joint?_eq_some_iff.1 spelled
      have behind := front.pass inside
      split at refused
      case h_1 fault =>
        obtain rfl := Except.error.inj refused
        exact placed (.operand level) all following _ behind fault
      case h_2 right tail followed =>
        split at refused
        case h_1 made =>
          obtain rfl := Except.error.inj refused
          exact behind.at_columnOf (column_of_join made)
        case h_2 joined _ =>
          exact placed (.joints level joined) all tail _ (behind.read (.operand level) followed) refused

/-- The faults of operators and their operand are at tokens. -/
theorem PlacedWithin.unary (placed : PlacedWithin depth) (front : InFront all tokens)
    (refused : parseUnary (depth + 1) tokens = .error misplaced) : misplaced.At all := by
  cases tokens with
  | nil =>
    obtain ⟨last, absent, _⟩ := front.ended
    contradiction
  | cons token following =>
    rw [parseUnary] at refused
    split at refused
    case h_1 operator spelled =>
      have inside : token.kind ≠ .eof := by
        intro ended
        rw [ended] at spelled
        contradiction
      split at refused
      case h_1 fault =>
        obtain rfl := Except.error.inj refused
        exact placed .unary all following _ (front.pass inside) fault
      case h_2 => contradiction
    case h_2 =>
      split at refused
      case h_1 fault =>
        obtain rfl := Except.error.inj refused
        exact placed .primary all (token :: following) _ front fault
      case h_2 base tail begun =>
        exact placed (.accesses base) all tail _ (front.read .primary begun) refused

/-- The faults of members and indices are at tokens. -/
theorem PlacedWithin.accesses {base : Expr} (placed : PlacedWithin depth) (front : InFront all tokens)
    (refused : parseAccess (depth + 1) base tokens = .error misplaced) : misplaced.At all := by
  unfold parseAccess at refused
  split at refused
  case h_1 => exact placed (.accesses _) all _ _ ((front.pass (by simp)).pass (by simp)) refused
  case h_2 =>
    obtain rfl := Except.error.inj refused
    exact (front.pass (by simp)).at_columnOf rfl
  case h_3 =>
    have behind := front.pass (by simp)
    split at refused
    case h_1 fault =>
      obtain rfl := Except.error.inj refused
      exact placed .expression all _ _ behind fault
    case h_2 found =>
      exact placed (.accesses _) all _ _ ((behind.read .expression found).pass (by simp)) refused
    case h_3 found =>
      obtain rfl := Except.error.inj refused
      exact (behind.read .expression found).at_columnOf rfl
  case h_4 => contradiction

/-- After items are read, the end is still in front. -/
theorem InFront.readItems {items : List Expr} {rest : List Token} (front : InFront all tokens)
    (read : parseItems depth tokens = .ok (items, rest)) : InFront all rest :=
  front.read .items (Symbol.read_items_eq_ok_iff.2 ⟨items, read, rfl⟩)

/-- The faults of items within the depth are at tokens. -/
theorem PlacedWithin.listed (placed : PlacedWithin depth) (front : InFront all tokens)
    (refused : parseItems depth tokens = .error misplaced) : misplaced.At all := by
  refine placed .items all tokens misplaced front ?_
  rw [Symbol.read, refused]
  rfl

/-- The faults of items are at tokens. -/
theorem PlacedWithin.items (placed : PlacedWithin depth) (front : InFront all tokens)
    (refused : parseItems (depth + 1) tokens = .error misplaced) : misplaced.At all := by
  unfold parseItems at refused
  split at refused
  case h_1 fault =>
    obtain rfl := Except.error.inj refused
    exact placed .expression all tokens _ front fault
  case h_2 found =>
    have behind := (front.read .expression found).pass (by simp)
    split at refused
    case h_1 fault =>
      obtain rfl := Except.error.inj refused
      exact placed.listed behind fault
    case h_2 => contradiction
  case h_3 => contradiction

/-- A call with a wrong number of arguments is a fault at its name. -/
theorem column_of_makeCall {name : Token} {function : Builtin} {arguments : List Expr} {tail : List Token}
    (refused : (makeCall name function arguments).map (·, tail) = .error misplaced) :
    misplaced.column = name.column := by
  unfold makeCall at refused
  split at refused
  case h_1 => contradiction
  case h_2 =>
    obtain rfl := Except.error.inj refused
    rfl

/-- A name that is no root is a fault at that name. -/
theorem column_of_readRoot {token : Token} (refused : (readRoot token).map (·, tokens) = .error misplaced) :
    misplaced.column = token.column := by
  unfold readRoot at refused
  split at refused
  case h_1 => contradiction
  case h_2 =>
    obtain rfl := Except.error.inj refused
    rfl

/-- The faults of an operand without operators are at tokens. -/
theorem PlacedWithin.primary {token : Token} (placed : PlacedWithin depth) (front : InFront all (token :: tokens))
    (refused : parsePrimary (depth + 1) token tokens = .error misplaced) : misplaced.At all := by
  unfold parsePrimary at refused
  split at refused
  case h_1 opened =>
    have behind := front.pass (by simp [opened])
    split at refused
    case h_1 fault =>
      obtain rfl := Except.error.inj refused
      exact placed .expression all _ _ behind fault
    case h_2 => contradiction
    case h_3 found =>
      obtain rfl := Except.error.inj refused
      exact (behind.read .expression found).at_columnOf rfl
  case h_2 => contradiction
  case h_3 opened _ =>
    have behind := front.pass (by simp [opened])
    split at refused
    case h_1 fault =>
      obtain rfl := Except.error.inj refused
      exact placed.listed behind fault
    case h_2 => contradiction
    case h_3 found =>
      obtain rfl := Except.error.inj refused
      exact (behind.readItems found).at_columnOf rfl
  case h_4 word =>
    split at refused
    case h_1 =>
      obtain rfl := Except.error.inj refused
      exact front.at_first rfl
    case h_2 =>
      split at refused
      case h_1 => exact front.at_first (column_of_makeCall refused)
      case h_2 =>
        have behind := (front.pass (by simp [word])).pass (by simp)
        split at refused
        case h_1 fault =>
          obtain rfl := Except.error.inj refused
          exact placed.listed behind fault
        case h_2 => exact front.at_first (column_of_makeCall refused)
        case h_3 found =>
          obtain rfl := Except.error.inj refused
          exact (behind.readItems found).at_columnOf rfl
  case h_5 => exact front.at_first (column_of_readRoot refused)
  case h_6 =>
    obtain rfl := Except.error.inj refused
    exact front.at_first rfl
  case h_7 =>
    split at refused
    case h_1 => contradiction
    case h_2 =>
      obtain rfl := Except.error.inj refused
      exact front.at_first rfl

/-- Every fault of the parser is at one of the tokens. -/
theorem placedWithin (depth : Nat) : PlacedWithin depth := by
  induction depth with
  | zero =>
    intro symbol all tokens misplaced front refused
    refine front.at_columnOf ?_
    cases symbol <;> cases tokens <;> (obtain rfl := Except.error.inj refused; rfl)
  | succ depth placed =>
    intro symbol all tokens misplaced front refused
    cases symbol with
    | expression => exact placed.expression front refused
    | level tier => exact placed.level front refused
    | operand tier => exact placed.operand front refused
    | joints tier left => exact placed.joints front refused
    | unary => exact placed.unary front refused
    | accesses base => exact placed.accesses front refused
    | primary =>
      cases tokens with
      | nil =>
        obtain ⟨last, absent, _⟩ := front.ended
        contradiction
      | cons token following => exact placed.primary front refused
    | items =>
      cases read : parseItems (depth + 1) tokens with
      | error fault =>
        rw [Symbol.read, read] at refused
        obtain rfl := Except.error.inj refused
        exact placed.items front read
      | ok answer =>
        rw [Symbol.read, read] at refused
        contradiction

end Parser

/-! ## Sources -/

/-- The tokens of a source are refused at one of them, or because there is none but the end. -/
theorem at_of_parseTokens {tokens : List Token} {misplaced : Misplaced} (ended : HasEnd tokens)
    (refused : parseTokens tokens = .error misplaced) :
    misplaced.At tokens ∨ (misplaced.column = 1 ∧ ∃ token ∈ tokens.head?, token.kind = .eof) := by
  have front : InFront tokens tokens := ⟨List.Subset.refl tokens, ended⟩
  have whole : parseExpr (depthFor tokens) tokens = Symbol.expression.read (depthFor tokens) tokens := rfl
  unfold parseTokens at refused
  split at refused
  case h_1 =>
    obtain rfl := Except.error.inj refused
    exact .inr ⟨rfl, _, rfl, rfl⟩
  case h_2 =>
    rw [whole] at refused
    split at refused
    case h_1 fault =>
      obtain rfl := Except.error.inj refused
      exact .inl (placedWithin (depthFor tokens) .expression tokens tokens _ front fault)
    case h_2 => contradiction
    case h_3 found =>
      obtain rfl := Except.error.inj refused
      exact .inl ((front.read .expression found).at_columnOf rfl)

/-- The columns of a source at which its compilation may fail. -/
inductive FaultColumn (source : String) : Nat → Prop
  /-- The column of a token or of the end. -/
  | token {tokens : List Token} {token : Token} (read : tokenize source = .ok tokens) (listed : token ∈ tokens) :
    FaultColumn source token.column
  /-- The column at which a token begins that cannot be read. -/
  | unreadable {misplaced : Misplaced} (refused : tokenize source = .error misplaced)
    (cut : CutUpTo 1 source.toList misplaced) : FaultColumn source misplaced.column
  /-- The first column of a source that is white space. -/
  | empty (white : ∀ c ∈ source.toList, isBlank c = true) : FaultColumn source 1

/-- A source that is refused is refused at one of those columns. -/
theorem faultColumn_of_parse {source : String} {misplaced : Misplaced} (refused : parse source = .error misplaced) :
    FaultColumn source misplaced.column := by
  unfold parse at refused
  split at refused
  case h_1 fault =>
    obtain rfl := Except.error.inj refused
    exact .unreadable fault (cutUpTo_of_tokenize fault)
  case h_2 tokens read =>
    obtain ⟨body, rfl, inside, cut⟩ := (tokensOf_of_tokenize read).ended
    have ended : HasEnd (body ++ [endToken (source.length + 1)]) :=
      ⟨_, List.mem_append_right body List.mem_cons_self, rfl⟩
    rcases at_of_parseTokens ended refused with ⟨token, listed, same⟩ | ⟨first, token, leading, last⟩
    · rw [same]
      exact .token read listed
    · rw [first]
      refine .empty (cut.white ?_)
      cases body with
      | nil => rfl
      | cons other more =>
        obtain rfl := Option.some.inj leading
        exact absurd last (inside _ List.mem_cons_self)

/-- A column at which compilation may fail is one of the source, or the next one behind it. -/
theorem FaultColumn.within {source : String} {column : Nat} (place : FaultColumn source column) :
    1 ≤ column ∧ column ≤ source.length + 1 := by
  cases place with
  | token read listed => exact (tokensOf_of_tokenize read).within _ listed
  | unreadable _ cut =>
    obtain ⟨_, before, c, rest, split, _, same, _⟩ := cut
    have length := congrArg List.length split
    rw [String.length_toList, List.length_append, List.length_cons] at length
    omega
  | empty => omega

/-- A source gives tokens in their places, or one of them cannot be read. And its compilation either gives a formula, or
fails with the source and the column of one of its tokens, of its end, or of a token that cannot be read, or with its
first column if the source is white space. -/
theorem tokens_and_faults_in_place (source : String) :
    ((∃ tokens, tokenize source = .ok tokens ∧ TokensOf source tokens) ∨
      ∃ misplaced, tokenize source = .error misplaced ∧ CutUpTo 1 source.toList misplaced) ∧
    ((∃ formula, Formula.compile source = .ok formula) ∨
      ∃ column message, Formula.compile source = .error (.expressionCompile source column message) ∧
        FaultColumn source column) := by
  constructor
  · cases read : tokenize source with
    | ok tokens => exact .inl ⟨tokens, rfl, tokensOf_of_tokenize read⟩
    | error misplaced => exact .inr ⟨misplaced, rfl, cutUpTo_of_tokenize read⟩
  · unfold Formula.compile
    cases read : parse source with
    | ok e => exact .inl ⟨_, rfl⟩
    | error misplaced => exact .inr ⟨misplaced.column, _, rfl, faultColumn_of_parse read⟩

end MessageRouting.Expr
