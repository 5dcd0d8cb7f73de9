import MessageRouting.Proofs.Expr.Grammar
import MessageRouting.Proofs.Expr.TokenList

/-!
# What the parser reads

The parser reads exactly what the grammar derives. Whatever a symbol reads in front of a rest is derived from it.
And whatever is derived from a symbol is read in front of every rest that cannot go on with it, if the descent may
go twenty levels for each token.
-/

namespace MessageRouting.Expr

/-- The part of the parser that reads a symbol. -/
def Symbol.read : Symbol → Nat → List Token → Except Misplaced (Expr × List Token)
  | .expression, depth, tokens => parseExpr depth tokens
  | .level tier, depth, tokens => parseLevel depth tier tokens
  | .operand tier, depth, tokens => parseOperand depth tier tokens
  | .joints tier left, depth, tokens => parseJoints depth tier left tokens
  | .unary, depth, tokens => parseUnary depth tokens
  | .accesses base, depth, tokens => parseAccess depth base tokens
  | .primary, depth, tokens =>
    match tokens with
    | [] => .error ⟨0, .unexpectedEnd⟩
    | token :: rest => parsePrimary depth token rest
  | .items, depth, tokens => (parseItems depth tokens).map fun (found, rest) => (.list found, rest)

/-- Items are read as their list. -/
theorem Symbol.read_items_eq_ok_iff {depth : Nat} {tokens rest : List Token} {e : Expr} :
    Symbol.items.read depth tokens = .ok (e, rest) ↔
      ∃ found, parseItems depth tokens = .ok (found, rest) ∧ e = .list found := by
  simp only [Symbol.read]
  cases parseItems depth tokens with
  | error fault => simp [Except.map]
  | ok answer =>
    obtain ⟨found, tail⟩ := answer
    simp only [Except.map, Except.ok.injEq, Prod.mk.injEq]
    constructor
    · rintro ⟨rfl, rfl⟩
      exact ⟨found, ⟨rfl, rfl⟩, rfl⟩
    · rintro ⟨found, ⟨rfl, rfl⟩, rfl⟩
      exact ⟨rfl, rfl⟩

/-! ## Soundness -/

/-- Whatever is read within a depth is derived. -/
def SoundWithin (depth : Nat) : Prop :=
  ∀ (symbol : Symbol) (tokens : List Token) (e : Expr) (rest : List Token),
    symbol.read depth tokens = .ok (e, rest) → ∃ front, tokens = front ++ rest ∧ Derives symbol front e

section Soundness

variable {depth : Nat} {tokens rest : List Token} {e : Expr}

/-- An expression that is read is derived. -/
theorem SoundWithin.expression (sound : SoundWithin depth)
    (read : parseExpr (depth + 1) tokens = .ok (e, rest)) :
    ∃ front, tokens = front ++ rest ∧ Derives .expression front e := by
  unfold parseExpr at read
  split at read
  case h_1 => contradiction
  case h_2 condition middle tested =>
    obtain ⟨first, rfl, derived⟩ := sound (.level .or) _ _ _ tested
    split at read
    case h_1 _ mark column width _ =>
      split at read
      case h_1 => contradiction
      case h_2 yes divider place span tail chosen =>
        split at read
        case h_1 => contradiction
        case h_2 no tail other =>
          obtain ⟨rfl, rfl⟩ := Prod.mk.inj (Except.ok.inj read)
          obtain ⟨second, rfl, derivedYes⟩ := sound .expression _ _ _ chosen
          obtain ⟨third, rfl, derivedNo⟩ := sound .expression _ _ _ other
          exact ⟨first ++ ⟨.question, mark, column, width⟩ :: (second ++ ⟨.colon, divider, place, span⟩ :: third),
            by simp, .conditional derived rfl derivedYes rfl derivedNo⟩
      case h_3 => contradiction
    case h_2 =>
      obtain ⟨rfl, rfl⟩ := Prod.mk.inj (Except.ok.inj read)
      exact ⟨first, rfl, .plain derived⟩

/-- The operands of a level that are read are derived. -/
theorem SoundWithin.level {level : Level} (sound : SoundWithin depth)
    (read : parseLevel (depth + 1) level tokens = .ok (e, rest)) :
    ∃ front, tokens = front ++ rest ∧ Derives (.level level) front e := by
  unfold parseLevel at read
  split at read
  case h_1 => contradiction
  case h_2 left middle begun =>
    obtain ⟨first, rfl, derived⟩ := sound (.operand level) _ _ _ begun
    obtain ⟨second, rfl, continued⟩ := sound (.joints level left) _ _ _ read
    exact ⟨first ++ second, by simp, .level derived continued⟩

/-- An operand that is read is derived. -/
theorem SoundWithin.operand {level : Level} (sound : SoundWithin depth)
    (read : parseOperand (depth + 1) level tokens = .ok (e, rest)) :
    ∃ front, tokens = front ++ rest ∧ Derives (.operand level) front e := by
  unfold parseOperand at read
  cases level <;> simp only [Level.closer?] at read
  case or =>
    obtain ⟨front, split, derived⟩ := sound (.level .and) _ _ _ read
    exact ⟨front, split, .orOperand derived⟩
  case and =>
    obtain ⟨front, split, derived⟩ := sound (.level .equality) _ _ _ read
    exact ⟨front, split, .andOperand derived⟩
  case equality =>
    obtain ⟨front, split, derived⟩ := sound (.level .relation) _ _ _ read
    exact ⟨front, split, .equalityOperand derived⟩
  case relation =>
    obtain ⟨front, split, derived⟩ := sound (.level .sum) _ _ _ read
    exact ⟨front, split, .relationOperand derived⟩
  case sum =>
    obtain ⟨front, split, derived⟩ := sound (.level .product) _ _ _ read
    exact ⟨front, split, .sumOperand derived⟩
  case product =>
    obtain ⟨front, split, derived⟩ := sound .unary _ _ _ read
    exact ⟨front, split, .productOperand derived⟩

/-- Joints and operands that are read are derived. -/
theorem SoundWithin.joints {level : Level} {left : Expr} (sound : SoundWithin depth)
    (read : parseJoints (depth + 1) level left tokens = .ok (e, rest)) :
    ∃ front, tokens = front ++ rest ∧ Derives (.joints level left) front e := by
  cases tokens with
  | nil =>
    obtain ⟨rfl, rfl⟩ := Prod.mk.inj (Except.ok.inj read)
    exact ⟨[], rfl, .noJoint level left⟩
  | cons token following =>
    rw [parseJoints] at read
    split at read
    case h_1 =>
      obtain ⟨rfl, rfl⟩ := Prod.mk.inj (Except.ok.inj read)
      exact ⟨[], rfl, .noJoint level left⟩
    case h_2 joint spelled =>
      split at read
      case h_1 => contradiction
      case h_2 right tail followed =>
        split at read
        case h_1 => contradiction
        case h_2 joined made =>
          obtain ⟨operand, rfl, derived⟩ := sound (.operand level) _ _ _ followed
          obtain ⟨further, rfl, continued⟩ := sound (.joints level joined) _ _ _ read
          exact ⟨token :: (operand ++ further), by simp,
            .joint (joint?_eq_some_iff.1 spelled) derived (join_eq_ok_iff.1 made) continued⟩

/-- Operators and the operand after them that are read are derived. -/
theorem SoundWithin.unary (sound : SoundWithin depth)
    (read : parseUnary (depth + 1) tokens = .ok (e, rest)) :
    ∃ front, tokens = front ++ rest ∧ Derives .unary front e := by
  cases tokens with
  | nil => contradiction
  | cons token following =>
    rw [parseUnary] at read
    split at read
    case h_1 operator spelled =>
      split at read
      case h_1 => contradiction
      case h_2 operand tail applied =>
        obtain ⟨rfl, rfl⟩ := Prod.mk.inj (Except.ok.inj read)
        obtain ⟨front, rfl, derived⟩ := sound .unary _ _ _ applied
        exact ⟨token :: front, rfl, .operator (unary?_eq_some_iff.1 spelled) derived⟩
    case h_2 =>
      split at read
      case h_1 => contradiction
      case h_2 base tail begun =>
        obtain ⟨first, split, derived⟩ := sound .primary (token :: following) _ _ begun
        obtain ⟨second, rfl, continued⟩ := sound (.accesses base) _ _ _ read
        exact ⟨first ++ second, by simp [split], .accessed derived continued⟩

/-- Members and indices that are read are derived. -/
theorem SoundWithin.accesses {base : Expr} (sound : SoundWithin depth)
    (read : parseAccess (depth + 1) base tokens = .ok (e, rest)) :
    ∃ front, tokens = front ++ rest ∧ Derives (.accesses base) front e := by
  unfold parseAccess at read
  split at read
  case h_1 =>
    obtain ⟨front, rfl, derived⟩ := sound (.accesses _) _ _ _ read
    exact ⟨_, rfl, .member rfl rfl derived⟩
  case h_2 => contradiction
  case h_3 _ mark column width _ =>
    split at read
    case h_1 => contradiction
    case h_2 key divider place span tail found =>
      obtain ⟨inside, rfl, derived⟩ := sound .expression _ _ _ found
      obtain ⟨further, rfl, continued⟩ := sound (.accesses _) _ _ _ read
      exact ⟨⟨.lBracket, mark, column, width⟩ :: (inside ++ ⟨.rBracket, divider, place, span⟩ :: further),
        by simp, .index rfl derived rfl continued⟩
    case h_3 => contradiction
  case h_4 =>
    obtain ⟨rfl, rfl⟩ := Prod.mk.inj (Except.ok.inj read)
    exact ⟨[], rfl, .noAccess base⟩

/-- Items that are read within the depth are derived, as a list. -/
theorem SoundWithin.listed {found : List Expr} (sound : SoundWithin depth)
    (read : parseItems depth tokens = .ok (found, rest)) :
    ∃ front, tokens = front ++ rest ∧ Derives .items front (.list found) :=
  sound .items tokens (.list found) rest (Symbol.read_items_eq_ok_iff.2 ⟨found, read, rfl⟩)

/-- Items that are read are derived, as a list. -/
theorem SoundWithin.items {found : List Expr} (sound : SoundWithin depth)
    (read : parseItems (depth + 1) tokens = .ok (found, rest)) :
    ∃ front, tokens = front ++ rest ∧ Derives .items front (.list found) := by
  unfold parseItems at read
  split at read
  case h_1 => contradiction
  case h_2 item mark column width following begun =>
    obtain ⟨first, rfl, derived⟩ := sound .expression _ _ _ begun
    split at read
    case h_1 => contradiction
    case h_2 more tail continued =>
      obtain ⟨rfl, rfl⟩ := Prod.mk.inj (Except.ok.inj read)
      obtain ⟨further, rfl, derivedMore⟩ := sound.listed continued
      exact ⟨first ++ ⟨.comma, mark, column, width⟩ :: further, by simp, .item derived rfl derivedMore⟩
  case h_3 item tail _ begun =>
    obtain ⟨rfl, rfl⟩ := Prod.mk.inj (Except.ok.inj read)
    obtain ⟨front, rfl, derived⟩ := sound .expression _ _ _ begun
    exact ⟨front, rfl, .lastItem derived⟩

/-- A call is made of one argument. -/
theorem makeCall_map_eq_ok {name : Token} {function : Builtin} {arguments : List Expr} {tail : List Token}
    (made : (makeCall name function arguments).map (·, tail) = .ok (e, rest)) :
    ∃ argument, arguments = [argument] ∧ e = .call function argument ∧ rest = tail := by
  unfold makeCall at made
  split at made
  case h_1 argument =>
    obtain ⟨rfl, rfl⟩ := Prod.mk.inj (Except.ok.inj made)
    exact ⟨argument, rfl, rfl, rfl⟩
  case h_2 => contradiction

/-- A root is read by its name. -/
theorem readRoot_map_eq_ok {token : Token} (read : (readRoot token).map (·, tokens) = .ok (e, rest)) :
    ∃ root : Root, token.text = root.name ∧ e = .root root ∧ rest = tokens := by
  unfold readRoot at read
  split at read
  case h_1 root named =>
    obtain ⟨rfl, rfl⟩ := Prod.mk.inj (Except.ok.inj read)
    exact ⟨root, root_named?_eq_some_iff.1 named, rfl, rfl⟩
  case h_2 => contradiction

/-- An operand without operators that is read is derived. -/
theorem SoundWithin.primary {token : Token} (sound : SoundWithin depth)
    (read : parsePrimary (depth + 1) token tokens = .ok (e, rest)) :
    ∃ front, token :: tokens = front ++ rest ∧ Derives .primary front e := by
  unfold parsePrimary at read
  split at read
  case h_1 opened =>
    split at read
    case h_1 => contradiction
    case h_2 inner mark column width tail found =>
      obtain ⟨rfl, rfl⟩ := Prod.mk.inj (Except.ok.inj read)
      obtain ⟨inside, rfl, derived⟩ := sound .expression _ _ _ found
      exact ⟨token :: (inside ++ [⟨.rParen, mark, column, width⟩]), by simp, .group opened derived rfl⟩
    case h_3 => contradiction
  case h_2 opened =>
    obtain ⟨rfl, rfl⟩ := Prod.mk.inj (Except.ok.inj read)
    exact ⟨[token, _], rfl, .emptyList opened rfl⟩
  case h_3 opened _ =>
    split at read
    case h_1 => contradiction
    case h_2 found mark column width tail held =>
      obtain ⟨rfl, rfl⟩ := Prod.mk.inj (Except.ok.inj read)
      obtain ⟨inside, rfl, derived⟩ := sound.listed held
      exact ⟨token :: (inside ++ [⟨.rBracket, mark, column, width⟩]), by simp, .list opened derived rfl⟩
    case h_3 => contradiction
  case h_4 text column width following word =>
    split at read
    case h_1 => contradiction
    case h_2 function named =>
      split at read
      case h_1 =>
        obtain ⟨argument, absent, _⟩ := makeCall_map_eq_ok read
        contradiction
      case h_2 =>
        split at read
        case h_1 => contradiction
        case h_2 found mark place span tail given =>
          obtain ⟨inside, rfl, derived⟩ := sound.listed given
          obtain ⟨argument, rfl, rfl, rfl⟩ := makeCall_map_eq_ok read
          exact ⟨token :: ⟨.lParen, text, column, width⟩ :: (inside ++ [⟨.rParen, mark, place, span⟩]), by simp,
            .call word (builtin_named?_eq_some_iff.1 named) rfl derived.single rfl⟩
        case h_3 => contradiction
  case h_5 word _ =>
    obtain ⟨root, named, rfl, rfl⟩ := readRoot_map_eq_ok read
    exact ⟨[token], rfl, .root word named⟩
  case h_6 => contradiction
  case h_7 =>
    split at read
    case h_1 value meant =>
      obtain ⟨rfl, rfl⟩ := Prod.mk.inj (Except.ok.inj read)
      exact ⟨[token], rfl, .literal (literal?_eq_some_iff.1 meant)⟩
    case h_2 => contradiction

/-- Whatever is read is derived. -/
theorem soundWithin (depth : Nat) : SoundWithin depth := by
  induction depth with
  | zero =>
    intro symbol tokens e rest read
    cases symbol <;> cases tokens <;> contradiction
  | succ depth sound =>
    intro symbol tokens e rest read
    cases symbol with
    | expression => exact sound.expression read
    | level tier => exact sound.level read
    | operand tier => exact sound.operand read
    | joints tier left => exact sound.joints read
    | unary => exact sound.unary read
    | accesses base => exact sound.accesses read
    | primary =>
      cases tokens with
      | nil => contradiction
      | cons token following => exact sound.primary read
    | items =>
      obtain ⟨found, listed, rfl⟩ := Symbol.read_items_eq_ok_iff.1 read
      exact sound.items listed

end Soundness

/-! ## Completeness -/

/-- How close a level binds. -/
def Level.closeness : Level → Nat
  | .or => 0
  | .and => 1
  | .equality => 2
  | .relation => 3
  | .sum => 4
  | .product => 5

/-- How deep the descent goes at most for a symbol and so many tokens. -/
def Symbol.depthFor : Symbol → Nat → Nat
  | .expression, length => 20 * length + 14
  | .level tier, length => 20 * length + 13 - 2 * tier.closeness
  | .operand tier, length => 20 * length + 12 - 2 * tier.closeness
  | .joints _ _, length => 20 * length + 1
  | .unary, length => 20 * length + 1
  | .accesses _, length => 20 * length + 1
  | .primary, length => 20 * length
  | .items, length => 20 * length + 15

/-- A kind of token goes on with an operand: it calls, or it accesses. -/
def Accesses (kind : TokenKind) : Prop := kind = .lParen ∨ kind = .dot ∨ kind = .lBracket

/-- A kind of token spells a joint on a level that binds at least so close. -/
def JoinsFrom (closeness : Nat) (kind : TokenKind) : Prop :=
  ∃ (level : Level) (joint : Joint), closeness ≤ level.closeness ∧ Spells level joint kind

/-- A kind of token may go on with what a symbol derives. -/
def Symbol.GoesOn : Symbol → TokenKind → Prop
  | .expression, kind => Accesses kind ∨ JoinsFrom 0 kind ∨ kind = .question
  | .level tier, kind => Accesses kind ∨ JoinsFrom tier.closeness kind
  | .operand tier, kind => Accesses kind ∨ JoinsFrom (tier.closeness + 1) kind
  | .joints tier _, kind => Accesses kind ∨ JoinsFrom tier.closeness kind
  | .unary, kind => Accesses kind
  | .accesses _, kind => Accesses kind
  | .primary, kind => kind = .lParen
  | .items, kind => Accesses kind ∨ JoinsFrom 0 kind ∨ kind = .question ∨ kind = .comma

/-- What a symbol derives ends before a rest. -/
def Symbol.EndsAt (symbol : Symbol) (rest : List Token) : Prop :=
  ∀ token ∈ rest.head?, ¬ symbol.GoesOn token.kind

/-- A symbol ends where another one ends that more tokens go on with. -/
theorem Symbol.EndsAt.mono {symbol other : Symbol} {rest : List Token} (ends : symbol.EndsAt rest)
    (fewer : ∀ kind, other.GoesOn kind → symbol.GoesOn kind) : other.EndsAt rest :=
  fun token member goesOn => ends token member (fewer token.kind goesOn)

/-- A symbol ends before a token that does not go on with it. -/
theorem Symbol.endsAt_cons {symbol : Symbol} {token : Token} {rest : List Token} :
    symbol.EndsAt (token :: rest) ↔ ¬ symbol.GoesOn token.kind := by
  simp [Symbol.EndsAt]

/-- A symbol that derives no empty list of tokens. -/
def Symbol.Begins : Symbol → Prop
  | .joints _ _ => False
  | .accesses _ => False
  | _ => True

/-- What a symbol derives begins with no closing mark. -/
theorem Derives.begins {symbol : Symbol} {tokens : List Token} {e : Expr} (derived : Derives symbol tokens e) :
    symbol.Begins → ∃ first following, tokens = first :: following ∧
      first.kind ≠ .rBracket ∧ first.kind ≠ .rParen := by
  induction derived with
  | noJoint | joint | noAccess | member | index => exact False.elim
  | plain _ ih | orOperand _ ih | andOperand _ ih | equalityOperand _ ih | relationOperand _ ih
  | sumOperand _ ih | productOperand _ ih | lastItem _ ih => exact fun _ => ih trivial
  | conditional _ _ _ _ _ ih | level _ _ ih | accessed _ _ ih | item _ _ _ ih =>
    intro _
    obtain ⟨first, following, rfl, noClosing⟩ := ih trivial
    exact ⟨first, _, rfl, noClosing⟩
  | operator spelled =>
    intro _
    refine ⟨_, _, rfl, ?_, ?_⟩ <;> intro same <;> rw [same] at spelled <;> cases spelled
  | literal meant => exact fun _ => ⟨_, _, rfl, by cases meant <;> simp⟩
  | root word | call word | group word | emptyList word | list word =>
    exact fun _ => ⟨_, _, rfl, by simp [word]⟩

/-- An operand without operators begins with none. -/
theorem Derives.primary_begins {tokens : List Token} {e : Expr} (derived : Derives .primary tokens e) :
    ∃ first following, tokens = first :: following ∧ unary? first.kind = none := by
  cases derived with
  | literal meant => exact ⟨_, _, rfl, by cases meant <;> rfl⟩
  | root word | call word | group word | emptyList word | list word =>
    exact ⟨_, _, rfl, by rw [word]; rfl⟩

/-- How a derivation is read in front of every rest that cannot go on with it. -/
def ReadsBack (symbol : Symbol) (tokens : List Token) (e : Expr) : Prop :=
  ∀ (rest : List Token) (depth : Nat), symbol.EndsAt rest → symbol.depthFor tokens.length ≤ depth →
    symbol.read depth (tokens ++ rest) = .ok (e, rest)

section Completeness

variable {tokens first second third inside rest : List Token} {token : Token} {e left right base : Expr}

/-- No mark that is not an operator joins operands. -/
theorem not_joinsFrom (closeness : Nat) {kind : TokenKind}
    (mark : kind ∈ [.question, .colon, .comma, .rBracket, .rParen, .eof]) : ¬ JoinsFrom closeness kind := by
  rintro ⟨level, joint, _, spelled⟩
  simp only [List.mem_cons, List.not_mem_nil, or_false] at mark
  rcases mark with rfl | rfl | rfl | rfl | rfl | rfl <;> cases spelled

/-- An expression ends before a closing mark, a comma, a colon and the end of the source. -/
theorem expression_endsAt (mark : token.kind ∈ [.colon, .comma, .rBracket, .rParen, .eof]) :
    Symbol.expression.EndsAt (token :: rest) := by
  rw [Symbol.endsAt_cons]
  simp only [List.mem_cons, List.not_mem_nil, or_false] at mark
  rcases mark with same | same | same | same | same <;> rw [same] <;>
    simp [Symbol.GoesOn, Accesses, not_joinsFrom]

/-- Items end before a closing mark. -/
theorem items_endsAt (mark : token.kind ∈ [.rBracket, .rParen]) : Symbol.items.EndsAt (token :: rest) := by
  rw [Symbol.endsAt_cons]
  simp only [List.mem_cons, List.not_mem_nil, or_false] at mark
  rcases mark with same | same <;> rw [same]
  · simp [Symbol.GoesOn, Accesses, not_joinsFrom]
  · simp [Symbol.GoesOn, Accesses, not_joinsFrom]

/-- A joint accesses nothing. -/
theorem Spells.not_accesses {level : Level} {joint : Joint} {kind : TokenKind}
    (spelled : Spells level joint kind) : ¬ Accesses kind := by
  cases spelled <;> simp [Accesses]

/-- A kind of token spells joints on one level only. -/
theorem Spells.level_eq {level other : Level} {joint another : Joint} {kind : TokenKind}
    (spelled : Spells level joint kind) (again : Spells other another kind) : level = other := by
  cases spelled <;> cases again <;> rfl

/-- An operand ends before a joint of its level. -/
theorem Spells.endsAt {level : Level} {joint : Joint} (spelled : Spells level joint token.kind) :
    (Symbol.operand level).EndsAt (token :: rest) := by
  rw [Symbol.endsAt_cons]
  rintro (accesses | ⟨other, another, closer, again⟩)
  · exact spelled.not_accesses accesses
  · obtain rfl := spelled.level_eq again
    omega

/-- An operand ends before all that goes on with its level. -/
theorem Derives.operand_endsAt {level : Level} (derived : Derives (.joints level left) tokens e)
    (ends : (Symbol.level level).EndsAt rest) : (Symbol.operand level).EndsAt (tokens ++ rest) := by
  cases derived with
  | noJoint =>
    refine ends.mono fun kind goesOn => goesOn.imp id ?_
    rintro ⟨other, joint, closer, spelled⟩
    exact ⟨other, joint, by omega, spelled⟩
  | joint spelled => exact spelled.endsAt

/-- An operand without operators ends before all that accesses it. -/
theorem Derives.primary_endsAt (derived : Derives (.accesses base) tokens e)
    (ends : Symbol.unary.EndsAt rest) : Symbol.primary.EndsAt (tokens ++ rest) := by
  cases derived with
  | noAccess => exact ends.mono fun kind called => .inl called
  | member marked | index marked => simp [Symbol.endsAt_cons, Symbol.GoesOn, marked]

/-- The loosest operands are read back as an expression. -/
theorem ReadsBack.plain (whole : ReadsBack (.level .or) tokens e) : ReadsBack .expression tokens e := by
  rintro rest (_ | depth) ends enough
  · simp [Symbol.depthFor] at enough
  have read : parseLevel depth .or (tokens ++ rest) = .ok (e, rest) :=
    whole rest depth (ends.mono fun kind goesOn => goesOn.imp id .inl)
      (by simp only [Symbol.depthFor, Level.closeness] at enough ⊢; omega)
  simp only [Symbol.read, parseExpr, read]
  split
  case h_1 => exact absurd (.inr (.inr rfl)) (Symbol.endsAt_cons.1 ends)
  case h_2 => rfl

/-- A condition is read back. -/
theorem ReadsBack.conditional {question colon : Token} {condition yes no : Expr}
    (tested : ReadsBack (.level .or) first condition) (asked : question.kind = .question)
    (chosen : ReadsBack .expression second yes) (divided : colon.kind = .colon)
    (other : ReadsBack .expression third no) :
    ReadsBack .expression (first ++ question :: (second ++ colon :: third)) (.conditional condition yes no) := by
  rintro rest (_ | depth) ends enough
  · simp [Symbol.depthFor] at enough
  obtain ⟨_, mark, column, width⟩ := question
  obtain ⟨_, divider, place, span⟩ := colon
  subst asked divided
  simp only [Symbol.depthFor, List.length_append, List.length_cons] at enough
  have readCondition := tested (⟨.question, mark, column, width⟩ :: (second ++ ⟨.colon, divider, place, span⟩ ::
    (third ++ rest))) depth ?_ (by simp only [Symbol.depthFor, Level.closeness]; omega)
  have readYes := chosen (⟨.colon, divider, place, span⟩ :: (third ++ rest)) depth
    (expression_endsAt (by simp)) (by simp only [Symbol.depthFor]; omega)
  have readNo := other rest depth ends (by simp only [Symbol.depthFor]; omega)
  simp only [Symbol.read] at readCondition readYes readNo
  · simp only [Symbol.read, parseExpr, List.append_assoc, List.cons_append, readCondition, readYes, readNo]
  · rw [Symbol.endsAt_cons]
    rintro (accesses | joins)
    · simp [Accesses] at accesses
    · exact not_joinsFrom _ (by simp) joins

/-- A first operand and what follows it are read back as a level. -/
theorem ReadsBack.level {level : Level} (begun : ReadsBack (.operand level) first left)
    (derived : Derives (.joints level left) second e) (continued : ReadsBack (.joints level left) second e) :
    ReadsBack (.level level) (first ++ second) e := by
  rintro rest (_ | depth) ends enough
  · cases level <;> simp [Symbol.depthFor, Level.closeness] at enough
  simp only [Symbol.depthFor, List.length_append] at enough
  have close : level.closeness ≤ 5 := by cases level <;> decide
  have readFirst := begun (second ++ rest) depth (derived.operand_endsAt ends)
    (by simp only [Symbol.depthFor]; omega)
  have readRest := continued rest depth ends (by simp only [Symbol.depthFor]; omega)
  simp only [Symbol.read] at readFirst readRest
  simp only [Symbol.read, parseLevel, List.append_assoc, readFirst, readRest]

/-- A level is read back as an operand of the next looser one. -/
theorem ReadsBack.operand {level closer : Level} (next : level.closer? = some closer)
    (whole : ReadsBack (.level closer) tokens e) : ReadsBack (.operand level) tokens e := by
  rintro rest (_ | depth) ends enough
  · cases level <;> simp [Symbol.depthFor, Level.closeness] at enough
  have step : closer.closeness = level.closeness + 1 := by
    cases level <;> cases next <;> rfl
  have read := whole rest depth (ends.mono fun kind goesOn => by
    rwa [Symbol.GoesOn, step] at goesOn) (by
      have close : level.closeness ≤ 5 := by cases level <;> decide
      simp only [Symbol.depthFor, step] at enough ⊢
      omega)
  simp only [Symbol.read] at read
  simp only [Symbol.read, parseOperand, next, read]

/-- An operand with its unary operators is read back as an operand of the closest level. -/
theorem ReadsBack.factor (whole : ReadsBack .unary tokens e) : ReadsBack (.operand .product) tokens e := by
  rintro rest (_ | depth) ends enough
  · simp [Symbol.depthFor, Level.closeness] at enough
  have read := whole rest depth (ends.mono fun kind => .inl)
    (by simp only [Symbol.depthFor, Level.closeness] at enough ⊢; omega)
  simp only [Symbol.read] at read
  simp only [Symbol.read, parseOperand, Level.closer?, read]

/-- Nothing more is read after a level that ends. -/
theorem readsBack_noJoint (level : Level) (left : Expr) : ReadsBack (.joints level left) [] left := by
  rintro rest (_ | depth) ends enough
  · simp [Symbol.depthFor] at enough
  simp only [Symbol.read, List.nil_append]
  cases rest with
  | nil => rfl
  | cons token following =>
    rw [parseJoints]
    split
    case h_1 => rfl
    case h_2 joint spelled =>
      exact absurd (.inr ⟨level, joint, Nat.le_refl _, joint?_eq_some_iff.1 spelled⟩)
        (Symbol.endsAt_cons.1 ends)

/-- A joint, its right side and what follows are read back. -/
theorem ReadsBack.joint {level : Level} {joint : Joint} {joined : Expr}
    (spelled : Spells level joint token.kind) (followed : ReadsBack (.operand level) first right)
    (made : Joins left joint right joined) (derived : Derives (.joints level joined) second e)
    (continued : ReadsBack (.joints level joined) second e) :
    ReadsBack (.joints level left) (token :: (first ++ second)) e := by
  rintro rest (_ | depth) ends enough
  · simp [Symbol.depthFor] at enough
  simp only [Symbol.depthFor, List.length_cons, List.length_append] at enough
  have readRight := followed (second ++ rest) depth
    (derived.operand_endsAt (ends.mono fun kind => id)) (by simp only [Symbol.depthFor]; omega)
  have readRest := continued rest depth (ends.mono fun kind => id) (by simp only [Symbol.depthFor]; omega)
  simp only [Symbol.read] at readRight readRest
  simp only [Symbol.read, List.cons_append, List.append_assoc, parseJoints, joint?_eq_some_iff.2 spelled,
    readRight, join_eq_ok_iff.2 made, readRest]

/-- An operator before an operand is read back. -/
theorem ReadsBack.operator {operator : UnaryOp} (spelled : SpellsUnary operator token.kind)
    (applied : ReadsBack .unary tokens e) : ReadsBack .unary (token :: tokens) (.unary operator e) := by
  rintro rest (_ | depth) ends enough
  · simp [Symbol.depthFor] at enough
  have read := applied rest depth ends
    (by simp only [Symbol.depthFor, List.length_cons] at enough ⊢; omega)
  simp only [Symbol.read] at read
  simp only [Symbol.read, List.cons_append, parseUnary, unary?_eq_some_iff.2 spelled, read]

/-- An operand and what accesses it are read back. -/
theorem ReadsBack.accessed (derivedBase : Derives .primary first base) (begun : ReadsBack .primary first base)
    (derived : Derives (.accesses base) second e) (continued : ReadsBack (.accesses base) second e) :
    ReadsBack .unary (first ++ second) e := by
  rintro rest (_ | depth) ends enough
  · simp [Symbol.depthFor] at enough
  obtain ⟨token, following, rfl, plain⟩ := derivedBase.primary_begins
  simp only [Symbol.depthFor, List.length_append, List.length_cons] at enough
  have readBase := begun (second ++ rest) depth (derived.primary_endsAt ends)
    (by simp only [Symbol.depthFor, List.length_cons]; omega)
  have readRest := continued rest depth ends (by simp only [Symbol.depthFor]; omega)
  simp only [Symbol.read, List.cons_append] at readBase readRest
  simp only [Symbol.read, List.cons_append, List.append_assoc, parseUnary, plain, readBase, readRest]

/-- Nothing more is read after a base that nothing accesses. -/
theorem readsBack_noAccess (base : Expr) : ReadsBack (.accesses base) [] base := by
  rintro rest (_ | depth) ends enough
  · simp [Symbol.depthFor] at enough
  simp only [Symbol.read, List.nil_append]
  unfold parseAccess
  split
  case h_1 => exact absurd (.inr (.inl rfl)) (Symbol.endsAt_cons.1 ends)
  case h_2 => exact absurd (.inr (.inl rfl)) (Symbol.endsAt_cons.1 ends)
  case h_3 => exact absurd (.inr (.inr rfl)) (Symbol.endsAt_cons.1 ends)
  case h_4 => rfl

/-- A member and what follows it are read back. -/
theorem ReadsBack.member {dot name : Token} (marked : dot.kind = .dot) (named : name.kind = .ident)
    (continued : ReadsBack (.accesses (.member base name.text)) second e) :
    ReadsBack (.accesses base) (dot :: name :: second) e := by
  rintro rest (_ | depth) ends enough
  · simp [Symbol.depthFor] at enough
  obtain ⟨_, mark, column, width⟩ := dot
  obtain ⟨_, text, place, span⟩ := name
  subst marked named
  have read := continued rest depth ends
    (by simp only [Symbol.depthFor, List.length_cons] at enough ⊢; omega)
  simp only [Symbol.read] at read
  simp only [Symbol.read, List.cons_append, parseAccess, read]

/-- An index and what follows it are read back. -/
theorem ReadsBack.index {opening closing : Token} {key : Expr} (opened : opening.kind = .lBracket)
    (found : ReadsBack .expression inside key) (closed : closing.kind = .rBracket)
    (continued : ReadsBack (.accesses (.index base key)) second e) :
    ReadsBack (.accesses base) (opening :: (inside ++ closing :: second)) e := by
  rintro rest (_ | depth) ends enough
  · simp [Symbol.depthFor] at enough
  obtain ⟨_, mark, column, width⟩ := opening
  obtain ⟨_, divider, place, span⟩ := closing
  subst opened closed
  simp only [Symbol.depthFor, List.length_cons, List.length_append] at enough
  have readKey := found (⟨.rBracket, divider, place, span⟩ :: (second ++ rest)) depth
    (expression_endsAt (by simp)) (by simp only [Symbol.depthFor]; omega)
  have readRest := continued rest depth ends (by simp only [Symbol.depthFor]; omega)
  simp only [Symbol.read] at readKey readRest
  simp only [Symbol.read, List.cons_append, List.append_assoc, parseAccess, readKey, readRest]

/-- A literal is read back. -/
theorem readsBack_literal {value : Value} (meant : Denotes token value) :
    ReadsBack .primary [token] (.literal value) := by
  rintro rest (_ | depth) ends enough
  · simp [Symbol.depthFor] at enough
  have found := literal?_eq_some_iff.2 meant
  cases meant <;> simp only [Symbol.read, List.cons_append, List.nil_append, parsePrimary, found]

/-- A root is read back where nothing calls it. -/
theorem readsBack_root {root : Root} (word : token.kind = .ident) (named : token.text = root.name) :
    ReadsBack .primary [token] (.root root) := by
  rintro rest (_ | depth) ends enough
  · simp [Symbol.depthFor] at enough
  obtain ⟨_, text, column, width⟩ := token
  subst word
  have found := root_named?_eq_some_iff.2 named
  simp only [Symbol.read, List.cons_append, List.nil_append]
  unfold parsePrimary
  split
  case h_4 => exact absurd rfl (Symbol.endsAt_cons.1 ends)
  case h_5 => simp only [readRoot, found, Except.map]
  all_goals simp_all

/-- Expressions in parentheses are read back. -/
theorem ReadsBack.group {opening closing : Token} (opened : opening.kind = .lParen)
    (held : ReadsBack .expression inside e) (closed : closing.kind = .rParen) :
    ReadsBack .primary (opening :: (inside ++ [closing])) e := by
  rintro rest (_ | depth) ends enough
  · simp [Symbol.depthFor] at enough
  obtain ⟨_, mark, column, width⟩ := opening
  obtain ⟨_, divider, place, span⟩ := closing
  subst opened closed
  have read := held (⟨.rParen, divider, place, span⟩ :: rest) depth (expression_endsAt (by simp))
    (by simp only [Symbol.depthFor, List.length_cons, List.length_append] at enough ⊢; omega)
  simp only [Symbol.read] at read
  simp only [Symbol.read, List.cons_append, List.append_assoc, List.nil_append, parsePrimary, read]

/-- The empty list is read back. -/
theorem readsBack_emptyList {opening closing : Token} (opened : opening.kind = .lBracket)
    (closed : closing.kind = .rBracket) : ReadsBack .primary [opening, closing] (.list []) := by
  rintro rest (_ | depth) ends enough
  · simp [Symbol.depthFor] at enough
  obtain ⟨_, mark, column, width⟩ := opening
  obtain ⟨_, divider, place, span⟩ := closing
  subst opened closed
  rfl

/-- Items that are read back are read as the list they make. -/
theorem ReadsBack.listed {items : List Expr} (held : ReadsBack .items tokens (.list items))
    (rest : List Token) (depth : Nat) (ends : Symbol.items.EndsAt rest) (enough : 20 * tokens.length + 15 ≤ depth) :
    parseItems depth (tokens ++ rest) = .ok (items, rest) := by
  obtain ⟨found, read, same⟩ := Symbol.read_items_eq_ok_iff.1 (held rest depth ends enough)
  obtain rfl := Expr.list.inj same
  exact read

/-- Items in brackets are read back. -/
theorem ReadsBack.list {opening closing : Token} {items : List Expr} (opened : opening.kind = .lBracket)
    (derived : Derives .items inside (.list items)) (held : ReadsBack .items inside (.list items))
    (closed : closing.kind = .rBracket) :
    ReadsBack .primary (opening :: (inside ++ [closing])) (.list items) := by
  rintro rest (_ | depth) ends enough
  · simp [Symbol.depthFor] at enough
  obtain ⟨_, mark, column, width⟩ := opening
  obtain ⟨_, divider, place, span⟩ := closing
  subst opened closed
  have read := held.listed (⟨.rBracket, divider, place, span⟩ :: rest) depth (items_endsAt (by simp))
    (by simp only [Symbol.depthFor, List.length_cons, List.length_append] at enough; omega)
  obtain ⟨token, following, rfl, noBracket, _⟩ := derived.begins trivial
  simp only [Symbol.read, List.cons_append, List.append_assoc, List.nil_append] at read ⊢
  unfold parsePrimary
  split
  case h_2 same => exact absurd (congrArg Token.kind (List.cons.inj same).1) noBracket
  case h_3 => rw [read]
  all_goals simp_all

/-- A call is read back. -/
theorem ReadsBack.call {name opening closing : Token} {function : Builtin} {argument : Expr}
    (word : name.kind = .ident) (named : name.text = function.name) (opened : opening.kind = .lParen)
    (derived : Derives .expression inside argument) (given : ReadsBack .items inside (.list [argument]))
    (closed : closing.kind = .rParen) :
    ReadsBack .primary (name :: opening :: (inside ++ [closing])) (.call function argument) := by
  rintro rest (_ | depth) ends enough
  · simp [Symbol.depthFor] at enough
  obtain ⟨_, text, place, span⟩ := name
  obtain ⟨_, mark, column, width⟩ := opening
  obtain ⟨_, divider, farther, extent⟩ := closing
  subst word opened closed
  have read := given.listed (⟨.rParen, divider, farther, extent⟩ :: rest) depth
    (items_endsAt (by simp))
    (by simp only [Symbol.depthFor, List.length_cons, List.length_append] at enough; omega)
  obtain ⟨token, following, rfl, _, noParen⟩ := derived.begins trivial
  simp only [Symbol.read, List.cons_append, List.append_assoc, List.nil_append] at read ⊢
  simp only [parsePrimary, builtin_named?_eq_some_iff.2 named]
  split
  case h_1 same => exact absurd (congrArg Token.kind (List.cons.inj same).1) noParen
  case h_2 => simp only [read, makeCall, Except.map]

/-- The last item is read back. -/
theorem ReadsBack.lastItem (found : ReadsBack .expression tokens e) : ReadsBack .items tokens (.list [e]) := by
  rintro rest (_ | depth) ends enough
  · simp [Symbol.depthFor] at enough
  have read := found rest depth (ends.mono fun kind goesOn => goesOn.imp id fun joins => joins.imp id .inl)
    (by simp only [Symbol.depthFor] at enough ⊢; omega)
  simp only [Symbol.read] at read
  simp only [Symbol.read]
  unfold parseItems
  rw [read]
  split
  case h_1 same => contradiction
  case h_2 same =>
    obtain ⟨rfl, rfl⟩ := Prod.mk.inj (Except.ok.inj same)
    exact absurd (.inr (.inr (.inr rfl))) (Symbol.endsAt_cons.1 ends)
  case h_3 same =>
    obtain ⟨rfl, rfl⟩ := Prod.mk.inj (Except.ok.inj same)
    rfl

/-- An item before others is read back. -/
theorem ReadsBack.item {comma : Token} {item : Expr} {items : List Expr}
    (found : ReadsBack .expression first item) (divided : comma.kind = .comma)
    (continued : ReadsBack .items second (.list items)) :
    ReadsBack .items (first ++ comma :: second) (.list (item :: items)) := by
  rintro rest (_ | depth) ends enough
  · simp [Symbol.depthFor] at enough
  obtain ⟨_, divider, place, span⟩ := comma
  subst divided
  simp only [Symbol.depthFor, List.length_cons, List.length_append] at enough
  have readItem := found (⟨.comma, divider, place, span⟩ :: (second ++ rest)) depth
    (expression_endsAt (by simp)) (by simp only [Symbol.depthFor]; omega)
  have readRest := continued.listed rest depth ends (by omega)
  simp only [Symbol.read] at readItem
  simp only [Symbol.read, List.append_assoc, List.cons_append, parseItems, readItem, readRest, Except.map]

/-- Whatever is derived is read back. -/
theorem Derives.readsBack {symbol : Symbol} (derived : Derives symbol tokens e) :
    ReadsBack symbol tokens e := by
  induction derived with
  | plain _ whole => exact whole.plain
  | conditional _ asked _ divided _ tested chosen other => exact tested.conditional asked chosen divided other
  | level _ derived begun continued => exact begun.level derived continued
  | orOperand _ whole | andOperand _ whole | equalityOperand _ whole | relationOperand _ whole
  | sumOperand _ whole => exact whole.operand rfl
  | productOperand _ whole => exact whole.factor
  | noJoint level left => exact readsBack_noJoint level left
  | joint spelled _ made derived followed continued => exact .joint spelled followed made derived continued
  | operator spelled _ applied => exact .operator spelled applied
  | accessed derivedBase derived begun continued => exact .accessed derivedBase begun derived continued
  | noAccess base => exact readsBack_noAccess base
  | member marked named _ continued => exact .member marked named continued
  | index opened _ closed _ found continued => exact .index opened found closed continued
  | literal meant => exact readsBack_literal meant
  | root word named => exact readsBack_root word named
  | call word named opened derived closed given =>
    exact .call word named opened derived given.lastItem closed
  | group opened _ closed held => exact .group opened held closed
  | emptyList opened closed => exact readsBack_emptyList opened closed
  | list opened derived closed held =>
    obtain ⟨items, rfl⟩ := derived.items_eq_list
    exact .list opened derived held closed
  | lastItem _ found => exact found.lastItem
  | item _ divided _ found continued => exact .item found divided continued

end Completeness

/-! ## The whole source -/

/-- A symbol derives tokens with one tree only. -/
theorem Derives.unique {symbol : Symbol} {tokens : List Token} {e other : Expr}
    (derived : Derives symbol tokens e) (again : Derives symbol tokens other) : other = e := by
  have ends : symbol.EndsAt [] := nofun
  have read := derived.readsBack [] _ ends (Nat.le_refl _)
  rw [again.readsBack [] _ ends (Nat.le_refl _)] at read
  exact (Prod.mk.inj (Except.ok.inj read)).1

/-- Two lists that go up to their first token of a kind that the source ends with are one list. -/
theorem front_eq_body {body front tail : List Token} {last mark : Token}
    (same : body ++ [last] = front ++ mark :: tail) (ended : mark.kind = .eof)
    (free : ∀ token ∈ body, token.kind ≠ .eof) : front = body := by
  obtain ⟨extra, rfl, rest⟩ | ⟨extra, rfl, rest⟩ := List.append_eq_append_iff.1 same
  · cases extra with
    | nil => simp
    | cons token extra => simp at rest
  · cases extra with
    | nil => simp
    | cons token extra =>
      obtain ⟨rfl, _⟩ := List.cons.inj rest
      exact absurd ended (free mark (by simp))

/-- What is read from the tokens up to the end of the source is what the grammar derives. -/
theorem parseTokens_eq_ok_iff {body : List Token} {last : Token} {e : Expr} (ended : last.kind = .eof)
    (free : ∀ token ∈ body, token.kind ≠ .eof) :
    parseTokens (body ++ [last]) = .ok e ↔ Derives .expression body e := by
  constructor
  · intro read
    unfold parseTokens at read
    split at read
    case h_1 => contradiction
    case h_2 =>
      split at read
      case h_1 => contradiction
      case h_2 found mark column width tail parsed =>
        obtain rfl := Except.ok.inj read
        obtain ⟨front, same, derived⟩ := soundWithin (depthFor (body ++ [last])) .expression _ _ _ parsed
        rwa [front_eq_body same rfl free] at derived
      case h_3 => contradiction
  · intro derived
    obtain ⟨first, following, rfl, _⟩ := derived.begins trivial
    have begun : first.kind ≠ .eof := free first (by simp)
    have ends : Symbol.expression.EndsAt [last] := expression_endsAt (by simp [ended])
    have read : parseExpr (depthFor (first :: following ++ [last])) (first :: following ++ [last]) =
        .ok (e, [last]) :=
      derived.readsBack [last] (depthFor (first :: following ++ [last])) ends
        (by simp only [Symbol.depthFor, depthFor, List.length_append, List.length_singleton]; omega)
    obtain ⟨_, text, column, width⟩ := last
    subst ended
    unfold parseTokens
    split
    case h_1 same => exact absurd (congrArg Token.kind (List.cons.inj same).1) begun
    case h_2 => rw [read]

/-- A source is read as the tree that the grammar derives from its tokens. -/
theorem parse_of_derives {source : String} {body : List Token} {last : Token} {e : Expr}
    (read : tokenize source = .ok (body ++ [last])) (derived : Derives .expression body e) : parse source = .ok e := by
  obtain ⟨front, mark, same, ended, free⟩ := tokensFrom_shape read
  rw [parse, read]
  obtain ⟨rfl, _⟩ := List.append_inj' same rfl
  rw [same]
  exact (parseTokens_eq_ok_iff ended free).mpr derived

/-- A source is read as an expression exactly if the grammar derives all its tokens before the end, and the
expression is the one tree of their derivation. -/
theorem parse_eq_ok_iff (source : String) (e : Expr) :
    parse source = .ok e ↔
      ∃ body last, tokenize source = .ok (body ++ [last]) ∧ last.kind = .eof ∧
        (∀ token ∈ body, token.kind ≠ .eof) ∧ Derives .expression body e ∧
        ∀ other, Derives .expression body other → other = e := by
  unfold parse
  cases read : tokenize source with
  | error fault => simp
  | ok tokens =>
    obtain ⟨body, last, rfl, ended, free⟩ := tokensFrom_shape read
    simp only [parseTokens_eq_ok_iff ended free, Except.ok.injEq]
    constructor
    · intro derived
      exact ⟨body, last, rfl, ended, free, derived, fun other again => derived.unique again⟩
    · rintro ⟨again, mark, same, _, _, derived, _⟩
      obtain ⟨rfl, _⟩ := List.append_inj' same rfl
      exact derived

end MessageRouting.Expr
