import MessageRouting.Proofs.Expr.Words

/-!
# Expressions that are written and read

Every expression without floating-point literals that the parser gives has a written form, and each of its written
forms is read as that expression. What the parser gives keeps names that are read back, whole numbers that are not
negative and patterns that are those of their texts; on such expressions, each form of writing is a form of the
grammar, tier by tier.
-/

namespace MessageRouting.Expr

/-! ## What the parser gives -/

/-- An expression has only parts that can be read. -/
inductive Readable : Expr → Prop
  | null : Readable (.literal .null)
  | bool (b : Bool) : Readable (.literal (.bool b))
  | int {i : Int64} (positive : 0 ≤ i.toInt) : Readable (.literal (.int i))
  | float (x : Float) : Readable (.literal (.float x))
  | string (text : String) : Readable (.literal (.string text))
  | root (root : Root) : Readable (.root root)
  | list {items : List Expr} (each : ∀ item ∈ items, Readable item) : Readable (.list items)
  | member {base : Expr} {name : String} (held : Readable base) (named : ReadsAs name ⟨.ident, name⟩) :
    Readable (.member base name)
  | index {base key : Expr} (held : Readable base) (found : Readable key) : Readable (.index base key)
  | call {argument : Expr} (function : Builtin) (given : Readable argument) : Readable (.call function argument)
  | operator {operand : Expr} (operator : UnaryOp) (applied : Readable operand) : Readable (.unary operator operand)
  | joint {joint : Joint} {e left right : Expr} (made : Joins left joint right e) (first : Readable left)
    (second : Readable right) : Readable e
  | conditional {condition yes no : Expr} (tested : Readable condition) (chosen : Readable yes)
    (other : Readable no) : Readable (.conditional condition yes no)

/-- A literal of a source is readable. -/
theorem FromSource.readable {token : Token} {value : Value} (given : FromSource token) (meant : Denotes token value) :
    Readable (.literal value) := by
  cases meant with
  | int i => exact .int (given.nonneg rfl)
  | float x => exact .float x
  | string text => exact .string text
  | true => exact .bool true
  | false => exact .bool false
  | null => exact .null

/-- What already stands left of the tokens of a symbol is readable. -/
def Symbol.Resumes : Symbol → Prop
  | .joints _ left => Readable left
  | .accesses base => Readable base
  | _ => True

/-- What is derived from the tokens of a source is readable. -/
theorem Derives.readable {symbol : Symbol} {tokens : List Token} {e : Expr} (derived : Derives symbol tokens e)
    (given : ∀ token ∈ tokens, FromSource token) (resumes : symbol.Resumes) : Readable e := by
  induction derived with
  | plain _ whole | orOperand _ whole | andOperand _ whole | equalityOperand _ whole | relationOperand _ whole
  | sumOperand _ whole | productOperand _ whole => exact whole given trivial
  | conditional _ _ _ _ _ tested chosen other =>
    simp only [List.forall_mem_append, List.forall_mem_cons] at given
    exact .conditional (tested given.1 trivial) (chosen given.2.2.1 trivial) (other given.2.2.2.2 trivial)
  | level _ _ begun continued | accessed _ _ begun continued =>
    obtain ⟨first, rest⟩ := List.forall_mem_append.mp given
    exact continued rest (begun first trivial)
  | noJoint | noAccess => exact resumes
  | joint _ _ made _ followed continued =>
    simp only [List.forall_mem_append, List.forall_mem_cons] at given
    exact continued given.2.2 (.joint made resumes (followed given.2.1 trivial))
  | operator _ _ applied => exact .operator _ (applied (List.forall_mem_cons.mp given).2 trivial)
  | member _ named _ continued =>
    simp only [List.forall_mem_cons] at given
    exact continued given.2.2 (.member resumes (given.2.1.name named))
  | index _ _ _ _ found continued =>
    simp only [List.forall_mem_append, List.forall_mem_cons] at given
    exact continued given.2.2.2 (.index resumes (found given.2.1 trivial))
  | literal meant => exact (List.forall_mem_singleton.mp given).readable meant
  | root => exact .root _
  | call _ _ _ _ _ inside =>
    simp only [List.forall_mem_append, List.forall_mem_cons] at given
    exact .call _ (inside given.2.2.1 trivial)
  | group _ _ _ held | list _ _ _ held =>
    simp only [List.forall_mem_append, List.forall_mem_cons] at given
    exact held given.2.1 trivial
  | emptyList => exact .list nofun
  | lastItem _ found => exact .list (List.forall_mem_singleton.mpr (found given trivial))
  | item _ _ _ found continued =>
    simp only [List.forall_mem_append, List.forall_mem_cons] at given
    refine .list (List.forall_mem_cons.mpr ⟨found given.1 trivial, ?_⟩)
    cases continued given.2.2 trivial with
    | list each => exact each
    | joint made => cases made

/-- What the parser gives is readable. -/
theorem readable_of_parse {source : String} {e : Expr} (read : parse source = .ok e) : Readable e := by
  unfold parse at read
  cases found : tokenize source with
  | error fault => simp [found] at read
  | ok tokens =>
    obtain ⟨body, last, rfl, ended, free⟩ := tokensFrom_shape found
    simp only [found, parseTokens_eq_ok_iff ended free] at read
    exact read.readable (fun token listed =>
      fromSource_of_tokensFrom found token (List.mem_append_left _ listed) (free token listed)) trivial

/-! ## Joined trees -/

/-- The two sides of a joined tree are found again. -/
theorem Joins.sides {left right e : Expr} {joint : Joint} (made : Joins left joint right e) :
    e.sides? = some (joint, left, right) := by
  cases made with
  | fixedPattern source pattern valid =>
    obtain ⟨node, _, rfl⟩ := Option.map_eq_some_iff.mp valid
    rfl
  | _ => rfl

/-- A readable tree with two sides was joined from them. -/
theorem Readable.sides {e left right : Expr} {joint : Joint} (readable : Readable e)
    (joined : e.sides? = some (joint, left, right)) : Joins left joint right e ∧ Readable left ∧ Readable right := by
  cases readable with
  | joint made first second =>
    obtain ⟨rfl, rfl, rfl⟩ : _ = joint ∧ _ = left ∧ _ = right := by
      simpa only [Option.some.injEq, Prod.mk.injEq] using made.sides.symm.trans joined
    exact ⟨made, first, second⟩
  | _ => cases joined

/-- A tree with two sides has the tier of its joint. -/
theorem tier_of_sides {e left right : Expr} {joint : Joint} (joined : e.sides? = some (joint, left, right)) :
    e.tier = .level joint.level := by
  unfold sides? at joined
  split at joined <;> cases joined <;> rfl

/-! ## Tiers of the grammar -/

/-- Tokens of an expression that holds together as a tier does. -/
def Tier.Derives : Tier → List Token → Expr → Prop
  | .conditional, tokens, e => Expr.Derives .expression tokens e
  | .level inner, tokens, e => Expr.Derives (.level inner) tokens e
  | .unary, tokens, e => Expr.Derives .unary tokens e
  | .access, tokens, e =>
    ∃ first rest base, tokens = first ++ rest ∧ Expr.Derives .primary first base ∧ Expr.Derives (.accesses base) rest e

/-- The next tighter tier. -/
def Tier.closer? : Tier → Option Tier
  | .conditional => some (.level .or)
  | .level inner => some inner.operandTier
  | .unary => some .access
  | .access => none

/-- The next tighter tier has the next rank. -/
theorem Tier.rank_closer {tier closer : Tier} (next : tier.closer? = some closer) : closer.rank = tier.rank + 1 := by
  rcases tier with _ | (_ | _ | _ | _ | _ | _) | _ | _ <;> cases next <;> rfl

/-- No tier is tighter than that of accesses. -/
theorem Tier.rank_le (tier : Tier) : tier.rank ≤ 8 := by
  rcases tier with _ | (_ | _ | _ | _ | _ | _) | _ | _ <;> decide

/-- Tiers of one rank are one. -/
theorem Tier.eq_of_rank {tier other : Tier} (same : tier.rank = other.rank) : tier = other := by
  rcases tier with _ | (_ | _ | _ | _ | _ | _) | _ | _ <;> rcases other with _ | (_ | _ | _ | _ | _ | _) | _ | _ <;>
    first
    | rfl
    | contradiction

/-- What holds together as the operands of a level do is an operand. -/
theorem Tier.Derives.operand {level : Level} {tokens : List Token} {e : Expr}
    (derived : level.operandTier.Derives tokens e) : Expr.Derives (.operand level) tokens e := by
  cases level with
  | or => exact .orOperand derived
  | and => exact .andOperand derived
  | equality => exact .equalityOperand derived
  | relation => exact .relationOperand derived
  | sum => exact .sumOperand derived
  | product => exact .productOperand derived

/-- What holds together as a tier does also holds together as the next looser one. -/
theorem Tier.Derives.looser {tier closer : Tier} {tokens : List Token} {e : Expr} (next : tier.closer? = some closer)
    (derived : closer.Derives tokens e) : tier.Derives tokens e := by
  cases tier with
  | conditional =>
    cases next
    exact .plain derived
  | level inner =>
    cases next
    have alone := Expr.Derives.level derived.operand (.noJoint inner e)
    rwa [List.append_nil] at alone
  | unary =>
    cases next
    obtain ⟨first, rest, base, rfl, begun, continued⟩ := derived
    exact .accessed begun continued
  | access => cases next

/-- What holds together as a tier does also holds together as every looser one. -/
theorem Tier.Derives.loosen {tier demand : Tier} {tokens : List Token} {e : Expr} (derived : tier.Derives tokens e)
    (tight : demand.rank ≤ tier.rank) : demand.Derives tokens e := by
  obtain ⟨distance, apart⟩ := Nat.exists_eq_add_of_le tight
  induction distance generalizing demand with
  | zero => rwa [← Tier.eq_of_rank apart]
  | succ distance later =>
    cases next : demand.closer? with
    | none =>
      obtain rfl : demand = .access := by cases demand <;> first | rfl | contradiction
      have bound := tier.rank_le
      rw [apart] at bound
      exact absurd bound (Nat.not_le_of_lt (by simp only [Tier.rank]; omega))
    | some closer =>
      have rank := Tier.rank_closer next
      exact (later (by omega) (by omega)).looser next

/-- What holds together as some tier does is an expression. -/
theorem Tier.Derives.expression {tier : Tier} {tokens : List Token} {e : Expr} (derived : tier.Derives tokens e) :
    Expr.Derives .expression tokens e :=
  have whole : Tier.conditional.Derives tokens e := derived.loosen (Nat.zero_le _)
  whole

/-! ## What goes on -/

/-- The symbol that goes on after a symbol that carries what stands left, once that is an expression. -/
def Symbol.after (e : Expr) : Symbol → Option Symbol
  | .joints inner _ => some (.joints inner e)
  | .accesses _ => some (.accesses e)
  | _ => none

/-- Joints go on after joints, and accesses after accesses. -/
theorem Derives.chain {symbol following : Symbol} {tokens rest : List Token} {middle e : Expr}
    (derived : Derives symbol tokens middle) (next : symbol.after middle = some following)
    (continued : Derives following rest e) : Derives symbol (tokens ++ rest) e := by
  induction derived with
  | noJoint | noAccess =>
    cases next
    exact continued
  | joint spelled followed made _ _ more =>
    rw [List.cons_append, List.append_assoc]
    exact .joint spelled followed made (more next)
  | member marked named _ more => exact .member marked named (more next)
  | index opened found closed _ _ more =>
    rw [List.cons_append, List.append_assoc, List.cons_append]
    exact .index opened found closed (more next)
  | _ => cases next

/-- An operand is joined to what a level already holds. -/
theorem Derives.joined {level : Level} {joint : Joint} {before after : List Token} {token : Token}
    {left right e : Expr} (first : Derives (.level level) before left) (spelled : Spells level joint token.kind)
    (second : Derives (.operand level) after right) (made : Joins left joint right e) :
    Derives (.level level) (before ++ token :: after) e := by
  cases first with
  | @level _ opening more _ _ begun continued =>
    have last : Derives (.joints level left) (token :: (after ++ [])) e :=
      .joint spelled second made (.noJoint level e)
    rw [List.append_nil] at last
    rw [List.append_assoc]
    exact .level begun (continued.chain rfl last)

/-- Accesses of a base go on. -/
theorem Tier.Derives.accessed {tokens rest : List Token} {base e : Expr} (held : Tier.access.Derives tokens base)
    (continued : Expr.Derives (.accesses base) rest e) : Tier.access.Derives (tokens ++ rest) e := by
  obtain ⟨first, more, inner, rfl, begun, accessed⟩ := held
  exact ⟨first, more ++ rest, inner, List.append_assoc _ _ _, begun, accessed.chain rfl continued⟩

/-- An operand without operators can be accessed. -/
theorem Derives.access {tokens : List Token} {e : Expr} (derived : Derives .primary tokens e) :
    Tier.access.Derives tokens e :=
  ⟨tokens, [], e, (List.append_nil _).symm, derived, .noAccess e⟩

/-! ## Words that are read -/

/-- Words are read as tokens of some kind. -/
def WordsRead (words : List String) (Meant : List Token → Prop) : Prop :=
  ∃ lexemes, List.Forall₂ ReadsAs words lexemes ∧ ∀ tokens, tokens.map Token.lexeme = lexemes → Meant tokens

/-- No words are read as no tokens. -/
theorem WordsRead.nil {Meant : List Token → Prop} (meant : Meant []) : WordsRead [] Meant :=
  ⟨[], .nil, fun _ same => (List.map_eq_nil_iff.mp same) ▸ meant⟩

/-- A word is read before others. -/
theorem WordsRead.cons {word : String} {lexeme : Lexeme} {words : List String} {Meant Whole : List Token → Prop}
    (reads : ReadsAs word lexeme) (more : WordsRead words Meant)
    (made : ∀ token tokens, token.lexeme = lexeme → Meant tokens → Whole (token :: tokens)) :
    WordsRead (word :: words) Whole := by
  obtain ⟨lexemes, read, meant⟩ := more
  refine ⟨lexeme :: lexemes, .cons reads read, fun tokens same => ?_⟩
  obtain ⟨token, rest, rfl, first, later⟩ := List.map_eq_cons_iff.mp same
  exact made token rest first (meant rest later)

/-- Words are read after others. -/
theorem WordsRead.append {before after : List String} {First Second Whole : List Token → Prop}
    (first : WordsRead before First) (second : WordsRead after Second)
    (made : ∀ tokens rest, First tokens → Second rest → Whole (tokens ++ rest)) :
    WordsRead (before ++ after) Whole := by
  obtain ⟨lexemes, read, meant⟩ := first
  obtain ⟨others, readAfter, meantAfter⟩ := second
  refine ⟨lexemes ++ others, List.rel_append read readAfter, fun tokens same => ?_⟩
  obtain ⟨opening, rest, rfl, here, there⟩ := List.map_eq_append_iff.mp same
  exact made opening rest (meant opening here) (meantAfter rest there)

/-- One word is read as one token. -/
theorem ReadsAs.single {word : String} {lexeme : Lexeme} (reads : ReadsAs word lexeme) {Meant : List Token → Prop}
    (made : ∀ token, token.lexeme = lexeme → Meant [token]) : WordsRead [word] Meant :=
  .cons reads (.nil rfl) fun token tokens same (none : [] = tokens) => none ▸ made token same

/-- What words are read as may be said more loosely. -/
theorem WordsRead.mono {words : List String} {Meant Whole : List Token → Prop} (read : WordsRead words Meant)
    (made : ∀ tokens, Meant tokens → Whole tokens) : WordsRead words Whole := by
  obtain ⟨lexemes, reads, meant⟩ := read
  exact ⟨lexemes, reads, fun tokens same => made tokens (meant tokens same)⟩

/-- A mark or keyword is read before others. -/
theorem WordsRead.mark {word : String} {kind : TokenKind} {words : List String} {Meant Whole : List Token → Prop}
    (reads : ReadsAs word ⟨kind, word⟩) (more : WordsRead words Meant)
    (made : ∀ token tokens, token.kind = kind → Meant tokens → Whole (token :: tokens)) :
    WordsRead (word :: words) Whole :=
  .cons reads more fun token tokens same => made token tokens (congrArg Lexeme.kind same)

/-- A mark or keyword is read between others. -/
theorem WordsRead.between {word : String} {kind : TokenKind} {before after : List String}
    {First Second Whole : List Token → Prop} (first : WordsRead before First) (divides : ReadsAs word ⟨kind, word⟩)
    (second : WordsRead after Second)
    (made : ∀ left token right, First left → token.kind = kind → Second right → Whole (left ++ token :: right)) :
    WordsRead (before ++ word :: after) Whole := by
  have divided : WordsRead (word :: after) fun tokens =>
      ∃ token right, tokens = token :: right ∧ token.kind = kind ∧ Second right :=
    .mark divides second fun token right known meant => ⟨token, right, rfl, known, meant⟩
  refine first.append divided ?_
  rintro left _ meant ⟨token, right, rfl, known, later⟩
  exact made left token right meant known later

/-- Words between a mark that opens and one that closes are read. -/
theorem WordsRead.enclosed {opening closing : String} {first last : TokenKind} {inside : List String}
    {Meant Whole : List Token → Prop} (opens : ReadsAs opening ⟨first, opening⟩) (held : WordsRead inside Meant)
    (closes : ReadsAs closing ⟨last, closing⟩)
    (made : ∀ left tokens right, left.kind = first → Meant tokens → right.kind = last →
      Whole (left :: (tokens ++ [right]))) : WordsRead (opening :: (inside ++ [closing])) Whole := by
  have ended : WordsRead (inside ++ [closing]) fun tokens =>
      ∃ body right, tokens = body ++ [right] ∧ Meant body ∧ right.kind = last := by
    refine held.between closes (.nil rfl) fun body right rest meant closed (none : [] = rest) => ?_
    exact ⟨body, right, none ▸ rfl, meant, closed⟩
  refine .mark opens ended ?_
  rintro left _ opened ⟨tokens, right, rfl, meant, closed⟩
  exact made left tokens right opened meant closed

/-- Each word of a joint spells it. -/
theorem Joint.spelled {joint : Joint} {word : String} (listed : word ∈ joint.words) :
    ∃ kind, Spells joint.level joint kind ∧ ReadsAs word ⟨kind, word⟩ := by
  cases joint with
  | or =>
    simp only [Joint.words, List.mem_cons, List.not_mem_nil, or_false] at listed
    rcases listed with rfl | rfl
    · exact ⟨_, .orMark, readsAs_pair rfl⟩
    · exact ⟨_, .orWord, readsAs_keyword rfl⟩
  | and =>
    simp only [Joint.words, List.mem_cons, List.not_mem_nil, or_false] at listed
    rcases listed with rfl | rfl
    · exact ⟨_, .andMark, readsAs_pair rfl⟩
    · exact ⟨_, .andWord, readsAs_keyword rfl⟩
  | «matches» =>
    obtain rfl := List.mem_singleton.mp listed
    exact ⟨_, .matching, readsAs_keyword rfl⟩
  | binary operator =>
    obtain rfl := List.mem_singleton.mp listed
    cases operator with
    | add => exact ⟨_, .plus, readsAs_single rfl⟩
    | sub => exact ⟨_, .minus, readsAs_single rfl⟩
    | mul => exact ⟨_, .times, readsAs_single rfl⟩
    | div => exact ⟨_, .dividedBy, readsAs_single rfl⟩
    | rem => exact ⟨_, .remainder, readsAs_single rfl⟩
    | eq => exact ⟨_, .equal, readsAs_pair rfl⟩
    | notEq => exact ⟨_, .notEqual, readsAs_pair rfl⟩
    | lt => exact ⟨_, .less, readsAs_single rfl⟩
    | le => exact ⟨_, .atMost, readsAs_pair rfl⟩
    | gt => exact ⟨_, .greater, readsAs_single rfl⟩
    | ge => exact ⟨_, .atLeast, readsAs_pair rfl⟩
    | contains => exact ⟨_, .contains, readsAs_keyword rfl⟩
    | startsWith => exact ⟨_, .startsWith, readsAs_keyword rfl⟩
    | endsWith => exact ⟨_, .endsWith, readsAs_keyword rfl⟩
    | «in» => exact ⟨_, .among, readsAs_keyword rfl⟩

/-- Each word of an operator before an operand spells it. -/
theorem UnaryOp.spelled {operator : UnaryOp} {word : String} (listed : word ∈ operator.words) :
    ∃ kind, SpellsUnary operator kind ∧ ReadsAs word ⟨kind, word⟩ := by
  cases operator with
  | not =>
    simp only [UnaryOp.words, List.mem_cons, List.not_mem_nil, or_false] at listed
    rcases listed with rfl | rfl
    · exact ⟨_, .notMark, readsAs_single rfl⟩
    · exact ⟨_, .notWord, readsAs_keyword rfl⟩
  | neg =>
    obtain rfl := List.mem_singleton.mp listed
    exact ⟨_, .minus, readsAs_single rfl⟩

/-! ## Each form of writing -/

/-- The tier of an expression at a place. -/
def Place.tier (e : Expr) : Place → Tier
  | .alone => e.tier
  | .under demand => demand

/-- A literal is read. -/
theorem ReadsAs.literal {word : String} {lexeme : Lexeme} {value : Value} (reads : ReadsAs word lexeme)
    (meant : ∀ column width, Denotes ⟨lexeme.kind, lexeme.text, column, width⟩ value) :
    WordsRead [word] (Tier.access.Derives · (.literal value)) := by
  refine reads.single fun token same => ?_
  subst same
  exact (Expr.Derives.literal (meant token.column token.width)).access

/-- An expression in parentheses is read. -/
theorem WordsRead.group {tier : Tier} {words : List String} {e : Expr} (read : WordsRead words (tier.Derives · e)) :
    WordsRead ("(" :: (words ++ [")"])) (Tier.access.Derives · e) :=
  .enclosed (readsAs_single rfl) read (readsAs_single rfl) fun _ _ _ opened derived closed =>
    (Expr.Derives.group opened derived.expression closed).access

/-- Items with commas between them are read. -/
theorem wordsRead_items {items : List Expr} {parts : List (List String)} (same : items.length = parts.length)
    (some : items ≠ []) (each : ∀ pair ∈ items.zip parts, WordsRead pair.2 (Derives .expression · pair.1)) :
    WordsRead ([","].intercalate parts) (Derives .items · (.list items)) := by
  induction items generalizing parts with
  | nil => exact absurd rfl some
  | cons item items later =>
    cases parts with
    | nil => contradiction
    | cons part parts =>
      obtain ⟨first, more⟩ := List.forall_mem_cons.mp each
      cases parts with
      | nil =>
        obtain rfl : items = [] := List.length_eq_zero_iff.mp (Nat.succ.inj same)
        simp only [List.intercalate_singleton]
        exact first.mono fun tokens derived => .lastItem derived
      | cons next parts =>
        have rest := later (Nat.succ.inj same) (List.ne_nil_of_length_eq_add_one (Nat.succ.inj same)) more
        rw [List.intercalate_cons_cons, List.append_assoc, List.singleton_append]
        exact first.between (readsAs_single (c := ',') rfl) rest fun _ _ _ derived divided continued =>
          .item derived divided continued

/-- A list of items is read. -/
theorem wordsRead_list {items : List Expr} {parts : List (List String)} (same : items.length = parts.length)
    (each : ∀ pair ∈ items.zip parts, WordsRead pair.2 (Derives .expression · pair.1)) :
    WordsRead ("[" :: ([","].intercalate parts ++ ["]"])) (Tier.access.Derives · (.list items)) := by
  have opens : ReadsAs "[" ⟨.lBracket, "["⟩ := readsAs_single rfl
  have closes : ReadsAs "]" ⟨.rBracket, "]"⟩ := readsAs_single rfl
  by_cases none : items = []
  · subst none
    obtain rfl : parts = [] := List.length_eq_zero_iff.mp same.symm
    refine .enclosed opens (.nil rfl) closes fun left tokens right opened (none : [] = tokens) closed => ?_
    exact none ▸ (Derives.emptyList opened closed).access
  · exact .enclosed opens (wordsRead_items same none each) closes fun _ _ _ opened derived closed =>
      (Derives.list opened derived closed).access

/-- A member is read. -/
theorem wordsRead_member {words : List String} {base : Expr} {name : String}
    (held : WordsRead words (Tier.access.Derives · base)) (named : ReadsAs name ⟨.ident, name⟩) :
    WordsRead (words ++ [".", name]) (Tier.access.Derives · (.member base name)) := by
  have last : WordsRead [name] fun tokens => ∃ token, tokens = [token] ∧ token.lexeme = ⟨.ident, name⟩ :=
    named.single fun token same => ⟨token, rfl, same⟩
  refine held.between (readsAs_single (c := '.') rfl) last ?_
  rintro tokens dot _ derived marked ⟨token, rfl, same⟩
  have word : token.kind = .ident := congrArg Lexeme.kind same
  have text : token.text = name := congrArg Lexeme.text same
  exact derived.accessed (.member marked word (text ▸ .noAccess _))

/-- An item by its index is read. -/
theorem wordsRead_index {words inside : List String} {base key : Expr}
    (held : WordsRead words (Tier.access.Derives · base)) (found : WordsRead inside (Derives .expression · key)) :
    WordsRead (words ++ "[" :: (inside ++ ["]"])) (Tier.access.Derives · (.index base key)) := by
  have bracketed : WordsRead ("[" :: (inside ++ ["]"])) (Derives (.accesses base) · (.index base key)) :=
    .enclosed (readsAs_single (c := '[') rfl) found (readsAs_single (c := ']') rfl)
      fun _ _ _ opened derived closed => .index opened derived closed (.noAccess _)
  exact held.append bracketed fun _ _ derived continued => derived.accessed continued

/-- A call is read. -/
theorem wordsRead_call {inside : List String} {argument : Expr} (function : Builtin)
    (given : WordsRead inside (Derives .expression · argument)) :
    WordsRead (function.name :: "(" :: (inside ++ [")"])) (Tier.access.Derives · (.call function argument)) := by
  have arguments : WordsRead ("(" :: (inside ++ [")"])) fun tokens => ∀ name : Token,
      name.lexeme = ⟨.ident, function.name⟩ → Derives .primary (name :: tokens) (.call function argument) :=
    .enclosed (readsAs_single (c := '(') rfl) given (readsAs_single (c := ')') rfl)
      fun _ _ _ opened derived closed _ same =>
        .call (congrArg Lexeme.kind same) (congrArg Lexeme.text same) opened derived closed
  exact .cons (readsAs_builtin function) arguments fun name _ same derived => (derived name same).access

/-- A condition with its two values is read. -/
theorem wordsRead_conditional {first second third : List String} {condition yes no : Expr}
    (tested : WordsRead first (Derives (.level .or) · condition))
    (chosen : WordsRead second (Derives .expression · yes)) (other : WordsRead third (Derives .expression · no)) :
    WordsRead (first ++ "?" :: (second ++ ":" :: third)) (Derives .expression · (.conditional condition yes no)) := by
  have values : WordsRead (second ++ ":" :: third) fun tokens => ∀ before question,
      Derives (.level .or) before condition → question.kind = .question →
        Derives .expression (before ++ question :: tokens) (.conditional condition yes no) :=
    chosen.between (readsAs_single (c := ':') rfl) other fun _ _ _ derived divided continued _ _ begun asked =>
      .conditional begun asked derived divided continued
  exact tested.between (readsAs_single (c := '?') rfl) values fun before question _ derived asked continued =>
    continued before question derived asked

/-- A written form of a readable expression is read as tokens of it, for the tier of its place. -/
theorem Writes.wordsRead {place : Place} {e : Expr} {words : List String} (written : Writes place e words)
    (readable : Readable e) : WordsRead words ((place.tier e).Derives · e) := by
  induction written with
  | bare tight _ own => exact (own readable).mono fun _ derived => derived.loosen tight
  | @group demand _ _ _ _ own =>
    have bound : demand.rank ≤ Tier.access.rank := demand.rank_le
    exact (own readable).group.mono fun _ derived => derived.loosen bound
  | null either =>
    rcases either with rfl | rfl
    · exact (readsAs_keyword rfl).literal fun _ _ => .null _ _ _
    · exact (readsAs_keyword rfl).literal fun _ _ => .null _ _ _
  | bool b =>
    cases b with
    | false =>
      have reads : ReadsAs "false" ⟨.false, "false"⟩ := readsAs_keyword rfl
      exact reads.literal fun _ _ => .false _ _ _
    | true =>
      have reads : ReadsAs "true" ⟨.true, "true"⟩ := readsAs_keyword rfl
      exact reads.literal fun _ _ => .true _ _ _
  | int i =>
    cases readable with
    | int positive => exact (readsAs_int positive).literal fun _ _ => .int _ _ _ _
    | joint made => cases made
  | string quotes => exact (readsAs_quotes quotes).literal fun _ _ => .string _ _ _
  | root root =>
    refine (readsAs_root root).single fun token same => ?_
    exact (Derives.root (congrArg Lexeme.kind same) (congrArg Lexeme.text same)).access
  | list same _ each =>
    cases readable with
    | list all =>
      exact wordsRead_list same fun pair listed => each pair listed (all pair.1 (List.of_mem_zip listed).1)
    | joint made => cases made
  | member name _ held =>
    cases readable with
    | member base named => exact wordsRead_member (held base) named
    | joint made => cases made
  | index _ _ held found =>
    cases readable with
    | index base key => exact wordsRead_index (held base) (found key)
    | joint made => cases made
  | call function _ given =>
    cases readable with
    | call _ argument => exact wordsRead_call function (given argument)
    | joint made => cases made
  | operator spelled _ applied =>
    obtain ⟨kind, spells, reads⟩ := UnaryOp.spelled spelled
    cases readable with
    | operator _ operand =>
      exact .mark reads (applied operand) fun token tokens same derived => .operator (same ▸ spells) derived
    | joint made => cases made
  | joint joined spelled _ _ first second =>
    obtain ⟨made, left, right⟩ := readable.sides joined
    obtain ⟨kind, spells, reads⟩ := Joint.spelled spelled
    rw [Place.tier, tier_of_sides joined]
    exact (first left).between reads (second right) fun _ token _ before same after =>
      before.joined (same ▸ spells) after.operand made
  | conditional _ _ _ tested chosen other =>
    cases readable with
    | conditional condition yes no =>
      exact wordsRead_conditional (tested condition) (chosen yes) (other no)
    | joint made => cases made

/-- A written form of a readable expression is compiled to that expression. -/
theorem WrittenAs.parse {e : Expr} {text : String} (written : WrittenAs e text) (readable : Readable e) :
    parse text = .ok e := by
  obtain ⟨words, form, rfl⟩ := written
  obtain ⟨lexemes, reads, meant⟩ := form.wordsRead readable
  obtain ⟨body, last, read, ended, same⟩ := tokensFrom_words reads 1
  obtain ⟨tokens, mark, shape, _, free⟩ := tokensFrom_shape read
  obtain ⟨rfl, -⟩ := List.append_inj' shape rfl
  have found : tokenize (" ".intercalate words) = .ok (body ++ [last]) := by
    rw [tokenize, String.toList_intercalate]
    exact read
  rw [Expr.parse, found]
  exact (parseTokens_eq_ok_iff ended free).mpr (meant body same)

/-! ## There is a written form -/

/-- Every text can be written between quotes. -/
theorem exists_escapes {quote : Char} (either : quote = '"' ∨ quote = '\'') (text : List Char) :
    ∃ written, Escapes quote text written := by
  induction text with
  | nil => exact ⟨[], .nil⟩
  | cons c rest later =>
    obtain ⟨written, escapes⟩ := later
    by_cases special : c = '\\' ∨ c = '"' ∨ c = '\''
    · exact ⟨_, .escaped special escapes⟩
    · have noQuote : c ≠ quote := fun same => special (.inr (same ▸ either))
      exact ⟨_, .plain noQuote (fun same => special (.inl same)) escapes⟩

/-- An expression that can be written by itself can be written at every place. -/
theorem exists_under {e : Expr} (written : ∃ words, Writes .alone e words) (demand : Tier) :
    ∃ words, Writes (.under demand) e words := by
  obtain ⟨words, own⟩ := written
  by_cases tight : demand.rank ≤ e.tier.rank
  · exact ⟨words, .bare tight own⟩
  · exact ⟨_, .group (Nat.lt_of_not_le tight) own⟩

/-- If each item can be written, the items can. -/
theorem exists_parts {items : List Expr} (each : ∀ item ∈ items, ∃ words, Writes (.under .conditional) item words) :
    ∃ parts : List (List String), items.length = parts.length ∧
      ∀ pair ∈ items.zip parts, Writes (.under .conditional) pair.1 pair.2 := by
  induction items with
  | nil => exact ⟨[], rfl, nofun⟩
  | cons item items later =>
    obtain ⟨⟨words, first⟩, more⟩ := List.forall_mem_cons.mp each
    obtain ⟨parts, same, rest⟩ := later more
    exact ⟨words :: parts, congrArg Nat.succ same, List.forall_mem_cons.mpr ⟨first, rest⟩⟩

/-- A joint has a word. -/
theorem Joint.words_ne_nil (joint : Joint) : joint.words ≠ [] := by
  cases joint <;> exact List.cons_ne_nil _ _

/-- An operator before an operand has a word. -/
theorem UnaryOp.words_ne_nil (operator : UnaryOp) : operator.words ≠ [] := by
  cases operator <;> exact List.cons_ne_nil _ _

/-- A readable expression without floating-point literals can be written. -/
theorem Readable.exists_writes {e : Expr} (readable : Readable e) (floatFree : ¬HasFloat e) :
    ∃ words, Writes .alone e words := by
  induction readable with
  | null => exact ⟨_, .null (.inl rfl)⟩
  | bool b => exact ⟨_, .bool b⟩
  | int => exact ⟨_, .int _⟩
  | float x => exact absurd (.literal x) floatFree
  | string text =>
    obtain ⟨written, escapes⟩ := exists_escapes (.inl rfl) text.toList
    exact ⟨_, .string (.between (.inl rfl) escapes)⟩
  | root root => exact ⟨_, .root root⟩
  | list _ each =>
    obtain ⟨parts, same, written⟩ := exists_parts fun item listed =>
      exists_under (each item listed fun inside => floatFree (.item listed inside)) .conditional
    exact ⟨_, .list same written⟩
  | member _ _ held =>
    obtain ⟨words, written⟩ := exists_under (held fun inside => floatFree (.base inside)) .access
    exact ⟨_, .member _ written⟩
  | index _ _ held found =>
    obtain ⟨words, base⟩ := exists_under (held fun inside => floatFree (.indexed inside)) .access
    obtain ⟨inside, key⟩ := exists_under (found fun inside => floatFree (.key inside)) .conditional
    exact ⟨_, .index base key⟩
  | call function _ given =>
    obtain ⟨inside, argument⟩ := exists_under (given fun inside => floatFree (.argument inside)) .conditional
    exact ⟨_, .call function argument⟩
  | operator operator _ applied =>
    obtain ⟨words, operand⟩ := exists_under (applied fun inside => floatFree (.operand inside)) .unary
    obtain ⟨word, spelled⟩ := List.exists_mem_of_ne_nil operator.words operator.words_ne_nil
    exact ⟨_, .operator spelled operand⟩
  | @joint joint _ _ _ made _ _ first second =>
    obtain ⟨before, left⟩ := exists_under (first fun inside => floatFree (.left made.sides inside)) (.level joint.level)
    obtain ⟨after, right⟩ := exists_under (second fun inside => floatFree (.right made.sides inside))
      joint.level.operandTier
    obtain ⟨word, spelled⟩ := List.exists_mem_of_ne_nil joint.words joint.words_ne_nil
    exact ⟨_, .joint made.sides spelled left right⟩
  | conditional _ _ _ tested chosen other =>
    obtain ⟨first, condition⟩ := exists_under (tested fun inside => floatFree (.condition inside)) (.level .or)
    obtain ⟨second, yes⟩ := exists_under (chosen fun inside => floatFree (.yes inside)) .conditional
    obtain ⟨third, no⟩ := exists_under (other fun inside => floatFree (.no inside)) .conditional
    exact ⟨_, .conditional condition yes no⟩

/-! ## Written and read -/

/-- Writing and compiling are inverse to each other. -/
structure WritingIsRead : Prop where
  /-- What is compiled, if it has no floating-point literal, can be written, and whatever is written for it is
  compiled to it. -/
  expressions : ∀ source e, parse source = .ok e → ¬HasFloat e →
    (∃ text, WrittenAs e text) ∧ ∀ text, WrittenAs e text → parse text = .ok e
  /-- Every text can be put between quotes of either kind, and it is compiled from each of its quoted forms. -/
  texts : ∀ text,
    (∀ quote, quote = '"' ∨ quote = '\'' →
      ∃ written, Quotes text (String.ofList (quote :: (written ++ [quote])))) ∧
    ∀ word, Quotes text word → parse word = .ok (.literal (.string text))

/-- An expression without floating-point literals, and every text, is compiled from each of its written forms. -/
theorem writing_is_read : WritingIsRead where
  expressions source e read floatFree := by
    have readable := readable_of_parse read
    obtain ⟨words, written⟩ := exists_under (readable.exists_writes floatFree) .conditional
    exact ⟨⟨_, words, written, rfl⟩, fun text form => form.parse readable⟩
  texts text := by
    refine ⟨fun quote either => ?_, fun word quotes => ?_⟩
    · obtain ⟨written, escapes⟩ := exists_escapes either text.toList
      exact ⟨written, .between either escapes⟩
    · have form : WrittenAs (.literal (.string text)) word :=
        ⟨[word], .bare (Nat.zero_le _) (.string quotes), String.intercalate_singleton.symm⟩
      exact form.parse (.string text)

end MessageRouting.Expr
