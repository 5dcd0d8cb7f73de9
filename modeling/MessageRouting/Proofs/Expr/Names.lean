import MessageRouting.Expr.Eval
import MessageRouting.Proofs.Expr.WrittenBack

/-!
# Headers and properties by name

A header or property is found by its name in quotes between brackets, and by the bare name after a point. The bare name
has to be one: the keywords are words of their own wherever they stand, and are refused after a point.
-/

namespace MessageRouting.Expr

/-! ## Names -/

/-- A text has the shape of a name: an alphabetic character or underscore, then alphanumeric characters or
underscores. -/
def IsName (name : String) : Prop :=
  ∃ c tail, name.toList = c :: tail ∧ beginsName c = true ∧ tail.all continuesName = true

/-- A text of this shape is read as a keyword, or else as a name. -/
theorem IsName.readsBefore {name : String} (named : IsName name) {rest : List Char}
    (stops : rest.head?.any continuesName = false) :
    ReadsBefore rest name ⟨(keywords.lookup name).getD .ident, name⟩ := by
  obtain ⟨c, tail, letters, begun, continued⟩ := named
  obtain rfl : name = String.ofList (c :: tail) := by rw [← letters, String.ofList_toList]
  exact readsBefore_name begun continued stops

/-- The name of a root has the shape of a name. -/
theorem isName_root (root : Root) : IsName root.name := by
  cases root <;> exact ⟨_, _, rfl, by decide, by decide⟩

/-- The name of a root is read, whatever comes after it that does not continue it. -/
theorem readsBefore_root (root : Root) {rest : List Char} (stops : rest.head?.any continuesName = false) :
    ReadsBefore rest root.name ⟨.ident, root.name⟩ := by
  have read := (isName_root root).readsBefore stops
  have noKeyword : keywords.lookup root.name = none := by cases root <;> rfl
  rwa [noKeyword] at read

/-- No character of a name has to be escaped between quotes. -/
theorem escapes_of_continuesName {text : List Char} (all : ∀ c ∈ text, continuesName c = true) :
    Escapes '\'' text text := by
  induction text with
  | nil => exact .nil
  | cons c rest later =>
    obtain ⟨first, more⟩ := List.forall_mem_cons.mp all
    refine .plain ?_ ?_ (later more) <;> rintro rfl <;> revert first <;> decide

/-- A name may be put between quotes as it is. -/
theorem IsName.quotes {name : String} (named : IsName name) : Quotes name ("'" ++ name ++ "'") := by
  obtain ⟨c, tail, letters, begun, continued⟩ := named
  have bare : ∀ d ∈ name.toList, continuesName d = true := by
    rw [letters]
    exact List.forall_mem_cons.mpr ⟨continuesName_of_beginsName begun, List.all_eq_true.mp continued⟩
  have quoted : "'" ++ name ++ "'" = String.ofList ('\'' :: (name.toList ++ ['\''])) := by
    rw [← String.toList_inj]
    simp
  rw [quoted]
  exact .between (.inr rfl) (escapes_of_continuesName bare)

variable (root : Root)

/-! ## Between brackets -/

/-- A mark of one character that makes no operator with any other is read, whatever comes after it. -/
theorem readsBefore_mark {c : Char} {kind : TokenKind} (found : singles.lookup c = some kind)
    (alone : ∀ d, pairs.lookup (c, d) = none) (noPoint : c ≠ '.') (rest : List Char) :
    ReadsBefore rest (String.ofList [c]) ⟨kind, String.ofList [c]⟩ :=
  readsBefore_single found (Option.bind_eq_none_iff.mpr fun d _ => alone d)
    (by rw [beq_eq_false_iff_ne.mpr noPoint, Bool.false_and])

/-- The tokens of a root with a text in quotes between brackets. -/
theorem tokenize_index {text word : String} (quotes : Quotes text word) :
    tokenize (root.name ++ "[" ++ word ++ "]") = .ok
      ([⟨.ident, root.name, 1, root.name.length⟩, ⟨.lBracket, "[", root.name.length + 1, 1⟩,
        ⟨.str, text, root.name.length + 2, word.length⟩, ⟨.rBracket, "]", root.name.length + 2 + word.length, 1⟩] ++
        [⟨.eof, "", root.name.length + 2 + word.length + 1, 0⟩]) := by
  have first : ReadsBefore ("[".toList ++ (word.toList ++ "]".toList)) root.name ⟨.ident, root.name⟩ :=
    readsBefore_root root rfl
  have opening := readsBefore_mark (c := '[') rfl (fun _ => rfl) (by decide) (word.toList ++ "]".toList)
  have closing := (readsBefore_mark (c := ']') rfl (fun _ => rfl) (by decide) []).tokensFrom
  simp only [List.append_nil] at closing
  have letters : (root.name ++ "[" ++ word ++ "]").toList =
      root.name.toList ++ ("[".toList ++ (word.toList ++ "]".toList)) := by
    simp only [String.toList_append, List.append_assoc]
  rw [tokenize, letters, first.tokensFrom, Nat.add_comm 1, opening.tokensFrom,
    (readsBefore_quotes quotes _).tokensFrom, closing]
  rfl

/-- A text in quotes between brackets is read as an index. -/
theorem parse_index {text word : String} (quotes : Quotes text word) :
    parse (root.name ++ "[" ++ word ++ "]") = .ok (.index (.root root) (.literal (.string text))) := by
  have base : Derives .primary [⟨.ident, root.name, 1, root.name.length⟩] (.root root) := .root rfl rfl
  have key : Derives .primary [⟨.str, text, root.name.length + 2, word.length⟩] (.literal (.string text)) :=
    .literal (.string ..)
  have found : Derives (.accesses (.root root))
      (⟨.lBracket, "[", root.name.length + 1, 1⟩ :: ([⟨.str, text, root.name.length + 2, word.length⟩] ++
        [⟨.rBracket, "]", root.name.length + 2 + word.length, 1⟩]))
      (.index (.root root) (.literal (.string text))) :=
    .index rfl key.access.expression rfl (.noAccess _)
  exact parse_of_derives (tokenize_index root quotes) (base.access.accessed found).expression

/-! ## After a point -/

/-- The tokens of a root with a name after a point. -/
theorem tokenize_member {name : String} (named : IsName name) :
    tokenize (root.name ++ "." ++ name) = .ok
      ([⟨.ident, root.name, 1, root.name.length⟩, ⟨.dot, ".", root.name.length + 1, 1⟩,
        ⟨(keywords.lookup name).getD .ident, name, root.name.length + 2, name.length⟩] ++
        [⟨.eof, "", root.name.length + 2 + name.length, 0⟩]) := by
  have first : ReadsBefore (".".toList ++ name.toList) root.name ⟨.ident, root.name⟩ := readsBefore_root root rfl
  have point : ReadsBefore name.toList "." ⟨.dot, "."⟩ := by
    refine readsBefore_single (c := '.') rfl (Option.bind_eq_none_iff.mpr fun _ _ => rfl) ?_
    obtain ⟨c, tail, letters, begun, -⟩ := named
    simp only [letters, List.head?_cons, Option.any_some, isDigit_of_beginsName begun, Bool.and_false]
  have last : ReadsBefore [] name ⟨(keywords.lookup name).getD .ident, name⟩ := named.readsBefore rfl
  have ended := last.tokensFrom
  simp only [List.append_nil] at ended
  rw [tokenize, String.toList_append, String.toList_append, List.append_assoc, first.tokensFrom, Nat.add_comm 1,
    point.tokensFrom, ended]
  rfl

/-- A name after a point that is no keyword is read as a member. -/
theorem parse_member {name : String} (named : IsName name) (free : keywords.lookup name = none) :
    parse (root.name ++ "." ++ name) = .ok (.member (.root root) name) := by
  have read := tokenize_member root named
  rw [free, Option.getD_none] at read
  have base : Derives .primary [⟨.ident, root.name, 1, root.name.length⟩] (.root root) := .root rfl rfl
  have found : Derives (.accesses (.root root))
      [⟨.dot, ".", root.name.length + 1, 1⟩, ⟨.ident, name, root.name.length + 2, name.length⟩]
      (.member (.root root) name) := .member rfl rfl (.noAccess _)
  exact parse_of_derives read (base.access.accessed found).expression

/-- A word that is no name is refused after a point. -/
theorem parseAccess_refused {base : Expr} {dot word : Token} {rest : List Token} (marked : dot.kind = .dot)
    (other : word.kind ≠ .ident) (depth : Nat) : parseAccess (depth + 1) base (dot :: word :: rest) =
      .error (missing (word :: rest) "member name after '.'") := by
  obtain ⟨_, point, column, width⟩ := dot
  subst marked
  rw [parseAccess]
  intro name place extent more same
  obtain ⟨rfl, -⟩ := List.cons.inj same
  exact other rfl

/-- An operand that is refused is refused as an expression. -/
theorem parseExpr_of_parseUnary {depth : Nat} {tokens : List Token} {misplaced : Misplaced}
    (refused : parseUnary depth tokens = .error misplaced) : parseExpr (depth + 13) tokens = .error misplaced := by
  simp only [parseExpr, parseLevel, parseOperand, Level.closer?, refused]

/-- An operand does not begin with the end of the source. -/
theorem Derives.primary_head {tokens : List Token} {e : Expr} (derived : Derives .primary tokens e) :
    ∀ token ∈ tokens.head?, token.kind ≠ .eof := by
  cases derived with
  | literal meant => cases meant <;> simp
  | root word | call word | group word | emptyList word | list word => simp [word]

/-- After an operand and a point, a word that is no name is refused where it stands, whatever comes after it. -/
theorem parseTokens_refused {first rest : List Token} {base : Expr} {dot word : Token}
    (derived : Derives .primary first base) (marked : dot.kind = .dot) (other : word.kind ≠ .ident) :
    parseTokens (first ++ dot :: word :: rest) = .error (missing (word :: rest) "member name after '.'") := by
  have ends : Symbol.primary.EndsAt (dot :: word :: rest) := by
    simp [Symbol.endsAt_cons, Symbol.GoesOn, marked]
  have enough : 20 * first.length ≤ 20 * (first.length + rest.length) + 46 := by omega
  have operand := derived.readsBack (dot :: word :: rest) _ ends enough
  have begun := derived.primary_head
  obtain ⟨token, following, rfl, plain⟩ := derived.primary_begins
  have refused : parseUnary (20 * ((token :: following).length + rest.length) + 47)
      (token :: following ++ dot :: word :: rest) = .error (missing (word :: rest) "member name after '.'") := by
    simp only [Symbol.read, List.cons_append] at operand
    simp only [List.cons_append, parseUnary, plain, operand, parseAccess_refused marked other]
  -- Thirteen steps of the descent lead to the operand, and there is depth enough left for it.
  have depth : depthFor (token :: following ++ dot :: word :: rest) =
      20 * ((token :: following).length + rest.length) + 47 + 13 := by
    simp only [depthFor, List.length_append, List.length_cons]
    omega
  rw [parseTokens, depth, parseExpr_of_parseUnary refused]
  intro text column width more same
  obtain ⟨rfl, -⟩ := List.cons.inj same
  exact begun _ rfl rfl

/-- A token that is not the end of the source is found where another one is missing. -/
theorem foundAt_cons {token : Token} {rest : List Token} (inside : token.kind ≠ .eof) :
    foundAt (token :: rest) = some token.text := by
  rw [foundAt]
  split
  · rename_i ended
    exact absurd ended inside
  · rfl

/-- A word is no keyword just if it is not in the list of them. -/
theorem keywords_lookup_eq_none_iff {word : String} : keywords.lookup word = none ↔ word ∉ keywords.map Prod.fst := by
  simp only [List.lookup_eq_none_iff, bne_iff_ne, List.mem_map, not_exists, not_and]
  exact ⟨fun other entry listed same => other entry listed same.symm, fun other entry listed same =>
    other entry listed same.symm⟩

/-- A keyword after a point is refused. -/
theorem parse_keyword {name : String} (named : IsName name) {kind : TokenKind}
    (keyword : keywords.lookup name = some kind) : parse (root.name ++ "." ++ name) =
      .error ⟨root.name.length + 2, .expected "member name after '.'" (some name)⟩ := by
  have listed := mem_of_lookup keyword
  have noName : kind ≠ .ident := by
    rintro rfl
    simp [keywords] at listed
  have noEnd : kind ≠ .eof := by
    rintro rfl
    simp [keywords] at listed
  have base : Derives .primary [⟨.ident, root.name, 1, root.name.length⟩] (.root root) := .root rfl rfl
  rw [parse, tokenize_member root named, keyword, Option.getD_some]
  refine (parseTokens_refused base rfl noName).trans ?_
  rw [missing, foundAt_cons noEnd]
  rfl

/-! ## Stores -/

/-- What an exchange keeps by name. -/
inductive Store where
  | headers
  | properties
  deriving Repr, DecidableEq

namespace Store

/-- The root that stands for it. -/
def scope : Store → Root
  | headers => .header
  | properties => .property

/-- What an exchange keeps under a name, null when there is none. -/
def entry (x : Exchange) (name : String) : Store → Value
  | headers => (x.header? name).getD .null
  | properties => (x.property? name).getD .null

/-- The name after a point. -/
def member (store : Store) (name : String) : String := store.scope.name ++ "." ++ name

/-- The name in quotes between brackets. -/
def index (store : Store) (name : String) : String := store.scope.name ++ "['" ++ name ++ "']"

/-- A source compiles, and has over every exchange what is kept under a name. -/
def FoundBy (store : Store) (name source : String) : Prop :=
  ∃ formula, Formula.compile source = .ok formula ∧ ∀ x, formula.eval x = .ok (store.entry x name)

variable (store : Store) {name : String}

/-- The root with a name means what is kept under it. -/
theorem scoped?_scope (x : Exchange) (name : String) :
    scoped? x (.root store.scope) name = some (store.entry x name) := by
  cases store <;> rfl

/-- What is parsed as an index or member of the root finds what is kept. -/
theorem foundBy_of_parse {source : String} {e : Expr} (read : parse source = .ok e)
    (either : e = .index (.root store.scope) (.literal (.string name)) ∨ e = .member (.root store.scope) name) :
    store.FoundBy name source := by
  refine ⟨⟨source, e⟩, by rw [Formula.compile, read], fun x => ?_⟩
  rcases either with rfl | rfl
  · simp only [Formula.eval, eval, Value.string?, Option.bind_some, scoped?_scope]
  · simp only [Formula.eval, eval, scoped?_scope]

/-- A header or property with a name of the usual shape is found by the name in quotes between brackets. It is found by
the name after a point too, unless that is a keyword: this is refused where it stands. -/
theorem found_by_name (named : IsName name) :
    store.FoundBy name (store.index name) ∧
      (name ∉ keywords.map Prod.fst → store.FoundBy name (store.member name)) ∧
      (name ∈ keywords.map Prod.fst → Formula.compile (store.member name) =
        .error (.expressionCompile (store.member name) (store.scope.name.length + 2)
          s!"expected member name after '.', found '{name}'")) := by
  refine ⟨?_, fun free => ?_, fun listed => ?_⟩
  · have spelled : store.index name = store.scope.name ++ "[" ++ ("'" ++ name ++ "'") ++ "]" := by
      rw [← String.toList_inj]
      simp [index]
    rw [spelled]
    exact store.foundBy_of_parse (parse_index store.scope named.quotes) (.inl rfl)
  · exact store.foundBy_of_parse (parse_member store.scope named (keywords_lookup_eq_none_iff.mpr free)) (.inr rfl)
  · obtain ⟨kind, keyword⟩ := Option.ne_none_iff_exists'.mp fun free => keywords_lookup_eq_none_iff.mp free listed
    rw [Formula.compile, member, parse_keyword store.scope named keyword]
    rfl

/-- The headers `in` and `inner` are found by their names between quotes, and `inner` after a point. -/
theorem found_by_name_inner : IsName "in" ∧ IsName "inner" ∧ "in" ∈ keywords.map Prod.fst ∧
    "inner" ∉ keywords.map Prod.fst ∧ headers.FoundBy "in" "header['in']" ∧ headers.FoundBy "inner" "header.inner" ∧
    Formula.compile (headers.member "in") =
      .error (.expressionCompile (headers.member "in") 8 "expected member name after '.', found 'in'") := by
  have short : IsName "in" := ⟨'i', ['n'], rfl, by decide, by decide⟩
  have long : IsName "inner" := ⟨'i', ['n', 'n', 'e', 'r'], rfl, by decide, by decide⟩
  have keyword : "in" ∈ keywords.map Prod.fst := by decide
  have free : "inner" ∉ keywords.map Prod.fst := by decide
  have quoted : "header['in']" = headers.index "in" := by decide
  have pointed : "header.inner" = headers.member "inner" := by decide
  rw [quoted, pointed]
  exact ⟨short, long, keyword, free, (found_by_name headers short).1, (found_by_name headers long).2.1 free,
    (found_by_name headers short).2.2 keyword⟩

/-- The name `in` has the usual shape, and is refused after a point. -/
theorem member_in_refused : IsName "in" ∧ ¬headers.FoundBy "in" "header.in" ∧
    Formula.compile "header.in" =
      .error (.expressionCompile "header.in" 8 "expected member name after '.', found 'in'") := by
  have named : IsName "in" := ⟨'i', ['n'], rfl, by decide, by decide⟩
  have spelled : "header.in" = Root.header.name ++ "." ++ "in" := by decide
  have read : parse "header.in" = .error ⟨8, .expected "member name after '.'" (some "in")⟩ := by
    rw [spelled]
    exact parse_keyword .header named rfl
  have refused : Formula.compile "header.in" =
      .error (.expressionCompile "header.in" 8 "expected member name after '.', found 'in'") := by
    rw [Formula.compile, read]
    rfl
  refine ⟨named, ?_, refused⟩
  rintro ⟨formula, compiled, -⟩
  cases refused.symm.trans compiled

end Store

end MessageRouting.Expr
