import MessageRouting.Expr.Template
import MessageRouting.Proofs.Exchange.Carried
import MessageRouting.Proofs.Expr.Reading

/-!
# The errors that values of expressions carry

The value of an expression brings no errors but those of its exchange: operators make texts, numbers and truth values,
join lists, and take values apart, and a literal is never an error. A refusal of an expression that was compiled is a
plain fault.
-/

namespace MessageRouting

variable {allowed : Raised → Prop}

namespace Expr

/-! ## Operations -/

/-- What a piece of work gives, if it gives a value, brings only errors that are allowed. -/
def GivesOnly {ε : Type} (allowed : Raised → Prop) (given : Except ε Value) : Prop :=
  ∀ value, given = .ok value → value.CarriesOnly allowed

/-- A truth value brings no errors. -/
theorem givesOnly_map_bool {ε : Type} (verdict : Except ε Bool) (f : Bool → Bool) :
    GivesOnly allowed (verdict.map fun b => .bool (f b)) := by
  cases verdict with
  | error fault => exact nofun
  | ok b =>
    rintro _ ⟨⟩
    trivial

/-- Arithmetic brings no errors. -/
theorem givesOnly_arithmetic (operator : Arithmetic) (left right : Value) :
    GivesOnly allowed (arithmetic operator left right) := by
  intro value given
  unfold arithmetic at given
  split at given
  · split at given
    · cases given
    · split at given <;> cases given
      trivial
  · split at given
    · split at given <;> cases given
      trivial
    · cases given

/-- A point in time brings no errors. -/
theorem givesOnly_laterTime (t : Time.Timestamp) (d : Time.Duration) : GivesOnly allowed (laterTime t d) := by
  intro value given
  unfold laterTime at given
  split at given <;> cases given
  trivial

/-- A sum brings the errors of its operands: lists are joined. -/
theorem givesOnly_add {left right : Value} (first : left.CarriesOnly allowed) (second : right.CarriesOnly allowed) :
    GivesOnly allowed (add left right) := by
  intro value given
  unfold add at given
  split at given
  · cases given
    trivial
  · cases given
    trivial
  · split at given <;> cases given
    trivial
  · split at given <;> cases given
    trivial
  · exact givesOnly_laterTime _ _ value given
  · exact givesOnly_laterTime _ _ value given
  · cases given
    refine Value.itemsCarryOnly_iff.mpr fun item member => ?_
    rcases List.mem_append.mp member with member | member
    · exact Value.itemsCarryOnly_iff.mp first item member
    · exact Value.itemsCarryOnly_iff.mp second item member
  · exact givesOnly_arithmetic .add left right value given

/-- A difference brings no errors. -/
theorem givesOnly_subtract (left right : Value) : GivesOnly allowed (subtract left right) := by
  intro value given
  unfold subtract at given
  split at given
  · split at given <;> cases given
    trivial
  · split at given <;> cases given
    trivial
  · split at given <;> cases given
    trivial
  · exact givesOnly_arithmetic .sub left right value given

/-- A comparison brings no errors. -/
theorem givesOnly_ordered (meets : Ordering → Bool) (left right : Value) :
    GivesOnly allowed (ordered meets left right) := by
  intro value given
  unfold ordered at given
  split at given <;> cases given
  trivial

/-- An operator between two values brings no errors but theirs. -/
theorem givesOnly_binary (operator : BinaryOp) {left right : Value} (first : left.CarriesOnly allowed)
    (second : right.CarriesOnly allowed) : GivesOnly allowed (operator.apply left right) := by
  cases operator with
  | add => exact givesOnly_add first second
  | sub => exact givesOnly_subtract left right
  | mul | div | rem => exact givesOnly_arithmetic _ left right
  | lt | le | gt | ge => exact givesOnly_ordered _ left right
  | contains => exact givesOnly_map_bool (Expr.contains left right) id
  | «in» => exact givesOnly_map_bool (Expr.contains right left) id
  | eq | notEq | startsWith | endsWith =>
    rintro _ ⟨⟩
    trivial

/-- An operator before a value brings no errors. -/
theorem givesOnly_unary (operator : UnaryOp) (value : Value) : GivesOnly allowed (operator.apply value) := by
  cases operator with
  | not => exact givesOnly_map_bool (truthOf value) (!·)
  | neg =>
    intro result given
    simp only [UnaryOp.apply, negate] at given
    split at given
    · split at given <;> cases given
      trivial
    · cases given
      trivial
    · cases given

/-- A function brings no errors. -/
theorem givesOnly_builtin (function : Builtin) (value : Value) : GivesOnly allowed (function.apply value) := by
  intro result given
  cases function with
  | len =>
    simp only [Builtin.apply, length] at given
    split at given <;> cases given <;> trivial
  | upper | lower | trim =>
    simp only [Builtin.apply, onString] at given
    split at given <;> cases given <;> trivial
  | string =>
    cases given
    trivial
  | int =>
    simp only [Builtin.apply, toInt] at given
    split at given
    · cases given
      trivial
    · cases given
      trivial
    · cases given
      trivial
    · split at given <;> cases given
      trivial
    · split at given <;> cases given <;> trivial
    · cases given
  | float =>
    simp only [Builtin.apply, toFloat] at given
    split at given
    · cases given
      trivial
    · cases given
      trivial
    · cases given
      trivial
    · split at given <;> cases given
      trivial
    · cases given
  | bool => exact givesOnly_map_bool (truthOf value) id result given

/-- A member brings the errors of the value it is taken from. -/
theorem givesOnly_memberOf {base : Value} (all : base.CarriesOnly allowed) (name : String) :
    GivesOnly allowed (memberOf base name) := by
  intro value given
  unfold memberOf at given
  split at given
  · cases given
    trivial
  · cases given
    exact Table.CarriesOnly.getD_find? (Value.entriesCarryOnly_iff.mp all) name
  · split at given <;> cases given
    trivial
  · cases given

/-- An item at a place, or null, brings the errors of its list. -/
theorem carriesOnly_getElem? {items : List Value} (all : (Value.list items).CarriesOnly allowed) (place : Nat) :
    (items[place]?.getD .null).CarriesOnly allowed := by
  cases found : items[place]? with
  | none => trivial
  | some item => exact Value.itemsCarryOnly_iff.mp all item (List.mem_of_getElem? found)

/-- An item brings the errors of the value it is taken from. -/
theorem givesOnly_itemOf {base : Value} (all : base.CarriesOnly allowed) (key : Value) :
    GivesOnly allowed (itemOf base key) := by
  intro value given
  unfold itemOf at given
  split at given
  · cases given
    trivial
  · cases given
    exact Table.CarriesOnly.getD_find? (Value.entriesCarryOnly_iff.mp all) _
  · cases given
    split
    · split
      · trivial
      · exact carriesOnly_getElem? all _
    · exact carriesOnly_getElem? all _
  · cases given

/-! ## Expressions -/

mutual

/-- All errors inside the literals of an expression are allowed. -/
def CarriesOnly (allowed : Raised → Prop) : Expr → Prop
  | .literal value => value.CarriesOnly allowed
  | .root _ => True
  | .list items => AllCarryOnly allowed items
  | .member base _ => base.CarriesOnly allowed
  | .index base position => base.CarriesOnly allowed ∧ position.CarriesOnly allowed
  | .call _ argument => argument.CarriesOnly allowed
  | .unary _ operand => operand.CarriesOnly allowed
  | .binary _ left right => left.CarriesOnly allowed ∧ right.CarriesOnly allowed
  | .and left right => left.CarriesOnly allowed ∧ right.CarriesOnly allowed
  | .or left right => left.CarriesOnly allowed ∧ right.CarriesOnly allowed
  | .conditional condition yes no =>
    condition.CarriesOnly allowed ∧ yes.CarriesOnly allowed ∧ no.CarriesOnly allowed
  | .matchesStatic subject _ => subject.CarriesOnly allowed
  | .matchesDynamic subject pattern => subject.CarriesOnly allowed ∧ pattern.CarriesOnly allowed

/-- All errors inside the literals of some expressions are allowed. -/
def AllCarryOnly (allowed : Raised → Prop) : List Expr → Prop
  | [] => True
  | item :: rest => item.CarriesOnly allowed ∧ AllCarryOnly allowed rest

end

mutual

/-- If all errors are allowed, those inside the literals of an expression are. -/
theorem carriesOnly_of_all (all : ∀ e, allowed e) : ∀ e : Expr, e.CarriesOnly allowed
  | .literal value => Value.carriesOnly_of_all all value
  | .root _ => trivial
  | .list items => allCarryOnly_of_all all items
  | .member base _ => carriesOnly_of_all all base
  | .index base position => ⟨carriesOnly_of_all all base, carriesOnly_of_all all position⟩
  | .call _ argument => carriesOnly_of_all all argument
  | .unary _ operand => carriesOnly_of_all all operand
  | .binary _ left right | .and left right | .or left right =>
    ⟨carriesOnly_of_all all left, carriesOnly_of_all all right⟩
  | .conditional condition yes no =>
    ⟨carriesOnly_of_all all condition, carriesOnly_of_all all yes, carriesOnly_of_all all no⟩
  | .matchesStatic subject _ => carriesOnly_of_all all subject
  | .matchesDynamic subject pattern => ⟨carriesOnly_of_all all subject, carriesOnly_of_all all pattern⟩

/-- If all errors are allowed, those inside the literals of some expressions are. -/
theorem allCarryOnly_of_all (all : ∀ e, allowed e) : ∀ items : List Expr, AllCarryOnly allowed items
  | [] => trivial
  | item :: rest => ⟨carriesOnly_of_all all item, allCarryOnly_of_all all rest⟩

end

/-- A header or property that is looked up brings the errors of the exchange. -/
theorem carriesOnly_scoped? {x : Exchange} (carried : x.CarriesOnly allowed) {base : Expr} {name : String}
    {value : Value} (found : scoped? x base name = some value) : value.CarriesOnly allowed := by
  unfold scoped? at found
  split at found
  · cases found
    exact carried.headers.getD_find? name
  · cases found
    exact carried.properties.getD_find? name
  · cases found

mutual

/-- The value of an expression brings no errors but those of its literals and its exchange. -/
theorem givesOnly_eval {x : Exchange} (carried : x.CarriesOnly allowed) :
    ∀ e : Expr, e.CarriesOnly allowed → GivesOnly allowed (eval x e)
  | .literal value, own => by
    rintro _ ⟨⟩
    exact own
  | .root name, _ => by
    rintro _ ⟨⟩
    exact carried.lookup name
  | .list items, own => by
    intro value given
    simp only [eval] at given
    cases evaluated : evalItems x items with
    | error fault => simp [evaluated, Except.map] at given
    | ok values =>
      simp only [evaluated, Except.map, Except.ok.injEq] at given
      subst given
      exact Value.itemsCarryOnly_iff.mpr (givesOnly_evalItems carried items own values evaluated)
  | .member base name, own => by
    intro value given
    simp only [eval] at given
    split at given
    · rename_i found
      cases given
      exact carriesOnly_scoped? carried found
    · split at given
      · cases given
      · rename_i found
        exact givesOnly_memberOf (givesOnly_eval carried base own _ found) name value given
  | .index base position, own => by
    intro value given
    simp only [eval] at given
    split at given
    · cases given
    · split at given
      · rename_i key _ _ looked
        cases given
        obtain ⟨name, -, found⟩ := Option.bind_eq_some_iff.mp looked
        exact carriesOnly_scoped? carried found
      · split at given
        · cases given
        · rename_i found
          exact givesOnly_itemOf (givesOnly_eval carried base own.1 _ found) _ value given
  | .call function argument, _ => by
    intro value given
    simp only [eval] at given
    split at given
    · cases given
    · exact givesOnly_builtin function _ value given
  | .unary operator operand, _ => by
    intro value given
    simp only [eval] at given
    split at given
    · cases given
    · exact givesOnly_unary operator _ value given
  | .binary operator left right, own => by
    intro value given
    simp only [eval] at given
    split at given
    · cases given
    · rename_i l first
      split at given
      · cases given
      · rename_i r second
        exact givesOnly_binary operator (givesOnly_eval carried left own.1 l first)
          (givesOnly_eval carried right own.2 r second) value given
  | .and left right, _ => by
    intro value given
    simp only [eval] at given
    split at given
    · cases given
    · cases given
      trivial
    · exact givesOnly_map_bool _ id value given
  | .or left right, _ => by
    intro value given
    simp only [eval] at given
    split at given
    · cases given
    · cases given
      trivial
    · exact givesOnly_map_bool _ id value given
  | .conditional condition yes no, own => by
    intro value given
    simp only [eval] at given
    split at given
    · cases given
    · exact givesOnly_eval carried yes own.2.1 value given
    · exact givesOnly_eval carried no own.2.2 value given
  | .matchesStatic subject pattern, _ => by
    intro value given
    simp only [eval] at given
    split at given <;> cases given
    trivial
  | .matchesDynamic subject pattern, _ => by
    intro value given
    simp only [eval] at given
    split at given
    · cases given
    · split at given
      · cases given
        trivial
      · split at given
        · cases given
        · split at given <;> cases given
          trivial
        · cases given

/-- The values of expressions bring no errors but those of their literals and their exchange. -/
theorem givesOnly_evalItems {x : Exchange} (carried : x.CarriesOnly allowed) :
    ∀ items : List Expr, AllCarryOnly allowed items →
      ∀ values, evalItems x items = .ok values → ∀ value ∈ values, value.CarriesOnly allowed
  | [], _ => by
    rintro _ ⟨⟩ value member
    cases member
  | item :: rest, own => by
    intro values given
    simp only [evalItems] at given
    split at given
    · cases given
    · rename_i value first
      cases others : evalItems x rest with
      | error fault => simp [others, Except.map] at given
      | ok more =>
        simp only [others, Except.map, Except.ok.injEq] at given
        subst given
        exact List.forall_mem_cons.mpr
          ⟨givesOnly_eval carried item own.1 value first, givesOnly_evalItems carried rest own.2 more others⟩

end

/-! ## Expressions that were read -/

/-- What stands left of further operands, or is the base of accesses, brings only errors that are allowed. -/
def Symbol.BeginsWith (allowed : Raised → Prop) : Symbol → Prop
  | .joints _ left => left.CarriesOnly allowed
  | .accesses base => base.CarriesOnly allowed
  | _ => True

/-- Joined operands bring the errors of both. -/
theorem Joins.carriesOnly {left right joined : Expr} {joint : Joint} (made : Joins left joint right joined)
    (first : left.CarriesOnly allowed) (second : right.CarriesOnly allowed) : joined.CarriesOnly allowed := by
  cases made <;> first
    | exact ⟨first, second⟩
    | exact first

/-- The literals of an expression that the grammar derives are no errors. -/
theorem Derives.carriesOnly {symbol : Symbol} {tokens : List Token} {e : Expr} (derived : Derives symbol tokens e) :
    symbol.BeginsWith allowed → e.CarriesOnly allowed := by
  induction derived with
  | plain _ whole => exact fun _ => whole trivial
  | conditional _ _ _ _ _ tested chosen other => exact fun _ => ⟨tested trivial, chosen trivial, other trivial⟩
  | level _ _ begun continued | accessed _ _ begun continued => exact fun _ => continued (begun trivial)
  | orOperand _ closer | andOperand _ closer | equalityOperand _ closer | relationOperand _ closer
  | sumOperand _ closer | productOperand _ closer => exact fun _ => closer trivial
  | noJoint | noAccess => exact id
  | joint _ _ made _ followed continued =>
    exact fun before => continued (made.carriesOnly before (followed trivial))
  | operator _ _ applied => exact fun _ => applied trivial
  | member _ _ _ continued => exact fun before => continued before
  | index _ _ _ _ found continued => exact fun before => continued ⟨before, found trivial⟩
  | literal meant =>
    intro _
    cases meant <;> trivial
  | root => exact fun _ => trivial
  | call _ _ _ _ _ given => exact fun _ => given trivial
  | group _ _ _ held | list _ _ _ held => exact fun _ => held trivial
  | emptyList => exact fun _ => trivial
  | lastItem _ found => exact fun _ => ⟨found trivial, trivial⟩
  | item _ _ _ found continued => exact fun _ => ⟨found trivial, continued trivial⟩

/-- The literals of an expression that was read are no errors. -/
theorem carriesOnly_of_parse {source : String} {e : Expr} (read : parse source = .ok e) : e.CarriesOnly allowed := by
  unfold parse at read
  split at read
  · cases read
  · rename_i tokens tokenized
    obtain ⟨body, last, rfl, ended, free⟩ := tokensFrom_shape tokenized
    exact ((parseTokens_eq_ok_iff ended free).mp read).carriesOnly trivial

/-- A refusal is a plain fault. -/
theorem EvalFault.isPlain_toFault (source : String) (fault : EvalFault) : (fault.toFault source).IsPlain := by
  cases fault <;> trivial

end Expr

/-! ## Formulas and templates -/

/-- All errors inside the literals of a formula are allowed. -/
def Formula.CarriesOnly (allowed : Raised → Prop) (formula : Formula) : Prop := formula.expr.CarriesOnly allowed

/-- A formula that was compiled brings no errors. -/
theorem Formula.carriesOnly_of_compile {source : String} {formula : Formula}
    (compiled : Formula.compile source = .ok formula) : formula.CarriesOnly allowed := by
  unfold Formula.compile at compiled
  split at compiled
  · rename_i read
    cases compiled
    exact Expr.carriesOnly_of_parse read
  · cases compiled

/-- The value of a formula brings no errors but those of its literals and its exchange, and its refusal is plain. -/
theorem Formula.keeps_eval (admits : Admits allowed) {formula : Formula} (own : formula.CarriesOnly allowed)
    {x : Exchange} (carried : x.CarriesOnly allowed) :
    (Ending.ofExcept (formula.eval x)).Keeps allowed (Value.CarriesOnly allowed) := by
  unfold Formula.eval
  cases evaluated : formula.expr.eval x with
  | ok value => exact Expr.givesOnly_eval carried formula.expr own value evaluated
  | error fault => exact (fault.isPlain_toFault formula.source).raisesOnly admits

/-- A template that is not rendered has a plain fault. -/
theorem Template.isPlain_of_render {template : Template} {x : Exchange} {fault : Fault}
    (refused : template.render x = .error fault) : fault.IsPlain := by
  unfold Template.render at refused
  generalize template.segments = segments at refused
  induction segments generalizing fault with
  | nil => cases refused
  | cons segment rest later =>
    simp only [Template.renderSegments] at refused
    split at refused
    · rename_i failed
      cases refused
      cases segment with
      | text content => cases failed
      | formula f =>
        simp only [Segment.render, Formula.eval] at failed
        split at failed <;> cases failed
        exact Expr.EvalFault.isPlain_toFault f.source _
    · exact later (eq_error_of_map refused)

end MessageRouting
