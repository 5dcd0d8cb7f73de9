import MessageRouting.Proofs.Convert.Calls
import MessageRouting.Proofs.Convert.FirstPath
import MessageRouting.Proofs.Time.Usable

/-!
# Conversions by built-in converters

Of the built-in conversions one can panic: a time is written by a pattern of the caller without a look at whether the
pattern can be used. All others return a value of the kind they lead to, or fail. No path that is found goes over the
one that can panic but those from a time to a text, and from a time to octets by way of a text; so it is known
beforehand which conversions panic.
-/

namespace MessageRouting

open MessageRouting.Convert

/-! ## Single conversions -/

namespace Convert

/-- It returned a value of the kind, or it failed. -/
def Settled (kind : Kind) {ε : Type} : Ending ε Value → Prop
  | .returned result => result.kind = kind
  | .failed _ => True
  | .panicked _ => False

/-- Whatever is converted under whichever parameters, the conversion returns a value of the kind, or fails. -/
def Conversion.Settles (conversion : Conversion) (kind : Kind) : Prop :=
  ∀ value params, Settled kind (conversion value params)

theorem settles_toText : toText.Settles .string := fun _ _ => rfl

theorem settles_toTruth : toTruth.Settles .bool := by
  intro value params
  unfold toTruth
  split
  · exact rfl
  · exact trivial

theorem settles_textToInt : textToInt.Settles .int := by
  intro value params
  cases value with
  | string text =>
    simp only [textToInt]
    split
    · exact rfl
    · exact trivial
  | _ => exact trivial

theorem settles_textToFloat : textToFloat.Settles .float := by
  intro value params
  cases value with
  | string text =>
    simp only [textToFloat]
    split
    · exact rfl
    · exact trivial
  | _ => exact trivial

/-- A text that is read by an unusable pattern is refused, as any other text that cannot be read. -/
theorem settles_textToTime : textToTime.Settles .time := by
  intro value params
  cases value with
  | string text =>
    simp only [textToTime]
    split
    · split
      · exact rfl
      · exact trivial
    · split
      · exact rfl
      · exact trivial
  | _ => exact trivial

theorem settles_textToBytes : textToBytes.Settles .bytes := by
  intro value params
  cases value <;> first | exact rfl | exact trivial

theorem settles_bytesToText : bytesToText.Settles .string := by
  intro value params
  cases value with
  | bytes octets =>
    simp only [bytesToText]
    split
    · exact rfl
    · exact trivial
  | _ => exact trivial

theorem settles_intToFloat : intToFloat.Settles .float := by
  intro value params
  cases value <;> first | exact rfl | exact trivial

theorem settles_floatToInt : floatToInt.Settles .int := by
  intro value params
  cases value with
  | float x =>
    simp only [floatToInt]
    split
    · exact rfl
    · exact trivial
  | _ => exact trivial

theorem settles_boolToInt : boolToInt.Settles .int := by
  intro value params
  cases value <;> first | exact rfl | exact trivial

theorem settles_timeToInt : timeToInt.Settles .int := by
  intro value params
  cases value <;> first | exact rfl | exact trivial

theorem settles_intToTime : intToTime.Settles .time := by
  intro value params
  cases value with
  | int n =>
    simp only [intToTime]
    split
    · exact rfl
    · exact trivial
  | _ => exact trivial

theorem settles_durationToInt : durationToInt.Settles .int := by
  intro value params
  cases value with
  | duration d =>
    simp only [durationToInt]
    split
    · exact rfl
    · exact trivial
  | _ => exact trivial

theorem settles_intToDuration : intToDuration.Settles .duration := by
  intro value params
  cases value with
  | int n =>
    simp only [intToDuration]
    split
    · exact trivial
    · exact rfl
  | _ => exact trivial

/-- All built-in conversions settle but the one from times to texts. -/
theorem builtins_settle :
    ∀ entry ∈ builtins, entry.1 ≠ (.time, .string) → entry.2.Settles entry.1.2 := by
  simp only [builtins, List.forall_mem_cons, List.not_mem_nil, false_implies, implies_true, and_true]
  exact ⟨fun _ => settles_toText, fun _ => settles_toText, fun _ => settles_toText, fun _ => settles_toText,
    fun _ => settles_toText, fun other => absurd rfl other, fun _ => settles_textToInt, fun _ => settles_textToFloat,
    fun _ => settles_toTruth, fun _ => settles_textToTime, fun _ => settles_textToBytes, fun _ => settles_bytesToText,
    fun _ => settles_intToFloat, fun _ => settles_floatToInt, fun _ => settles_toTruth, fun _ => settles_boolToInt,
    fun _ => settles_timeToInt, fun _ => settles_intToTime, fun _ => settles_durationToInt,
    fun _ => settles_intToDuration⟩

/-- A time becomes a text, or the pattern cannot be used. -/
theorem timeToText_time (t : Time.Timestamp) (params : Table String) :
    (∃ text, timeToText (.time t) params = .returned (.string text) ∧
        ∀ pattern, params.find? "format" = some pattern → ¬Time.Unusable pattern) ∨
      timeToText (.time t) params = .panicked unusablePattern ∧
        ∃ pattern, params.find? "format" = some pattern ∧ Time.Unusable pattern := by
  simp only [timeToText]
  cases given : params.find? "format" with
  | none => exact .inl ⟨t.text, rfl, fun pattern never => by cases never⟩
  | some pattern =>
    cases written : t.write? pattern with
    | some text =>
      refine .inl ⟨text, by simp only [written], ?_⟩
      rintro other ⟨⟩
      rw [← t.write?_eq_none_iff, written]
      exact Option.some_ne_none text
    | none => exact .inr ⟨by simp only [written], pattern, rfl, (t.write?_eq_none_iff pattern).mp written⟩

/-- A time is to become a text, or octets by way of a text, by a pattern that cannot be used for that. -/
def Unwritable (value : Value) (target : Kind) (params : Table String) : Prop :=
  ∃ t pattern, value = .time t ∧ (target = .string ∨ target = .bytes) ∧
    params.find? "format" = some pattern ∧ Time.Unusable pattern

end Convert

/-! ## Paths -/

namespace Converters

variable {κ : Type} {converters : Converters κ} {edge : Edge}

/-- No converters are registered but the built-in ones. -/
def OnlyBuiltin (converters : Converters κ) : Prop :=
  ∀ edge, converters.at? edge = (standard : Converters κ).at? edge

/-- An edge is registered just if it has a converter. -/
theorem mem_registered_iff : edge ∈ converters.registered ↔ (converters.at? edge).isSome := by
  constructor
  · intro member
    obtain ⟨converter, found⟩ := exists_at? member
    rw [found]
    rfl
  · intro found
    obtain ⟨converter, found⟩ := Option.isSome_iff_exists.mp found
    obtain ⟨before, after, listed, -⟩ := List.lookup_eq_some_iff.mp found
    refine List.mem_map.mpr ⟨(edge, converter), ?_, rfl⟩
    rw [listed]
    exact List.mem_append_right _ List.mem_cons_self

/-- The paths are those over the edges of the built-in converters. -/
theorem OnlyBuiltin.find_eq (builtin : converters.OnlyBuiltin) (edge : Edge) :
    converters.find edge = shortestPath (builtins.map Prod.fst) edge.1 edge.2 := by
  have same : converters.find edge = (standard : Converters κ).find edge :=
    find_congr fun hop => by rw [mem_registered_iff, mem_registered_iff, builtin hop]
  rw [same]
  rfl

/-- A converter that is registered is a built-in one. -/
theorem OnlyBuiltin.exists_builtin (builtin : converters.OnlyBuiltin) (member : edge ∈ converters.registered) :
    ∃ conversion, converters.at? edge = some (.builtin conversion) ∧ (edge, conversion) ∈ builtins := by
  obtain ⟨converter, found⟩ := exists_at? member
  have listed := found
  rw [builtin edge] at listed
  obtain ⟨before, after, split, -⟩ := List.lookup_eq_some_iff.mp listed
  have inside : (edge, converter) ∈ (standard : Converters κ).edges := by
    rw [split]
    exact List.mem_append_right _ List.mem_cons_self
  obtain ⟨⟨own, conversion⟩, member, same⟩ := List.mem_map.mp inside
  cases same
  exact ⟨conversion, found, member⟩

end Converters

namespace Convert

/-- No path that is found goes from times to texts but one that begins so and leads to texts or octets. -/
theorem timeToText_on_path : ∀ source ∈ Kind.all, ∀ target ∈ Kind.all,
    ∀ path ∈ shortestPath (builtins.map Prod.fst) source target, (.time, .string) ∈ hops path →
      source = .time ∧
        (target = .string ∧ path = [.time, .string] ∨ target = .bytes ∧ path = [.time, .string, .bytes]) := by
  decide +kernel

/-- What cannot be written has a path that goes from times to texts. -/
theorem Unwritable.found {value : Value} {target : Kind} {params : Table String}
    (unwritable : Unwritable value target params) :
    ∃ path, shortestPath (builtins.map Prod.fst) value.kind target = some path ∧ (.time, .string) ∈ hops path := by
  have direct : shortestPath (builtins.map Prod.fst) .time .string = some [.time, .string] := by decide +kernel
  have further : shortestPath (builtins.map Prod.fst) .time .bytes = some [.time, .string, .bytes] := by decide +kernel
  obtain ⟨t, pattern, rfl, rfl | rfl, -⟩ := unwritable
  · exact ⟨_, direct, by decide⟩
  · exact ⟨_, further, by decide⟩

end Convert

/-! ## Conversions -/

namespace Engine

variable {κ η : Type} {embedding : Embedding κ η} {fuel : Nat} {engine : Engine κ η} {params : Table String}

/-- Over an edge with a built-in converter it goes on with what that one returns, and ends where it does not return. -/
theorem run_convertAlong_cons {edge : Edge} {conversion : Conversion}
    (found : engine.converters.at? edge = some (.builtin conversion)) (rest : List Edge) (value : Value) :
    run embedding fuel (convertAlong embedding params (edge :: rest) value) engine = run embedding fuel
      (match (conversion value params).mapError (hopFault edge) with
        | .returned next => convertAlong embedding params rest next
        | .failed fault => return .failed fault
        | .panicked panic => return .panicked panic) engine := by
  have looked : run embedding fuel (convertAlong embedding params (edge :: rest) value) engine = _ :=
    run_bind_of_run (run_read (fun engine => engine.converters.at? edge) engine)
  rw [found] at looked
  exact looked

/-- Along a path that does not go from times to texts, a value becomes one of the last kind, or the conversion fails. -/
theorem settled_convertAlong (builtin : engine.converters.OnlyBuiltin) {target : Kind} {path : List Kind} :
    ∀ value : Value, Leads engine.converters.registered value.kind target path → (.time, .string) ∉ hops path →
      ∃ ending, run embedding fuel (convertAlong embedding params (hops path) value) engine = some (ending, engine) ∧
        Settled target ending ∧ FailsAsConversion (.converted ending) := by
  induction path with
  | nil =>
    intro value leads
    cases leads.starts
  | cons first rest ih =>
    intro value leads avoids
    cases rest with
    | nil =>
      have starts : first = value.kind := Option.some.inj leads.starts
      have ends : first = target := Option.some.inj leads.ends
      exact ⟨.returned value, rfl, starts.symm.trans ends, trivial⟩
    | cons second others =>
      have registered := leads.along (first, second) List.mem_cons_self
      obtain ⟨conversion, found, listed⟩ := builtin.exists_builtin registered
      rw [hops, List.mem_cons, not_or] at avoids
      obtain ⟨different, avoids⟩ := avoids
      have settled : Settled second (conversion value params) :=
        builtins_settle _ listed (Ne.symm different) value params
      rw [hops, run_convertAlong_cons found]
      cases converted : conversion value params with
      | returned next =>
        rw [converted] at settled
        have kind : next.kind = second := settled
        exact ih next (kind.symm ▸ leads.tail) avoids
      | failed cause => exact ⟨_, rfl, trivial, (first, second), cause.fullMessage, rfl⟩
      | panicked panic =>
        rw [converted] at settled
        exact settled.elim

/-- A time along a path that goes to texts first becomes a value of the last kind, or the conversion fails, or the
pattern cannot be used. -/
theorem convertAlong_from_time (builtin : engine.converters.OnlyBuiltin) {target : Kind} {rest : List Kind}
    (t : Time.Timestamp) (leads : Leads engine.converters.registered .time target (.time :: .string :: rest))
    (avoids : (.time, .string) ∉ hops (.string :: rest)) :
    (∃ ending, run embedding fuel (convertAlong embedding params (hops (.time :: .string :: rest)) (.time t)) engine =
        some (ending, engine) ∧ Settled target ending ∧ FailsAsConversion (.converted ending) ∧
      ∀ pattern, params.find? "format" = some pattern → ¬Time.Unusable pattern) ∨
    run embedding fuel (convertAlong embedding params (hops (.time :: .string :: rest)) (.time t)) engine =
        some (.panicked unusablePattern, engine) ∧
      ∃ pattern, params.find? "format" = some pattern ∧ Time.Unusable pattern := by
  have found : engine.converters.at? (.time, .string) = some (.builtin timeToText) := builtin _
  rw [hops, run_convertAlong_cons found]
  rcases timeToText_time t params with ⟨text, written, usable⟩ | ⟨panics, unusable⟩
  · obtain ⟨ending, ran, settled, failed⟩ := settled_convertAlong builtin (.string text) leads.tail avoids
    rw [written]
    exact .inl ⟨ending, ran, settled, failed, usable⟩
  · rw [panics]
    exact .inr ⟨rfl, unusable⟩

/-- The conversion of a value of another kind goes along the path that is found. -/
theorem run_convert_of_ne (embedding : Embedding κ η) (fuel : Nat) (current : engine.converters.Current)
    {value : Value} {target : Kind} (params : Table String) (differs : value.kind ≠ target) :
    ∃ kept, (engine.withPaths kept).converters.Current ∧
      run embedding fuel (convert embedding value target params) engine =
        match engine.converters.find (value.kind, target) with
        | none => some (.failed (.conversion value.kind.name target.name "no converter path"), engine.withPaths kept)
        | some path => run embedding fuel (convertAlong embedding params (hops path) value) (engine.withPaths kept) := by
  obtain ⟨kept, looked, right⟩ := run_pathBetween embedding fuel (value.kind, target) current
  refine ⟨kept, right, ?_⟩
  rw [convert, if_neg differs, run_bind_of_run looked]
  cases engine.converters.find (value.kind, target) <;> rfl

/-- How a conversion by built-in converters ended. -/
structure EndsAsKnown (value : Value) (target : Kind) (params : Table String) (ending : Ending Fault Value) : Prop where
  /-- What it returned is of the kind that was asked for. -/
  returned : ∀ result, ending = .returned result → result.kind = target
  /-- If it failed, it failed as a conversion. -/
  failed : FailsAsConversion (.converted ending)
  /-- It panicked just if a time was to be written by an unusable pattern. -/
  panicked : ∀ panic, ending = .panicked panic ↔ panic = unusablePattern ∧ Unwritable value target params

/-- Where nothing is unwritable, it is enough that the conversion settled and failed as one, if it did. -/
theorem EndsAsKnown.of_settled {value : Value} {target : Kind} {ending : Ending Fault Value}
    (settled : Settled target ending) (failed : FailsAsConversion (.converted ending))
    (writable : ¬Unwritable value target params) : EndsAsKnown value target params ending where
  returned := by
    rintro result rfl
    exact settled
  failed := failed
  panicked panic := by
    refine ⟨?_, fun unwritable => absurd unwritable.2 writable⟩
    rintro rfl
    exact settled.elim

/-- A conversion that panicked over an unusable pattern ended as known. -/
theorem EndsAsKnown.of_unwritable {value : Value} {target : Kind} (unwritable : Unwritable value target params) :
    EndsAsKnown value target params (.panicked unusablePattern) where
  returned result never := by cases never
  failed := trivial
  panicked panic := by
    rw [Ending.panicked.injEq, eq_comm]
    exact (and_iff_left unwritable).symm

/-- With no converters but the built-in ones, and right paths kept, each conversion comes to an end as known: it returns
a value of the kind that was asked for, or fails as a conversion, unless a time is to be written by an unusable pattern;
then it panics. Nothing changes but the paths that are kept, and these are right. -/
theorem convert_ends_as_known (embedding : Embedding κ η) (fuel : Nat) (builtin : engine.converters.OnlyBuiltin)
    (current : engine.converters.Current) (value : Value) (target : Kind) (params : Table String) :
    ∃ ending kept, run embedding fuel (convert embedding value target params) engine =
        some (ending, engine.withPaths kept) ∧
      (engine.withPaths kept).converters.Current ∧ EndsAsKnown value target params ending := by
  by_cases same : value.kind = target
  · refine ⟨.returned value, engine.converters.paths, ?_, current, .of_settled same trivial ?_⟩
    · rw [convert, if_pos same]
      rfl
    · rintro ⟨t, pattern, rfl, rfl | rfl, -⟩ <;> cases same
  obtain ⟨kept, right, ran⟩ := run_convert_of_ne embedding fuel current params same
  have known : (engine.withPaths kept).converters.OnlyBuiltin := builtin
  have way := builtin.find_eq (value.kind, target)
  cases found : engine.converters.find (value.kind, target) with
  | none =>
    rw [found] at ran way
    refine ⟨_, kept, ran, right, .of_settled trivial ⟨(value.kind, target), _, rfl⟩ fun unwritable => ?_⟩
    obtain ⟨path, there, -⟩ := unwritable.found
    rw [there] at way
    cases way
  | some path =>
    rw [found] at ran way
    have leads : Leads (engine.withPaths kept).converters.registered value.kind target path :=
      (Converters.isShortest_of_find found).leads
    by_cases writes : (.time, .string) ∈ hops path
    · obtain ⟨source, ways⟩ := timeToText_on_path _ (mem_all _) _ (mem_all _) path way.symm writes
      cases value with
      | time t =>
        obtain ⟨rest, rfl, avoids, texts⟩ : ∃ rest, path = .time :: .string :: rest ∧
            (.time, .string) ∉ hops (.string :: rest) ∧ (target = .string ∨ target = .bytes) := by
          rcases ways with ⟨rfl, rfl⟩ | ⟨rfl, rfl⟩
          · exact ⟨[], rfl, by decide, .inl rfl⟩
          · exact ⟨[.bytes], rfl, by decide, .inr rfl⟩
        rcases convertAlong_from_time known t leads avoids with
          ⟨ending, ended, settled, failed, usable⟩ | ⟨panics, pattern, given, unusable⟩
        · refine ⟨ending, kept, ran.trans ended, right, .of_settled settled failed ?_⟩
          rintro ⟨-, pattern, -, -, given, unusable⟩
          exact usable pattern given unusable
        · exact ⟨_, kept, ran.trans panics, right, .of_unwritable ⟨t, pattern, rfl, texts, given, unusable⟩⟩
      | _ => cases source
    · obtain ⟨ending, ended, settled, failed⟩ := settled_convertAlong known value leads writes
      refine ⟨ending, kept, ran.trans ended, right, .of_settled settled failed fun unwritable => ?_⟩
      obtain ⟨other, there, member⟩ := unwritable.found
      rw [there] at way
      cases way
      exact writes member

/-- The parameters that ask for a time by a directive that there is not. -/
def unknownDirective : Table String := [("format", "%Q")]

/-- A text that cannot be read by an unusable pattern is refused. -/
theorem convert_ends_as_known_standard :
    (standard {} 0 () : Engine Nat Unit).converters.OnlyBuiltin ∧
    (standard {} 0 () : Engine Nat Unit).converters.Current ∧
    ∃ ending kept, run idle 0 (convert idle (.string "now") .time unknownDirective) (standard {} 0 ()) =
        some (ending, (standard {} 0 ()).withPaths kept) ∧
      ((standard {} 0 () : Engine Nat Unit).withPaths kept).converters.Current ∧
      EndsAsKnown (.string "now") .time unknownDirective ending :=
  have builtin : (standard {} 0 () : Engine Nat Unit).converters.OnlyBuiltin := fun _ => rfl
  have current : (standard {} 0 () : Engine Nat Unit).converters.Current := Converters.current_of_fresh rfl
  ⟨builtin, current, convert_ends_as_known idle 0 builtin current (.string "now") .time unknownDirective⟩

/-- A time that is written by it panics. -/
theorem time_by_unknownDirective_panics :
    (run idle 0 (convert idle (.time .epoch) .string unknownDirective) (standard {} 0 ())).map Prod.fst =
      some (.panicked unusablePattern) := by
  rfl

end Engine

end MessageRouting
