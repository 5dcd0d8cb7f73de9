import MessageRouting.Proofs.Convert.Builtins
import MessageRouting.Proofs.Text.Utf8
import MessageRouting.Proofs.Time.Rfc3339

/-!
# Conversions there and back

Many built-in conversions come in pairs, one for each direction. For each pair it is known which values come back from
there as they were. As a registered conversion is the whole of the path that is found between its kinds, this is so for
the conversions of an engine too, whatever it converted before.
-/

namespace MessageRouting

/-- What returned with its failures in other words returned before. -/
theorem Ending.mapError_eq_returned_iff {ε δ α : Type} {f : ε → δ} {ending : Ending ε α} {value : α} :
    ending.mapError f = .returned value ↔ ending = .returned value := by
  cases ending <;> simp [Ending.mapError]

/-! ## Milliseconds -/

namespace Time

/-- A duration of whole milliseconds is the duration of as many. -/
theorem Duration.ofMillis_millis {d : Duration} (whole : d.nanos % 1000000 = 0) : Duration.ofMillis d.millis = d := by
  have nanos : d.millis * 1000000 = d.nanos := Nat.div_mul_cancel (Nat.dvd_of_mod_eq_zero whole)
  rw [Duration.ofMillis, nanos, Duration.ofNanos?, dif_pos d.bounded]
  rfl

/-- A duration of some milliseconds has as many, if they are within the bounds. -/
theorem Duration.millis_ofMillis {millis : Nat} (bounded : millis < 9223372036854775808) :
    (Duration.ofMillis millis).millis = millis := by
  have fits : millis * 1000000 < 18446744073709551616 * nanosPerSecond := by
    unfold nanosPerSecond
    omega
  rw [Duration.ofMillis, Duration.ofNanos?, dif_pos fits]
  exact Nat.mul_div_cancel millis (by decide)

/-- The time at some milliseconds is at as many. -/
theorem Timestamp.millis_of_ofMillis? {millis : Int} {t : Timestamp} (made : Timestamp.ofMillis? millis = some t) :
    t.millis = millis := by
  obtain ⟨seconds, nanos⟩ := Timestamp.ofParts?_eq_some_iff.mp made
  rw [Timestamp.millis, ← seconds, ← nanos, fdiv_of_pos _ (by decide), Int.fmod_eq_emod_of_nonneg _ (by decide)]
  omega

end Time

/-! ## Pairs of conversions -/

namespace Convert

/-- Without parameters a value is converted to one of a kind, and that one is converted back to the value. -/
def LeadsBack (there back : Conversion) (value : Value) (target : Kind) : Prop :=
  ∃ between, there value [] = .returned between ∧ between.kind = target ∧ back between [] = .returned value

/-- An integer comes back from its digits. -/
theorem leadsBack_int_text (n : Int64) : LeadsBack toText textToInt (.int n) .string := by
  refine ⟨.string (toString n.toInt), rfl, rfl, ?_⟩
  simp only [textToInt, Text.trim_toString, Number.readInt64_toString]

/-- A truth value comes back from its name. -/
theorem leadsBack_bool_text (b : Bool) : LeadsBack toText toTruth (.bool b) .string := by
  cases b
  · exact ⟨.string "false", rfl, rfl, rfl⟩
  · exact ⟨.string "true", rfl, rfl, rfl⟩

/-- A truth value comes back from zero or one. -/
theorem leadsBack_bool_int (b : Bool) : LeadsBack boolToInt toTruth (.bool b) .int := by
  cases b
  · exact ⟨.int 0, rfl, rfl, rfl⟩
  · exact ⟨.int 1, rfl, rfl, rfl⟩

/-- A text comes back from its octets. -/
theorem leadsBack_text_bytes (text : String) : LeadsBack textToBytes bytesToText (.string text) .bytes := by
  refine ⟨.bytes text.toUTF8, rfl, rfl, ?_⟩
  simp only [bytesToText, Text.Utf8.decode_eq_ok_iff.mpr rfl]

/-- Valid octets come back from their text. -/
theorem leadsBack_bytes_text {octets : ByteArray} (valid : octets.IsValidUTF8) :
    LeadsBack bytesToText textToBytes (.bytes octets) .string := by
  refine ⟨.string (String.fromUTF8 octets valid), ?_, rfl, rfl⟩
  simp only [bytesToText, Text.Utf8.decode_eq_ok_iff.mpr (show (String.fromUTF8 octets valid).toUTF8 = octets from rfl)]

/-- A duration of whole milliseconds comes back from their number, if that is one of 64 bits. -/
theorem leadsBack_duration_int {d : Time.Duration} (whole : d.nanos % 1000000 = 0)
    (fits : d.millis ≤ 9223372036854775807) : LeadsBack durationToInt intToDuration (.duration d) .int := by
  have number : (Int64.ofNat d.millis).toInt = d.millis := Int64.toInt_ofNat_of_lt (Nat.lt_succ_of_le fits)
  have positive : ¬Int64.ofNat d.millis < 0 := by
    rw [Int64.lt_iff_toInt_lt, number]
    exact Int.not_lt.mpr (Int.natCast_nonneg _)
  refine ⟨.int (Int64.ofNat d.millis), ?_, rfl, ?_⟩
  · simp only [durationToInt, if_pos (Nat.lt_succ_of_le fits)]
  · simp only [intToDuration, if_neg positive, number, Int.toNat_natCast, Time.Duration.ofMillis_millis whole]

/-- An integer that is converted to a duration comes back from it. -/
theorem leadsBack_int_duration {n : Int64} {made : Value} (succeeded : intToDuration (.int n) [] = .returned made) :
    LeadsBack intToDuration durationToInt (.int n) .duration := by
  have positive : ¬n < 0 := by
    intro negative
    simp only [intToDuration, if_pos negative, explained] at succeeded
    cases succeeded
  have bounded := n.toInt_lt
  rw [Int64.lt_iff_toInt_lt] at positive
  have number : ((n.toInt.toNat : Nat) : Int) = n.toInt := Int.toNat_of_nonneg (Int.not_lt.mp positive)
  have small : n.toInt.toNat < 9223372036854775808 := by omega
  refine ⟨.duration (Time.Duration.ofMillis n.toInt.toNat), ?_, rfl, ?_⟩
  · simp only [intToDuration, Int64.lt_iff_toInt_lt, if_neg positive]
  · have back : Int64.ofNat n.toInt.toNat = n := by
      rw [← Int64.toInt_inj, Int64.toInt_ofNat_of_lt small, number]
    simp only [durationToInt, Time.Duration.millis_ofMillis small, if_pos small, back]

/-- An integer that is converted to a time comes back from it. -/
theorem leadsBack_int_time {n : Int64} {made : Value} (succeeded : intToTime (.int n) [] = .returned made) :
    LeadsBack intToTime timeToInt (.int n) .time := by
  simp only [intToTime] at succeeded
  cases found : Time.Timestamp.ofMillis? n.toInt with
  | none =>
    rw [found] at succeeded
    cases succeeded
  | some t =>
    refine ⟨.time t, ?_, rfl, ?_⟩
    · simp only [intToTime, found]
    · simp only [timeToInt, Time.Timestamp.millis_of_ofMillis? found, Int64.ofInt_toInt]

/-- A time in a year of four digits comes back from its text, unless it is in a leap second within a minute. -/
theorem leadsBack_time_text_iff {t : Time.Timestamp} (least : 0 ≤ t.date.year) (greatest : t.date.year ≤ 9999) :
    LeadsBack timeToText textToTime (.time t) .string ↔ t.OnClock := by
  rw [← Time.Timestamp.read_text_iff least greatest]
  have back : textToTime (.string t.text) [] = .returned (.time t) ↔ Time.Timestamp.read t.text = .ok t := by
    simp only [textToTime, Table.find?, Time.Timestamp.trim_text least greatest, explained]
    cases Time.Timestamp.read t.text <;> simp
  rw [← back]
  constructor
  · rintro ⟨between, there, -, returned⟩
    obtain rfl : Value.string t.text = between := Ending.returned.inj there
    exact returned
  · exact fun returned => ⟨.string t.text, rfl, rfl, returned⟩

/-- A registered conversion between two kinds is the whole of the path that is found between them. -/
theorem path_of_registered : ∀ edge ∈ builtins.map Prod.fst,
    edge.1 ≠ edge.2 ∧ shortestPath (builtins.map Prod.fst) edge.1 edge.2 = some [edge.1, edge.2] := by
  decide +kernel

end Convert

/-! ## Conversions of an engine -/

namespace Engine

open MessageRouting.Convert

variable {κ η : Type} {embedding : Embedding κ η} {fuel : Nat} {engine : Engine κ η}

/-- Between kinds with a built-in converter a value is converted by just that one. -/
theorem run_convert_registered (embedding : Embedding κ η) (fuel : Nat) (builtin : engine.converters.OnlyBuiltin)
    (current : engine.converters.Current) {value : Value} {target : Kind} {conversion : Conversion}
    (found : (Converters.standard : Converters κ).at? (value.kind, target) = some (.builtin conversion))
    (params : Table String) :
    ∃ kept, (engine.withPaths kept).converters.Current ∧
      run embedding fuel (convert embedding value target params) engine =
        some ((conversion value params).mapError (hopFault (value.kind, target)), engine.withPaths kept) := by
  have registered : (value.kind, target) ∈ (Converters.standard : Converters κ).registered := by
    rw [Converters.mem_registered_iff, found]
    rfl
  have listed : (value.kind, target) ∈ builtins.map Prod.fst := by
    rwa [Converters.registered, Converters.standard, List.map_map] at registered
  obtain ⟨differs, direct⟩ := path_of_registered _ listed
  obtain ⟨kept, right, ran⟩ := run_convert_of_ne embedding fuel current params differs
  have here : (engine.withPaths kept).converters.at? (value.kind, target) = some (.builtin conversion) :=
    (builtin _).trans found
  refine ⟨kept, right, ran.trans ?_⟩
  rw [builtin.find_eq, direct]
  simp only [hops, run_convertAlong_cons here]
  cases conversion value params <;> rfl

/-- The conversion of a value to a kind returns, if no parameters are given. -/
def Converts (embedding : Embedding κ η) (fuel : Nat) (engine : Engine κ η) (value : Value) (target : Kind) : Prop :=
  ∃ made after, run embedding fuel (convert embedding value target []) engine = some (.returned made, after)

/-- A value is converted to a kind without parameters, and what it became is converted back to the value; nothing else
changes but the paths that are kept. -/
def ComesBack (embedding : Embedding κ η) (fuel : Nat) (engine : Engine κ η) (value : Value) (target : Kind) : Prop :=
  ∃ between kept later, between.kind = target ∧
    run embedding fuel (convert embedding value target []) engine = some (.returned between, engine.withPaths kept) ∧
    run embedding fuel (convert embedding between value.kind []) (engine.withPaths kept) =
      some (.returned value, engine.withPaths later)

/-- A value comes back from a kind just if it does so by the pair of converters that is registered for the kinds. -/
theorem comesBack_iff (builtin : engine.converters.OnlyBuiltin) (current : engine.converters.Current) {value : Value}
    {target : Kind} {there back : Conversion}
    (foundThere : (Converters.standard : Converters κ).at? (value.kind, target) = some (.builtin there))
    (foundBack : (Converters.standard : Converters κ).at? (target, value.kind) = some (.builtin back)) :
    ComesBack embedding fuel engine value target ↔ LeadsBack there back value target := by
  obtain ⟨kept, right, ran⟩ := run_convert_registered embedding fuel builtin current foundThere []
  have same : (engine.withPaths kept).converters.OnlyBuiltin := builtin
  constructor
  · rintro ⟨between, _, later, rfl, first, second⟩
    obtain ⟨_, -, ranBack⟩ := run_convert_registered embedding fuel same right foundBack []
    obtain ⟨returned, after⟩ := Prod.mk.inj (Option.some.inj (ran.symm.trans first))
    rw [← after] at second
    have returnedBack := (Prod.mk.inj (Option.some.inj (ranBack.symm.trans second))).1
    exact ⟨between, Ending.mapError_eq_returned_iff.mp returned, rfl, Ending.mapError_eq_returned_iff.mp returnedBack⟩
  · rintro ⟨between, returned, rfl, returnedBack⟩
    obtain ⟨later, -, ranBack⟩ := run_convert_registered embedding fuel same right foundBack []
    rw [returned] at ran
    rw [returnedBack] at ranBack
    exact ⟨between, kept, later, rfl, ran, ranBack⟩

/-- What an engine converts by a registered converter, that one converts. -/
theorem Converts.exists_returned (builtin : engine.converters.OnlyBuiltin) (current : engine.converters.Current)
    {value : Value} {target : Kind} {conversion : Conversion}
    (found : (Converters.standard : Converters κ).at? (value.kind, target) = some (.builtin conversion))
    (converts : Converts embedding fuel engine value target) : ∃ made, conversion value [] = .returned made := by
  obtain ⟨made, after, returned⟩ := converts
  obtain ⟨kept, -, ran⟩ := run_convert_registered embedding fuel builtin current found []
  have same := (Prod.mk.inj (Option.some.inj (ran.symm.trans returned))).1
  exact ⟨made, Ending.mapError_eq_returned_iff.mp same⟩

/-- The values that come back from other kinds. -/
structure KeepsValues (embedding : Embedding κ η) (fuel : Nat) (engine : Engine κ η) : Prop where
  /-- Each integer comes back from its text. -/
  int_text : ∀ n, ComesBack embedding fuel engine (.int n) .string
  /-- Each truth value comes back from its text. -/
  bool_text : ∀ b, ComesBack embedding fuel engine (.bool b) .string
  /-- Each truth value comes back from its integer. -/
  bool_int : ∀ b, ComesBack embedding fuel engine (.bool b) .int
  /-- Each text comes back from its octets. -/
  text_bytes : ∀ text, ComesBack embedding fuel engine (.string text) .bytes
  /-- Each sequence of octets that is valid UTF-8 comes back from its text. -/
  bytes_text : ∀ octets : ByteArray, octets.IsValidUTF8 → ComesBack embedding fuel engine (.bytes octets) .string
  /-- Each duration of at most 2^63 - 1 whole milliseconds comes back from their number. -/
  duration_int : ∀ d : Time.Duration, d.nanos % 1000000 = 0 → d.millis ≤ 9223372036854775807 →
    ComesBack embedding fuel engine (.duration d) .int
  /-- Each integer that is converted to a duration comes back from it. -/
  int_duration : ∀ n, Converts embedding fuel engine (.int n) .duration →
    ComesBack embedding fuel engine (.int n) .duration
  /-- Each integer that is converted to a time comes back from it. -/
  int_time : ∀ n, Converts embedding fuel engine (.int n) .time → ComesBack embedding fuel engine (.int n) .time
  /-- Of the times in the years 0 to 9999, just those come back from their text that RFC 3339 can write: a leap second
  within a minute is written as the second after it. -/
  time_text : ∀ t : Time.Timestamp, 0 ≤ t.date.year → t.date.year ≤ 9999 →
    (ComesBack embedding fuel engine (.time t) .string ↔ t.OnClock)

end Engine

end MessageRouting
