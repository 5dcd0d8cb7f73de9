import MessageRouting.Convert.Path
import MessageRouting.Number.FloatText
import MessageRouting.Text.Utf8
import MessageRouting.Time.Pattern
import MessageRouting.Value.Printed
import MessageRouting.Value.Truth

/-!
# Built-in conversions

Texts are read and written, times and durations travel as milliseconds, and bytes are texts in UTF-8. The
parameter `format` gives a pattern for times.
-/

namespace MessageRouting.Convert

/-- A conversion of values under parameters. -/
abbrev Conversion : Type := Value → Table String → Ending Cause Value

/-- The refusal of a value of another kind. -/
def unexpected (value : Value) : Ending Cause Value :=
  .failed (.plain s!"unexpected {value.kind.name} value")

/-- Puts a message around the reason of a refusal. -/
def explained (message reason : String) : Ending Cause Value :=
  .failed (.context message (.plain reason))

/-- The plain text of a value. -/
def toText : Conversion := fun value _ => .returned (.string value.text)

/-- The meaning of a value as a condition. -/
def toTruth : Conversion := fun value _ =>
  match value.truth with
  | .ok b => .returned (.bool b)
  | .error fault => .failed (.fault fault)

/-- The panic of a time that is written by an unusable pattern. -/
def unusablePattern : Panic :=
  .text "a Display implementation returned an error unexpectedly: Error"

/-- The text of a time, by a pattern if one is given. -/
def timeToText : Conversion := fun value params =>
  match value, params.find? "format" with
  | .time t, none => .returned (.string t.text)
  | .time t, some pattern =>
    match t.write? pattern with
    | some text => .returned (.string text)
    | none => .panicked unusablePattern
  | other, _ => unexpected other

/-- Reads an integer. -/
def textToInt : Conversion := fun value _ =>
  match value with
  | .string text =>
    match Number.readInt64 (Text.trim text) with
    | .ok n => .returned (.int n)
    | .error fault => explained s!"'{text}' is not an integer" fault.message
  | other => unexpected other

/-- Reads a float. -/
def textToFloat : Conversion := fun value _ =>
  match value with
  | .string text =>
    match Number.readFloat (Text.trim text) with
    | .ok x => .returned (.float x)
    | .error fault => explained s!"'{text}' is not a number" fault.message
  | other => unexpected other

/-- Reads a time, by a pattern if one is given. -/
def textToTime : Conversion := fun value params =>
  match value with
  | .string text =>
    let trimmed := Text.trim text
    match params.find? "format" with
    | some pattern =>
      match Time.Timestamp.readBy pattern trimmed with
      | .ok t => .returned (.time t)
      | .error fault =>
        explained s!"'{trimmed}' does not match format '{pattern}'" fault.message
    | none =>
      match Time.Timestamp.read trimmed with
      | .ok t => .returned (.time t)
      | .error fault => explained s!"'{trimmed}' is not an RFC 3339 timestamp" fault.message
  | other => unexpected other

/-- The octets of a text. -/
def textToBytes : Conversion := fun value _ =>
  match value with
  | .string text => .returned (.bytes text.toUTF8)
  | other => unexpected other

/-- The text of octets. -/
def bytesToText : Conversion := fun value _ =>
  match value with
  | .bytes octets =>
    match Text.Utf8.decode octets with
    | .ok text => .returned (.string text)
    | .error fault => explained "bytes are not valid UTF-8" fault.message
  | other => unexpected other

/-- The float nearest to an integer. -/
def intToFloat : Conversion := fun value _ =>
  match value with
  | .int n => .returned (.float (Number.ofInt64 n))
  | other => unexpected other

/-- The whole part of a float. -/
def floatToInt : Conversion := fun value _ =>
  match value with
  | .float x => if Number.isFinite x then .returned (.int (Number.truncate x)) else unexpected value
  | other => unexpected other

/-- One for true and zero for false. -/
def boolToInt : Conversion := fun value _ =>
  match value with
  | .bool b => .returned (.int (if b then 1 else 0))
  | other => unexpected other

/-- The milliseconds of a time. -/
def timeToInt : Conversion := fun value _ =>
  match value with
  | .time t => .returned (.int (Int64.ofInt t.millis))
  | other => unexpected other

/-- The time at some milliseconds. -/
def intToTime : Conversion := fun value _ =>
  match value with
  | .int n =>
    match Time.Timestamp.ofMillis? n.toInt with
    | some t => .returned (.time t)
    | none => .failed (.plain s!"{n.toInt} ms is out of range for a timestamp")
  | other => unexpected other

/-- The milliseconds of a duration. -/
def durationToInt : Conversion := fun value _ =>
  match value with
  | .duration d =>
    if d.millis < 9223372036854775808 then .returned (.int (Int64.ofNat d.millis))
    else explained "duration too large" Number.IntegerFault.tooLarge.message
  | other => unexpected other

/-- The duration of some milliseconds. -/
def intToDuration : Conversion := fun value _ =>
  match value with
  | .int n =>
    if n < 0 then
      explained "a duration cannot be negative" Number.IntegerFault.tooSmall.message
    else .returned (.duration (Time.Duration.ofMillis n.toInt.toNat))
  | other => unexpected other

/-- The built-in conversions. -/
def builtins : List (Edge × Conversion) :=
  [((.int, .string), toText), ((.float, .string), toText), ((.bool, .string), toText),
   ((.duration, .string), toText), ((.error, .string), toText), ((.time, .string), timeToText),
   ((.string, .int), textToInt), ((.string, .float), textToFloat), ((.string, .bool), toTruth),
   ((.string, .time), textToTime), ((.string, .bytes), textToBytes),
   ((.bytes, .string), bytesToText), ((.int, .float), intToFloat), ((.float, .int), floatToInt),
   ((.int, .bool), toTruth), ((.bool, .int), boolToInt), ((.time, .int), timeToInt),
   ((.int, .time), intToTime), ((.duration, .int), durationToInt),
   ((.int, .duration), intToDuration)]

end MessageRouting.Convert
