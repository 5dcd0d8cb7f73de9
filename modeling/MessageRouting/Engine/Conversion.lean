import MessageRouting.Engine.State

/-!
# Converting values

A value is converted hop by hop along the path between two kinds. The path is looked up among those found before;
a path that is not known yet is searched in a section of its own and kept in another one.
-/

namespace MessageRouting.Engine

open MessageRouting.Convert

variable {κ η : Type}

/-- Changes the converters. -/
def changeConverters (f : Converters κ → Converters κ) : Work κ η Unit :=
  Program.change fun engine => { engine with converters := f engine.converters }

/-- Registers a converter, in the place of an earlier one of the same edge. -/
def registerConverter (edge : Edge) (converter : Converter κ) : Work κ η Unit := do
  changeConverters (.place edge converter)
  changeConverters .forget

/-- Takes all converters away. -/
def clearConverters : Work κ η Unit := do
  changeConverters .takeAway
  changeConverters .forget

/-- The path between two kinds. -/
def pathBetween (edge : Edge) : Work κ η (Option (List Kind)) := do
  match ← Program.read fun engine => engine.converters.known? edge with
  | some path => return path
  | none =>
    let path ← Program.read fun engine => engine.converters.find edge
    changeConverters (.remember edge path)
    return path

/-- There is a way from one kind to another. -/
def canConvert (source target : Kind) : Work κ η Bool := do
  if source = target then return true
  else return (← pathBetween (source, target)).isSome

/-- Applies a converter. -/
def applyConverter (embedding : Embedding κ η) (converter : Converter κ) (value : Value)
    (params : Table String) : Work κ η (Ending Cause Value) :=
  match converter with
  | .builtin conversion => return conversion value params
  | .custom code => embedding.convert code value params

/-- The fault of a hop that failed. -/
def hopFault (edge : Edge) (cause : Cause) : Fault :=
  .conversion edge.1.name edge.2.name cause.fullMessage

/-- Converts a value along edges. -/
def convertAlong (embedding : Embedding κ η) (params : Table String) :
    List Edge → Value → Work κ η (Ending Fault Value)
  | [], value => return .returned value
  | edge :: rest, value => do
    match ← Program.read fun engine => engine.converters.at? edge with
    | none =>
      return .failed (.internal s!"converter {edge.1.name} -> {edge.2.name} vanished")
    | some converter =>
      match (← applyConverter embedding converter value params).mapError (hopFault edge) with
      | .returned next => convertAlong embedding params rest next
      | .failed fault => return .failed fault
      | .panicked panic => return .panicked panic

/-- Converts a value to a kind. -/
def convert (embedding : Embedding κ η) (value : Value) (target : Kind) (params : Table String) :
    Work κ η (Ending Fault Value) := do
  if value.kind = target then return .returned value
  else
    match ← pathBetween (value.kind, target) with
    | none => return .failed (.conversion value.kind.name target.name "no converter path")
    | some path => convertAlong embedding params (hops path) value

end MessageRouting.Engine
