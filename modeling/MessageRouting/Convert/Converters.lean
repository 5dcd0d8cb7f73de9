import MessageRouting.Convert.Builtin

/-!
# Converters and the paths between kinds

The registered converters, and the paths that were found before. Registering a converter forgets all paths; that
happens in a second section, after the converter is in place.
-/

namespace MessageRouting

open MessageRouting.Convert

/-- A converter. -/
inductive Converter (κ : Type) where
  /-- A built-in one. -/
  | builtin (conversion : Conversion)
  /-- One of the embedding program. -/
  | custom (code : κ)

/-- The registered converters. -/
structure Converters (κ : Type) where
  /-- The converters by their edges. -/
  edges : List (Edge × Converter κ)
  /-- The paths found so far; `none` where there is none. -/
  paths : List (Edge × Option (List Kind))

namespace Converters

variable {κ : Type}

/-- No converters. -/
def empty : Converters κ := ⟨[], []⟩

/-- The built-in converters. -/
def standard : Converters κ := ⟨builtins.map fun (edge, conversion) => (edge, .builtin conversion), []⟩

instance : Inhabited (Converters κ) := ⟨empty⟩

/-- The converter of an edge. -/
def at? (converters : Converters κ) (edge : Edge) : Option (Converter κ) := converters.edges.lookup edge

/-- The path found before between two kinds. -/
def known? (converters : Converters κ) (edge : Edge) : Option (Option (List Kind)) :=
  converters.paths.lookup edge

/-- The path between two kinds over the converters that are registered now. -/
def find (converters : Converters κ) (edge : Edge) : Option (List Kind) :=
  shortestPath (converters.edges.map Prod.fst) edge.1 edge.2

/-- Keeps a path. -/
def remember (edge : Edge) (path : Option (List Kind)) (converters : Converters κ) : Converters κ :=
  { converters with paths := (edge, path) :: converters.paths.filter (·.1 != edge) }

/-- Puts a converter in place. -/
def place (edge : Edge) (converter : Converter κ) (converters : Converters κ) : Converters κ :=
  { converters with edges := (edge, converter) :: converters.edges.filter (·.1 != edge) }

/-- Takes all converters away. -/
def takeAway (converters : Converters κ) : Converters κ := { converters with edges := [] }

/-- Forgets all paths. -/
def forget (converters : Converters κ) : Converters κ := { converters with paths := [] }

end Converters

end MessageRouting
