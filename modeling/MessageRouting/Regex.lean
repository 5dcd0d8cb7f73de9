import MessageRouting.Regex.Match
import MessageRouting.Regex.Parser

/-!
# Compiled patterns

A pattern keeps the text it was written as beside what it means.
-/

namespace MessageRouting

/-- A compiled pattern. -/
structure Regex where
  /-- The text of the pattern. -/
  source : String
  /-- What the pattern means. -/
  node : Regex.Node
  deriving Repr, DecidableEq

namespace Regex

/-- Compiles a pattern, if it is well formed. -/
def compile? (source : String) : Option Regex := (parse source).map fun node => ⟨source, node⟩

/-- The diagnostics of a pattern that is not well formed. -/
def diagnostics (source : String) : String := s!"regex parse error:\n    {source}"

/-- The pattern matches some part of a text. -/
def isMatch (regex : Regex) (text : String) : Bool := regex.node.occursIn text

end Regex

end MessageRouting
