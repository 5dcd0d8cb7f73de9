import MessageRouting.Value.Kind

/-!
# Paths of conversions

Conversions between kinds are the edges of a graph. The search goes from a kind outwards: the kind that waits longest is
looked at next, and the kinds that it leads to are discovered from it, in the order of kinds, unless they were before.
When the target is looked at, the way back is read off from where each kind was discovered. So the search finds a
shortest path, and of the shortest ones the first in the order of kinds.
-/

namespace MessageRouting.Convert

/-- A conversion from one kind to another. -/
abbrev Edge : Type := Kind × Kind

/-- Puts a kind in its place among kinds in order. -/
def insertInOrder (kind : Kind) : List Kind → List Kind
  | [] => [kind]
  | first :: rest =>
    if first.place < kind.place then first :: insertInOrder kind rest else kind :: first :: rest

/-- The kinds that an edge leads to from a kind, in order. -/
def neighbours (edges : List Edge) (kind : Kind) : List Kind :=
  ((edges.filter fun edge => edge.1 = kind).map Prod.snd).foldr insertInOrder []

/-- How far a search has come. -/
structure Frontier where
  /-- The kinds that were discovered, each with the kind from which it was; the source is not among them. -/
  previous : List (Kind × Kind)
  /-- The kinds that were discovered and not looked at, in the order in which they were discovered. -/
  queue : List Kind

/-- Discovers a kind from another one, unless it is the source or was discovered before. -/
def Frontier.discover (source kind : Kind) (frontier : Frontier) (next : Kind) : Frontier :=
  if next = source ∨ (frontier.previous.lookup next).isSome then frontier
  else ⟨(next, kind) :: frontier.previous, frontier.queue ++ [next]⟩

/-- Discovers what a kind leads to. -/
def Frontier.expand (edges : List Edge) (source kind : Kind) (frontier : Frontier) : Frontier :=
  (neighbours edges kind).foldl (Frontier.discover source kind) frontier

/-- Goes back from a kind to where the search began and puts the kinds on the way in front of a path. There is no answer
where so many steps are not enough. -/
def traceBack (previous : List (Kind × Kind)) : Nat → Kind → List Kind → Option (List Kind)
  | 0, _, _ => none
  | steps + 1, kind, path =>
    match previous.lookup kind with
    | some earlier => traceBack previous steps earlier (earlier :: path)
    | none => some path

/-- Searches on from where it has come. There is no answer where so many rounds are not enough, or so many steps back
from the target. -/
def searchOn (edges : List Edge) (source target : Kind) (steps : Nat) :
    Nat → Frontier → Option (Option (List Kind))
  | 0, _ => none
  | _ + 1, ⟨_, []⟩ => some none
  | rounds + 1, ⟨previous, kind :: waiting⟩ =>
    if kind = target then (traceBack previous steps target [target]).map some
    else searchOn edges source target steps rounds (Frontier.expand edges source kind ⟨previous, waiting⟩)

/-- Searches a path between two kinds, with so many rounds and so many steps back at most. -/
def searchWithin (limit : Nat) (edges : List Edge) (source target : Kind) : Option (Option (List Kind)) :=
  searchOn edges source target limit limit ⟨[], [source]⟩

/-- The path that is found between two kinds. No search takes more rounds than there are kinds and one for the end. -/
def shortestPath (edges : List Edge) (source target : Kind) : Option (List Kind) :=
  (searchWithin (Kind.all.length + 1) edges source target).getD none

/-- The edges of a path. -/
def hops : List Kind → List Edge
  | a :: b :: rest => (a, b) :: hops (b :: rest)
  | _ => []

end MessageRouting.Convert
