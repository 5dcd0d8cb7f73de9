import MessageRouting.Expr.Eval

/-!
# Templates

A template is a text with expressions in braces after a dollar sign. An expression ends at the first closing brace
outside quotes.
-/

namespace MessageRouting

/-- A part of a template. -/
inductive Segment where
  /-- Text that stands for itself. -/
  | text (text : String)
  /-- An expression that is replaced by its text. -/
  | formula (formula : Formula)

/-- A compiled template with its source. -/
structure Template where
  /-- The text it was compiled from. -/
  source : String
  /-- Its parts, in order. -/
  segments : List Segment

/-- The text of a part over an exchange. -/
def Segment.render (x : Exchange) : Segment → Except Fault String
  | .text content => .ok content
  | .formula f => (f.eval x).map Value.text

namespace Template

/-- The characters up to the first closing brace outside quotes; a backslash inside quotes covers the
character after it. -/
def upToBrace : Option Char → List Char → Option (List Char)
  | _, [] => none
  | some quote, '\\' :: c :: rest => (upToBrace (some quote) rest).map ('\\' :: c :: ·)
  | some quote, c :: rest => (upToBrace (if c = quote then none else some quote) rest).map (c :: ·)
  | none, c :: rest =>
    if c = '\x7d' then some []
    else (upToBrace (if c = '\'' || c = '"' then some c else none) rest).map (c :: ·)

/-- Text as a segment, unless it is empty; the text is given backwards. -/
def textSegment (reversed : List Char) : List Segment :=
  if reversed.isEmpty then [] else [.text (String.ofList reversed.reverse)]

/-- The segments of the rest of a template, whose first `inside` characters belong to an expression
already read; `reversed` is the text before, backwards. -/
def segmentsFrom (source : String) :
    Nat → Nat → List Char → List Char → Except Fault (List Segment)
  | _, _, reversed, [] => .ok (textSegment reversed)
  | inside + 1, column, reversed, _ :: rest => segmentsFrom source inside (column + 1) reversed rest
  | 0, column, reversed, c :: rest =>
    if c = '$' && rest.head? == some '\x7b' then
      match upToBrace none rest.tail with
      | none => .error (.expressionCompile source column "unterminated '$\x7b' in template")
      | some inner =>
        match Formula.compile (String.ofList inner) with
        | .error fault => .error fault
        | .ok formula =>
          (segmentsFrom source (inner.length + 2) (column + 1) [] rest).map fun segments =>
            textSegment reversed ++ .formula formula :: segments
    else segmentsFrom source 0 (column + 1) (c :: reversed) rest

/-- Compiles a template. -/
def compile (source : String) : Except Fault Template :=
  (segmentsFrom source 0 1 [] source.toList).map fun segments => ⟨source, segments⟩

/-- The text of parts over an exchange, up to the first that fails. -/
def renderSegments (x : Exchange) : List Segment → Except Fault String
  | [] => .ok ""
  | segment :: rest =>
    match segment.render x with
    | .error fault => .error fault
    | .ok text => (renderSegments x rest).map (text ++ ·)

/-- The text of a template over an exchange. -/
def render (template : Template) (x : Exchange) : Except Fault String :=
  renderSegments x template.segments

end Template

end MessageRouting
