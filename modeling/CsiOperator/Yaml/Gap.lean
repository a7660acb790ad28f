import CsiOperator.Yaml.Character

/-! Blanks and line breaks inside a scalar, and the text they fold to. -/

namespace CsiOperator.Yaml

/-- The blanks and breaks since the last other character. -/
structure Gap where
  /-- The blanks, last first, as long as there is no break. -/
  blanks : List Char
  /-- A line has ended. -/
  broken : Bool
  /-- The break that ended it, unless that one was escaped. -/
  first : Option Char
  /-- The breaks after it, last first. -/
  more : List Char

namespace Gap

/-- No blanks and no breaks. -/
def none : Gap :=
  ⟨[], false, Option.none, []⟩

/-- An escaped break, which folds to nothing. -/
def escapedBreak : Gap :=
  ⟨[], true, Option.none, []⟩

/-- A gap with one more blank; blanks at the start of a line do not count. -/
def blank (g : Gap) (c : Char) : Gap :=
  if g.broken then g else { g with blanks := c :: g.blanks }

/-- A gap with one more break; blanks before it no longer count. -/
def newline (g : Gap) (c : Char) : Gap :=
  -- The first break is told from the later ones, because it alone may become a space.
  if g.broken then { g with more := c :: g.more }
  else { blanks := [], broken := true, first := some c, more := [] }

/-- What a gap folds to: a single line feed to a space, and further breaks to themselves. -/
def text (g : Gap) : List Char :=
  -- A break that is not a line feed stays as it is, whatever follows.
  if g.broken then
    match g.first with
    | some '\n' => if g.more.isEmpty then [' '] else g.more.reverse
    | first => first.toList ++ g.more.reverse
  else g.blanks.reverse

end Gap

end CsiOperator.Yaml
