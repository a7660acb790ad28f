import CsiOperator.Yaml.Character

/-! Scalars that hold whole lines. -/

namespace CsiOperator.Yaml.Block

/-- What becomes of the line breaks at the end. -/
inductive Chomping where
  /-- All of them are dropped. -/
  | strip
  /-- One is kept. -/
  | clip
  /-- All of them are kept. -/
  | keep
  deriving DecidableEq, Repr

/-- The indicators after the mark of a block scalar: chomping, and extra indentation. -/
def header : List Char → Option (Chomping × Option Nat × List Char)
  -- The two marks may come in either order, and each of them only once.
  | '+' :: rest => (increment rest).map fun (n, rest) => (.keep, n, rest)
  | '-' :: rest => (increment rest).map fun (n, rest) => (.strip, n, rest)
  | rest => do
    let (n, rest) ← increment rest
    match n, rest with
    | some n, '+' :: rest => return (.keep, some n, rest)
    | some n, '-' :: rest => return (.strip, some n, rest)
    | n, rest => return (.clip, n, rest)
where
  /-- A digit from one to nine, if there is a digit. -/
  increment : List Char → Option (Option Nat × List Char)
    | c :: rest =>
      if Text.isDigit c then if c == '0' then none else some (some (c.toNat - 48), rest)
      else some (none, c :: rest)
    | [] => some (none, [])

/-- Reads the empty lines before the first other one. Returns the width of the widest, the breaks
with the last first, and the place of the first other character. -/
def leadingLines : (width : Nat) → (breaks : List Char) → Place → List Char →
    Option (Nat × List Char × Cursor)
  -- Blank lines count for the width, too, since they may be wider than the text.
  | width, breaks, p, [] => some (max width p.column, breaks, ⟨p, []⟩)
  | width, breaks, p, c :: rest =>
    if c == ' ' then leadingLines width breaks p.next rest
    else if c == '\t' then none
    else if isBreak c then leadingLines (max width p.column) (c :: breaks) p.newline rest
    else some (max width p.column, breaks, ⟨p, c :: rest⟩)

/-- A block scalar as far as it has been read. -/
structure State where
  /-- The text, last character first. -/
  text : List Char
  /-- The break after the last line of the text. -/
  first : Option Char
  /-- The breaks of the empty lines after it, last first. -/
  more : List Char
  /-- The last line of the text begins with a blank. -/
  blankLine : Bool

/-- The state at the start of a line that is not empty. Between two lines of a folded scalar that do
not begin with a blank, a single line feed becomes a space. -/
def State.startLine (s : State) (literal blank : Bool) : State :=
  -- A break is folded only between lines of text, and blank lines then stand for themselves.
  let folds := !literal && s.first == some '\n' && !s.blankLine && !blank
  let fold := if folds then (if s.more.isEmpty then [' '] else []) else s.first.toList
  { text := s.more ++ (fold ++ s.text), first := none, more := [], blankLine := blank }

/-- Reads on in a block scalar whose lines are indented by `indent`. -/
def scan (literal : Bool) (indent : Nat) : State → (inLine : Bool) → Place → List Char →
    Option (State × Cursor)
  -- Blanks up to the indentation belong to the layout, and those behind it to the text.
  | s, _, p, [] => some (s, ⟨p, []⟩)
  | s, true, p, c :: rest =>
    if isBreak c then scan literal indent { s with first := some c } false p.newline rest
    else scan literal indent { s with text := c :: s.text } true p.next rest
  | s, false, p, c :: rest =>
    if p.column < indent && c == ' ' then scan literal indent s false p.next rest
    else if p.column < indent && c == '\t' then none
    else if isBreak c then scan literal indent { s with more := c :: s.more } false p.newline rest
    else if p.column == indent then
      let s := s.startLine literal (isBlank c)
      scan literal indent { s with text := c :: s.text } true p.next rest
    else some (s, ⟨p, c :: rest⟩)

/-- The text of a block scalar with its last breaks chomped. -/
def State.chomped (s : State) : Chomping → List Char
  -- The first break behind the text is the one that clipping leaves.
  | .strip => s.text.reverse
  | .clip => s.text.reverse ++ s.first.toList
  | .keep => s.text.reverse ++ s.first.toList ++ s.more.reverse

/-- Reads a block scalar from after its mark, inside a collection indented by `parent`. -/
def read (literal : Bool) (parent : Int) (cursor : Cursor) : Option (List Char × Cursor) := do
  -- Behind the marks only a comment may stand on the line.
  let (chomping, increment, rest) ← header cursor.rest
  let afterBlanks := rest.dropWhile isBlank
  let rest :=
    if afterBlanks.head? == some '#' then afterBlanks.dropWhile (!isBreak ·) else afterBlanks
  let p := cursor.place.skip (cursor.rest.length - rest.length)
  let (p, rest) ← match rest with
    | [] => some (p, [])
    | c :: rest => if isBreak c then some (p.newline, rest) else none
  match increment with
  | some n =>
    let indent := if parent ≥ 0 then parent.toNat + n else n
    let (s, cursor) ← scan literal indent ⟨[], none, [], false⟩ false p rest
    return (s.chomped chomping, cursor)
  | none =>
    let (width, breaks, cursor) ← leadingLines 0 [] p rest
    let indent := max (max width (parent + 1).toNat) 1
    let (s, cursor) ← scan literal indent ⟨[], none, breaks, false⟩ false cursor.place cursor.rest
    return (s.chomped chomping, cursor)

end CsiOperator.Yaml.Block
