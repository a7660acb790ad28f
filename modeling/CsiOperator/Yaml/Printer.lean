import CsiOperator.Yaml.Scalar

/-! YAML text in block style, with quotes only where a scalar would be read otherwise. -/

namespace CsiOperator.Yaml

/-- How a scalar is written. -/
inductive Style where
  /-- Without quotes. -/
  | plain
  /-- Between single quotes. -/
  | single
  /-- Between double quotes. -/
  | double
  /-- Line by line. -/
  | literal
  deriving DecidableEq, Repr

namespace Style

/-- A character that may be written as it is. -/
def isPrintable (c : Char) : Bool :=
  -- The line feed is the only control among them.
  let n := c.toNat
  n == 0xA || (0x20 ≤ n && n ≤ 0x7E) || (0xA0 ≤ n && n ≤ 0xFFFD && c != byteOrderMark) ||
    0x10000 ≤ n

/-- A line break of any spelling. -/
def isAnyBreak (c : Char) : Bool :=
  isBreak c || c == '\r' || c == '\u0085'

/-- A blank, a break or the end is next. -/
def endsHere : List Char → Bool
  | [] => true
  | c :: _ => isBlank c || isAnyBreak c

/-- An indicator at the start of a text would be read as one. -/
def startsIndicator : List Char → Bool
  -- Three equal marks could be a boundary, which a text may not begin with.
  | [] => false
  | c :: rest =>
    ['#', ',', '[', ']', '\x7b', '\x7d', '&', '*', '!', '|', '>', '\'', '"', '%', '@',
      '\x60'].contains c ||
    ((c == '?' || c == ':' || c == '-') && endsHere rest) ||
    ((c == '-' || c == '.') && rest.take 2 == [c, c])

/-- A colon before a gap or a number sign after one would be read as an indicator. -/
def holdsIndicator : (afterGap : Bool) → List Char → Bool
  -- What stands behind a gap is known only with the character in front of it.
  | _, [] => false
  | afterGap, c :: rest =>
    (c == ':' && endsHere rest) || (c == '#' && afterGap) ||
      holdsIndicator (endsHere [c]) rest

/-- One character of the first kind stands right before one of the second. -/
def holdsPair (first second : Char → Bool) : List Char → Bool
  -- Pairs may overlap, so the second character is looked at again.
  | a :: b :: rest => (first a && second b) || holdsPair first second (b :: rest)
  | _ => false

/-- A space. -/
def isSpace (c : Char) : Bool :=
  c == ' '

/-- Some character cannot be written as it is, or a space before a break would be lost. -/
def needsDouble (cs : List Char) : Bool :=
  cs.any (!isPrintable ·) || holdsPair isSpace isAnyBreak cs

/-- Single quotes would lose a space after a break. -/
def allowsSingle (cs : List Char) : Bool :=
  !needsDouble cs && !holdsPair isAnyBreak isSpace cs

/-- Lines would lose a space at the end. -/
def allowsLiteral (cs : List Char) : Bool :=
  !needsDouble cs && cs.getLast? != some ' '

/-- A text that reads back as itself without quotes. -/
def allowsPlain (cs : List Char) : Bool :=
  -- Quotes around it must not be needed, for its characters or for its ends.
  allowsSingle cs && !cs.any isAnyBreak && cs.head? != some ' ' && cs.getLast? != some ' ' &&
    !startsIndicator cs && !holdsIndicator false (cs.drop 1)

/-- A text that would not be read as a text without quotes. -/
def isAmbiguous (s : String) : Bool :=
  -- A text with a leading zero is one, but other readers might take it for a number.
  match Meaning.ofPlain s with
  | .text _ => Meaning.hasLeadingZero s.toList
  | _ => true

/-- The style of a text: lines if it holds a line feed, no quotes if it needs none. -/
def of (s : String) : Style :=
  -- Lines come first, then as few quotes as will do.
  let cs := s.toList
  if cs.contains '\n' then if allowsLiteral cs then .literal else .double
  else if !isAmbiguous s && allowsPlain cs then .plain
  else if allowsSingle cs then .single
  else .double

end Style

namespace Printer

/-- The blanks before the lines of a scalar. -/
def indentation : List Char :=
  [' ', ' ', ' ', ' ']

/-- The text between single quotes: a quote is doubled, and what follows a break is indented. -/
def single : (afterBreak : Bool) → List Char → List Char
  -- A break at the end leaves indentation behind, so the closing quote is indented as well.
  | afterBreak, [] => if afterBreak then indentation else []
  | afterBreak, c :: rest =>
    if isBreak c then c :: single true rest
    else
      let written := if c == '\'' then ['\'', '\''] else [c]
      (if afterBreak then indentation else []) ++ written ++ single false rest

/-- The lines of a literal scalar: each that is not empty is indented. -/
def literal : (afterBreak : Bool) → List Char → List Char
  -- A line that is empty has no indentation to write.
  | _, [] => []
  | afterBreak, c :: rest =>
    if isBreak c then c :: literal true rest
    else (if afterBreak then indentation else []) ++ c :: literal false rest

/-- The marks after that of a literal scalar: a width if it cannot be seen, and what becomes of the
breaks at the end. -/
def hints (cs : List Char) : List Char :=
  -- The width cannot be seen where the first line begins with a blank or is empty.
  let width := if cs.head?.any fun c => c == ' ' || isBreak c then ['2'] else []
  let chomping := match cs.reverse with
    | [] => ['-']
    | [c] => if isBreak c then ['+'] else ['-']
    | c :: d :: _ => if !isBreak c then ['-'] else if isBreak d then ['+'] else []
  width ++ chomping

/-- An upper-case hexadecimal number of a fixed width. -/
def hexadecimal (width n : Nat) : List Char :=
  ((Text.padded width (Text.hexadecimal n)).toList).map Char.toUpper

/-- A character between double quotes. -/
def escaped (c : Char) : List Char :=
  -- Short names come first, and then a number with as many digits as the character needs.
  match c with
  | '\x00' => ['\\', '0']
  | '\x07' => ['\\', 'a']
  | '\x08' => ['\\', 'b']
  | '\t' => ['\\', 't']
  | '\n' => ['\\', 'n']
  | '\x0b' => ['\\', 'v']
  | '\x0c' => ['\\', 'f']
  | '\r' => ['\\', 'r']
  | '\x1b' => ['\\', 'e']
  | '"' => ['\\', '"']
  | '\\' => ['\\', '\\']
  | '\u0085' => ['\\', 'N']
  | '\u2028' => ['\\', 'L']
  | '\u2029' => ['\\', 'P']
  | c =>
    if Style.isPrintable c then [c]
    else if c.toNat ≤ 0xFF then '\\' :: 'x' :: hexadecimal 2 c.toNat
    else if c.toNat ≤ 0xFFFF then '\\' :: 'u' :: hexadecimal 4 c.toNat
    else '\\' :: 'U' :: hexadecimal 8 c.toNat

/-- A scalar in its style. -/
def scalar (s : String) : List Char :=
  -- The style has been chosen so that the text is read back from this.
  let cs := s.toList
  match Style.of s with
  | .plain => cs
  | .single => '\'' :: single false cs ++ ['\'']
  | .double => '"' :: cs.flatMap escaped ++ ['"']
  | .literal => '|' :: hints cs ++ '\n' :: literal true cs

/-- The line of a scalar is ended, unless the scalar has ended it. -/
def line (s : String) : List Char :=
  -- A literal scalar ends with a break of its own, unless its text does not.
  let written := scalar s
  if written.getLast?.any isBreak then written else written ++ ['\n']

end Printer

/-- What may stand under a key. -/
inductive Written where
  /-- A text. -/
  | text (value : String)
  /-- A list of texts, at least one. -/
  | texts (items : List String)

namespace Written

/-- A key with its value, in the column after the mark of a list item. -/
def entry (key : String) : Written → List Char
  -- Items of a list are indented like their key, by two columns.
  | .text s => key.toList ++ [':', ' '] ++ Printer.line s
  | .texts items =>
    key.toList ++ [':', '\n'] ++ items.flatMap fun s => [' ', ' ', '-', ' '] ++ Printer.line s

/-- A map as an item of a list. -/
def record : List (String × Written) → List Char
  -- A map without entries has no line to begin, so it is written in braces.
  | [] => ['-', ' ', '\x7b', '\x7d', '\n']
  | (key, value) :: rest =>
    ['-', ' '] ++ entry key value ++ rest.flatMap fun (key, value) => [' ', ' '] ++ entry key value

/-- A list of maps. -/
def records (items : List (List (String × Written))) : String :=
  if items.isEmpty then "[]\n" else String.ofList (items.flatMap record)

end Written

end CsiOperator.Yaml
