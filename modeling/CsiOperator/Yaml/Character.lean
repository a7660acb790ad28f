import CsiOperator.Text.Numeral

/-! The classes of characters that YAML tells apart, and places in a text. -/

namespace CsiOperator.Yaml

/-- A space or a tab. -/
def isBlank (c : Char) : Bool :=
  c == ' ' || c == '\t'

/-- A line break, once all breaks of one line are written alike. -/
def isBreak (c : Char) : Bool :=
  c == '\n' || c == '\u2028' || c == '\u2029'

/-- A blank or a line break. -/
def isGap (c : Char) : Bool :=
  isBlank c || isBreak c

/-- The end of a text, a blank or a line break is next. -/
def endsWord : List Char → Bool
  | [] => true
  | c :: _ => isGap c

/-- A letter, a digit, a hyphen or an underscore of ASCII. -/
def isWord (c : Char) : Bool :=
  c.isAlphanum || c == '_' || c == '-'

/-- The mark that may stand at the start of a text or a line and carries no meaning. -/
def byteOrderMark : Char := '\ufeff'

/-- A character that a text may hold. -/
def isAllowed (c : Char) : Bool :=
  -- Controls are out, but for tabs and breaks, and so are the two points that are no characters.
  let n := c.toNat
  n == 0x9 || n == 0xA || n == 0xD || (0x20 ≤ n && n ≤ 0x7E) || n == 0x85 ||
    (0xA0 ≤ n && n ≤ 0xFFFD) || 0x10000 ≤ n

/-- Every line break that means the same as a line feed, written as one. -/
def normalizeBreaks : List Char → List Char
  -- A return and a line feed next to each other are one break.
  | '\r' :: '\n' :: rest => '\n' :: normalizeBreaks rest
  | c :: rest => (if c == '\r' || c == '\u0085' then '\n' else c) :: normalizeBreaks rest
  | [] => []

/-- Three equal marks of a document boundary at the start of a line. -/
def startsBoundary (mark : Char) : List Char → Bool
  -- Three marks are a boundary only where a word ends behind them.
  | a :: b :: c :: rest => a == mark && b == mark && c == mark && endsWord rest
  | _ => false

/-- A boundary between documents. -/
def isBoundary (cs : List Char) : Bool :=
  startsBoundary '-' cs || startsBoundary '.' cs

/-- A place in a text. -/
structure Place where
  /-- The count of line breaks before. -/
  line : Nat
  /-- The count of characters before on the line. -/
  column : Nat
  /-- The count of characters before. -/
  index : Nat
  deriving DecidableEq, Repr

/-- The place after a character of the line. -/
def Place.next (p : Place) : Place :=
  ⟨p.line, p.column + 1, p.index + 1⟩

/-- The place after a number of characters of the line. -/
def Place.skip (p : Place) (n : Nat) : Place :=
  ⟨p.line, p.column + n, p.index + n⟩

/-- The place after a line break. -/
def Place.newline (p : Place) : Place :=
  ⟨p.line + 1, 0, p.index + 1⟩

/-- A place and the text from there on. -/
structure Cursor where
  /-- The place. -/
  place : Place
  /-- The text from there on. -/
  rest : List Char

/-- The cursor after a number of characters of the line. -/
def Cursor.skip (c : Cursor) (n : Nat) : Cursor :=
  ⟨c.place.skip n, c.rest.drop n⟩

end CsiOperator.Yaml
