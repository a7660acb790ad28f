import CsiOperator.Decimal.Width
import CsiOperator.Json.Basic

/-! JSON text as a tree that keeps the place where its grammar breaks off. -/

namespace CsiOperator.Json

/-- A text read as far as it goes. Where the grammar is violated the tree ends in a `cut`. -/
inductive Tree where
  /-- The absent value. -/
  | null
  /-- A truth value. -/
  | bool (value : Bool)
  /-- A number, or nothing when its magnitude is out of range. -/
  | number (value : Option Number)
  /-- A string, or nothing when an escape in it is half of a surrogate pair. -/
  | text (value : Option String)
  /-- A list. -/
  | array (items : List Tree)
  /-- An object with its keys in the order of the text. -/
  | object (entries : List (Tree × Tree))
  /-- A list or object below the deepest level that may be read, and whether the text breaks off in it. -/
  | deep (broken : Bool)
  /-- The end of what can be read. -/
  | cut
  deriving Repr, Inhabited

/-- A JSON blank. -/
def isSpace (c : Char) : Bool :=
  c == ' ' || c == '\n' || c == '\t' || c == '\r'

/-- The text after its leading blanks. -/
def dropSpace (cs : List Char) : List Char :=
  cs.dropWhile isSpace

/-- The code unit that four hexadecimal digits denote. -/
def unit? (a b c d : Char) : Option Nat := do
  -- Four digits always fit one code unit.
  let ds ← Text.digitValues? 16 [a, b, c, d]
  return Text.ofDigits 16 ds

/-- The code units of a string up to its closing quote, and the text after it. -/
def units : List Char → Option (List Nat × List Char)
  -- A backslash and one character stand for one unit, and a number is a unit by itself.
  | '"' :: rest => some ([], rest)
  | '\\' :: 'u' :: a :: b :: c :: d :: rest => do
    let unit ← unit? a b c d
    let (more, rest) ← units rest
    return (unit :: more, rest)
  | '\\' :: c :: rest => do
    let unit ← match c with
      | '"' => some '"'
      | '\\' => some '\\'
      | '/' => some '/'
      | 'b' => some '\x08'
      | 'f' => some '\x0c'
      | 'n' => some '\n'
      | 'r' => some '\r'
      | 't' => some '\t'
      | _ => none
    let (more, rest) ← units rest
    return (unit.toNat :: more, rest)
  | c :: rest =>
    if c.toNat < 0x20 || c == '\\' then none
    else do
      let (more, rest) ← units rest
      return (c.toNat :: more, rest)
  | [] => none

/-- The characters of code units; the halves of a surrogate pair stand for one character. -/
def joinUnits : List Nat → Option (List Char)
  -- A half of a pair must not stand alone, and the second half must not come first.
  | [] => some []
  | [n] => if 0xD800 ≤ n && n ≤ 0xDFFF then none else some [Char.ofNat n]
  | n :: m :: rest =>
    if 0xD800 ≤ n && n ≤ 0xDBFF then
      if 0xDC00 ≤ m && m ≤ 0xDFFF then
        (joinUnits rest).map (Char.ofNat (0x10000 + (n - 0xD800) * 0x400 + (m - 0xDC00)) :: ·)
      else none
    else if 0xDC00 ≤ n && n ≤ 0xDFFF then none
    else (joinUnits (m :: rest)).map (Char.ofNat n :: ·)

/-- A string after its opening quote. -/
def string (cs : List Char) : Option (Option String × List Char) :=
  (units cs).map fun (us, rest) => ((joinUnits us).map String.ofList, rest)

/-- Digits that fit 64 bits, and the count of those that no longer do. -/
def significand (start : Nat) : List Char → Nat × Nat
  -- What does not fit is dropped, and only its number of digits counts.
  | [] => (start, 0)
  | c :: rest =>
    let next := start * 10 + (c.toNat - 48)
    if Decimal.fitsUnsigned 64 next then significand next rest else (start, rest.length + 1)

/-- A significand of 64 bits times a power of ten, each rounded once and their product again. -/
def scaled (negative : Bool) (digits : Nat) (exponent : Int) : Option Number := do
  -- The digits are rounded to a double first, and then scaled by powers that are rounded too.
  let x ← Decimal.Binary64.ofRatio negative digits 1
  let rec descend (x : Decimal.Binary64) (exponent : Int) : Nat → Option Decimal.Binary64
    | 0 => some (Decimal.Binary64.zero negative)
    | fuel + 1 =>
      if exponent.natAbs ≤ 308 then x.scaleTen exponent
      else if x.significand == 0 then some x
      else if exponent > 0 then none
      else do descend (← x.scaleTen (-308)) (exponent + 308) fuel
  return .real (← descend x exponent 4)

/-- The number that a whole part, an optional fraction and an optional exponent denote. -/
def numberOf (negative : Bool) (whole : List Char) (fraction : Option (List Char))
    (exponent : Option (Bool × List Char)) : Option Number :=
  -- Without a point and an exponent the number is an integer, if it fits.
  let (front, dropped) := significand 0 whole
  match fraction, exponent with
  | none, none =>
    if dropped == 0 then
      if !negative then some (.integer front)
      else if front == 0 || !Decimal.fitsSigned 64 (-(front : Int)) then
        (Decimal.Binary64.ofRatio true front 1).map .real
      else some (.integer (-(front : Int)))
    else scaled negative front dropped
  | _, _ =>
    let places := fraction.getD []
    let (all, unread) := significand front places
    let shift : Int := dropped - ((places.length - unread : Nat) : Int)
    match exponent with
    | none => scaled negative all shift
    | some (down, ds) =>
      let power := ds.foldl (fun (n : Nat) c => n * 10 + (c.toNat - 48)) 0
      if Decimal.fitsUnsigned 31 power then scaled negative all (if down then shift - power else shift + power)
      else if all != 0 && !down then none
      else some (.real (Decimal.Binary64.zero negative))

/-- The exponent part of a number, if there is one; nothing when it has no digits. -/
def exponentPart : List Char → Option (Option (Bool × List Char) × List Char)
  -- A letter without digits behind it breaks the number off.
  | c :: rest =>
    if c == 'e' || c == 'E' then
      let (down, rest) := match rest with
        | '-' :: rest => (true, rest)
        | '+' :: rest => (false, rest)
        | rest => (false, rest)
      let ds := rest.takeWhile Text.isDigit
      if ds.isEmpty then none else some (some (down, ds), rest.dropWhile Text.isDigit)
    else some (none, c :: rest)
  | [] => some (none, [])

/-- The fraction of a number, if there is one; nothing when it has no digits. -/
def fractionPart : List Char → Option (Option (List Char) × List Char)
  -- A point without digits behind it breaks the number off.
  | '.' :: rest =>
    let ds := rest.takeWhile Text.isDigit
    if ds.isEmpty then none else some (some ds, rest.dropWhile Text.isDigit)
  | rest => some (none, rest)

/-- A number without its sign. -/
def unsigned (negative : Bool) (cs : List Char) : Option (Option Number × List Char) := do
  let whole := cs.takeWhile Text.isDigit
  -- A leading zero stands alone.
  if whole.isEmpty || (whole.head? == some '0' && whole.length > 1) then none
  let (fraction, rest) ← fractionPart (cs.dropWhile Text.isDigit)
  let (exponent, rest) ← exponentPart rest
  return (numberOf negative whole fraction exponent, rest)

/-- The text after a word, if it starts with it. -/
def dropWord : List Char → List Char → Option (List Char)
  -- A word that is cut short is none.
  | [], cs => some cs
  | w :: ws, c :: cs => if w == c then dropWord ws cs else none
  | _ :: _, [] => none

/-- A scalar at the head of a text. -/
def scalar (cs : List Char) : Option (Tree × List Char) :=
  -- The first character tells what kind of scalar it is.
  match cs with
  | '"' :: rest => (string rest).map fun (s, rest) => (.text s, rest)
  | '-' :: rest => (unsigned true rest).map fun (n, rest) => (.number n, rest)
  | 't' :: rest => (dropWord ['r', 'u', 'e'] rest).map (.bool true, ·)
  | 'f' :: rest => (dropWord ['a', 'l', 's', 'e'] rest).map (.bool false, ·)
  | 'n' :: rest => (dropWord ['u', 'l', 'l'] rest).map (.null, ·)
  | c :: _ =>
    if Text.isDigit c then (unsigned false cs).map fun (n, rest) => (.number n, rest) else none
  | [] => none

mutual

/-- A value at the head of a text, and the text after it unless the grammar breaks off inside. -/
def value : Nat → Nat → List Char → Tree × Option (List Char)
  -- Depth is counted down by what is open, and what is too deep is read past but not kept.
  | 0, _, _ => (.cut, none)
  | fuel + 1, depth, cs =>
    match dropSpace cs with
    | '[' :: rest =>
      let (items, rest) := match dropSpace rest with
        | ']' :: rest => ([], some rest)
        | rest => valueItems fuel (depth - 1) rest
      (if depth == 0 then .deep rest.isNone else .array items, rest)
    | '\x7b' :: rest =>
      let (entries, rest) := match dropSpace rest with
        | '\x7d' :: rest => ([], some rest)
        | rest => valueEntries fuel (depth - 1) rest
      (if depth == 0 then .deep rest.isNone else .object entries, rest)
    | cs =>
      match scalar cs with
      | some (tree, rest) => (tree, some rest)
      | none => (.cut, none)

/-- The items of a list from the next one on, up to its closing bracket. -/
def valueItems : Nat → Nat → List Char → List Tree × Option (List Char)
  -- An item that breaks off ends the list, which is kept up to there.
  | 0, _, _ => ([.cut], none)
  | fuel + 1, depth, cs =>
    match value fuel depth cs with
    | (item, none) => ([item], none)
    | (item, some rest) =>
      match dropSpace rest with
      | ',' :: rest =>
        let (items, rest) := valueItems fuel depth rest
        (item :: items, rest)
      | ']' :: rest => ([item], some rest)
      | _ => ([item, .cut], none)

/-- The entries of an object from the next one on, up to its closing brace. -/
def valueEntries : Nat → Nat → List Char → List (Tree × Tree) × Option (List Char)
  -- A key has to be a text, and a colon has to follow it.
  | 0, _, _ => ([(.cut, .cut)], none)
  | fuel + 1, depth, cs =>
    match dropSpace cs with
    | '"' :: rest =>
      match string rest with
      | none => ([(.cut, .cut)], none)
      | some (key, rest) =>
        match dropSpace rest with
        | ':' :: rest =>
          match value fuel depth rest with
          | (item, none) => ([(.text key, item)], none)
          | (item, some rest) =>
            match dropSpace rest with
            | ',' :: rest =>
              let (entries, rest) := valueEntries fuel depth rest
              ((.text key, item) :: entries, rest)
            | '\x7d' :: rest => ([(.text key, item)], some rest)
            | _ => ([(.text key, item), (.cut, .cut)], none)
        | _ => ([(.text key, .cut)], none)
    | _ => ([(.cut, .cut)], none)

end

/-- The levels of lists and objects that may be read. -/
def maxDepth : Nat := 127

/-- A text read as one value. -/
structure Document where
  /-- The value as far as it goes. -/
  root : Tree
  /-- Nothing but blanks follows the value. -/
  complete : Bool

/-- The document that a text holds. -/
def Document.ofText (text : String) : Document :=
  -- Fuel for two steps with each character is more than the grammar can take.
  let cs := text.toList
  match value (2 * cs.length + 2) maxDepth cs with
  | (root, none) => ⟨root, false⟩
  | (root, some rest) => ⟨root, (dropSpace rest).isEmpty⟩

end CsiOperator.Json
