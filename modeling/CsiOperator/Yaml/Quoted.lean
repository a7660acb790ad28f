import CsiOperator.Yaml.Gap

/-! Scalars between quotes. -/

namespace CsiOperator.Yaml.Quoted

/-- Reads on in a scalar between single quotes; a doubled quote stands for one. -/
def scanSingle : Gap → (acc : List Char) → Place → List Char → Option (List Char × Cursor)
  -- Without a closing quote there is no scalar.
  | _, _, _, [] => none
  | gap, acc, p, '\'' :: '\'' :: rest =>
    scanSingle Gap.none ('\'' :: (gap.text.reverse ++ acc)) (p.skip 2) rest
  | gap, acc, p, '\'' :: rest => some ((gap.text.reverse ++ acc).reverse, ⟨p.next, rest⟩)
  | gap, acc, p, c :: rest =>
    if isBlank c then scanSingle (gap.blank c) acc p.next rest
    else if isBreak c then scanSingle (gap.newline c) acc p.newline rest
    else if p.column == 0 && isBoundary (c :: rest) then none
    else scanSingle Gap.none (c :: (gap.text.reverse ++ acc)) p.next rest

/-- The character that a backslash and one more character stand for. -/
def simpleEscape : Char → Option Char
  -- Letters for controls come first, and then the marks that stand for themselves.
  | '0' => some '\x00'
  | 'a' => some '\x07'
  | 'b' => some '\x08'
  | 't' => some '\t'
  | '\t' => some '\t'
  | 'n' => some '\n'
  | 'v' => some '\x0b'
  | 'f' => some '\x0c'
  | 'r' => some '\r'
  | 'e' => some '\x1b'
  | ' ' => some ' '
  | '"' => some '"'
  | '/' => some '/'
  | '\\' => some '\\'
  | 'N' => some '\u0085'
  | '_' => some '\u00a0'
  | 'L' => some '\u2028'
  | 'P' => some '\u2029'
  | _ => none

/-- The character of a code point in hexadecimal digits. -/
def codePoint (ds : List Char) : Option Char := do
  -- Numbers that are no characters, such as halves of surrogate pairs, are refused.
  let n := Text.ofDigits 16 (← Text.digitValues? 16 ds)
  if h : n.isValidChar then some (Char.ofNatAux n h) else none

/-- Reads on in a scalar between double quotes, where a backslash begins an escape. -/
def scanDouble : Gap → (acc : List Char) → Place → List Char → Option (List Char × Cursor)
  -- A backslash in front of a break joins two lines without a space.
  | _, _, _, [] => none
  | gap, acc, p, '"' :: rest => some ((gap.text.reverse ++ acc).reverse, ⟨p.next, rest⟩)
  | gap, acc, p, '\\' :: 'x' :: a :: b :: rest => do
    let c ← codePoint [a, b]
    scanDouble Gap.none (c :: (gap.text.reverse ++ acc)) (p.skip 4) rest
  | gap, acc, p, '\\' :: 'u' :: a :: b :: c :: d :: rest => do
    let c ← codePoint [a, b, c, d]
    scanDouble Gap.none (c :: (gap.text.reverse ++ acc)) (p.skip 6) rest
  | gap, acc, p, '\\' :: 'U' :: a :: b :: c :: d :: e :: f :: g :: h :: rest => do
    let c ← codePoint [a, b, c, d, e, f, g, h]
    scanDouble Gap.none (c :: (gap.text.reverse ++ acc)) (p.skip 10) rest
  | gap, acc, p, '\\' :: e :: rest =>
    if isBreak e then
      scanDouble Gap.escapedBreak (gap.text.reverse ++ acc) p.next.newline rest
    else do
      let c ← simpleEscape e
      scanDouble Gap.none (c :: (gap.text.reverse ++ acc)) (p.skip 2) rest
  | gap, acc, p, c :: rest =>
    if isBlank c then scanDouble (gap.blank c) acc p.next rest
    else if isBreak c then scanDouble (gap.newline c) acc p.newline rest
    else if c == '\\' || (p.column == 0 && isBoundary (c :: rest)) then none
    else scanDouble Gap.none (c :: (gap.text.reverse ++ acc)) p.next rest

end CsiOperator.Yaml.Quoted
