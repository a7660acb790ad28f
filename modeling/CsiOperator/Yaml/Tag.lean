import CsiOperator.Yaml.Character

/-! Tags and directives. -/

namespace CsiOperator.Yaml.Tag

/-- A character of a tag; a verbatim tag may hold commas and brackets too. -/
def isUri (verbatim : Bool) (c : Char) : Bool :=
  -- Commas and brackets would end a tag in a flow collection, unless the tag is verbatim.
  isWord c ||
    [';', '/', '?', ':', '@', '&', '=', '+', '$', '.', '!', '~', '*', '\'', '(', ')'].contains c ||
    (verbatim && [',', '[', ']'].contains c)

/-- The count of octets of a character, from the first of them. -/
def octetCount (octet : Nat) : Option Nat :=
  -- The leading bits tell the count, and a byte that continues a character cannot come first.
  if octet < 0x80 then some 1
  else if octet / 0x20 == 6 then some 2
  else if octet / 0x10 == 14 then some 3
  else if octet / 8 == 30 then some 4
  else none

/-- Reads a tag with its escapes: the octets that are still owed, and their value so far. -/
def uri (verbatim : Bool) : (owed : Nat) → (value : Nat) → List Char →
    Option (List Char × List Char)
  -- An escape is one octet, so a character may take several of them, with nothing in between.
  | owed, value, '%' :: a :: b :: rest => do
    let octet := Text.ofDigits 16 (← Text.digitValues? 16 [a, b])
    match owed with
    | 0 =>
      let count ← octetCount octet
      if count == 1 then
        let (cs, rest) ← uri verbatim 0 0 rest
        return (Char.ofNat octet :: cs, rest)
      else uri verbatim (count - 1) (octet % Nat.pow 2 (7 - count)) rest
    | owed + 1 =>
      if octet / 0x40 != 2 then none
      else
        let value := value * 0x40 + octet % 0x40
        let (cs, rest) ← uri verbatim owed value rest
        return (if owed == 0 then Char.ofNat value :: cs else cs, rest)
  | 0, _, c :: rest =>
    if isUri verbatim c then do
      let (cs, rest) ← uri verbatim 0 0 rest
      return (c :: cs, rest)
    else if c == '%' then none
    else some ([], c :: rest)
  | 0, _, [] => some ([], [])
  | _ + 1, _, _ => none

/-- A tag: the short name of its front part, and the part after it. -/
structure Raw where
  /-- The short name; empty when the other part is the whole tag. -/
  handle : String
  /-- The part after it. -/
  suffix : String
  deriving DecidableEq, Repr

/-- Reads a tag. In a flow collection a comma may follow it at once. -/
def read (flow : Bool) (cs : List Char) : Option (Raw × List Char) := do
  -- There are three forms: verbatim, with a short name, and with the mark alone.
  let (raw, rest) ← match cs with
    | '!' :: '<' :: rest => do
      let (suffix, rest) ← uri true 0 0 rest
      if suffix.isEmpty then none
      match rest with
      | '>' :: rest => some ((⟨"", String.ofList suffix⟩ : Raw), rest)
      | _ => none
    | '!' :: rest => do
      let word := rest.takeWhile isWord
      match rest.dropWhile isWord with
      | '!' :: rest => do
        let (suffix, rest) ← uri false 0 0 rest
        if suffix.isEmpty then none
        some (⟨String.ofList ('!' :: word ++ ['!']), String.ofList suffix⟩, rest)
      | rest => do
        let (more, rest) ← uri false 0 0 rest
        let suffix := word ++ more
        some (if suffix.isEmpty then ⟨"", "!"⟩ else ⟨"!", String.ofList suffix⟩, rest)
    | _ => none
  if endsWord rest || (flow && rest.head? == some ',') then some (raw, rest) else none

/-- A line before a document that changes how it is read. -/
inductive Directive where
  /-- The version of the format. -/
  | version (major minor : Nat)
  /-- A short name for the front part of tags. -/
  | handle (handle front : String)
  deriving DecidableEq, Repr

/-- A number of at most nine digits. -/
def versionNumber (cs : List Char) : Option (Nat × List Char) := do
  -- The limit keeps versions within 32 bits, however long the line is.
  let ds := cs.takeWhile Text.isDigit
  if ds.length > 9 then none
  return (← Text.natural? 10 ds, cs.dropWhile Text.isDigit)

/-- The short name in a directive: one exclamation mark, or a word between two. -/
def directiveHandle : List Char → Option (List Char × List Char)
  -- A word without a second mark is no short name.
  | '!' :: rest =>
    let word := rest.takeWhile isWord
    match rest.dropWhile isWord with
    | '!' :: rest => some ('!' :: word ++ ['!'], rest)
    | rest => if word.isEmpty then some (['!'], rest) else none
  | _ => none

/-- Reads a directive from after its mark to the end of its line. -/
def readDirective (cs : List Char) : Option (Directive × List Char) := do
  -- The two known directives are told by their names, and any other one is refused.
  let name := cs.takeWhile isWord
  let rest := cs.dropWhile isWord
  if name.isEmpty || !endsWord rest then none
  let rest := rest.dropWhile isBlank
  let (directive, rest) ←
    if name == ['Y', 'A', 'M', 'L'] then do
      let (major, rest) ← versionNumber rest
      match rest with
      | '.' :: rest => do
        let (minor, rest) ← versionNumber rest
        some (Directive.version major minor, rest)
      | _ => none
    else if name == ['T', 'A', 'G'] then do
      let (handle, rest) ← directiveHandle rest
      if !(rest.head?.any isBlank) then none
      let (front, rest) ← uri true 0 0 (rest.dropWhile isBlank)
      if front.isEmpty || !endsWord rest then none
      some (Directive.handle (String.ofList handle) (String.ofList front), rest)
    else none
  let rest := rest.dropWhile isBlank
  let rest := if rest.head? == some '#' then rest.dropWhile (!isBreak ·) else rest
  if rest.head?.all isBreak then some (directive, rest) else none

end CsiOperator.Yaml.Tag
