import CsiOperator.Yaml.Block
import CsiOperator.Yaml.Plain
import CsiOperator.Yaml.Quoted
import CsiOperator.Yaml.Tag

/-! YAML text as tokens. Indentation and simple keys become tokens of their own. -/

namespace CsiOperator.Yaml

/-- A token of a text. -/
inductive Token where
  /-- A directive. -/
  | directive (directive : Tag.Directive)
  /-- Three hyphens before a document. -/
  | documentStart
  /-- Three dots after a document. -/
  | documentEnd
  /-- An indented list begins. -/
  | blockSequenceStart
  /-- An indented map begins. -/
  | blockMappingStart
  /-- An indented list or map ends. -/
  | blockEnd
  /-- An opening bracket. -/
  | flowSequenceStart
  /-- A closing bracket. -/
  | flowSequenceEnd
  /-- An opening brace. -/
  | flowMappingStart
  /-- A closing brace. -/
  | flowMappingEnd
  /-- A hyphen before an item. -/
  | blockEntry
  /-- A comma between items. -/
  | flowEntry
  /-- A key follows. -/
  | key
  /-- A value follows. -/
  | value
  /-- A node given elsewhere. -/
  | alias (name : String)
  /-- A name for the node that follows. -/
  | anchor (name : String)
  /-- The tag of the node that follows. -/
  | tag (tag : Tag.Raw)
  /-- A scalar, plain or in any other style. -/
  | scalar (text : String) (plain : Bool)
  /-- The end of the text. -/
  | streamEnd
  deriving DecidableEq, Repr

/-- A token that turns out to be a key if a colon follows on the same line. -/
structure SimpleKey where
  /-- The number of the token. -/
  token : Nat
  /-- The token stands where only a key may stand. -/
  required : Bool
  /-- The place of the token. -/
  place : Place

/-- A text of which some tokens have been read. -/
structure Scan where
  /-- The place after the tokens and the text from there on. -/
  cursor : Cursor
  /-- The tokens, last first. -/
  tokens : List Token
  /-- The column of the innermost indented collection, or -1. -/
  indent : Int
  /-- The columns of the collections around it, innermost first. -/
  indents : List Int
  /-- The possible key at each level of flow collections, innermost first. -/
  keys : List (Option SimpleKey)
  /-- A simple key may begin here. -/
  keyAllowed : Bool

namespace Scan

/-- The start of a text. -/
def start (cs : List Char) : Scan :=
  -- No collection has begun, so anything is to the right of the indentation.
  { cursor := ⟨⟨0, 0, 0⟩, cs⟩, tokens := [], indent := -1, indents := [], keys := [none],
    keyAllowed := true }

/-- The cursor is inside a flow collection. -/
def inFlow (s : Scan) : Bool :=
  s.keys.length > 1

/-- The column of the cursor. -/
def column (s : Scan) : Int :=
  s.cursor.place.column

/-- The possible key at the innermost level. -/
def key? (s : Scan) : Option SimpleKey :=
  s.keys.head?.join

/-- The number of tokens that no possible key holds back any more. -/
def released (s : Scan) : Nat :=
  s.keys.foldl (fun n key => match key with | some k => min n k.token | none => n) s.tokens.length

/-- One more token. -/
def push (s : Scan) (t : Token) : Scan :=
  { s with tokens := t :: s.tokens }

/-- A token put in before the one with a number. -/
def insert (s : Scan) (number : Nat) (t : Token) : Scan :=
  -- Tokens are held with the last one first, so the number is counted from the other end.
  let after := s.tokens.length - number
  { s with tokens := s.tokens.take after ++ t :: s.tokens.drop after }

/-- The cursor moved on by a number of characters. -/
def skip (s : Scan) (n : Nat) : Scan :=
  { s with cursor := s.cursor.skip n }

/-- Passes over blanks, comments and line breaks up to the next token. -/
def toToken (flow : Bool) : (keyAllowed comment : Bool) → Place → List Char → Bool × Cursor
  -- Only a new line allows for a key, and in flow collections that is of no importance.
  | keyAllowed, _, p, [] => (keyAllowed, ⟨p, []⟩)
  | keyAllowed, comment, p, c :: rest =>
    if isBreak c then toToken flow (keyAllowed || !flow) false p.newline rest
    else if comment || c == '#' then toToken flow keyAllowed true p.next rest
    else if c == ' ' || (c == '\t' && (flow || !keyAllowed)) ||
        (c == byteOrderMark && p.column == 0) then
      toToken flow keyAllowed false p.next rest
    else (keyAllowed, ⟨p, c :: rest⟩)

/-- Gives up the possible keys that lie on earlier lines or too far back; a required one may not. -/
def dropStaleKeys (s : Scan) : Option Scan :=
  -- A key and its colon have to be on one line, with at most 1024 characters from one to the other.
  let here := s.cursor.place
  let stale (k : SimpleKey) : Bool := k.place.line < here.line || k.place.index + 1024 < here.index
  if s.keys.any (fun key => key.any fun k => k.required && stale k) then none
  else some { s with keys := s.keys.map (fun key => key.filter fun k => !stale k) }

/-- Gives up the possible key at the innermost level; a required one may not. -/
def removeKey (s : Scan) : Option Scan :=
  if s.key?.any (·.required) then none else some { s with keys := none :: s.keys.drop 1 }

/-- Remembers the next token as a possible key, if one may begin here. -/
def saveKey (s : Scan) : Option Scan :=
  -- A token at the indentation of its map has to be a key, or the map would have ended.
  if s.keyAllowed then do
    let s ← s.removeKey
    let key : SimpleKey :=
      { token := s.tokens.length, required := !s.inFlow && s.indent == s.column,
        place := s.cursor.place }
    return { s with keys := some key :: s.keys.drop 1 }
  else some s

/-- Ends the indented collections that begin to the right of a column. -/
def unrollTo (column : Int) : (indent : Int) → (indents : List Int) → (tokens : List Token) →
    Int × List Int × List Token
  -- The outermost indentation is never given up.
  | indent, [], tokens => (indent, [], tokens)
  | indent, outer :: rest, tokens =>
    if column < indent then unrollTo column outer rest (.blockEnd :: tokens)
    else (indent, outer :: rest, tokens)

/-- Ends the indented collections that begin to the right of a column, outside flow collections. -/
def unroll (s : Scan) (column : Int) : Scan :=
  -- Indentation counts for nothing in flow collections.
  if s.inFlow then s else
  let (indent, indents, tokens) := unrollTo column s.indent s.indents s.tokens
  { s with indent, indents, tokens }

/-- Begins an indented collection at a column to the right of the innermost one. -/
def roll (s : Scan) (column : Int) (number : Nat) (t : Token) : Scan :=
  -- A collection at the same column goes on, so nothing begins.
  if s.inFlow || column ≤ s.indent then s
  else { s.insert number t with indent := column, indents := s.indent :: s.indents }

/-- A bracket or brace that opens a flow collection. -/
def openFlow (s : Scan) (t : Token) : Option Scan := do
  -- The collection may itself be a key, and keys inside it are its own.
  let s ← s.saveKey
  return { (s.skip 1).push t with keys := none :: s.keys, keyAllowed := true }

/-- A bracket or brace that closes a flow collection. -/
def closeFlow (s : Scan) (t : Token) : Option Scan := do
  -- The possible keys inside the collection are given up with it.
  let s ← s.removeKey
  let keys := if s.inFlow then s.keys.drop 1 else s.keys
  return { (s.skip 1).push t with keys, keyAllowed := false }

/-- A hyphen before an item. -/
def blockEntry (s : Scan) : Option Scan := do
  -- An item may begin only where a key may.
  if !s.inFlow && !s.keyAllowed then none
  let s := s.roll s.column s.tokens.length .blockSequenceStart
  let s ← s.removeKey
  return { (s.skip 1).push .blockEntry with keyAllowed := true }

/-- A question mark before a key. -/
def explicitKey (s : Scan) : Option Scan := do
  -- A key may begin only at the start of a line, unless in a flow collection.
  if !s.inFlow && !s.keyAllowed then none
  let s := s.roll s.column s.tokens.length .blockMappingStart
  let s ← s.removeKey
  return { (s.skip 1).push .key with keyAllowed := !s.inFlow }

/-- A colon before a value, which makes a key of the possible one before it. -/
def value (s : Scan) : Option Scan :=
  -- The key was read before its colon, so its mark is put in front of it afterwards.
  match s.key? with
  | some k =>
    let s := (s.insert k.token .key).roll k.place.column k.token .blockMappingStart
    some { (s.skip 1).push .value with keys := none :: s.keys.drop 1, keyAllowed := false }
  | none => do
    if !s.inFlow && !s.keyAllowed then none
    let s := s.roll s.column s.tokens.length .blockMappingStart
    return { (s.skip 1).push .value with keyAllowed := !s.inFlow }

/-- The name after the mark of an anchor or an alias. -/
def name (s : Scan) (make : String → Token) : Option Scan := do
  -- A name ends where a word ends, or at one of a few marks.
  let s ← s.saveKey
  let word := (s.cursor.rest.drop 1).takeWhile isWord
  let rest := s.cursor.rest.drop (word.length + 1)
  if word.isEmpty then none
  if !(endsWord rest || rest.head?.any ['?', ':', ',', ']', '\x7d', '%', '@', '\x60'].contains) then
    none
  return { (s.skip (word.length + 1)).push (make (String.ofList word)) with keyAllowed := false }

/-- The tag of a node. -/
def tag (s : Scan) : Option Scan := do
  let s ← s.saveKey
  let (raw, rest) ← Tag.read s.inFlow s.cursor.rest
  return { (s.skip (s.cursor.rest.length - rest.length)).push (.tag raw) with keyAllowed := false }

/-- A block scalar. -/
def blockScalar (s : Scan) (literal : Bool) : Option Scan := do
  -- A block scalar is never a key, so no possible key is left in front of it.
  let s ← s.removeKey
  let (text, cursor) ← Block.read literal s.indent (s.cursor.skip 1)
  return { s.push (.scalar (String.ofList text) false) with cursor, keyAllowed := true }

/-- A scalar between quotes. -/
def quotedScalar (s : Scan) (double : Bool) : Option Scan := do
  -- A key in quotes is as good as one without.
  let s ← s.saveKey
  let scan := if double then Quoted.scanDouble else Quoted.scanSingle
  let (text, cursor) ← scan Gap.none [] s.cursor.place.next (s.cursor.rest.drop 1)
  return { s.push (.scalar (String.ofList text) false) with cursor, keyAllowed := false }

/-- A plain scalar. After it a key may begin only on a new line. -/
def plainScalar (s : Scan) : Option Scan := do
  -- The scalar may turn out to be a key, as long as no break has been passed.
  let s ← s.saveKey
  let r ← Plain.scan s.inFlow s.indent false Gap.none [] s.cursor.place s.cursor.rest
  return { s.push (.scalar (String.ofList r.text) true) with cursor := r.cursor, keyAllowed := r.broken }

/-- A boundary between documents, which ends every indented collection. -/
def boundary (s : Scan) (t : Token) : Option Scan := do
  -- Nothing in front of a boundary can be a key any more.
  let s ← (s.unroll (-1)).removeKey
  return { (s.skip 3).push t with keyAllowed := false }

/-- A directive. -/
def directive (s : Scan) : Option Scan := do
  -- The break at the end of its line belongs to the directive.
  let s ← (s.unroll (-1)).removeKey
  let (d, rest) ← Tag.readDirective (s.cursor.rest.drop 1)
  let s := (s.skip (s.cursor.rest.length - rest.length)).push (.directive d)
  match rest with
  | _ :: rest => return { s with cursor := ⟨s.cursor.place.newline, rest⟩, keyAllowed := false }
  | [] => return { s with keyAllowed := false }

/-- The end of the text counts as the end of its last line. -/
def finish (s : Scan) : Option Scan := do
  -- A text may end without a break, which makes no difference.
  let p := s.cursor.place
  let s := if p.column == 0 then s else { s with cursor := ⟨p.newline, []⟩ }
  let s ← (s.unroll (-1)).removeKey
  return s.push .streamEnd

/-- Reads the token at the cursor, which is not inside a gap. -/
def token (s : Scan) : Option Scan :=
  -- Marks at the start of a line come first, and a plain scalar is what no mark begins.
  match s.cursor.rest with
  | [] => s.finish
  | c :: rest =>
    let atStart := s.cursor.place.column == 0
    if atStart && c == '%' then s.directive
    else if atStart && startsBoundary '-' (c :: rest) then s.boundary .documentStart
    else if atStart && startsBoundary '.' (c :: rest) then s.boundary .documentEnd
    else match c with
    | '[' => s.openFlow .flowSequenceStart
    | '\x7b' => s.openFlow .flowMappingStart
    | ']' => s.closeFlow .flowSequenceEnd
    | '\x7d' => s.closeFlow .flowMappingEnd
    | ',' => do
      let s ← s.removeKey
      return { (s.skip 1).push .flowEntry with keyAllowed := true }
    | '*' => s.name .alias
    | '&' => s.name .anchor
    | '!' => s.tag
    | '\'' => s.quotedScalar false
    | '"' => s.quotedScalar true
    | c =>
      if c == '-' && endsWord rest then s.blockEntry
      else if c == '?' && (s.inFlow || endsWord rest) then s.explicitKey
      else if c == ':' && (s.inFlow || endsWord rest) then s.value
      else if c == '|' && !s.inFlow then s.blockScalar true
      else if c == '>' && !s.inFlow then s.blockScalar false
      else if Plain.startsAt s.inFlow (c :: rest) then s.plainScalar
      else none

/-- Reads one token, with the ends of collections that it brings about. -/
def step (s : Scan) : Option Scan := do
  -- Keys may become stale by what is passed over, and again by the token itself.
  let (keyAllowed, cursor) :=
    toToken s.inFlow s.keyAllowed false s.cursor.place s.cursor.rest
  let s ← { s with keyAllowed, cursor }.dropStaleKeys
  let s ← (s.unroll s.column).token
  s.dropStaleKeys

/-- Reads tokens until the end. Where that fails, only those are given that no possible key held
back; then the end is not among them. -/
def run : Nat → Scan → List Token
  -- Tokens in front of a possible key are held back, since its mark may still be put in there.
  | 0, s => (s.tokens.reverse).take s.released
  | fuel + 1, s =>
    match s.step with
    | none => (s.tokens.reverse).take s.released
    | some s =>
      if s.tokens.head? == some .streamEnd then s.tokens.reverse else run fuel s

end Scan

/-- The tokens of a text, as far as it can be read. A text with a forbidden character has none. -/
def tokens (text : String) : List Token :=
  -- One token takes at least one character, so fuel for each of them is enough.
  let cs := text.toList
  if cs.all isAllowed then Scan.run (cs.length + 1) (Scan.start (normalizeBreaks cs)) else []

end CsiOperator.Yaml
