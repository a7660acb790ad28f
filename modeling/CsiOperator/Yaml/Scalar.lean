import CsiOperator.Decimal.Binary64
import CsiOperator.Decimal.Width
import CsiOperator.Decode.Fault
import CsiOperator.Yaml.Node

/-! What scalars mean in the core schema. -/

namespace CsiOperator.Yaml

open Decimal (Binary64)
open Decode (Fault)

/-- The value that a scalar stands for. -/
inductive Meaning where
  /-- The absent value. -/
  | null
  /-- A truth value. -/
  | bool (value : Bool)
  /-- An integer of 64 bits, signed or not. -/
  | integer (value : Int)
  /-- An integer that needs more than 64 and at most 128 bits. -/
  | wideInteger
  /-- A double, or nothing for one that is not finite. -/
  | real (value : Option Binary64)
  /-- A text. -/
  | text (value : String)
  deriving Repr

namespace Meaning

/-- The words for the absent value. -/
def isNull (cs : List Char) : Bool :=
  cs == "null".toList || cs == "Null".toList || cs == "NULL".toList || cs == "~".toList

/-- The words for truth values. -/
def truth? (cs : List Char) : Option Bool :=
  -- Three spellings of each word are known, and no mixture of cases.
  if cs == "true".toList || cs == "True".toList || cs == "TRUE".toList then some true
  else if cs == "false".toList || cs == "False".toList || cs == "FALSE".toList then some false
  else none

/-- The first character is a sign. -/
def isSigned (cs : List Char) : Bool :=
  cs.head? == some '+' || cs.head? == some '-'

/-- The characters after one plus sign; a second sign may not follow it. -/
def afterPlus : List Char → Option (List Char)
  -- `+-1` is no number, which is seen here.
  | '+' :: rest => if isSigned rest then none else some rest
  | cs => some cs

/-- Digits after a leading zero, which make a text. -/
def hasLeadingZero (cs : List Char) : Bool :=
  -- A sign may stand in front of the zero.
  let cs := if isSigned cs then cs.drop 1 else cs
  cs.length > 1 && cs.head? == some '0' && cs.all Text.isDigit

/-- A natural in a base that its first two characters name. -/
def based? : List Char → Option Nat
  -- The three prefixes are written in lower case only.
  | '0' :: 'x' :: rest => Text.natural? 16 rest
  | '0' :: 'o' :: rest => Text.natural? 8 rest
  | '0' :: 'b' :: rest => Text.natural? 2 rest
  | _ => none

/-- Zero, a letter for a base and a sign: no number at all. -/
def isBasedSigned : List Char → Bool
  -- `0x-1` is no number, which is seen here.
  | '0' :: c :: rest => (c == 'x' || c == 'o' || c == 'b') && isSigned rest
  | _ => false

/-- An integer without a minus sign. -/
def unsigned? (cs : List Char) : Option Nat := do
  -- A prefix excludes the check for leading zeros, since it begins with one itself.
  let cs ← afterPlus cs
  if isBasedSigned cs then none
  match based? cs with
  | some n => some n
  | none => if hasLeadingZero cs then none else Text.natural? 10 cs

/-- An integer with a minus sign. -/
def negative? : List Char → Option Nat
  -- The prefix of a base may stand behind the sign.
  | '-' :: rest =>
    match based? rest with
    | some n => some n
    | none => if hasLeadingZero rest then none else Text.natural? 10 rest
  | _ => none

/-- An integer of at most 128 bits. -/
def integer? (cs : List Char) : Option Meaning :=
  -- An integer beyond 64 bits is still known to be one, up to 128.
  match unsigned? cs with
  | some n =>
    if Decimal.fitsUnsigned 64 n then some (.integer n)
    else if Decimal.fitsUnsigned 128 n then some .wideInteger
    else none
  | none =>
    match negative? cs with
    | some n =>
      if Decimal.fitsSigned 64 (-(n : Int)) then some (.integer (-(n : Int)))
      else if Decimal.fitsSigned 128 (-(n : Int)) then some .wideInteger
      else none
    | none => none

/-- An integer of 64 bits with a sign, in any of the ways to write one. -/
def signed? (cs : List Char) : Option Int :=
  -- Both ways to write an integer share one range.
  match unsigned? cs with
  | some n => if Decimal.fitsSigned 64 n then some n else none
  | none =>
    match negative? cs with
    | some n => if Decimal.fitsSigned 64 (-(n : Int)) then some (-(n : Int)) else none
    | none => none

/-- The double nearest to digits with a point after some of them, times a power of ten. -/
def nearest (negative : Bool) (whole fraction : List Char) (exponent : Int) : Option Binary64 :=
  let digits := (whole ++ fraction).dropWhile (· == '0')
  let n := digits.foldl (fun n c => n * 10 + (c.toNat - 48)) 0
  let shift : Int := exponent - fraction.length
  if n == 0 then some (Binary64.zero negative)
  -- Far outside the range of doubles no power has to be computed.
  else if shift + digits.length > 400 then none
  else if shift + digits.length < -400 then some (Binary64.zero negative)
  else if shift < 0 then Binary64.ofRatio negative n (Nat.pow 10 shift.natAbs)
  else Binary64.ofRatio negative (n * Nat.pow 10 shift.natAbs) 1

/-- A finite double in decimal digits with an optional point and an optional exponent. -/
def finite? (cs : List Char) : Option Binary64 := do
  -- There must be a digit before the point or behind it.
  let (negative, cs) := match cs with
    | '-' :: rest => (true, rest)
    | '+' :: rest => (false, rest)
    | cs => (false, cs)
  let whole := cs.takeWhile Text.isDigit
  let rest := cs.dropWhile Text.isDigit
  let (fraction, rest) := match rest with
    | '.' :: rest => (rest.takeWhile Text.isDigit, rest.dropWhile Text.isDigit)
    | rest => ([], rest)
  if whole.isEmpty && fraction.isEmpty then none
  match rest with
  | [] => nearest negative whole fraction 0
  | e :: rest =>
    if e != 'e' && e != 'E' then none
    let (down, ds) := match rest with
      | '-' :: rest => (true, rest)
      | '+' :: rest => (false, rest)
      | rest => (false, rest)
    let power ← Text.natural? 10 ds
    nearest negative whole fraction (if down then -(power : Int) else power)

/-- A double, finite or not. -/
def real? (cs : List Char) : Option (Option Binary64) :=
  -- A plus sign may stand in front of infinity, but a minus sign may not follow it.
  match afterPlus cs with
  | none => none
  | some rest =>
    if rest == ".inf".toList || rest == ".Inf".toList || rest == ".INF".toList then some none
    else if cs == "-.inf".toList || cs == "-.Inf".toList || cs == "-.INF".toList then some none
    else if cs == ".nan".toList || cs == ".NaN".toList || cs == ".NAN".toList then some none
    else (finite? rest).map some

/-- The value that a plain scalar without a tag stands for. -/
def ofPlain (text : String) : Meaning :=
  -- Null and truth values come before numbers, and texts are what is left.
  let cs := text.toList
  if cs.isEmpty || isNull cs then .null
  else match truth? cs with
  | some b => .bool b
  | none =>
    match integer? cs with
    | some m => m
    | none =>
      if hasLeadingZero cs then .text text
      else match real? cs with
      | some x => .real x
      | none => .text text

end Meaning

namespace Scalar

/-- The front part of the tags of the core schema. -/
def coreTag (name : String) : String :=
  "tag:yaml.org,2002:" ++ name

/-- The name in a tag of the document's own. -/
def localTag? (tag : Option String) : Option String :=
  -- A single mark is a name of its own.
  match tag.map String.toList with
  | some ['!'] => some "!"
  | some ('!' :: rest) => some (String.ofList rest)
  | _ => none

/-- The value that a scalar stands for; under a tag of the core schema it has to be one of its kind. -/
def meaning (s : Scalar) : Except Fault Meaning :=
  -- A tag of the core schema asks for one kind of value; a tag of another one asks for nothing.
  let cs := s.text.toList
  let orFault : Option Meaning → Except Fault Meaning
    | some m => .ok m
    | none => .error .other
  match s.tag with
  | none => .ok (if s.plain then Meaning.ofPlain s.text else .text s.text)
  | some tag =>
    if tag == coreTag "bool" then orFault ((Meaning.truth? cs).map .bool)
    else if tag == coreTag "int" then orFault (Meaning.integer? cs)
    else if tag == coreTag "float" then orFault ((Meaning.real? cs).map .real)
    else if tag == coreTag "null" then
      if Meaning.isNull cs then .ok .null else .error .other
    else if tag.toList.head? == some '!' && s.plain then .ok (Meaning.ofPlain s.text)
    else .ok (.text s.text)

/-- The fault of a scalar where something else is wanted. -/
def mismatch (s : Scalar) : Fault :=
  -- A scalar whose tag it does not fit has a fault before its shape can be looked at.
  match s.meaning with
  | .ok _ => .invalidType
  | .error f => f

/-- A plain scalar with nothing in it. -/
def isVoid (s : Scalar) : Bool :=
  s.plain && s.text.isEmpty

end Scalar

end CsiOperator.Yaml
