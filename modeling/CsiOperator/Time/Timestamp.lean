import CsiOperator.Text.Blank
import CsiOperator.Text.Numeral
import CsiOperator.Time.Calendar

/-! Instants, read from relaxed RFC 3339 text with any offset and written in UTC. -/

namespace CsiOperator.Time

/-- An instant in UTC. -/
structure Timestamp where
  /-- Whole seconds since 1970-01-01T00:00:00Z. -/
  seconds : Int
  /-- Nanoseconds into the second; from a thousand million on they lie in a leap second. -/
  nanos : Nat
  deriving DecidableEq, Repr, Inhabited

namespace Timestamp

/-- The first second of the years that can be represented. -/
def minSeconds : Int := Date.toDays ⟨-262143, 1, 1⟩ * 86400

/-- The last second of the years that can be represented. -/
def maxSeconds : Int := Date.toDays ⟨262143, 1, 1⟩ * 86400 - 1

/-- The text after its leading blanks. -/
def dropBlanks (cs : List Char) : List Char :=
  cs.dropWhile Text.isBlank

/-- The value of decimal digits. -/
def valueOf (ds : List Char) : Nat :=
  ds.foldl (fun n c => n * 10 + (c.toNat - 48)) 0

/-- A number of one to `width` digits after blanks. -/
def number (width : Nat) (cs : List Char) : Option (Nat × List Char) :=
  -- At most `width` digits are taken, even if more of them follow.
  let cs := dropBlanks cs
  let ds := (cs.take width).takeWhile Text.isDigit
  if ds.isEmpty then none else some (valueOf ds, cs.drop ds.length)

/-- The text after a mark that blanks may precede. -/
def mark (c : Char) (cs : List Char) : Option (List Char) :=
  -- Blanks before a mark count for nothing.
  match dropBlanks cs with
  | d :: rest => if c == d then some rest else none
  | [] => none

/-- A year of up to four digits, or of any number of digits after a sign. -/
def readYear (cs : List Char) : Option (Int × List Char) :=
  -- A sign allows for any number of digits, which four could not hold.
  match dropBlanks cs with
  | '-' :: rest => signedYear (-1) rest
  | '+' :: rest => signedYear 1 rest
  | rest => (number 4 rest).map fun (n, rest) => ((n : Int), rest)
where
  /-- The digits follow the sign at once. -/
  signedYear (sign : Int) (rest : List Char) : Option (Int × List Char) :=
    let ds := rest.takeWhile Text.isDigit
    if ds.isEmpty then none else some (sign * valueOf ds, rest.drop ds.length)

/-- Nanoseconds after a point, if there is one; digits past the ninth are dropped. -/
def readFraction : List Char → Option (Nat × List Char)
  -- Digits after the ninth are passed over rather than rounded.
  | '.' :: rest =>
    let ds := rest.takeWhile Text.isDigit
    if ds.isEmpty then none
    else some (valueOf (ds.take 9) * Nat.pow 10 (9 - ds.length), rest.drop ds.length)
  | rest => some (0, rest)

/-- An offset from UTC in seconds. -/
def readOffset (cs : List Char) : Option (Int × List Char) :=
  -- A minus may be written as a hyphen or as the sign of that name.
  match cs with
  | 'Z' :: rest => some (0, rest)
  | 'z' :: rest => some (0, rest)
  | '+' :: rest => hoursMinutes 1 rest
  | '-' :: rest => hoursMinutes (-1) rest
  | '\u2212' :: rest => hoursMinutes (-1) rest
  | u :: t :: c :: rest =>
    if u.toUpper == 'U' && t.toUpper == 'T' && c.toUpper == 'C' then some (0, rest) else none
  | _ => none
where
  /-- Two digits of hours and two of minutes, with colons or blanks between. -/
  hoursMinutes (sign : Int) (cs : List Char) : Option (Int × List Char) :=
    match cs with
    | a :: b :: rest =>
      if Text.isDigit a && Text.isDigit b then
        match rest.dropWhile (fun c => c == ':' || Text.isBlank c) with
        | c :: d :: rest =>
          let hours := valueOf [a, b]
          let minutes := valueOf [c, d]
          if Text.isDigit c && Text.isDigit d && minutes ≤ 59 && hours ≤ 23 then
            some (sign * (hours * 3600 + minutes * 60 : Nat), rest)
          else none
        | _ => none
      else none
    | _ => none

/-- The instant that a text denotes. -/
def ofText? (text : String) : Option Timestamp := do
  let (year, cs) ← readYear text.toList
  let cs ← mark '-' cs
  let (month, cs) ← number 2 cs
  let cs ← mark '-' cs
  let (day, cs) ← number 2 cs
  let cs ← match cs with
    | 'T' :: rest => some rest
    | 't' :: rest => some rest
    | ' ' :: rest => some rest
    | _ => none
  let (hour, cs) ← number 2 cs
  let cs ← mark ':' cs
  let (minute, cs) ← number 2 cs
  let cs ← mark ':' cs
  let (second, cs) ← number 2 cs
  let (nanos, cs) ← readFraction cs
  let (offset, cs) ← readOffset (dropBlanks cs)
  guard (dropBlanks cs).isEmpty
  guard (Date.exists ⟨year, month, day⟩ && hour ≤ 23 && minute ≤ 59 && second ≤ 60)
  guard (-262143 ≤ year && year ≤ 262142)
  -- The sixtieth second is a leap second: it belongs to the second before it.
  let leap := second == 60
  let clock : Nat := hour * 3600 + minute * 60 + (if leap then 59 else second)
  let seconds := Date.toDays ⟨year, month, day⟩ * 86400 + clock - offset
  guard (minSeconds ≤ seconds && seconds ≤ maxSeconds)
  return ⟨seconds, if leap then nanos + 1000000000 else nanos⟩

/-- A year in four digits, with a sign outside the years 0 to 9999. -/
def yearText (year : Int) : String :=
  -- Four digits are enough without a sign for ten thousand years.
  let digits := Text.padded 4 (Text.decimal year.natAbs)
  if 0 ≤ year && year ≤ 9999 then digits
  else if year < 0 then "-" ++ digits
  else "+" ++ digits

/-- A fraction in as few groups of three digits as it needs. -/
def fractionText (nanos : Nat) : String :=
  -- Thousandths, millionths and billionths are the three lengths that are written.
  if nanos == 0 then ""
  else if nanos % 1000000 == 0 then "." ++ Text.padded 3 (Text.decimal (nanos / 1000000))
  else if nanos % 1000 == 0 then "." ++ Text.padded 6 (Text.decimal (nanos / 1000))
  else "." ++ Text.padded 9 (Text.decimal nanos)

/-- An instant in UTC as RFC 3339 text. -/
def text (t : Timestamp) : String :=
  -- A leap second is held as a fraction beyond the second, and is written as second 60.
  let date := Date.ofDays (t.seconds / 86400)
  let clock := (t.seconds % 86400).toNat
  let leap := 1000000000 ≤ t.nanos
  let two (n : Nat) : String := Text.padded 2 (Text.decimal n)
  yearText date.year ++ "-" ++ two date.month ++ "-" ++ two date.day ++ "T" ++
    two (clock / 3600) ++ ":" ++ two (clock / 60 % 60) ++ ":" ++
    two (clock % 60 + if leap then 1 else 0) ++
    fractionText (if leap then t.nanos - 1000000000 else t.nanos) ++ "Z"

end Timestamp

end CsiOperator.Time
