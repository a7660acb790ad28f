import CsiOperator.Decimal.Binary64
import CsiOperator.Text.Numeral

/-! The shortest decimal that reads back as a given double. -/

namespace CsiOperator.Decimal

/-- A decimal worth `digits * 10 ^ exponent`. -/
structure Scaled where
  /-- The digits as one natural. -/
  digits : Nat
  /-- The power of ten of the last digit. -/
  exponent : Int
  deriving DecidableEq, Repr

/-- The power of ten of the leading digit of a positive ratio below one. -/
def leadingBelowOne (num den : Nat) : Nat → Nat
  -- Each zero behind the point moves the leading digit by one place.
  | 0 => 0
  | fuel + 1 => if den ≤ num then 0 else leadingBelowOne (num * 10) den fuel + 1

/-- The power of ten of the leading digit of a positive ratio. -/
def leadingPower (num den : Nat) : Int :=
  -- A double is never as small as ten to the power of -400, so the search below one ends.
  if den ≤ num then ((Text.digits 10 (num / den)).length : Int) - 1
  else -(leadingBelowOne num den 400 : Int)

/-- A decimal without trailing zeros. -/
def Scaled.trimmed (digits : Nat) (exponent : Int) : Nat → Scaled
  -- A zero at the end goes into the exponent.
  | 0 => ⟨digits, exponent⟩
  | fuel + 1 =>
    if digits != 0 && digits % 10 == 0 then trimmed (digits / 10) (exponent + 1) fuel
    else ⟨digits, exponent⟩

/-- Whether a decimal reads back as a double: it lies between the midpoints to its neighbours. -/
def readsBack (x : Binary64) (d : Scaled) : Bool :=
  let m := x.significand
  -- All bounds are in units of a quarter of the last binary place.
  let high := 4 * m + 2
  let low := if m == wordBound 52 && x.exponent > -1074 then 4 * m - 1 else 4 * m - 2
  let scale (n : Nat) (e : Int) (base : Nat) : Nat := if e < 0 then n else n * Nat.pow base e.natAbs
  let value := 4 * scale (scale d.digits d.exponent 10) (-x.exponent) 2
  let unit (n : Nat) : Nat := scale (scale n x.exponent 2) (-d.exponent) 10
  if m % 2 == 0 then unit low ≤ value && value ≤ unit high
  else unit low < value && value < unit high

/-- The two neighbours of a positive ratio among the multiples of a power of ten, nearer first. -/
def neighbours (num den : Nat) (power : Int) : List Scaled :=
  -- Both neighbours are multiples of the same power, one just below and one just above.
  let scale := Nat.pow 10 power.natAbs
  let (a, b) := if power < 0 then (num * scale, den) else (num, den * scale)
  let q := a / b
  let below : Scaled := ⟨q, power⟩
  let above : Scaled := ⟨q + 1, power⟩
  if 2 * (a % b) < b || (2 * (a % b) == b && q % 2 == 0) then [below, above] else [above, below]

/-- The first decimal, by number of digits, that reads back as a positive double. -/
def shortestFrom (x : Binary64) (num den : Nat) (power : Int) : Nat → Scaled
  -- One more digit is tried each time, and seventeen of them are always enough.
  | 0 => ⟨num, power⟩
  | fuel + 1 =>
    match (neighbours num den power).find? (readsBack x) with
    | some d => Scaled.trimmed d.digits d.exponent 400
    | none => shortestFrom x num den (power - 1) fuel

/-- The decimal with the fewest digits that reads back as a non-zero double. -/
def shortest (x : Binary64) : Scaled :=
  -- The search begins with one digit, at the place of the leading one.
  let (num, den) := x.ratio
  shortestFrom x num den (leadingPower num den) 20

/-- A double in its shortest form: positional from five zeros after the point to sixteen digits before it. -/
def Binary64.text (x : Binary64) : String :=
  -- Zero has no leading digit, so it is written by itself.
  let sign := if x.negative then "-" else ""
  if x.significand == 0 then sign ++ "0.0" else
  let d := shortest x
  let ds := (Text.decimal d.digits).toList
  let n := ds.length
  let point : Int := n + d.exponent
  let body : List Char :=
    if 0 ≤ d.exponent && point ≤ 16 then ds ++ List.replicate d.exponent.natAbs '0' ++ ['.', '0']
    else if 0 < point && point ≤ 16 then ds.take point.natAbs ++ '.' :: ds.drop point.natAbs
    else if -5 < point && point ≤ 0 then '0' :: '.' :: List.replicate point.natAbs '0' ++ ds
    else
      let tail := if n == 1 then [] else '.' :: ds.drop 1
      ds.take 1 ++ tail ++ 'e' :: (Text.signed (point - 1)).toList
  sign ++ String.ofList body

end CsiOperator.Decimal
