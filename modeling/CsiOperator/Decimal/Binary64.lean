import CsiOperator.Decimal.Width

/-! Finite binary floating-point numbers of double precision, and correct rounding to them. -/

namespace CsiOperator.Decimal

/-- A finite double, worth `significand * 2 ^ exponent` up to its sign. -/
structure Binary64 where
  /-- Zero keeps its sign too. -/
  negative : Bool
  /-- A significand below `2 ^ 53`. -/
  significand : Nat
  /-- An exponent from -1074 to 971. -/
  exponent : Int
  deriving DecidableEq, Repr, Inhabited

namespace Binary64

/-- Zero with a sign. -/
def zero (negative : Bool) : Binary64 :=
  ⟨negative, 0, -1074⟩

/-- The quotient of two naturals, rounded to the nearest natural and to the even one of two. -/
def roundQuotient (num den : Nat) : Nat :=
  -- The remainder tells which of the two neighbours is nearer, and a tie goes to the even one.
  let q := num / den
  let r := num % den
  if 2 * r < den then q
  else if 2 * r == den && q % 2 == 0 then q
  else q + 1

/-- The double nearest to a ratio of naturals, or nothing when its magnitude is out of range. -/
def ofRatio (negative : Bool) (num den : Nat) : Option Binary64 :=
  if num == 0 then some (zero negative) else
  -- The exponent that leaves fifty-three bits before the point, or the least one there is.
  let guess : Int := (Nat.log2 num : Int) - (Nat.log2 den : Int) - 52
  let scaled (e : Int) : Nat × Nat :=
    if e < 0 then (num * Nat.pow 2 e.natAbs, den) else (num, den * Nat.pow 2 e.natAbs)
  let guess := if (scaled guess).1 < (scaled guess).2 * wordBound 52 then guess - 1 else guess
  let e := max guess (-1074)
  let m := roundQuotient (scaled e).1 (scaled e).2
  let (m, e) := if m == wordBound 53 then (wordBound 52, e + 1) else (m, e)
  if e > 971 then none else some ⟨negative, m, e⟩

/-- The magnitude of a double as a ratio of naturals. -/
def ratio (x : Binary64) : Nat × Nat :=
  -- A negative exponent divides by the power instead.
  if x.exponent < 0 then (x.significand, Nat.pow 2 x.exponent.natAbs)
  else (x.significand * Nat.pow 2 x.exponent.natAbs, 1)

/-- A double times a power of ten that is itself rounded first, for exponents up to 308. -/
def scaleTen (x : Binary64) (exponent : Int) : Option Binary64 := do
  -- Rounding the power first loses a digit now and then, which is how numbers are read.
  let power ← ofRatio false (Nat.pow 10 exponent.natAbs) 1
  let (a, b) := x.ratio
  let (c, d) := power.ratio
  if exponent < 0 then ofRatio x.negative (a * d) (b * c) else ofRatio x.negative (a * c) (b * d)

end Binary64

end CsiOperator.Decimal
