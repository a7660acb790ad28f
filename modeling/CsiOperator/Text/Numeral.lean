/-! Numerals: naturals and integers as digits, and digits as naturals. -/

namespace CsiOperator.Text

/-- The digit of a value below sixteen, in lower case. -/
def digitChar (n : Nat) : Char :=
  if n < 10 then Char.ofNat (48 + n) else Char.ofNat (87 + n)

/-- The digits of a natural in a base of at least two, most significant first. -/
def digits (base : Nat) (n : Nat) : List Nat :=
  -- A base below two has no digits, and any number stands for itself then.
  if _h : n < base ∨ base < 2 then [n]
  else digits base (n / base) ++ [n % base]
termination_by n
decreasing_by
  have : base ≤ n ∧ 2 ≤ base := by omega
  exact Nat.div_lt_self (by omega) (by omega)

/-- A natural in decimal digits. -/
def decimal (n : Nat) : String :=
  String.ofList ((digits 10 n).map digitChar)

/-- A natural in lower-case hexadecimal digits. -/
def hexadecimal (n : Nat) : String :=
  String.ofList ((digits 16 n).map digitChar)

/-- An integer in decimal digits, after a minus sign when it is negative. -/
def signed (n : Int) : String :=
  if n < 0 then "-" ++ decimal n.natAbs else decimal n.natAbs

/-- Leading zeros up to a width. -/
def padded (width : Nat) (text : String) : String :=
  String.ofList (List.replicate (width - text.length) '0') ++ text

/-- The value of a digit character in bases up to sixteen. -/
def digitValue? (c : Char) : Option Nat :=
  -- Lower and upper case are taken for the same digit.
  let n := c.toNat
  if 48 ≤ n && n ≤ 57 then some (n - 48)
  else if 97 ≤ n && n ≤ 102 then some (n - 87)
  else if 65 ≤ n && n ≤ 70 then some (n - 55)
  else none

/-- The digit values of a text in a base, if every character is a digit of it. -/
def digitValues? (base : Nat) : List Char → Option (List Nat)
  -- One character that is no digit of the base makes the whole text none.
  | [] => some []
  | c :: rest => do
    let d ← digitValue? c
    if d < base then return d :: (← digitValues? base rest) else none

/-- The natural that digits denote, most significant first. -/
def ofDigits (base : Nat) (ds : List Nat) : Nat :=
  ds.foldl (fun n d => base * n + d) 0

/-- The natural that a non-empty text of digits denotes. -/
def natural? (base : Nat) (cs : List Char) : Option Nat :=
  if cs.isEmpty then none else (digitValues? base cs).map (ofDigits base)

/-- A decimal digit of ASCII. -/
def isDigit (c : Char) : Bool :=
  48 ≤ c.toNat && c.toNat ≤ 57

end CsiOperator.Text
