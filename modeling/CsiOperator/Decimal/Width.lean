/-! The ranges of whole numbers that a given count of bits holds. -/

namespace CsiOperator.Decimal

/-- The least natural number that needs more than the given bits. -/
def wordBound (bits : Nat) : Nat :=
  Nat.pow 2 bits

/-- Whether a natural number fits the given bits. -/
def fitsUnsigned (bits n : Nat) : Bool :=
  n < wordBound bits

/-- Whether an integer fits the given bits and a sign in one of them. -/
def fitsSigned (bits : Nat) (n : Int) : Bool :=
  -(wordBound (bits - 1) : Int) ≤ n && n < wordBound (bits - 1)

end CsiOperator.Decimal
