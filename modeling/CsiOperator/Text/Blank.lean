/-! Blank characters, and cutting texts at them. -/

namespace CsiOperator.Text

/-- The characters with the Unicode property White_Space. -/
def isBlank (c : Char) : Bool :=
  -- Unicode has 25 of them, five of which stand in a row at the beginning.
  let n := c.toNat
  (0x9 ≤ n && n ≤ 0xD) || n == 0x20 || n == 0x85 || n == 0xA0 || n == 0x1680 ||
    (0x2000 ≤ n && n ≤ 0x200A) || n == 0x2028 || n == 0x2029 || n == 0x202F || n == 0x205F ||
    n == 0x3000

/-- The characters without the blanks at either end. -/
def trimChars (cs : List Char) : List Char :=
  ((cs.dropWhile isBlank).reverse.dropWhile isBlank).reverse

/-- A text without the blanks at either end. -/
def trim (s : String) : String :=
  String.ofList (trimChars s.toList)

/-- A text is blank when trimming leaves nothing of it. -/
def isBlankText (s : String) : Bool :=
  s.toList.all isBlank

/-- The pieces of a list between the elements equal to `mark`; there is always at least one. -/
def splitAt {α : Type} [BEq α] (mark : α) : List α → List (List α)
  -- A list without any mark is one piece, even if it is empty.
  | [] => [[]]
  | x :: rest =>
    if x == mark then [] :: splitAt mark rest
    else match splitAt mark rest with
      | [] => [[x]]
      | piece :: pieces => (x :: piece) :: pieces

/-- The rest of a list after its first element equal to `mark`, together with what stands before. -/
def splitFirst {α : Type} [BEq α] (mark : α) : List α → Option (List α × List α)
  -- Only the first mark parts the list; later ones stay in the second part.
  | [] => none
  | x :: rest =>
    if x == mark then some ([], rest)
    else (splitFirst mark rest).map fun (before, after) => (x :: before, after)

end CsiOperator.Text
