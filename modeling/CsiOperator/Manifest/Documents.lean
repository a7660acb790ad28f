import CsiOperator.Text.Blank

/-! Texts that hold several documents. -/

namespace CsiOperator.Manifest

/-- The text after a mark, if it begins with it. -/
def afterMark : (mark : List Char) → List Char → Option (List Char)
  | [], cs => some cs
  | m :: ms, c :: cs => if m == c then afterMark ms cs else none
  | _ :: _, [] => none

/-- The line break and the hyphens between documents. -/
def separator : List Char :=
  ['\n', '-', '-', '-']

/-- The pieces of a text between separators; `skip` characters of one are still to be passed over. -/
def pieces : (skip : Nat) → List Char → List (List Char)
  -- A separator is passed over character by character, so each step takes one from the text.
  | _, [] => [[]]
  | skip + 1, _ :: rest => pieces skip rest
  | 0, c :: rest =>
    if (afterMark separator (c :: rest)).isSome then [] :: pieces (separator.length - 1) rest
    else match pieces 0 rest with
      | [] => [[c]]
      | piece :: more => (c :: piece) :: more

/-- A line that is neither blank nor a comment. -/
def isContent (line : List Char) : Bool :=
  -- Blanks in front of a comment do not make it content.
  match Text.trimChars line with
  | [] => false
  | c :: _ => c != '#'

/-- A document with at least one line of content. -/
def hasContent (document : List Char) : Bool :=
  (Text.splitAt '\n' document).any isContent

/-- The documents of a text, without the blanks around them; those without content are left out. -/
def documents (text : String) : List String :=
  (((pieces 0 text.toList).map Text.trimChars).filter hasContent).map String.ofList

end CsiOperator.Manifest
