import CsiOperator.Text.Numeral
import CsiOperator.Text.Visible

/-! Quoted texts in diagnostics: nothing invisible stays unescaped. -/

namespace CsiOperator.Text

/-- A character as it stands between the quotes of a diagnostic. -/
def quotedChar (c : Char) : String :=
  -- A few characters have short names; others are told by number when they cannot be seen.
  match c with
  | '"' => "\\\""
  | '\\' => "\\\\"
  | '\n' => "\\n"
  | '\t' => "\\t"
  | '\r' => "\\r"
  | '\x00' => "\\0"
  | c =>
    if isVisible c && !isCombining c then String.singleton c
    else "\\u\x7b" ++ hexadecimal c.toNat ++ "\x7d"

/-- A text between double quotes, as diagnostics show it. -/
def quoted (s : String) : String :=
  "\"" ++ String.join (s.toList.map quotedChar) ++ "\""

/-- A list of quoted texts between brackets. -/
def quotedList (texts : List String) : String :=
  "[" ++ String.intercalate ", " (texts.map quoted) ++ "]"

/-- An absent text is the word None, a present one is quoted after the word Some. -/
def quotedOption : Option String → String
  -- Absence is a word without quotes, so it cannot be taken for a text.
  | none => "None"
  | some s => "Some(" ++ quoted s ++ ")"

end CsiOperator.Text
